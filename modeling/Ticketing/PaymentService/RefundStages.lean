import Ticketing.Async.Monitor
import Ticketing.PaymentService.Sound

/-!
# How far a refund has got

Library `PaymentService`. A call of `refundByBooking` finds a payment, then looks up its key,
then calls the gateway at most once, and saves the payment only after the gateway accepted.
-/

namespace Ticketing.PaymentService

open Async Store

/-- The payment that a lookup finds to refund. -/
def Op.finds : (o : Op) → sig.Answer o → Option Payment
  | .findSucceeded _, .ok found => found
  | _, _ => none

/-- The refund that a lookup finds under a key. -/
def Op.findsRefund : (o : Op) → sig.Answer o → Option Refund
  | .findRefundByKey _, .ok found => found
  | _, _ => none

/-- How far a thread has got with a refund. -/
inductive Stage where
  | start
  | found (payment : Payment)
  | existing (payment : Payment) (refund : Refund)
  | fresh (payment : Payment)
  | accepted (payment : Payment)
  | over

namespace Stage

/-- The payment that the thread has found and may still refund. -/
def pending : Stage → Option Payment
  | .found p | .fresh p | .accepted p => some p
  | _ => none

/-- What an operation tells about the refund. -/
def next : Stage → (o : Op) → sig.Answer o → Stage
  | .start, .findSucceeded _, .ok (some p) => .found p
  | .start, .findSucceeded _, _ => .over
  | .found p, .findRefundByKey _, .ok none => .fresh p
  | .found p, .findRefundByKey _, .ok (some r) => .existing p r
  | .found _, .findRefundByKey _, .error _ => .over
  | .fresh _, .insertRefund _, .error _ => .over
  | .fresh p, .refund _ _ _, .ok response => if response.success then .accepted p else .over
  | .fresh _, .refund _ _ _, .error _ => .over
  | .fresh _, .saveRefund _, _ => .over
  | .accepted _, .saveRefund _, .error _ => .over
  | .accepted _, .save _, _ => .over
  | stage, _, _ => stage

/-- A refund goes by the arguments of its job; the gateway is called for the payment that was
found, and only a payment that was refunded is saved as refunded. -/
def may (job : Job) : Stage → Op → Prop
  | stage, .findSucceeded b =>
    stage = .start ∧ ∃ key reason, job.request = .refundPayment b key reason
  | stage, .findRefundByKey key =>
    (∃ p, stage = .found p) ∧ ∃ b reason, job.request = .refundPayment b key reason
  | stage, .refund _ txId amount =>
    ∃ p, stage = .fresh p ∧ txId = p.providerTxId.getD "" ∧ amount = p.amount
  | stage, .save q =>
    stage = .start ∧ q.status ≠ .refunded ∨
      ∃ p, stage = .accepted p ∧ q.order = p.order ∧ q.status = .refunded
  | _, _ => True

end Stage

/-- How far each thread has got. -/
def stages (provider : String) : Monitor (service provider) Stage where
  init := .start
  next := Stage.next
  may := Stage.may

/-- A refund that is found under its key is the reply. -/
def Replies (job : Job) (answer : Except Exception Reply) (s : Stage) : Prop :=
  ∀ b key reason, job.request = .refundPayment b key reason → s = .over ∨ ∃ p r, s = .existing p r ∧
    answer = .ok (.refund (r.status = .processed) (some r.id) (r.failureReason.getD ""))

variable {provider : String} {j : Job} {L : Type}

/-- Operations that tell nothing about refunds. -/
def Op.aside : Op → Bool
  | .findByKey _ | .insert _ | .charge _ _ | .emit _ | .now => true
  | _ => false

/-- Operations of other kinds are quiet. -/
theorem quiet_of_aside {o : Op} (h : o.aside = true) : (stages provider).Quiet j o := by
  intro s
  constructor
  · cases o <;> trivial
  · intro r
    cases o <;> cases s <;> first | rfl | cases h

private theorem gateway_stages (name : String) {I : L → Stage → Prop}
    {E : Exception → L → Stage → Prop} (fail : ∀ e l s, I l s → E e l s) :
    (stages provider).Holds j I (getByProvider name) (fun _ ↦ I) E := by
  unfold getByProvider
  split
  · exact Monitor.Holds.ret _ fun _ _ h ↦ h
  · split
    · exact Monitor.Holds.ret _ fun _ _ h ↦ h
    · exact Monitor.Holds.raise _ fun l s h ↦ fail _ l s h

/-! ### `initiatePayment` -/

/-- The thread has not looked for a payment to refund. -/
abbrev Started (s : Stage) : Prop := s = .start

private theorem update_stages {f : Payment → Payment} (hf : ∀ q, (f q).status ≠ .refunded)
    {rest : Code sig Payment Unit}
    (hr : (stages provider).Keeps j (fun _ ↦ Started) rest) :
    (stages provider).Keeps j (fun _ ↦ Started)
      (do
        PaymentService.assign f
        PaymentService.await (.save (← PaymentService.entity))
        rest) := by
  apply Monitor.Holds.bind (I := fun _ l s ↦ l.status ≠ .refunded ∧ Started s)
  · exact Monitor.Holds.assign f fun l s h ↦ ⟨hf l, h⟩
  intro _
  apply Monitor.Holds.read
  intro x
  apply Monitor.Holds.bind (I := fun _ _ ↦ Started)
  · apply Monitor.Holds.await
    · rintro l s ⟨rfl, hst, hs⟩
      exact .inl ⟨hs, hst⟩
    · rintro _ l s - ⟨-, -, rfl⟩
      rfl
    · rintro _ l s - ⟨-, -, rfl⟩
      rfl
  exact fun _ ↦ hr

private theorem settle_stages {f : Payment → Payment} (hf : ∀ q, (f q).status ≠ .refunded)
    (event : Payment → Emission) :
    (stages provider).Keeps j (fun _ ↦ Started)
      (do
        PaymentService.assign f
        PaymentService.await (.save (← PaymentService.entity))
        PaymentService.await (.emit (event (← PaymentService.entity))) :
          Code sig Payment Unit) := by
  apply update_stages hf
  apply Monitor.Holds.skip
  exact fun x ↦ Monitor.Holds.quiet (quiet_of_aside rfl)

private theorem initiatePayment_stages (dto : InitiatePaymentRequest) :
    (stages provider).Keeps j (fun (_ : Unit) ↦ Started) (initiatePayment provider dto) := by
  have aside : ∀ {L : Type} {o : Op}, o.aside = true → (stages provider).Keeps j
      (fun (_ : L) ↦ Started) (PaymentService.await o : Code sig L (Res o)) :=
    fun h ↦ Monitor.Holds.quiet (quiet_of_aside h)
  have charge : (stages provider).Keeps j (fun (_ : Payment) ↦ Started) (chargePayment dto) := by
    unfold chargePayment
    apply update_stages (fun _ ↦ by simp)
    apply Monitor.Holds.skip
    intro x
    apply Monitor.Holds.bind (aside rfl)
    intro response
    dsimp only
    split
    · apply Monitor.Holds.bind (aside rfl)
      exact fun now ↦ settle_stages (fun _ ↦ by simp) _
    · exact settle_stages (fun _ ↦ by simp) _
  have fail : ∀ error, (stages provider).Keeps j (fun (_ : Payment) ↦ Started)
      (failPayment error) := by
    intro error
    unfold failPayment
    apply update_stages (fun _ ↦ by simp)
    apply Monitor.Holds.skip
    intro x
    apply Monitor.Holds.bind (aside rfl)
    exact fun _ ↦ Monitor.Holds.raise _ fun _ _ h ↦ h
  unfold initiatePayment
  apply Monitor.Holds.bind (aside rfl)
  intro found
  cases found with
  | some existing => exact Monitor.Holds.ret _ fun _ _ h ↦ h
  | none =>
    apply Monitor.Holds.bind (I := fun _ _ ↦ Started)
    · unfold selectGateway
      split
      · exact gateway_stages _ fun _ _ _ h ↦ h
      · exact gateway_stages _ fun _ _ _ h ↦ h
    intro gateway
    apply Monitor.Holds.bind (aside rfl)
    intro saved
    apply Monitor.Holds.on
    intro _
    apply Monitor.Holds.pre (P := fun _ ↦ Started) _ fun _ _ h ↦ h.2
    apply Monitor.Holds.bind (Monitor.Holds.tryCatch charge fail)
    exact fun _ ↦ Monitor.Holds.skip fun x ↦ Monitor.Holds.ret x fun _ _ h ↦ h

/-! ### `refundByBooking` -/

private theorem sendRefund_stages (p : Payment) :
    (stages provider).Holds j (fun l s ↦ l.payment = p ∧ s = .fresh p) sendRefund
      (fun _ _ s ↦ s = .over) (fun _ _ s ↦ s = .fresh p ∨ s = .over) := by
  unfold sendRefund
  apply Monitor.Holds.skip
  intro m
  apply Monitor.Holds.bind (I := fun _ l s ↦ l.payment = p ∧ s = .fresh p)
  · exact gateway_stages _ fun _ _ _ h ↦ .inl h.2
  intro gateway
  apply Monitor.Holds.read
  intro m
  apply Monitor.Holds.read
  intro m'
  apply Monitor.Holds.bind
    (I := fun response l s ↦ l.payment = p ∧ s = if response.success then .accepted p else .over)
  · apply Monitor.Holds.await
    · rintro l s ⟨rfl, rfl, rfl, rfl⟩
      exact ⟨_, rfl, rfl, rfl⟩
    · rintro response l s - ⟨rfl, rfl, hp, rfl⟩
      exact ⟨hp, rfl⟩
    · rintro e l s - ⟨rfl, rfl, hp, rfl⟩
      exact .inr rfl
  intro response
  dsimp only
  split
  · apply Monitor.Holds.bind (I := fun _ l s ↦ l.payment = p ∧ s = .accepted p)
    · apply Monitor.Holds.assign
      rintro l s ⟨rfl, rfl⟩
      exact ⟨rfl, rfl⟩
    intro _
    apply Monitor.Holds.skip
    intro m
    apply Monitor.Holds.bind (I := fun _ l s ↦ l.payment = p ∧ s = .accepted p)
    · apply Monitor.Holds.await
      · exact fun _ _ _ ↦ trivial
      · rintro _ l s - ⟨rfl, rfl⟩
        exact ⟨rfl, rfl⟩
      · rintro e l s - ⟨-, rfl⟩
        exact .inr rfl
    intro _
    apply Monitor.Holds.bind
      (I := fun _ l s ↦
        (l.payment.order = p.order ∧ l.payment.status = .refunded) ∧ s = .accepted p)
    · apply Monitor.Holds.assign
      rintro l s ⟨rfl, rfl⟩
      exact ⟨⟨rfl, rfl⟩, rfl⟩
    intro _
    apply Monitor.Holds.read
    intro m
    apply Monitor.Holds.bind (I := fun _ _ s ↦ s = .over)
    · apply Monitor.Holds.await
      · rintro l s ⟨rfl, ⟨ho, hst⟩, rfl⟩
        exact .inr ⟨p, rfl, ho, hst⟩
      · rintro _ l s - ⟨rfl, -, rfl⟩
        rfl
      · rintro e l s - ⟨rfl, -, rfl⟩
        exact .inr rfl
    intro _
    apply Monitor.Holds.skip
    intro m
    apply Monitor.Holds.skip
    intro m'
    apply (Monitor.Holds.quiet (quiet_of_aside rfl)).post
    · exact fun _ _ _ h ↦ h
    · exact fun _ _ _ h ↦ .inr h
  · apply Monitor.Holds.bind (I := fun _ _ s ↦ s = .over)
    · apply Monitor.Holds.assign
      rintro l s ⟨-, rfl⟩
      rfl
    intro _
    apply Monitor.Holds.skip
    intro m
    apply Monitor.Holds.await
    · exact fun _ _ _ ↦ trivial
    · rintro _ l s - rfl
      rfl
    · rintro e l s - rfl
      exact .inr rfl

private theorem failRefund_stages (p : Payment) (error : Exception)
    {Q : Unit → Refunding → Stage → Prop} :
    (stages provider).Holds j (fun _ s ↦ s = .fresh p ∨ s = .over) (failRefund error) Q
      (fun _ _ s ↦ s = .over) := by
  unfold failRefund
  apply Monitor.Holds.bind (I := fun _ _ s ↦ s = .fresh p ∨ s = .over)
  · exact Monitor.Holds.assign _ fun _ _ h ↦ h
  intro _
  apply Monitor.Holds.skip
  intro m
  apply Monitor.Holds.bind (I := fun _ _ s ↦ s = .over)
  · apply Monitor.Holds.await
    · exact fun _ _ _ ↦ trivial
    · rintro _ l s - (rfl | rfl) <;> rfl
    · rintro _ l s - (rfl | rfl) <;> rfl
  intro _
  exact Monitor.Holds.raise _ fun _ _ h ↦ h

/-- The refund was found under its key, or the call has done what it could. -/
def Concluded (r : Refund) (s : Stage) : Prop := s = .over ∨ ∃ p, s = .existing p r

private theorem refundByBooking_stages {b : Id} {key : String} {reason : String}
    (hj : j.request = .refundPayment b key reason) :
    (stages provider).Holds j (fun (_ : Unit) ↦ Started) (refundByBooking b key (some reason))
      (fun r _ s ↦ Concluded r s) (fun _ _ s ↦ s = .over) := by
  unfold refundByBooking
  apply Monitor.Holds.bind
    (I := fun found _ s ↦ s = found.elim .over .found)
  · apply Monitor.Holds.await
    · exact fun _ s hs ↦ ⟨hs, key, reason, hj⟩
    · rintro found l s - rfl
      cases found <;> rfl
    · rintro e l s - rfl
      rfl
  intro found
  cases found with
  | none => exact Monitor.Holds.raise _ fun _ _ h ↦ h
  | some payment =>
    apply Monitor.Holds.bind
      (I := fun found _ s ↦ s = found.elim (.fresh payment) (.existing payment))
    · apply Monitor.Holds.await
      · rintro l s rfl
        exact ⟨⟨payment, rfl⟩, b, reason, hj⟩
      · rintro found l s - rfl
        cases found <;> rfl
      · rintro e l s - rfl
        rfl
    intro found
    cases found with
    | some existing => exact Monitor.Holds.ret _ fun _ _ h ↦ .inr ⟨payment, h⟩
    | none =>
      apply Monitor.Holds.bind (I := fun _ _ s ↦ s = .fresh payment)
      · apply Monitor.Holds.await
        · exact fun _ _ _ ↦ trivial
        · rintro saved l s - rfl
          rfl
        · rintro e l s - rfl
          rfl
      intro savedRefund
      apply Monitor.Holds.on
      intro _
      apply Monitor.Holds.pre (P := fun l s ↦ l.payment = payment ∧ s = .fresh payment)
      · apply Monitor.Holds.bind (I := fun _ _ s ↦ s = .over)
        · apply Monitor.Holds.tryCatch (sendRefund_stages payment)
          exact fun error ↦ failRefund_stages payment error
        intro _
        apply Monitor.Holds.skip
        intro m
        exact Monitor.Holds.ret _ fun _ _ h ↦ .inl h
      · rintro l s ⟨rfl, rfl⟩
        exact ⟨rfl, rfl⟩

/-! ### Requests -/

/-- Every request goes through the stages of a refund. -/
theorem request_obeys (job : Job) :
    (stages provider).Obeys job ((service provider).code job) (Replies job) .start := by
  suffices h : (stages provider).Holds job (fun (_ : Unit) ↦ Started)
      (handler provider job.request) (fun a _ s ↦ Replies job (.ok a) s)
      fun e _ s ↦ Replies job (.error e) s from
    Monitor.obeys_prog.mpr (h () .start rfl)
  obtain ⟨issuer, request⟩ := job
  have other : ∀ {answer s}, (∀ b key reason, request ≠ .refundPayment b key reason) →
      Replies ⟨issuer, request⟩ answer s :=
    fun hne b key reason hj ↦ absurd hj (hne b key reason)
  cases request with
  | initiatePayment dto =>
    show (stages provider).Holds _ _ (grpcInitiatePayment provider dto) _ _
    unfold grpcInitiatePayment
    apply Monitor.Holds.bind (I := fun _ _ ↦ Started)
    · apply (initiatePayment_stages dto).post
      · exact fun _ _ _ h ↦ h
      · exact fun _ _ _ _ ↦ other fun _ _ _ h ↦ by cases h
    intro payment
    exact Monitor.Holds.ret _ fun _ _ _ ↦ other fun _ _ _ h ↦ by cases h
  | refundPayment b key reason =>
    show (stages provider).Holds _ _ (grpcRefundPayment b key reason) _ _
    unfold grpcRefundPayment
    apply Monitor.Holds.tryCatch (F := fun _ _ s ↦ s = .over)
    · apply Monitor.Holds.bind (refundByBooking_stages rfl)
      intro r
      apply Monitor.Holds.ret
      rintro l s (hs | ⟨p, hs⟩) b' key' reason' -
      · exact .inl hs
      · exact .inr ⟨p, r, hs, rfl⟩
    · intro e
      exact Monitor.Holds.ret _ fun _ _ hs _ _ _ _ ↦ .inl hs
  | _ =>
    exact Monitor.Holds.raise _ fun _ _ _ ↦ other fun _ _ _ h ↦ by cases h

end Ticketing.PaymentService
