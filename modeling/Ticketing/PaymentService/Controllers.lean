import Ticketing.Async.Monitor
import Ticketing.PaymentService.Moves

/-!
# The controllers of the payment service

Library `PaymentService`. Requests to `payment/payment.controller.ts` and to
`payment/payment.grpc-controller.ts` run at the same time. What a thread knows about payments
is what it has found or inserted itself.
-/

namespace Ticketing.PaymentService

open Async Store

/-- A request: `POST /payments`, or a gRPC call. -/
inductive Inbound where
  | http (dto : InitiatePaymentRequest)
  | grpc (job : Job)

/-- What a request is answered with. -/
inductive Answered where
  | payment (payment : Payment)
  | reply (reply : Reply)

/-- The code of a request. -/
def Inbound.run (provider : String) : Inbound → Code sig Unit Answered
  | .http dto => do
    let payment ← initiatePayment provider dto
    pure (.payment payment)
  | .grpc job => do
    let reply ← handler provider job.request
    pure (.reply reply)

/-- The payment service with both controllers. -/
abbrev controllers (provider : String) : Service where
  toSig := sig
  State := Db
  Choice := Choice
  exec := exec
  Job := Inbound
  Reply := Answered
  code j := (j.run provider).prog

/-- The payment that a thread found or inserted. -/
inductive Known where
  | nothing
  | found (payment : Payment)
  | inserted (payment : Payment)
  | charged (payment : Payment)

namespace Known

/-- The payment, if there is one. -/
def payment : Known → Option Payment
  | .nothing => none
  | .found p | .inserted p | .charged p => some p

/-- The payment, if the thread inserted it. -/
def own : Known → Option Payment
  | .inserted p | .charged p => some p
  | _ => none

/-- What an operation tells about the payment. -/
def next : Known → (o : Op) → sig.Answer o → Known
  | _, .findByKey _, .ok (some p) => .found p
  | _, .findSucceeded _, .ok (some p) => .found p
  | _, .insert _, .ok p => .inserted p
  | .inserted p, .charge _ _, _ => .charged p
  | known, _, _ => known

/-- A thread looks for a payment before it knows one; it charges the one that it inserted,
once, under its key; and it saves the payment that it knows. -/
def may : Known → Op → Prop
  | known, .findByKey _ | known, .findSucceeded _ | known, .insert _ => known = .nothing
  | known, .charge _ request =>
    ∃ p, known = .inserted p ∧ p.idempotencyKey = request.idempotencyKey
  | known, .save p => ∃ q, known.payment = some q ∧ p.order = q.order
  | _, _ => True

end Known

/-- The key of a request to `initiatePayment`. -/
def Inbound.key : Inbound → Option String
  | .http dto => some dto.idempotencyKey
  | .grpc ⟨_, .initiatePayment dto⟩ => some dto.idempotencyKey
  | .grpc _ => none

/-- The columns of the answered payment that are never assigned after it was inserted. -/
def Answered.order : Answered → Option (Id × Id × String × Money × String)
  | .payment p => some p.order
  | .reply (.payment (some i)) => some (i.id, i.bookingId, i.idempotencyKey, i.amount, i.currency)
  | .reply _ => none

/-- What each thread of the controllers knows. -/
def known (provider : String) : Monitor (controllers provider) Known where
  init := .nothing
  next := Known.next
  may _ := Known.may

variable {provider : String} {j : Inbound} {L : Type}

/-- A payment that is found by its key has the key. -/
theorem key_of_gives {key : String} {p : Payment}
    (h : (controllers provider).Gives (.findByKey key) (.ok (some p))) :
    p.idempotencyKey = key := by
  obtain ⟨x, s, h⟩ := h
  rcases exec_cases x (.findByKey key) s with ⟨-, e, he⟩ | he
  · have := congrArg Prod.fst he
    rw [h] at this
    cases this
  · have := congrArg Prod.fst he
    rw [h] at this
    have := List.find?_some (Except.ok.inj this).symm
    simpa using this

/-- An inserted payment keeps its columns, but for its number. -/
theorem insert_of_gives {p q : Payment}
    (h : (controllers provider).Gives (.insert p) (.ok q)) : ∃ n, q = { p with id := n } := by
  obtain ⟨x, s, h⟩ := h
  rcases exec_cases x (.insert p) s with ⟨-, e, he⟩ | he
  · have := congrArg Prod.fst he
    rw [h] at this
    cases this
  · have := congrArg Prod.fst he
    rw [h] at this
    simp only [perform] at this
    split at this
    · cases this
    · exact ⟨s.nextId, Except.ok.inj this⟩

/-! ### What the code knows -/

/-- The entity is the payment that the thread knows, up to its status. -/
def Knows (p : Payment) (l : Payment) (s : Known) : Prop := s.payment = some p ∧ l.order = p.order

/-- The entity is the payment that the thread inserted, up to its status. -/
def Inserted (p : Payment) (l : Payment) (s : Known) : Prop := s = .inserted p ∧ l.order = p.order

/-- A thread knows the payment that it inserted. -/
theorem Inserted.knows {p l : Payment} {s : Known} (h : Inserted p l s) : Knows p l s :=
  ⟨by rw [h.1]; rfl, h.2⟩

/-- Saving leaves what the thread knows. -/
theorem next_save (s : Known) (p : Payment) (a : sig.Answer (.save p)) :
    (known provider).next s (.save p) a = s := by
  cases s <;> rfl

/-- A thread may save the payment that it knows. -/
theorem may_save {p l : Payment} {s : Known} (h : Knows p l s) :
    (known provider).may j s (.save l) := by
  cases s <;> exact ⟨p, h⟩

/-- Operations that tell nothing about payments. -/
def Op.mute : Op → Bool
  | .findByKey _ | .findSucceeded _ | .insert _ | .charge _ _ | .save _ => false
  | _ => true

/-- A mute operation tells a thread nothing. -/
theorem quiet_of_mute {o : Op} (h : o.mute = true) : (known provider).Quiet j o := by
  intro s
  constructor
  · cases o <;> cases s <;> trivial
  · intro r
    cases o <;> cases s <;> first | rfl | cases h

private theorem savePayment_knows {p x : Payment} {I P : L → Known → Prop}
    {E : Exception → L → Known → Prop} (h : ∀ l s, P l s → Knows p x s ∧ I l s)
    (fail : ∀ e l s, I l s → E e l s) :
    (known provider).Holds j P (PaymentService.await (.save x) : Code sig L Unit)
      (fun _ ↦ I) E := by
  apply Monitor.Holds.await
  · exact fun l s hl ↦ may_save (h l s hl).1
  · intro _ l s _ hl
    rw [next_save]
    exact (h l s hl).2
  · intro e l s _ hl
    rw [next_save]
    exact fail e l s (h l s hl).2

private theorem update_knows {p : Payment} {I : Payment → Known → Prop}
    {E : Exception → Payment → Known → Prop} (knows : ∀ l s, I l s → Knows p l s)
    {f : Payment → Payment} (hf : ∀ l s, I l s → I (f l) s) (fail : ∀ e l s, I l s → E e l s)
    {rest : Code sig Payment Unit} {Q : Unit → Payment → Known → Prop}
    (hr : (known provider).Holds j I rest Q E) :
    (known provider).Holds j I
      (do PaymentService.assign f; PaymentService.await (.save (← PaymentService.entity)); rest)
      Q E := by
  apply Monitor.Holds.bind (I := fun _ ↦ I)
  · exact Monitor.Holds.assign f hf
  intro _
  apply Monitor.Holds.read
  intro x
  apply Monitor.Holds.bind (I := fun _ ↦ I)
  · apply savePayment_knows (p := p) _ fail
    rintro l s ⟨rfl, h⟩
    exact ⟨knows l s h, h⟩
  exact fun _ ↦ hr

/-- The thread knows the payment, whatever columns outside the order the code assigns. -/
theorem Knows.assign {p l l' : Payment} {s : Known} (h : Knows p l s) (ho : l'.order = l.order) :
    Knows p l' s :=
  ⟨h.1, ho.trans h.2⟩

private theorem settle_knows {p : Payment} {f : Payment → Payment} (hf : ∀ q, (f q).order = q.order)
    (event : Payment → Emission) :
    (known provider).Keeps j (Knows p)
      (do
        PaymentService.assign f
        PaymentService.await (.save (← PaymentService.entity))
        PaymentService.await (.emit (event (← PaymentService.entity))) :
          Code sig Payment Unit) := by
  apply update_knows
  · exact fun l s h ↦ h
  · exact fun l s h ↦ h.assign (hf l)
  · exact fun _ _ _ h ↦ h
  · apply Monitor.Holds.read
    intro x
    apply (Monitor.Holds.quiet (quiet_of_mute rfl)).pre
    exact fun l s h ↦ h.2

private theorem chargePayment_knows {dto : InitiatePaymentRequest} {p : Payment}
    (hk : p.idempotencyKey = dto.idempotencyKey) :
    (known provider).Holds j (Inserted p) (chargePayment dto) (fun _ ↦ Knows p)
      fun _ ↦ Knows p := by
  unfold chargePayment
  apply update_knows
  · exact fun l s h ↦ h.knows
  · exact fun l s h ↦ ⟨h.1, h.2⟩
  · exact fun _ _ _ h ↦ h.knows
  apply Monitor.Holds.read
  intro x
  apply Monitor.Holds.bind (I := fun _ ↦ Knows p)
  · apply Monitor.Holds.await
    · rintro l s ⟨-, rfl, -⟩
      exact ⟨p, rfl, hk⟩
    · rintro a l s - ⟨-, rfl, hl⟩
      exact ⟨rfl, hl⟩
    · rintro e l s - ⟨-, rfl, hl⟩
      exact ⟨rfl, hl⟩
  intro response
  dsimp only
  split
  · apply Monitor.Holds.bind (I := fun _ ↦ Knows p)
    · exact Monitor.Holds.quiet (quiet_of_mute rfl)
    intro now
    exact settle_knows (fun _ ↦ by rfl) _
  · exact settle_knows (fun _ ↦ by rfl) _

private theorem failPayment_knows {p : Payment} (error : Exception) :
    (known provider).Keeps j (Knows p) (failPayment error) := by
  unfold failPayment
  apply update_knows
  · exact fun l s h ↦ h
  · exact fun l s h ↦ ⟨h.1, h.2⟩
  · exact fun _ _ _ h ↦ h
  apply Monitor.Holds.read
  intro x
  apply Monitor.Holds.bind (I := fun _ ↦ Knows p)
  · apply (Monitor.Holds.quiet (quiet_of_mute rfl)).pre
    exact fun l s h ↦ h.2
  intro _
  exact Monitor.Holds.raise _ fun _ _ h ↦ h

/-- The payment is the one that the thread knows, and has the key. -/
def Returned (key : String) (a : Payment) (s : Known) : Prop :=
  ∃ p, s.payment = some p ∧ a.order = p.order ∧ p.idempotencyKey = key

private theorem gateway_knows (name : String) {I : L → Known → Prop}
    {E : Exception → L → Known → Prop} (fail : ∀ e l s, I l s → E e l s) :
    (known provider).Holds j I (getByProvider name) (fun _ ↦ I) E := by
  unfold getByProvider
  split
  · exact Monitor.Holds.ret _ fun _ _ h ↦ h
  · split
    · exact Monitor.Holds.ret _ fun _ _ h ↦ h
    · exact Monitor.Holds.raise _ fun l s h ↦ fail _ l s h

private theorem initiatePayment_knows (dto : InitiatePaymentRequest) :
    (known provider).Holds j (fun (_ : Unit) s ↦ s = .nothing) (initiatePayment provider dto)
      (fun a _ s ↦ Returned dto.idempotencyKey a s) (fun _ _ _ ↦ True) := by
  unfold initiatePayment
  apply Monitor.Holds.bind
    (I := fun found _ s ↦ found.elim (s = .nothing) fun p ↦
      s = .found p ∧ p.idempotencyKey = dto.idempotencyKey)
  · apply Monitor.Holds.await
    · exact fun _ _ h ↦ h
    · rintro found l s hg rfl
      cases found with
      | none => rfl
      | some p => exact ⟨rfl, key_of_gives hg⟩
    · exact fun _ _ _ _ _ ↦ trivial
  intro found
  cases found with
  | some existing =>
    apply Monitor.Holds.ret
    rintro l s ⟨rfl, hk⟩
    exact ⟨existing, rfl, rfl, hk⟩
  | none =>
    dsimp only
    apply Monitor.Holds.bind (I := fun _ _ s ↦ s = .nothing)
    · unfold selectGateway
      split
      · exact gateway_knows _ fun _ _ _ _ ↦ trivial
      · exact gateway_knows _ fun _ _ _ _ ↦ trivial
    intro gateway
    apply Monitor.Holds.bind
      (I := fun saved _ s ↦ s = .inserted saved ∧ saved.idempotencyKey = dto.idempotencyKey)
    · apply Monitor.Holds.await
      · exact fun _ _ h ↦ h
      · rintro saved l s hg rfl
        obtain ⟨n, rfl⟩ := insert_of_gives hg
        exact ⟨rfl, rfl⟩
      · exact fun _ _ _ _ _ ↦ trivial
    intro saved
    apply Monitor.Holds.on
    intro _
    apply Monitor.Holds.pre
      (P := fun l s ↦ saved.idempotencyKey = dto.idempotencyKey ∧ Inserted saved l s)
    · intro l s h
      apply (Monitor.runs_bind _ _).mpr
      apply (Monitor.Holds.tryCatch (chargePayment_knows h.1) failPayment_knows l s h.2).post
      · intro _ l s hk
        exact Monitor.runs_entity.mpr ⟨saved, hk.1, hk.2, h.1⟩
      · exact fun _ _ _ _ ↦ trivial
    · rintro l s ⟨rfl, rfl, hk⟩
      exact ⟨hk, rfl, rfl⟩

/-! ### `refundByBooking` -/

private theorem sendRefund_knows {p : Payment} :
    (known provider).Keeps j (fun l ↦ Knows p l.payment) sendRefund := by
  have mute : ∀ {o : Op}, o.mute = true → (known provider).Keeps j (fun l ↦ Knows p l.payment)
      (PaymentService.await o : Code sig Refunding (Res o)) :=
    fun h ↦ Monitor.Holds.quiet (quiet_of_mute h)
  unfold sendRefund
  apply Monitor.Holds.skip
  intro m
  apply Monitor.Holds.bind (I := fun _ l ↦ Knows p l.payment)
  · exact gateway_knows _ fun _ _ _ h ↦ h
  intro gateway
  apply Monitor.Holds.skip
  intro m
  apply Monitor.Holds.skip
  intro m'
  apply Monitor.Holds.bind (mute rfl)
  intro refundResult
  dsimp only
  split
  · apply Monitor.Holds.bind (I := fun _ l ↦ Knows p l.payment)
    · exact Monitor.Holds.assign _ fun _ _ h ↦ h
    intro _
    apply Monitor.Holds.skip
    intro m
    apply Monitor.Holds.bind (mute rfl)
    intro _
    apply Monitor.Holds.bind (I := fun _ l ↦ Knows p l.payment)
    · exact Monitor.Holds.assign _ fun _ _ h ↦ h.assign (by rfl)
    intro _
    apply Monitor.Holds.read
    intro m
    apply Monitor.Holds.bind (I := fun _ l ↦ Knows p l.payment)
    · apply savePayment_knows (p := p) _ fun _ _ _ h ↦ h
      rintro l s ⟨rfl, h⟩
      exact ⟨h, h⟩
    intro _
    apply Monitor.Holds.skip
    intro m
    apply Monitor.Holds.skip
    intro m'
    exact mute rfl
  · apply Monitor.Holds.bind (I := fun _ l ↦ Knows p l.payment)
    · exact Monitor.Holds.assign _ fun _ _ h ↦ h
    intro _
    apply Monitor.Holds.skip
    intro m
    exact mute rfl

private theorem refundByBooking_knows (b : Id) (key : String) (reason : Option String) :
    (known provider).Holds j (fun (_ : Unit) s ↦ s = .nothing) (refundByBooking b key reason)
      (fun _ _ _ ↦ True) (fun _ _ _ ↦ True) := by
  unfold refundByBooking
  apply Monitor.Holds.bind (I := fun found _ s ↦ ∀ p, found = some p → s = .found p)
  · apply Monitor.Holds.await
    · exact fun _ _ h ↦ h
    · rintro found l s - rfl p rfl
      rfl
    · exact fun _ _ _ _ _ ↦ trivial
  intro found
  cases found with
  | none => exact Monitor.Holds.raise _ fun _ _ _ ↦ trivial
  | some payment =>
    apply Monitor.Holds.pre (P := fun _ s ↦ s = .found payment) _ fun _ _ h ↦ h payment rfl
    apply Monitor.Holds.bind (I := fun _ _ s ↦ s = .found payment)
    · exact ((Monitor.Holds.quiet (quiet_of_mute rfl)).post (fun _ _ _ h ↦ h) fun _ _ _ _ ↦ trivial)
    intro found
    cases found with
    | some existing => exact Monitor.Holds.ret _ fun _ _ _ ↦ trivial
    | none =>
      apply Monitor.Holds.bind (I := fun _ _ s ↦ s = .found payment)
      · exact (Monitor.Holds.quiet (quiet_of_mute rfl)).post (fun _ _ _ h ↦ h)
          fun _ _ _ _ ↦ trivial
      intro savedRefund
      apply Monitor.Holds.on
      intro _
      apply Monitor.Holds.pre (P := fun l ↦ Knows payment l.payment)
      · apply Monitor.Holds.bind (I := fun _ _ _ ↦ True)
        · apply Monitor.Holds.tryCatch
            (sendRefund_knows.post (fun _ _ _ _ ↦ trivial) fun _ _ _ h ↦ h)
          intro error
          unfold failRefund
          apply Monitor.Holds.bind (I := fun _ l ↦ Knows payment l.payment)
          · exact Monitor.Holds.assign _ fun _ _ h ↦ h
          intro _
          apply Monitor.Holds.skip
          intro m
          apply Monitor.Holds.bind (I := fun _ _ _ ↦ True)
          · exact ((Monitor.Holds.quiet (quiet_of_mute rfl)).post (fun _ _ _ _ ↦ trivial)
              fun _ _ _ _ ↦ trivial)
          intro _
          exact Monitor.Holds.raise _ fun _ _ _ ↦ trivial
        intro _
        apply Monitor.Holds.skip
        intro m
        exact Monitor.Holds.ret _ fun _ _ _ ↦ trivial
      · rintro l s ⟨rfl, rfl⟩
        exact ⟨rfl, rfl⟩

/-! ### Requests -/

/-- A request to `initiatePayment` is answered with the payment that the thread knows under its
key. -/
def Answers (request : Inbound) (answer : Except Exception Answered) (s : Known) : Prop :=
  ∀ key ∈ request.key, ∀ a, answer = .ok a →
    ∃ p, s.payment = some p ∧ a.order = some p.order ∧ p.idempotencyKey = key

/-- An error is an answer to every request. -/
theorem answers_error (request : Inbound) (e : Exception) (s : Known) :
    Answers request (.error e) s := by
  intro key _ a ha
  cases ha

private theorem grpcInitiatePayment_knows (dto : InitiatePaymentRequest) :
    (known provider).Holds j (fun (_ : Unit) s ↦ s = .nothing) (grpcInitiatePayment provider dto)
      (fun reply _ s ↦ ∃ a, reply = .payment (some (toPaymentInfo a)) ∧
        Returned dto.idempotencyKey a s) (fun _ _ _ ↦ True) := by
  unfold grpcInitiatePayment
  apply Monitor.Holds.bind (initiatePayment_knows dto)
  intro a
  exact Monitor.Holds.ret _ fun _ _ h ↦ ⟨a, rfl, h⟩

private theorem grpcRefundPayment_knows (b : Id) (key reason : String) :
    (known provider).Holds j (fun (_ : Unit) s ↦ s = .nothing) (grpcRefundPayment b key reason)
      (fun _ _ _ ↦ True) (fun _ _ _ ↦ True) := by
  unfold grpcRefundPayment
  apply Monitor.Holds.tryCatch
  · apply Monitor.Holds.bind (refundByBooking_knows b key (some reason))
    intro refund
    exact Monitor.Holds.ret _ fun _ _ _ ↦ trivial
  · intro error
    exact Monitor.Holds.ret _ fun _ _ _ ↦ trivial

private theorem run_knows (request : Inbound) :
    (known provider).Holds request (fun (_ : Unit) s ↦ s = .nothing) (request.run provider)
      (fun a _ s ↦ Answers request (.ok a) s) (fun _ _ _ ↦ True) := by
  cases request with
  | http dto =>
    apply Monitor.Holds.bind (initiatePayment_knows dto)
    intro a
    apply Monitor.Holds.ret
    rintro l s ⟨p, hp, ho, hk⟩ key hkey a' ha
    cases hkey
    cases ha
    exact ⟨p, hp, congrArg some ho, hk⟩
  | grpc job =>
    obtain ⟨issuer, request⟩ := job
    have other : ∀ {c : Code sig Unit Reply}, (Inbound.grpc ⟨issuer, request⟩).key = none →
        (known provider).Holds (.grpc ⟨issuer, request⟩) (fun (_ : Unit) s ↦ s = .nothing) c
          (fun _ _ _ ↦ True) (fun _ _ _ ↦ True) →
        (known provider).Holds (.grpc ⟨issuer, request⟩) (fun (_ : Unit) s ↦ s = .nothing)
          (do let reply ← c; pure (Answered.reply reply))
          (fun a _ s ↦ Answers (.grpc ⟨issuer, request⟩) (.ok a) s) (fun _ _ _ ↦ True) := by
      intro c hk h
      apply Monitor.Holds.bind h
      intro reply
      apply Monitor.Holds.ret
      intro l s _ key hkey
      rw [hk] at hkey
      cases hkey
    cases request with
    | initiatePayment dto =>
      apply Monitor.Holds.bind (grpcInitiatePayment_knows dto)
      intro reply
      apply Monitor.Holds.ret
      rintro l s ⟨a, rfl, p, hp, ho, hk⟩ key hkey a' ha
      cases hkey
      cases ha
      exact ⟨p, hp, congrArg some ho, hk⟩
    | refundPayment b key reason => exact other rfl (grpcRefundPayment_knows b key reason)
    | _ => exact other rfl (Monitor.Holds.raise _ fun _ _ _ ↦ trivial)

/-- Every request obeys the monitor of what is known. -/
theorem inbound_obeys (request : Inbound) :
    (known provider).Obeys request ((controllers provider).code request) (Answers request)
      .nothing := by
  apply Monitor.obeys_prog.mpr
  apply (run_knows request () .nothing rfl).post
  · exact fun _ _ _ h ↦ h
  · exact fun e _ s _ ↦ answers_error request e s

end Ticketing.PaymentService
