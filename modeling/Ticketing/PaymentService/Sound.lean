import Ticketing.PaymentService.Moves

/-!
# Every run of the payment service keeps the rules

Library `PaymentService`. `initiatePayment` and `refundByBooking` follow the moves, and what
their replies say is stored: a payment that succeeded is one of the request, when its key is
new, and a processed refund is one of a payment of the request, when its key is its own.
-/

namespace Ticketing.PaymentService

open Async Store

variable {M : Mode} {provider : String} {t : Nat} {j : Job} {L : Type}

private theorem getByProvider_holds (name : String) {P E : L → (M.rules provider).Fact}
    (h : ∀ l c g, P l c g → E l c g) :
    (M.rules provider).Holds t j (getByProvider name) P (fun _ ↦ P) (fun _ ↦ E) := by
  unfold getByProvider
  split
  · exact Rules.Holds.ret _ fun _ _ _ _ hp ↦ hp
  · split
    · exact Rules.Holds.ret _ fun _ _ _ _ hp ↦ hp
    · exact Rules.Holds.raise _ fun l c g _ hp ↦ h l c g hp

/-! ### `initiatePayment` -/

/-- A settled row of the payment is stored. -/
def Settled (p : Payment) (s : Db) : Prop :=
  ∃ q, s.payments.find p.id = some q ∧ q.settled = true ∧ q.order = p.order

private theorem settled_stable (p : Payment) :
    (M.rules provider).Stable t j fun c _ ↦ Settled p c.state := by
  intro u i c g c' g' hu hx hi hi' hm h
  obtain ⟨q, hq, hs, ho⟩ := h
  obtain ⟨q', hq', hs', ho'⟩ := hm.settled hq hs
  exact ⟨q', hq', hs', ho'.trans ho⟩

/-- The entity `p` is a payment that thread `t` inserted and has not settled. -/
structure Charging (t : Nat) (dto : InitiatePaymentRequest) (p : Payment) (s : Db)
    (g : Owners) : Prop where
  own : g.payer p.id = some t
  stored : ∃ q, s.payments.find p.id = some q ∧ q.settled = false ∧ q.order = p.order
  asked : p.bookingId = dto.bookingId ∧ p.amount = dto.amount ∧ p.currency = dto.currency

variable {dto : InitiatePaymentRequest}

private theorem charging_stable (p : Payment) :
    (M.rules provider).Stable t j fun c g ↦ Charging t dto p c.state g := by
  intro u i c g c' g' hu hx hi hi' hm h
  obtain ⟨q, hq, hs, ho⟩ := h.stored
  exact ⟨hm.payer _ _ h.own, ⟨q, hm.unsettled hu h.own hq hs, hs, ho⟩, h.asked⟩

/-- Assigning columns outside the order. -/
theorem Charging.assign {p p' : Payment} {s : Db} {g : Owners} (h : Charging t dto p s g)
    (ho : p'.order = p.order) : Charging t dto p' s g := by
  obtain ⟨own, stored, asked⟩ := h
  have parts := ho
  simp only [Payment.order, Prod.mk.injEq] at parts
  obtain ⟨hi, hb, -, ha, hc⟩ := parts
  constructor
  · rw [hi]
    exact own
  · rw [hi, ho]
    exact stored
  · rw [hb, ha, hc]
    exact asked

private theorem charging_pass (o : Op) (ho : o.silent = true) :
    (M.rules provider).Holds t j (PaymentService.await o : Code sig Payment (Res o))
      (fun l c g ↦ Charging t dto l c.state g) (fun _ l c g ↦ Charging t dto l c.state g)
      (fun _ l c g ↦ Charging t dto l c.state g) := by
  apply Holds.observe ho
  · exact fun _ ↦ charging_stable
  · exact charging_stable
  · intro _ l c c' g hc h
    rw [hc]
    exact h
  · intro l c c' g x a hc hi h hm ha
    rw [hc]
    exact h

private theorem saveThen_holds {α : Type} {status : PaymentStatus} (hs : status ≠ .refunded)
    {I : Payment → (M.rules provider).Fact} (stable : ∀ p, (M.rules provider).Stable t j (I p))
    (done : ∀ p c g, p.status = status → c.state.payments.find p.id = some p →
      g.payer p.id = some t → p.bookingId = dto.bookingId ∧ p.amount = dto.amount ∧
        p.currency = dto.currency → I p c g)
    {rest : Code sig Payment α} {Q : α → Payment → (M.rules provider).Fact}
    (h : (M.rules provider).Holds t j rest I Q fun _ l c g ↦ Charging t dto l c.state g) :
    (M.rules provider).Holds t j
      (do PaymentService.await (.save (← PaymentService.entity)); rest)
      (fun l c g ↦ l.status = status ∧ Charging t dto l c.state g) Q
      (fun _ l c g ↦ Charging t dto l c.state g) := by
  apply Rules.Holds.read
  intro p
  apply Rules.Holds.bind (I := fun _ l c g ↦ l = p ∧ I p c g)
  · apply Holds.await
    · exact fun _ _ ↦ (Rules.Stable.const _).and (stable p)
    · exact charging_stable
    · rintro - l c c' g hc ⟨rfl, -, h⟩
      rw [hc]
      exact h
    · rintro l c g x hi ⟨rfl, hst, h⟩ -
      obtain ⟨q, hq, hqs, ho⟩ := h.stored
      refine ⟨g, ?_, ?_, ?_⟩
      · apply hi.save (hi.payer _ _ h.own)
        intro hr
        exact absurd (hst.symm.trans hr) hs
      · exact Moves.save (.charged hq h.own hqs) (fun _ _ _ h ↦ h) rfl
      · intro c' hc
        have hc : c'.state = { c.state with payments := c.state.payments.put l } := hc
        refine ⟨rfl, done l c' g hst ?_ h.own h.asked⟩
        rw [hc]
        exact Table.find_put_self _ l
  intro _
  apply h.pre
  rintro l c g - ⟨rfl, h⟩
  exact h

private theorem saveOpen_holds {α : Type} {status : PaymentStatus}
    (hs : status ≠ .succeeded ∧ status ≠ .refunded) {rest : Code sig Payment α}
    {Q : α → Payment → (M.rules provider).Fact}
    (h : (M.rules provider).Holds t j rest
      (fun l c g ↦ l.status = status ∧ Charging t dto l c.state g) Q
      fun _ l c g ↦ Charging t dto l c.state g) :
    (M.rules provider).Holds t j
      (do PaymentService.await (.save (← PaymentService.entity)); rest)
      (fun l c g ↦ l.status = status ∧ Charging t dto l c.state g) Q
      (fun _ l c g ↦ Charging t dto l c.state g) := by
  apply saveThen_holds hs.2 _ _ h
  · exact fun p ↦ (Rules.Stable.const _).and (charging_stable p)
  · intro p c g hst hf own asked
    exact ⟨hst, own, ⟨p, hf, by simp [Payment.settled, hst, hs], rfl⟩, asked⟩

/-- What the end of a charge tells: a payment that succeeded is stored, and is the one that
was asked for. -/
def Charged (dto : InitiatePaymentRequest) (p : Payment) (s : Db) : Prop :=
  p.status = .succeeded →
    Settled p s ∧ p.bookingId = dto.bookingId ∧ p.amount = dto.amount ∧ p.currency = dto.currency

private theorem charged_stable (p : Payment) :
    (M.rules provider).Stable t j fun c _ ↦ Charged dto p c.state :=
  Rules.Stable.imp fun _ ↦ (settled_stable p).and (Rules.Stable.const _)

private theorem emit_holds {I E : L → (M.rules provider).Fact} (event : Emission)
    (frame : ∀ l c c' g, c'.state = c.state → I l c g → I l c' g)
    (stable : ∀ l, (M.rules provider).Stable t j (I l))
    (stable' : ∀ l, (M.rules provider).Stable t j (E l)) :
    (M.rules provider).Holds t j (PaymentService.await (.emit event) : Code sig L Unit)
      I (fun _ ↦ I) (fun _ ↦ E) := by
  apply Holds.observe rfl (fun _ ↦ stable) stable'
  · intro hf
    cases hf
  · exact fun l c c' g x a hc _ h _ _ ↦ frame l c c' g hc h

private theorem emitEntity_holds (event : Payment → Emission) :
    (M.rules provider).Holds t j
      (do PaymentService.await (.emit (event (← PaymentService.entity))))
      (fun l c _ ↦ Charged dto l c.state) (fun _ l c _ ↦ Charged dto l c.state)
      (fun _ l c g ↦ Charging t dto l c.state g) := by
  apply Rules.Holds.read
  intro p
  apply (emit_holds (I := fun l c _ ↦ l = p ∧ Charged dto p c.state) (event p) _ _ _).post
  · rintro _ l c g - ⟨rfl, h⟩
    exact h
  · exact fun _ _ _ _ _ h ↦ h
  · rintro l c c' g hc ⟨rfl, h⟩
    rw [hc]
    exact ⟨rfl, h⟩
  · exact fun _ ↦ (Rules.Stable.const _).and (charged_stable p)
  · exact charging_stable

private theorem chargePayment_holds :
    (M.rules provider).Holds t j (chargePayment dto)
      (fun l c g ↦ Charging t dto l c.state g) (fun _ l c _ ↦ Charged dto l c.state)
      (fun _ l c g ↦ Charging t dto l c.state g) := by
  have assigned : ∀ (f : Payment → Payment) (status : PaymentStatus),
      (∀ p, (f p).order = p.order) → (∀ p, (f p).status = status) →
      (M.rules provider).Holds t j (PaymentService.assign f)
        (fun l c g ↦ Charging t dto l c.state g)
        (fun _ l c g ↦ l.status = status ∧ Charging t dto l c.state g)
        (fun _ l c g ↦ Charging t dto l c.state g) := by
    intro f status ho hs
    exact Rules.Holds.assign f fun l c g _ h ↦ ⟨hs l, h.assign (ho l)⟩
  unfold chargePayment
  apply Rules.Holds.bind (assigned _ .processing (fun _ ↦ by rfl) fun _ ↦ by rfl)
  intro _
  apply saveOpen_holds (by decide)
  apply Rules.Holds.read
  intro p
  apply Rules.Holds.pre (P := fun l c g ↦ Charging t dto l c.state g)
  · apply Rules.Holds.bind (charging_pass (.charge _ _) rfl)
    intro response
    dsimp only
    split
    · apply Rules.Holds.bind (charging_pass .now rfl)
      intro now
      apply Rules.Holds.bind (assigned _ .succeeded (fun _ ↦ by rfl) fun _ ↦ by rfl)
      intro _
      apply saveThen_holds (by decide) charged_stable _ (emitEntity_holds _)
      intro p c g hst hf _ asked _
      exact ⟨⟨p, hf, by simp [Payment.settled, hst], rfl⟩, asked⟩
    · apply Rules.Holds.bind (assigned _ .failed (fun _ ↦ by rfl) fun _ ↦ by rfl)
      intro _
      apply saveOpen_holds (by decide)
      apply (emitEntity_holds _).pre
      intro l c g _ h hs
      rw [h.1] at hs
      cases hs
  · rintro l c g _ ⟨rfl, -, h⟩
    exact h

private theorem failPayment_holds (error : Exception)
    {Q : Unit → Payment → (M.rules provider).Fact} :
    (M.rules provider).Holds t j (failPayment error) (fun l c g ↦ Charging t dto l c.state g) Q
      (fun _ l c g ↦ Charging t dto l c.state g) := by
  unfold failPayment
  apply Rules.Holds.bind (I := fun _ l c g ↦ l.status = .failed ∧ Charging t dto l c.state g)
  · exact Rules.Holds.assign _ fun l c g _ h ↦ ⟨rfl, h.assign rfl⟩
  intro _
  apply saveOpen_holds (by decide)
  apply Rules.Holds.read
  intro p
  apply Rules.Holds.pre (P := fun l c g ↦ Charging t dto l c.state g)
  · apply Rules.Holds.bind (charging_pass (.emit _) rfl)
    intro _
    exact Rules.Holds.raise _ fun _ _ _ _ h ↦ h
  · rintro l c g _ ⟨rfl, -, h⟩
    exact h

private theorem findByKey_holds (key : String) :
    (M.rules provider).Holds t j
      (PaymentService.await (.findByKey key) : Code sig L (Option Payment)) (fun _ _ _ ↦ True)
      (fun found _ c _ ↦ ∀ p, found = some p → M.newKeys = true → Charged dto p c.state)
      (fun _ _ _ _ ↦ True) := by
  apply Holds.observe rfl
  · intro found _
    exact Rules.Stable.all fun p ↦ Rules.Stable.imp fun _ ↦ Rules.Stable.imp fun _ ↦
      charged_stable p
  · exact fun _ ↦ Rules.Stable.const True
  · exact fun _ _ _ _ _ _ _ ↦ trivial
  · intro l c c' g x found hc hi _ hm hfound p hp hM hst
    have new : NewKey c.state (.findByKey key) := hm.1 hM
    have answer : c.state.payment? (fun p ↦ p.idempotencyKey = key) = some p :=
      (Except.ok.inj hfound).trans hp
    have hkey : p.idempotencyKey = key := by simpa using List.find?_some answer
    exact absurd hst (new p (List.mem_of_find?_eq_some answer) hkey)

private theorem insert_holds {p : Payment} (hs : p.settled = false)
    (asked : p.bookingId = dto.bookingId ∧ p.amount = dto.amount ∧ p.currency = dto.currency) :
    (M.rules provider).Holds t j (PaymentService.await (.insert p) : Code sig L Payment)
      (fun _ _ _ ↦ True) (fun saved _ c g ↦ Charging t dto saved c.state g)
      (fun _ _ _ _ ↦ True) := by
  apply Holds.await
  · exact fun saved _ ↦ charging_stable saved
  · exact fun _ ↦ Rules.Stable.const True
  · exact fun _ _ _ _ _ _ _ ↦ trivial
  · intro l c g x hi _ _
    simp only [perform]
    split
    · exact ⟨g, hi, Moves.refl t c.state g, fun _ _ ↦ trivial⟩
    · let saved : Payment := { p with id := c.state.nextId }
      have open_ : saved.settled = false := hs
      have unclaimed : g.payer saved.id = none := by
        cases ho : g.payer saved.id with
        | none => rfl
        | some u => exact absurd (hi.payer _ _ ho) (Nat.lt_irrefl _)
      refine ⟨g.pay saved.id t, ?_, ?_, ?_⟩
      · apply hi.insert t rfl
        intro hr
        have hr : p.status = .refunded := hr
        simp [Payment.settled, hr] at hs
      · exact Moves.insert hi.find_unused unclaimed
      · intro c' hc
        have hc : c'.state = { c.state with
          payments := c.state.payments.put saved, nextId := c.state.nextId + 1 } := hc
        refine ⟨by simp [Owners.pay, saved], ⟨saved, ?_, open_, rfl⟩, asked⟩
        rw [hc]
        exact Table.find_put_self _ saved

private theorem initiatePayment_holds :
    (M.rules provider).Holds t j (initiatePayment provider dto) (fun _ _ _ ↦ True)
      (fun p _ c _ ↦ M.newKeys = true → Charged dto p c.state) (fun _ _ _ _ ↦ True) := by
  unfold initiatePayment
  apply Rules.Holds.bind (findByKey_holds dto.idempotencyKey)
  intro found
  cases found with
  | some existing => exact Rules.Holds.ret existing fun _ _ _ _ h ↦ h existing rfl
  | none =>
    apply Rules.Holds.pre (P := fun _ _ _ ↦ True)
    · apply Rules.Holds.bind (I := fun _ _ _ _ ↦ True)
      · unfold selectGateway
        split
        · exact getByProvider_holds _ fun _ _ _ h ↦ h
        · exact getByProvider_holds _ fun _ _ _ h ↦ h
      intro gateway
      apply Rules.Holds.bind (insert_holds (by rfl) ⟨rfl, rfl, rfl⟩)
      intro savedPayment
      apply Rules.Holds.on
      intro l
      apply Rules.Holds.bind (I := fun _ l c _ ↦ Charged dto l c.state)
      · apply Rules.Holds.tryCatch
        · apply chargePayment_holds.pre
          rintro l c g _ ⟨rfl, h⟩
          exact h
        · intro error
          apply (failPayment_holds error).post
          · exact fun _ _ _ _ _ h ↦ h
          · exact fun _ _ _ _ _ _ ↦ trivial
      intro _
      exact Rules.Holds.entity fun l c g _ h _ ↦ h
    · exact fun _ _ _ _ _ ↦ trivial

/-! ### `refundByBooking` -/

/-- A refunded payment of the booking is stored. -/
def RefundedPayment (b : Id) (s : Db) : Prop :=
  ∃ p ∈ s.payments.rows, p.bookingId = b ∧ p.status = .refunded

private theorem refundedPayment_stable (b : Id) :
    (M.rules provider).Stable t j fun c _ ↦ RefundedPayment b c.state := by
  intro u i c g c' g' _ _ _ _ hm h
  obtain ⟨p, hp, hb, hs⟩ := h
  obtain ⟨q, hq, hqs, ho⟩ := hm.refunded (Table.find_of_mem hp) hs
  exact ⟨q, (Table.find_eq_some_iff.mp hq).1, (Payment.bookingId_of_order ho).trans hb, hqs⟩

/-- What a refund tells when it was processed. -/
def Processed (b : Id) (r : Refund) (s : Db) : Prop := r.status = .processed → RefundedPayment b s

private theorem processed_stable (b : Id) (r : Refund) :
    (M.rules provider).Stable t j fun c _ ↦ Processed b r c.state :=
  Rules.Stable.imp fun _ ↦ refundedPayment_stable b

/-- Thread `t` works on a stored refund of a payment of the booking; `status` is the status
that the refund is stored with. -/
structure Refunds (t : Nat) (b : Id) (status : Option RefundStatus) (l : Refunding) (s : Db)
    (g : Owners) : Prop where
  own : g.refunder l.refund.id = some t
  stored : ∃ r, s.refunds.find l.refund.id = some r ∧ r.paymentId = l.payment.id ∧
    ∀ st ∈ status, r.status = st
  payment : l.refund.paymentId = l.payment.id
  settled : Settled l.payment s
  booking : l.payment.bookingId = b

variable {b : Id} {status : Option RefundStatus}

private theorem refunds_stable (l : Refunding) :
    (M.rules provider).Stable t j fun c g ↦ Refunds t b status l c.state g := by
  intro u i c g c' g' hu hx hi hi' hm h
  obtain ⟨r, hr, hp⟩ := h.stored
  exact ⟨hm.refunder _ _ (Ne.symm hu) h.own, ⟨r, hm.refund hu h.own hr, hp⟩, h.payment,
    settled_stable l.payment u i c g c' g' hu hx hi hi' hm h.settled, h.booking⟩

/-- Assigning columns of the refund other than its payment. -/
theorem Refunds.assign {l l' : Refunding} {s : Db} {g : Owners} (h : Refunds t b status l s g)
    (hi : l'.refund.id = l.refund.id) (hp : l'.refund.paymentId = l.refund.paymentId)
    (ho : l'.payment.order = l.payment.order) : Refunds t b status l' s g := by
  have hid := Payment.id_of_order ho
  constructor
  · rw [hi]
    exact h.own
  · rw [hi, hid]
    exact h.stored
  · rw [hp, hid]
    exact h.payment
  · unfold Settled
    rw [hid, ho]
    exact h.settled
  · rw [Payment.bookingId_of_order ho]
    exact h.booking

/-- What is stored need not be known. -/
theorem Refunds.weaken {l : Refunding} {s : Db} {g : Owners} (h : Refunds t b status l s g) :
    Refunds t b none l s g := by
  obtain ⟨r, hr, hp, -⟩ := h.stored
  exact ⟨h.own, ⟨r, hr, hp, fun _ hst ↦ by cases hst⟩, h.payment, h.settled, h.booking⟩

private theorem refunds_pass (o : Op) (ho : o.silent = true) :
    (M.rules provider).Holds t j (PaymentService.await o : Code sig Refunding (Res o))
      (fun l c g ↦ Refunds t b status l c.state g)
      (fun _ l c g ↦ Refunds t b status l c.state g)
      (fun _ l c g ↦ Refunds t b status l c.state g) := by
  apply Holds.observe ho
  · exact fun _ ↦ refunds_stable
  · exact refunds_stable
  · intro _ l c c' g hc h
    rw [hc]
    exact h
  · intro l c c' g x a hc hi h hm ha
    rw [hc]
    exact h

private theorem saveRefund_holds {st : RefundStatus} (m : Refunding) :
    (M.rules provider).Holds t j
      (PaymentService.await (.saveRefund m.refund) : Code sig Refunding Unit)
      (fun l c g ↦ l = m ∧ m.refund.status = st ∧ Refunds t b none m c.state g)
      (fun _ l c g ↦ l.refund.status = st ∧ Refunds t b (some st) l c.state g)
      (fun _ l c g ↦ Refunds t b none l c.state g) := by
  apply Holds.await
  · exact fun _ l ↦ (Rules.Stable.const _).and (refunds_stable l)
  · exact refunds_stable
  · rintro - l c c' g hc ⟨rfl, -, h⟩
    rw [hc]
    exact h
  · rintro l c g x hi ⟨rfl, hst, h⟩ -
    refine ⟨g, hi.saveRefund (hi.refunder _ _ h.own) h.own, Moves.saveRefund h.own, ?_⟩
    intro c' hc
    have hc : c'.state = { c.state with refunds := c.state.refunds.put l.refund } := hc
    show l.refund.status = st ∧ Refunds t b (some st) l c'.state g
    rw [hc]
    have found : (c.state.refunds.put l.refund).find l.refund.id = some l.refund :=
      Table.find_put_self _ _
    refine ⟨hst, h.own, ⟨l.refund, found, h.payment, ?_⟩, h.payment, h.settled, h.booking⟩
    intro st' he
    cases he
    exact hst

private theorem savePayment_holds (m : Refunding) :
    (M.rules provider).Holds t j
      (PaymentService.await (.save m.payment) : Code sig Refunding Unit)
      (fun l c g ↦ l = m ∧ m.payment.status = .refunded ∧
        Refunds t b (some .processed) m c.state g)
      (fun _ _ c _ ↦ RefundedPayment b c.state)
      (fun _ l c g ↦ Refunds t b none l c.state g) := by
  apply Holds.await
  · exact fun _ _ ↦ refundedPayment_stable b
  · exact refunds_stable
  · rintro - l c c' g hc ⟨rfl, -, h⟩
    rw [hc]
    exact h.weaken
  · rintro l c g x hi ⟨rfl, hst, h⟩ -
    obtain ⟨r, hr, hrp, hrs⟩ := h.stored
    obtain ⟨q, hq, hqs, ho⟩ := h.settled
    have hid : l.payment.id < c.state.nextId :=
      (Table.find_eq_some_iff.mp hq).2 ▸ hi.payments q (Table.find_eq_some_iff.mp hq).1
    obtain ⟨hmem, hrid⟩ := Table.find_eq_some_iff.mp hr
    -- the refund is final from now on
    refine ⟨g.refund l.refund.id none, ?_, ?_, ?_⟩
    · apply (hi.finish l.refund.id).save hid
      intro _
      exact ⟨r, hmem, hrp, hrs _ rfl, by simp [Owners.refund, hrid]⟩
    · refine Moves.save (.refunded hq hqs ho.symm hst) ?_ rfl
      intro n u hu hn
      have hne : n ≠ l.refund.id := by
        rintro rfl
        rw [h.own] at hn
        exact hu (Option.some.inj hn).symm
      simp only [Owners.refund, if_neg hne]
      exact hn
    · intro c' hc
      have hc : c'.state = { c.state with payments := c.state.payments.put l.payment } := hc
      refine ⟨l.payment, ?_, h.booking, hst⟩
      rw [hc]
      exact Table.mem_put.mpr (.inl rfl)

private theorem sendRefund_holds :
    (M.rules provider).Holds t j sendRefund (fun l c g ↦ Refunds t b none l c.state g)
      (fun _ l c _ ↦ Processed b l.refund c.state)
      (fun _ l c g ↦ Refunds t b none l c.state g) := by
  have known : ∀ {α : Type} {m : Refunding} {k : Code sig Refunding α}
      {Q : α → Refunding → (M.rules provider).Fact}
      {E : Exception → Refunding → (M.rules provider).Fact},
      (M.rules provider).Holds t j k (fun l c g ↦ Refunds t b none l c.state g) Q E →
      (M.rules provider).Holds t j k (fun l c g ↦ l = m ∧ Refunds t b none m c.state g) Q E := by
    intro α m k Q E h
    apply h.pre
    rintro l c g _ ⟨rfl, h⟩
    exact h
  unfold sendRefund
  apply Rules.Holds.read
  intro m
  apply known
  apply Rules.Holds.bind (getByProvider_holds _ fun _ _ _ h ↦ h)
  intro gateway
  apply Rules.Holds.read
  intro m'
  apply known
  apply Rules.Holds.read
  intro m''
  apply known
  apply Rules.Holds.bind (refunds_pass (.refund _ _ _) rfl)
  intro refundResult
  dsimp only
  split
  · apply Rules.Holds.bind (I := fun _ l c g ↦ l.refund.status = .processed ∧
      Refunds t b none l c.state g)
    · exact Rules.Holds.assign _ fun l c g _ h ↦ ⟨rfl, h.assign rfl rfl rfl⟩
    intro _
    apply Rules.Holds.read
    intro m
    apply Rules.Holds.bind (saveRefund_holds m)
    intro _
    apply Rules.Holds.bind (I := fun _ l c g ↦ l.payment.status = .refunded ∧
      Refunds t b (some .processed) l c.state g)
    · exact Rules.Holds.assign _ fun l c g _ h ↦ ⟨rfl, h.2.assign rfl rfl rfl⟩
    intro _
    apply Rules.Holds.read
    intro m
    apply Rules.Holds.bind (savePayment_holds m)
    intro _
    apply Rules.Holds.read
    intro m
    apply Rules.Holds.pre (P := fun _ c _ ↦ RefundedPayment b c.state) _ fun _ _ _ _ h ↦ h.2
    apply Rules.Holds.read
    intro m'
    apply Rules.Holds.pre (P := fun _ c _ ↦ RefundedPayment b c.state) _ fun _ _ _ _ h ↦ h.2
    apply (emit_holds (E := fun l c g ↦ Refunds t b none l c.state g) _ _ _ _).post
    · exact fun _ _ _ _ _ h _ ↦ h
    · exact fun _ _ _ _ _ h ↦ h
    · intro l c c' g hc h
      rw [hc]
      exact h
    · exact fun _ ↦ refundedPayment_stable b
    · exact refunds_stable
  · apply Rules.Holds.bind (I := fun _ l c g ↦ l.refund.status = .failed ∧
      Refunds t b none l c.state g)
    · exact Rules.Holds.assign _ fun l c g _ h ↦ ⟨rfl, h.assign rfl rfl rfl⟩
    intro _
    apply Rules.Holds.read
    intro m
    apply (saveRefund_holds m).post
    · intro _ l c g _ h hs
      rw [h.1] at hs
      cases hs
    · exact fun _ _ _ _ _ h ↦ h

private theorem failRefund_holds (error : Exception)
    {Q : Unit → Refunding → (M.rules provider).Fact} :
    (M.rules provider).Holds t j (failRefund error)
      (fun l c g ↦ Refunds t b none l c.state g) Q (fun _ _ _ _ ↦ True) := by
  unfold failRefund
  apply Rules.Holds.bind (I := fun _ l c g ↦ l.refund.status = .failed ∧
    Refunds t b none l c.state g)
  · exact Rules.Holds.assign _ fun l c g _ h ↦ ⟨rfl, h.assign rfl rfl rfl⟩
  intro _
  apply Rules.Holds.read
  intro m
  apply Rules.Holds.bind (I := fun _ _ _ _ ↦ True)
  · apply (saveRefund_holds m).post
    · exact fun _ _ _ _ _ _ ↦ trivial
    · exact fun _ _ _ _ _ _ ↦ trivial
  intro _
  exact Rules.Holds.raise _ fun _ _ _ _ _ ↦ trivial

private theorem findSucceeded_holds (b : Id) :
    (M.rules provider).Holds t j
      (PaymentService.await (.findSucceeded b) : Code sig L (Option Payment)) (fun _ _ _ ↦ True)
      (fun found _ c _ ↦ ∀ p, found = some p → p.bookingId = b ∧ Settled p c.state)
      (fun _ _ _ _ ↦ True) := by
  apply Holds.observe rfl
  · intro found _
    exact Rules.Stable.all fun p ↦ Rules.Stable.imp fun _ ↦
      (Rules.Stable.const _).and (settled_stable p)
  · exact fun _ ↦ Rules.Stable.const True
  · exact fun _ _ _ _ _ _ _ ↦ trivial
  · intro l c c' g x found hc hi _ hm hfound p hp
    have answer : c.state.payment? (fun p ↦ p.bookingId = b && p.status = .succeeded) = some p :=
      (Except.ok.inj hfound).trans hp
    have cond : p.bookingId = b ∧ p.status = .succeeded := by simpa using List.find?_some answer
    rw [hc]
    refine ⟨cond.1, p, ?_, by simp [Payment.settled, cond.2], rfl⟩
    exact Table.find_of_mem (List.mem_of_find?_eq_some answer)

private theorem findRefundByKey_holds {key reason : String}
    (hj : j.request = .refundPayment b key reason) {P : L → (M.rules provider).Fact}
    (frame : ∀ l c c' g, c'.state = c.state → P l c g → P l c' g)
    (stable : ∀ l, (M.rules provider).Stable t j (P l)) :
    (M.rules provider).Holds t j
      (PaymentService.await (.findRefundByKey key) : Code sig L (Option Refund)) P
      (fun found l c g ↦ (∀ r, found = some r → M.ownRefunds = true → Processed b r c.state) ∧
        P l c g) (fun _ _ _ _ ↦ True) := by
  apply Holds.observe rfl
  · intro found l
    exact (Rules.Stable.all fun r ↦ Rules.Stable.imp fun _ ↦ Rules.Stable.imp fun _ ↦
      processed_stable b r).and (stable l)
  · exact fun _ ↦ Rules.Stable.const True
  · exact fun _ _ _ _ _ _ _ ↦ trivial
  · intro l c c' g x found hc hi hp hm hfound
    refine ⟨?_, frame l c c' g hc hp⟩
    intro r hr hM hst
    have own : OwnRefund c.state (.refundPayment b key reason) (.findRefundByKey key) :=
      hj ▸ hm.2 hM
    have answer : c.state.refund? (fun r ↦ r.idempotencyKey = key) = some r :=
      (Except.ok.inj hfound).trans hr
    obtain ⟨p, hmem, -, hb, hs⟩ := own r answer hst
    rw [hc]
    exact ⟨p, hmem, hb, hs⟩

private theorem insertRefund_holds {p : Payment} {r : Refund} (hr : r.paymentId = p.id)
    (hb : p.bookingId = b) :
    (M.rules provider).Holds t j (PaymentService.await (.insertRefund r) : Code sig L Refund)
      (fun _ c _ ↦ Settled p c.state) (fun saved _ c g ↦ Refunds t b none ⟨saved, p⟩ c.state g)
      (fun _ _ _ _ ↦ True) := by
  apply Holds.await
  · exact fun saved _ ↦ refunds_stable ⟨saved, p⟩
  · exact fun _ ↦ Rules.Stable.const True
  · exact fun _ _ _ _ _ _ _ ↦ trivial
  · intro l c g x hi h _
    let saved : Refund := { r with id := c.state.nextId }
    have unclaimed : g.refunder saved.id = none := by
      cases ho : g.refunder saved.id with
      | none => rfl
      | some u => exact absurd (hi.refunder _ _ ho) (Nat.lt_irrefl _)
    refine ⟨g.refund saved.id (some t), hi.insertRefund t rfl,
      Moves.insertRefund hi.findRefund_unused unclaimed, ?_⟩
    intro c' hc
    have hc : c'.state = { c.state with
      refunds := c.state.refunds.put saved, nextId := c.state.nextId + 1 } := hc
    show Refunds t b none ⟨saved, p⟩ c'.state _
    rw [hc]
    refine ⟨by simp [Owners.refund], ⟨saved, Table.find_put_self _ saved, hr, ?_⟩, hr, h, hb⟩
    intro st he
    cases he

private theorem refundByBooking_holds {key reason : String}
    (hj : j.request = .refundPayment b key reason) :
    (M.rules provider).Holds t j (refundByBooking b key (some reason)) (fun _ _ _ ↦ True)
      (fun r _ c _ ↦ M.ownRefunds = true → Processed b r c.state) (fun _ _ _ _ ↦ True) := by
  unfold refundByBooking
  apply Rules.Holds.bind (findSucceeded_holds b)
  intro found
  cases found with
  | none => exact Rules.Holds.raise _ fun _ _ _ _ _ ↦ trivial
  | some payment =>
    apply Rules.Holds.pre (P := fun _ c _ ↦ payment.bookingId = b ∧ Settled payment c.state)
    · apply Rules.Holds.bind (findRefundByKey_holds hj _ _)
      · intro found
        cases found with
        | some existing => exact Rules.Holds.ret existing fun _ _ _ _ h ↦ h.1 existing rfl
        | none =>
          apply Rules.Holds.pre (P := fun _ c _ ↦ payment.bookingId = b ∧ Settled payment c.state)
          · apply Rules.Holds.assume
            intro hb
            apply Rules.Holds.bind (insertRefund_holds rfl hb)
            intro savedRefund
            apply Rules.Holds.on
            intro l
            apply Rules.Holds.bind (I := fun _ l c _ ↦ Processed b l.refund c.state)
            · apply Rules.Holds.tryCatch
              · apply sendRefund_holds.pre
                rintro l c g _ ⟨rfl, h⟩
                exact h
              · exact fun error ↦ failRefund_holds error
            intro _
            apply Rules.Holds.read
            intro m
            exact Rules.Holds.ret _ fun l c g _ h _ ↦ h.2
          · exact fun _ _ _ _ h ↦ h.2
      · intro l c c' g hc h
        rw [hc]
        exact h
      · exact fun _ ↦ (Rules.Stable.const _).and (settled_stable payment)
    · exact fun _ _ _ _ h ↦ h payment rfl

/-! ### Runs -/

/-- The runs that start without rows. -/
abbrev Reach (G : Regime (service provider)) : Pool (service provider) → Prop :=
  Pool.Reach G fun s ↦ s = Db.empty

/-- Payment `id` is one of the request and succeeded; it may have been refunded since. -/
def ChargedPayment (dto : InitiatePaymentRequest) (id : Id) (s : Db) : Prop :=
  ∃ p ∈ s.payments.rows, p.id = id ∧ p.settled = true ∧ p.bookingId = dto.bookingId ∧
    p.amount = dto.amount ∧ p.currency = dto.currency

/-- What a reply says about the database. -/
def Told (M : Mode) (request : Request) (reply : Except Exception Reply) (s : Db) : Prop :=
  match request, reply with
  | .initiatePayment dto, .ok (.payment (some info)) =>
    M.newKeys = true → info.status = .succeeded → ChargedPayment dto info.id s
  | .refundPayment b _ _, .ok (.refund true _ _) => M.ownRefunds = true → RefundedPayment b s
  | _, _ => True

private theorem grpcInitiatePayment_holds (issuer : Option Id) (dto : InitiatePaymentRequest) :
    (M.rules provider).Holds t ⟨issuer, .initiatePayment dto⟩ (grpcInitiatePayment provider dto)
      (fun _ _ _ ↦ True) (fun reply _ c _ ↦ Told M (.initiatePayment dto) (.ok reply) c.state)
      (fun _ _ _ _ ↦ True) := by
  unfold grpcInitiatePayment
  apply Rules.Holds.bind initiatePayment_holds
  intro payment
  apply Rules.Holds.ret
  intro _ c _ _ h hM hs
  obtain ⟨⟨q, hq, hqs, ho⟩, hb, ha, hc⟩ := h hM hs
  simp only [Payment.order, Prod.mk.injEq] at ho
  obtain ⟨hqi, hqb, -, hqa, hqc⟩ := ho
  exact ⟨q, (Table.find_eq_some_iff.mp hq).1, hqi, hqs, hqb.trans hb, hqa.trans ha, hqc.trans hc⟩

private theorem grpcRefundPayment_holds (issuer : Option Id) (b : Id) (key reason : String) :
    (M.rules provider).Holds t ⟨issuer, .refundPayment b key reason⟩
      (grpcRefundPayment b key reason) (fun _ _ _ ↦ True)
      (fun reply _ c _ ↦ Told M (.refundPayment b key reason) (.ok reply) c.state)
      (fun _ _ _ _ ↦ True) := by
  unfold grpcRefundPayment
  apply Rules.Holds.tryCatch
  · apply Rules.Holds.bind (refundByBooking_holds rfl)
    intro refund
    apply Rules.Holds.ret
    intro _ c _ _ h
    by_cases hs : refund.status = .processed
    · simp only [Told, hs, decide_true]
      exact fun hM ↦ h hM hs
    · simp only [Told, hs, decide_false]
  · intro error
    exact Rules.Holds.ret _ fun _ _ _ _ _ ↦ trivial

/-- Every job keeps the rules, and its reply tells the truth. -/
theorem sound (M : Mode) (provider : String) :
    (M.rules provider).Sound (fun s ↦ s = Db.empty)
      (fun _ j r c _ ↦ Told M j.request r c.state) where
  init := by
    rintro _ rfl
    exact ⟨_, Inv.empty⟩
  jobs t j := by
    obtain ⟨issuer, request⟩ := j
    apply Rules.Holds.prog
    have quiet : ∀ (e : Exception) s, Told M request (.error e) s := by
      intro e s
      cases request <;> trivial
    have unimplemented : ∀ e : Exception,
        (M.rules provider).Holds t ⟨issuer, request⟩ (throw e : Code sig Unit Reply)
          (fun _ _ _ ↦ True) (fun reply _ c _ ↦ Told M request (.ok reply) c.state)
          (fun e _ c _ ↦ Told M request (.error e) c.state) :=
      fun e ↦ Rules.Holds.raise _ fun _ _ _ _ _ ↦ quiet e _
    cases request with
    | initiatePayment dto =>
      apply (grpcInitiatePayment_holds issuer dto).post
      · exact fun _ _ _ _ _ h ↦ h
      · exact fun e _ _ _ _ _ ↦ quiet e _
    | refundPayment b key reason =>
      apply (grpcRefundPayment_holds issuer b key reason).post
      · exact fun _ _ _ _ _ h ↦ h
      · exact fun e _ _ _ _ _ ↦ quiet e _
    | _ => exact unimplemented _

/-- A reply that was sent tells the truth about the database. -/
theorem reach_told {p : Pool (service provider)} (hp : Reach (M.regime provider) p) {t : Nat}
    {j : Job} {r : Except Exception Reply} (ht : p.At t j (.ret r)) :
    Told M j.request r p.conf.state := by
  obtain ⟨g, -, h⟩ := (sound M provider).ended hp ht fun _ h ↦ h
  exact h

/-- A refunded payment has a processed refund. -/
theorem reach_refunded {p : Pool (service provider)} (hp : Reach (M.regime provider) p)
    {q : Payment} (hq : q ∈ p.conf.state.payments.rows) (hs : q.status = .refunded) :
    ∃ r ∈ p.conf.state.refunds.rows, r.paymentId = q.id ∧ r.status = .processed := by
  obtain ⟨g, hi⟩ := (sound M provider).inv hp
  obtain ⟨r, hr, hrp, hrs, -⟩ := hi.refunded q hq hs
  exact ⟨r, hr, hrp, hrs⟩

end Ticketing.PaymentService
