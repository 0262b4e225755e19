import Ticketing.PaymentService.Controllers
import Ticketing.Store.Receipts

/-!
# The books of the payment service

Library `PaymentService`. What each thread of the controllers has done with money: the payment that
it inserted, the payment that it found, and the refund of that one. A thread asks the gateway for
one charge and for one refund at most, and the rows that it saves claim no more than it was told.
-/

namespace Ticketing.PaymentService

open Async Store

/-- What a gateway is asked to charge. -/
structure Charge where
  provider : String
  amount : Money
  currency : String
  idempotencyKey : String
  deriving DecidableEq, Repr

/-- What a gateway is asked to pay back. -/
structure Transfer where
  provider : String
  providerTxId : String
  amount : Money
  deriving DecidableEq, Repr

/-- What a request asks a gateway to charge. -/
def Charge.of (provider : String) (request : PaymentGatewayRequest) : Charge :=
  ⟨provider, request.amount, request.currency, request.idempotencyKey⟩

/-- What is charged for a payment. -/
def Payment.charge (p : Payment) : Charge := ⟨p.provider, p.amount, p.currency, p.idempotencyKey⟩

/-- The columns that are never assigned after the payment was inserted. -/
def Payment.terms (p : Payment) : (Id × Id × String × Money × String) × String :=
  (p.order, p.provider)

/-- The payment of a refund, and what is paid back of it. -/
def Refund.claim (r : Refund) : Id × Money := (r.paymentId, r.amount)

/-- The operation asks a gateway for a charge. -/
def Op.charges : Op → Bool
  | .charge _ _ => true
  | _ => false

/-- The operation asks a gateway to pay back. -/
def Op.transfers : Op → Bool
  | .refund _ _ _ => true
  | _ => false

/-- What a thread has done with money. -/
structure Books where
  /-- The payment that it inserted, as it is stored, and whether the gateway charged it. -/
  payment : Option (Payment × Bool) := none
  /-- The gateway was asked for a charge. -/
  charged : Bool := false
  /-- The transaction of the charge. -/
  providerTxId : Option String := none
  /-- The succeeded payment that it found. -/
  found : Option Payment := none
  /-- The refund that it inserted, as it is stored, and whether the gateway paid back. -/
  refund : Option (Refund × Bool) := none
  /-- The gateway was asked for a refund. -/
  sent : Bool := false
  /-- The payment was saved as refunded. -/
  closed : Bool := false
  /-- A row could not be saved. -/
  unsaved : Bool := false

namespace Books

/-- What an operation changes. -/
def next : Books → (o : Op) → sig.Answer o → Books
  | s, .insert _, .ok p => { s with payment := some (p, false) }
  | s, .charge _ _, .ok response =>
    { s with
      charged := true, providerTxId := response.providerTxId
      payment := s.payment.map fun row ↦ (row.1, response.success) }
  | s, .charge _ _, .error _ => { s with charged := true }
  | s, .save p, .ok _ =>
    match s.found with
    | some _ => { s with closed := true }
    | none => { s with payment := s.payment.map fun row ↦ (p, row.2) }
  | s, .findSucceeded _, .ok (some p) => { s with found := some p }
  | s, .insertRefund _, .ok r => { s with refund := some (r, false) }
  | s, .refund _ _ _, .ok response =>
    { s with sent := true, refund := s.refund.map fun row ↦ (row.1, response.success) }
  | s, .refund _ _ _, .error _ => { s with sent := true }
  | s, .saveRefund r, .ok _ => { s with refund := s.refund.map fun row ↦ (r, row.2) }
  | s, .save _, .error _ | s, .saveRefund _, .error _ => { s with unsaved := true }
  | s, _, _ => s

/-- The status of a payment that may be saved: it succeeded only if the gateway charged it. -/
def Settles (s : Books) (b : Bool) (p : Payment) : Prop :=
  p.status = .processing ∨ p.status = .failed ∨
    (p.status = .succeeded ∧ b = true ∧ p.providerTxId = s.providerTxId)

/-- A thread charges the payment that it inserted, and refunds the one that it found. -/
def may (s : Books) : Op → Prop
  | .insert p => s = {} ∧ p.status = .initiated
  | .charge provider request =>
    s.charged = false ∧ ∃ p, s.payment = some (p, false) ∧ p.status = .processing ∧
      p.charge = .of provider request
  | .save p =>
    (∃ q b, s.found = none ∧ s.payment = some (q, b) ∧ q.settled = false ∧ p.terms = q.terms ∧
      s.Settles b p) ∨
    ∃ q r, s.found = some q ∧ s.refund = some (r, true) ∧ r.status = .processed ∧
      r.paymentId = q.id ∧ p = { q with status := .refunded }
  | .findSucceeded _ => s = {}
  | .insertRefund r =>
    s.refund = none ∧ r.status = .pending ∧ ∃ q, s.found = some q ∧ r.claim = (q.id, q.amount)
  | .refund provider providerTxId amount =>
    s.sent = false ∧ ∃ q r, s.found = some q ∧ s.refund = some (r, false) ∧
      r.claim = (q.id, q.amount) ∧ provider = q.provider ∧
      providerTxId = q.providerTxId.getD "" ∧ amount = q.amount
  | .saveRefund r =>
    s.closed = false ∧ ∃ q b, s.refund = some (q, b) ∧ r.id = q.id ∧ r.claim = q.claim ∧
      (r.status = .processed → b = true)
  | .findByKey _ | .findRefundByKey _ | .emit _ | .now => True

/-- Unless a row could not be saved, the rows of the thread tell what the gateway did. -/
def Done (s : Books) : Prop :=
  s.unsaved = true ∨
    (∀ p b, s.payment = some (p, b) → p.status = .succeeded ∨ p.status = .failed ∧ b = false) ∧
    ∀ r b, s.refund = some (r, b) → r.status = .processed ∨ r.status = .failed ∧ b = false

end Books

/-- The books of each thread of the controllers. -/
def books (provider : String) : Monitor (controllers provider) Books where
  init := {}
  next := Books.next
  may _ := Books.may

variable {provider : String} {j : Inbound} {L : Type}

private theorem not_gives_error {o : Op} (ho : o.fallible = false) {e : Exception} :
    ¬ (controllers provider).Gives o (.error e) := by
  rintro ⟨x, s, h⟩
  rcases exec_cases x o s with ⟨hf, -⟩ | he
  · rw [ho] at hf
    cases hf
  · have answer := congrArg Prod.fst he
    rw [h] at answer
    cases o <;> first | cases answer | cases ho

private theorem aside_books {o : Op} (ho : o.fallible = false) {I : L → Books → Prop}
    {E : Exception → L → Books → Prop} :
    (books provider).Holds j I (PaymentService.await o : Code sig L (Res o)) (fun _ ↦ I) E := by
  apply Monitor.Holds.await
  · intro l s _
    cases o <;> trivial
  · intro a l s _ h
    cases o <;> first | exact h | cases ho
  · exact fun e _ _ he _ ↦ absurd he (not_gives_error ho)

/-- A refund that is inserted is numbered. -/
theorem insertRefund_of_gives {r saved : Refund}
    (h : (controllers provider).Gives (.insertRefund r) (.ok saved)) :
    ∃ n, saved = { r with id := n } := by
  obtain ⟨x, s, h⟩ := h
  rcases exec_cases x (.insertRefund r) s with ⟨-, e, he⟩ | he
  · have answer := congrArg Prod.fst he
    rw [h] at answer
    cases answer
  · have answer := congrArg Prod.fst he
    rw [h] at answer
    exact ⟨s.nextId, Except.ok.inj answer⟩

private theorem gateway_books (name : String) {I : L → Books → Prop}
    {E : Exception → L → Books → Prop} (fail : ∀ e l s, I l s → E e l s) :
    (books provider).Holds j I (getByProvider name) (fun gateway l s ↦ gateway = name ∧ I l s)
      E := by
  unfold getByProvider
  split
  · next same => exact Monitor.Holds.ret _ fun _ _ h ↦ ⟨same.symm, h⟩
  · split
    · next same => exact Monitor.Holds.ret _ fun _ _ h ↦ ⟨same.symm, h⟩
    · exact Monitor.Holds.raise _ fun l s h ↦ fail _ l s h

/-! ### `initiatePayment` -/

/-- The thread has inserted the payment, the gateway has charged it or not, and the entity is the
payment but for its status. -/
structure Open (p : Payment) (b : Bool) (l : Payment) (s : Books) : Prop where
  row : ∃ q, s.payment = some (q, b) ∧ q.terms = p.terms ∧ q.settled = false
  entity : l.terms = p.terms
  found : s.found = none
  refund : s.refund = none

/-- Columns outside the terms are assigned. -/
theorem Open.assign {p l l' : Payment} {b : Bool} {s : Books} (h : Open p b l s)
    (ht : l'.terms = l.terms) : Open p b l' s :=
  ⟨h.row, ht.trans h.entity, h.found, h.refund⟩

/-- A save of a row that fails keeps its books open. -/
theorem Open.fail {p l : Payment} {b : Bool} {s : Books} (h : Open p b l s) :
    Open p b l { s with unsaved := true } :=
  ⟨h.row, h.entity, h.found, h.refund⟩

/-- A save of an unsettled row keeps its books open. -/
theorem Open.saved {p l : Payment} {b : Bool} {s : Books} (h : Open p b l s)
    (unsettled : l.settled = false) : Open p b l { s with payment := some (l, b) } :=
  ⟨⟨l, rfl, h.entity, unsettled⟩, h.entity, h.found, h.refund⟩

private theorem saveOpen_books {p x : Payment} {b : Bool} {P : Payment → Books → Prop}
    {Q : Unit → Payment → Books → Prop} {E : Exception → Payment → Books → Prop}
    (h : ∀ l s, P l s → Open p b x s ∧ s.Settles b x)
    (ok : ∀ l s, P l s → Q () l { s with payment := some (x, b) })
    (fail : ∀ e l s, P l s → E e l { s with unsaved := true }) :
    (books provider).Holds j P (PaymentService.await (.save x) : Code sig Payment Unit) Q E := by
  apply Monitor.Holds.await
  · intro l s hl
    obtain ⟨⟨⟨q, hq, terms, unsettled⟩, entity, found, -⟩, settles⟩ := h l s hl
    exact .inl ⟨q, b, found, hq, unsettled, entity.trans terms.symm, settles⟩
  · intro _ l s _ hl
    obtain ⟨⟨⟨q, hq, -, -⟩, -, found, -⟩, -⟩ := h l s hl
    have next : (books provider).next s (.save x) (.ok ()) = { s with payment := some (x, b) } := by
      simp only [books, Books.next, found, hq, Option.map_some]
    rw [next]
    exact ok l s hl
  · exact fun e l s _ hl ↦ fail e l s hl

/-- The charge failed, or a row could not be saved. -/
def Lost (p : Payment) (l : Payment) (s : Books) : Prop :=
  ∃ b, Open p b l s ∧ (b = true → s.unsaved = true)

private theorem settle_books {p : Payment} {b : Bool} {tx : Option String} {f : Payment → Payment}
    (terms : ∀ l, (f l).terms = l.terms)
    (settles : ∀ l, (f l).status = .failed ∧ b = false ∨
      (f l).status = .succeeded ∧ b = true ∧ (f l).providerTxId = tx)
    (event : Payment → Emission) :
    (books provider).Holds j (fun l s ↦ Open p b l s ∧ s.providerTxId = tx)
      (do
        PaymentService.assign f
        PaymentService.await (.save (← PaymentService.entity))
        PaymentService.await (.emit (event (← PaymentService.entity))))
      (fun _ _ ↦ Books.Done) fun _ ↦ Lost p := by
  have settles' : ∀ l s, s.providerTxId = tx → Books.Settles s b (f l) := by
    intro l s hs
    rcases settles l with ⟨failed, -⟩ | ⟨succeeded, hb, htx⟩
    · exact .inr (.inl failed)
    · exact .inr (.inr ⟨succeeded, hb, htx.trans hs.symm⟩)
  apply Monitor.Holds.bind (I := fun _ l s ↦ Open p b l s ∧ s.providerTxId = tx ∧ ∃ l₀, l = f l₀)
  · apply Monitor.Holds.assign
    exact fun l s h ↦ ⟨h.1.assign (terms l), h.2, l, rfl⟩
  intro _
  apply Monitor.Holds.read
  intro x
  apply Monitor.Holds.bind (I := fun _ _ ↦ Books.Done)
  · apply saveOpen_books (p := p) (b := b)
    · rintro l s ⟨rfl, h, hs, l₀, rfl⟩
      exact ⟨h, settles' l₀ s hs⟩
    · rintro l s ⟨rfl, h, -, l₀, rfl⟩
      refine .inr ⟨?_, fun r b hr ↦ by cases h.refund.symm.trans hr⟩
      rintro q b' hq
      cases hq
      exact (settles l₀).symm.imp (fun h ↦ h.1) id
    · rintro e l s ⟨rfl, h, -⟩
      exact ⟨b, h.fail, fun _ ↦ rfl⟩
  intro _
  apply Monitor.Holds.skip
  intro x
  exact aside_books rfl

private theorem chargePayment_books {dto : InitiatePaymentRequest} {p : Payment}
    (charge : p.charge = ⟨p.provider, dto.amount, dto.currency, dto.idempotencyKey⟩) :
    (books provider).Holds j (fun l s ↦ Open p false l s ∧ s.charged = false)
      (chargePayment dto) (fun _ _ ↦ Books.Done) fun _ ↦ Lost p := by
  unfold chargePayment
  apply Monitor.Holds.bind (I := fun _ l s ↦ Open p false l s ∧ s.charged = false ∧
    l.status = .processing)
  · apply Monitor.Holds.assign
    exact fun l s h ↦ ⟨h.1.assign (by rfl), h.2, rfl⟩
  intro _
  apply Monitor.Holds.read
  intro x
  apply Monitor.Holds.bind (I := fun _ l s ↦ Open p false l s ∧ s.charged = false ∧
    s.payment = some (l, false) ∧ l.status = .processing)
  · apply saveOpen_books (p := p) (b := false)
    · rintro l s ⟨rfl, h, -, processing⟩
      exact ⟨h, .inl processing⟩
    · rintro l s ⟨rfl, h, charged, processing⟩
      exact ⟨h.saved (by rw [Payment.settled, processing]; rfl), charged, rfl, processing⟩
    · rintro e l s ⟨rfl, h, -⟩
      exact ⟨false, h.fail, fun hb ↦ by cases hb⟩
  intro _
  apply Monitor.Holds.read
  intro x
  apply Monitor.Holds.bind
    (I := fun response l s ↦ Open p response.success l s ∧ s.providerTxId = response.providerTxId)
  · apply Monitor.Holds.await
    · rintro l s ⟨rfl, h, charged, hl, processing⟩
      refine ⟨charged, l, hl, processing, ?_⟩
      have entity : l.charge = p.charge := by
        have := h.entity
        simp only [Payment.terms, Payment.order, Prod.mk.injEq] at this
        simp only [Payment.charge, this]
      have provider : l.provider = p.provider := congrArg Prod.snd h.entity
      rw [entity, charge, ← provider]
      rfl
    · rintro response l s - ⟨rfl, h, -, hl, processing⟩
      refine ⟨⟨⟨l, ?_, h.entity, by rw [Payment.settled, processing]; rfl⟩, h.entity, h.found,
        h.refund⟩, rfl⟩
      simp only [books, Books.next, hl, Option.map_some]
    · rintro e l s - ⟨rfl, h, -⟩
      exact ⟨false, ⟨h.row, h.entity, h.found, h.refund⟩, fun hb ↦ by cases hb⟩
  intro response
  dsimp only
  split
  · next success =>
    apply Monitor.Holds.bind (aside_books rfl)
    intro now
    rw [success]
    exact settle_books (fun _ ↦ by rfl) (fun _ ↦ by exact .inr ⟨rfl, rfl, rfl⟩) _
  · next refused =>
    rw [Bool.not_eq_true] at refused
    rw [refused]
    exact settle_books (fun _ ↦ by rfl) (fun _ ↦ by exact .inl ⟨rfl, rfl⟩) _

private theorem failPayment_books {p : Payment} (error : Exception) :
    (books provider).Holds j (Lost p) (failPayment error) (fun _ _ ↦ Books.Done)
      fun _ _ ↦ Books.Done := by
  unfold failPayment
  apply Monitor.Holds.bind (I := fun _ l s ↦ Lost p l s ∧ l.status = .failed)
  · apply Monitor.Holds.assign
    rintro l s ⟨b, h, unsaved⟩
    exact ⟨⟨b, h.assign (by rfl), unsaved⟩, rfl⟩
  intro _
  apply Monitor.Holds.read
  intro x
  apply Monitor.Holds.bind (I := fun _ _ ↦ Books.Done)
  · rintro l s ⟨rfl, ⟨b, h, unsaved⟩, failed⟩
    apply saveOpen_books (p := p) (b := b) (P := fun l' s' ↦ l' = l ∧ s' = s) _ _ _ l s ⟨rfl, rfl⟩
    · rintro _ _ ⟨rfl, rfl⟩
      exact ⟨h, .inr (.inl failed)⟩
    · rintro _ _ ⟨rfl, rfl⟩
      cases b with
      | true => exact .inl (unsaved rfl)
      | false =>
        refine .inr ⟨?_, fun r b hr ↦ by cases h.refund.symm.trans hr⟩
        rintro q b' hq
        cases hq
        exact .inr ⟨failed, rfl⟩
    · rintro e _ _ ⟨rfl, rfl⟩
      exact .inl rfl
  intro _
  apply Monitor.Holds.skip
  intro x
  apply Monitor.Holds.bind (aside_books rfl)
  intro _
  exact Monitor.Holds.raise _ fun _ _ h ↦ h

/-- A thread without rows has nothing to tell. -/
theorem Books.done_of_idle {s : Books} (payment : s.payment = none) (refund : s.refund = none) :
    s.Done := by
  refine .inr ⟨fun p b h ↦ ?_, fun r b h ↦ ?_⟩
  · cases payment.symm.trans h
  · cases refund.symm.trans h

/-- Empty books are done. -/
theorem Books.done_init : Books.Done {} := Books.done_of_idle rfl rfl

private theorem initiatePayment_books (dto : InitiatePaymentRequest) :
    (books provider).Holds j (fun (_ : Unit) s ↦ s = {}) (initiatePayment provider dto)
      (fun _ _ ↦ Books.Done) (fun _ _ ↦ Books.Done) := by
  have done : ∀ (l : Unit) (s : Books), s = {} → s.Done := by
    rintro l s rfl
    exact Books.done_init
  unfold initiatePayment
  apply Monitor.Holds.bind (I := fun _ _ s ↦ s = {})
  · apply Monitor.Holds.await
    · exact fun _ _ _ ↦ trivial
    · exact fun _ _ _ _ h ↦ h
    · exact fun _ l s _ h ↦ done l s h
  intro found
  cases found with
  | some existing => exact Monitor.Holds.ret _ done
  | none =>
    dsimp only
    apply Monitor.Holds.bind (I := fun _ _ s ↦ s = {})
    · unfold selectGateway
      split
      all_goals
        apply (gateway_books _ fun _ l s h ↦ done l s h).post
        · exact fun _ _ _ h ↦ h.2
        · exact fun _ _ _ h ↦ h
    intro gateway
    apply Monitor.Holds.bind (I := fun saved _ s ↦ s = { payment := some (saved, false) } ∧
      saved.status = .initiated ∧
      saved.charge = ⟨saved.provider, dto.amount, dto.currency, dto.idempotencyKey⟩)
    · apply Monitor.Holds.await
      · exact fun _ _ h ↦ ⟨h, rfl⟩
      · rintro saved l s hg rfl
        obtain ⟨n, rfl⟩ := insert_of_gives hg
        exact ⟨rfl, rfl, rfl⟩
      · exact fun _ l s _ h ↦ done l s h
    intro saved
    apply Monitor.Holds.on
    rintro _ l s ⟨rfl, rfl, initiated, charge⟩
    apply (Monitor.runs_bind _ _).mpr
    apply (Monitor.Holds.tryCatch (chargePayment_books charge) failPayment_books l _ _).post
    · exact fun _ _ _ h ↦ Monitor.runs_entity.mpr h
    · exact fun _ _ _ h ↦ h
    · refine ⟨⟨⟨l, rfl, rfl, ?_⟩, rfl, rfl, rfl⟩, rfl⟩
      rw [Payment.settled, initiated]
      rfl

/-! ### `refundByBooking` -/

/-- The thread has inserted the refund of the payment that it found, the gateway has paid back or
not, and the entity is the refund but for its status. -/
structure Owing (q : Payment) (r : Refund) (b : Bool) (l : Refunding) (s : Books) : Prop where
  row : ∃ r', s.refund = some (r', b) ∧ r'.id = r.id ∧ r'.claim = (q.id, q.amount)
  id : l.refund.id = r.id
  claim : l.refund.claim = (q.id, q.amount)
  payment : s.payment = none
  found : s.found = some q
  closed : s.closed = false

/-- A save of a row that fails keeps a refund owing. -/
theorem Owing.fail {q : Payment} {r : Refund} {b : Bool} {l : Refunding} {s : Books}
    (h : Owing q r b l s) : Owing q r b l { s with unsaved := true } :=
  ⟨h.row, h.id, h.claim, h.payment, h.found, h.closed⟩

/-- A save of the refund keeps it owing. -/
theorem Owing.saved {q : Payment} {r : Refund} {b : Bool} {l : Refunding} {s : Books}
    (h : Owing q r b l s) : Owing q r b l { s with refund := some (l.refund, b) } :=
  ⟨⟨l.refund, rfl, h.id, h.claim⟩, h.id, h.claim, h.payment, h.found, h.closed⟩

/-- Columns of the refund outside its claim are assigned. -/
theorem Owing.assign {q : Payment} {r : Refund} {b : Bool} {l l' : Refunding} {s : Books}
    (h : Owing q r b l s) (id : l'.refund.id = l.refund.id)
    (claim : l'.refund.claim = l.refund.claim) : Owing q r b l' s :=
  ⟨h.row, id.trans h.id, claim.trans h.claim, h.payment, h.found, h.closed⟩

private theorem saveOwing_books {q : Payment} {r : Refund} {b : Bool} {x : Refunding}
    {P : Refunding → Books → Prop} {Q : Unit → Refunding → Books → Prop}
    {E : Exception → Refunding → Books → Prop}
    (h : ∀ l s, P l s → Owing q r b x s ∧ (x.refund.status = .processed → b = true))
    (ok : ∀ l s, P l s → Q () l { s with refund := some (x.refund, b) })
    (fail : ∀ e l s, P l s → E e l { s with unsaved := true }) :
    (books provider).Holds j P (PaymentService.await (.saveRefund x.refund) :
      Code sig Refunding Unit) Q E := by
  apply Monitor.Holds.await
  · intro l s hl
    obtain ⟨owing, processed⟩ := h l s hl
    obtain ⟨r', hr, id, claim⟩ := owing.row
    exact ⟨owing.closed, r', b, hr, owing.id.trans id.symm, owing.claim.trans claim.symm, processed⟩
  · intro _ l s _ hl
    obtain ⟨r', hr, -, -⟩ := (h l s hl).1.row
    have next : (books provider).next s (.saveRefund x.refund) (.ok ()) =
        { s with refund := some (x.refund, b) } := by
      simp only [books, Books.next, hr, Option.map_some]
    rw [next]
    exact ok l s hl
  · exact fun e l s _ hl ↦ fail e l s hl

/-- The refund is done, if its row tells what the gateway did. -/
theorem Owing.done {q : Payment} {r : Refund} {b : Bool} {l : Refunding} {s : Books}
    (h : Owing q r b l s) (told : l.refund.status = .processed ∨ l.refund.status = .failed ∧
      b = false) : Books.Done { s with refund := some (l.refund, b) } := by
  refine .inr ⟨fun p b hp ↦ ?_, fun r' b' hr ↦ ?_⟩
  · cases h.payment.symm.trans hp
  · cases hr
    exact told

/-- The refund failed, or a row could not be saved. -/
def Unpaid (q : Payment) (r : Refund) (l : Refunding) (s : Books) : Prop :=
  ∃ b, Owing q r b l s ∧ (b = true → s.unsaved = true)

private theorem refund_books {q : Payment} {r : Refund} {providerTxId : String} {amount : Money}
    (tx : providerTxId = q.providerTxId.getD "") (all : amount = q.amount) :
    (books provider).Holds j (fun l s ↦ Owing q r false l s ∧ l.payment = q ∧ s.sent = false)
      (PaymentService.await (.refund q.provider providerTxId amount) :
        Code sig Refunding PaymentGatewayResponse)
      (fun result l s ↦ Owing q r result.success l s ∧ l.payment = q) fun _ ↦ Unpaid q r := by
  apply Monitor.Holds.await
  · rintro l s ⟨h, -, sent⟩
    obtain ⟨r', hr, -, claim⟩ := h.row
    exact ⟨sent, q, r', h.found, hr, claim, rfl, tx, all⟩
  · rintro result l s - ⟨h, hl, -⟩
    obtain ⟨r', hr, id, claim⟩ := h.row
    refine ⟨⟨⟨r', ?_, id, claim⟩, h.id, h.claim, h.payment, h.found, h.closed⟩, hl⟩
    simp only [books, Books.next, hr, Option.map_some]
  · rintro e l s - ⟨h, -⟩
    exact ⟨false, ⟨h.row, h.id, h.claim, h.payment, h.found, h.closed⟩, fun hb ↦ by cases hb⟩

/-- The gateway has paid back, and the stored refund tells so. -/
def Repaying (q : Payment) (r : Refund) (l : Refunding) (s : Books) : Prop :=
  Owing q r true l s ∧ l.refund.status = .processed ∧ s.refund = some (l.refund, true)

private theorem saveProcessed_books {q : Payment} {r : Refund} (m : Refunding) :
    (books provider).Holds j
      (fun l s ↦ l = m ∧ Owing q r true l s ∧ l.payment = q ∧ l.refund.status = .processed)
      (PaymentService.await (.saveRefund m.refund) : Code sig Refunding Unit)
      (fun _ l s ↦ Repaying q r l s ∧ l.payment = q) fun _ ↦ Unpaid q r := by
  apply saveOwing_books (q := q) (r := r) (b := true)
  · rintro l s ⟨rfl, h, -⟩
    exact ⟨h, fun _ ↦ rfl⟩
  · rintro l s ⟨rfl, h, hl, processed⟩
    exact ⟨⟨h.saved, processed, rfl⟩, hl⟩
  · rintro e l s ⟨rfl, h, -⟩
    exact ⟨true, h.fail, fun _ ↦ rfl⟩

private theorem saveRefunded_books {q : Payment} {r : Refund} (m : Refunding) :
    (books provider).Holds j
      (fun l s ↦ l = m ∧ Repaying q r l s ∧ l.payment = { q with status := .refunded })
      (PaymentService.await (.save m.payment) : Code sig Refunding Unit)
      (fun _ _ ↦ Books.Done) fun _ ↦ Unpaid q r := by
  apply Monitor.Holds.await
  · rintro l s ⟨rfl, ⟨h, processed, hr⟩, hl⟩
    exact .inr ⟨q, l.refund, h.found, hr, processed, congrArg Prod.fst h.claim, hl⟩
  · rintro _ l s - ⟨rfl, ⟨h, processed, hr⟩, -⟩
    have next : (books provider).next s (.save l.payment) (.ok ()) = { s with closed := true } := by
      simp only [books, Books.next, h.found]
    rw [next]
    refine .inr ⟨fun p b hp ↦ ?_, fun r' b hr' ↦ ?_⟩
    · cases h.payment.symm.trans hp
    · cases hr.symm.trans hr'
      exact .inl processed
  · rintro e l s - ⟨rfl, ⟨h, -⟩, -⟩
    exact ⟨true, h.fail, fun _ ↦ rfl⟩

private theorem saveFailed_books {q : Payment} {r : Refund} (m : Refunding) :
    (books provider).Holds j
      (fun l s ↦ l = m ∧ Owing q r false l s ∧ l.refund.status = .failed)
      (PaymentService.await (.saveRefund m.refund) : Code sig Refunding Unit)
      (fun _ _ ↦ Books.Done) fun _ ↦ Unpaid q r := by
  apply saveOwing_books (q := q) (r := r) (b := false)
  · rintro l s ⟨rfl, h, failed⟩
    exact ⟨h, fun processed ↦ by rw [failed] at processed; cases processed⟩
  · rintro l s ⟨rfl, h, failed⟩
    exact h.done (.inr ⟨failed, rfl⟩)
  · rintro e l s ⟨rfl, h, -⟩
    exact ⟨false, h.fail, fun _ ↦ rfl⟩

private theorem sendRefund_books {q : Payment} {r : Refund} :
    (books provider).Holds j (fun l s ↦ Owing q r false l s ∧ l.payment = q ∧ s.sent = false)
      sendRefund (fun _ _ ↦ Books.Done) fun _ ↦ Unpaid q r := by
  unfold sendRefund
  apply Monitor.Holds.read
  intro m
  apply Monitor.Holds.bind (I := fun gateway l s ↦ gateway = q.provider ∧ Owing q r false l s ∧
    l.payment = q ∧ s.sent = false)
  · rintro l s ⟨rfl, h⟩
    have provider : l.payment.provider = q.provider := by rw [h.2.1]
    rw [provider]
    exact gateway_books (E := fun _ ↦ Unpaid q r) q.provider
      (fun _ l s h ↦ ⟨false, h.1, fun hb ↦ by cases hb⟩) l s h
  intro gateway
  apply Monitor.Holds.read
  intro m
  apply Monitor.Holds.read
  intro m'
  apply Monitor.Holds.bind (I := fun result l s ↦ Owing q r result.success l s ∧ l.payment = q)
  · rintro l s ⟨rfl, rfl, rfl, h⟩
    rw [h.2.1]
    exact refund_books rfl rfl l s h
  intro result
  dsimp only
  split
  · next success =>
    rw [success]
    apply Monitor.Holds.bind (I := fun _ l s ↦ Owing q r true l s ∧ l.payment = q ∧
      l.refund.status = .processed)
    · exact Monitor.Holds.assign _ fun l s h ↦ ⟨h.1.assign (by rfl) (by rfl), h.2, rfl⟩
    intro _
    apply Monitor.Holds.read
    intro m
    apply Monitor.Holds.bind (saveProcessed_books m)
    intro _
    apply Monitor.Holds.bind (I := fun _ l s ↦ Repaying q r l s ∧
      l.payment = { q with status := .refunded })
    · apply Monitor.Holds.assign
      rintro l s ⟨⟨h, stored⟩, rfl⟩
      exact ⟨⟨h.assign (by rfl) (by rfl), stored⟩, rfl⟩
    intro _
    apply Monitor.Holds.read
    intro m
    apply Monitor.Holds.bind (saveRefunded_books m)
    intro _
    apply Monitor.Holds.skip
    intro m
    apply Monitor.Holds.skip
    intro m'
    exact aside_books rfl
  · next refused =>
    rw [Bool.not_eq_true] at refused
    rw [refused]
    apply Monitor.Holds.bind (I := fun _ l s ↦ Owing q r false l s ∧ l.refund.status = .failed)
    · exact Monitor.Holds.assign _ fun l s h ↦ ⟨h.1.assign (by rfl) (by rfl), rfl⟩
    intro _
    exact Monitor.Holds.read saveFailed_books

private theorem failRefund_books {q : Payment} {r : Refund} (error : Exception) :
    (books provider).Holds j (Unpaid q r) (failRefund error) (fun _ _ ↦ Books.Done)
      fun _ _ ↦ Books.Done := by
  unfold failRefund
  apply Monitor.Holds.bind (I := fun _ l s ↦ Unpaid q r l s ∧ l.refund.status = .failed)
  · apply Monitor.Holds.assign
    rintro l s ⟨b, h, unsaved⟩
    exact ⟨⟨b, h.assign (by rfl) (by rfl), unsaved⟩, rfl⟩
  intro _
  apply Monitor.Holds.read
  intro m
  apply Monitor.Holds.bind (I := fun _ _ ↦ Books.Done)
  · rintro l s ⟨rfl, ⟨b, h, unsaved⟩, failed⟩
    apply saveOwing_books (q := q) (r := r) (b := b) (P := fun l' s' ↦ l' = l ∧ s' = s) _ _ _ l s
      ⟨rfl, rfl⟩
    · rintro _ _ ⟨rfl, rfl⟩
      exact ⟨h, fun processed ↦ by rw [failed] at processed; cases processed⟩
    · rintro _ _ ⟨rfl, rfl⟩
      cases b with
      | true => exact .inl (unsaved rfl)
      | false => exact h.done (.inr ⟨failed, rfl⟩)
    · rintro e _ _ ⟨rfl, rfl⟩
      exact .inl rfl
  intro _
  exact Monitor.Holds.raise _ fun _ _ h ↦ h

private theorem refundByBooking_books (b : Id) (key : String) (reason : Option String) :
    (books provider).Holds j (fun (_ : Unit) s ↦ s = {}) (refundByBooking b key reason)
      (fun _ _ ↦ Books.Done) (fun _ _ ↦ Books.Done) := by
  have done : ∀ (q : Option Payment) (l : Unit) (s : Books), s = { found := q } → s.Done := by
    rintro q l s rfl
    exact Books.done_of_idle rfl rfl
  unfold refundByBooking
  apply Monitor.Holds.bind (I := fun found _ s ↦ s = { found })
  · apply Monitor.Holds.await
    · exact fun _ _ h ↦ h
    · rintro found l s - rfl
      cases found <;> rfl
    · exact fun _ l s _ h ↦ done none l s h
  intro found
  cases found with
  | none => exact Monitor.Holds.raise _ fun l s h ↦ done none l s h
  | some q =>
    dsimp only
    apply Monitor.Holds.bind (I := fun _ _ s ↦ s = { found := some q })
    · apply Monitor.Holds.await
      · exact fun _ _ _ ↦ trivial
      · exact fun _ _ _ _ h ↦ h
      · exact fun _ l s _ h ↦ done (some q) l s h
    intro existing
    cases existing with
    | some existing => exact Monitor.Holds.ret _ fun l s h ↦ done (some q) l s h
    | none =>
      dsimp only
      apply Monitor.Holds.bind (I := fun saved _ s ↦
        s = { found := some q, refund := some (saved, false) } ∧ saved.claim = (q.id, q.amount))
      · apply Monitor.Holds.await
        · rintro l s rfl
          exact ⟨rfl, rfl, q, rfl, rfl⟩
        · rintro saved l s hg rfl
          obtain ⟨n, rfl⟩ := insertRefund_of_gives hg
          exact ⟨rfl, rfl⟩
        · exact fun _ l s _ h ↦ done (some q) l s h
      intro saved
      apply Monitor.Holds.on
      rintro _ l s ⟨rfl, rfl, claim⟩
      apply (Monitor.runs_bind _ _).mpr
      apply (Monitor.Holds.tryCatch (sendRefund_books (q := q) (r := saved)) failRefund_books
        _ _ _).post
      · exact fun _ _ _ h ↦ h
      · exact fun _ _ _ h ↦ h
      · exact ⟨⟨⟨saved, rfl, rfl, claim⟩, rfl, claim, rfl, rfl, rfl⟩, rfl, rfl⟩

/-! ### Requests -/

private theorem run_books (request : Inbound) :
    (books provider).Holds request (fun (_ : Unit) s ↦ s = {}) (request.run provider)
      (fun _ _ ↦ Books.Done) (fun _ _ ↦ Books.Done) := by
  cases request with
  | http dto =>
    apply Monitor.Holds.bind (initiatePayment_books dto)
    exact fun a ↦ Monitor.Holds.ret _ fun _ _ h ↦ h
  | grpc job =>
    obtain ⟨issuer, request⟩ := job
    apply Monitor.Holds.bind (I := fun _ _ ↦ Books.Done)
    · cases request with
      | initiatePayment dto =>
        apply Monitor.Holds.bind (initiatePayment_books dto)
        exact fun a ↦ Monitor.Holds.ret _ fun _ _ h ↦ h
      | refundPayment b key reason =>
        apply Monitor.Holds.tryCatch
        · apply Monitor.Holds.bind (refundByBooking_books b key (some reason))
          exact fun a ↦ Monitor.Holds.ret _ fun _ _ h ↦ h
        · exact fun error ↦ Monitor.Holds.ret _ fun _ _ h ↦ h
      | _ =>
        apply Monitor.Holds.raise
        rintro l s rfl
        exact Books.done_init
    · exact fun reply ↦ Monitor.Holds.ret _ fun _ _ h ↦ h

/-- Every request keeps its books. -/
theorem books_obeys (request : Inbound) :
    (books provider).Obeys request ((controllers provider).code request) (fun _ ↦ Books.Done)
      {} := by
  apply Monitor.obeys_prog.mpr
  apply (run_books request () {} rfl).post
  · exact fun _ _ _ h ↦ h
  · exact fun _ _ _ h ↦ h

end Ticketing.PaymentService
