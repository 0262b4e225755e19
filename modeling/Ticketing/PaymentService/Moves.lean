import Ticketing.PaymentService.Service

/-!
# What one operation of the payment service can do

Library `PaymentService`. What holds of the stored payments and refunds between any two
operations, and the moves that the threads guarantee to each other: only the thread that
inserted a payment stores its outcome, and a payment is refunded once it succeeded.
-/

namespace Ticketing.PaymentService

open Async Store

namespace Payment

/-- The columns that are never assigned after the payment was inserted. -/
def order (p : Payment) : Id × Id × String × Money × String :=
  (p.id, p.bookingId, p.idempotencyKey, p.amount, p.currency)

/-- The payment succeeded; it may have been refunded since. -/
def settled (p : Payment) : Bool := p.status = .succeeded || p.status = .refunded

/-- Payments of the same order have the same identifier. -/
theorem id_of_order {p q : Payment} (h : p.order = q.order) : p.id = q.id := by
  simp only [order, Prod.mk.injEq] at h
  exact h.1

/-- Payments of the same order have the same amount. -/
theorem amount_of_order {p q : Payment} (h : p.order = q.order) : p.amount = q.amount := by
  simp only [order, Prod.mk.injEq] at h
  exact h.2.2.2.1

/-- Payments of the same order are of the same booking. -/
theorem bookingId_of_order {p q : Payment} (h : p.order = q.order) :
    p.bookingId = q.bookingId := by
  simp only [order, Prod.mk.injEq] at h
  exact h.2.1

end Payment

/-! ### The runs under consideration -/

/-- A payment key is looked up while no payment under it has succeeded. -/
def NewKey (s : Db) : Op → Prop
  | .findByKey k => ∀ p ∈ s.payments.rows, p.idempotencyKey = k → p.status ≠ .succeeded
  | _ => True

/-- A refund key is looked up while the refund under it, if it was processed, is of a
refunded payment of the booking that the request names. -/
def OwnRefund (s : Db) : Request → Op → Prop
  | .refundPayment b _ _, .findRefundByKey k =>
    ∀ r ∈ s.refund? fun r ↦ r.idempotencyKey = k, r.status = .processed →
      ∃ p ∈ s.payments.rows, p.id = r.paymentId ∧ p.bookingId = b ∧ p.status = .refunded
  | _, _ => True

instance (s : Db) (o : Op) : Decidable (NewKey s o) := by
  cases o <;> unfold NewKey <;> infer_instance

instance (s : Db) (request : Request) (o : Op) : Decidable (OwnRefund s request o) := by
  cases request <;> cases o <;> unfold OwnRefund <;> infer_instance

/-- Which keys the runs under consideration use. -/
structure Mode where
  newKeys : Bool
  ownRefunds : Bool

/-- Every interleaving, with the keys that the mode asks for. -/
def Mode.regime (M : Mode) (provider : String) : Regime (service provider) where
  may c ev :=
    (M.newKeys = true → NewKey c.state ev.op) ∧
      (M.ownRefunds = true → OwnRefund c.state ev.job.request ev.op)
  excl _ _ := False

/-! ### The invariant -/

/-- The threads that store the outcome of a payment, or of a refund. -/
structure Owners where
  payer : Id → Option Nat
  refunder : Id → Option Nat

namespace Owners

/-- Nobody stores anything. -/
def none : Owners := ⟨fun _ ↦ .none, fun _ ↦ .none⟩

/-- Thread `t` inserted payment `n`. -/
def pay (g : Owners) (n : Id) (t : Nat) : Owners :=
  { g with payer := fun i ↦ if i = n then some t else g.payer i }

/-- From now on `who` stores the outcome of refund `n`. -/
def refund (g : Owners) (n : Id) (who : Option Nat) : Owners :=
  { g with refunder := fun i ↦ if i = n then who else g.refunder i }

end Owners

/-- What holds of the payment database. -/
structure Inv (s : Db) (g : Owners) : Prop where
  payments : ∀ p ∈ s.payments.rows, p.id < s.nextId
  refunds : ∀ r ∈ s.refunds.rows, r.id < s.nextId
  payer : ∀ n t, g.payer n = some t → n < s.nextId
  refunder : ∀ n t, g.refunder n = some t → n < s.nextId
  refunded : ∀ p ∈ s.payments.rows, p.status = .refunded →
    ∃ r ∈ s.refunds.rows, r.paymentId = p.id ∧ r.status = .processed ∧ g.refunder r.id = none

namespace Inv

variable {s : Db} {g : Owners}

/-- The empty database satisfies the invariant. -/
theorem empty : Inv Db.empty Owners.none := by
  constructor
  case payer => simp [Owners.none]
  case refunder => simp [Owners.none]
  all_goals
    intro _ h
    cases h

/-- Numbers that are not in use find no payment. -/
theorem find_unused (h : Inv s g) : s.payments.find s.nextId = none := by
  cases hf : s.payments.find s.nextId with
  | none => rfl
  | some p =>
    obtain ⟨hm, hn⟩ := Table.find_eq_some_iff.mp hf
    exact absurd (h.payments p hm) (Nat.not_lt.mpr (Nat.le_of_eq hn.symm))

/-- Numbers that are not in use find no refund. -/
theorem findRefund_unused (h : Inv s g) : s.refunds.find s.nextId = none := by
  cases hf : s.refunds.find s.nextId with
  | none => rfl
  | some r =>
    obtain ⟨hm, hn⟩ := Table.find_eq_some_iff.mp hf
    exact absurd (h.refunds r hm) (Nat.not_lt.mpr (Nat.le_of_eq hn.symm))

/-- Inserting a payment that is not refunded yet. -/
theorem insert (h : Inv s g) (t : Nat) {p : Payment} (hn : p.id = s.nextId)
    (hs : p.status ≠ .refunded) :
    Inv { s with payments := s.payments.put p, nextId := s.nextId + 1 } (g.pay p.id t) := by
  constructor
  · intro q hq
    show q.id < s.nextId + 1
    rcases Table.mem_put.mp hq with rfl | ⟨hq, -⟩
    · rw [hn]
      exact Nat.lt_succ_self _
    · exact Nat.lt_succ_of_lt (h.payments q hq)
  · exact fun r hr ↦ Nat.lt_succ_of_lt (h.refunds r hr)
  · intro n u hu
    show n < s.nextId + 1
    by_cases he : n = p.id
    · rw [he, hn]
      exact Nat.lt_succ_self _
    · simp only [Owners.pay, if_neg he] at hu
      exact Nat.lt_succ_of_lt (h.payer n u hu)
  · exact fun n u hu ↦ Nat.lt_succ_of_lt (h.refunder n u hu)
  · intro q hq hst
    rcases Table.mem_put.mp hq with rfl | ⟨hq, -⟩
    · exact absurd hst hs
    · exact h.refunded q hq hst

/-- Saving a stored payment; a refunded one has its processed refund. -/
theorem save (h : Inv s g) {p : Payment} (hn : p.id < s.nextId)
    (hr : p.status = .refunded →
      ∃ r ∈ s.refunds.rows, r.paymentId = p.id ∧ r.status = .processed ∧
        g.refunder r.id = none) :
    Inv { s with payments := s.payments.put p } g := by
  constructor
  · intro q hq
    rcases Table.mem_put.mp hq with rfl | ⟨hq, -⟩
    · exact hn
    · exact h.payments q hq
  · exact h.refunds
  · exact h.payer
  · exact h.refunder
  · intro q hq hst
    rcases Table.mem_put.mp hq with rfl | ⟨hq, -⟩
    · exact hr hst
    · exact h.refunded q hq hst

/-- Inserting a refund keeps the invariant. -/
theorem insertRefund (h : Inv s g) (t : Nat) {r : Refund} (hn : r.id = s.nextId) :
    Inv { s with refunds := s.refunds.put r, nextId := s.nextId + 1 }
      (g.refund r.id (some t)) := by
  constructor
  · exact fun p hp ↦ Nat.lt_succ_of_lt (h.payments p hp)
  · intro q hq
    show q.id < s.nextId + 1
    rcases Table.mem_put.mp hq with rfl | ⟨hq, -⟩
    · rw [hn]
      exact Nat.lt_succ_self _
    · exact Nat.lt_succ_of_lt (h.refunds q hq)
  · exact fun n u hu ↦ Nat.lt_succ_of_lt (h.payer n u hu)
  · intro n u hu
    show n < s.nextId + 1
    by_cases he : n = r.id
    · rw [he, hn]
      exact Nat.lt_succ_self _
    · simp only [Owners.refund, if_neg he] at hu
      exact Nat.lt_succ_of_lt (h.refunder n u hu)
  · intro p hp hst
    obtain ⟨q, hq, hqp, hqs, hqr⟩ := h.refunded p hp hst
    have hne : q.id ≠ r.id := by
      rw [hn]
      exact Nat.ne_of_lt (h.refunds q hq)
    refine ⟨q, Table.mem_put.mpr (.inr ⟨hq, hne⟩), hqp, hqs, ?_⟩
    simp only [Owners.refund, if_neg hne]
    exact hqr

/-- Saving a refund that a thread works on. -/
theorem saveRefund (h : Inv s g) {t : Nat} {r : Refund} (hn : r.id < s.nextId)
    (ho : g.refunder r.id = some t) : Inv { s with refunds := s.refunds.put r } g := by
  constructor
  · exact h.payments
  · intro q hq
    rcases Table.mem_put.mp hq with rfl | ⟨hq, -⟩
    · exact hn
    · exact h.refunds q hq
  · exact h.payer
  · exact h.refunder
  · intro p hp hst
    obtain ⟨q, hq, hqp, hqs, hqr⟩ := h.refunded p hp hst
    have hne : q.id ≠ r.id := by
      intro he
      rw [he, ho] at hqr
      cases hqr
    exact ⟨q, Table.mem_put.mpr (.inr ⟨hq, hne⟩), hqp, hqs, hqr⟩

/-- Nobody works on a finished refund any more. -/
theorem finish (h : Inv s g) (n : Id) : Inv s (g.refund n none) := by
  constructor
  · exact h.payments
  · exact h.refunds
  · exact h.payer
  · intro i u hu
    by_cases he : i = n
    · simp [Owners.refund, he] at hu
    · simp only [Owners.refund, if_neg he] at hu
      exact h.refunder i u hu
  · intro p hp hst
    obtain ⟨q, hq, hqp, hqs, hqr⟩ := h.refunded p hp hst
    refine ⟨q, hq, hqp, hqs, ?_⟩
    by_cases he : q.id = n
    · simp [Owners.refund, he]
    · simp only [Owners.refund, if_neg he]
      exact hqr

end Inv

/-! ### The moves -/

/-- A new row of a payment, by what thread `t` stores it for. -/
inductive PaymentMove (t : Nat) (s : Db) (g : Owners) (n : Id) : Payment → Prop where
  | inserted {p : Payment} (absent : s.payments.find n = none) : PaymentMove t s g n p
  | charged {q p : Payment} (found : s.payments.find n = some q) (own : g.payer n = some t)
      (unsettled : q.settled = false) : PaymentMove t s g n p
  | refunded {q p : Payment} (found : s.payments.find n = some q) (settled : q.settled = true)
      (order : p.order = q.order) (status : p.status = .refunded) : PaymentMove t s g n p

/-- One operation of thread `t`, from a database to the next. -/
structure Moves (t : Nat) (s : Db) (g : Owners) (s' : Db) (g' : Owners) : Prop where
  payer : ∀ n u, g.payer n = some u → g'.payer n = some u
  refunder : ∀ n u, u ≠ t → g.refunder n = some u → g'.refunder n = some u
  payments : ∀ n, s'.payments.find n = s.payments.find n ∨
    ∃ p, s'.payments.find n = some p ∧ PaymentMove t s g n p
  refunds : ∀ n, s'.refunds.find n = s.refunds.find n ∨
    s.refunds.find n = none ∨ g.refunder n = some t

namespace Moves

variable {t : Nat} {s s' : Db} {g g' : Owners}

/-- An operation that stores nothing. -/
theorem refl (t : Nat) (s : Db) (g : Owners) : Moves t s g s g where
  payer _ _ h := h
  refunder _ _ _ h := h
  payments _ := .inl rfl
  refunds _ := .inl rfl

/-- A settled payment stays settled, with its order. -/
theorem settled (h : Moves t s g s' g') {n : Id} {p : Payment}
    (hf : s.payments.find n = some p) (hs : p.settled = true) :
    ∃ q, s'.payments.find n = some q ∧ q.settled = true ∧ q.order = p.order := by
  rcases h.payments n with he | ⟨q, hq, hm⟩
  · exact ⟨p, he.trans hf, hs, rfl⟩
  · refine ⟨q, hq, ?_⟩
    cases hm with
    | inserted absent =>
      rw [hf] at absent
      cases absent
    | charged found own unsettled =>
      rw [hf] at found
      cases found
      rw [hs] at unsettled
      cases unsettled
    | refunded found settled order status =>
      rw [hf] at found
      cases found
      exact ⟨by simp [Payment.settled, status], order⟩

/-- A refunded payment stays refunded, with its order. -/
theorem refunded (h : Moves t s g s' g') {n : Id} {p : Payment}
    (hf : s.payments.find n = some p) (hs : p.status = .refunded) :
    ∃ q, s'.payments.find n = some q ∧ q.status = .refunded ∧ q.order = p.order := by
  rcases h.payments n with he | ⟨q, hq, hm⟩
  · exact ⟨p, he.trans hf, hs, rfl⟩
  · refine ⟨q, hq, ?_⟩
    cases hm with
    | inserted absent =>
      rw [hf] at absent
      cases absent
    | charged found own unsettled =>
      rw [hf] at found
      cases found
      simp [Payment.settled, hs] at unsettled
    | refunded found settled order status =>
      rw [hf] at found
      cases found
      exact ⟨status, order⟩

/-- Nobody else stores a payment that thread `u` has not settled yet. -/
theorem unsettled (h : Moves t s g s' g') {u : Nat} (hu : t ≠ u) {n : Id} {p : Payment}
    (ho : g.payer n = some u) (hf : s.payments.find n = some p) (hs : p.settled = false) :
    s'.payments.find n = some p := by
  rcases h.payments n with he | ⟨q, -, hm⟩
  · exact he.trans hf
  · cases hm with
    | inserted absent =>
      rw [hf] at absent
      cases absent
    | charged found own =>
      rw [ho] at own
      exact absurd (Option.some.inj own).symm hu
    | refunded found settled =>
      rw [hf] at found
      cases found
      rw [hs] at settled
      cases settled

/-- Nobody else stores a refund that thread `u` works on. -/
theorem refund (h : Moves t s g s' g') {u : Nat} (hu : t ≠ u) {n : Id} {r : Refund}
    (ho : g.refunder n = some u) (hf : s.refunds.find n = some r) :
    s'.refunds.find n = some r := by
  rcases h.refunds n with he | habsent | own
  · exact he.trans hf
  · rw [hf] at habsent
    cases habsent
  · rw [ho] at own
    exact absurd (Option.some.inj own).symm hu

/-- Inserting a payment under an unused number. -/
theorem insert {p : Payment} {next : Id} (absent : s.payments.find p.id = none)
    (unclaimed : g.payer p.id = none) :
    Moves t s g { s with payments := s.payments.put p, nextId := next } (g.pay p.id t) where
  payer n u hu := by
    have hne : n ≠ p.id := by
      intro he
      rw [he, unclaimed] at hu
      cases hu
    simp only [Owners.pay, if_neg hne]
    exact hu
  refunder _ _ _ h := h
  payments n := by
    by_cases he : p.id = n
    · subst he
      exact .inr ⟨p, Table.find_put_self _ p, .inserted absent⟩
    · exact .inl (Table.find_put_of_ne _ he)
  refunds _ := .inl rfl

/-- Saving a payment is a move if the row may become so. -/
theorem save {p : Payment} (move : PaymentMove t s g p.id p)
    (refunder : ∀ n u, u ≠ t → g.refunder n = some u → g'.refunder n = some u)
    (payer : g'.payer = g.payer) :
    Moves t s g { s with payments := s.payments.put p } g' where
  payer n u hu := by
    rw [payer]
    exact hu
  refunder := refunder
  payments n := by
    by_cases he : p.id = n
    · subst he
      exact .inr ⟨p, Table.find_put_self _ p, move⟩
    · exact .inl (Table.find_put_of_ne _ he)
  refunds _ := .inl rfl

/-- Inserting a refund under an unused number. -/
theorem insertRefund {r : Refund} {next : Id} (absent : s.refunds.find r.id = none)
    (unclaimed : g.refunder r.id = none) :
    Moves t s g { s with refunds := s.refunds.put r, nextId := next }
      (g.refund r.id (some t)) where
  payer _ _ h := h
  refunder n u _ hu := by
    have hne : n ≠ r.id := by
      intro he
      rw [he, unclaimed] at hu
      cases hu
    simp only [Owners.refund, if_neg hne]
    exact hu
  payments _ := .inl rfl
  refunds n := by
    by_cases he : r.id = n
    · subst he
      exact .inr (.inl absent)
    · exact .inl (Table.find_put_of_ne _ he)

/-- Saving a refund that the thread works on. -/
theorem saveRefund {r : Refund} (own : g.refunder r.id = some t) :
    Moves t s g { s with refunds := s.refunds.put r } g where
  payer _ _ h := h
  refunder _ _ _ h := h
  payments _ := .inl rfl
  refunds n := by
    by_cases he : r.id = n
    · subst he
      exact .inr (.inr own)
    · exact .inl (Table.find_put_of_ne _ he)

end Moves

/-- The rules of the payment service. -/
abbrev Mode.rules (M : Mode) (provider : String) : Rules (service provider) where
  regime := M.regime provider
  Ghost := Owners
  inv c g := Inv c.state g
  guar t _ c g c' g' := Moves t c.state g c'.state g'

/-! ### Rules -/

variable {M : Mode} {provider : String} {t : Nat} {j : Job} {L : Type}

/-- Await one operation: what is known where it fails, and its effect where it does not. -/
theorem Holds.await {o : Op} {P E : L → (M.rules provider).Fact}
    {Q : Res o → L → (M.rules provider).Fact}
    (stable : ∀ a l, (M.rules provider).Stable t j (Q a l))
    (stable' : ∀ l, (M.rules provider).Stable t j (E l))
    (fail : o.fallible = true → ∀ l c c' g, c'.state = c.state → P l c g → E l c' g)
    (done : ∀ l c g x, Inv c.state g → P l c g →
      (M.regime provider).may c ⟨t, j, o, c.answer x o⟩ →
      ∃ g', Inv (perform x o c.state).2 g' ∧ Moves t c.state g (perform x o c.state).2 g' ∧
        ∀ c', c'.state = (perform x o c.state).2 →
          match (perform x o c.state).1 with
          | .ok a => Q a l c' g'
          | .error _ => E l c' g') :
    (M.rules provider).Holds t j (PaymentService.await o : Code sig L (Res o)) P Q
      (fun _ ↦ E) := by
  apply Rules.Holds.await
  intro l
  constructor
  · intro r
    cases r with
    | ok a => exact stable a l
    | error e => exact stable' l
  · intro c g x hi hp hm
    rcases exec_cases x o c.state with ⟨hf, e, he⟩ | he
    · refine ⟨g, ?_⟩
      simp only [Conf.after, Conf.answer, he]
      exact ⟨hi, Moves.refl t c.state g, fail hf l c _ g rfl hp⟩
    · obtain ⟨g', hi', hmove, hq⟩ := done l c g x hi hp hm
      refine ⟨g', ?_⟩
      simp only [Conf.after, Conf.answer, he]
      refine ⟨hi', hmove, ?_⟩
      have hq := hq ⟨(perform x o c.state).2, ⟨t, j, o, (perform x o c.state).1⟩ :: c.log⟩ rfl
      cases hr : (perform x o c.state).1 with
      | ok a =>
        rw [hr] at hq
        exact hq
      | error e =>
        rw [hr] at hq
        exact hq

/-- Operations that store nothing. -/
def Op.silent : Op → Bool
  | .findByKey _ | .charge _ _ | .findSucceeded _ | .findRefundByKey _ | .refund _ _ _
  | .emit _ | .now => true
  | _ => false

/-- A silent operation leaves the database as it is and gives a reply. -/
theorem perform_silent {o : Op} (h : o.silent = true) (x : Choice) (s : Db) :
    ∃ a, perform x o s = (.ok a, s) := by
  cases o <;> first | exact ⟨_, rfl⟩ | cases h

/-- Await a silent operation: what its answer tells is known afterwards. -/
theorem Holds.observe {o : Op} (ho : o.silent = true) {P E : L → (M.rules provider).Fact}
    {Q : Res o → L → (M.rules provider).Fact}
    (stable : ∀ a l, (M.rules provider).Stable t j (Q a l))
    (stable' : ∀ l, (M.rules provider).Stable t j (E l))
    (fail : o.fallible = true → ∀ l c c' g, c'.state = c.state → P l c g → E l c' g)
    (done : ∀ l c c' g x a, c'.state = c.state → Inv c.state g → P l c g →
      (M.regime provider).may c ⟨t, j, o, c.answer x o⟩ → (perform x o c.state).1 = .ok a →
      Q a l c' g) :
    (M.rules provider).Holds t j (PaymentService.await o : Code sig L (Res o)) P Q
      (fun _ ↦ E) := by
  apply Holds.await stable stable' fail
  intro l c g x hi hp hm
  obtain ⟨a, ha⟩ := perform_silent ho x c.state
  refine ⟨g, ?_⟩
  rw [ha]
  exact ⟨hi, Moves.refl t c.state g, fun c' hc' ↦ done l c c' g x a hc' hi hp hm (by rw [ha])⟩

end Ticketing.PaymentService
