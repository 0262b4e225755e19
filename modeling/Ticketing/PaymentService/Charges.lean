import Ticketing.PaymentService.Books

/-!
# Charges

Library `PaymentService`. The payments of a run of the controllers, and what the gateways charged.
A payment that is marked as succeeded or refunded was charged under its transaction, and a charge
belongs to one payment that says at least that it was begun.
-/

namespace Ticketing.PaymentService

open Async Store

variable {provider : String}

/-- A payment says whether it was charged. -/
def chargeAccount : Account Payment Charge where
  effect := Payment.charge
  claims := Payment.settled
  denies p := p.status = .initiated

/-- A charge of the payment, with its transaction. -/
def Payment.receipt (p : Payment) : Charge × Option String := (p.charge, p.providerTxId)

/-- The columns that are never assigned after the payment was settled. -/
def Payment.record (p : Payment) :
    ((Id × Id × String × Money × String) × String) × Option String :=
  (p.terms, p.providerTxId)

/-- The books of thread `t`. -/
abbrev book (log : List (Event (controllers provider))) (t : Nat) : Books :=
  (books provider).state t log

/-- The charges that the gateways accepted, newest first, with their transactions. -/
def acceptedCharges : List (Event (controllers provider)) → List (Charge × Option String)
  | [] => []
  | ⟨_, _, .charge provider request, .ok response⟩ :: log =>
    if response.success then
      (.of provider request, response.providerTxId) :: acceptedCharges log
    else acceptedCharges log
  | _ :: log => acceptedCharges log

/-- The accepted charges with the payment that the thread had inserted. -/
def chargedRows : List (Event (controllers provider)) → List (Id × Charge)
  | [] => []
  | ⟨t, _, .charge _ _, .ok response⟩ :: log =>
    if response.success then
      ((book log t).payment.map fun row ↦ (row.1.id, row.1.charge)).toList ++ chargedRows log
    else chargedRows log
  | _ :: log => chargedRows log

/-- The unsettled payment that a thread has inserted, and whether it was charged. -/
def paying (log : List (Event (controllers provider))) : Holders Payment := fun t ↦
  (book log t).payment.filter fun row ↦ !row.1.settled

/-- What holds of the payments and of the charges. -/
structure Billed (c : Conf (controllers provider)) : Prop where
  held : Held chargeAccount c.state.payments (chargedRows c.log) (paying c.log)
  accepted : (chargedRows c.log).map Prod.snd = (acceptedCharges c.log).map Prod.fst
  fresh : ∀ p ∈ c.state.payments.rows, p.id < c.state.nextId
  /-- A thread remembers the transaction of its charge. -/
  waiting : ∀ t p, (book c.log t).payment = some (p, true) →
    (p.charge, (book c.log t).providerTxId) ∈ acceptedCharges c.log
  /-- A settled payment was charged. -/
  settled : ∀ p ∈ c.state.payments.rows, p.settled = true → p.receipt ∈ acceptedCharges c.log
  /-- The thread that inserted an unsettled payment goes on with it. -/
  unsettled : ∀ p ∈ c.state.payments.rows, p.settled = false →
    ∃ t b, (book c.log t).payment = some (p, b)
  /-- A payment that was found stays settled. -/
  found : ∀ t q, (book c.log t).found = some q →
    ∃ p, c.state.payments.find q.id = some p ∧ p.settled = true ∧ p.record = q.record

/-- Settled payments keep their records. -/
def Lasting (s s' : Db) : Prop :=
  ∀ n p, s.payments.find n = some p → p.settled = true →
    ∃ p', s'.payments.find n = some p' ∧ p'.settled = true ∧ p'.record = p.record

/-- The charge is part of the terms. -/
theorem charge_of_terms {p q : Payment} (h : p.terms = q.terms) : p.charge = q.charge := by
  simp only [Payment.terms, Payment.order, Prod.mk.injEq] at h
  simp [Payment.charge, h]

/-- The number is part of the terms. -/
theorem id_of_terms {p q : Payment} (h : p.terms = q.terms) : p.id = q.id :=
  congrArg (fun t ↦ t.1.1) h

/-- The receipt is part of the record. -/
theorem receipt_of_record {p q : Payment} (h : p.record = q.record) : p.receipt = q.receipt :=
  congrArg₂ Prod.mk (charge_of_terms (congrArg Prod.fst h)) (congrArg Prod.snd h)

variable {c : Conf (controllers provider)} {log : List (Event (controllers provider))}
  {ev : Event (controllers provider)} {t : Nat} {j : Inbound}

/-- The step of another thread leaves the books of a thread. -/
theorem book_other {u : Nat} (h : u ≠ ev.tid) : book (ev :: log) u = book log u :=
  Monitor.state_other (books provider) (Ne.symm h)

/-- The step of a thread changes its books. -/
theorem book_self (o : Op) (a : sig.Answer o) :
    book (⟨t, j, o, a⟩ :: log : List (Event (controllers provider))) t = (book log t).next o a :=
  Monitor.state_self (books provider) t j o a log

/-- The unsettled payment of another thread. -/
theorem paying_other {u : Nat} (h : u ≠ ev.tid) : paying (ev :: log) u = paying log u := by
  unfold paying
  rw [book_other h]

/-- An unsettled payment is held by the thread that inserted it. -/
theorem paying_eq_some {p : Payment} {b : Bool} :
    paying log t = some (p, b) ↔ (book log t).payment = some (p, b) ∧ p.settled = false := by
  simp [paying, Option.filter_eq_some_iff]

namespace Billed

/-- The empty database is billed. -/
theorem start : Billed (⟨Db.empty, []⟩ : Conf (controllers provider)) where
  held := .empty
  accepted := rfl
  fresh p h := by cases h
  waiting t p h := by cases h
  settled p h := by cases h
  unsettled p h := by cases h
  found t q h := by cases h

/-- A settled payment is found under its number. -/
theorem find_settled (h : Billed c) {q : Payment} (hq : (book c.log t).found = some q) :
    ∃ p, c.state.payments.find q.id = some p ∧ p.settled = true ∧ p.charge = q.charge ∧
      p.providerTxId = q.providerTxId := by
  obtain ⟨p, hp, settled, record⟩ := h.found t q hq
  exact ⟨p, hp, settled, charge_of_terms (congrArg Prod.fst record), congrArg Prod.snd record⟩

/-- The unsettled row of a thread is stored. -/
theorem find_unsettled (h : Billed c) {p : Payment} {b : Bool}
    (hp : (book c.log t).payment = some (p, b)) (unsettled : p.settled = false) :
    c.state.payments.find p.id = some p :=
  h.held.stored t p b (paying_eq_some.mpr ⟨hp, unsettled⟩)

/-- A step that leaves the payments and the charges. -/
theorem frame (h : Billed c) {s : Db} {o : Op} {a : sig.Answer o}
    (payments : s.payments = c.state.payments) (next : c.state.nextId ≤ s.nextId)
    (payment : ((book c.log t).next o a).payment = (book c.log t).payment)
    (tx : ∀ p, (book c.log t).payment = some (p, true) →
      ((book c.log t).next o a).providerTxId = (book c.log t).providerTxId)
    (found : ∀ q, ((book c.log t).next o a).found = some q →
      (book c.log t).found = some q ∨ q ∈ c.state.payments.rows ∧ q.settled = true)
    (rows : chargedRows (⟨t, j, o, a⟩ :: c.log) = chargedRows c.log)
    (charges : acceptedCharges (⟨t, j, o, a⟩ :: c.log) = acceptedCharges c.log) :
    Billed (⟨s, ⟨t, j, o, a⟩ :: c.log⟩ : Conf (controllers provider)) := by
  have same : ∀ u, (book (⟨t, j, o, a⟩ :: c.log : List (Event (controllers provider))) u).payment =
      (book c.log u).payment := by
    intro u
    by_cases hu : u = t
    · rw [hu, book_self, payment]
    · rw [book_other hu]
  constructor
  · have holders : paying (⟨t, j, o, a⟩ :: c.log : List (Event (controllers provider))) =
        paying c.log := by
      funext u
      unfold paying
      rw [same]
    rw [payments, rows, holders]
    exact h.held
  · rw [rows, charges]
    exact h.accepted
  · exact fun p hp ↦ Nat.lt_of_lt_of_le (h.fresh p (payments ▸ hp)) next
  · intro u p hp
    rw [same] at hp
    rw [charges]
    have waiting := h.waiting u p hp
    by_cases hu : u = t
    · subst hu
      rwa [book_self, tx p hp]
    · rwa [book_other hu]
  · intro p hp hs
    rw [charges]
    exact h.settled p (payments ▸ hp) hs
  · intro p hp hs
    obtain ⟨u, b, hu⟩ := h.unsettled p (payments ▸ hp) hs
    exact ⟨u, b, (same u).trans hu⟩
  · intro u q hq
    rw [payments]
    by_cases hu : u = t
    · subst hu
      rw [book_self] at hq
      rcases found q hq with hq | ⟨hm, hs⟩
      · exact h.found u q hq
      · exact ⟨q, Table.find_of_mem hm, hs, rfl⟩
    · rw [book_other hu] at hq
      exact h.found u q hq

/-- Inserting an initiated payment keeps the charges billed. -/
theorem insert (h : Billed c) {p saved : Payment} (idle : book c.log t = {})
    (initiated : p.status = .initiated) (hs : saved = { p with id := c.state.nextId }) :
    Billed (⟨{ c.state with
        payments := c.state.payments.put saved, nextId := c.state.nextId + 1 },
      ⟨t, j, .insert p, .ok saved⟩ :: c.log⟩ : Conf (controllers provider)) := by
  have number : saved.id = c.state.nextId := by rw [hs]
  have unsettled : saved.settled = false := by
    rw [hs, Payment.settled]
    simp [initiated]
  have self : book (⟨t, j, .insert p, .ok saved⟩ :: c.log : List (Event (controllers provider))) t =
      { payment := some (saved, false) } := by
    rw [book_self, idle]
    rfl
  have other : ∀ {u}, u ≠ t → book (⟨t, j, .insert p, .ok saved⟩ :: c.log :
      List (Event (controllers provider))) u = book c.log u := fun hu ↦ book_other hu
  have new : ∀ q ∈ c.state.payments.rows, saved.id ≠ q.id :=
    fun q hq hk ↦ Nat.lt_irrefl _ (number ▸ hk ▸ h.fresh q hq)
  have absent : c.state.payments.find saved.id = none := by
    cases hf : c.state.payments.find saved.id with
    | none => rfl
    | some q =>
      obtain ⟨hm, hk⟩ := Table.find_eq_some_iff.mp hf
      exact absurd hk.symm (new q hm)
  constructor
  · apply h.held.insert (u := t) absent unsettled
    · exact fun v hv ↦ paying_other hv
    · intro x hx
      obtain ⟨hb, -⟩ := paying_eq_some.mp hx
      rw [self] at hb
      exact (Option.some.inj hb).symm
  · exact h.accepted
  · intro q hq
    rcases Table.mem_put.mp hq with rfl | ⟨hq, -⟩
    · exact number ▸ Nat.lt_succ_self _
    · exact Nat.lt_succ_of_lt (h.fresh q hq)
  · intro u q hq
    by_cases hu : u = t
    · rw [hu, self] at hq
      cases hq
    · rw [other hu] at hq ⊢
      exact h.waiting u q hq
  · intro q hq settled
    rcases Table.mem_put.mp hq with rfl | ⟨hq, -⟩
    · rw [unsettled] at settled
      cases settled
    · exact h.settled q hq settled
  · intro q hq hs
    rcases Table.mem_put.mp hq with rfl | ⟨hq, -⟩
    · exact ⟨t, false, by rw [self]⟩
    · obtain ⟨u, b, hu⟩ := h.unsettled q hq hs
      refine ⟨u, b, ?_⟩
      rw [other]
      · exact hu
      · rintro rfl
        rw [idle] at hu
        cases hu
  · intro u q hq
    have hq : (book c.log u).found = some q := by
      by_cases hu : u = t
      · rw [hu, self] at hq
        cases hq
      · rwa [other hu] at hq
    obtain ⟨r, hr, rest⟩ := h.found u q hq
    refine ⟨r, ?_, rest⟩
    have hm := Table.find_eq_some_iff.mp hr
    rw [Table.find_put_of_ne _ (hm.2 ▸ new r hm.1)]
    exact hr

/-- A charge that the gateway accepts keeps the charges billed. -/
theorem charge (h : Billed c) {name : String} {request : PaymentGatewayRequest}
    {response : PaymentGatewayResponse} {p : Payment}
    (hp : (book c.log t).payment = some (p, false)) (processing : p.status = .processing)
    (asked : p.charge = .of name request) (success : response.success = true) :
    Billed (⟨c.state, ⟨t, j, .charge name request, .ok response⟩ :: c.log⟩ :
      Conf (controllers provider)) := by
  have unsettled : p.settled = false := by
    rw [Payment.settled, processing]
    rfl
  have self : book (⟨t, j, .charge name request, .ok response⟩ :: c.log :
      List (Event (controllers provider))) t =
      { book c.log t with
        charged := true, providerTxId := response.providerTxId, payment := some (p, true) } := by
    rw [book_self, Books.next, hp, Option.map_some, success]
  have other : ∀ {u}, u ≠ t → book (⟨t, j, .charge name request, .ok response⟩ :: c.log :
      List (Event (controllers provider))) u = book c.log u := fun hu ↦ book_other hu
  have charges : acceptedCharges (⟨t, j, .charge name request, .ok response⟩ :: c.log :
      List (Event (controllers provider))) =
      (p.charge, response.providerTxId) :: acceptedCharges c.log := by
    simp only [acceptedCharges, success, if_true, asked]
  have rows : chargedRows (⟨t, j, .charge name request, .ok response⟩ :: c.log :
      List (Event (controllers provider))) = (p.id, p.charge) :: chargedRows c.log := by
    simp only [chargedRows, success, if_true, hp, Option.map_some, Option.toList_some,
      List.singleton_append]
  constructor
  · rw [rows]
    apply h.held.post (paying_eq_some.mpr ⟨hp, unsettled⟩)
    · simp [chargeAccount, processing]
    · exact fun v hv ↦ paying_other hv
    · intro x hx
      obtain ⟨hb, -⟩ := paying_eq_some.mp hx
      rw [self] at hb
      exact (Option.some.inj hb).symm
  · rw [rows, charges, List.map_cons, List.map_cons, h.accepted]
  · exact h.fresh
  · intro u q hq
    rw [charges]
    by_cases hu : u = t
    · subst hu
      rw [self] at hq ⊢
      cases hq
      exact List.mem_cons_self
    · rw [other hu] at hq ⊢
      exact List.mem_cons_of_mem _ (h.waiting u q hq)
  · intro q hq hs
    rw [charges]
    exact List.mem_cons_of_mem _ (h.settled q hq hs)
  · intro q hq hs
    obtain ⟨u, b, hu⟩ := h.unsettled q hq hs
    by_cases htu : u = t
    · subst htu
      rw [hp] at hu
      cases hu
      exact ⟨u, true, by rw [self]⟩
    · exact ⟨u, b, by rw [other htu, hu]⟩
  · intro u q hq
    apply h.found u q
    by_cases hu : u = t
    · subst hu
      rwa [self] at hq
    · rwa [other hu] at hq

/-- A thread saves the payment that it inserted. -/
theorem save (h : Billed c) {p q : Payment} {b : Bool} (unfound : (book c.log t).found = none)
    (hq : (book c.log t).payment = some (q, b)) (unsettled : q.settled = false)
    (terms : p.terms = q.terms) (settles : (book c.log t).Settles b p) :
    Billed (⟨{ c.state with payments := c.state.payments.put p },
      ⟨t, j, .save p, .ok ()⟩ :: c.log⟩ : Conf (controllers provider)) := by
  have self : book (⟨t, j, .save p, .ok ()⟩ :: c.log : List (Event (controllers provider))) t =
      { book c.log t with payment := some (p, b) } := by
    rw [book_self]
    simp only [Books.next, unfound, hq, Option.map_some]
  have other : ∀ {u}, u ≠ t → book (⟨t, j, .save p, .ok ()⟩ :: c.log :
      List (Event (controllers provider))) u = book c.log u := fun hu ↦ book_other hu
  have stored := h.find_unsettled hq unsettled
  have number := id_of_terms terms
  constructor
  · apply h.held.save (paying_eq_some.mpr ⟨hq, unsettled⟩) number (charge_of_terms terms)
    · intro claims
      have claims : p.settled = true := claims
      rcases settles with processing | failed | ⟨-, hb, -⟩
      · simp [Payment.settled, processing] at claims
      · simp [Payment.settled, failed] at claims
      · exact hb
    · intro denies
      have initiated : p.status = .initiated := by simpa [chargeAccount] using denies
      rcases settles with processing | failed | ⟨succeeded, -⟩ <;> simp_all
    · exact fun v hv ↦ paying_other hv
    · intro x hx
      obtain ⟨hx, -⟩ := paying_eq_some.mp hx
      rw [self] at hx
      exact (Option.some.inj hx).symm
  · exact h.accepted
  · intro r hr
    rcases Table.mem_put.mp hr with rfl | ⟨hr, -⟩
    · exact number ▸ h.fresh q (Table.find_eq_some_iff.mp stored).1
    · exact h.fresh r hr
  · intro u r hr
    by_cases hu : u = t
    · subst hu
      rw [self] at hr ⊢
      cases hr
      rw [charge_of_terms terms]
      exact h.waiting u q hq
    · rw [other hu] at hr ⊢
      exact h.waiting u r hr
  · intro r hr hs
    rcases Table.mem_put.mp hr with rfl | ⟨hr, -⟩
    · rcases settles with processing | failed | ⟨-, rfl, tx⟩
      · simp [Payment.settled, processing] at hs
      · simp [Payment.settled, failed] at hs
      · have charged := h.waiting t q hq
        rwa [← charge_of_terms terms, ← tx] at charged
    · exact h.settled r hr hs
  · intro r hr hs
    rcases Table.mem_put.mp hr with rfl | ⟨hr, hk⟩
    · exact ⟨t, b, by rw [self]⟩
    · obtain ⟨u, b', hu⟩ := h.unsettled r hr hs
      refine ⟨u, b', ?_⟩
      rw [other]
      · exact hu
      · rintro rfl
        rw [hq] at hu
        cases hu
        exact hk number.symm
  · intro u r hr
    have hr : (book c.log u).found = some r := by
      by_cases hu : u = t
      · subst hu
        rwa [self] at hr
      · rwa [other hu] at hr
    obtain ⟨p', hp', settled', record⟩ := h.found u r hr
    refine ⟨p', ?_, settled', record⟩
    rw [Table.find_put_of_ne]
    · exact hp'
    · intro hk
      rw [← hk, number, stored] at hp'
      cases hp'
      rw [unsettled] at settled'
      cases settled'

/-- A thread saves the payment that it found as refunded. -/
theorem refund (h : Billed c) {q saved : Payment} (hq : (book c.log t).found = some q)
    (hs : saved = { q with status := .refunded }) :
    Billed (⟨{ c.state with payments := c.state.payments.put saved },
      ⟨t, j, .save saved, .ok ()⟩ :: c.log⟩ : Conf (controllers provider)) := by
  obtain ⟨p, hp, settled, record⟩ := h.found t q hq
  have number : saved.id = q.id := by rw [hs]
  have settled' : saved.settled = true := by simp [hs, Payment.settled]
  have record' : saved.record = p.record := by
    rw [record, hs]
    rfl
  have same : ∀ u, (book (⟨t, j, .save saved, .ok ()⟩ :: c.log :
      List (Event (controllers provider))) u) = if u = t then { book c.log u with closed := true }
      else book c.log u := by
    intro u
    split
    · next hu =>
      subst hu
      rw [book_self]
      simp only [Books.next, hq]
    · next hu => exact book_other hu
  have payments : ∀ u, (book (⟨t, j, .save saved, .ok ()⟩ :: c.log :
      List (Event (controllers provider))) u).payment = (book c.log u).payment := by
    intro u
    rw [same]
    split <;> rfl
  constructor
  · have holders : paying (⟨t, j, .save saved, .ok ()⟩ :: c.log :
        List (Event (controllers provider))) = paying c.log := by
      funext u
      unfold paying
      rw [payments]
    rw [holders]
    apply h.held.update (number ▸ hp)
    · intro u r b hr hk
      obtain ⟨hu, unsettled⟩ := paying_eq_some.mp hr
      have stored := h.find_unsettled hu unsettled
      rw [← hk, number, hp] at stored
      cases stored
      rw [settled] at unsettled
      cases unsettled
    · exact congrArg Prod.fst (receipt_of_record record')
    · exact fun _ ↦ settled
    · intro denies
      simp [chargeAccount, hs] at denies
  · exact h.accepted
  · intro r hr
    rcases Table.mem_put.mp hr with rfl | ⟨hr, -⟩
    · obtain ⟨hm, hk⟩ := Table.find_eq_some_iff.mp hp
      rw [number, ← hk]
      exact h.fresh p hm
    · exact h.fresh r hr
  · intro u r hr
    rw [payments] at hr
    rw [same]
    split <;> exact h.waiting u r hr
  · intro r hr hs
    rcases Table.mem_put.mp hr with rfl | ⟨hr, -⟩
    · rw [receipt_of_record record']
      exact h.settled p (Table.find_eq_some_iff.mp hp).1 settled
    · exact h.settled r hr hs
  · intro r hr unsettled
    rcases Table.mem_put.mp hr with rfl | ⟨hr, -⟩
    · rw [settled'] at unsettled
      cases unsettled
    · obtain ⟨u, b, hu⟩ := h.unsettled r hr unsettled
      exact ⟨u, b, (payments u).trans hu⟩
  · intro u r hr
    have hr : (book c.log u).found = some r := by
      rw [same] at hr
      split at hr <;> exact hr
    obtain ⟨p', hp', rest⟩ := h.found u r hr
    rw [Table.find_put]
    split
    · next hk =>
      rw [← hk, number, hp] at hp'
      cases hp'
      exact ⟨saved, rfl, settled', record'.trans rest.2⟩
    · exact ⟨p', hp', rest⟩

/-- Every step of a thread that keeps its books keeps what holds. -/
theorem step (h : Billed c) {x : Choice} {o : Op} (may : (book c.log t).may o) :
    Billed (c.after t j x o) := by
  have quiet : ∀ a : sig.Answer o,
      ((book c.log t).next o a).payment = (book c.log t).payment →
      ((book c.log t).next o a).providerTxId = (book c.log t).providerTxId →
      ((book c.log t).next o a).found = (book c.log t).found →
      o.charges = false → ∀ s : Db,
      s.payments = c.state.payments → c.state.nextId ≤ s.nextId →
      Billed (⟨s, ⟨t, j, o, a⟩ :: c.log⟩ : Conf (controllers provider)) := by
    intro a payment tx found silent s payments next
    apply h.frame payments next payment (fun _ _ ↦ tx)
    · exact fun q hq ↦ .inl (by rwa [found] at hq)
    all_goals cases o <;> first | rfl | cases silent
  rcases exec_cases x o c.state with ⟨-, e, he⟩ | he
  · have after : c.after t j x o = ⟨c.state, ⟨t, j, o, .error e⟩ :: c.log⟩ := by
      simp only [Conf.after, Conf.answer, he]
    rw [after]
    apply h.frame rfl (Nat.le_refl _)
    · cases o <;> rfl
    · cases o <;> exact fun _ _ ↦ rfl
    · cases o <;> exact fun _ hq ↦ .inl hq
    all_goals cases o <;> rfl
  · have after : c.after t j x o = ⟨(perform x o c.state).2,
        ⟨t, j, o, (perform x o c.state).1⟩ :: c.log⟩ := by
      simp only [Conf.after, Conf.answer, he]
    rw [after]
    cases o with
    | findByKey k => exact quiet _ rfl rfl rfl rfl _ rfl (Nat.le_refl _)
    | findRefundByKey k => exact quiet _ rfl rfl rfl rfl _ rfl (Nat.le_refl _)
    | emit event => exact quiet _ rfl rfl rfl rfl _ rfl (Nat.le_refl _)
    | now => exact quiet _ rfl rfl rfl rfl _ rfl (Nat.le_refl _)
    | insert p =>
      simp only [perform]
      split
      · exact quiet _ rfl rfl rfl rfl _ rfl (Nat.le_refl _)
      · exact h.insert may.1 may.2 rfl
    | save p =>
      rcases may with ⟨q, b, unfound, hq, unsettled, terms, settles⟩ | ⟨q, r, hq, -, -, -, hs⟩
      · exact h.save unfound hq unsettled terms settles
      · exact h.refund hq hs
    | charge name request =>
      obtain ⟨-, p, hp, processing, asked⟩ := may
      cases success : x.response.success with
      | true => exact h.charge hp processing asked success
      | false =>
        apply h.frame rfl (Nat.le_refl _)
        · simp only [perform, Books.next, hp, Option.map_some, success]
        · intro q hq
          rw [hp] at hq
          cases hq
        · exact fun _ hq ↦ .inl hq
        · simp [perform, chargedRows, success]
        · simp [perform, acceptedCharges, success]
    | findSucceeded b =>
      simp only [perform]
      cases found : c.state.payment? fun p ↦ p.bookingId = b && p.status = .succeeded with
      | none => exact quiet _ rfl rfl rfl rfl _ rfl (Nat.le_refl _)
      | some p =>
        have succeeded := List.find?_some found
        simp only [Bool.and_eq_true, decide_eq_true_eq] at succeeded
        apply h.frame rfl (Nat.le_refl _)
        · rfl
        · exact fun _ _ ↦ rfl
        · rintro q hq
          cases hq
          exact .inr ⟨List.mem_of_find?_eq_some found, by simp [Payment.settled, succeeded.2]⟩
        · rfl
        · rfl
    | insertRefund r => exact quiet _ rfl rfl rfl rfl _ rfl (Nat.le_succ _)
    | saveRefund r => exact quiet _ rfl rfl rfl rfl _ rfl (Nat.le_refl _)
    | refund name providerTxId amount => exact quiet _ rfl rfl rfl rfl _ rfl (Nat.le_refl _)

/-- What a step leaves of the settled payments. -/
theorem lasting (h : Billed c) {x : Choice} {o : Op} (may : (book c.log t).may o) :
    Lasting c.state (c.after t j x o).state := by
  intro n p hp settled
  have same : (c.after t j x o).state.payments = c.state.payments →
      ∃ p', (c.after t j x o).state.payments.find n = some p' ∧ p'.settled = true ∧
        p'.record = p.record := by
    intro same
    exact ⟨p, by rw [same, hp], settled, rfl⟩
  rcases exec_cases x o c.state with ⟨-, e, he⟩ | he
  · exact same (by simp only [Conf.after, he])
  have after : (c.after t j x o).state = (perform x o c.state).2 := by
    simp only [Conf.after, he]
  cases o with
  | insert q =>
    rw [after]
    simp only [perform]
    split
    · exact ⟨p, hp, settled, rfl⟩
    · obtain ⟨hm, rfl⟩ := Table.find_eq_some_iff.mp hp
      have other : (c.state.payments.put { q with id := c.state.nextId }).find p.id =
          c.state.payments.find p.id :=
        Table.find_put_of_ne _ (Nat.ne_of_gt (h.fresh p hm))
      exact ⟨p, other.trans hp, settled, rfl⟩
  | save q =>
    rw [after]
    show ∃ p', (c.state.payments.put q).find n = some p' ∧ _
    rw [Table.find_put]
    split
    · next hk =>
      subst hk
      rcases may with ⟨q', b, -, hq, unsettled, terms, -⟩ | ⟨q', r, hq, -, -, -, hs⟩
      · have stored := h.find_unsettled hq unsettled
        rw [← id_of_terms terms, hp] at stored
        cases stored
        rw [settled] at unsettled
        cases unsettled
      · obtain ⟨p', hp', -, record⟩ := h.found t q' hq
        have number : q.id = q'.id := by rw [hs]
        rw [← number, hp] at hp'
        cases hp'
        refine ⟨q, rfl, by simp [hs, Payment.settled], ?_⟩
        rw [record, hs]
        rfl
    · exact ⟨p, hp, settled, rfl⟩
  | _ => exact same (by rw [after]; rfl)

end Billed

end Ticketing.PaymentService
