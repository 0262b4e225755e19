import Ticketing.PaymentService.Charges
import Ticketing.PaymentService.SingleCharge
import Ticketing.PaymentService.SingleRefund

/-!
# Balance

Library `PaymentService`. What the payment service has stored accounts for the charges and refunds
that the gateways answered with success, in every run of its controllers and whatever fails. When
every request has ended and every row could be saved, it accounts for them exactly.
-/

namespace Ticketing.PaymentService

open Async Store

variable {provider : String}

/-- A refund may say that it was paid back. -/
def refundAccount : Account Refund (Id × Money) where
  effect := Refund.claim
  claims r := r.status = .processed
  denies _ := false

/-- What a claim asks of the gateway of its payment. -/
def Db.transfer (s : Db) (claim : Id × Money) : Option Transfer :=
  (s.payments.find claim.1).map fun p ↦ ⟨p.provider, p.providerTxId.getD "", claim.2⟩

/-- The refunds that the gateways accepted, newest first. -/
def acceptedTransfers : List (Event (controllers provider)) → List Transfer
  | [] => []
  | ⟨_, _, .refund provider providerTxId amount, .ok response⟩ :: log =>
    if response.success then ⟨provider, providerTxId, amount⟩ :: acceptedTransfers log
    else acceptedTransfers log
  | _ :: log => acceptedTransfers log

/-- The accepted refunds with the refund that the thread had inserted. -/
def refundedRows : List (Event (controllers provider)) → List (Id × (Id × Money))
  | [] => []
  | ⟨t, _, .refund _ _ _, .ok response⟩ :: log =>
    if response.success then
      ((book log t).refund.map fun row ↦ (row.1.id, row.1.claim)).toList ++ refundedRows log
    else refundedRows log
  | _ :: log => refundedRows log

/-- The refund that a thread has inserted, and whether it was paid back. -/
def refunding (log : List (Event (controllers provider))) : Holders Refund :=
  fun t ↦ (book log t).refund

/-- What holds of the refunds and of what was paid back. -/
structure Repaid (c : Conf (controllers provider)) : Prop where
  held : Held refundAccount c.state.refunds (refundedRows c.log) (refunding c.log)
  transfers : ((refundedRows c.log).map fun e ↦ c.state.transfer e.2) =
    (acceptedTransfers c.log).map some
  fresh : ∀ r ∈ c.state.refunds.rows, r.id < c.state.nextId
  /-- A refund is of a settled payment, and of all of it. -/
  owed : ∀ r ∈ c.state.refunds.rows, ∃ p, c.state.payments.find r.paymentId = some p ∧
    p.settled = true ∧ p.amount = r.amount
  /-- A refund is as the thread that inserted it knows it. -/
  inserted : ∀ r ∈ c.state.refunds.rows, ∃ t b, (book c.log t).refund = some (r, b)
  /-- A payment is marked as refunded by a thread that is done with its refund. -/
  closed : ∀ p ∈ c.state.payments.rows, p.status = .refunded →
    ∃ t r, (book c.log t).refund = some (r, true) ∧ r.status = .processed ∧
      r.paymentId = p.id ∧ (book c.log t).closed = true

namespace Repaid

variable {c : Conf (controllers provider)} {t : Nat} {j : Inbound}

/-- The empty database is repaid. -/
theorem start : Repaid (⟨Db.empty, []⟩ : Conf (controllers provider)) where
  held := .empty
  transfers := rfl
  fresh r h := by cases h
  owed r h := by cases h
  inserted r h := by cases h
  closed p h := by cases h

private theorem owed_later (h : Repaid c) {s : Db} (lasting : Lasting c.state s) :
    ∀ r ∈ c.state.refunds.rows, ∃ p, s.payments.find r.paymentId = some p ∧ p.settled = true ∧
      p.amount = r.amount := by
  intro r hr
  obtain ⟨p, hp, settled, amount⟩ := h.owed r hr
  obtain ⟨p', hp', settled', record⟩ := lasting _ p hp settled
  exact ⟨p', hp', settled', (congrArg (fun x ↦ x.1.1.2.2.2.1) record).trans amount⟩

private theorem transfers_later (h : Repaid c) {s : Db} (lasting : Lasting c.state s) :
    ((refundedRows c.log).map fun e ↦ s.transfer e.2) = (acceptedTransfers c.log).map some := by
  rw [← h.transfers]
  apply List.map_congr_left
  intro e he
  obtain ⟨r, hr, claim, -⟩ := h.held.receipts.backed e.1 e.2 he
  obtain ⟨p, hp, settled, -⟩ := h.owed r (Table.find_eq_some_iff.mp hr).1
  obtain ⟨p', hp', -, record⟩ := lasting _ p hp settled
  have claim : r.claim = e.2 := claim
  have provider : p'.provider = p.provider := congrArg (fun x ↦ x.1.2) record
  have tx : p'.providerTxId = p.providerTxId := congrArg Prod.snd record
  rw [← claim]
  simp only [Db.transfer, Refund.claim, hp, hp', Option.map_some, provider, tx]

/-- A step that leaves the refunds and what was paid back. -/
theorem frame (h : Repaid c) {s : Db} {o : Op} {a : sig.Answer o} (lasting : Lasting c.state s)
    (refunds : s.refunds = c.state.refunds) (next : c.state.nextId ≤ s.nextId)
    (refund : ((book c.log t).next o a).refund = (book c.log t).refund)
    (stays : (book c.log t).closed = true → ((book c.log t).next o a).closed = true)
    (silent : refundedRows (⟨t, j, o, a⟩ :: c.log) = refundedRows c.log)
    (transfers : acceptedTransfers (⟨t, j, o, a⟩ :: c.log) = acceptedTransfers c.log)
    (closed : ∀ p ∈ s.payments.rows, p.status = .refunded → p ∈ c.state.payments.rows ∨
      ∃ r, (book c.log t).refund = some (r, true) ∧ r.status = .processed ∧ r.paymentId = p.id ∧
        ((book c.log t).next o a).closed = true) :
    Repaid (⟨s, ⟨t, j, o, a⟩ :: c.log⟩ : Conf (controllers provider)) := by
  have same : ∀ u, (book (⟨t, j, o, a⟩ :: c.log : List (Event (controllers provider))) u).refund =
      (book c.log u).refund := by
    intro u
    by_cases hu : u = t
    · rw [hu, book_self, refund]
    · rw [book_other hu]
  constructor
  · have holders : refunding (⟨t, j, o, a⟩ :: c.log : List (Event (controllers provider))) =
        refunding c.log := funext same
    rw [refunds, silent, holders]
    exact h.held
  · rw [silent, transfers]
    exact h.transfers_later lasting
  · exact fun r hr ↦ Nat.lt_of_lt_of_le (h.fresh r (refunds ▸ hr)) next
  · exact fun r hr ↦ h.owed_later lasting r (refunds ▸ hr)
  · intro r hr
    obtain ⟨u, b, hu⟩ := h.inserted r (refunds ▸ hr)
    exact ⟨u, b, (same u).trans hu⟩
  · intro p hp hs
    rcases closed p hp hs with old | ⟨r, hr, processed, id, done⟩
    · obtain ⟨u, r, hr, processed, id, done⟩ := h.closed p old hs
      refine ⟨u, r, (same u).trans hr, processed, id, ?_⟩
      by_cases hu : u = t
      · subst hu
        rw [book_self]
        exact stays done
      · rwa [book_other hu]
    · exact ⟨t, r, (same t).trans hr, processed, id, by rwa [book_self]⟩

private theorem closed_other (h : Repaid c) {ev : Event (controllers provider)}
    (goes : ∀ r, (book c.log ev.tid).refund = some (r, true) →
      (book c.log ev.tid).closed = false) :
    ∀ p ∈ c.state.payments.rows, p.status = .refunded →
      ∃ t r, (book (ev :: c.log) t).refund = some (r, true) ∧ r.status = .processed ∧
        r.paymentId = p.id ∧ (book (ev :: c.log) t).closed = true := by
  intro p hp hs
  obtain ⟨u, r, hr, processed, id, done⟩ := h.closed p hp hs
  have hu : u ≠ ev.tid := by
    rintro rfl
    rw [goes r hr] at done
    cases done
  exact ⟨u, r, by rwa [book_other hu], processed, id, by rwa [book_other hu]⟩

/-- Inserting a refund of the found payment keeps the refunds repaid. -/
theorem insert (h : Repaid c) (hc : Billed c) {r saved : Refund} {q : Payment}
    (idle : (book c.log t).refund = none) (hq : (book c.log t).found = some q)
    (pending : r.status = .pending) (claim : r.claim = (q.id, q.amount))
    (hs : saved = { r with id := c.state.nextId }) :
    Repaid (⟨{ c.state with refunds := c.state.refunds.put saved, nextId := c.state.nextId + 1 },
      ⟨t, j, .insertRefund r, .ok saved⟩ :: c.log⟩ : Conf (controllers provider)) := by
  have number : saved.id = c.state.nextId := by rw [hs]
  have self : (book (⟨t, j, .insertRefund r, .ok saved⟩ :: c.log :
      List (Event (controllers provider))) t).refund = some (saved, false) := by
    rw [book_self]
    rfl
  have absent : c.state.refunds.find saved.id = none := by
    cases hf : c.state.refunds.find saved.id with
    | none => rfl
    | some q =>
      obtain ⟨hm, hk⟩ := Table.find_eq_some_iff.mp hf
      exact absurd (hk.trans number) (Nat.ne_of_lt (h.fresh q hm))
  constructor
  · apply h.held.insert (u := t) absent
    · simp [refundAccount, hs, pending]
    · intro v hv
      unfold refunding
      rw [book_other hv]
    · exact fun x hx ↦ Option.some.inj (hx.symm.trans self)
  · exact h.transfers
  · intro r' hr
    rcases Table.mem_put.mp hr with rfl | ⟨hr, -⟩
    · exact number ▸ Nat.lt_succ_self _
    · exact Nat.lt_succ_of_lt (h.fresh r' hr)
  · intro r' hr
    rcases Table.mem_put.mp hr with rfl | ⟨hr, -⟩
    · obtain ⟨p, hp, settled, record⟩ := hc.found t q hq
      obtain ⟨id, amount⟩ := Prod.mk.inj claim
      refine ⟨p, ?_, settled, ?_⟩
      · rw [hs]
        exact id ▸ hp
      · rw [hs]
        exact (congrArg (fun x ↦ x.1.1.2.2.2.1) record).trans amount.symm
    · exact h.owed r' hr
  · intro r' hr
    rcases Table.mem_put.mp hr with rfl | ⟨hr, -⟩
    · exact ⟨t, false, self⟩
    · obtain ⟨u, b, hu⟩ := h.inserted r' hr
      refine ⟨u, b, ?_⟩
      rw [book_other]
      · exact hu
      · rintro rfl
        rw [idle] at hu
        cases hu
  · apply h.closed_other
    intro r' hr
    rw [idle] at hr
    cases hr

/-- A refund that the gateway accepts keeps the refunds repaid. -/
theorem pay (h : Repaid c) (hc : Billed c) {name providerTxId : String} {amount : Money}
    {response : PaymentGatewayResponse} {q : Payment} {r : Refund}
    (hq : (book c.log t).found = some q) (hr : (book c.log t).refund = some (r, false))
    (claim : r.claim = (q.id, q.amount)) (hn : name = q.provider)
    (htx : providerTxId = q.providerTxId.getD "") (ha : amount = q.amount)
    (success : response.success = true) :
    Repaid (⟨c.state, ⟨t, j, .refund name providerTxId amount, .ok response⟩ :: c.log⟩ :
      Conf (controllers provider)) := by
  have self : (book (⟨t, j, .refund name providerTxId amount, .ok response⟩ :: c.log :
      List (Event (controllers provider))) t).refund = some (r, true) := by
    rw [book_self]
    simp only [Books.next, hr, Option.map_some, success]
  have rows : refundedRows (⟨t, j, .refund name providerTxId amount, .ok response⟩ :: c.log :
      List (Event (controllers provider))) = (r.id, r.claim) :: refundedRows c.log := by
    simp only [refundedRows, success, if_true, hr, Option.map_some, Option.toList_some,
      List.singleton_append]
  constructor
  · rw [rows]
    apply h.held.post (u := t) hr rfl
    · intro v hv
      unfold refunding
      rw [book_other hv]
    · exact fun x hx ↦ Option.some.inj (hx.symm.trans self)
  · obtain ⟨p, hp, -, -, tx⟩ := hc.find_settled hq
    obtain ⟨p', hp', -, record⟩ := hc.found t q hq
    rw [hp] at hp'
    cases hp'
    have gateway : p.provider = q.provider := congrArg (fun x ↦ x.1.2) record
    have asked : c.state.transfer r.claim = some ⟨name, providerTxId, amount⟩ := by
      rw [claim]
      simp only [Db.transfer, hp, Option.map_some, gateway, tx, hn, htx, ha]
    rw [rows, List.map_cons, h.transfers, asked]
    simp only [acceptedTransfers, success, if_true, List.map_cons]
  · exact h.fresh
  · exact h.owed
  · intro r' hr'
    obtain ⟨u, b, hu⟩ := h.inserted r' hr'
    by_cases htu : u = t
    · subst htu
      rw [hr] at hu
      cases hu
      exact ⟨u, true, self⟩
    · exact ⟨u, b, by rwa [book_other htu]⟩
  · apply h.closed_other
    intro r' hr'
    rw [hr] at hr'
    cases hr'

/-- A thread saves the refund that it inserted. -/
theorem save (h : Repaid c) {r q : Refund} {b : Bool} (goes : (book c.log t).closed = false)
    (hq : (book c.log t).refund = some (q, b)) (number : r.id = q.id) (claim : r.claim = q.claim)
    (processed : r.status = .processed → b = true) :
    Repaid (⟨{ c.state with refunds := c.state.refunds.put r },
      ⟨t, j, .saveRefund r, .ok ()⟩ :: c.log⟩ : Conf (controllers provider)) := by
  have self : (book (⟨t, j, .saveRefund r, .ok ()⟩ :: c.log :
      List (Event (controllers provider))) t).refund = some (r, b) := by
    rw [book_self]
    simp only [Books.next, hq, Option.map_some]
  have stored := (Table.find_eq_some_iff.mp (h.held.stored t q b hq)).1
  constructor
  · apply h.held.save (u := t) hq number claim
    · exact fun claims ↦ processed (by simpa [refundAccount] using claims)
    · intro denies
      cases denies
    · intro v hv
      unfold refunding
      rw [book_other hv]
    · exact fun x hx ↦ Option.some.inj (hx.symm.trans self)
  · exact h.transfers
  · intro r' hr
    rcases Table.mem_put.mp hr with rfl | ⟨hr, -⟩
    · exact number ▸ h.fresh q stored
    · exact h.fresh r' hr
  · intro r' hr
    rcases Table.mem_put.mp hr with rfl | ⟨hr, -⟩
    · obtain ⟨p, hp, settled, amount⟩ := h.owed q stored
      obtain ⟨id, same⟩ := Prod.mk.inj claim
      exact ⟨p, id ▸ hp, settled, amount.trans same.symm⟩
    · exact h.owed r' hr
  · intro r' hr
    rcases Table.mem_put.mp hr with rfl | ⟨hr, hk⟩
    · exact ⟨t, b, self⟩
    · obtain ⟨u, b', hu⟩ := h.inserted r' hr
      refine ⟨u, b', ?_⟩
      rw [book_other]
      · exact hu
      · rintro rfl
        cases hq.symm.trans hu
        exact hk number.symm
  · exact h.closed_other fun _ _ ↦ goes

/-- An operation that has nothing to do with refunds keeps the refunds repaid. -/
theorem quiet (h : Repaid c) {s : Db} {o : Op} {a : sig.Answer o} (lasting : Lasting c.state s)
    (refund : ((book c.log t).next o a).refund = (book c.log t).refund)
    (closed : ((book c.log t).next o a).closed = (book c.log t).closed)
    (silent : o.transfers = false) (refunds : s.refunds = c.state.refunds)
    (next : c.state.nextId ≤ s.nextId)
    (old : ∀ p ∈ s.payments.rows, p.status = .refunded → p ∈ c.state.payments.rows) :
    Repaid (⟨s, ⟨t, j, o, a⟩ :: c.log⟩ : Conf (controllers provider)) := by
  apply h.frame lasting refunds next refund
  · exact fun done ↦ closed.trans done
  · cases o <;> first | rfl | cases silent
  · cases o <;> first | rfl | cases silent
  · exact fun p hp hs ↦ .inl (old p hp hs)

/-- An operation that fails keeps the refunds repaid. -/
theorem fail (h : Repaid c) {o : Op} (e : Exception) (lasting : Lasting c.state c.state) :
    Repaid (⟨c.state, ⟨t, j, o, .error e⟩ :: c.log⟩ : Conf (controllers provider)) := by
  apply h.frame lasting rfl (Nat.le_refl _)
  · cases o <;> rfl
  · cases o <;> exact id
  · cases o <;> rfl
  · cases o <;> rfl
  · exact fun p hp _ ↦ .inl hp

/-- Inserting a payment, or rejecting it as a duplicate, keeps the refunds repaid. -/
theorem insertPayment (h : Repaid c) {x : Choice} {p : Payment} (initiated : p.status = .initiated)
    (lasting : Lasting c.state (perform x (.insert p) c.state).2) :
    Repaid (⟨(perform x (.insert p) c.state).2,
      ⟨t, j, .insert p, (perform x (.insert p) c.state).1⟩ :: c.log⟩ :
        Conf (controllers provider)) := by
  simp only [perform] at lasting ⊢
  split at lasting
  · next duplicate =>
    rw [if_pos duplicate]
    exact h.quiet lasting rfl rfl rfl rfl (Nat.le_refl _) fun _ hq _ ↦ hq
  · next new =>
    rw [if_neg new]
    apply h.quiet lasting rfl rfl rfl rfl (Nat.le_succ _)
    intro q hq hs
    rcases Table.mem_put.mp hq with rfl | ⟨hq, -⟩
    · rw [show _ = PaymentStatus.initiated from initiated] at hs
      cases hs
    · exact hq

/-- Saving a payment, charged or refunded, keeps the refunds repaid. -/
theorem savePayment (h : Repaid c) {p : Payment} (may : (book c.log t).may (.save p))
    (lasting : Lasting c.state { c.state with payments := c.state.payments.put p }) :
    Repaid (⟨{ c.state with payments := c.state.payments.put p },
      ⟨t, j, .save p, .ok ()⟩ :: c.log⟩ : Conf (controllers provider)) := by
  rcases may with ⟨q, b, unfound, -, -, -, settles⟩ | ⟨q, r, hq, hr, processed, id, hs⟩
  · have same : ((book c.log t).next (.save p) (.ok ())).refund = (book c.log t).refund ∧
        ((book c.log t).next (.save p) (.ok ())).closed = (book c.log t).closed := by
      simp only [Books.next, unfound, and_self]
    apply h.quiet lasting same.1 same.2 rfl rfl (Nat.le_refl _)
    intro q hq hs
    rcases Table.mem_put.mp hq with rfl | ⟨hq, -⟩
    · rcases settles with status | status | ⟨status, -⟩ <;> simp [status] at hs
    · exact hq
  · have next : (book c.log t).next (.save p) (.ok ()) = { book c.log t with closed := true } := by
      simp only [Books.next, hq]
    apply h.frame lasting rfl (Nat.le_refl _)
    · exact (congrArg Books.refund next :)
    · exact fun _ ↦ (congrArg Books.closed next :)
    · rfl
    · rfl
    · intro q' hq' _
      rcases Table.mem_put.mp hq' with rfl | ⟨hq', -⟩
      · exact .inr ⟨r, hr, processed, by rw [id, hs], congrArg Books.closed next⟩
      · exact .inl hq'

/-- A refund that the gateway refuses keeps the refunds repaid. -/
theorem refuse (h : Repaid c) {name providerTxId : String} {amount : Money}
    {response : PaymentGatewayResponse} {r : Refund}
    (hr : (book c.log t).refund = some (r, false)) (refused : response.success = false)
    (lasting : Lasting c.state c.state) :
    Repaid (⟨c.state, ⟨t, j, .refund name providerTxId amount, .ok response⟩ :: c.log⟩ :
      Conf (controllers provider)) := by
  apply h.frame lasting rfl (Nat.le_refl _)
  · simp only [Books.next, hr, Option.map_some, refused]
  · exact id
  · simp [refundedRows, refused]
  · simp [acceptedTransfers, refused]
  · exact fun p hp _ ↦ .inl hp

/-- Every step of a thread that keeps its books keeps what holds. -/
theorem step (h : Repaid c) (hc : Billed c) {x : Choice} {o : Op}
    (may : (book c.log t).may o) : Repaid (c.after t j x o) := by
  have lasting : Lasting c.state (c.after t j x o).state := hc.lasting may
  rcases exec_cases x o c.state with ⟨-, e, he⟩ | he
  · have after : c.after t j x o = ⟨c.state, ⟨t, j, o, .error e⟩ :: c.log⟩ := by
      simp only [Conf.after, Conf.answer, he]
    rw [after] at lasting ⊢
    exact h.fail e lasting
  · have after : c.after t j x o = ⟨(perform x o c.state).2,
        ⟨t, j, o, (perform x o c.state).1⟩ :: c.log⟩ := by
      simp only [Conf.after, Conf.answer, he]
    rw [after] at lasting ⊢
    have still : ∀ p ∈ c.state.payments.rows, p.status = .refunded → p ∈ c.state.payments.rows :=
      fun _ hp _ ↦ hp
    cases o with
    | findByKey k => exact h.quiet lasting rfl rfl rfl rfl (Nat.le_refl _) still
    | findRefundByKey k => exact h.quiet lasting rfl rfl rfl rfl (Nat.le_refl _) still
    | emit event => exact h.quiet lasting rfl rfl rfl rfl (Nat.le_refl _) still
    | now => exact h.quiet lasting rfl rfl rfl rfl (Nat.le_refl _) still
    | charge name request => exact h.quiet lasting rfl rfl rfl rfl (Nat.le_refl _) still
    | findSucceeded b =>
      simp only [perform]
      cases c.state.payment? fun p ↦ p.bookingId = b && p.status = .succeeded <;>
        exact h.quiet lasting rfl rfl rfl rfl (Nat.le_refl _) still
    | insert p => exact h.insertPayment may.2 lasting
    | save p => exact h.savePayment may lasting
    | insertRefund r =>
      obtain ⟨idle, pending, q, hq, claim⟩ := may
      exact h.insert hc idle hq pending claim rfl
    | saveRefund r =>
      obtain ⟨goes, q, b, hq, number, claim, processed⟩ := may
      exact h.save goes hq number claim processed
    | refund name providerTxId amount =>
      obtain ⟨-, q, r, hq, hr, claim, hn, htx, ha⟩ := may
      cases success : x.response.success with
      | true => exact h.pay hc hq hr claim hn htx ha success
      | false => exact h.refuse hr success lasting

end Repaid

variable {p : Pool (controllers provider)}

/-- Charges and refunds are billed and repaid in every run. -/
theorem kept_of_reach (hp : Pool.Reach (.free (controllers provider)) (· = Db.empty) p) :
    Billed p.conf ∧ Repaid p.conf := by
  induction hp with
  | start hs =>
    subst hs
    exact ⟨.start, .start⟩
  | spawn _ _ ih => exact ih
  | run hp ht _ ih =>
    have may := (Monitor.watches_of_reach books_obeys hp).may ht
    exact ⟨ih.1.step may, ih.2.step ih.1 may⟩

/-! ### What is stored and what was moved -/

/-- The payments that are marked as charged. -/
def Db.settled (s : Db) : List Payment := s.payments.rows.filter Payment.settled

/-- The payments whose charge was begun. -/
def Db.begun (s : Db) : List Payment := s.payments.rows.filter (·.status ≠ .initiated)

/-- The refunds that are marked as paid back. -/
def Db.processed (s : Db) : List Refund := s.refunds.rows.filter (·.status = .processed)

/-- What some refunds ask of the gateways of their payments. -/
def Db.transfers (s : Db) (refunds : List Refund) : List (Option Transfer) :=
  refunds.map fun r ↦ s.transfer r.claim

/-- What is stored accounts for what the gateways answered with success. -/
structure Balanced (c : Conf (controllers provider)) : Prop where
  /-- A settled payment has an accepted charge of its own, under its transaction. -/
  charged : List.Subperm (c.state.settled.map Payment.receipt) (acceptedCharges c.log)
  /-- An accepted charge is of a payment of its own whose charge was begun. -/
  begun : List.Subperm ((acceptedCharges c.log).map Prod.fst) (c.state.begun.map Payment.charge)
  /-- A processed refund has an accepted refund of its own, of the transaction of its payment. -/
  processed : List.Subperm (c.state.transfers c.state.processed)
    ((acceptedTransfers c.log).map some)
  /-- An accepted refund is of a stored refund of its own. -/
  stored : List.Subperm ((acceptedTransfers c.log).map some)
    (c.state.transfers c.state.refunds.rows)
  /-- A refund is of all of a settled payment. -/
  owed : ∀ r ∈ c.state.refunds.rows, ∃ p ∈ c.state.payments.rows, p.id = r.paymentId ∧
    p.settled = true ∧ p.amount = r.amount
  /-- A payment that is marked as refunded has a processed refund. -/
  refunded : ∀ p ∈ c.state.payments.rows, p.status = .refunded →
    ∃ r ∈ c.state.refunds.rows, r.paymentId = p.id ∧ r.status = .processed

private theorem nodup_receipts {log : List (Event (controllers provider))} {s : Db}
    {k : Nat → Known} (h : Ledger s log k) : (s.settled.map Payment.receipt).Nodup := by
  apply List.Nodup.map_on
  · intro x hx y hy same
    exact h.keys x (List.mem_of_mem_filter hx) y (List.mem_of_mem_filter hy)
      (congrArg (fun r ↦ r.1.idempotencyKey) same)
  · exact (List.Nodup.of_map _ s.payments.nodup).filter _

/-- Settled payments have accepted charges of their own. -/
theorem settled_subperm (hp : Pool.Reach (.free (controllers provider)) (· = Db.empty) p) :
    List.Subperm (p.conf.state.settled.map Payment.receipt) (acceptedCharges p.conf.log) := by
  apply (nodup_receipts (ledger_of_reach hp)).subperm
  intro receipt hm
  obtain ⟨r, hr, rfl⟩ := List.mem_map.mp hm
  obtain ⟨stored, settled⟩ := List.mem_filter.mp hr
  exact (kept_of_reach hp).1.settled r stored settled

/-- Whatever fails and however the requests interleave, what the service has stored accounts for
the charges and refunds that the gateways answered with success. -/
theorem books_balanced (hp : Pool.Reach (.free (controllers provider)) (· = Db.empty) p) :
    Balanced p.conf := by
  obtain ⟨billed, repaid⟩ := kept_of_reach hp
  constructor
  · exact settled_subperm hp
  · have part := billed.held.receipts.posted_subperm
    rw [billed.accepted] at part
    have same : p.conf.state.begun =
        p.conf.state.payments.rows.filter fun r ↦ !chargeAccount.denies r := by
      simp [Db.begun, chargeAccount]
    rw [same]
    exact part
  · have part := Receipts.subperm_map p.conf.state.transfer repaid.held.receipts.claimed_subperm
    rw [List.map_map, List.map_map] at part
    rw [← repaid.transfers]
    exact part
  · have part := Receipts.subperm_map p.conf.state.transfer repaid.held.receipts.posted_subperm
    have all : (p.conf.state.refunds.rows.filter fun r ↦ !refundAccount.denies r) =
        p.conf.state.refunds.rows := List.filter_eq_self.mpr fun _ _ ↦ rfl
    rw [List.map_map, List.map_map, all] at part
    rw [← repaid.transfers]
    exact part
  · intro r hr
    obtain ⟨q, hq, settled, amount⟩ := repaid.owed r hr
    obtain ⟨stored, id⟩ := Table.find_eq_some_iff.mp hq
    exact ⟨q, stored, id, settled, amount⟩
  · intro q hq refunded
    obtain ⟨t, r, hr, processed, id, -⟩ := repaid.closed q hq refunded
    exact ⟨r, (Table.find_eq_some_iff.mp (repaid.held.stored t r true hr)).1, id, processed⟩

/-! ### When every request has ended -/

/-- Some row could not be saved. -/
def Unsaved (log : List (Event (controllers provider))) : Prop :=
  ∃ ev ∈ log, Op.unsaved ev.op ev.answer = true

/-- What is stored is what the gateways answered with success. -/
structure Accounted (c : Conf (controllers provider)) : Prop where
  /-- Every payment has an outcome. -/
  payments : ∀ p ∈ c.state.payments.rows, p.settled = true ∨ p.status = .failed
  /-- Every refund has an outcome. -/
  refunds : ∀ r ∈ c.state.refunds.rows, r.status = .processed ∨ r.status = .failed
  /-- The settled payments are what was charged. -/
  charged : List.Perm (c.state.settled.map Payment.receipt) (acceptedCharges c.log)
  /-- The processed refunds are what was paid back. -/
  processed : List.Perm (c.state.transfers c.state.processed) ((acceptedTransfers c.log).map some)

/-- Only a save that fails leaves a row unsaved. -/
theorem Books.next_saved {s : Books} {o : Op} {a : sig.Answer o} (h : Op.unsaved o a = false) :
    (s.next o a).unsaved = s.unsaved := by
  cases o with
  | save p =>
    cases a with
    | error e => cases h
    | ok _ =>
      simp only [Books.next]
      split <;> rfl
  | saveRefund r =>
    cases a with
    | error e => cases h
    | ok _ => rfl
  | findSucceeded b =>
    cases a with
    | error e => rfl
    | ok found => cases found <;> rfl
  | _ => cases a <;> rfl

private theorem unsaved_of_book {log : List (Event (controllers provider))} {t : Nat}
    (h : (book log t).unsaved = true) : Unsaved log := by
  induction log with
  | nil => cases h
  | cons ev log ih =>
    have later : Unsaved log → Unsaved (ev :: log) := by
      rintro ⟨ev', he, hu⟩
      exact ⟨ev', List.mem_cons_of_mem _ he, hu⟩
    obtain ⟨u, j, o, a⟩ := ev
    by_cases hu : t = u
    · subst hu
      rw [book_self] at h
      cases failed : Op.unsaved o a with
      | true => exact ⟨_, List.mem_cons_self, failed⟩
      | false =>
        apply later
        apply ih
        rwa [Books.next_saved failed] at h
    · rw [book_other hu] at h
      exact later (ih h)

private theorem book_done (hp : Pool.Reach (.free (controllers provider)) (· = Db.empty) p)
    (ended : ∀ thread ∈ p.threads, thread.2.ended = true) (t : Nat) :
    (book p.conf.log t).Done := by
  have watches := Monitor.watches_of_reach books_obeys hp
  by_cases ht : p.threads.length ≤ t
  · rw [show book p.conf.log t = {} from watches.threads t ht]
    exact Books.done_init
  · obtain ⟨⟨j, q⟩, hq⟩ : ∃ thread, p.threads[t]? = some thread :=
      ⟨_, List.getElem?_eq_getElem (Nat.lt_of_not_le ht)⟩
    have done := ended _ (List.mem_of_getElem? hq)
    cases q with
    | ret r => exact watches.ended hq
    | op o k => cases done

/-- When every request has ended and every row could be saved, the settled payments are exactly
what was charged, and the processed refunds exactly what was paid back. -/
theorem books_accounted (hp : Pool.Reach (.free (controllers provider)) (· = Db.empty) p)
    (ended : ∀ thread ∈ p.threads, thread.2.ended = true) (saved : ¬ Unsaved p.conf.log) :
    Accounted p.conf := by
  obtain ⟨billed, repaid⟩ := kept_of_reach hp
  have done : ∀ t, (∀ r b, (book p.conf.log t).payment = some (r, b) →
      r.status = .succeeded ∨ r.status = .failed ∧ b = false) ∧
      ∀ r b, (book p.conf.log t).refund = some (r, b) →
        r.status = .processed ∨ r.status = .failed ∧ b = false :=
    fun t ↦ (book_done hp ended t).resolve_left fun h ↦ saved (unsaved_of_book h)
  have payments : ∀ r ∈ p.conf.state.payments.rows, r.settled = false →
      r.status = .failed ∧ r.id ∉ (chargedRows p.conf.log).map Prod.fst := by
    intro r hr unsettled
    obtain ⟨t, b, hb⟩ := billed.unsettled r hr unsettled
    rcases (done t).1 r b hb with succeeded | ⟨failed, rfl⟩
    · simp [Payment.settled, succeeded] at unsettled
    · have given := billed.held.given t r false (paying_eq_some.mpr ⟨hb, unsettled⟩)
      exact ⟨failed, fun hm ↦ absurd (given.mpr hm) (by simp)⟩
  have refunds : ∀ r ∈ p.conf.state.refunds.rows, r.status ≠ .processed →
      r.status = .failed ∧ r.id ∉ (refundedRows p.conf.log).map Prod.fst := by
    intro r hr unprocessed
    obtain ⟨t, b, hb⟩ := repaid.inserted r hr
    rcases (done t).2 r b hb with processed | ⟨failed, rfl⟩
    · exact absurd processed unprocessed
    · exact ⟨failed, fun hm ↦ absurd ((repaid.held.given t r false hb).mpr hm) (by simp)⟩
  constructor
  · intro r hr
    cases settled : r.settled with
    | true => exact .inl rfl
    | false => exact .inr (payments r hr settled).1
  · intro r hr
    by_cases processed : r.status = .processed
    · exact .inl processed
    · exact .inr (refunds r hr processed).1
  · have receipts : Receipts { chargeAccount with denies := fun r ↦ !r.settled }
        p.conf.state.payments (chargedRows p.conf.log) :=
      billed.held.receipts.recount rfl rfl fun r hr hd ↦ (payments r hr (by simpa using hd)).2
    have length := (receipts.claimed_perm fun r _ ↦ by simp [chargeAccount]).length_eq
    apply (settled_subperm hp).perm_of_length_le
    rw [billed.accepted, List.length_map, List.length_map] at length
    rw [List.length_map]
    exact Nat.le_of_eq length.symm
  · have receipts : Receipts { refundAccount with denies := fun r ↦ r.status ≠ .processed }
        p.conf.state.refunds (refundedRows p.conf.log) :=
      repaid.held.receipts.recount rfl rfl fun r hr hd ↦ (refunds r hr (by simpa using hd)).2
    have moved := (receipts.claimed_perm fun r _ ↦ by simp [refundAccount]).map
      p.conf.state.transfer
    rw [List.map_map, List.map_map] at moved
    rw [← repaid.transfers]
    exact moved

/-- Two payments of which one is refused, and a refund of the other. -/
def chargedAndRefunded : List (Label (controllers "stripe")) :=
  [.spawn (.http (samplePayment "k")),
    .spawn (.grpc ⟨none, .initiatePayment { samplePayment "l" with bookingId := 1 }⟩),
    .run 1 {}, .run 0 {}, .run 1 {}, .run 0 {}, .run 0 {}, .run 1 {},
    .run 1 { response := { success := false } }, .run 0 {}, .run 1 {}, .run 0 {}, .run 0 {},
    .run 1 {}, .run 0 {}, .spawn (.grpc ⟨none, .refundPayment 0 "r" ""⟩)] ++
    List.replicate 7 (.run 2 {})

/-- Whether a row could be saved. -/
def savedAll (log : List (Event (controllers "stripe"))) : Bool :=
  log.all fun ev ↦ !Op.unsaved ev.op ev.answer

/-- The books are balanced after a charge, a refusal and a refund. -/
theorem balanced_of_refunded :
    ∃ p, Pool.play (.free _) chargedAndRefunded (.start Db.empty) = some p ∧
      (p.conf.state.payments.rows.length = 2 ∧ (acceptedTransfers p.conf.log).length = 1) ∧
      Balanced p.conf := by
  have played : (Pool.play (.free _) chargedAndRefunded (.start Db.empty)).any fun p ↦
      p.conf.state.payments.rows.length = 2 ∧ (acceptedTransfers p.conf.log).length = 1 := by
    decide +kernel
  simp only [Option.any_eq_true, decide_eq_true_eq] at played
  obtain ⟨p, hp, lengths⟩ := played
  exact ⟨p, hp, lengths, books_balanced (Pool.reach_of_play rfl hp)⟩

/-- One charge and one refund of it are accounted for. -/
theorem accounted_of_refunded :
    ∃ p, Pool.play (.free _) chargedAndRefunded (.start Db.empty) = some p ∧
      ((acceptedCharges p.conf.log).length = 1 ∧ (acceptedTransfers p.conf.log).length = 1) ∧
      Accounted p.conf := by
  have played : (Pool.play (.free _) chargedAndRefunded (.start Db.empty)).any fun p ↦
      ((acceptedCharges p.conf.log).length = 1 ∧ (acceptedTransfers p.conf.log).length = 1) ∧
        (p.threads.all fun thread ↦ thread.2.ended) ∧ savedAll p.conf.log := by
    decide +kernel
  simp only [Option.any_eq_true, decide_eq_true_eq, List.all_eq_true] at played
  obtain ⟨p, hp, lengths, ended, saved⟩ := played
  refine ⟨p, hp, lengths, books_accounted (Pool.reach_of_play rfl hp) ended ?_⟩
  rintro ⟨ev, he, unsaved⟩
  have savedOne := List.all_eq_true.mp saved ev he
  rw [unsaved] at savedOne
  cases savedOne

end Ticketing.PaymentService
