import Ticketing.Async.Play
import Ticketing.PaymentService.RefundStages
import Ticketing.PaymentService.SingleCharge

/-!
# One refund for each payment

Library `PaymentService`. The guards of `refundByBooking` are a status that is read before the
gateway is called and a key that need not be unique. A payment is refunded once as long as
its refunds do not overlap and what the gateway accepted is saved.
-/

namespace Ticketing.PaymentService

open Async Store

variable {provider : String}

/-- The amount that a call of the gateway accepts to refund. -/
def Op.accepts : (o : Op) → sig.Answer o → Option Money
  | .refund _ _ amount, .ok response => if response.success then some amount else none
  | _, _ => none

/-- The payment that thread `t` has found to refund. -/
def foundBy (t : Nat) : List (Event (service provider)) → Option Payment
  | [] => none
  | ev :: log =>
    if ev.tid = t then Op.finds ev.op ev.answer <|> foundBy t log else foundBy t log

/-- The amounts of all calls of the gateway that accepted to refund payment `n`. -/
def refundsOf (n : Id) : List (Event (service provider)) → List Money
  | [] => []
  | ev :: log =>
    if (foundBy ev.tid log).any fun p ↦ p.id = n then
      (Op.accepts ev.op ev.answer).toList ++ refundsOf n log
    else refundsOf n log

/-- At most one call of the gateway has refunded a payment, by its amount. -/
def RefundedOnce (s : Db) (log : List (Event (service provider))) : Prop :=
  ∀ p ∈ s.payments.rows, refundsOf p.id log = [] ∨ refundsOf p.id log = [p.amount]

/-- How far a thread has got after a history. -/
abbrev stage (log : List (Event (service provider))) (t : Nat) : Stage :=
  (stages provider).state t log

/-- The gateway accepted the refund, and what it answered is not saved yet. -/
def Stage.accepting : Stage → Bool
  | .accepted _ => true
  | _ => false

/-- A payment is found while no other call that has found it may still refund it. -/
def FindsAlone (c : Conf (service provider)) (ev : Event (service provider)) : Prop :=
  ∀ p ∈ Op.finds ev.op ev.answer, ∀ e ∈ c.log, ∀ q ∈ (stage c.log e.tid).pending, q.id ≠ p.id

/-- A save that failed. -/
def Op.unsaved : (o : Op) → sig.Answer o → Bool
  | .saveRefund _, .error _ | .save _, .error _ => true
  | _, _ => false

/-- What the gateway accepted is saved. -/
def SavesAccepted (c : Conf (service provider)) (ev : Event (service provider)) : Prop :=
  Op.unsaved ev.op ev.answer = true → (stage c.log ev.tid).accepting = false

/-- The runs in which refunds of a payment do not overlap, and accepted ones are saved. -/
def apartRefunds (provider : String) : Regime (service provider) where
  may c ev := FindsAlone c ev ∧ SavesAccepted c ev
  excl _ _ := False

instance (c : Conf (service provider)) (ev : Event (service provider)) :
    Decidable ((apartRefunds provider).may c ev) := by
  unfold apartRefunds FindsAlone SavesAccepted
  infer_instance

instance (i j : Job) : Decidable ((apartRefunds provider).excl i j) :=
  inferInstanceAs (Decidable False)

/-! ### Stages and the history -/

/-- What an operation makes of the payment that a thread may refund. -/
theorem Stage.pending_next {st : Stage} {o : Op} {a : sig.Answer o} {p : Payment}
    (h : (st.next o a).pending = some p) : st.pending = some p ∨ Op.finds o a = some p := by
  unfold Stage.next at h
  split at h
  case h_1 => exact .inr h
  case h_7 =>
    split at h
    · exact .inl h
    · cases h
  all_goals first | exact .inl h | cases h

/-- Only a lookup finds a payment. -/
theorem Op.lookup_of_finds {o : Op} {a : sig.Answer o} {p : Payment} (h : Op.finds o a = some p) :
    ∃ b, o = .findSucceeded b := by
  unfold Op.finds at h
  split at h
  · exact ⟨_, rfl⟩
  · cases h

/-- A thread may refund the payment that it has found. -/
theorem foundBy_of_pending {log : List (Event (service provider))}
    (hk : (stages provider).Kept log) {t : Nat} {p : Payment}
    (h : (stage log t).pending = some p) : foundBy t log = some p := by
  induction log with
  | nil => cases h
  | cons ev log ih =>
    obtain ⟨u, j, o, a⟩ := ev
    by_cases hu : u = t
    · subst hu
      rw [stage, Monitor.state_self] at h
      simp only [foundBy, if_pos]
      rcases Stage.pending_next h with old | found
      · cases hf : Op.finds o a with
        | none => simpa using ih hk.2 old
        | some q =>
          obtain ⟨b, rfl⟩ := Op.lookup_of_finds hf
          have hs : (stages provider).state u log = .start := hk.1.1
          rw [hs] at old
          cases old
      · rw [found]
        rfl
    · rw [stage, Monitor.state_other _ hu] at h
      simp only [foundBy, if_neg hu]
      exact ih hk.2 h

/-! ### What one operation does to the payments -/

/-- Only inserts and saves change the payments. -/
theorem payments_exec (x : Choice) (o : Op) (s : Db) :
    (exec x o s).2.payments = s.payments ∨
      (∃ p, o = .save p ∧ (exec x o s).2.payments = s.payments.put p) ∨
      ∃ p, p.id = s.nextId ∧ (exec x o s).2.payments = s.payments.put p := by
  rcases exec_cases x o s with ⟨-, e, he⟩ | he
  · exact .inl (by rw [he])
  · rw [he]
    cases o with
    | save p => exact .inr (.inl ⟨p, rfl, rfl⟩)
    | insert p =>
      by_cases hany : s.payments.rows.any fun q ↦ q.idempotencyKey = p.idempotencyKey
      · simp [perform, hany]
      · exact .inr (.inr ⟨{ p with id := s.nextId }, rfl, by simp [perform, hany]⟩)
    | _ => exact .inl rfl

/-- A payment that succeeded stays so until it is saved as refunded. -/
theorem Moves.succeeded {t : Nat} {x : Choice} {o : Op} {s : Db} {g g' : Owners} (hi : Inv s g)
    (h : Moves t s g (exec x o s).2 g') {n : Id} {p : Payment} (hf : s.payments.find n = some p)
    (hs : p.status = .succeeded) :
    ∃ q, (exec x o s).2.payments.find n = some q ∧ q.order = p.order ∧
      (q.status = .succeeded ∨ q.status = .refunded ∧ o = .save q) := by
  obtain ⟨q, hq, hset, ho⟩ := h.settled hf (by simp [Payment.settled, hs])
  refine ⟨q, hq, ho, ?_⟩
  by_cases hst : q.status = .succeeded
  · exact .inl hst
  · right
    have hr : q.status = .refunded := by
      simpa [Payment.settled, hst] using hset
    refine ⟨hr, ?_⟩
    have changed : (exec x o s).2.payments.find n ≠ s.payments.find n := by
      rw [hq, hf]
      rintro ⟨⟩
      exact hst hs
    rcases payments_exec x o s with he | ⟨p', rfl, he⟩ | ⟨p', hp', he⟩
    · rw [he] at changed
      exact absurd rfl changed
    · by_cases hn : p'.id = n
      · subst hn
        rw [he, Table.find_put_self] at hq
        cases hq
        rfl
      · rw [he, Table.find_put_of_ne _ hn] at changed
        exact absurd rfl changed
    · by_cases hn : p'.id = n
      · rw [← hn, hp', hi.find_unused] at hf
        cases hf
      · rw [he, Table.find_put_of_ne _ hn] at changed
        exact absurd rfl changed

/-! ### The invariant -/

/-- Refunds of a payment are apart, and its amount was refunded at most once. -/
structure Apart (s : Db) (log : List (Event (service provider))) : Prop where
  row : ∀ t p, (stage log t).pending = some p →
    ∃ q, s.payments.find p.id = some q ∧ q.order = p.order ∧ q.status = .succeeded
  alone : ∀ t u p q, (stage log t).pending = some p → (stage log u).pending = some q →
    p.id = q.id → t = u
  once : ∀ n, refundsOf n log = [] ∨ ∃ p, s.payments.find n = some p ∧
    refundsOf n log = [p.amount] ∧
    (p.status = .refunded ∨ ∃ t q, stage log t = .accepted q ∧ q.id = n)

namespace Apart

/-- Refunds are apart in the empty database. -/
theorem start : Apart Db.empty ([] : List (Event (service provider))) where
  row t p h := by cases h
  alone t u p q h := by cases h
  once n := .inl rfl

/-- A payment that is found, but not refunded by its thread, is not refunded at all. -/
theorem unrefunded {s : Db} {log : List (Event (service provider))} (h : Apart s log) {t : Nat}
    {p : Payment} (hp : stage log t = .fresh p) : refundsOf p.id log = [] := by
  have pending : (stage log t).pending = some p := by rw [hp]; rfl
  rcases h.once p.id with hn | ⟨q, hq, -, hst | ⟨u, r, hu, hid⟩⟩
  · exact hn
  · obtain ⟨q', hq', -, hst'⟩ := h.row t p pending
    rw [hq] at hq'
    cases hq'
    rw [hst] at hst'
    cases hst'
  · have same : u = t := h.alone u t r p (by rw [hu]; rfl) pending hid
    rw [same, hp] at hu
    cases hu

variable {c : Conf (service provider)} {t : Nat} {j : Job} {x : Choice} {o : Op} {g g' : Owners}

/-- The stage of the thread that took the step. -/
theorem stage_self : stage (c.after t j x o).log t = (stage c.log t).next o (c.answer x o) :=
  Monitor.state_self _ _ _ _ _ _

/-- An operation keeps the stage of every other thread. -/
theorem stage_other {u : Nat} (hu : u ≠ t) : stage (c.after t j x o).log u = stage c.log u :=
  Monitor.state_other _ (Ne.symm hu)

/-- What a lookup finds is stored and succeeded. -/
theorem found_succeeded {s : Db} {p : Payment} (h : Op.finds o (exec x o s).1 = some p) :
    (exec x o s).2 = s ∧ s.payments.find p.id = some p ∧ p.status = .succeeded := by
  obtain ⟨b, rfl⟩ := Op.lookup_of_finds h
  rcases exec_cases x (.findSucceeded b) s with ⟨-, e, he⟩ | he
  · rw [he] at h
    cases h
  · rw [he] at h ⊢
    have found : s.payment? (fun p ↦ p.bookingId = b && p.status = .succeeded) = some p := h
    have hm := List.mem_of_find?_eq_some found
    have hs := List.find?_some found
    simp only [Bool.and_eq_true, decide_eq_true_eq] at hs
    exact ⟨rfl, Table.find_of_mem hm, hs.2⟩

/-- Only the thread whose refund was accepted saves the payment as refunded. -/
theorem saver (may : (stage c.log t).may j o) {q : Payment} (ho : o = .save q)
    (hs : q.status = .refunded) : ∃ p, stage c.log t = .accepted p ∧ q.order = p.order := by
  subst ho
  have h : _ ∨ _ := may
  rcases h with ⟨-, hne⟩ | ⟨p, hp, hq, -⟩
  · exact absurd hs hne
  · exact ⟨p, hp, hq⟩

/-- A thread that may refund a payment stays the only one that can change it. -/
theorem row_step (h : Apart c.state c.log) (may : (stage c.log t).may j o) (hi : Inv c.state g)
    (hm : Moves t c.state g (c.after t j x o).state g') {u : Nat} {p : Payment}
    (hp : (stage (c.after t j x o).log u).pending = some p) :
    ∃ q, (c.after t j x o).state.payments.find p.id = some q ∧ q.order = p.order ∧
      q.status = .succeeded := by
  have old : (stage c.log u).pending = some p → ∃ q,
      (c.after t j x o).state.payments.find p.id = some q ∧ q.order = p.order ∧
        q.status = .succeeded := by
    intro hp'
    obtain ⟨q, hq, ho, hs⟩ := h.row u p hp'
    obtain ⟨r, hr, ho', hst | ⟨hst, hop⟩⟩ := hm.succeeded hi hq hs
    · exact ⟨r, hr, ho'.trans ho, hst⟩
    · obtain ⟨m, hacc, hom⟩ := saver may hop hst
      have hid : m.id = p.id :=
        (Payment.id_of_order hom).symm.trans (Payment.id_of_order (ho'.trans ho))
      have same : t = u := h.alone t u m p (by rw [hacc]; rfl) hp' hid
      subst same
      rw [stage_self, hacc, hop] at hp
      cases hp
  by_cases hu : u = t
  · subst hu
    rw [stage_self] at hp
    rcases Stage.pending_next hp with hp' | found
    · exact old hp'
    · obtain ⟨hs, hf, hst⟩ := found_succeeded found
      refine ⟨p, ?_, rfl, hst⟩
      show (exec x o c.state).2.payments.find p.id = some p
      rw [hs]
      exact hf
  · rw [stage_other hu] at hp
    exact old hp

/-- A thread that is past its start has executed something. -/
theorem mem_of_pending {log : List (Event (service provider))} {t : Nat} {p : Payment}
    (h : (stage log t).pending = some p) : ∃ e ∈ log, e.tid = t := by
  by_contra hn
  have hs : stage log t = .start := Monitor.state_absent _ fun e he ht ↦ hn ⟨e, he, ht⟩
  rw [hs] at h
  cases h

/-- Every operation keeps a payment with at most one thread that refunds it. -/
theorem alone_step (h : Apart c.state c.log) (hm : FindsAlone c ⟨t, j, o, c.answer x o⟩)
    {u v : Nat} {p q : Payment} (hp : (stage (c.after t j x o).log u).pending = some p)
    (hq : (stage (c.after t j x o).log v).pending = some q) (hid : p.id = q.id) : u = v := by
  have other : ∀ {w r m}, w ≠ t → (stage (c.after t j x o).log w).pending = some r →
      (stage (c.after t j x o).log t).pending = some m → r.id ≠ m.id := by
    intro w r m hw hr hmt
    rw [stage_other hw] at hr
    rw [stage_self] at hmt
    rcases Stage.pending_next hmt with hmt | found
    · exact fun heq ↦ hw (h.alone w t r m hr hmt heq)
    · obtain ⟨e, he, rfl⟩ := mem_of_pending hr
      exact hm m found e he r hr
  by_cases hu : u = t
  · by_cases hv : v = t
    · exact hu.trans hv.symm
    · subst hu
      exact absurd hid.symm (other hv hq hp)
  · by_cases hv : v = t
    · subst hv
      exact absurd hid (other hu hp hq)
    · rw [stage_other hu] at hp
      rw [stage_other hv] at hq
      exact h.alone u v p q hp hq hid

/-- Only a call of the gateway accepts a refund. -/
theorem refund_of_accepts {o : Op} {a : sig.Answer o} {amount : Money}
    (h : Op.accepts o a = some amount) :
    ∃ name txId, o = .refund name txId amount ∧ ∀ p, Stage.next (.fresh p) o a = .accepted p := by
  unfold Op.accepts at h
  split at h
  · next name txId amount' response =>
    split at h
    · next hs =>
      cases h
      exact ⟨name, txId, rfl, fun p ↦ if_pos hs⟩
    · cases h
  · cases h

/-- A call of the gateway that accepts is the first one for its payment. -/
theorem accepts_first (h : Apart c.state c.log) (kept : (stages provider).Kept c.log)
    (may : (stage c.log t).may j o) {n : Id} {amount : Money}
    (ha : Op.accepts o (c.answer x o) = some amount)
    (hn : (foundBy t c.log).any (fun p ↦ p.id = n) = true) :
    refundsOf n c.log = [] ∧ ∃ p, c.state.payments.find n = some p ∧ p.settled = true ∧
      amount = p.amount ∧ ∃ q, stage (c.after t j x o).log t = .accepted q ∧ q.id = n := by
  obtain ⟨name, txId, rfl, hnext⟩ := refund_of_accepts ha
  obtain ⟨q, hq, -, rfl⟩ := may
  have pending : (stage c.log t).pending = some q := by rw [hq]; rfl
  rw [foundBy_of_pending kept pending] at hn
  have hid : q.id = n := by simpa using hn
  obtain ⟨p, hp, ho, hst⟩ := h.row t q pending
  rw [hid] at hp
  refine ⟨hid ▸ h.unrefunded hq, p, hp, by simp [Payment.settled, hst],
    (Payment.amount_of_order ho).symm, q, ?_, hid⟩
  rw [stage_self, hq]
  exact hnext q

/-- An accepted refund stays accepted until its payment is saved as refunded. -/
theorem accepted_step (may : (stage c.log t).may j o)
    (hs : SavesAccepted c ⟨t, j, o, c.answer x o⟩) {u : Nat} {q : Payment}
    (hu : stage c.log u = .accepted q) :
    stage (c.after t j x o).log u = .accepted q ∨
      ∃ p, (c.after t j x o).state.payments.find q.id = some p ∧ p.status = .refunded := by
  by_cases hut : u = t
  · subst hut
    have unsaved : Op.unsaved o (c.answer x o) = false := by
      cases hf : Op.unsaved o (c.answer x o) with
      | false => rfl
      | true =>
        have := hs hf
        rw [hu] at this
        cases this
    rw [stage_self, hu]
    cases o with
    | save p =>
      right
      rw [hu] at may
      have saved : _ ∨ _ := may
      rcases saved with ⟨hst, -⟩ | ⟨q', hq', ho, hst⟩
      · cases hst
      · cases hq'
        rw [← Payment.id_of_order ho]
        refine ⟨p, ?_, hst⟩
        rcases exec_cases x (.save p) c.state with ⟨-, e, he⟩ | he
        · have failed : Op.unsaved (.save p) (exec x (.save p) c.state).1 = false := unsaved
          rw [he] at failed
          cases failed
        · show (exec x (.save p) c.state).2.payments.find p.id = some p
          rw [he]
          exact Table.find_put_self _ p
    | saveRefund r =>
      left
      cases ha : c.answer x (.saveRefund r) with
      | ok a => rfl
      | error e =>
        rw [ha] at unsaved
        cases unsaved
    | _ => exact .inl rfl
  · left
    rw [stage_other hut]
    exact hu

/-- Every operation keeps each payment refunded at most once, with its amount. -/
theorem once_step (h : Apart c.state c.log) (kept : (stages provider).Kept c.log)
    (may : (stage c.log t).may j o) (hs : SavesAccepted c ⟨t, j, o, c.answer x o⟩)
    (hm : Moves t c.state g (c.after t j x o).state g') (n : Id) :
    refundsOf n (c.after t j x o).log = [] ∨
      ∃ p, (c.after t j x o).state.payments.find n = some p ∧
        refundsOf n (c.after t j x o).log = [p.amount] ∧
        (p.status = .refunded ∨
          ∃ u q, stage (c.after t j x o).log u = .accepted q ∧ q.id = n) := by
  have same : refundsOf n (c.after t j x o).log = refundsOf n c.log →
      refundsOf n (c.after t j x o).log = [] ∨
        ∃ p, (c.after t j x o).state.payments.find n = some p ∧
          refundsOf n (c.after t j x o).log = [p.amount] ∧
          (p.status = .refunded ∨
            ∃ u q, stage (c.after t j x o).log u = .accepted q ∧ q.id = n) := by
    intro he
    rw [he]
    rcases h.once n with hn | ⟨p, hp, hr, hst | ⟨u, q, hu, hid⟩⟩
    · exact .inl hn
    · obtain ⟨r, hr', hrs, ho⟩ := hm.refunded hp hst
      exact .inr ⟨r, hr', hr.trans (by rw [Payment.amount_of_order ho]), .inl hrs⟩
    · obtain ⟨p', hp', -, hst⟩ := h.row u q (by rw [hu]; rfl)
      rw [hid, hp] at hp'
      cases hp'
      obtain ⟨r, hr', -, ho⟩ := hm.settled hp (by simp [Payment.settled, hst])
      refine .inr ⟨r, hr', hr.trans (by rw [Payment.amount_of_order ho]), ?_⟩
      rcases accepted_step may hs hu with hacc | ⟨m, hf, hms⟩
      · exact .inr ⟨u, q, hacc, hid⟩
      · rw [hid, hr'] at hf
        cases hf
        exact .inl hms
  by_cases hf : (foundBy t c.log).any (fun p ↦ p.id = n) = true
  · cases ha : Op.accepts o (c.answer x o) with
    | none => exact same (by simp [Conf.after, refundsOf, hf, ha])
    | some amount =>
      obtain ⟨hn, p, hp, hset, rfl, acc⟩ := h.accepts_first kept may ha hf
      obtain ⟨r, hr, -, ho⟩ := hm.settled hp hset
      refine .inr ⟨r, hr, ?_, .inr ⟨t, acc⟩⟩
      simp [Conf.after, refundsOf, hf, ha, hn, Payment.amount_of_order ho]
  · exact same (by simp [Conf.after, refundsOf, hf])

end Apart

/-- Every run in which refunds are apart keeps the invariant. -/
theorem apart_of_reach {p : Pool (service provider)} (hp : Reach (apartRefunds provider) p) :
    Apart p.conf.state p.conf.log := by
  induction hp with
  | start hs =>
    rw [hs]
    exact Apart.start
  | spawn _ _ ih => exact ih
  | @run p t j x o k hp ht hm ih =>
    have watched := Monitor.watches_of_reach (Q := Replies) request_obeys hp
    have free : Reach (Mode.regime ⟨false, false⟩ provider) p :=
      Pool.Reach.mono (G := apartRefunds provider) (fun _ _ _ ↦ ⟨nofun, nofun⟩) (fun _ _ h ↦ h) hp
    obtain ⟨g, g', hi, -, hmove⟩ := (sound ⟨false, false⟩ provider).move free ht ⟨nofun, nofun⟩
    have may := watched.may ht
    exact
      { row := fun _ _ h ↦ ih.row_step may hi hmove h
        alone := fun _ _ _ _ h h' ↦ ih.alone_step hm.1 h h'
        once := ih.once_step watched.kept may hm.2 hmove }

/-- A refund of booking 0 with a key. -/
def sampleRefund (key : String) : Label (service "stripe") :=
  .spawn ⟨none, .refundPayment 0 key "cancelled"⟩

/-- A payment of booking 0 succeeds. -/
def samplePaid : List (Label (service "stripe")) :=
  .spawn ⟨none, .initiatePayment (samplePayment "k")⟩ :: List.replicate 7 (.run 0 {})

/-- Two refunds with different keys find the payment before either reaches the gateway. -/
def overlappingRefunds : List (Label (service "stripe")) :=
  samplePaid ++ [sampleRefund "r", sampleRefund "s", .run 1 {}, .run 2 {}, .run 1 {}, .run 2 {},
    .run 1 {}, .run 2 {}, .run 1 {}, .run 2 {}]

/-- The gateway refunds one payment twice. -/
theorem overlapping_refunds_pay_twice :
    ∃ p, Pool.play (.free (service "stripe")) overlappingRefunds (Pool.start Db.empty) = some p ∧
      refundsOf 0 p.conf.log = [10000, 10000] ∧ ¬ RefundedOnce p.conf.state p.conf.log := by
  have played : (Pool.play (.free (service "stripe")) overlappingRefunds
      (Pool.start Db.empty)).any fun p ↦ refundsOf 0 p.conf.log = [10000, 10000] &&
        p.conf.state.payments.rows.any fun q ↦ q.id = 0 := by
    decide +kernel
  simp only [Option.any_eq_true, List.any_eq_true, Bool.and_eq_true, decide_eq_true_eq] at played
  obtain ⟨p, hp, htwo, q, hq, hid⟩ := played
  refine ⟨p, hp, htwo, ?_⟩
  intro once
  have hq := once q hq
  rw [hid, htwo] at hq
  simp at hq

/-- A payment is refunded at most once, by its amount, as long as its refunds do not overlap and
what the gateway accepted is saved. -/
theorem refunded_once_when_apart {p : Pool (service provider)}
    (hp : Reach (apartRefunds provider) p) : RefundedOnce p.conf.state p.conf.log := by
  intro q hq
  rcases (apart_of_reach hp).once q.id with hn | ⟨r, hr, hone, -⟩
  · exact .inl hn
  · rw [Table.find_of_mem hq] at hr
    cases hr
    exact .inr hone

/-- The same two refunds, one after the other. -/
def apartSample : List (Label (service "stripe")) :=
  samplePaid ++ sampleRefund "r" :: List.replicate 7 (.run 1 {}) ++
    [sampleRefund "s", .run 2 {}]

/-- The second refund finds no payment to refund. -/
theorem refunded_once_when_apart_twice :
    ∃ p, Pool.play (apartRefunds "stripe") apartSample (Pool.start Db.empty) = some p ∧
      refundsOf 0 p.conf.log = [10000] ∧ RefundedOnce p.conf.state p.conf.log := by
  have played : (Pool.play (apartRefunds "stripe") apartSample (Pool.start Db.empty)).any
      fun p ↦ refundsOf 0 p.conf.log = [10000] && (p.reply? 2).isSome := by
    decide +kernel
  simp only [Option.any_eq_true, Bool.and_eq_true, decide_eq_true_eq] at played
  obtain ⟨p, hp, hone, -⟩ := played
  exact ⟨p, hp, hone, refunded_once_when_apart (Pool.reach_of_play rfl hp)⟩

end Ticketing.PaymentService
