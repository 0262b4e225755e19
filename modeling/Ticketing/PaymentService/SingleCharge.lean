import Ticketing.Async.Play
import Ticketing.PaymentService.Controllers

/-!
# One charge for each key

Library `PaymentService`. The lookup of a key and the insert are two operations, but only one
insert under a key succeeds, and a thread charges only the payment that it inserted.
-/

namespace Ticketing.PaymentService

open Async Store

variable {provider : String}

/-- The key under which the operation calls the gateway for a charge. -/
def Op.chargeKey : Op → Option String
  | .charge _ request => some request.idempotencyKey
  | _ => none

/-- What one operation does to the payments, and what its thread knows then. -/
inductive Change (s : Db) (k : Known) (s' : Db) (k' : Known) (o : Op) : Prop where
  | same (payments : s'.payments = s.payments) (next : s.nextId ≤ s'.nextId) (known : k' = k)
      (op : o.chargeKey = none)
  | found (p : Payment) (before : k = .nothing) (mem : p ∈ s.payments.rows)
      (payments : s'.payments = s.payments)
      (next : s.nextId ≤ s'.nextId) (known : k' = .found p) (op : o.chargeKey = none)
  | inserted (p : Payment) (before : k = .nothing) (id : p.id = s.nextId)
      (absent : ∀ q ∈ s.payments.rows, q.idempotencyKey ≠ p.idempotencyKey)
      (payments : s'.payments = s.payments.put p) (next : s'.nextId = s.nextId + 1)
      (known : k' = .inserted p) (op : o.chargeKey = none)
  | saved (p q : Payment) (before : k.payment = some q) (order : p.order = q.order)
      (payments : s'.payments = s.payments.put p) (next : s.nextId ≤ s'.nextId) (known : k' = k)
      (op : o.chargeKey = none)
  | charged (p : Payment) (before : k = .inserted p) (payments : s'.payments = s.payments)
      (next : s.nextId ≤ s'.nextId) (known : k' = .charged p)
      (op : o.chargeKey = some p.idempotencyKey)

private theorem change_of_lookup {s : Db} {k : Known} {o : Op} {q : Payment → Bool}
    {f : Option Payment → Known} (hk : k = .nothing) (ho : o.chargeKey = none)
    (hn : f none = k) (hs : ∀ p, f (some p) = .found p) :
    Change s k s (f (s.payment? q)) o := by
  cases hf : s.payment? q with
  | none => exact .same rfl (Nat.le_refl _) hn ho
  | some p => exact .found p hk (List.mem_of_find?_eq_some hf) rfl (Nat.le_refl _) (hs p) ho

private theorem change_of_insert {x : Choice} {s : Db} {k : Known} {p : Payment}
    (hk : k = .nothing) :
    Change s k (perform x (.insert p) s).2 (k.next (.insert p) (perform x (.insert p) s).1)
      (.insert p) := by
  subst hk
  by_cases hany : s.payments.rows.any fun q ↦ q.idempotencyKey = p.idempotencyKey
  · simp only [perform, hany, if_true]
    exact .same rfl (Nat.le_refl _) rfl rfl
  · simp only [perform, hany]
    refine .inserted { p with id := s.nextId } rfl rfl ?_ rfl rfl rfl rfl
    simpa using hany

/-- Every operation that a thread may execute is one of these changes. -/
theorem change_of_may {x : Choice} {o : Op} {s : Db} {k : Known} (h : k.may o) :
    Change s k (exec x o s).2 (k.next o (exec x o s).1) o := by
  have hle := Nat.le_refl s.nextId
  rcases exec_cases x o s with ⟨-, e, he⟩ | he
  · rw [he]
    cases o with
    | charge name request =>
      obtain ⟨p, rfl, hkey⟩ := h
      exact .charged p rfl rfl hle rfl (congrArg some hkey.symm)
    | _ => exact .same rfl hle (by cases k <;> rfl) rfl
  · rw [he]
    cases o with
    | charge name request =>
      obtain ⟨p, rfl, hkey⟩ := h
      exact .charged p rfl rfl hle rfl (congrArg some hkey.symm)
    | findByKey key =>
      have hk : k = .nothing := by cases k <;> exact h
      subst hk
      exact change_of_lookup (f := fun a ↦ Known.next .nothing (.findByKey key) (.ok a)) rfl rfl
        rfl fun _ ↦ rfl
    | findSucceeded b =>
      have hk : k = .nothing := by cases k <;> exact h
      subst hk
      exact change_of_lookup (f := fun a ↦ Known.next .nothing (.findSucceeded b) (.ok a)) rfl rfl
        rfl fun _ ↦ rfl
    | insert p => exact change_of_insert (by cases k <;> exact h)
    | save p =>
      have known : ∃ q, k.payment = some q ∧ p.order = q.order := by
        cases k <;> exact h
      obtain ⟨q, hq, ho⟩ := known
      exact .saved p q hq ho rfl hle (by cases k <;> rfl) rfl
    | insertRefund r => exact .same rfl (Nat.le_succ _) (by cases k <;> rfl) rfl
    | _ => exact .same rfl hle (by cases k <;> rfl) rfl

/-! ### Runs -/

/-- The gateway was called for a payment under the key. -/
def charges (key : String) (ev : Event (controllers provider)) : Bool := ev.op.chargeKey = some key

/-- What every thread knows after a history. -/
abbrev knows (log : List (Event (controllers provider))) (t : Nat) : Known :=
  (known provider).state t log

/-- What holds of the stored payments and of the gateway calls. -/
structure Ledger (s : Db) (log : List (Event (controllers provider))) (k : Nat → Known) :
    Prop where
  fresh : ∀ p ∈ s.payments.rows, p.id < s.nextId
  keys : ∀ p ∈ s.payments.rows, ∀ q ∈ s.payments.rows, p.idempotencyKey = q.idempotencyKey → p = q
  stored : ∀ t p, (k t).payment = some p → ∃ q ∈ s.payments.rows, q.order = p.order
  owner : ∀ t u p q, (k t).own = some p → (k u).own = some q →
    p.idempotencyKey = q.idempotencyKey → t = u
  charged : ∀ ev ∈ log, ∀ key, charges key ev = true →
    ∃ p, k ev.tid = .charged p ∧ p.idempotencyKey = key
  once : ∀ key, log.countP (charges key) ≤ 1

/-- Payments with the same columns of the order have the same key. -/
theorem Payment.key_of_order {p q : Payment} (h : p.order = q.order) :
    p.idempotencyKey = q.idempotencyKey := by
  simp only [Payment.order, Prod.mk.injEq] at h
  exact h.2.2.1

namespace Ledger

variable {s s' : Db} {log : List (Event (controllers provider))} {k k' : Nat → Known}
  {ev : Event (controllers provider)}

/-- The empty database satisfies the ledger. -/
theorem empty : Ledger Db.empty ([] : List (Event (controllers provider))) fun _ ↦ .nothing := by
  constructor
  case stored =>
    intro t p h
    cases h
  case owner =>
    intro t u p q h
    cases h
  case once => exact fun _ ↦ Nat.zero_le _
  all_goals
    intro _ h
    cases h

/-- The row of a payment that a thread knows. -/
theorem row (h : Ledger s log k) {t : Nat} {p q : Payment} (hp : (k t).payment = some p)
    (hq : q ∈ s.payments.rows) (hid : q.id = p.id) : q.order = p.order := by
  obtain ⟨r, hr, ho⟩ := h.stored t p hp
  have same : r = q := by
    have hf := Table.find_of_mem hr
    rw [Payment.id_of_order ho, ← hid, Table.find_of_mem hq] at hf
    exact (Option.some.inj hf).symm
  rw [← same]
  exact ho

/-- Numbers and keys stay different. -/
theorem rows_step (h : Ledger s log k) {t : Nat} {o : Op} (hc : Change s (k t) s' (k' t) o) :
    (∀ p ∈ s'.payments.rows, p.id < s'.nextId) ∧
      ∀ p ∈ s'.payments.rows, ∀ q ∈ s'.payments.rows,
        p.idempotencyKey = q.idempotencyKey → p = q := by
  have kept : s'.payments = s.payments → s.nextId ≤ s'.nextId →
      (∀ p ∈ s'.payments.rows, p.id < s'.nextId) ∧
      ∀ p ∈ s'.payments.rows, ∀ q ∈ s'.payments.rows,
        p.idempotencyKey = q.idempotencyKey → p = q := by
    intro hp hn
    rw [hp]
    exact ⟨fun p hm ↦ Nat.lt_of_lt_of_le (h.fresh p hm) hn, h.keys⟩
  cases hc with
  | same payments next => exact kept payments next
  | found _ _ _ payments next => exact kept payments next
  | charged _ _ payments next => exact kept payments next
  | inserted p before id absent payments next =>
    rw [payments, next]
    constructor
    · intro q hq
      rcases Table.mem_put.mp hq with hqp | ⟨old, -⟩
      · rw [hqp, id]
        exact Nat.lt_succ_self _
      · exact Nat.lt_succ_of_lt (h.fresh q old)
    · intro q hq r hr hkey
      rcases Table.mem_put.mp hq with hqp | ⟨oldq, -⟩
      · rcases Table.mem_put.mp hr with hrp | ⟨oldr, -⟩
        · exact hqp.trans hrp.symm
        · exact absurd (hkey.symm.trans (congrArg _ hqp)) (absent r oldr)
      · rcases Table.mem_put.mp hr with hrp | ⟨oldr, -⟩
        · exact absurd (hkey.trans (congrArg _ hrp)) (absent q oldq)
        · exact h.keys q oldq r oldr hkey
  | saved p q before order payments next =>
    obtain ⟨r, hr, ho⟩ := h.stored t q before
    have hpr : p.order = r.order := order.trans ho.symm
    have other : ∀ a ∈ s.payments.rows, a.id ≠ p.id → a.idempotencyKey ≠ p.idempotencyKey := by
      intro a ha hne hkey
      rw [Payment.key_of_order hpr] at hkey
      rw [h.keys a ha r hr hkey] at hne
      exact hne (Payment.id_of_order hpr).symm
    rw [payments]
    constructor
    · intro a ha
      rcases Table.mem_put.mp ha with hap | ⟨old, -⟩
      · rw [hap, Payment.id_of_order hpr]
        exact Nat.lt_of_lt_of_le (h.fresh r hr) next
      · exact Nat.lt_of_lt_of_le (h.fresh a old) next
    · intro a ha b hb hkey
      rcases Table.mem_put.mp ha with hap | ⟨olda, hna⟩
      · rcases Table.mem_put.mp hb with hbp | ⟨oldb, hnb⟩
        · exact hap.trans hbp.symm
        · exact absurd (hkey.symm.trans (congrArg _ hap)) (other b oldb hnb)
      · rcases Table.mem_put.mp hb with hbp | ⟨oldb, -⟩
        · exact absurd (hkey.trans (congrArg _ hbp)) (other a olda hna)
        · exact h.keys a olda b oldb hkey

/-- A stored payment stays stored, up to its status. -/
theorem row_step (h : Ledger s log k) {t : Nat} {o : Op} (hc : Change s (k t) s' (k' t) o)
    {q : Payment} (hq : q ∈ s.payments.rows) : ∃ r ∈ s'.payments.rows, r.order = q.order := by
  have kept : s'.payments = s.payments → ∃ r ∈ s'.payments.rows, r.order = q.order :=
    fun hp ↦ ⟨q, hp ▸ hq, rfl⟩
  have put : ∀ p, s'.payments = s.payments.put p → (q.id = p.id → p.order = q.order) →
      ∃ r ∈ s'.payments.rows, r.order = q.order := by
    intro p hp ho
    rw [hp]
    by_cases hid : q.id = p.id
    · exact ⟨p, Table.mem_put.mpr (.inl rfl), ho hid⟩
    · exact ⟨q, Table.mem_put.mpr (.inr ⟨hq, hid⟩), rfl⟩
  cases hc with
  | same payments => exact kept payments
  | found _ _ _ payments => exact kept payments
  | charged _ _ payments => exact kept payments
  | inserted p _ id _ payments =>
    apply put p payments
    intro hid
    have := h.fresh q hq
    rw [hid, id] at this
    exact absurd this (Nat.lt_irrefl _)
  | saved p r before order payments =>
    apply put p payments
    intro hid
    have hr := h.row before hq (hid.trans (Payment.id_of_order order))
    exact order.trans hr.symm

/-- A payment that a thread knows is stored with its order. -/
theorem stored_step (h : Ledger s log k) {t : Nat} {o : Op} (hc : Change s (k t) s' (k' t) o)
    {p : Payment} (hp : (k' t).payment = some p) : ∃ q ∈ s'.payments.rows, q.order = p.order := by
  have old : ∀ {p}, (k t).payment = some p → ∃ q ∈ s'.payments.rows, q.order = p.order := by
    intro p hp
    obtain ⟨q, hq, ho⟩ := h.stored t p hp
    obtain ⟨r, hr, ho'⟩ := h.row_step hc hq
    exact ⟨r, hr, ho'.trans ho⟩
  cases hc with
  | same _ _ known => exact old (known ▸ hp)
  | saved _ _ _ _ _ _ known => exact old (known ▸ hp)
  | charged q before _ _ known =>
    apply old
    rw [known] at hp
    rw [before]
    exact hp
  | found q _ mem payments _ known =>
    rw [known] at hp
    cases hp
    exact ⟨p, payments ▸ mem, rfl⟩
  | inserted q _ _ _ payments _ known =>
    rw [known] at hp
    cases hp
    exact ⟨p, payments ▸ Table.mem_put.mpr (.inl rfl), rfl⟩

/-- A thread owns the payment that it owned, or one under a new key. -/
theorem own_step {t : Nat} {o : Op} (hc : Change s (k t) s' (k' t) o) {p : Payment}
    (hp : (k' t).own = some p) :
    (k t).own = some p ∨ ∀ q ∈ s.payments.rows, q.idempotencyKey ≠ p.idempotencyKey := by
  cases hc with
  | same _ _ known => exact .inl (known ▸ hp)
  | saved _ _ _ _ _ _ known => exact .inl (known ▸ hp)
  | charged q before _ _ known =>
    rw [known] at hp
    rw [before]
    exact .inl hp
  | found q _ _ _ _ known =>
    rw [known] at hp
    cases hp
  | inserted q _ _ absent _ _ known =>
    rw [known] at hp
    cases hp
    exact .inr absent

/-- A thread knows the payment that it owns. -/
theorem known_of_own {k : Known} {p : Payment} (h : k.own = some p) : k.payment = some p := by
  cases k <;> first | exact h | cases h

/-- A key that a thread owns has a row. -/
theorem key_stored (h : Ledger s log k) {t : Nat} {p : Payment} (hp : (k t).own = some p) :
    ∃ q ∈ s.payments.rows, q.idempotencyKey = p.idempotencyKey := by
  obtain ⟨q, hq, ho⟩ := h.stored t p (known_of_own hp)
  exact ⟨q, hq, Payment.key_of_order ho⟩

/-- A thread that has charged stays so. -/
theorem charged_kept {t : Nat} {o : Op} (hc : Change s (k t) s' (k' t) o) {p : Payment}
    (hp : k t = .charged p) : k' t = .charged p := by
  cases hc with
  | same _ _ known => exact known.trans hp
  | saved _ _ _ _ _ _ known => exact known.trans hp
  | charged q before =>
    rw [before] at hp
    cases hp
  | found q before =>
    rw [before] at hp
    cases hp
  | inserted q before =>
    rw [before] at hp
    cases hp

/-- Only the thread that inserted a payment calls the gateway, and not twice. -/
theorem first_charge (h : Ledger s log k) (hc : Change s (k ev.tid) s' (k' ev.tid) ev.op)
    {key : String} (hkey : charges key ev = true) : log.countP (charges key) = 0 := by
  rw [List.countP_eq_zero]
  intro e he hek
  have hop : ev.op.chargeKey = some key := of_decide_eq_true hkey
  obtain ⟨q, hq, hqk⟩ := h.charged e he key hek
  cases hc with
  | charged p before _ _ _ op =>
    rw [hop] at op
    have same : ev.tid = e.tid := by
      apply h.owner ev.tid e.tid p q
      · rw [before]
        rfl
      · rw [hq]
        rfl
      · rw [hqk]
        exact (Option.some.inj op).symm
    rw [← same, before] at hq
    cases hq
  | same _ _ _ op => rw [op] at hop; cases hop
  | found _ _ _ _ _ _ op => rw [op] at hop; cases hop
  | inserted _ _ _ _ _ _ _ op => rw [op] at hop; cases hop
  | saved _ _ _ _ _ _ _ op => rw [op] at hop; cases hop

/-- Every operation keeps the ledger. -/
theorem step (h : Ledger s log k) (hk : ∀ u, u ≠ ev.tid → k' u = k u)
    (hc : Change s (k ev.tid) s' (k' ev.tid) ev.op) : Ledger s' (ev :: log) k' where
  fresh := (h.rows_step hc).1
  keys := (h.rows_step hc).2
  stored t p hp := by
    by_cases ht : t = ev.tid
    · subst ht
      exact h.stored_step hc hp
    · rw [hk t ht] at hp
      obtain ⟨q, hq, ho⟩ := h.stored t p hp
      obtain ⟨r, hr, ho'⟩ := h.row_step hc hq
      exact ⟨r, hr, ho'.trans ho⟩
  owner t u p q hp hq hkey := by
    have old : ∀ {v r}, (k' v).own = some r → (k v).own = some r ∨
        (v = ev.tid ∧ ∀ a ∈ s.payments.rows, a.idempotencyKey ≠ r.idempotencyKey) := by
      intro v r hr
      by_cases hv : v = ev.tid
      · subst hv
        rcases own_step hc hr with h | h
        · exact .inl h
        · exact .inr ⟨rfl, h⟩
      · exact .inl (hk v hv ▸ hr)
    rcases old hp with hp | ⟨ht, hnew⟩
    · rcases old hq with hq | ⟨-, hnew⟩
      · exact h.owner t u p q hp hq hkey
      · obtain ⟨a, ha, hak⟩ := h.key_stored hp
        exact absurd (hak.trans hkey) (hnew a ha)
    · rcases old hq with hq | ⟨hu, -⟩
      · obtain ⟨a, ha, hak⟩ := h.key_stored hq
        exact absurd (hak.trans hkey.symm) (hnew a ha)
      · exact ht.trans hu.symm
  charged e he key hek := by
    rcases List.mem_cons.mp he with rfl | he
    · have hop : e.op.chargeKey = some key := of_decide_eq_true hek
      cases hc with
      | charged p _ _ _ known op =>
        rw [hop] at op
        exact ⟨p, known, (Option.some.inj op).symm⟩
      | same _ _ _ op => rw [op] at hop; cases hop
      | found _ _ _ _ _ _ op => rw [op] at hop; cases hop
      | inserted _ _ _ _ _ _ _ op => rw [op] at hop; cases hop
      | saved _ _ _ _ _ _ _ op => rw [op] at hop; cases hop
    · obtain ⟨p, hp, hpk⟩ := h.charged e he key hek
      refine ⟨p, ?_, hpk⟩
      by_cases ht : e.tid = ev.tid
      · rw [ht] at hp ⊢
        exact charged_kept hc hp
      · rw [hk _ ht]
        exact hp
  once key := by
    rw [List.countP_cons]
    by_cases hkey : charges key ev = true
    · have first := h.first_charge hc hkey
      rw [if_pos hkey]
      omega
    · rw [if_neg hkey]
      exact h.once key

end Ledger

/-- Every run of the two controllers keeps the ledger. -/
theorem ledger_of_reach {p : Pool (controllers provider)}
    (hp : Pool.Reach (.free (controllers provider)) (fun s ↦ s = Db.empty) p) :
    Ledger p.conf.state p.conf.log (knows p.conf.log) := by
  induction hp with
  | start hs =>
    rw [hs]
    exact Ledger.empty
  | spawn _ _ ih => exact ih
  | @run p t j x o k hp ht _ ih =>
    have hm := (Monitor.watches_of_reach inbound_obeys hp).may ht
    apply ih.step
    · intro u hu
      exact Monitor.state_other _ (Ne.symm hu)
    · have hc := change_of_may (x := x) (s := p.conf.state) hm
      have hn : knows (p.conf.after t j x o).log t =
          (knows p.conf.log t).next o (exec x o p.conf.state).1 := Monitor.state_self _ _ _ _ _ _
      show Change _ _ _ (knows (p.conf.after t j x o).log t) o
      rw [hn]
      exact hc

/-- For any number of concurrent requests, at most one payment is stored under a key, the gateway
is called at most once for it, and whoever returns a payment for the key returns this one. -/
theorem one_charge_per_key {p : Pool (controllers provider)}
    (hp : Pool.Reach (.free (controllers provider)) (fun s ↦ s = Db.empty) p) (key : String) :
    (∀ q ∈ p.conf.state.payments.rows, ∀ q' ∈ p.conf.state.payments.rows,
      q.idempotencyKey = key → q'.idempotencyKey = key → q = q') ∧
    p.conf.log.countP (charges key) ≤ 1 ∧
    ∀ t request a, request.key = some key → p.At t request (.ret (.ok a)) →
      ∃ q ∈ p.conf.state.payments.rows, q.idempotencyKey = key ∧ a.order = some q.order := by
  have h := ledger_of_reach hp
  refine ⟨?_, h.once key, ?_⟩
  · intro q hq q' hq' hk hk'
    exact h.keys q hq q' hq' (hk.trans hk'.symm)
  · intro t request a hk ht
    have answers := (Monitor.watches_of_reach inbound_obeys hp).ended ht
    obtain ⟨p', hknown, ho, hkey⟩ := answers key hk a rfl
    obtain ⟨q, hq, hoq⟩ := h.stored t p' hknown
    exact ⟨q, hq, (Payment.key_of_order hoq).trans hkey, ho.trans (congrArg some hoq.symm)⟩

/-- A payment of 100 TRY for booking 0, with a key. -/
def samplePayment (key : String) : InitiatePaymentRequest where
  bookingId := 0
  idempotencyKey := key
  amount := 10000
  currency := "TRY"
  method := .creditCard
  cardToken := "c"
  provider := ""

/-- Two requests with the same key look it up before either inserts; one of them is charged, and
a third request gets its payment. -/
def sampleCharges : List (Label (controllers "stripe")) :=
  [.spawn (.http (samplePayment "k")), .spawn (.grpc ⟨none, .initiatePayment (samplePayment "k")⟩),
    .run 0 {}, .run 1 {}, .run 1 {}, .run 0 {}, .run 1 {}, .run 1 {}, .run 1 {}, .run 1 {},
    .run 1 {}, .spawn (.http (samplePayment "k")), .run 2 {}]

/-- Three requests for one key charge once. -/
theorem one_charge_per_key_three :
    ∃ p, Pool.play (.free (controllers "stripe")) sampleCharges (Pool.start Db.empty) = some p ∧
      p.conf.log.countP (charges "k") = 1 ∧
      ∀ q ∈ p.conf.state.payments.rows, ∀ q' ∈ p.conf.state.payments.rows,
        q.idempotencyKey = "k" → q'.idempotencyKey = "k" → q = q' := by
  have played : (Pool.play (.free (controllers "stripe")) sampleCharges (Pool.start Db.empty)).any
      fun p ↦ p.conf.log.countP (charges "k") = 1 && (p.reply? 2).isSome := by
    decide +kernel
  simp only [Option.any_eq_true, Bool.and_eq_true, decide_eq_true_eq] at played
  obtain ⟨p, hp, hcount, -⟩ := played
  exact ⟨p, hp, hcount, (one_charge_per_key (Pool.reach_of_play rfl hp) "k").1⟩

end Ticketing.PaymentService
