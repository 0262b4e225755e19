import Mathlib.Data.List.Perm.Subperm
import Ticketing.Async.Triples
import Ticketing.BookingService.Scopes

/-!
# Retries of the outbox worker

Library `BookingService`. Each round of a tick dispatches one `PENDING` entry, which then is
`COMPLETED` or has one retry more. Ticks run one after another, while other requests insert
entries. The abstract layer is a ledger: the entries, and how often each has been dispatched.
-/

namespace Ticketing.BookingService

open Async Store

/-! ### The ledger -/

/-- An entry as it is created. -/
structure Outbox.Fresh (e : Outbox) : Prop where
  status : e.status = .pending
  retryCount : e.retryCount = 0
  maxRetries : 1 ≤ e.maxRetries

/-- New entries were inserted. -/
def Appends (t u : Table Outbox.id) : Prop :=
  ∃ added, u.rows = t.rows ++ added ∧ ∀ e ∈ added, e.Fresh

/-- The entries, and how often each has been dispatched. -/
structure Ledger where
  outbox : Table Outbox.id
  dispatched : Id → Nat

/-- What a dispatch makes of an entry. -/
structure Attempt (e e' : Outbox) : Prop where
  id : e'.id = e.id
  maxRetries : e'.maxRetries = e.maxRetries
  outcome : (e'.status = .completed ∧ e'.retryCount = e.retryCount) ∨
    (e'.retryCount = e.retryCount + 1 ∧
      e'.status = if e.retryCount + 1 ≥ e.maxRetries then .failed else .pending)

/-- One dispatch of an entry, while other entries may be inserted. -/
def Round (e : Outbox) (a b : Ledger) : Prop :=
  ∃ e', Attempt e e' ∧ Appends (a.outbox.put e') b.outbox ∧
    ∀ id, b.dispatched id = a.dispatched id + if id = e.id then 1 else 0

/-- Dispatches one after another. -/
inductive Attempts : List Outbox → Ledger → Ledger → Prop where
  | nil {a : Ledger} : Attempts [] a a
  | cons {e : Outbox} {rest : List Outbox} {a b c : Ledger} (first : Round e a b)
      (then_ : Attempts rest b c) : Attempts (e :: rest) a c

/-- The accounts of a ledger are right. -/
structure Ledger.Accounted (a : Ledger) : Prop where
  bound : ∀ e ∈ a.outbox.rows, e.retryCount ≤ e.maxRetries
  counted : ∀ e ∈ a.outbox.rows,
    a.dispatched e.id = e.retryCount + if e.status = .completed then 1 else 0
  failed : ∀ e ∈ a.outbox.rows, e.status = .failed ↔ e.retryCount = e.maxRetries
  known : ∀ id, (∀ e ∈ a.outbox.rows, e.id ≠ id) → a.dispatched id = 0

/-- The dispatches that an entry may still need. -/
def Outbox.remaining (e : Outbox) : Nat :=
  if e.status = .pending then e.maxRetries - e.retryCount else 0

/-- The dispatches that the entries of a ledger may still need. -/
def Ledger.remaining (a : Ledger) : Nat := (a.outbox.rows.map Outbox.remaining).sum

variable {a b c : Ledger} {t u v : Table Outbox.id} {e e' : Outbox}

/-- A table appends nothing to itself. -/
theorem Appends.refl (t : Table Outbox.id) : Appends t t :=
  ⟨[], (List.append_nil _).symm, by simp⟩

/-- Entries are inserted one after another. -/
theorem Appends.trans (h : Appends t u) (h' : Appends u v) : Appends t v := by
  obtain ⟨added, hu, fresh⟩ := h
  obtain ⟨more, hv, fresh'⟩ := h'
  refine ⟨added ++ more, by rw [hv, hu, List.append_assoc], ?_⟩
  intro e he
  rcases List.mem_append.mp he with he | he
  · exact fresh e he
  · exact fresh' e he

/-- Appending keeps the stored entries. -/
theorem Appends.mem (h : Appends t u) (he : e ∈ t.rows) : e ∈ u.rows := by
  obtain ⟨added, hu, -⟩ := h
  rw [hu]
  exact List.mem_append_left _ he

/-- An entry of the longer table was stored before or is fresh. -/
theorem Appends.cases (h : Appends t u) (he : e ∈ u.rows) : e ∈ t.rows ∨ e.Fresh := by
  obtain ⟨added, hu, fresh⟩ := h
  rw [hu] at he
  exact (List.mem_append.mp he).imp id (fresh e)

/-- Appending removes no entry. -/
theorem Appends.length (h : Appends t u) : t.rows.length ≤ u.rows.length := by
  obtain ⟨added, hu, -⟩ := h
  rw [hu, List.length_append]
  omega

/-- If the number of entries stays, so do the entries. -/
theorem Appends.eq_of_length (h : Appends t u) (hl : u.rows.length = t.rows.length) : u = t := by
  obtain ⟨added, hu, -⟩ := h
  rw [hu, List.length_append] at hl
  have none : added = [] := List.eq_nil_of_length_eq_zero (by omega)
  subst none
  exact Table.ext (by simpa using hu)

/-- A stored entry is saved while others are inserted. -/
theorem Appends.put (h : Appends t u) (hm : ∃ r ∈ t.rows, r.id = e.id) :
    Appends (t.put e) (u.put e) := by
  obtain ⟨added, hu, fresh⟩ := h
  exact ⟨added, Table.rows_put_of_append hu hm, fresh⟩

/-- Inserted entries keep the accounts right. -/
theorem Ledger.Accounted.appends (h : a.Accounted) (happ : Appends a.outbox b.outbox)
    (same : ∀ id, b.dispatched id = a.dispatched id) : b.Accounted := by
  constructor
  · intro e he
    rcases happ.cases he with old | new
    · exact h.bound e old
    · have := new.retryCount
      omega
  · intro e he
    rw [same]
    by_cases old : e ∈ a.outbox.rows
    · exact h.counted e old
    · have new := (happ.cases he).resolve_left old
      have unknown : ∀ r ∈ a.outbox.rows, r.id ≠ e.id := by
        intro r hr hid
        have found := Table.find_of_mem (happ.mem hr)
        rw [hid, Table.find_of_mem he] at found
        exact old (Option.some.inj found ▸ hr)
      rw [h.known e.id unknown, new.retryCount, new.status]
      rfl
  · intro e he
    rcases happ.cases he with old | new
    · exact h.failed e old
    · have := new.retryCount
      have := new.maxRetries
      rw [new.status]
      constructor
      · intro h
        cases h
      · omega
  · intro id hid
    rw [same]
    exact h.known id fun r hr ↦ hid r (happ.mem hr)

/-- A pending entry has retries left. -/
theorem Ledger.Accounted.lt (h : a.Accounted) (he : e ∈ a.outbox.rows) (hp : e.status = .pending) :
    e.retryCount < e.maxRetries := by
  have le := h.bound e he
  have ne : e.retryCount ≠ e.maxRetries := by
    intro eq
    have := (h.failed e he).mpr eq
    rw [hp] at this
    cases this
  omega

/-- A dispatch of a pending entry keeps the accounts right. -/
theorem Ledger.Accounted.round (h : a.Accounted) (he : e ∈ a.outbox.rows)
    (hp : e.status = .pending) (ht : Round e a b) : b.Accounted := by
  obtain ⟨e', attempt, happ, count⟩ := ht
  have lt := h.lt he hp
  have counted : a.dispatched e.id = e.retryCount := by simpa [hp] using h.counted e he
  have before : Ledger.Accounted ⟨a.outbox.put e', b.dispatched⟩ := by
    constructor
    · intro r hr
      rcases Table.mem_put.mp hr with rfl | ⟨hr, -⟩
      · have := attempt.maxRetries
        rcases attempt.outcome with ⟨-, same⟩ | ⟨more, -⟩
        · omega
        · omega
      · exact h.bound r hr
    · intro r hr
      rw [count]
      rcases Table.mem_put.mp hr with rfl | ⟨hr, hne⟩
      · rw [attempt.id, if_pos rfl, counted]
        rcases attempt.outcome with ⟨done, same⟩ | ⟨more, status⟩
        · simp [done, same]
        · have undone : r.status ≠ .completed := by
            rw [status]
            split <;> simp
          rw [more, if_neg undone]
      · rw [attempt.id] at hne
        rw [if_neg hne]
        exact h.counted r hr
    · intro r hr
      rcases Table.mem_put.mp hr with rfl | ⟨hr, -⟩
      · have max := attempt.maxRetries
        rcases attempt.outcome with ⟨done, same⟩ | ⟨more, status⟩
        · rw [done]
          simp
          omega
        · rw [status]
          split
          · simp
            omega
          · simp
            omega
      · exact h.failed r hr
    · intro id hid
      rw [count, if_neg]
      · apply h.known
        intro r hr hrid
        by_cases hre : r.id = e.id
        · exact hid e' (Table.mem_put.mpr (.inl rfl)) (attempt.id.trans (hre.symm.trans hrid))
        · exact hid r (Table.mem_put.mpr (.inr ⟨hr, attempt.id ▸ hre⟩)) hrid
      · intro same
        exact hid e' (Table.mem_put.mpr (.inl rfl)) (attempt.id.trans same.symm)
  exact before.appends happ fun _ ↦ rfl

/-- A dispatch leaves the other entries as they are. -/
theorem Round.other (h : Round e a b) {r : Outbox} (hr : r ∈ a.outbox.rows)
    (hne : r.id ≠ e.id) : r ∈ b.outbox.rows ∧ b.dispatched r.id = a.dispatched r.id := by
  obtain ⟨e', attempt, happ, count⟩ := h
  constructor
  · exact happ.mem (Table.mem_put.mpr (.inr ⟨hr, attempt.id ▸ hne⟩))
  · rw [count, if_neg hne]
    rfl

/-- A round removes no entry. -/
theorem Round.length (h : Round e a b) (he : e ∈ a.outbox.rows) :
    a.outbox.rows.length ≤ b.outbox.rows.length := by
  obtain ⟨e', attempt, happ, -⟩ := h
  have := happ.length
  rw [Table.length_put ⟨e, he, attempt.id.symm⟩] at this
  exact this

/-- If no entry is inserted, a dispatch leaves one dispatch less. -/
theorem Round.remaining (h : Round e a b) (he : e ∈ a.outbox.rows) (hp : e.status = .pending)
    (lt : e.retryCount < e.maxRetries) (hl : b.outbox.rows.length = a.outbox.rows.length) :
    b.remaining + 1 ≤ a.remaining := by
  obtain ⟨e', attempt, happ, -⟩ := h
  have same : b.outbox = a.outbox.put e' := by
    apply happ.eq_of_length
    rw [hl, Table.length_put ⟨e, he, attempt.id.symm⟩]
  have stored : a.outbox.find e'.id = some e := attempt.id ▸ Table.find_of_mem he
  have sum := Table.sum_put Outbox.remaining stored
  unfold Ledger.remaining
  rw [same]
  have less : e'.remaining + 1 ≤ e.remaining := by
    have max := attempt.maxRetries
    unfold Outbox.remaining
    rw [if_pos hp]
    rcases attempt.outcome with ⟨done, -⟩ | ⟨more, -⟩
    · rw [done]
      simp
      omega
    · split <;> omega
  omega

/-- Entries that a tick may dispatch one after another. -/
structure Ready (entries : List Outbox) (a : Ledger) : Prop where
  mem : ∀ e ∈ entries, e ∈ a.outbox.rows
  pending : ∀ e ∈ entries, e.status = .pending
  nodup : (entries.map Outbox.id).Nodup

/-- After a dispatch the other entries are still ready. -/
theorem Ready.tail {rest : List Outbox} (h : Ready (e :: rest) a) (ht : Round e a b) :
    Ready rest b := by
  have nodup := h.nodup
  rw [List.map_cons, List.nodup_cons] at nodup
  constructor
  · intro r hr
    have hne : r.id ≠ e.id := fun same ↦ nodup.1 (same ▸ List.mem_map_of_mem hr)
    exact (ht.other (h.mem r (List.mem_cons_of_mem _ hr)) hne).1
  · exact fun r hr ↦ h.pending r (List.mem_cons_of_mem _ hr)
  · exact nodup.2

namespace Attempts

variable {entries : List Outbox}

/-- Dispatches keep the accounts right. -/
theorem accounted (h : Attempts entries a b) (hr : Ready entries a) (ha : a.Accounted) :
    b.Accounted := by
  induction h with
  | nil => exact ha
  | cons first _ ih =>
    apply ih (hr.tail first)
    exact ha.round (hr.mem _ List.mem_cons_self) (hr.pending _ List.mem_cons_self) first

/-- An entry that is not pending stays as it is and is not dispatched. -/
theorem settled (h : Attempts entries a b) (hr : Ready entries a) {r : Outbox}
    (hm : r ∈ a.outbox.rows) (hp : r.status ≠ .pending) :
    r ∈ b.outbox.rows ∧ b.dispatched r.id = a.dispatched r.id := by
  induction h with
  | nil => exact ⟨hm, rfl⟩
  | @cons e rest a b c first _ ih =>
    have hne : r.id ≠ e.id := by
      intro same
      have found := Table.find_of_mem (hr.mem e List.mem_cons_self)
      rw [← same, Table.find_of_mem hm] at found
      exact hp (Option.some.inj found ▸ hr.pending e List.mem_cons_self)
    obtain ⟨kept, count⟩ := first.other hm hne
    obtain ⟨kept', count'⟩ := ih (hr.tail first) kept
    exact ⟨kept', count'.trans count⟩

/-- The attempts of a tick remove no entry. -/
theorem length (h : Attempts entries a b) (hr : Ready entries a) :
    a.outbox.rows.length ≤ b.outbox.rows.length := by
  induction h with
  | nil => exact Nat.le_refl _
  | cons first _ ih =>
    exact Nat.le_trans (first.length (hr.mem _ List.mem_cons_self)) (ih (hr.tail first))

/-- If no entry is inserted, each dispatch leaves one dispatch less. -/
theorem remaining (h : Attempts entries a b) (hr : Ready entries a) (ha : a.Accounted)
    (hl : b.outbox.rows.length = a.outbox.rows.length) :
    b.remaining + entries.length ≤ a.remaining := by
  induction h with
  | nil => exact Nat.le_refl _
  | @cons e rest a b c first then_ ih =>
    have he := hr.mem e List.mem_cons_self
    have hp := hr.pending e List.mem_cons_self
    have before := first.length he
    have after := then_.length (hr.tail first)
    have rest := ih (hr.tail first) (ha.round he hp first) (by omega)
    have one := first.remaining he hp (ha.lt he hp) (by omega)
    rw [List.length_cons]
    omega

end Attempts

/-- One tick dispatches the first ten pending entries; others may be inserted before it reads
them. -/
def Ticked (a b : Ledger) : Prop :=
  ∃ c : Ledger, Appends a.outbox c.outbox ∧ (∀ id, c.dispatched id = a.dispatched id) ∧
    Attempts ((c.outbox.rows.filter fun e ↦ e.status = .pending).take 10) c b

/-- The entries that a tick reads are ready. -/
theorem ready_pending (c : Ledger) :
    Ready ((c.outbox.rows.filter fun e ↦ e.status = .pending).take 10) c := by
  have sub := (List.take_sublist 10 _).trans
    (List.filter_sublist (l := c.outbox.rows) (p := fun e ↦ e.status = .pending))
  constructor
  · exact fun e he ↦ sub.subset he
  · intro e he
    simpa using (List.mem_filter.mp (List.mem_of_mem_take he)).2
  · exact c.outbox.nodup.sublist (sub.map Outbox.id)

namespace Ticked

/-- A tick keeps the accounts right. -/
theorem accounted (h : Ticked a b) (ha : a.Accounted) : b.Accounted := by
  obtain ⟨c, happ, same, attempts⟩ := h
  exact attempts.accounted (ready_pending c) (ha.appends happ same)

/-- An entry that is not pending stays as it is and is not dispatched. -/
theorem settled (h : Ticked a b) {r : Outbox} (hm : r ∈ a.outbox.rows) (hp : r.status ≠ .pending) :
    r ∈ b.outbox.rows ∧ b.dispatched r.id = a.dispatched r.id := by
  obtain ⟨c, happ, same, attempts⟩ := h
  rw [← same]
  exact attempts.settled (ready_pending c) (happ.mem hm) hp

/-- A tick removes no entry. -/
theorem length (h : Ticked a b) : a.outbox.rows.length ≤ b.outbox.rows.length := by
  obtain ⟨c, happ, -, attempts⟩ := h
  exact Nat.le_trans happ.length (attempts.length (ready_pending c))

/-- If no entry is inserted, a tick leaves one dispatch less while an entry is still pending. -/
theorem remaining (h : Ticked a b) (ha : a.Accounted)
    (hl : b.outbox.rows.length = a.outbox.rows.length)
    (hp : ∃ e ∈ b.outbox.rows, e.status = .pending) : b.remaining + 1 ≤ a.remaining := by
  obtain ⟨c, happ, same, attempts⟩ := h
  have before := happ.length
  have after := attempts.length (ready_pending c)
  have none : c.outbox = a.outbox := happ.eq_of_length (by omega)
  have less := attempts.remaining (ready_pending c) (ha.appends happ same) (by omega)
  have equal : c.remaining = a.remaining := congrArg
    (fun t : Table Outbox.id ↦ (t.rows.map Outbox.remaining).sum) none
  have some : ((c.outbox.rows.filter fun e ↦ e.status = .pending).take 10) ≠ [] := by
    intro nil
    rw [nil] at attempts
    cases attempts
    obtain ⟨e, he, hst⟩ := hp
    have found : e ∈ b.outbox.rows.filter fun e ↦ e.status = .pending := by simp [he, hst]
    cases hf : b.outbox.rows.filter fun e ↦ e.status = .pending with
    | nil => simp [hf] at found
    | cons _ _ => simp [hf] at nil
  have positive := List.length_pos_iff.mpr some
  omega

end Ticked

/-! ### Ticks of the worker -/

/-- The operation reads or saves entries. -/
def Op.storesEntries : Op → Bool
  | .findPendingEntries | .saveEntry _ => true
  | _ => false

/-- One tick: what is decided at its operations, and what other requests do before each of them.
The entries are read and saved without failures. -/
structure Tick where
  choice : Nat → Op → Choice
  others : Nat → Db → Db
  stores : ∀ n o, o.storesEntries = true → (choice n o).fault = none
  appends : ∀ n s, Appends s.outbox (others n s).outbox

/-- The answers to the operations of a tick. -/
def Tick.handler (t : Tick) : Handler sig Db := fun n o s ↦ exec (t.choice n o) o (t.others n s)

/-- One tick, with a record of what the worker has executed. -/
def Tick.run (t : Tick) (s : Db × List (Done sig)) : Db × List (Done sig) :=
  (processOutbox.exec t.handler.recording 0 () s).state

/-- Ticks one after another. -/
def runTicks (ts : List Tick) (s : Db × List (Done sig)) : Db × List (Done sig) :=
  ts.foldl (fun s t ↦ t.run s) s

/-- The operation marked the entry as `PROCESSING`; its dispatch comes next. -/
def marks (id : Id) : Done sig → Bool
  | ⟨.saveEntry e, .ok _⟩ => id = e.id && e.status = .processing
  | _ => false

/-- How often an entry has been dispatched. -/
def dispatches (id : Id) (log : List (Done sig)) : Nat := log.countP (marks id)

/-- The ledger of a database with its record. -/
def ledger (s : Db × List (Done sig)) : Ledger := ⟨s.1.outbox, fun id ↦ dispatches id s.2⟩

/-- A dispatch leaves the entries as they are. -/
theorem outbox_exec {o : Op} (ho : o.dispatches = true) (x : Choice) (s : Db) :
    (exec x o s).2.outbox = s.outbox := by
  rcases exec_cases x o s with ⟨-, e, he⟩ | he
  · rw [he]
  · rw [he]
    cases o <;> first | rfl | cases ho

/-- An operation of a dispatch marks no entry as processing. -/
theorem dispatches_cons {d : Done sig} (hd : d.op.dispatches = true) (id : Id)
    (log : List (Done sig)) : dispatches id (d :: log) = dispatches id log := by
  have unmarked : marks id d = false := by
    obtain ⟨o, r⟩ := d
    cases o <;> first | rfl | cases hd
  simp [dispatches, unmarked]

/-- The ledger is as given, but for entries that others have inserted. -/
structure Accords (a : Ledger) (s : Db × List (Done sig)) : Prop where
  outbox : Appends a.outbox s.1.outbox
  dispatched : ∀ id, dispatches id s.2 = a.dispatched id

/-- Every state accords with its own ledger. -/
theorem Accords.refl (s : Db × List (Done sig)) : Accords (ledger s) s where
  outbox := Appends.refl _
  dispatched _ := rfl

/-- The ledger after an entry is saved. -/
def Ledger.saved (a : Ledger) (e : Outbox) : Ledger where
  outbox := a.outbox.put e
  dispatched id := a.dispatched id + if id = e.id ∧ e.status = .processing then 1 else 0

variable {k : Tick} {s : Db × List (Done sig)} {n : Nat}

/-- An operation of a dispatch accords with the ledger before it. -/
theorem Accords.dispatch (h : Accords a s) {o : Op} (ho : o.dispatches = true) :
    Accords a (k.handler.recording n o s).2 := by
  constructor
  · show Appends a.outbox (exec (k.choice n o) o (k.others n s.1)).2.outbox
    rw [outbox_exec ho]
    exact h.outbox.trans (k.appends n s.1)
  · intro id
    exact (dispatches_cons ho id s.2).trans (h.dispatched id)

/-- Entries are saved without failures. -/
theorem save_apply (l : Outbox) : k.handler.recording n (.saveEntry l) s =
    (.ok (), { k.others n s.1 with outbox := (k.others n s.1).outbox.put l },
      ⟨.saveEntry l, .ok ()⟩ :: s.2) := by
  have stored : exec (k.choice n (.saveEntry l)) (.saveEntry l) (k.others n s.1) =
      (.ok (), { k.others n s.1 with outbox := (k.others n s.1).outbox.put l }) := by
    unfold exec
    rw [k.stores n (.saveEntry l) rfl]
    rfl
  show ((exec _ _ _).1, (exec _ _ _).2, (⟨_, (exec _ _ _).1⟩ : Done sig) :: s.2) = _
  rw [stored]

/-- A save is entered in the ledger. -/
theorem Accords.save (h : Accords a s) {l : Outbox} (hm : ∃ r ∈ a.outbox.rows, r.id = l.id) :
    Accords (a.saved l) (k.handler.recording n (.saveEntry l) s).2 := by
  rw [save_apply]
  constructor
  · exact (h.outbox.trans (k.appends n s.1)).put hm
  · intro id
    show List.countP (marks id) (⟨.saveEntry l, .ok ()⟩ :: s.2) = _
    rw [List.countP_cons]
    show dispatches id s.2 + _ = a.dispatched id + _
    rw [h.dispatched]
    simp [marks]

/-- The mark and the result of a dispatch make an attempt. -/
theorem Accords.round {m l : Outbox} (hm : m = { e with status := .processing })
    (hl : l.status ≠ .processing) (attempt : Attempt e l)
    (h : Accords ((a.saved m).saved l) s) : Round e a (ledger s) := by
  subst hm
  refine ⟨l, attempt, ?_, ?_⟩
  · have same := Table.put_put a.outbox (a := { e with status := .processing }) (b := l)
      attempt.id.symm
    exact same ▸ h.outbox
  · intro id
    show dispatches id s.2 = _
    rw [h.dispatched]
    simp [Ledger.saved, hl]

/-- The dispatch of an entry follows the ledger, whatever fails. -/
theorem processEntry_leaves (entry m : Outbox) :
    Code.Leaves k.handler.recording (fun l s ↦ l = m ∧ Accords a s)
      (Code.on () (processEntry entry)) (fun _ l s ↦ l = m ∧ Accords a s)
      fun _ l s ↦ l = m ∧ Accords a s := by
  rintro n l s ⟨rfl, follows⟩
  have kept : Accords a ((processEntry entry).exec k.handler.recording n () s).state :=
    (processEntry_awaits entry).exec (fun _ _ _ ho h ↦ h.dispatch ho) follows
  rw [Code.exec_on]
  rcases hr : (processEntry entry).exec k.handler.recording n () s with ⟨r, l', n', s'⟩
  rw [hr] at kept
  cases r with
  | ok _ => exact ⟨rfl, kept⟩
  | error _ => exact ⟨rfl, kept⟩

/-- Reading the clock leaves the entry and the ledger. -/
theorem now_leaves {P : Outbox → Prop} {E : Exception → Outbox → Db × List (Done sig) → Prop} :
    Code.Leaves k.handler.recording (fun l s ↦ P l ∧ Accords a s) (BookingService.await .now)
      (fun _ l s ↦ P l ∧ Accords a s) E := by
  apply Code.Leaves.await
  · rintro n l s now s' ⟨hl, follows⟩ hr
    have kept := follows.dispatch (k := k) (n := n) (o := .now) rfl
    rw [hr] at kept
    exact ⟨hl, kept⟩
  · rintro n l s error s' - hr
    have failed := congrArg Prod.fst hr
    change (exec (k.choice n .now) .now (k.others n s.1)).1 = .error error at failed
    rcases exec_cases (k.choice n .now) .now (k.others n s.1) with ⟨hf, -⟩ | he
    · cases hf
    · rw [he] at failed
      cases failed

/-- A save at the end of a round makes the attempt. -/
theorem saveEnd_leaves {P : Outbox → Prop} (hP : ∀ l, P l → l.status ≠ .processing ∧ Attempt e l) :
    Code.Leaves k.handler.recording
      (fun l s ↦ P l ∧ Accords (a.saved { e with status := .processing }) s)
      (do BookingService.await (.saveEntry (← BookingService.entity)))
      (fun _ _ s ↦ Round e a (ledger s)) fun _ _ _ ↦ False := by
  have marked : ∃ r ∈ (a.saved { e with status := .processing }).outbox.rows, r.id = e.id :=
    ⟨_, Table.mem_put.mpr (.inl rfl), rfl⟩
  apply Code.Leaves.bind (Q := fun l' l s ↦ l' = l ∧ P l ∧
    Accords (a.saved { e with status := .processing }) s)
  · exact Code.Leaves.entity fun l s h ↦ ⟨rfl, h⟩
  intro l'
  apply Code.Leaves.await
  · rintro n l s u s' ⟨rfl, hl, accords⟩ hr
    have saved := accords.save (k := k) (n := n) (l := l') ((hP l' hl).2.id ▸ marked)
    rw [hr] at saved
    exact saved.round rfl (hP l' hl).1 (hP l' hl).2
  · rintro n l s error s' - hr
    rw [save_apply] at hr
    cases hr

/-- The entry is marked as `PROCESSING`. -/
abbrev Marked (e : Outbox) (a : Ledger) (l : Outbox) (s : Db × List (Done sig)) : Prop :=
  l = { e with status := .processing } ∧ Accords (a.saved { e with status := .processing }) s

/-- A delivery that does not throw completes the entry. -/
theorem completeEntry_leaves :
    Code.Leaves k.handler.recording (Marked e a) completeEntry
      (fun _ _ s ↦ Round e a (ledger s)) fun _ ↦ Marked e a := by
  apply Code.Leaves.bind (Q := fun l' l s ↦ l' = l ∧ Marked e a l s)
  · exact Code.Leaves.entity fun l s h ↦ ⟨rfl, h⟩
  intro l'
  apply Code.Leaves.bind (Q := fun _ ↦ Marked e a)
  · apply (processEntry_leaves l' _).pre
    exact fun _ _ h ↦ h.2
  intro _
  apply Code.Leaves.bind (Q := fun _ l s ↦
    l = { e with status := .completed } ∧ Accords (a.saved { e with status := .processing }) s)
  · exact Code.Leaves.assign _ fun l s h ↦ ⟨by rw [h.1], h.2⟩
  intro _
  apply Code.Leaves.bind (Q := fun _ l s ↦
    l = { e with status := .completed } ∧ Accords (a.saved { e with status := .processing }) s)
  · exact now_leaves
  intro now
  apply Code.Leaves.bind (Q := fun _ l s ↦
    l = { e with status := .completed, processedAt := some now } ∧
      Accords (a.saved { e with status := .processing }) s)
  · exact Code.Leaves.assign _ fun l s h ↦ ⟨by rw [h.1], h.2⟩
  intro _
  have last := saveEnd_leaves (k := k) (a := a)
    (P := fun l ↦ l = { e with status := .completed, processedAt := some now }) (e := e) ?_
  · exact last.post (fun _ _ _ h ↦ h) fun _ _ _ h ↦ h.elim
  · rintro l rfl
    exact ⟨by simp, rfl, rfl, .inl ⟨rfl, rfl⟩⟩

/-- A delivery that throws is counted as a retry. -/
theorem retryEntry_leaves (error : Exception) :
    Code.Leaves k.handler.recording (Marked e a) (retryEntry error)
      (fun _ _ s ↦ Round e a (ledger s)) fun _ _ _ ↦ False := by
  apply Code.Leaves.bind (Q := fun _ l s ↦
    l = { e with status := .processing, retryCount := e.retryCount + 1,
                 lastError := some error.message } ∧
      Accords (a.saved { e with status := .processing }) s)
  · exact Code.Leaves.assign _ fun l s h ↦ ⟨by rw [h.1], h.2⟩
  intro _
  apply Code.Leaves.bind (Q := fun _ l s ↦
    l = { e with status := if e.retryCount + 1 ≥ e.maxRetries then .failed else .pending,
                 retryCount := e.retryCount + 1, lastError := some error.message } ∧
      Accords (a.saved { e with status := .processing }) s)
  · exact Code.Leaves.assign _ fun l s h ↦ ⟨by rw [h.1], h.2⟩
  intro _
  apply saveEnd_leaves (P := fun l ↦
    l = { e with status := if e.retryCount + 1 ≥ e.maxRetries then .failed else .pending,
                 retryCount := e.retryCount + 1, lastError := some error.message })
  rintro l rfl
  refine ⟨?_, rfl, rfl, .inr ⟨rfl, rfl⟩⟩
  dsimp only
  split <;> simp

/-- One round of the loop attempts its entry, and never throws. -/
theorem processPending_leaves (he : e ∈ a.outbox.rows) :
    Code.Leaves k.handler.recording (fun l s ↦ l = e ∧ Accords a s) processPending
      (fun _ _ s ↦ Round e a (ledger s)) fun _ _ _ ↦ False := by
  apply Code.Leaves.bind (Q := fun _ l s ↦ l = { e with status := .processing } ∧ Accords a s)
  · exact Code.Leaves.assign _ fun l s h ↦ ⟨by rw [h.1], h.2⟩
  intro _
  apply Code.Leaves.bind (Q := fun l' l s ↦ l' = l ∧ l = { e with status := .processing } ∧
    Accords a s)
  · exact Code.Leaves.entity fun l s h ↦ ⟨rfl, h⟩
  intro l'
  apply Code.Leaves.bind (Q := fun _ ↦ Marked e a)
  · apply Code.Leaves.await
    · rintro n l s u s' ⟨rfl, rfl, accords⟩ hr
      have saved := accords.save (k := k) (n := n) (l := { e with status := .processing })
        ⟨e, he, rfl⟩
      rw [hr] at saved
      exact ⟨rfl, saved⟩
    · rintro n l s error s' - hr
      rw [save_apply] at hr
      cases hr
  intro _
  exact Code.Leaves.tryCatch completeEntry_leaves retryEntry_leaves

/-- The loop attempts its entries one after another. -/
theorem processEach_leaves {entries : List Outbox} (hr : Ready entries a) :
    Code.Leaves k.handler.recording (fun _ s ↦ ledger s = a) (processEach entries)
      (fun _ _ s ↦ Attempts entries a (ledger s)) fun _ _ _ ↦ False := by
  induction entries generalizing a with
  | nil =>
    apply Code.Leaves.ret
    rintro l s rfl
    exact .nil
  | cons e rest ih =>
    apply Code.Leaves.bind (Q := fun _ _ s ↦ Round e a (ledger s))
    · have round := processPending_leaves (k := k) (hr.mem e List.mem_cons_self)
      refine (Code.Leaves.on round).pre ?_
      rintro l s rfl
      exact ⟨rfl, Accords.refl s⟩
    · intro _
      apply Code.Leaves.from_each
      intro _ s first
      refine ((ih (a := ledger s) (hr.tail first)).pre ?_).post ?_ ?_
      · rintro l s' ⟨-, rfl⟩
        rfl
      · exact fun _ _ _ attempts ↦ .cons first attempts
      · exact fun _ _ _ h ↦ h

/-- What a tick does to the ledger. -/
theorem run_ticked (k : Tick) (s : Db × List (Done sig)) :
    Ticked (ledger s) (ledger (k.run s)) := by
  have found : ∀ n, k.handler.recording n .findPendingEntries s =
      (.ok (((k.others n s.1).outbox.rows.filter fun e ↦ e.status = .pending).take 10),
        k.others n s.1, ⟨.findPendingEntries,
          .ok (((k.others n s.1).outbox.rows.filter fun e ↦ e.status = .pending).take 10)⟩ ::
            s.2) := by
    intro n
    show ((exec _ _ _).1, (exec _ _ _).2, (⟨_, (exec _ _ _).1⟩ : Done sig) :: s.2) = _
    have read : exec (k.choice n .findPendingEntries) .findPendingEntries (k.others n s.1) =
        perform (k.choice n .findPendingEntries) .findPendingEntries (k.others n s.1) := by
      unfold exec
      rw [k.stores n .findPendingEntries rfl]
      rfl
    rw [read]
    rfl
  have ticked : Code.Leaves k.handler.recording (fun (_ : Unit) s' ↦ s' = s) processOutbox
      (fun _ _ s' ↦ Ticked (ledger s) (ledger s')) fun _ _ _ ↦ False := by
    apply Code.Leaves.bind (Q := fun entries _ s' ↦ entries =
      (s'.1.outbox.rows.filter fun e ↦ e.status = .pending).take 10 ∧ Accords (ledger s) s')
    · apply Code.Leaves.await
      · rintro n l s' entries s'' rfl hr
        rw [found] at hr
        cases hr
        exact ⟨rfl, k.appends n _, fun _ ↦ rfl⟩
      · rintro n l s' error s'' rfl hr
        rw [found] at hr
        cases hr
    intro entries
    apply Code.Leaves.from_each
    rintro l s' ⟨rfl, follows⟩
    refine ((processEach_leaves (a := ledger s') (ready_pending (ledger s'))).pre ?_).post ?_ ?_
    · rintro l s'' ⟨-, rfl⟩
      rfl
    · exact fun _ _ _ attempts ↦ ⟨ledger s', follows.outbox, follows.dispatched, attempts⟩
    · exact fun _ _ _ h ↦ h
  rcases ticked.outcome (n := 0) (l := ()) rfl with ⟨-, h⟩ | ⟨-, h⟩
  · exact h
  · exact h.elim

/-! ### Runs -/

/-- Ticks keep the accounts right. -/
theorem runTicks_accounted (ts : List Tick) {s : Db × List (Done sig)}
    (hs : (ledger s).Accounted) : (ledger (runTicks ts s)).Accounted := by
  induction ts generalizing s with
  | nil => exact hs
  | cons k ts ih => exact ih ((run_ticked k s).accounted hs)

/-- An entry that is not pending stays as it is and is not dispatched. -/
theorem runTicks_settled (ts : List Tick) {s : Db × List (Done sig)} (hm : e ∈ s.1.outbox.rows)
    (hp : e.status ≠ .pending) : e ∈ (runTicks ts s).1.outbox.rows ∧
      dispatches e.id (runTicks ts s).2 = dispatches e.id s.2 := by
  induction ts generalizing s with
  | nil => exact ⟨hm, rfl⟩
  | cons k ts ih =>
    obtain ⟨kept, count⟩ := (run_ticked k s).settled hm hp
    obtain ⟨kept', count'⟩ := ih kept
    exact ⟨kept', count'.trans count⟩

/-- No sequence of ticks removes an entry. -/
theorem runTicks_length (ts : List Tick) (s : Db × List (Done sig)) :
    s.1.outbox.rows.length ≤ (runTicks ts s).1.outbox.rows.length := by
  induction ts generalizing s with
  | nil => exact Nat.le_refl _
  | cons k ts ih => exact Nat.le_trans (run_ticked k s).length (ih (k.run s))

/-- A pending entry was pending before, unless entries have been inserted. -/
theorem pending_before (ts : List Tick) {s : Db × List (Done sig)}
    (hl : (runTicks ts s).1.outbox.rows.length = s.1.outbox.rows.length)
    (hp : ∃ e ∈ (runTicks ts s).1.outbox.rows, e.status = .pending) :
    ∃ e ∈ s.1.outbox.rows, e.status = .pending := by
  by_contra none
  obtain ⟨e, he, hst⟩ := hp
  have kept : s.1.outbox.rows ⊆ (runTicks ts s).1.outbox.rows := by
    intro r hr
    exact (runTicks_settled ts hr fun h ↦ none ⟨r, hr, h⟩).1
  have nodup : s.1.outbox.rows.Nodup := s.1.outbox.nodup.of_map _
  have same := (List.subperm_of_subset nodup kept).perm_of_length_le (Nat.le_of_eq hl)
  exact none ⟨e, same.mem_iff.mpr he, hst⟩

/-- If no entry is inserted, each tick leaves one dispatch less while an entry is pending. -/
theorem runTicks_remaining (ts : List Tick) {s : Db × List (Done sig)} (hs : (ledger s).Accounted)
    (hl : (runTicks ts s).1.outbox.rows.length = s.1.outbox.rows.length)
    (hp : ∃ e ∈ (runTicks ts s).1.outbox.rows, e.status = .pending) :
    (ledger (runTicks ts s)).remaining + ts.length ≤ (ledger s).remaining := by
  induction ts generalizing s with
  | nil => exact Nat.le_refl _
  | cons k ts ih =>
    have ticked := run_ticked k s
    have first : s.1.outbox.rows.length ≤ (k.run s).1.outbox.rows.length := ticked.length
    have then_ := runTicks_length ts (k.run s)
    change (runTicks ts (k.run s)).1.outbox.rows.length = s.1.outbox.rows.length at hl
    have rest := ih (ticked.accounted hs) (by omega) hp
    have one := ticked.remaining hs
      (show (k.run s).1.outbox.rows.length = s.1.outbox.rows.length by omega)
      (pending_before ts (by omega) hp)
    show (ledger (runTicks ts (k.run s))).remaining + (ts.length + 1) ≤ (ledger s).remaining
    omega

/-- The accounts of an entry, and that it stays as it is and is not dispatched once it has ended. -/
structure EntryAccounted (s : Db × List (Done sig)) (e : Outbox) : Prop where
  bound : e.retryCount ≤ e.maxRetries
  counted : dispatches e.id s.2 = e.retryCount + if e.status = .completed then 1 else 0
  failed : e.status = .failed ↔ e.retryCount = e.maxRetries
  ended : e.status = .completed ∨ e.status = .failed → ∀ more : List Tick,
    (runTicks more s).1.outbox.find e.id = some e ∧
      dispatches e.id (runTicks more s).2 = dispatches e.id s.2

/-- New entries have right accounts before the first tick. -/
theorem accounted_of_fresh {s : Db} (hs : ∀ e ∈ s.outbox.rows, e.Fresh) :
    (ledger (s, [])).Accounted := by
  have empty : Ledger.Accounted ⟨.empty, fun _ ↦ 0⟩ := by
    constructor
    · simp [Table.empty]
    · simp [Table.empty]
    · simp [Table.empty]
    · simp
  exact empty.appends ⟨s.outbox.rows, rfl, hs⟩ fun _ ↦ rfl

/-- After any ticks every entry is accounted for. If no entries are inserted, none is pending after
as many ticks as the entries have retries, whatever fails. -/
theorem outbox_retries_accounted (ts : List Tick) {s : Db} (hs : ∀ e ∈ s.outbox.rows, e.Fresh) :
    (∀ e ∈ (runTicks ts (s, [])).1.outbox.rows, EntryAccounted (runTicks ts (s, [])) e) ∧
      ((runTicks ts (s, [])).1.outbox.rows.length = s.outbox.rows.length →
        (s.outbox.rows.map Outbox.maxRetries).sum ≤ ts.length →
        ∀ e ∈ (runTicks ts (s, [])).1.outbox.rows, e.status ≠ .pending) := by
  have before := accounted_of_fresh hs
  have after := runTicks_accounted ts before
  constructor
  · intro e he
    constructor
    · exact after.bound e he
    · exact after.counted e he
    · exact after.failed e he
    · intro ended more
      have hp : e.status ≠ .pending := by
        rcases ended with h | h <;> simp [h]
      obtain ⟨kept, count⟩ := runTicks_settled more he hp
      exact ⟨Table.find_of_mem kept, count⟩
  · intro hl hn e he hp
    have spent := runTicks_remaining ts before hl ⟨e, he, hp⟩
    have all : (ledger (s, [])).remaining = (s.outbox.rows.map Outbox.maxRetries).sum := by
      show (s.outbox.rows.map Outbox.remaining).sum = _
      congr 1
      apply List.map_congr_left
      intro r hr
      have fresh := hs r hr
      simp [Outbox.remaining, fresh.status, fresh.retryCount]
    have one : 0 < e.remaining := by
      have := after.lt he hp
      rw [Outbox.remaining, if_pos hp]
      omega
    have some : 0 < (ledger (runTicks ts (s, []))).remaining :=
      List.sum_pos_iff_exists_pos_nat.mpr ⟨_, List.mem_map_of_mem he, one⟩
    omega

/-- A tick whose sale of seats is refused, while nobody inserts entries. -/
def refusedTick : Tick where
  choice _ _ := { reply := .success false }
  others _ s := s
  stores _ _ _ := rfl
  appends _ _ := Appends.refl _

/-- A database with one entry. -/
def oneEntry : Db := { Db.empty with
  outbox := Table.empty.put (.create 0 (.seatsMarkSold "e" "u" ["A"]))
  nextId := 1 }

/-- The entry fails after as many refused ticks as it has retries. -/
theorem outbox_retries_accounted_refused :
    ∃ e ∈ (runTicks (List.replicate 5 refusedTick) (oneEntry, [])).1.outbox.rows,
      EntryAccounted (runTicks (List.replicate 5 refusedTick) (oneEntry, [])) e ∧
        e.status = .failed := by
  have played : (runTicks (List.replicate 5 refusedTick) (oneEntry, [])).1.outbox.rows.any fun e ↦
      e.status = .failed := by
    decide +kernel
  simp only [List.any_eq_true, decide_eq_true_eq] at played
  obtain ⟨e, he, failed⟩ := played
  have fresh : ∀ e ∈ oneEntry.outbox.rows, e.Fresh := by
    intro e he
    have created : e = .create 0 (.seatsMarkSold "e" "u" ["A"]) := List.mem_singleton.mp he
    subst created
    exact ⟨rfl, rfl, by decide⟩
  exact ⟨e, he, (outbox_retries_accounted _ fresh).1 e he, failed⟩

end Ticketing.BookingService
