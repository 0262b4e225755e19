import Ticketing.SeatInventory.ReadConcurrency
import Ticketing.Store.Mirror

/-!
# When the read model converges

Library `SeatInventory`. The status of a seat row and its copy in Redis, over runs in which calls
of the writers and rebuilds interleave. Every call saves and commits, or reads, and writes to Redis
later; nothing orders the writes.
-/

namespace Ticketing.SeatInventory

open Async Store

/-- The status in Redis of every stored seat is that of its row. -/
def ReadStores.Agrees (s : ReadStores) : Prop :=
  ∀ r ∈ s.db.seats.rows, s.db.availability.find r.place = some r.shown

instance (s : ReadStores) : Decidable s.Agrees :=
  inferInstanceAs (Decidable (∀ r ∈ s.db.seats.rows, _))

/-- What an operation of thread `t` does to the status of a seat and to its copy. -/
def cellEvent (place : String × String) (t : Nat) :
    (o : Move) → moveSig.Answer o → CellEvent Nat SeatStatus
  | .base o, r =>
    match (o.storedSeats r).find? fun seat ↦ seat.place = place with
    | some seat => .commit t seat.status
    | none => if o.keeps place r then .take t else .other
  | .read (.find e), .ok _ => if place.1 = e then .take t else .other
  | .command (.delStatus e), .ok _ => if place.1 = e then .wipe t else .other
  | .command (.hsetStatus e id status), .ok _ =>
    if place = (e, id) then .copy t status else .other
  | _, _ => .other

/-- The status of a seat and its copy after a history, from agreeing stores. -/
def cell (s₀ : ReadStores) (place : String × String) :
    List (Event syncService) → Cell Nat SeatStatus
  | [] => .start (((s₀.db.seats.find place).map Seat.status).getD .available)
  | ev :: log => (cell s₀ place log).step (cellEvent place ev.tid ev.op ev.answer)

/-- The seat whose status is written. -/
def Move.written : Move → Option (String × String)
  | .command (.hsetStatus e id _) => some (e, id)
  | _ => none

/-- A status is written in order: the one that it overwrites was not taken later. A call takes a
status by its `save()` when this finds the row with it, or else by its commit; a rebuild by its
read. -/
def InOrder (s₀ : ReadStores) (c : Conf syncService) (ev : Event syncService) : Prop :=
  ∀ place ∈ ev.op.written,
    (cell s₀ place c.log).shownStamp ≤ (cell s₀ place c.log).stampOf ev.tid

instance (s₀ : ReadStores) (c : Conf syncService) (ev : Event syncService) :
    Decidable (InOrder s₀ c ev) :=
  inferInstanceAs (Decidable (∀ place ∈ ev.op.written, _ ≤ _))

/-- Runs in which every status is written in order. -/
def inOrder (s₀ : ReadStores) : Regime syncService := ⟨InOrder s₀, fun _ _ ↦ False⟩

instance (s₀ : ReadStores) (c : Conf syncService) (ev : Event syncService) :
    Decidable ((inOrder s₀).may c ev) :=
  inferInstanceAs (Decidable (InOrder s₀ c ev))

instance (s₀ : ReadStores) (i j : SyncJob) : Decidable ((inOrder s₀).excl i j) :=
  inferInstanceAs (Decidable False)

/-- An operation is done by its thread. -/
theorem cellEvent_party {place : String × String} {t u : Nat} {o : Move} {r : moveSig.Answer o}
    (h : u ≠ t) : (cellEvent place t o r).party ≠ some u := by
  intro hp
  unfold cellEvent at hp
  split at hp
  · split at hp
    · exact h (Option.some.inj hp).symm
    · split at hp
      · exact h (Option.some.inj hp).symm
      · cases hp
  · split at hp
    · exact h (Option.some.inj hp).symm
    · cases hp
  · split at hp
    · exact h (Option.some.inj hp).symm
    · cases hp
  · split at hp
    · exact h (Option.some.inj hp).symm
    · cases hp
  · cases hp

/-- An operation leaves what the other threads have taken and have to write. -/
theorem cell_others (c : Cell Nat SeatStatus) (place : String × String) {t u : Nat} {o : Move}
    (r : moveSig.Answer o) (h : u ≠ t) :
    (c.step (cellEvent place t o r)).taken u = c.taken u ∧
      (c.step (cellEvent place t o r)).owing u = c.owing u :=
  c.step_others (cellEvent_party h)

/-! ### What a thread knows of a seat -/

/-- What a thread has found and taken of a seat that is stored. -/
structure Knows (place : String × String) (c : Cell Nat SeatStatus) (t : Nat) (j : SyncJob)
    (s : Round) : Prop where
  asked : s.asked place = true → place ∈ s.found.map Seat.place
  kept : ∀ w updated, j = .write w → s.updated = some updated → place ∈ s.found.map Seat.place →
    place ∉ updated.map Seat.place → ∃ n, c.taken t = some (n, w.status)
  wrote : ∀ w, j = .write w → s.committed = true → place ∈ s.found.map Seat.place →
    ∃ n, c.taken t = some (n, w.status)
  read : ∀ e, j = .rebuild e → ∀ r ∈ s.found, r.place = place →
    ∃ n, c.taken t = some (n, r.status)
  owes : c.owing t = true → place ∈ s.pending

/-- The status of a seat is tracked, with its copy and what each thread knows of it. -/
structure Tracked (s₀ : ReadStores) (place : String × String) (p : Pool syncService) : Prop where
  kept : (cell s₀ place p.conf.log).Kept
  row : ∃ r, p.conf.state.db.seats.find place = some r ∧
    r.status = (cell s₀ place p.conf.log).value
  hash : (p.conf.state.db.availability.find place).map SeatAvailability.status =
    (cell s₀ place p.conf.log).shown
  threads : ∀ t j q, p.At t j q →
    Knows place (cell s₀ place p.conf.log) t j (syncMonitor.state t p.conf.log)
  present : ∀ t, (cell s₀ place p.conf.log).owing t = true → ∃ j q, p.At t j q

variable {s₀ : ReadStores} {place : String × String} {p : Pool syncService}

/-- A step keeps track of the seat, if it is allowed, changes row and copy as the event says, and
keeps what its thread knows. -/
theorem Tracked.advance (h : Tracked s₀ place p) {t : Nat} {j : SyncJob} {x : Choice} {o : Move}
    {k : moveSig.Answer o → syncService.Program} (ht : p.At t j (.op o k))
    (allows : (cell s₀ place p.conf.log).Allows (cellEvent place t o (p.conf.answer x o)))
    (row : ∃ r, (performMove x o p.conf.state).2.db.seats.find place = some r ∧
      r.status = ((cell s₀ place p.conf.log).step (cellEvent place t o (p.conf.answer x o))).value)
    (hash : ((performMove x o p.conf.state).2.db.availability.find place).map
      SeatAvailability.status =
        ((cell s₀ place p.conf.log).step (cellEvent place t o (p.conf.answer x o))).shown)
    (knows : Knows place
      ((cell s₀ place p.conf.log).step (cellEvent place t o (p.conf.answer x o))) t j
      (syncMonitor.next (syncMonitor.state t p.conf.log) o (p.conf.answer x o))) :
    Tracked s₀ place (p.advance t j x o k) where
  kept := h.kept.step allows
  row := row
  hash := hash
  threads u i q hu := by
    rcases (Pool.at_advance ht).mp hu with ⟨rfl, rfl, -⟩ | ⟨hne, hu⟩
    · show Knows place _ u i (syncMonitor.state u (⟨u, i, o, p.conf.answer x o⟩ :: p.conf.log))
      rw [Monitor.state_self]
      exact knows
    · show Knows place _ u i (syncMonitor.state u (⟨t, j, o, p.conf.answer x o⟩ :: p.conf.log))
      rw [Monitor.state_other _ (Ne.symm hne)]
      obtain ⟨taken, owing⟩ :=
        cell_others (cell s₀ place p.conf.log) place (p.conf.answer x o) hne
      obtain ⟨asked, kept, wrote, read, owes⟩ := h.threads u i q hu
      constructor
      · exact asked
      · intro w updated hw hs hm hn
        obtain ⟨n, hn⟩ := kept w updated hw hs hm hn
        exact ⟨n, taken.trans hn⟩
      · intro w hw hc hm
        obtain ⟨n, hn⟩ := wrote w hw hc hm
        exact ⟨n, taken.trans hn⟩
      · intro e he r hr hp
        obtain ⟨n, hn⟩ := read e he r hr hp
        exact ⟨n, taken.trans hn⟩
      · intro ho
        exact owes (owing.symm.trans ho)
  present u hu := by
    by_cases hne : u = t
    · exact ⟨j, _, (Pool.at_advance ht).mpr (.inl ⟨hne, rfl, rfl⟩)⟩
    · obtain ⟨-, owing⟩ :=
        cell_others (cell s₀ place p.conf.log) place (p.conf.answer x o) hne
      obtain ⟨i, q, hq⟩ := h.present u (owing.symm.trans hu)
      exact ⟨i, q, (Pool.at_advance ht).mpr (.inr ⟨hne, hq⟩)⟩

/-- A step that touches neither the row nor its copy. -/
theorem Tracked.aside (h : Tracked s₀ place p) {t : Nat} {j : SyncJob} {x : Choice} {o : Move}
    {k : moveSig.Answer o → syncService.Program} (ht : p.At t j (.op o k))
    (he : cellEvent place t o (p.conf.answer x o) = .other)
    (hs : (performMove x o p.conf.state).2.db.seats.find place =
      p.conf.state.db.seats.find place)
    (ha : (performMove x o p.conf.state).2.db.availability.find place =
      p.conf.state.db.availability.find place)
    (hk : Knows place (cell s₀ place p.conf.log) t j
      (syncMonitor.next (syncMonitor.state t p.conf.log) o (p.conf.answer x o))) :
    Tracked s₀ place (p.advance t j x o k) := by
  apply h.advance ht
  · rw [he]
    trivial
  · rw [he, hs]
    exact h.row
  · rw [he, ha]
    exact h.hash
  · rw [he]
    exact hk

/-- The rows of an event or a list that are read now contain the seat, if it is one of them. -/
theorem Tracked.mem_filter (h : Tracked s₀ place p) (asked : String × String → Bool)
    (ha : asked place = true) :
    place ∈ (p.conf.state.db.seats.rows.filter fun r ↦ asked r.place).map Seat.place := by
  obtain ⟨r, hr, -⟩ := h.row
  obtain ⟨hm, rfl⟩ := Table.find_eq_some_iff.mp hr
  exact List.mem_map_of_mem (List.mem_filter.mpr ⟨hm, ha⟩)

/-- A seat that a `save()` does not update has the status already, and the call takes it. -/
theorem Tracked.taken_kept (h : Tracked s₀ place p) {s : Round} {st : SeatStatus}
    (hm : place ∈ s.found.map Seat.place)
    (hn : place ∉ (p.conf.state.db.seats.changed (s.marked st)).map Seat.place) (t : Nat) :
    ∃ n, ((cell s₀ place p.conf.log).step
      (if ((s.marked st).map Seat.place).contains place &&
          !((p.conf.state.db.seats.changed (s.marked st)).map Seat.place).contains place
        then .take t else .other)).taken t = some (n, st) := by
  have saved : place ∈ (s.marked st).map Seat.place := by
    obtain ⟨r, hr, rfl⟩ := List.mem_map.mp hm
    exact List.mem_map.mpr ⟨{ r with status := st }, List.mem_map_of_mem hr, rfl⟩
  obtain ⟨row, hrow, -, hf⟩ := Table.find_of_not_changed saved hn
  obtain ⟨r, hr, hst⟩ := h.row
  rw [hf] at hr
  cases hr
  obtain ⟨r, -, rfl⟩ := List.mem_map.mp hrow
  have keeps : (((s.marked st).map Seat.place).contains place &&
      !((p.conf.state.db.seats.changed (s.marked st)).map Seat.place).contains place) = true := by
    rw [Bool.and_eq_true, Bool.not_eq_true', Bool.eq_false_iff]
    exact ⟨List.contains_iff_mem.mpr saved, fun hc ↦ hn (List.contains_iff_mem.mp hc)⟩
  rw [if_pos keeps]
  exact ⟨_, (Function.update_self ..).trans (by rw [← hst])⟩

/-- What an operation that stores seats does to the status of one of them. -/
theorem cellEvent_base {t : Nat} {o : Op} {r : sig.Answer o} {rows : List Seat} {st : SeatStatus}
    (hr : o.storedSeats r = rows) (hst : ∀ seat ∈ rows, seat.status = st) :
    cellEvent place t (.base o) r =
      if place ∈ rows.map Seat.place then .commit t st
      else if o.keeps place r then .take t else .other := by
  show (match (o.storedSeats r).find? fun seat ↦ seat.place = place with
    | some seat => CellEvent.commit t seat.status
    | none => if o.keeps place r then .take t else .other) = _
  rw [hr]
  cases hf : rows.find? fun seat ↦ seat.place = place with
  | some seat =>
    have hm := List.mem_of_find?_eq_some hf
    have hplace := List.find?_some hf
    rw [if_pos (List.mem_map.mpr ⟨seat, hm, of_decide_eq_true hplace⟩), ← hst seat hm]
  | none =>
    refine (if_neg ?_).symm
    intro hm
    obtain ⟨seat, hseat, hplace⟩ := List.mem_map.mp hm
    exact List.find?_eq_none.mp hf seat hseat (decide_eq_true hplace)

private theorem Tracked.row_putAll (h : Tracked s₀ place p) {rows : List Seat} {st : SeatStatus}
    (status : ∀ seat ∈ rows, seat.status = st) :
    ∃ r, (p.conf.state.db.seats.putAll rows).find place = some r ∧
      r.status = if place ∈ rows.map Seat.place then st
        else (cell s₀ place p.conf.log).value := by
  rcases Table.find_putAll_cases p.conf.state.db.seats rows place with
    ⟨r, hr, hk, hf⟩ | ⟨hn, hf⟩
  · rw [if_pos (List.mem_map.mpr ⟨r, hr, hk⟩)]
    exact ⟨r, hf, status r hr⟩
  · obtain ⟨r₀, hr₀, hst⟩ := h.row
    rw [if_neg]
    · exact ⟨r₀, hf.trans hr₀, hst⟩
    · intro hm
      obtain ⟨r, hr, hk⟩ := List.mem_map.mp hm
      exact hn r hr hk

private theorem Knows.commit {c c' : Cell Nat SeatStatus} {t : Nat} {w : WriteCall} {s : Round}
    (known : Knows place c t (.write w) s) (idle : s.pending = [])
    (taken : place ∈ s.found.map Seat.place → ∃ n, c'.taken t = some (n, w.status))
    (owes : c'.owing t = true → place ∈ s.found.map Seat.place ∨ c.owing t = true) :
    Knows place c' t (.write w) s.commit where
  asked := known.asked
  kept := by
    rintro w' updated hw' - hm -
    cases hw'
    exact taken hm
  wrote := by
    rintro w' hw' - hm
    cases hw'
    exact taken hm
  read e he := by cases he
  owes ho := by
    rcases owes ho with hm | ho
    · exact hm
    · have pending := known.owes ho
      rw [idle] at pending
      cases pending

/-- Committing rows that a writer has found. Of the others the status was taken by a `save()`. -/
theorem Tracked.commit (h : Tracked s₀ place p) {t : Nat} {x : Choice} {o : Op} {w : WriteCall}
    {rows : List Seat} {k : sig.Answer o → syncService.Program}
    (ht : p.At t (.write w) (.op (.base o) k))
    (hp : (syncMonitor.state t p.conf.log).pending = [])
    (hw : o.storedSeats (perform x o p.conf.state.db).1 = rows)
    (hsub : rows.Sublist ((syncMonitor.state t p.conf.log).marked w.status))
    (hs : (perform x o p.conf.state.db).2.seats = p.conf.state.db.seats.putAll rows)
    (ha : (perform x o p.conf.state.db).2.availability = p.conf.state.db.availability)
    (hn : syncMonitor.next (syncMonitor.state t p.conf.log) (.base o)
      (perform x o p.conf.state.db).1 = (syncMonitor.state t p.conf.log).commit)
    (hk : place ∈ (syncMonitor.state t p.conf.log).found.map Seat.place →
      place ∉ rows.map Seat.place →
      ∃ n, ((cell s₀ place p.conf.log).step (if o.keeps place (perform x o p.conf.state.db).1
        then .take t else .other)).taken t = some (n, w.status)) :
    Tracked s₀ place (p.advance t (.write w) x (.base o) k) := by
  let s := syncMonitor.state t p.conf.log
  have status : ∀ seat ∈ rows, seat.status = w.status := by
    intro seat hseat
    obtain ⟨r, -, rfl⟩ := List.mem_map.mp (hsub.subset hseat)
    rfl
  have event : cellEvent place t (.base o) (p.conf.answer x (.base o)) =
      if place ∈ rows.map Seat.place then .commit t w.status
      else if o.keeps place (perform x o p.conf.state.db).1 then .take t else .other :=
    cellEvent_base hw status
  have found : place ∈ rows.map Seat.place → place ∈ s.found.map Seat.place := by
    intro hm
    obtain ⟨seat, hseat, hplace⟩ := List.mem_map.mp hm
    obtain ⟨r, hr, rfl⟩ := List.mem_map.mp (hsub.subset hseat)
    exact List.mem_map.mpr ⟨r, hr, hplace⟩
  apply h.advance ht
  · rw [event]
    split
    · trivial
    · split <;> trivial
  · show ∃ r, (perform x o p.conf.state.db).2.seats.find place = some r ∧ _
    obtain ⟨r, hr, hst⟩ := h.row_putAll status
    rw [hs, event]
    refine ⟨r, hr, hst.trans ?_⟩
    split
    · rfl
    · split <;> rfl
  · rw [event]
    show ((perform x o p.conf.state.db).2.availability.find place).map _ = _
    rw [ha, h.hash]
    split
    · rfl
    · split <;> rfl
  · have next : syncMonitor.next s (.base o) (p.conf.answer x (.base o)) = s.commit := hn
    rw [next, event]
    apply (h.threads t _ _ ht).commit hp
    · intro hm
      by_cases hr : place ∈ rows.map Seat.place
      · rw [if_pos hr]
        exact ⟨_, Function.update_self ..⟩
      · rw [if_neg hr]
        exact hk hm hr
    · intro ho
      by_cases hr : place ∈ rows.map Seat.place
      · exact .inl (found hr)
      · rw [if_neg hr] at ho
        split at ho <;> exact .inr ho

/-- A `save()` in a transaction: of the rows that it does not update it takes the status. -/
theorem Tracked.save (h : Tracked s₀ place p) {t : Nat} {x : Choice} {rows : List Seat}
    {w : WriteCall} {k : sig.Answer (.statement (.seats rows)) → syncService.Program}
    (ht : p.At t (.write w) (.op (.base (.statement (.seats rows))) k))
    (hc : (syncMonitor.state t p.conf.log).committed = false)
    (hr : rows = (syncMonitor.state t p.conf.log).marked w.status) :
    Tracked s₀ place (p.advance t (.write w) x (.base (.statement (.seats rows))) k) := by
  have known := h.threads t _ _ ht
  obtain ⟨r₀, hr₀, hst⟩ := h.row
  have event : cellEvent place t (.base (.statement (.seats rows)))
      (p.conf.answer x (.base (.statement (.seats rows)))) =
        if (rows.map Seat.place).contains place &&
          !((p.conf.state.db.seats.changed rows).map Seat.place).contains place
        then .take t else .other := rfl
  apply h.advance ht
  · rw [event]
    split <;> trivial
  · rw [event]
    refine ⟨r₀, hr₀, hst.trans ?_⟩
    split <;> rfl
  · rw [event]
    refine h.hash.trans ?_
    split <;> rfl
  · rw [event]
    constructor
    · exact known.asked
    · rintro w' updated hw' hu hm hn
      cases hw'
      cases hu
      subst hr
      exact h.taken_kept hm hn t
    · intro _ _ committed
      exact absurd (committed.symm.trans hc) Bool.noConfusion
    · exact fun e he ↦ by cases he
    · intro ho
      apply known.owes
      split at ho <;> exact ho

/-- Setting a lock leaves the seats and the status hash alone. -/
theorem perform_setNx_keeps (x : Choice) (lock : SeatLock) (db : Db) :
    (perform x (.setNx lock) db).2.seats = db.seats ∧
      (perform x (.setNx lock) db).2.availability = db.availability := by
  simp only [perform]
  split <;> exact ⟨rfl, rfl⟩

/-- A commit saves the rows that its writes store. -/
theorem seats_writes (writes : List Write) (db : Db) :
    (writes.foldl Db.write db).seats =
      db.seats.putAll (Op.storedSeats (.commit writes) (.ok ())) := by
  induction writes generalizing db with
  | nil => rfl
  | cons w writes ih =>
    rw [List.foldl_cons, ih]
    cases w with
    | seats rows => exact List.foldl_append.symm
    | holds rows => rfl

/-- A commit leaves the status hash alone. -/
theorem availability_writes (writes : List Write) (db : Db) :
    (writes.foldl Db.write db).availability = db.availability := by
  induction writes generalizing db with
  | nil => rfl
  | cons w writes ih =>
    rw [List.foldl_cons, ih]
    cases w <;> rfl

/-- Reading the rows of an event takes the value of each of its seats. -/
theorem Tracked.find (h : Tracked s₀ place p) {t : Nat} {x : Choice} {e e' : String}
    {k : moveSig.Answer (.read (.find e)) → syncService.Program}
    (ht : p.At t (.rebuild e') (.op (.read (.find e)) k)) :
    Tracked s₀ place (p.advance t (.rebuild e') x (.read (.find e)) k) := by
  have known := h.threads t _ _ ht
  obtain ⟨r₀, hr₀, hst⟩ := h.row
  have event : cellEvent place t (.read (.find e)) (p.conf.answer x (.read (.find e))) =
      if place.1 = e then .take t else .other := rfl
  apply h.advance ht
  · rw [event]
    split <;> trivial
  · rw [event]
    refine ⟨r₀, hr₀, hst.trans ?_⟩
    split <;> rfl
  · rw [event]
    refine h.hash.trans ?_
    split <;> rfl
  · rw [event]
    constructor
    · exact h.mem_filter (ofEvent e)
    · exact fun w _ hw ↦ by cases hw
    · exact fun w hw ↦ by cases hw
    · intro e'' _ r hr hp
      obtain ⟨hm, he⟩ := List.mem_filter.mp hr
      have found := Table.find_of_mem hm
      rw [hp, hr₀] at found
      cases found
      have here : place.1 = e := by
        rw [← hp]
        exact of_decide_eq_true he
      rw [if_pos here, hst]
      exact ⟨_, Function.update_self ..⟩
    · intro ho
      apply known.owes
      split at ho <;> exact ho

/-- Writing the status of a seat copies the value that its thread took. -/
theorem Tracked.hset (h : Tracked s₀ place p) {t : Nat} {j : SyncJob} {x : Choice}
    {e id : String} {st : SeatStatus}
    {k : moveSig.Answer (.command (.hsetStatus e id st)) → syncService.Program}
    (ht : p.At t j (.op (.command (.hsetStatus e id st)) k))
    (hm : j.Writes (syncMonitor.state t p.conf.log) (e, id) st)
    (ho : place = (e, id) →
      (cell s₀ place p.conf.log).shownStamp ≤ (cell s₀ place p.conf.log).stampOf t) :
    Tracked s₀ place (p.advance t j x (.command (.hsetStatus e id st)) k) := by
  have known := h.threads t _ _ ht
  have event : cellEvent place t (.command (.hsetStatus e id st))
      (p.conf.answer x (.command (.hsetStatus e id st))) =
        if place = (e, id) then .copy t st else .other := rfl
  have written :
      (performMove x (.command (.hsetStatus e id st)) p.conf.state).2.db.availability.find place =
      if (e, id) = place then some ⟨e, id, st⟩
        else p.conf.state.db.availability.find place :=
    Table.find_put ..
  apply h.advance ht
  · rw [event]
    split
    · next hp =>
      have taken : ∃ n, (cell s₀ place p.conf.log).taken t = some (n, st) := by
        cases j with
        | write w =>
          obtain ⟨committed, asked, rfl⟩ := hm
          rw [← hp] at asked
          exact known.wrote w rfl committed (known.asked asked)
        | rebuild e' =>
          obtain ⟨r, hr, hplace, rfl⟩ := hm
          exact known.read e' rfl r hr (hplace.trans hp.symm)
      obtain ⟨n, hn⟩ := taken
      refine ⟨n, hn, ?_⟩
      have order := ho hp
      rwa [Cell.stampOf, hn] at order
    · trivial
  · rw [event]
    obtain ⟨r, hr, hst⟩ := h.row
    refine ⟨r, hr, hst.trans ?_⟩
    split <;> rfl
  · rw [event, written]
    by_cases hp : place = (e, id)
    · rw [if_pos hp, if_pos hp.symm]
      rfl
    · rw [if_neg hp, if_neg (Ne.symm hp)]
      exact h.hash
  · rw [event]
    constructor
    · exact known.asked
    · intro w updated hw hu hf hn
      obtain ⟨n, hn⟩ := known.kept w updated hw hu hf hn
      refine ⟨n, ?_⟩
      split <;> exact hn
    · intro w hw hc hf
      obtain ⟨n, hn⟩ := known.wrote w hw hc hf
      refine ⟨n, ?_⟩
      split <;> exact hn
    · intro e' he r hr hp
      obtain ⟨n, hn⟩ := known.read e' he r hr hp
      refine ⟨n, ?_⟩
      split <;> exact hn
    · intro howe
      split at howe
      · simp [Cell.step] at howe
      · next hp => exact List.mem_filter.mpr ⟨known.owes howe, by simpa using hp⟩

/-- Deleting the status hash of an event. -/
theorem Tracked.del (h : Tracked s₀ place p) {t : Nat} {x : Choice} {e : String}
    {k : moveSig.Answer (.command (.delStatus e)) → syncService.Program}
    (ht : p.At t (.rebuild e) (.op (.command (.delStatus e)) k))
    (hp : (syncMonitor.state t p.conf.log).pending = [])
    (ha : (syncMonitor.state t p.conf.log).asked = ofEvent e) :
    Tracked s₀ place (p.advance t (.rebuild e) x (.command (.delStatus e)) k) := by
  have known := h.threads t _ _ ht
  have event : cellEvent place t (.command (.delStatus e))
      (p.conf.answer x (.command (.delStatus e))) =
        if place.1 = e then .wipe t else .other := rfl
  have removed : (performMove x (.command (.delStatus e)) p.conf.state).2.db.availability.find
      place = if place.1 = e then none else p.conf.state.db.availability.find place := by
    refine (Table.find_remove ..).trans ?_
    cases hf : p.conf.state.db.availability.find place with
    | none => simp
    | some a =>
      obtain ⟨-, rfl⟩ := Table.find_eq_some_iff.mp hf
      by_cases he : a.eventId = e
      · simp [SeatAvailability.place, he]
      · simp [SeatAvailability.place, he]
  apply h.advance ht
  · rw [event]
    split <;> trivial
  · rw [event]
    obtain ⟨r, hr, hst⟩ := h.row
    refine ⟨r, hr, hst.trans ?_⟩
    split <;> rfl
  · rw [event, removed]
    split
    · rfl
    · exact h.hash
  · rw [event]
    constructor
    · exact known.asked
    · exact fun w _ hw ↦ by cases hw
    · exact fun w hw ↦ by cases hw
    · intro e' he r hr hplace
      obtain ⟨n, hn⟩ := known.read e' he r hr hplace
      refine ⟨n, ?_⟩
      split <;> exact hn
    · intro howe
      split at howe
      · next he =>
        apply known.asked
        rw [ha]
        exact decide_eq_true he
      · have := known.owes howe
        rw [hp] at this
        cases this

/-- Every step of a run in order keeps track of a stored seat. -/
theorem Tracked.step (h : Tracked s₀ place p) {t : Nat} {j : SyncJob} {x : Choice} {o : Move}
    {k : moveSig.Answer o → syncService.Program} (ht : p.At t j (.op o k))
    (hm : syncMonitor.may j (syncMonitor.state t p.conf.log) o)
    (ho : InOrder s₀ p.conf ⟨t, j, o, p.conf.answer x o⟩) :
    Tracked s₀ place (p.advance t j x o k) := by
  have known := h.threads t j _ ht
  cases o with
  | base o =>
    cases o with
    | findBySeatIds e ids =>
      obtain ⟨fresh, w, rfl⟩ := hm
      apply h.aside ht rfl rfl rfl
      constructor
      · exact h.mem_filter (listing e ids)
      · exact fun _ _ _ hu ↦ by cases hu
      · intro _ _ hc
        exact absurd (hc.symm.trans fresh) Bool.noConfusion
      · exact fun _ he ↦ by cases he
      · exact known.owes
    | statement write =>
      cases write with
      | seats rows =>
        obtain ⟨hc, w, rfl, hr⟩ := hm
        exact h.save ht hc hr
      | holds rows => exact h.aside ht rfl rfl rfl known
    | commit writes =>
      obtain ⟨hp, w, updated, rfl, hu, hsub, hw⟩ := hm
      apply h.commit ht hp hw hsub
      · rw [← hw]
        exact seats_writes writes p.conf.state.db
      · exact availability_writes writes p.conf.state.db
      · rfl
      · exact known.kept w updated rfl hu
    | saveSeats rows =>
      obtain ⟨hp, w, rfl, rfl⟩ := hm
      apply h.commit ht hp rfl List.filter_sublist
      · rfl
      · rfl
      · rfl
      · exact fun hm hn ↦ h.taken_kept hm hn t
    | hset e updates => exact hm.elim
    | setNx lock =>
      have same := perform_setNx_keeps x lock p.conf.state.db
      apply h.aside ht rfl _ _ known
      · exact congrArg (Table.find · place) same.1
      · exact congrArg (Table.find · place) same.2
    | _ => exact h.aside ht rfl rfl rfl known
  | read o =>
    cases o with
    | find e =>
      obtain ⟨e', rfl⟩ := hm
      exact h.find ht
    | exec commands => exact hm.elim
    | _ => exact h.aside ht rfl rfl rfl known
  | command c =>
    cases c with
    | delStatus e =>
      obtain ⟨hp, rfl, ha⟩ := hm
      exact h.del ht hp ha
    | hsetStatus e id st =>
      apply h.hset ht hm
      rintro rfl
      exact ho (e, id) rfl
    | _ => exact h.aside ht rfl rfl rfl known

/-- Every run in order keeps track of every stored seat. -/
theorem tracked_of_reach (h₀ : s₀.Agrees) (hp : Pool.Reach (inOrder s₀) (fun s ↦ s = s₀) p)
    {r₀ : Seat} (hr₀ : r₀ ∈ s₀.db.seats.rows) : Tracked s₀ r₀.place p := by
  have found := Table.find_of_mem hr₀
  induction hp with
  | start hs =>
    subst hs
    constructor
    · exact Cell.kept_start _
    · exact ⟨r₀, found, by simp [cell, Cell.start, Pool.start, found]⟩
    · have copy := h₀ r₀ hr₀
      refine (congrArg (Option.map SeatAvailability.status) copy).trans ?_
      simp [cell, Cell.start, Pool.start, found, Seat.shown]
    · exact fun t j q ht ↦ by cases ht
    · exact fun t ho ↦ by cases ho
  | @spawn p j hp hx ih =>
    constructor
    · exact ih.kept
    · exact ih.row
    · exact ih.hash
    · intro t i q ht
      rcases Pool.at_spawn.mp ht with old | ⟨rfl, rfl, rfl⟩
      · exact ih.threads t i q old
      · have watched := Monitor.watches_of_reach syncJob_obeys hp
        show Knows _ _ _ _ (syncMonitor.state p.threads.length p.conf.log)
        rw [watched.threads _ (Nat.le_refl _)]
        constructor
        · exact nofun
        · exact fun _ _ _ hu ↦ by cases hu
        · exact fun _ _ hc ↦ by cases hc
        · exact fun _ _ _ hr ↦ by cases hr
        · intro ho
          obtain ⟨i, q, hq⟩ := ih.present _ ho
          exact absurd (List.getElem?_eq_some_iff.mp hq).1 (Nat.lt_irrefl _)
    · intro t ho
      obtain ⟨i, q, hq⟩ := ih.present t ho
      exact ⟨i, q, Pool.at_spawn.mpr (.inl hq)⟩
  | run hp ht hm ih =>
    have watched := Monitor.watches_of_reach syncJob_obeys hp
    exact ih.step ht (watched.may ht) hm

/-- The rows are of seats that were stored at the start. -/
def Known (s₀ : ReadStores) (rows : List Seat) : Prop :=
  ∀ r ∈ rows, ∃ r₀ ∈ s₀.db.seats.rows, r₀.place = r.place

/-- Rows of known seats stay so with another status. -/
theorem Known.marked {s : Round} (h : Known s₀ s.found) (st : SeatStatus) :
    Known s₀ (s.marked st) := by
  intro r hr
  obtain ⟨r', hr', rfl⟩ := List.mem_map.mp hr
  exact h r' hr'

/-- Saving rows of known seats keeps the seats known. -/
theorem Known.putAll {t : Table Seat.place} {rows : List Seat} (ht : Known s₀ t.rows)
    (h : Known s₀ rows) : Known s₀ (t.putAll rows).rows := by
  intro r hr
  rcases Table.mem_of_mem_putAll hr with hr | hr
  · exact h r hr
  · exact ht r hr

/-- No run stores a seat that was not stored at the start. -/
theorem known_of_reach (hp : Pool.Reach (inOrder s₀) (fun s ↦ s = s₀) p) :
    Known s₀ p.conf.state.db.seats.rows ∧ ∀ t, Known s₀ (syncMonitor.state t p.conf.log).found := by
  induction hp with
  | start hs =>
    subst hs
    exact ⟨fun r hr ↦ ⟨r, hr, rfl⟩, fun t ↦ nofun⟩
  | spawn _ _ ih => exact ih
  | @run p t j x o k hp ht _ ih =>
    have allowed := (Monitor.watches_of_reach syncJob_obeys hp).may ht
    obtain ⟨rows, found⟩ := ih
    have others : ∀ u, u ≠ t → Known s₀
        (syncMonitor.state u (⟨t, j, o, p.conf.answer x o⟩ :: p.conf.log)).found := by
      intro u hu
      rw [Monitor.state_other _ (Ne.symm hu)]
      exact found u
    have step : Known s₀ (performMove x o p.conf.state).2.db.seats.rows ∧
        Known s₀
          (syncMonitor.next (syncMonitor.state t p.conf.log) o (p.conf.answer x o)).found := by
      cases o with
      | base o =>
        cases o with
        | findBySeatIds e ids => exact ⟨rows, fun r hr ↦ rows r (List.mem_filter.mp hr).1⟩
        | commit writes =>
          obtain ⟨-, w, updated, -, -, hsub, hw⟩ := allowed
          refine ⟨?_, found t⟩
          show Known s₀ (writes.foldl Db.write p.conf.state.db).seats.rows
          rw [seats_writes, hw]
          exact rows.putAll fun r hr ↦ (found t).marked w.status r (hsub.subset hr)
        | saveSeats saved =>
          obtain ⟨-, w, -, rfl⟩ := allowed
          exact ⟨rows.putAll fun r hr ↦ (found t).marked w.status r (List.mem_filter.mp hr).1,
            found t⟩
        | statement write =>
          refine ⟨rows, ?_⟩
          cases write <;> exact found t
        | setNx lock =>
          refine ⟨?_, found t⟩
          show Known s₀ (perform x (.setNx lock) p.conf.state.db).2.seats.rows
          rw [(perform_setNx_keeps x lock _).1]
          exact rows
        | _ => exact ⟨rows, found t⟩
      | read o =>
        cases o with
        | find e => exact ⟨rows, fun r hr ↦ rows r (List.mem_filter.mp hr).1⟩
        | exec commands => exact allowed.elim
        | _ => exact ⟨rows, found t⟩
      | command c =>
        have same : syncMonitor.next (syncMonitor.state t p.conf.log) (.command c)
            (p.conf.answer x (.command c)) = (syncMonitor.state t p.conf.log).command c := rfl
        rw [same, (Round.command_rest _ c).2.1]
        refine ⟨?_, found t⟩
        cases c <;> exact rows
    refine ⟨step.1, fun u ↦ ?_⟩
    by_cases hu : u = t
    · rw [hu]
      show Known s₀ (syncMonitor.state t (⟨t, j, o, p.conf.answer x o⟩ :: p.conf.log)).found
      rw [Monitor.state_self]
      exact step.2
    · exact others u hu

/-- The read model converges: when every status is written in order, and every call has ended,
the status in Redis of every seat is that of its row. -/
theorem read_model_converges (h₀ : s₀.Agrees)
    (hp : Pool.Reach (inOrder s₀) (fun s ↦ s = s₀) p)
    (hend : ∀ t j q, p.At t j q → q.ended = true) : p.conf.state.Agrees := by
  have watched := Monitor.watches_of_reach syncJob_obeys hp
  intro r hr
  obtain ⟨r₀, hr₀, hplace⟩ := (known_of_reach hp).1 r hr
  have tracked := tracked_of_reach h₀ hp hr₀
  have settled : ∀ t, (cell s₀ r₀.place p.conf.log).owing t = false := by
    intro t
    by_contra howes
    have howes : (cell s₀ r₀.place p.conf.log).owing t = true := by simpa using howes
    obtain ⟨j, q, ht⟩ := tracked.present t howes
    have known := (tracked.threads t j q ht).owes howes
    cases q with
    | op o k => exact absurd (hend t j _ ht) Bool.noConfusion
    | ret a =>
      rw [watched.ended ht] at known
      cases known
  have copied := tracked.kept.settled settled
  obtain ⟨r', hr', hst⟩ := tracked.row
  have hash := tracked.hash
  rw [copied, Option.map_eq_some_iff] at hash
  obtain ⟨a, ha, hstatus⟩ := hash
  obtain ⟨-, hk⟩ := Table.find_eq_some_iff.mp ha
  have same : r' = r := by
    have := Table.find_of_mem hr
    rw [← hplace, hr'] at this
    exact Option.some.inj this
  have copy : a = r.shown := by
    obtain ⟨e, id, st⟩ := a
    have status : st = r.status := by
      rw [← same, hst]
      exact hstatus
    have parts : (e, id) = (r.eventId, r.seatId) := hk.trans hplace
    cases parts
    rw [status]
    rfl
  rw [← hplace, ha, copy]

/-- Two seats on sale, with their statuses in Redis. -/
def shownStock : ReadStores :=
  ⟨saleStock.shown "e" ["A", "B"] .available, .empty⟩

/-- A seat is being held; its status is not written yet. -/
def holdStarted : List (Label syncService) :=
  .spawn (.write (.holdSeats ⟨"e", ["A"], "u", "s"⟩)) :: List.replicate 8 (.run 0 {})

/-- The seat is released before that, and this is written first. -/
def overtaken : List (Label syncService) :=
  holdStarted ++ .spawn (.write (.releaseSeats "e" ["A"] "u" .userCancel)) ::
    (List.replicate 10 (.run 1 {}) ++ [.run 0 {}])

/-- All calls have returned. -/
def returned (p : Pool syncService) : Bool :=
  p.threads.all fun (_, q) ↦
    match q with
    | .ret (.ok _) => true
    | _ => false

/-- A thread of a pool in which all calls have returned. -/
theorem ended_of_returned {p : Pool syncService} (h : returned p = true) {t : Nat} {j : SyncJob}
    {q : syncService.Program} (ht : p.At t j q) : ∃ a, q = .ret (.ok a) := by
  have known := List.all_eq_true.mp h (j, q) (List.mem_of_getElem? ht)
  cases q with
  | op o k => cases known
  | ret r =>
    cases r with
    | ok a => exact ⟨a, rfl⟩
    | error err => cases known

/-- The status of a seat that is held alone. -/
theorem read_model_converges_held :
    ∃ p, Pool.Reach (inOrder shownStock) (fun s ↦ s = shownStock) p ∧ p.conf.state.Agrees ∧
      p.conf.state.db.availability.find ("e", "A") = some ⟨"e", "A", .held⟩ := by
  have played :
      (Pool.play (inOrder shownStock) (holdStarted ++ [.run 0 {}]) (.start shownStock)).any
      fun p ↦ returned p && decide (p.conf.state.db.availability.find ("e", "A") =
        some ⟨"e", "A", .held⟩) := by
    decide +kernel
  simp only [Option.any_eq_true, Bool.and_eq_true, decide_eq_true_eq] at played
  obtain ⟨p, hp, hr, hf⟩ := played
  have reach : Pool.Reach (inOrder shownStock) (fun s ↦ s = shownStock) p :=
    Pool.reach_of_play rfl hp
  refine ⟨p, reach, read_model_converges (by decide +kernel) reach ?_, hf⟩
  intro t j q ht
  obtain ⟨a, rfl⟩ := ended_of_returned hr ht
  rfl

/-- The status that was written last is not that of the row, although all calls have returned. -/
theorem overtaken_write_diverges :
    ¬ ∀ s₀ : ReadStores, s₀.Agrees → ∀ p,
      Pool.Reach (.free syncService) (fun s ↦ s = s₀) p →
        (∀ t j q, p.At t j q → ∃ a, q = .ret (.ok a)) → p.conf.state.Agrees := by
  intro h
  have played : (Pool.play (.free syncService) overtaken (.start shownStock)).any fun p ↦
      returned p && !decide p.conf.state.Agrees := by
    decide +kernel
  simp only [Option.any_eq_true, Bool.and_eq_true, Bool.not_eq_true', decide_eq_false_iff_not]
    at played
  obtain ⟨p, hp, hr, hn⟩ := played
  exact hn (h shownStock (by decide +kernel) p (Pool.reach_of_play rfl hp)
    fun t j q ht ↦ ended_of_returned hr ht)

end Ticketing.SeatInventory
