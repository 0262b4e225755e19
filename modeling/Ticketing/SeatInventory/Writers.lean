import Ticketing.SeatInventory.Alone

/-!
# What the writers of seat rows leave

Library `SeatInventory`. `releaseSeats`, `markAsSold` and `relaseSoldSeats` select inventory
rows by the seat list, holds by the user and locks by their owner. Each call, running alone,
leaves the rows it found, or those rows with the new status.
-/

namespace Ticketing.SeatInventory

open Async Store

/-- The rows that `findBySeatIds` finds. -/
def Db.listed (s : Db) (eventId : String) (seatIds : List String) : List Seat :=
  s.seats.rows.filter fun r ↦ r.eventId = eventId && seatIds.contains r.seatId

/-- The unreleased holds of a user. -/
def Db.holdsOf (s : Db) (eventId userId : String) : List SeatHold :=
  s.holds.rows.filter fun h ↦ h.eventId = eventId && h.userId = userId && h.releasedAt.isNone

/-- A listed row gets a status. -/
def Seat.marked (eventId : String) (seatIds : List String) (status : SeatStatus) (r : Seat) :
    Seat :=
  if r.eventId = eventId ∧ r.seatId ∈ seatIds then { r with status := status } else r

/-- An unreleased hold of the user for a listed seat is released. -/
def SeatHold.freed (eventId : String) (seatIds : List String) (userId : String) (now : Nat)
    (reason : SeatLockReleaseReason) (h : SeatHold) : SeatHold :=
  if h.eventId = eventId ∧ h.userId = userId ∧ h.releasedAt = none ∧ h.seatId ∈ seatIds then
    { h with releasedAt := some now, releaseReason := some reason }
  else h

/-- The seat table after the listed rows were saved with a status. -/
def Db.marked (s : Db) (eventId : String) (seatIds : List String) (status : SeatStatus) : Db :=
  { s with seats :=
      s.seats.putAll ((s.listed eventId seatIds).map fun inv ↦ { inv with status := status }) }

/-- The stores after the commit of `releaseSeats` or `markAsSold`. -/
def Db.handed (s : Db) (eventId : String) (seatIds : List String) (userId : String)
    (status : SeatStatus) (now : Nat) (reason : SeatLockReleaseReason) : Db :=
  { s.marked eventId seatIds status with
    holds := s.holds.putAll (releaseHolds seatIds now reason (s.holdsOf eventId userId)) }

/-- The stores after the status of some seats was written to the read model. -/
def Db.shown (s : Db) (eventId : String) (seatIds : List String) (status : SeatStatus) : Db :=
  { s with availability :=
      s.availability.putAll (seatIds.map fun seatId ↦ ⟨eventId, seatId, status⟩) }

/-- Marking a row keeps its place. -/
@[simp] theorem Seat.marked_place (e : String) (ids : List String) (st : SeatStatus) (r : Seat) :
    (r.marked e ids st).place = r.place := by
  unfold marked
  split <;> rfl

/-- Marking a row keeps its event. -/
@[simp] theorem Seat.marked_eventId (e : String) (ids : List String) (st : SeatStatus) (r : Seat) :
    (r.marked e ids st).eventId = r.eventId :=
  congrArg Prod.fst (r.marked_place e ids st)

/-- Releasing keeps the identifier. -/
@[simp] theorem SeatHold.freed_id (e : String) (ids : List String) (u : String) (now : Nat)
    (reason : SeatLockReleaseReason) (h : SeatHold) : (h.freed e ids u now reason).id = h.id := by
  unfold freed
  split <;> rfl

variable {s : Db} {e : String} {ids : List String} {u : String} {st : SeatStatus} {now : Nat}
  {reason : SeatLockReleaseReason}

/-- Updating the listed rows that differ saves all of them. -/
theorem putAll_listed (s : Db) (e : String) (ids : List String) (st : SeatStatus) :
    s.seats.putAll (s.seats.changed ((s.listed e ids).map fun inv ↦ { inv with status := st })) =
      (s.marked e ids st).seats := by
  apply Table.putAll_changed
  rw [List.map_map]
  exact s.seats.nodup.sublist (List.filter_sublist.map Seat.place)

/-- Updating the holds of a user that differ saves all of them. -/
theorem putAll_holdsOf (s : Db) (e : String) (ids : List String) (u : String) (now : Nat)
    (reason : SeatLockReleaseReason) :
    s.holds.putAll (s.holds.changed (releaseHolds ids now reason (s.holdsOf e u))) =
      s.holds.putAll (releaseHolds ids now reason (s.holdsOf e u)) := by
  have keys : (releaseHolds ids now reason (s.holdsOf e u)).map SeatHold.id =
      (s.holdsOf e u).map SeatHold.id := by
    unfold releaseHolds
    rw [List.map_map]
    apply List.map_congr_left
    intro h _
    dsimp only [Function.comp]
    split <;> rfl
  apply Table.putAll_changed
  rw [keys]
  exact s.holds.nodup.sublist (List.filter_sublist.map SeatHold.id)

/-- The rows after the listed ones were saved. -/
theorem rows_marked : (s.marked e ids st).seats.rows = s.seats.rows.map (Seat.marked e ids st) := by
  have rows := Table.rows_putAll_filter s.seats
    (fun r ↦ r.eventId = e && ids.contains r.seatId) (fun r ↦ { r with status := st }) fun _ ↦ rfl
  refine rows.trans ?_
  apply List.map_congr_left
  intro r _
  simp [Seat.marked]

/-- What the status hash finds after an update of listed seats. -/
theorem find_shown (s : Db) (e : String) (ids : List String) (st : SeatStatus)
    (place : String × String) :
    (s.shown e ids st).availability.find place =
      if place.1 = e ∧ place.2 ∈ ids then some ⟨e, place.2, st⟩
      else s.availability.find place := by
  unfold Db.shown
  split
  · next hp =>
    have same : (⟨e, place.2, st⟩ : SeatAvailability).place = place := Prod.ext hp.1.symm rfl
    rw [← same]
    apply Table.find_putAll_of_mem
    · exact List.mem_map_of_mem hp.2
    · intro a ha hk
      obtain ⟨seatId, -, rfl⟩ := List.mem_map.mp ha
      have listed : seatId = place.2 := congrArg Prod.snd hk
      rw [listed]
  · next hp =>
    apply Table.find_putAll_of_ne
    intro a ha hk
    obtain ⟨seatId, hid, rfl⟩ := List.mem_map.mp ha
    apply hp
    rw [← hk]
    exact ⟨rfl, hid⟩

/-- The row of a seat after the listed ones were saved. -/
theorem find_marked (place : String × String) :
    (s.marked e ids st).seats.find place = (s.seats.find place).map (Seat.marked e ids st) := by
  unfold Table.find
  rw [rows_marked, List.find?_map]
  congr 2
  funext r
  simp

/-- Handing seats back or over frees the user's holds of them. -/
theorem holds_handed : (s.handed e ids u st now reason).holds.rows =
    s.holds.rows.map (SeatHold.freed e ids u now reason) := by
  have rows := Table.rows_putAll_filter s.holds
    (fun h ↦ h.eventId = e && h.userId = u && h.releasedAt.isNone)
    (fun h ↦ if ids.contains h.seatId then
      { h with releasedAt := some now, releaseReason := some reason } else h)
    fun h ↦ by split <;> rfl
  refine rows.trans ?_
  apply List.map_congr_left
  intro h _
  unfold SeatHold.freed
  by_cases hm : ids.contains h.seatId = true
  · simp_all [and_assoc]
  · simp_all

/-! ### One call -/

/-- A key of the list whose lock is the user's. -/
def Db.Owns (s : Db) (e : String) (ids : List String) (u : String) (key : String) : Prop :=
  key ∈ ids.map (lockKey e) ∧ ∃ lock, s.locks.find key = some lock ∧ lock.userId = u

/-- None of the keys is locked by the user. -/
def Db.Free (s : Db) (keys : List String) (u : String) : Prop :=
  ∀ key ∈ keys, ∀ lock, s.locks.find key = some lock → lock.userId ≠ u

/-- Locks that expire at some time. -/
def Gone (gone : Nat → List String) (key : String) : Prop := ∃ n, key ∈ gone n

/-- A lock that is lost during a call: it expired, or the call has deleted it as the user's. -/
def Db.Losable (s : Db) (gone : Nat → List String) (e : String) (ids : List String) (u : String)
    (key : String) : Prop :=
  Gone gone key ∨ s.Owns e ids u key

variable {L : Type} {x : Nat → Op → Choice} {gone : Nat → List String} {s₀ : Db}

/-- `releaseSeats` of the lock service has gone through `done`; the entity is left alone. -/
def Releasing (gone : Nat → List String) (e : String) (ids : List String) (u : String) (s₀ : Db)
    (l₀ : L) (done : List String) (l : L) (s : Db) : Prop :=
  l = l₀ ∧ Lost (s₀.Losable gone e ids u) s₀ s ∧ s.Free (done.map (lockKey e)) u

/-- Expiring locks keep a release under way. -/
theorem Releasing.expired {l₀ l : L} {done : List String} {s : Db}
    (h : Releasing gone e ids u s₀ l₀ done l s) (n : Nat) :
    Releasing gone e ids u s₀ l₀ done l (s.expired (gone n)) := by
  refine ⟨h.1, h.2.1.expired fun key hk ↦ .inl ⟨n, hk⟩, ?_⟩
  intro key hk lock hl
  rw [Db.find_expired] at hl
  split at hl
  · cases hl
  · exact h.2.2 key hk lock hl

/-- A release is done with one more seat when the user has no lock of it. -/
theorem Releasing.snoc {l₀ l : L} {done : List String} {seatId : String} {s : Db}
    (h : Releasing gone e ids u s₀ l₀ done l s)
    (hn : ∀ lock, s.locks.find (lockKey e seatId) = some lock → lock.userId ≠ u) :
    Releasing gone e ids u s₀ l₀ (done ++ [seatId]) l s := by
  refine ⟨h.1, h.2.1, ?_⟩
  intro key hk
  rw [List.map_append, List.mem_append] at hk
  rcases hk with hk | hk
  · exact h.2.2 key hk
  · rw [List.map_singleton, List.mem_singleton] at hk
    exact hk ▸ hn

/-- The user's lock of a seat is deleted. -/
theorem Releasing.erase {l₀ l : L} {done : List String} {seatId : String} {s : Db}
    (h : Releasing gone e ids u s₀ l₀ done l s) (ho : s₀.Owns e ids u (lockKey e seatId)) :
    Releasing gone e ids u s₀ l₀ (done ++ [seatId]) l
      { s with locks := s.locks.erase (lockKey e seatId) } := by
  have erased : Releasing gone e ids u s₀ l₀ done l
      { s with locks := s.locks.erase (lockKey e seatId) } := by
    refine ⟨h.1, h.2.1.erase (.inr ho), ?_⟩
    intro key hk lock hl
    have hl : (s.locks.erase (lockKey e seatId)).find key = some lock := hl
    rw [Table.find_erase] at hl
    split at hl
    · cases hl
    · exact h.2.2 key hk lock hl
  apply erased.snoc
  intro lock hl
  have hl : (s.locks.erase (lockKey e seatId)).find (lockKey e seatId) = some lock := hl
  rw [Table.find_erase, if_pos rfl] at hl
  cases hl

/-- `releaseSeats` of the lock service deletes the user's locks of the listed seats. -/
theorem releaseLocks_leaves_lost (l₀ : L) (done rest : List String) (released : Nat)
    (hi : ids = done ++ rest) :
    Code.Leaves (expiring x gone) (Releasing gone e ids u s₀ l₀ done)
      (releaseLocks e u rest released) (fun _ ↦ Releasing gone e ids u s₀ l₀ ids)
      fun _ l s ↦ Faulty x ∧ l = l₀ ∧ Lost (s₀.Losable gone e ids u) s₀ s := by
  induction rest generalizing done released with
  | nil =>
    rw [List.append_nil] at hi
    subst hi
    exact Code.Leaves.ret _ fun _ _ h ↦ h
  | cons seatId rest ih =>
    have next := fun released ↦ ih (done ++ [seatId]) released (by simpa using hi)
    apply Code.Leaves.bind (Q := fun r l s ↦
      Releasing gone e ids u s₀ l₀ done l s ∧ s.locks.find (lockKey e seatId) = r)
    · apply await_expiring
      · exact fun n _ _ h ↦ h.expired n
      · intro c l s r h hr
        cases hr
        exact ⟨h, rfl⟩
      · exact fun _ _ _ _ hx h ↦ ⟨hx, h.1, h.2.1⟩
    · intro r
      cases r with
      | none =>
        apply Code.Leaves.pre (next released)
        rintro l s ⟨h, hn⟩
        apply h.snoc
        intro lock hl
        rw [hn] at hl
        cases hl
      | some lock =>
        by_cases hu : lock.userId = u
        · simp only [hu, if_true]
          apply Code.Leaves.bind (Q := fun _ ↦ Releasing gone e ids u s₀ l₀ (done ++ [seatId]))
          · apply Code.Leaves.pre (P := fun l s ↦ Releasing gone e ids u s₀ l₀ done l s ∧
              s₀.Owns e ids u (lockKey e seatId))
            · apply await_expiring
              · exact fun n _ _ h ↦ ⟨h.1.expired n, h.2⟩
              · exact fun c l s r h _ ↦ h.1.erase h.2
              · exact fun _ _ _ _ hx h ↦ ⟨hx, h.1.1, h.1.2.1⟩
            · rintro l s ⟨h, hl⟩
              have listed : lockKey e seatId ∈ ids.map (lockKey e) :=
                List.mem_map_of_mem (by simp [hi])
              exact ⟨h, listed, lock, h.2.1.find hl, hu⟩
          · exact fun _ ↦ next _
        · simp only [hu, if_false]
          apply Code.Leaves.pre (next released)
          rintro l s ⟨h, hn⟩
          apply h.snoc
          intro lock' hl
          rw [hn] at hl
          cases hl
          exact hu

/-- What a writer leaves that throws: an operation failed, and the rows are as before, or they
are changed and only some locks are deleted. -/
structure HalfHanded (x : Nat → Op → Choice) (gone : Nat → List String) (e : String)
    (ids : List String) (u : String) (st : SeatStatus) (reason : SeatLockReleaseReason)
    (s₀ s : Db) : Prop where
  faulty : Faulty x
  left : Lost (Gone gone) s₀ s ∨
    ∃ now, Lost (s₀.Losable gone e ids u) (s₀.handed e ids u st now reason) s

/-- What a writer leaves that returns. -/
def Handed (gone : Nat → List String) (e : String) (ids : List String) (u : String)
    (st : SeatStatus) (reason : SeatLockReleaseReason) (s₀ s : Db) : Prop :=
  (∃ now, Lost (s₀.Losable gone e ids u) ((s₀.handed e ids u st now reason).shown e ids st) s) ∧
    s.Free (ids.map (lockKey e)) u

/-- Writing the status of the seats to the read model. -/
theorem perform_hset (c : Choice) (s : Db) :
    perform c (.hset e (ids.map fun seatId ↦ (seatId, st))) s = (.ok (), s.shown e ids st) := by
  simp [perform, Db.shown, Function.comp_def]

/-- Writing the read model keeps what locks are lost. -/
theorem Lost.shown {s s' : Db} {gone : String → Prop} (h : Lost gone s s') :
    Lost gone (s.shown e ids st) (s'.shown e ids st) := by
  refine ⟨?_, h.locks⟩
  obtain ⟨rest, -⟩ := h
  rw [rest]
  rfl

/-- The transaction is open and nothing happened, but that locks expired. -/
def Begun (gone : Nat → List String) (s₀ : Db) (active : Bool) (s : Db) : Prop :=
  active = true ∧ Lost (Gone gone) s₀ s

/-- An operation failed; the transaction is open, or it was committed. -/
def Interrupted (x : Nat → Op → Choice) (gone : Nat → List String) (e : String)
    (ids : List String) (u : String) (st : SeatStatus) (reason : SeatLockReleaseReason) (s₀ : Db)
    (active : Bool) (s : Db) : Prop :=
  Faulty x ∧ if active then Lost (Gone gone) s₀ s
    else ∃ now, Lost (s₀.Losable gone e ids u) (s₀.handed e ids u st now reason) s

/-- Reading in the open transaction. -/
theorem await_begun (o : Op) (F : Res o → Prop) (keeps : ∀ c s, (perform c o s).2 = s)
    (hr : ∀ c s r, s.seats = s₀.seats → s.holds = s₀.holds → (perform c o s).1 = .ok r → F r) :
    Code.Leaves (expiring x gone) (Begun gone s₀) (await o)
      (fun r active s ↦ Begun gone s₀ active s ∧ F r)
      fun _ ↦ Interrupted x gone e ids u st reason s₀ := by
  apply await_expiring
  · exact fun n _ s h ↦ ⟨h.1, h.2.expired fun key hk ↦ ⟨n, hk⟩⟩
  · intro c active s r h hanswer
    rw [keeps]
    refine ⟨h, hr c s r ?_ ?_ hanswer⟩
    · rw [h.2.rest]
    · rw [h.2.rest]
  · intro err active s _ hx h
    exact ⟨hx, by rw [if_pos h.1]; exact h.2⟩

/-- A `save()` in the open transaction. -/
theorem await_save (w : Write) :
    Code.Leaves (expiring x gone) (Begun gone s₀) (await (.statement w))
      (fun updated active s ↦ Begun gone s₀ active s ∧ updated = s₀.changes w)
      fun _ ↦ Interrupted x gone e ids u st reason s₀ := by
  apply await_begun (.statement w) (fun updated ↦ updated = s₀.changes w) fun _ _ ↦ rfl
  intro c s updated hs hh hr
  cases hr
  unfold Db.changes
  rw [hs, hh]

/-- The commit, the locks and the read model. -/
theorem finish_leaves {writes : List Write}
    (hw : ∀ s : Db, Lost (Gone gone) s₀ s →
      Lost (Gone gone) (s₀.handed e ids u st now reason) (writes.foldl Db.write s)) :
    Code.Leaves (expiring x gone) (Begun gone s₀)
      (do
        commitTransaction writes
        let _ ← releaseLocks e u ids 0
        await (.hset e (ids.map fun seatId ↦ (seatId, st))))
      (fun _ _ s ↦ Handed gone e ids u st reason s₀ s)
      fun _ ↦ Interrupted x gone e ids u st reason s₀ := by
  let committed := s₀.handed e ids u st now reason
  have early : ∀ key, Gone gone key → committed.Losable gone e ids u key := fun _ h ↦ .inl h
  apply Code.Leaves.bind (Q := fun _ active s ↦ active = false ∧ Lost (Gone gone) committed s)
  · apply Code.Leaves.bind (Q := fun _ _ s ↦ Lost (Gone gone) committed s)
    · apply await_expiring
      · exact fun n _ s h ↦ ⟨h.1, h.2.expired fun key hk ↦ ⟨n, hk⟩⟩
      · exact fun c active s r h _ ↦ hw s h.2
      · exact fun err active s _ hx h ↦ ⟨hx, by rw [if_pos h.1]; exact h.2⟩
    · exact fun _ ↦ Code.Leaves.assign _ fun _ _ h ↦ ⟨rfl, h⟩
  intro _
  apply Code.Leaves.bind (Q := fun _ ↦ Releasing gone e ids u committed false ids)
  · apply Code.Leaves.post (Code.Leaves.pre (releaseLocks_leaves_lost false [] ids 0 rfl)
      fun active s h ↦ ⟨h.1, h.2.mono early, nofun⟩) (fun _ _ _ h ↦ h)
    rintro err active s ⟨hx, rfl, h⟩
    exact ⟨hx, now, h⟩
  · intro _
    apply await_expiring
    · exact fun n _ _ h ↦ h.expired n
    · rintro c active s r ⟨-, h, hf⟩ _
      rw [perform_hset]
      exact ⟨⟨now, h.shown⟩, hf⟩
    · rintro err active s _ hx ⟨rfl, h, -⟩
      exact ⟨hx, now, h⟩

/-- Updating the listed rows and the released holds. -/
theorem Lost.handed {s : Db} {gone : String → Prop} (h : Lost gone s₀ s) :
    Lost gone (s₀.handed e ids u st now reason)
      ([s₀.changes (.seats ((s₀.listed e ids).map fun inv ↦ { inv with status := st })),
        s₀.changes (.holds (releaseHolds ids now reason (s₀.holdsOf e u)))].foldl Db.write s) := by
  refine ⟨?_, h.locks⟩
  obtain ⟨rest, -⟩ := h
  rw [rest]
  unfold Db.handed
  rw [← putAll_listed, ← putAll_holdsOf]
  rfl

/-- The commit may also save the holds before the seats. -/
theorem Lost.handed' {s : Db} {gone : String → Prop} (h : Lost gone s₀ s) :
    Lost gone (s₀.handed e ids u st now reason)
      ([s₀.changes (.holds (releaseHolds ids now reason (s₀.holdsOf e u))),
        s₀.changes (.seats ((s₀.listed e ids).map fun inv ↦ { inv with status := st }))].foldl
          Db.write s) :=
  h.handed

/-- A transaction that is begun after connecting, with its `catch` block. -/
theorem transaction_leaves {c : Code sig Bool Unit}
    (hc : Code.Leaves (expiring x gone) (Begun gone s₀) c
      (fun _ _ ↦ Handed gone e ids u st reason s₀)
      fun _ ↦ Interrupted x gone e ids u st reason s₀) :
    Code.Leaves (expiring x gone) (fun (_ : Unit) s ↦ Lost (Gone gone) s₀ s)
      (do
        await .connect
        Code.on true <| tryCatch c fun error ↦ do
          rollbackTransaction
          throw error)
      (fun _ _ ↦ Handed gone e ids u st reason s₀)
      fun _ _ ↦ HalfHanded x gone e ids u st reason s₀ := by
  apply Code.Leaves.bind (Q := fun _ _ s ↦ Lost (Gone gone) s₀ s)
  · apply await_expiring
    · exact fun n _ _ h ↦ h.expired fun key hk ↦ ⟨n, hk⟩
    · exact fun _ _ _ _ h _ ↦ h
    · exact fun _ _ _ _ hx h ↦ ⟨hx, .inl h⟩
  intro _
  apply Code.Leaves.pre (Code.Leaves.on (m := true) (P := Begun gone s₀)
    (Q := fun _ ↦ Handed gone e ids u st reason s₀)
    (E := fun _ ↦ HalfHanded x gone e ids u st reason s₀) ?_) fun _ _ h ↦ ⟨rfl, h⟩
  apply Code.Leaves.tryCatch hc
  intro error
  apply Code.Leaves.bind (Q := fun _ _ s ↦ HalfHanded x gone e ids u st reason s₀ s)
  · apply Code.Leaves.bind (Q := fun r active s ↦ r = active ∧
      Interrupted x gone e ids u st reason s₀ active s)
    · exact Code.Leaves.entity fun _ _ h ↦ ⟨rfl, h⟩
    · intro active
      cases active with
      | true =>
        apply await_expiring
        · rintro n l s ⟨rfl, hx, h⟩
          exact ⟨rfl, hx, h.expired fun key hk ↦ ⟨n, hk⟩⟩
        · rintro c l s r ⟨rfl, hx, h⟩ _
          exact ⟨hx, .inl h⟩
        · rintro err l s _ _ ⟨rfl, hx, h⟩
          exact ⟨hx, .inl h⟩
      | false =>
        refine Code.Leaves.raise _ ?_
        rintro l s ⟨rfl, hx, h⟩
        exact ⟨hx, .inr h⟩
  · exact fun _ ↦ Code.Leaves.raise _ fun _ _ h ↦ h

/-- `releaseSeats` returns with the seats handed back, or throws as described. -/
theorem releaseSeats_leaves (x : Nat → Op → Choice) (gone : Nat → List String) (e : String)
    (ids : List String) (u : String) (reason : SeatLockReleaseReason) (s₀ : Db) :
    Code.Leaves (expiring x gone) (fun _ s ↦ Lost (Gone gone) s₀ s) (releaseSeats e ids u reason)
      (fun _ _ ↦ Handed gone e ids u .available reason s₀)
      fun _ _ ↦ HalfHanded x gone e ids u .available reason s₀ := by
  apply transaction_leaves
  unfold releaseTransaction
  apply Code.Leaves.bind
  · apply await_begun (.findHolds e u) (fun r ↦ r = s₀.holdsOf e u) fun _ _ ↦ rfl
    intro c s r _ hh hr
    cases hr
    rw [hh]
    rfl
  intro holds
  apply Code.Leaves.assume
  rintro rfl
  apply Code.Leaves.bind
  · exact await_begun .now (fun _ ↦ True) (fun _ _ ↦ rfl) fun _ _ _ _ _ _ ↦ trivial
  intro now
  apply Code.Leaves.assume
  intro _
  apply Code.Leaves.bind (await_save _)
  intro updated
  apply Code.Leaves.assume
  rintro rfl
  apply Code.Leaves.bind
  · apply await_begun (.findBySeatIds e ids) (fun r ↦ r = s₀.listed e ids) fun _ _ ↦ rfl
    intro c s r hs _ hr
    cases hr
    rw [hs]
    rfl
  intro inventories
  apply Code.Leaves.assume
  rintro rfl
  apply Code.Leaves.bind (await_save _)
  intro updated
  apply Code.Leaves.assume
  rintro rfl
  exact finish_leaves fun _ h ↦ h.handed'

/-- `markAsSold` returns with the seats handed over, or throws as described. -/
theorem markAsSold_leaves (x : Nat → Op → Choice) (gone : Nat → List String) (e : String)
    (ids : List String) (u : String) (s₀ : Db) :
    Code.Leaves (expiring x gone) (fun _ s ↦ Lost (Gone gone) s₀ s) (markAsSold e ids u)
      (fun _ _ ↦ Handed gone e ids u .sold .paymentSuccess s₀)
      fun _ _ ↦ HalfHanded x gone e ids u .sold .paymentSuccess s₀ := by
  apply transaction_leaves
  unfold soldTransaction
  apply Code.Leaves.bind
  · apply await_begun (.findBySeatIds e ids) (fun r ↦ r = s₀.listed e ids) fun _ _ ↦ rfl
    intro c s r hs _ hr
    cases hr
    rw [hs]
    rfl
  intro inventories
  apply Code.Leaves.assume
  rintro rfl
  apply Code.Leaves.bind (await_save _)
  intro updated
  apply Code.Leaves.assume
  rintro rfl
  apply Code.Leaves.bind
  · apply await_begun (.findHolds e u) (fun r ↦ r = s₀.holdsOf e u) fun _ _ ↦ rfl
    intro c s r _ hh hr
    cases hr
    rw [hh]
    rfl
  intro holds
  apply Code.Leaves.assume
  rintro rfl
  apply Code.Leaves.bind
  · exact await_begun .now (fun _ ↦ True) (fun _ _ ↦ rfl) fun _ _ _ _ _ _ ↦ trivial
  intro now
  apply Code.Leaves.assume
  intro _
  apply Code.Leaves.bind (await_save _)
  intro updated
  apply Code.Leaves.assume
  rintro rfl
  exact finish_leaves fun _ h ↦ h.handed

/-- `relaseSoldSeats` returns with the seats on sale again, or throws as described. -/
theorem relaseSoldSeats_leaves (x : Nat → Op → Choice) (gone : Nat → List String) (e : String)
    (ids : List String) (s₀ : Db) :
    Code.Leaves (expiring x gone) (fun _ s ↦ Lost (Gone gone) s₀ s) (relaseSoldSeats e ids)
      (fun _ _ ↦ Lost (Gone gone) ((s₀.marked e ids .available).shown e ids .available))
      fun _ _ s ↦ Faulty x ∧
        (Lost (Gone gone) s₀ s ∨ Lost (Gone gone) (s₀.marked e ids .available) s) := by
  unfold relaseSoldSeats
  apply Code.Leaves.bind (Q := fun r _ s ↦ Lost (Gone gone) s₀ s ∧ r = s₀.listed e ids)
  · apply await_expiring
    · exact fun n _ _ h ↦ h.expired fun key hk ↦ ⟨n, hk⟩
    · intro c l s r h hr
      cases hr
      refine ⟨h, ?_⟩
      rw [h.rest]
      rfl
    · exact fun _ _ _ _ hx h ↦ ⟨hx, .inl h⟩
  intro inventories
  apply Code.Leaves.assume
  rintro rfl
  apply Code.Leaves.bind (Q := fun _ _ ↦ Lost (Gone gone) (s₀.marked e ids .available))
  · apply await_expiring
    · exact fun n _ _ h ↦ h.expired fun key hk ↦ ⟨n, hk⟩
    · intro c l s r h _
      refine ⟨?_, h.locks⟩
      obtain ⟨rest, -⟩ := h
      rw [rest]
      exact congrArg (fun seats ↦ ({ s₀ with seats, locks := s.locks } : Db))
        (putAll_listed s₀ e ids .available)
    · exact fun _ _ _ _ hx h ↦ ⟨hx, .inl h⟩
  intro _
  apply await_expiring
  · exact fun n _ _ h ↦ h.expired fun key hk ↦ ⟨n, hk⟩
  · intro c l s r h _
    rw [perform_hset]
    exact h.shown
  · exact fun _ _ _ _ hx h ↦ ⟨hx, .inr h⟩

/-- A writer that returns has deleted the user's locks. -/
theorem Handed.deleted {s : Db} {key : String} (h : Handed gone e ids u st reason s₀ s)
    (ho : s₀.Owns e ids u key) : s.locks.find key = none := by
  obtain ⟨⟨now, hl⟩, hf⟩ := h
  obtain ⟨hk, lock, hlock, hu⟩ := ho
  rw [Option.eq_none_iff_forall_ne_some]
  intro lock' hl'
  have same : s₀.locks.find key = some lock' := hl.find hl'
  rw [hlock] at same
  cases same
  exact hf key hk lock hl' hu

/-- Where no lock expires, only the user's locks are deleted. -/
theorem Lost.kept {s s' : Db} {key : String} (h : Lost (s₀.Losable (fun _ ↦ []) e ids u) s s')
    (ho : ¬ s₀.Owns e ids u key) : s'.locks.find key = s.locks.find key := by
  apply h.eq
  rintro (⟨n, hn⟩ | h)
  · cases hn
  · exact ho h

/-- Where no lock expires, a call that has not changed anything has kept the locks. -/
theorem Lost.unchanged {s : Db} (h : Lost (Gone fun _ ↦ []) s₀ s) : Unchanged s₀ s := by
  refine ⟨by rw [h.rest], by rw [h.rest], fun key ↦ h.eq ?_⟩
  rintro ⟨n, hn⟩
  cases hn

/-- The rows are rewritten, and of the locks only the user's may be deleted. -/
structure Rewritten (e : String) (ids : List String) (u : String) (st : SeatStatus) (now : Nat)
    (reason : SeatLockReleaseReason) (s₀ s : Db) : Prop where
  seats : s.seats = (s₀.handed e ids u st now reason).seats
  holds : s.holds = (s₀.handed e ids u st now reason).holds
  locks : ∀ key, ¬ s₀.Owns e ids u key → s.locks.find key = s₀.locks.find key

/-- A writer that returns has rewritten the rows. -/
theorem Handed.rewritten {s : Db} (h : Handed (fun _ ↦ []) e ids u st reason s₀ s) :
    ∃ now, Rewritten e ids u st now reason s₀ s := by
  obtain ⟨⟨now, h⟩, -⟩ := h
  refine ⟨now, ?_, ?_, fun key ho ↦ (Lost.kept h ho :)⟩
  · rw [h.rest]
    rfl
  · rw [h.rest]
    rfl

/-- A writer that throws has changed nothing, or rewritten the rows. -/
theorem HalfHanded.cases {s : Db} (h : HalfHanded x (fun _ ↦ []) e ids u st reason s₀ s) :
    Unchanged s₀ s ∨ ∃ now, Rewritten e ids u st now reason s₀ s := by
  rcases h.left with h | ⟨now, h⟩
  · exact .inl h.unchanged
  · refine .inr ⟨now, ?_, ?_, fun key ho ↦ (Lost.kept h ho :)⟩
    · rw [h.rest]
    · rw [h.rest]

end Ticketing.SeatInventory
