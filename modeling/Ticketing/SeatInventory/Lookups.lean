import Ticketing.Async.Monitor
import Ticketing.SeatInventory.Service

/-!
# Stored seats were looked up

Library `SeatInventory`. A thread stores only rows of the seats that its last `findBySeatIds`
found, so the places of the seats never change. A release of sold seats stores all of them as
available, unless its lookup or its save fails.
-/

namespace Ticketing.SeatInventory

open Async Store

/-- The seats that a thread has looked up or stored. -/
inductive Looked where
  | nothing
  | found (rows : List Seat)
  | stored
  | failed
  deriving DecidableEq

/-- A row on sale. -/
def Seat.freed (seat : Seat) : Seat := { seat with status := .available }

namespace Looked

/-- What an operation tells about seats. -/
def next : Looked → (o : Op) → sig.Answer o → Looked
  | _, .findBySeatIds _ _, .ok rows => .found rows
  | _, .findBySeatIds _ _, .error _ => .failed
  | _, .saveSeats _, .ok _ => .stored
  | _, .saveSeats _, .error _ => .failed
  | looked, _, _ => looked

/-- Only seats that were found are stored; a release of sold seats looks up its own seats and
stores them as available. -/
def may (job : Job) (looked : Looked) : Op → Prop
  | .findBySeatIds e ids =>
    ∀ i e' ids', job = .serve i (.releaseSoldSeats e' ids') → e = e' ∧ ids = ids'
  | .saveSeats rows => ∃ found, looked = .found found ∧ rows = found.map Seat.freed
  | .commit writes =>
    ∃ found, looked = .found found ∧
      ∀ row ∈ Op.storedSeats (.commit writes) (.ok ()), ∃ seat ∈ found, row.place = seat.place
  | _ => True

end Looked

/-- What each thread has looked up. -/
def lookups : Monitor service Looked where
  init := .nothing
  next := Looked.next
  may := Looked.may

/-- The job releases sold seats. -/
def Job.releasesSold : Job → Bool
  | .serve _ (.releaseSoldSeats _ _) => true
  | _ => false

/-- A release of sold seats ends when it has stored them, or failed. -/
def Released (job : Job) (_ : Except Exception Reply) (looked : Looked) : Prop :=
  ∀ i e ids, job = .serve i (.releaseSoldSeats e ids) → looked = .stored ∨ looked = .failed

variable {j : Job} {L : Type}

/-- Operations that neither look up seats nor store them. -/
def Op.aside : Op → Bool
  | .findBySeatIds _ _ | .saveSeats _ | .commit _ => false
  | _ => true

/-- Operations of other kinds are quiet. -/
theorem quiet_of_aside {o : Op} (h : o.aside = true) : lookups.Quiet j o := by
  intro s
  constructor
  · cases o <;> trivial
  · intro r
    cases o <;> first | rfl | cases h

/-! ### Locks -/

/-- Commands on lock keys, and the clock. -/
def Op.onLocks : Op → Bool
  | .now | .setNx _ | .get _ | .del _ => true
  | _ => false

/-- An operation on the locks leaves the seats aside. -/
theorem Op.aside_of_onLocks {o : Op} (h : o.onLocks = true) : o.aside = true := by
  cases o <;> first | rfl | cases h

section
variable {P : Op → Prop} (hP : ∀ o, o.onLocks = true → P o)
include hP

/-- Giving back locks awaits commands on lock keys. -/
theorem unlockEach_awaits (keys : List String) : (unlockEach keys : Code sig L Unit).Awaits P := by
  induction keys with
  | nil => exact Code.Awaits.ret _
  | cons key rest ih =>
    unfold unlockEach
    apply Code.Awaits.bind (Code.Awaits.await (hP _ rfl))
    exact fun _ ↦ ih

/-- Setting locks awaits commands on lock keys. -/
theorem lockSeats_awaits (e : String) (ids : List String) (u n : String) :
    (lockSeats e ids u n).Awaits P := by
  have each : ∀ ids keys failed, (lockEach e u n ids keys failed).Awaits P := by
    intro ids
    induction ids with
    | nil => exact fun _ _ ↦ Code.Awaits.ret _
    | cons id rest ih =>
      intro keys failed
      unfold lockEach
      apply Code.Awaits.bind (Code.Awaits.await (hP _ rfl))
      intro now
      apply Code.Awaits.bind (Code.Awaits.await (hP _ rfl))
      intro locked
      split
      · exact ih _ _
      · exact ih _ _
  unfold lockSeats
  apply Code.Awaits.bind (each ids [] [])
  rintro ⟨keys, failed⟩
  dsimp only
  split
  · exact Code.Awaits.ret _
  · apply Code.Awaits.bind (unlockEach_awaits hP keys)
    exact fun _ ↦ Code.Awaits.ret _

/-- Releasing locks awaits commands on lock keys. -/
theorem releaseLocks_awaits (e u : String) (ids : List String) (n : Nat) :
    (releaseLocks e u ids n : Code sig L Nat).Awaits P := by
  induction ids generalizing n with
  | nil => exact Code.Awaits.ret _
  | cons id rest ih =>
    unfold releaseLocks
    apply Code.Awaits.bind (Code.Awaits.await (hP _ rfl))
    intro found
    cases found with
    | none => exact ih n
    | some lock =>
      dsimp only
      split
      · apply Code.Awaits.bind (Code.Awaits.await (hP _ rfl))
        exact fun _ ↦ ih _
      · exact ih n

end

/-- Commands on lock keys are quiet. -/
theorem quiet_onLocks (o : Op) (h : o.onLocks = true) : lookups.Quiet j o :=
  quiet_of_aside (Op.aside_of_onLocks h)

private theorem verifyHold_awaits (e u : String) (ids : List String) :
    (grpcVerifyHold e u ids).Awaits (lookups.Quiet j) := by
  induction ids with
  | nil => exact Code.Awaits.ret _
  | cons id rest ih =>
    unfold grpcVerifyHold
    apply Code.Awaits.bind (Code.Awaits.await (quiet_of_aside rfl))
    intro found
    cases found with
    | none => exact Code.Awaits.ret _
    | some lock =>
      dsimp only
      split
      · exact ih
      · exact Code.Awaits.ret _

/-! ### Transactions -/

/-- Nothing is said about what was looked up. -/
abbrev Any (_ : Looked) : Prop := True

private theorem quiet_holds {o : Op} (h : o.aside = true) {I : L → Looked → Prop} :
    lookups.Keeps j I (await o : Code sig L (Res o)) :=
  Monitor.Holds.quiet (quiet_of_aside h)

private theorem find_reads (hj : j.releasesSold = false) (e : String)
    (ids : List String) :
    lookups.Holds j (fun (_ : L) ↦ Any) (await (.findBySeatIds e ids) : Code sig L (List Seat))
      (fun rows _ looked ↦ looked = .found rows) (fun _ _ ↦ Any) := by
  apply Monitor.Holds.await
  · rintro _ _ _ i e' ids' rfl
    cases hj
  · exact fun _ _ _ _ _ ↦ rfl
  · exact fun _ _ _ _ _ ↦ trivial

private theorem commit_keeps {found : List Seat} {writes : List Write} {st : SeatStatus}
    (h : (writes.flatMap Write.seatRows).Sublist
      (found.map fun seat ↦ { seat with status := st })) :
    lookups.Holds j (fun _ looked ↦ looked = .found found) (commitTransaction writes)
      (fun _ _ ↦ Any) (fun _ _ ↦ Any) := by
  unfold commitTransaction
  apply Monitor.Holds.bind (I := fun _ _ ↦ Any)
  · apply Monitor.Holds.await
    · rintro _ _ rfl
      refine ⟨found, rfl, fun row hrow ↦ ?_⟩
      obtain ⟨seat, hseat, rfl⟩ := List.mem_map.mp (h.subset hrow)
      exact ⟨seat, hseat, rfl⟩
    · exact fun _ _ _ _ _ ↦ trivial
    · exact fun _ _ _ _ _ ↦ trivial
  exact fun _ ↦ Monitor.Holds.assign _ fun _ _ _ ↦ trivial

private theorem rollback_holds : lookups.Keeps j (fun _ ↦ Any) rollbackTransaction := by
  unfold rollbackTransaction
  apply Monitor.Holds.skip
  intro opened
  split
  · exact quiet_holds rfl
  · exact Monitor.Holds.raise _ fun _ _ h ↦ h

/-- Hold entities are built without awaiting anything. -/
theorem newHolds_awaits {P : Op → Prop} (e u n : String) (expiresAt : Nat)
    (found : List Seat) (ids : List String) :
    (newHolds e u n expiresAt found ids : Code sig L (List SeatHold)).Awaits P := by
  induction ids with
  | nil => exact Code.Awaits.ret _
  | cons id rest ih =>
    unfold newHolds
    split
    · exact Code.Awaits.raise _
    · apply Code.Awaits.bind ih
      exact fun _ ↦ Code.Awaits.ret _

private theorem pass_holds {α : Type} {c : Code sig Bool α} {looked : Looked}
    (h : c.Awaits (lookups.Quiet j)) :
    lookups.Holds j (fun _ s ↦ s = looked) c (fun _ _ s ↦ s = looked) (fun _ _ ↦ Any) := by
  apply (Monitor.Holds.quietly h).post
  · exact fun _ _ _ h ↦ h
  · exact fun _ _ _ _ ↦ trivial

/-- A `save()` in a transaction updates some of its rows. -/
theorem seatRows_of_gives {w w' : Write} (h : service.Gives (.statement w) (.ok w')) :
    w'.seatRows.Sublist w.seatRows := by
  obtain ⟨x, s, h⟩ := h
  change (exec x (.statement w) s).1 = .ok w' at h
  rcases exec_cases x (.statement w) s with ⟨-, e, he⟩ | he
  · rw [he] at h
    cases h
  · rw [he] at h
    cases h
    exact s.seatRows_changes w

private theorem saves_looked {w : Write} {looked : Looked} :
    lookups.Holds j (fun (_ : Bool) s ↦ s = looked) (await (.statement w))
      (fun w' _ s ↦ w'.seatRows.Sublist w.seatRows ∧ s = looked) (fun _ _ ↦ Any) := by
  apply (Monitor.Holds.gives (quiet_of_aside rfl)).post
  · exact fun _ _ _ h ↦ ⟨seatRows_of_gives h.1, h.2⟩
  · exact fun _ _ _ _ ↦ trivial

private theorem pass_await {o : Op} (h : o.aside = true) :
    (await o : Code sig L (Res o)).Awaits (lookups.Quiet j) :=
  Code.Awaits.await (quiet_of_aside h)

private theorem rest_holds {α : Type} {c : Code sig Bool α} (h : c.Awaits (lookups.Quiet j)) :
    lookups.Keeps j (fun _ ↦ Any) c := Monitor.Holds.quietly h

private theorem holdTransaction_keeps (hj : j.releasesSold = false)
    (e : String) (ids : List String) (u n : String) :
    lookups.Keeps j (fun _ ↦ Any) (holdTransaction e ids u n) := by
  unfold holdTransaction
  apply Monitor.Holds.bind (find_reads hj e ids)
  intro found
  dsimp only
  split
  · exact Monitor.Holds.raise _ fun _ _ _ ↦ trivial
  · apply Monitor.Holds.bind saves_looked
    intro updated
    apply Monitor.Holds.assume
    intro fewer
    apply Monitor.Holds.bind (pass_holds (pass_await rfl))
    intro now
    apply Monitor.Holds.bind (pass_holds (newHolds_awaits _ _ _ _ _ _))
    intro holds
    apply Monitor.Holds.bind (pass_holds (pass_await rfl))
    intro saved
    apply Monitor.Holds.bind (commit_keeps (by simpa using fewer))
    intro _
    apply Monitor.Holds.bind (rest_holds (pass_await rfl))
    exact fun _ ↦ Monitor.Holds.ret _ fun _ _ _ ↦ trivial

private theorem releaseTransaction_holds
    (hj : j.releasesSold = false) (e : String) (ids : List String)
    (u : String) (reason : SeatLockReleaseReason) :
    lookups.Keeps j (fun _ ↦ Any) (releaseTransaction e ids u reason) := by
  unfold releaseTransaction
  apply Monitor.Holds.bind (rest_holds (pass_await rfl))
  intro holds
  apply Monitor.Holds.bind (rest_holds (pass_await rfl))
  intro now
  apply Monitor.Holds.bind (Monitor.Holds.gives (quiet_of_aside rfl))
  intro updatedHolds
  apply Monitor.Holds.assume
  intro given
  have none : updatedHolds.seatRows = [] := List.sublist_nil.mp (seatRows_of_gives given)
  apply Monitor.Holds.bind (find_reads hj e ids)
  intro found
  apply Monitor.Holds.bind saves_looked
  intro updated
  apply Monitor.Holds.assume
  intro fewer
  apply Monitor.Holds.bind (commit_keeps (by simpa [none] using fewer))
  intro _
  apply Monitor.Holds.bind (rest_holds (releaseLocks_awaits quiet_onLocks _ _ _ _))
  intro _
  exact rest_holds (pass_await rfl)

private theorem soldTransaction_holds (hj : j.releasesSold = false)
    (e : String) (ids : List String) (u : String) :
    lookups.Keeps j (fun _ ↦ Any) (soldTransaction e ids u) := by
  unfold soldTransaction
  apply Monitor.Holds.bind (find_reads hj e ids)
  intro found
  apply Monitor.Holds.bind saves_looked
  intro updated
  apply Monitor.Holds.assume
  intro fewer
  apply Monitor.Holds.bind (pass_holds (pass_await rfl))
  intro holds
  apply Monitor.Holds.bind (pass_holds (pass_await rfl))
  intro now
  apply Monitor.Holds.bind saves_looked
  intro updatedHolds
  apply Monitor.Holds.assume
  intro noSeats
  have none : updatedHolds.seatRows = [] := List.sublist_nil.mp noSeats
  apply Monitor.Holds.bind (commit_keeps (by simpa [none] using fewer))
  intro _
  apply Monitor.Holds.bind (rest_holds (releaseLocks_awaits quiet_onLocks _ _ _ _))
  intro _
  exact rest_holds (pass_await rfl)

private theorem transaction_holds {α : Type} {c : Code sig Bool α}
    {undo : Exception → Code sig Bool α} (hc : lookups.Keeps j (fun _ ↦ Any) c)
    (hu : ∀ error, lookups.Keeps j (fun _ ↦ Any) (undo error)) :
    lookups.Keeps j (fun (_ : L) ↦ Any)
      (do
        await .connect
        Code.on true (tryCatch c undo) : Code sig L α) := by
  apply Monitor.Holds.bind (quiet_holds rfl)
  intro _
  apply Monitor.Holds.on
  intro _
  apply Monitor.Holds.pre (P := fun _ ↦ Any) _ fun _ _ _ ↦ trivial
  exact Monitor.Holds.tryCatch hc hu

private theorem holdSeats_keeps (hj : j.releasesSold = false)
    (e : String) (ids : List String) (u n : String) :
    lookups.Keeps j (fun _ ↦ Any) (holdSeats e ids u n) := by
  unfold holdSeats
  apply Monitor.Holds.bind (Monitor.Holds.quietly (lockSeats_awaits quiet_onLocks e ids u n))
  intro failed
  split
  · exact Monitor.Holds.raise _ fun _ _ h ↦ h
  · apply transaction_holds (holdTransaction_keeps hj e ids u n)
    intro error
    apply Monitor.Holds.bind rollback_holds
    intro _
    apply Monitor.Holds.bind (rest_holds (releaseLocks_awaits quiet_onLocks _ _ _ _))
    exact fun _ ↦ Monitor.Holds.raise _ fun _ _ h ↦ h

private theorem releaseSeats_holds (hj : j.releasesSold = false)
    (e : String) (ids : List String) (u : String) (reason : SeatLockReleaseReason) :
    lookups.Keeps j (fun _ ↦ Any) (releaseSeats e ids u reason) := by
  apply transaction_holds (releaseTransaction_holds hj e ids u reason)
  intro error
  apply Monitor.Holds.bind rollback_holds
  exact fun _ ↦ Monitor.Holds.raise _ fun _ _ h ↦ h

private theorem markAsSold_holds (hj : j.releasesSold = false)
    (e : String) (ids : List String) (u : String) :
    lookups.Keeps j (fun _ ↦ Any) (markAsSold e ids u) := by
  apply transaction_holds (soldTransaction_holds hj e ids u)
  intro error
  apply Monitor.Holds.bind rollback_holds
  exact fun _ ↦ Monitor.Holds.raise _ fun _ _ h ↦ h

private theorem processExpiredHolds_holds
    (hj : j.releasesSold = false) :
    lookups.Keeps j (fun _ ↦ Any) processExpiredHolds := by
  have groups : ∀ groups, lookups.Keeps j (fun _ ↦ Any) (releaseGroups groups) := by
    intro groups
    induction groups with
    | nil => exact Monitor.Holds.ret _ fun _ _ h ↦ h
    | cons group rest ih =>
      obtain ⟨key, holds⟩ := group
      unfold releaseGroups
      cases holds with
      | nil => exact ih
      | cons hold others =>
        apply Monitor.Holds.bind
        · apply Monitor.Holds.tryCatch (releaseSeats_holds hj _ _ _ _)
          exact fun _ ↦ Monitor.Holds.ret _ fun _ _ h ↦ h
        · exact fun _ ↦ ih
  unfold processExpiredHolds
  apply Monitor.Holds.bind (quiet_holds rfl)
  intro entered
  split
  · apply Monitor.Holds.bind
    · apply Monitor.Holds.tryCatch (F := fun _ _ ↦ Any)
      · unfold releaseExpired
        apply Monitor.Holds.bind (quiet_holds rfl)
        intro now
        apply Monitor.Holds.bind (quiet_holds rfl)
        exact fun holds ↦ groups _
      · intro error
        apply Monitor.Holds.bind (quiet_holds rfl)
        exact fun _ ↦ Monitor.Holds.raise _ fun _ _ h ↦ h
    · exact fun _ ↦ quiet_holds rfl
  · exact Monitor.Holds.ret _ fun _ _ h ↦ h

/-! ### `relaseSoldSeats` -/

/-- The seats were stored, or the release has failed. -/
abbrev Settled (looked : Looked) : Prop := looked = .stored ∨ looked = .failed

private theorem relaseSoldSeats_holds {i : Option Id} (e : String) (ids : List String) :
    lookups.Holds (.serve i (.releaseSoldSeats e ids)) (fun (_ : Unit) ↦ Any)
      (relaseSoldSeats e ids) (fun _ _ ↦ Settled) (fun _ _ ↦ Settled) := by
  unfold relaseSoldSeats
  apply Monitor.Holds.bind (I := fun rows _ looked ↦ looked = .found rows)
  · apply Monitor.Holds.await
    · intro _ _ _ i' e' ids' h
      cases h
      exact ⟨rfl, rfl⟩
    · exact fun _ _ _ _ _ ↦ rfl
    · exact fun _ _ _ _ _ ↦ .inr rfl
  intro rows
  apply Monitor.Holds.bind (I := fun _ _ ↦ Settled)
  · apply Monitor.Holds.await
    · rintro _ _ rfl
      exact ⟨rows, rfl, rfl⟩
    · exact fun _ _ _ _ _ ↦ .inl rfl
    · exact fun _ _ _ _ _ ↦ .inr rfl
  exact fun _ ↦ quiet_holds rfl

/-! ### Jobs -/

/-- Every job stores only seats that it looked up. -/
theorem job_obeys (j : Job) : lookups.Obeys j (service.code j) (Released j) .nothing := by
  have other : j.releasesSold = false →
      ∀ {c : Code sig Unit Reply}, lookups.Keeps j (fun _ ↦ Any) c →
      lookups.Holds j (fun _ ↦ Any) c (fun a _ ↦ Released j (.ok a))
        (fun e _ ↦ Released j (.error e)) := by
    intro hj c hc
    apply hc.post
    · rintro _ _ _ _ i e ids rfl
      cases hj
    · rintro _ _ _ _ i e ids rfl
      cases hj
  have returned : ∀ {α : Type} {c : Code sig Unit α}, lookups.Keeps j (fun _ ↦ Any) c →
      lookups.Keeps j (fun _ ↦ Any) (do let _ ← c; pure .done : Code sig Unit Reply) := by
    intro α c hc
    apply Monitor.Holds.bind hc
    exact fun _ ↦ Monitor.Holds.ret _ fun _ _ h ↦ h
  have success : ∀ {c : Code sig Unit Unit}, lookups.Keeps j (fun _ ↦ Any) c →
      lookups.Keeps j (fun _ ↦ Any) (answerSuccess c) := by
    intro c hc
    apply Monitor.Holds.tryCatch (F := fun _ _ ↦ Any)
    · apply Monitor.Holds.bind hc
      exact fun _ ↦ Monitor.Holds.ret _ fun _ _ h ↦ h
    · exact fun _ ↦ Monitor.Holds.ret _ fun _ _ h ↦ h
  suffices h : lookups.Holds j (fun (_ : Unit) ↦ Any) j.run (fun a _ ↦ Released j (.ok a))
      (fun e _ ↦ Released j (.error e)) from
    Monitor.obeys_prog.mpr (h () .nothing trivial)
  cases j with
  | holdSeats e ids u n => exact other rfl (returned (holdSeats_keeps rfl e ids u n))
  | releaseSeats e ids u => exact other rfl (returned (releaseSeats_holds rfl e ids u _))
  | processExpiredHolds => exact other rfl (returned (processExpiredHolds_holds rfl))
  | expireLock e id => exact other rfl (returned (quiet_holds rfl))
  | serve i r =>
    cases r with
    | releaseSoldSeats e ids =>
      apply Monitor.Holds.tryCatch (F := fun _ _ ↦ Settled)
      · apply Monitor.Holds.bind (relaseSoldSeats_holds e ids)
        exact fun _ ↦ Monitor.Holds.ret _ fun _ _ h _ _ _ _ ↦ h
      · exact fun _ ↦ Monitor.Holds.ret _ fun _ _ h _ _ _ _ ↦ h
    | getSeatsByEvent e =>
      apply other rfl
      apply Monitor.Holds.bind (quiet_holds rfl)
      exact fun _ ↦ Monitor.Holds.ret _ fun _ _ h ↦ h
    | verifyHold e ids u =>
      apply other rfl
      exact Monitor.Holds.quietly (verifyHold_awaits e u ids)
    | releaseSeats e ids u reason =>
      exact other rfl (success (releaseSeats_holds rfl e ids u reason))
    | markSeatsAsSold e ids u => exact other rfl (success (markAsSold_holds rfl e ids u))
    | _ => exact other rfl (Monitor.Holds.raise _ fun _ _ h ↦ h)

/-! ### Runs -/

/-- Places that are stored stay stored. -/
theorem place_kept {x : Choice} {o : Op} {s : Db} {seat : Seat} (h : seat ∈ s.seats.rows) :
    ∃ seat' ∈ (exec x o s).2.seats.rows, seat'.place = seat.place := by
  have writes : ∀ (ws : List Write) (s : Db) seat, seat ∈ s.seats.rows →
      ∃ seat' ∈ (ws.foldl Db.write s).seats.rows, seat'.place = seat.place := by
    intro ws
    induction ws with
    | nil => exact fun s seat h ↦ ⟨seat, h, rfl⟩
    | cons w ws ih =>
      intro s seat h
      cases w with
      | seats rows =>
        obtain ⟨seat₁, h₁, hp₁⟩ : ∃ seat₁ ∈ (s.seats.putAll rows).rows, seat₁.place = seat.place :=
          Table.key_mem_putAll h
        obtain ⟨seat₂, h₂, hp₂⟩ := ih (s.write (.seats rows)) seat₁ h₁
        exact ⟨seat₂, h₂, hp₂.trans hp₁⟩
      | holds rows => exact ih (s.write (.holds rows)) seat h
  rcases exec_cases x o s with ⟨-, e, he⟩ | he
  · rw [he]
    exact ⟨seat, h, rfl⟩
  · rw [he]
    cases o with
    | saveSeats rows => exact Table.key_mem_putAll h
    | commit ws => exact writes ws s seat h
    | setNx l =>
      simp only [perform]
      split <;> exact ⟨seat, h, rfl⟩
    | _ => exact ⟨seat, h, rfl⟩

/-- What an allowed operation stores was found before. -/
theorem found_of_stored {job : Job} {looked : Looked} {o : Op} (hm : looked.may job o)
    {x : Choice} {s : Db} {seat : Seat} (h : seat ∈ o.storedSeats (exec x o s).1) :
    ∃ found, looked = .found found ∧ ∃ old ∈ found, seat.place = old.place := by
  rcases exec_cases x o s with ⟨-, e, he⟩ | he
  · rw [he] at h
    cases o <;> cases h
  · rw [he] at h
    cases o with
    | saveSeats rows =>
      obtain ⟨found, hf, rfl⟩ := hm
      obtain ⟨old, hold, rfl⟩ := List.mem_map.mp (List.mem_filter.mp h).1
      exact ⟨found, hf, old, hold, rfl⟩
    | commit writes =>
      obtain ⟨found, hf, hplaces⟩ := hm
      exact ⟨found, hf, hplaces seat h⟩
    | _ => cases h

/-- What a thread has looked up after a history. -/
abbrev looked (t : Nat) (log : List (Event service)) : Looked := lookups.state t log

/-- What was looked up is stored, and a release of sold seats has found all of its seats. -/
structure Found (p : Pool service) : Prop where
  places : ∀ t found, looked t p.conf.log = .found found →
    ∀ row ∈ found, ∃ seat ∈ p.conf.state.seats.rows, seat.place = row.place
  covers : ∀ t i e ids q found, p.At t (.serve i (.releaseSoldSeats e ids)) q →
    looked t p.conf.log = .found found → ∀ seat ∈ p.conf.state.seats.rows, seat.eventId = e →
    seat.seatId ∈ ids → ∃ row ∈ found, row.place = seat.place
  within : ∀ t i e ids q found, p.At t (.serve i (.releaseSoldSeats e ids)) q →
    looked t p.conf.log = .found found → ∀ row ∈ found, row.eventId = e ∧ row.seatId ∈ ids

namespace Found

variable {p : Pool service} {t : Nat} {x : Choice} {o : Op} {k : sig.Answer o → service.Program}

/-- No operation stores a seat at a new place. -/
theorem place_old (h : Found p) (hm : (looked t p.conf.log).may j o) {seat : Seat}
    (hs : seat ∈ (p.conf.after t j x o).state.seats.rows) :
    ∃ old ∈ p.conf.state.seats.rows, old.place = seat.place := by
  rcases mem_seats_exec hs with new | old
  · obtain ⟨found, hf, row, hrow, hplace⟩ := found_of_stored hm new
    obtain ⟨old, hold, hp⟩ := h.places t found hf row hrow
    exact ⟨old, hold, hp.trans hplace.symm⟩
  · exact ⟨seat, old, rfl⟩

/-- A thread has looked up what it had before, or the stored seats that it asks for now. -/
theorem found_next {st : Looked} {s : Db} {found : List Seat}
    (h : st.next o (exec x o s).1 = .found found) :
    st = .found found ∨ ∃ e ids, o = .findBySeatIds e ids ∧ (exec x o s).2 = s ∧
      found = s.seats.rows.filter fun row ↦ row.eventId = e && ids.contains row.seatId := by
  rcases exec_cases x o s with ⟨-, e, he⟩ | he
  · rw [he] at h
    cases o <;> first | exact .inl h | cases h
  · rw [he] at h ⊢
    cases o with
    | findBySeatIds e ids =>
      cases h
      exact .inr ⟨e, ids, rfl, rfl, rfl⟩
    | saveSeats rows => cases h
    | _ => exact .inl h

/-- An operation keeps what the calls found stored. -/
theorem advance (h : Found p) (hm : (looked t p.conf.log).may j o)
    (ht : p.At t j (.op o k)) : Found (p.advance t j x o k) := by
  have self : looked t (p.advance t j x o k).conf.log =
      (looked t p.conf.log).next o (exec x o p.conf.state).1 := Monitor.state_self _ _ _ _ _ _
  have other : ∀ {u}, u ≠ t →
      looked u (p.advance t j x o k).conf.log = looked u p.conf.log :=
    fun hu ↦ Monitor.state_other _ (Ne.symm hu)
  constructor
  · intro u found hu row hrow
    have stored : ∃ seat ∈ p.conf.state.seats.rows, seat.place = row.place := by
      by_cases hut : u = t
      · subst hut
        rw [self] at hu
        rcases found_next hu with old | ⟨e, ids, -, -, rfl⟩
        · exact h.places u found old row hrow
        · exact ⟨row, (List.mem_filter.mp hrow).1, rfl⟩
      · rw [other hut] at hu
        exact h.places u found hu row hrow
    obtain ⟨seat, hseat, hp⟩ := stored
    obtain ⟨seat', hseat', hp'⟩ := place_kept (x := x) (o := o) hseat
    exact ⟨seat', hseat', hp'.trans hp⟩
  · intro u i e ids q found hq hu seat hseat he hid
    obtain ⟨old, hold, hp⟩ := h.place_old hm hseat
    simp only [Seat.place, Prod.mk.injEq] at hp
    rw [← hp.1] at he
    rw [← hp.2] at hid
    have found_old : ∃ row ∈ found, row.place = old.place := by
      rcases (Pool.at_advance ht).mp hq with ⟨rfl, hj, -⟩ | ⟨hne, hq⟩
      · subst hj
        rw [self] at hu
        rcases found_next hu with before | ⟨e', ids', rfl, -, rfl⟩
        · exact h.covers u i e ids _ found ht before old hold he hid
        · obtain ⟨rfl, rfl⟩ := hm i e ids rfl
          refine ⟨old, List.mem_filter.mpr ⟨hold, ?_⟩, rfl⟩
          simp [he, hid]
      · rw [other hne] at hu
        exact h.covers u i e ids q found hq hu old hold he hid
    obtain ⟨row, hrow, hplace⟩ := found_old
    exact ⟨row, hrow, hplace.trans (by simp only [Seat.place, hp])⟩
  · intro u i e ids q found hq hu row hrow
    rcases (Pool.at_advance ht).mp hq with ⟨rfl, hj, -⟩ | ⟨hne, hq⟩
    · subst hj
      rw [self] at hu
      rcases found_next hu with before | ⟨e', ids', rfl, -, rfl⟩
      · exact h.within u i e ids _ found ht before row hrow
      · obtain ⟨rfl, rfl⟩ := hm i e ids rfl
        simpa using (List.mem_filter.mp hrow).2
    · rw [other hne] at hu
      exact h.within u i e ids q found hq hu row hrow

end Found

/-- In every run stored seats were looked up. -/
theorem found_of_reach {G : Regime service} {init : Db → Prop} {p : Pool service}
    (hp : Pool.Reach G init p) : Found p := by
  induction hp with
  | start hs =>
    constructor
    · intro t found h
      cases h
    · intro t i e ids q found hq
      cases hq
    · intro t i e ids q found hq
      cases hq
  | @spawn p j hp hx ih =>
    have fresh : looked p.threads.length p.conf.log = .nothing :=
      (Monitor.watches_of_reach job_obeys hp).threads _ (Nat.le_refl _)
    have old : ∀ {t i q found}, (p.spawn j).At t i q → looked t p.conf.log = .found found →
        p.At t i q := by
      intro t i q found hq h
      rcases Pool.at_spawn.mp hq with old | ⟨rfl, -, -⟩
      · exact old
      · rw [fresh] at h
        cases h
    constructor
    · exact ih.places
    · exact fun t i e ids q found hq h ↦ ih.covers t i e ids q found (old hq h) h
    · exact fun t i e ids q found hq h ↦ ih.within t i e ids q found (old hq h) h
  | run hp ht hm ih => exact ih.advance ((Monitor.watches_of_reach job_obeys hp).may ht) ht

/-- The save of a release of sold seats leaves all of them available. -/
theorem available_after {G : Regime service} {init : Db → Prop} {p : Pool service}
    (hp : Pool.Reach G init p) {t : Nat} {i : Option Id} {e : String} {ids : List String}
    {x : Choice} {rows updated : List Seat} {k : sig.Answer (.saveSeats rows) → service.Program}
    (ht : p.At t (.serve i (.releaseSoldSeats e ids)) (.op (.saveSeats rows) k))
    (ha : p.conf.answer x (.saveSeats rows) = .ok updated) :
    ∀ seat ∈ (p.conf.after t (.serve i (.releaseSoldSeats e ids)) x
        (.saveSeats rows)).state.seats.rows,
      seat.eventId = e → seat.seatId ∈ ids → seat.status = .available := by
  obtain ⟨found, hf, hrows⟩ := (Monitor.watches_of_reach job_obeys hp).may ht
  have stored : (exec x (.saveSeats rows) p.conf.state).2.seats =
      p.conf.state.seats.putAll (p.conf.state.seats.changed rows) := by
    rcases exec_cases x (.saveSeats rows) p.conf.state with ⟨-, error, he⟩ | he
    · have : p.conf.answer x (.saveSeats rows) = .error error := congrArg Prod.fst he
      rw [ha] at this
      cases this
    · rw [he]
      rfl
  intro seat hseat he hid
  have hseat : seat ∈ (exec x (.saveSeats rows) p.conf.state).2.seats.rows := hseat
  rw [stored] at hseat
  rcases Table.mem_putAll_cases hseat with new | ⟨old, hne⟩
  · have new := (List.mem_filter.mp new).1
    rw [hrows] at new
    obtain ⟨row, -, rfl⟩ := List.mem_map.mp new
    rfl
  · -- A seat that is not updated was available already.
    obtain ⟨row, hrow, hplace⟩ :=
      (found_of_reach hp).covers t i e ids _ found ht hf seat old he hid
    have saved : row.freed ∈ rows := hrows ▸ List.mem_map_of_mem hrow
    have same : p.conf.state.seats.find row.freed.place = some row.freed := by
      by_contra differs
      have updates : row.freed ∈ p.conf.state.seats.changed rows :=
        List.mem_filter.mpr ⟨saved, decide_eq_true differs⟩
      exact hne row.freed updates hplace
    have place : row.freed.place = seat.place := hplace
    rw [place, Table.find_of_mem old] at same
    rw [Option.some.inj same]
    rfl

/-- A lookup or a save of seats fails. -/
def Op.failsSeats : (o : Op) → sig.Answer o → Bool
  | .findBySeatIds _ _, .error _ | .saveSeats _, .error _ => true
  | _, _ => false

/-- A save of seats takes effect. -/
def Op.saves : (o : Op) → sig.Answer o → Bool
  | .saveSeats _, .ok _ => true
  | _, _ => false

/-- Only a save of seats makes a thread one that has stored them. -/
theorem Looked.saves_of_stored {st : Looked} {o : Op} {a : sig.Answer o}
    (h : st.next o a = .stored) : st = .stored ∨ o.saves a = true := by
  unfold Looked.next at h
  split at h <;> first | exact .inl h | exact .inr rfl | cases h

/-- A thread that failed has a lookup or a save that failed. -/
theorem fails_of_failed {t : Nat} {log : List (Event service)} (h : looked t log = .failed) :
    ∃ ev ∈ log, ev.tid = t ∧ ev.op.failsSeats ev.answer = true := by
  induction log with
  | nil => cases h
  | cons ev log ih =>
    obtain ⟨u, j, o, a⟩ := ev
    have before : looked t log = .failed → ∃ ev ∈ (⟨u, j, o, a⟩ : Event service) :: log,
        ev.tid = t ∧ ev.op.failsSeats ev.answer = true := by
      intro h
      obtain ⟨ev, hev, ht, hf⟩ := ih h
      exact ⟨ev, List.mem_cons_of_mem _ hev, ht, hf⟩
    by_cases hu : u = t
    · subst hu
      rw [looked, Monitor.state_self] at h
      have fails : lookups.state u log = .failed ∨ o.failsSeats a = true := by
        unfold lookups Looked.next at h
        dsimp only at h
        split at h <;> first | exact .inl h | exact .inr rfl | cases h
      rcases fails with old | new
      · exact before old
      · exact ⟨_, List.mem_cons_self, rfl, new⟩
    · rw [looked, Monitor.state_other _ hu] at h
      exact before h

/-- A release of sold seats that has ended without a failure has stored them. -/
theorem stored_of_ended {G : Regime service} {init : Db → Prop} {p : Pool service}
    (hp : Pool.Reach G init p) {t : Nat} {i : Option Id} {e : String} {ids : List String}
    {r : Except Exception Reply} (ht : p.At t (.serve i (.releaseSoldSeats e ids)) (.ret r))
    (hc : ∀ ev ∈ p.conf.log, ev.tid = t → ev.op.failsSeats ev.answer = false) :
    looked t p.conf.log = .stored := by
  rcases (Monitor.watches_of_reach job_obeys hp).ended ht i e ids rfl with stored | failed
  · exact stored
  · obtain ⟨ev, hev, htid, hf⟩ := fails_of_failed failed
    rw [hc ev hev htid] at hf
    cases hf

end Ticketing.SeatInventory
