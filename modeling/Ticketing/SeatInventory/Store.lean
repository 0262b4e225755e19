import Ticketing.Async.RelyGuarantee
import Ticketing.Base.Messages
import Ticketing.Store.Table

/-!
# Seat inventory database and Redis

Library `SeatInventory`. Rows of `inventory/entities` and `hold/entitites`, the lock keys
and the status hash in Redis, the commands that the service awaits, and their effect. The
unique index on (eventId, seatId) is the key of the seat table. A failing operation has no
effect; the writes of a transaction take effect together at its commit.

`save()` reads its rows back and sends an UPDATE only for those that differ. The service changes
no column but the status of a seat and the release of a hold, so a row that differs is written
whole. Columns that TypeORM sets by itself (`heldAt`, `createdAt`, `updatedAt`) are left out.
-/

namespace Ticketing.SeatInventory

open Async Store

/-- `entities/inventory.entity.ts`. -/
structure Seat where
  id : Id
  eventId : String
  seatId : String
  sectionId : String
  sectionName : String
  ticketTypeId : String
  ticketTypeName : String
  price : Money
  currency : String
  row : String
  seatNumber : String
  seatType : String
  status : SeatStatus
  deriving DecidableEq, Repr

/-- The columns of the unique index. -/
def Seat.place (s : Seat) : String × String := (s.eventId, s.seatId)

/-- `entitites/seat-hold.entity.ts`. -/
structure SeatHold where
  id : Id
  seatInventoryId : Id
  eventId : String
  seatId : String
  userId : String
  sessionId : String
  expiresAt : Nat
  releasedAt : Option Nat
  releaseReason : Option SeatLockReleaseReason
  deriving DecidableEq, Repr

/-- A lock key in Redis with its value. -/
structure SeatLock where
  key : String
  userId : String
  sessionId : String
  lockedAt : Nat
  deriving DecidableEq, Repr

/-- A field of the hash `avail:{eventId}`. -/
structure SeatAvailability where
  eventId : String
  seatId : String
  status : SeatStatus
  deriving DecidableEq, Repr

/-- The hash and field an entry of the read model is stored under. -/
def SeatAvailability.place (a : SeatAvailability) : String × String := (a.eventId, a.seatId)

/-- The stores of the service, and the `isProcessing` flag of its expiry worker. -/
structure Db where
  seats : Table Seat.place
  holds : Table SeatHold.id
  locks : Table SeatLock.key
  availability : Table SeatAvailability.place
  nextId : Id
  isProcessing : Bool
  deriving DecidableEq

/-- The stores before anything ran, with these seats. -/
def Db.stocked (seats : Table Seat.place) : Db := ⟨seats, .empty, .empty, .empty, 0, false⟩

/-- The rows of a `save()`. -/
inductive Write where
  | seats (rows : List Seat)
  | holds (rows : List SeatHold)
  deriving DecidableEq, Repr

/-- The seat rows of a `save()`. -/
def Write.seatRows : Write → List Seat
  | .seats rows => rows
  | .holds _ => []

/-- The hold rows of a `save()`. -/
def Write.holdRows : Write → List SeatHold
  | .seats _ => []
  | .holds rows => rows

/-- A write of seats has its rows. -/
@[simp] theorem Write.seatRows_seats (rows : List Seat) : (Write.seats rows).seatRows = rows := rfl

/-- A write of holds has no seat rows. -/
@[simp] theorem Write.seatRows_holds (rows : List SeatHold) : (Write.holds rows).seatRows = [] :=
  rfl

/-- What a `save()` updates: the rows that differ from those that it reads back. -/
def Db.changes (s : Db) : Write → Write
  | .seats rows => .seats (s.seats.changed rows)
  | .holds rows => .holds (s.holds.changed rows)

/-- A `save()` updates some of its rows. -/
theorem Db.seatRows_changes (s : Db) (w : Write) : (s.changes w).seatRows.Sublist w.seatRows := by
  cases w with
  | seats rows => exact List.filter_sublist
  | holds rows => exact List.Sublist.refl _

/-- The effect of updates at the commit. -/
def Db.write (s : Db) : Write → Db
  | .seats rows => { s with seats := s.seats.putAll rows }
  | .holds rows => { s with holds := s.holds.putAll rows }

/-- What the service awaits. `saveSeats` is a `save()` outside a transaction: it commits what it
updates. `statement` is one inside, and leaves that to the commit. -/
inductive Op where
  | findByEventId (eventId : String)
  | findBySeatIds (eventId : String) (seatIds : List String)
  | saveSeats (rows : List Seat)
  | findHolds (eventId userId : String)
  | findExpiredHolds (now : Nat)
  | connect
  | statement (write : Write)
  | insertHolds (rows : List SeatHold)
  | commit (writes : List Write)
  | rollback
  | setNx (lock : SeatLock)
  | get (key : String)
  | del (key : String)
  | hset (eventId : String) (updates : List (String × SeatStatus))
  | expire (key : String)
  | enter
  | leave
  | now
  deriving DecidableEq, Repr

/-- The replies; those of `save()` are the rows that it updates. -/
abbrev Res : Op → Type
  | .findByEventId _ | .findBySeatIds _ _ | .saveSeats _ => List Seat
  | .findHolds _ _ | .findExpiredHolds _ | .insertHolds _ => List SeatHold
  | .statement _ => Write
  | .setNx _ | .enter => Bool
  | .get _ => Option SeatLock
  | .now => Nat
  | _ => Unit

/-- The operations of the seat inventory. -/
abbrev sig : Sig := ⟨Op, Res, Exception⟩

/-- Await one operation. -/
abbrev await {L : Type} (o : Op) : Code sig L (Res o) := Code.await (S := sig) o

/-- The entity that the code assigns. -/
abbrev entity {L : Type} : Code sig L L := Code.entity

/-- Assign the entity. -/
abbrev assign {L : Type} (f : L → L) : Code sig L Unit := Code.assign f

/-- New rows get the next identifiers. -/
def numbered (next : Id) (rows : List SeatHold) : List SeatHold :=
  rows.mapIdx fun i r ↦ { r with id := next + i }

/-- The effect of an operation that does not fail. -/
def perform (x : Choice) : (o : Op) → Db → sig.Answer o × Db
  | .findByEventId e, s => (.ok (s.seats.rows.filter fun r ↦ r.eventId = e), s)
  | .findBySeatIds e ids, s =>
    (.ok (s.seats.rows.filter fun r ↦ r.eventId = e && ids.contains r.seatId), s)
  | .saveSeats rows, s =>
    (.ok (s.seats.changed rows), { s with seats := s.seats.putAll (s.seats.changed rows) })
  | .findHolds e u, s =>
    (.ok (s.holds.rows.filter fun h ↦ h.eventId = e && h.userId = u && h.releasedAt.isNone), s)
  | .findExpiredHolds now, s =>
    (.ok (s.holds.rows.filter fun h ↦ h.expiresAt < now && h.releasedAt.isNone), s)
  | .connect, s => (.ok (), s)
  | .statement w, s => (.ok (s.changes w), s)
  | .insertHolds rows, s =>
    (.ok (numbered s.nextId rows), { s with nextId := s.nextId + rows.length })
  | .commit writes, s => (.ok (), writes.foldl Db.write s)
  | .rollback, s => (.ok (), s)
  | .setNx l, s =>
    if (s.locks.find l.key).isSome then (.ok false, s)
    else (.ok true, { s with locks := s.locks.put l })
  | .get k, s => (.ok (s.locks.find k), s)
  | .del k, s => (.ok (), { s with locks := s.locks.erase k })
  | .hset e updates, s =>
    (.ok (), { s with availability :=
      s.availability.putAll (updates.map fun u ↦ ⟨e, u.1, u.2⟩) })
  | .expire k, s => (.ok (), { s with locks := s.locks.erase k })
  | .enter, s => (.ok !s.isProcessing, { s with isProcessing := true })
  | .leave, s => (.ok (), { s with isProcessing := false })
  | .now, s => (.ok x.now, s)

/-- The clock, the worker's flag and the expiry of a key cannot fail. A failing `hset` is a pipeline
that is rejected as a whole; `exec()` resolves with the errors of single commands. -/
def Op.fallible : Op → Bool
  | .now | .enter | .leave | .expire _ => false
  | _ => true

/-- One awaited operation: it fails without effect, or has its effect. -/
def exec (x : Choice) : (o : Op) → Db → sig.Answer o × Db :=
  sig.attempt Op.fallible x.fault (perform x)

/-- An operation fails without effect, or has its effect. -/
theorem exec_cases (x : Choice) (o : Op) (s : Db) :
    (o.fallible = true ∧ ∃ e, exec x o s = (.error e, s)) ∨ exec x o s = perform x o s :=
  Sig.attempt_cases (S := sig) o s

/-- The seat rows that an operation stored. -/
def Op.storedSeats : (o : Op) → sig.Answer o → List Seat
  | .saveSeats _, .ok rows => rows
  | .commit writes, .ok _ => writes.flatMap Write.seatRows
  | _, _ => []

/-- A `save()` finds the seat as it is to be stored. -/
def Op.keeps (place : String × String) : (o : Op) → sig.Answer o → Bool
  | .statement (.seats rows), .ok updated =>
    (rows.map Seat.place).contains place && !(updated.seatRows.map Seat.place).contains place
  | .saveSeats rows, .ok updated =>
    (rows.map Seat.place).contains place && !(updated.map Seat.place).contains place
  | _, _ => false

private theorem mem_seats_writes {writes : List Write} {s : Db} {seat : Seat}
    (h : seat ∈ (writes.foldl Db.write s).seats.rows) :
    seat ∈ Op.storedSeats (.commit writes) (.ok ()) ∨ seat ∈ s.seats.rows := by
  induction writes generalizing s with
  | nil => exact .inr h
  | cons w writes ih =>
    rcases ih h with hr | hr
    · exact .inl (List.mem_append_right _ hr)
    · cases w with
      | seats rows =>
        rcases Table.mem_of_mem_putAll hr with hr | hr
        · exact .inl (List.mem_append_left _ hr)
        · exact .inr hr
      | holds rows => exact .inr hr

/-- The seat rows after an operation: those it stored, and those that were there before. -/
theorem mem_seats_exec {x : Choice} {o : Op} {s : Db} {seat : Seat}
    (h : seat ∈ (exec x o s).2.seats.rows) :
    seat ∈ o.storedSeats (exec x o s).1 ∨ seat ∈ s.seats.rows := by
  rcases exec_cases x o s with ⟨-, e, he⟩ | he
  · rw [he] at h
    exact .inr h
  · rw [he] at h ⊢
    cases o with
    | saveSeats rows => exact Table.mem_of_mem_putAll h
    | commit writes => exact mem_seats_writes h
    | setNx l =>
      refine .inr ?_
      simp only [perform] at h
      split at h <;> exact h
    | _ => exact .inr h

/-- The hold rows that an operation stored. -/
def Op.storedHolds : (o : Op) → sig.Answer o → List SeatHold
  | .commit writes, .ok _ => writes.flatMap Write.holdRows
  | _, _ => []

private theorem mem_holds_writes {writes : List Write} {s : Db} {hold : SeatHold}
    (h : hold ∈ (writes.foldl Db.write s).holds.rows) :
    hold ∈ Op.storedHolds (.commit writes) (.ok ()) ∨ hold ∈ s.holds.rows := by
  induction writes generalizing s with
  | nil => exact .inr h
  | cons w writes ih =>
    rcases ih h with hr | hr
    · exact .inl (List.mem_append_right _ hr)
    · cases w with
      | seats rows => exact .inr hr
      | holds rows =>
        rcases Table.mem_of_mem_putAll hr with hr | hr
        · exact .inl (List.mem_append_left _ hr)
        · exact .inr hr

/-- The hold rows after an operation: those it stored, and those that were there before. -/
theorem mem_holds_exec {x : Choice} {o : Op} {s : Db} {hold : SeatHold}
    (h : hold ∈ (exec x o s).2.holds.rows) :
    hold ∈ o.storedHolds (exec x o s).1 ∨ hold ∈ s.holds.rows := by
  rcases exec_cases x o s with ⟨-, e, he⟩ | he
  · rw [he] at h
    exact .inr h
  · rw [he] at h ⊢
    cases o with
    | commit writes => exact mem_holds_writes h
    | setNx l =>
      refine .inr ?_
      simp only [perform] at h
      split at h <;> exact h
    | _ => exact .inr h

end Ticketing.SeatInventory
