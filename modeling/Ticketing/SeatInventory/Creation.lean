import Ticketing.Async.Triples
import Ticketing.SeatInventory.Store

/-!
# Creating the inventory of an event

Library `SeatInventory`. Follows `inventory/inventory.consumer.ts` and
`InventoryService.createFromEvent`. Saving new rows is one transaction; the unique index on
(eventId, seatId) lets it fail as a whole.
-/

namespace Ticketing.SeatInventory

open Async Store

/-- `interfaces/event-create-message.interface.ts`, `EventSeat`. -/
structure EventSeat where
  seatId : String
  sectionId : String
  sectionName : String
  ticketTypeId : String
  ticketTypeName : String
  price : Money
  currency : String
  row : String
  number : String
  type : String
  deriving DecidableEq, Repr

/-- `EventCreateMessage`, with what the consumer reads; an absent `eventId` is empty. -/
structure EventCreateMessage where
  eventId : String
  seats : List EventSeat
  deriving DecidableEq, Repr

/-- The statements of `createFromEvent`. -/
inductive CreationOp where
  | count (eventId : String)
  | insert (rows : List Seat)
  deriving DecidableEq, Repr

/-- Their replies. -/
abbrev CreationRes : CreationOp → Type
  | .count _ => Nat
  | .insert _ => Unit

/-- The operations of `createFromEvent`. -/
abbrev creationSig : Sig := ⟨CreationOp, CreationRes, Exception⟩

/-- New seat rows get the next identifiers. -/
def numberedSeats (next : Id) (rows : List Seat) : List Seat :=
  rows.mapIdx fun i r ↦ { r with id := next + i }

/-- The unique index accepts the rows. -/
def Db.Accepts (s : Db) (rows : List Seat) : Prop :=
  (rows.map Seat.place).Nodup ∧ ∀ r ∈ rows, s.seats.find r.place = none

instance (s : Db) (rows : List Seat) : Decidable (s.Accepts rows) :=
  inferInstanceAs (Decidable (_ ∧ _))

/-- The effect of a statement that does not fail for another reason. -/
def performCreation : (o : CreationOp) → Db → creationSig.Answer o × Db
  | .count e, s => (.ok (s.seats.rows.countP fun r ↦ r.eventId = e), s)
  | .insert rows, s =>
    if s.Accepts rows then
      (.ok (), { s with
        seats := s.seats.putAll (numberedSeats s.nextId rows)
        nextId := s.nextId + rows.length })
    else (.error (.failure "duplicate key value violates unique constraint"), s)

/-- The answers of the database when `x` is decided. -/
def creating (x : Nat → CreationOp → Choice) : Handler creationSig Db := fun n o s ↦
  match (x n o).fault with
  | some e => (.error e, s)
  | none => performCreation o s

/-- The inventory entity of a seat. -/
def toInventory (eventId : String) (seat : EventSeat) : Seat where
  id := 0
  eventId := eventId
  seatId := seat.seatId
  sectionId := seat.sectionId
  sectionName := seat.sectionName
  ticketTypeId := seat.ticketTypeId
  ticketTypeName := seat.ticketTypeName
  price := seat.price
  currency := seat.currency
  row := seat.row
  seatNumber := seat.number
  seatType := seat.type
  status := .available

/-- `InventoryService.createFromEvent` (`inventory.service.ts:19–51`). -/
def createFromEvent (payload : EventCreateMessage) : Code creationSig Unit Unit := do
  let existing ← (Code.await (S := creationSig) (.count payload.eventId))
  if existing > 0 then pure ()
  else
    let entities := payload.seats.map (toInventory payload.eventId)
    Code.await (S := creationSig) (.insert entities)

/-- What Kafka hands to the consumer: an object that may have a `value`, or may itself be the
message. -/
structure Payload where
  value : Option EventCreateMessage
  self : Option EventCreateMessage
  deriving DecidableEq, Repr

/-- `InventoryConsumer.handleEventCreate` (`inventory.consumer.ts:12–23`). -/
def handleEventCreate (payload : Payload) : Code creationSig Unit Unit :=
  match payload.value <|> payload.self with
  | none => pure ()
  | some message => if message.eventId = "" then pure () else createFromEvent message

/-! ### What a call leaves -/

/-- The rows of an event. -/
def Db.eventSeats (s : Db) (eventId : String) : List Seat :=
  s.seats.rows.filter fun r ↦ r.eventId = eventId

/-- The new rows of a message. -/
def EventCreateMessage.rows (payload : EventCreateMessage) : List Seat :=
  payload.seats.map (toInventory payload.eventId)

/-- The stores after the rows of a message were inserted. -/
def Db.created (s : Db) (payload : EventCreateMessage) : Db :=
  { s with
    seats := s.seats.putAll (numberedSeats s.nextId payload.rows)
    nextId := s.nextId + payload.rows.length }

/-- Numbering rows keeps their places. -/
theorem numberedSeats_places (n : Id) (rows : List Seat) :
    (numberedSeats n rows).map Seat.place = rows.map Seat.place := by
  apply List.ext_getElem
  · simp [numberedSeats]
  · intro i hi hj
    simp [numberedSeats, Seat.place]

/-- A numbered row is a row with an identifier. -/
theorem mem_numberedSeats {n : Id} {rows : List Seat} {r : Seat} (h : r ∈ numberedSeats n rows) :
    ∃ r₀ ∈ rows, r = { r₀ with id := r.id } := by
  obtain ⟨i, hi, rfl⟩ := List.mem_mapIdx.mp h
  exact ⟨rows[i], List.getElem_mem hi, rfl⟩

/-- Creating accepted rows appends them with new identifiers. -/
theorem rows_created {s : Db} {payload : EventCreateMessage} (h : s.Accepts payload.rows) :
    (s.created payload).seats.rows =
      s.seats.rows ++ numberedSeats s.nextId payload.rows := by
  apply Table.rows_putAll_of_fresh
  · rw [numberedSeats_places]
    exact h.1
  · intro r hr
    obtain ⟨r₀, hr₀, he⟩ := mem_numberedSeats hr
    have place : r.place = r₀.place := by rw [he]; rfl
    rw [place]
    exact h.2 r₀ hr₀

/-- `createFromEvent` leaves an event that has rows alone, and otherwise inserts all rows of the
message or none. -/
theorem createFromEvent_leaves (x : Nat → CreationOp → Choice) (payload : EventCreateMessage)
    (s₀ : Db) :
    Code.Leaves (creating x) (fun _ s ↦ s = s₀) (createFromEvent payload)
      (fun _ _ s ↦ (s₀.eventSeats payload.eventId ≠ [] ∧ s = s₀) ∨
        (s₀.eventSeats payload.eventId = [] ∧ s₀.Accepts payload.rows ∧ s = s₀.created payload))
      fun _ _ s ↦ s = s₀ ∧ ((∃ n o, (x n o).fault ≠ none) ∨
        (s₀.eventSeats payload.eventId = [] ∧ ¬ s₀.Accepts payload.rows)) := by
  have count : (s₀.seats.rows.countP fun r ↦ r.eventId = payload.eventId) =
      (s₀.eventSeats payload.eventId).length := List.countP_eq_length_filter
  apply Code.Leaves.bind (Q := fun r _ s ↦
    s = s₀ ∧ r = (s₀.eventSeats payload.eventId).length)
  · apply Code.Leaves.await
    · rintro n l s r s' rfl hr
      unfold creating at hr
      split at hr
      · cases hr
      · cases hr
        exact ⟨rfl, count⟩
    · rintro n l s err s' rfl hr
      unfold creating at hr
      split at hr
      · next hf =>
        cases hr
        exact ⟨rfl, .inl ⟨n, _, by rw [hf]; exact nofun⟩⟩
      · cases hr
  · intro existing
    apply Code.Leaves.assume
    rintro rfl
    by_cases he : (s₀.eventSeats payload.eventId).length > 0
    · rw [if_pos he]
      exact Code.Leaves.ret _ fun _ _ h ↦ .inl ⟨List.length_pos_iff.mp he, h⟩
    · have empty : s₀.eventSeats payload.eventId = [] := by
        simpa using he
      rw [if_neg he]
      apply Code.Leaves.await
      · rintro n l s r s' rfl hr
        unfold creating at hr
        split at hr
        · cases hr
        · simp only [performCreation] at hr
          split at hr
          · next ha =>
            cases hr
            exact .inr ⟨empty, ha, rfl⟩
          · cases hr
      · rintro n l s err s' rfl hr
        unfold creating at hr
        split at hr
        · next hf =>
          cases hr
          exact ⟨rfl, .inl ⟨n, _, by rw [hf]; exact nofun⟩⟩
        · simp only [performCreation] at hr
          split at hr
          · cases hr
          · next ha =>
            cases hr
            exact ⟨rfl, .inr ⟨empty, ha⟩⟩

/-- The event of one seat. -/
def oneSeat : EventCreateMessage :=
  ⟨"e", [⟨"A", "main", "Main", "std", "Standard", 10000, "TRY", "A", "1", "standard"⟩]⟩

end Ticketing.SeatInventory
