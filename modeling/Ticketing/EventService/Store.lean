import Mathlib.Data.Nat.Digits.Defs
import Mathlib.Tactic.IntervalCases
import Ticketing.Async.RelyGuarantee
import Ticketing.SeatInventory.Creation

/-!
# Venues and events

Library `EventService`. Documents of `venue/schemas/venue.schema.ts` and
`event/schema/event.schema.ts`, what the validation of a save requires, and the statements that
the service awaits. Documents get their ObjectIds when they are made; the store numbers them.
-/

namespace Ticketing.EventService

open Async Store

/-- `ObjectId.toString()`: 24 hexadecimal digits. -/
def objectIdText (id : Id) : String :=
  String.ofList (((Nat.digits 16 id).rightpad 24 0).reverse.map Nat.digitChar)

/-- The value of a hexadecimal digit. -/
private def hexValue (c : Char) : Nat :=
  if c.isDigit then c.toNat - 48 else c.toNat - 87

private theorem hexValue_digitChar {n : Nat} (h : n < 16) : hexValue (Nat.digitChar n) = n := by
  interval_cases n <;> rfl

private theorem objectIdDigit_lt {id d : Nat}
    (h : d ∈ (Nat.digits 16 id).rightpad 24 0) : d < 16 := by
  rw [List.rightpad, List.mem_append, List.mem_replicate] at h
  rcases h with h | ⟨-, rfl⟩
  · exact Nat.digits_lt_base (by omega) h
  · omega

/-- Different ObjectIds have different texts. -/
theorem objectIdText_inj {a b : Id} (h : objectIdText a = objectIdText b) : a = b := by
  have back : ∀ id : Id, Nat.ofDigits 16 ((objectIdText id).toList.map hexValue).reverse = id := by
    intro id
    have digits : ((Nat.digits 16 id).rightpad 24 0).map (hexValue ∘ Nat.digitChar) =
        (Nat.digits 16 id).rightpad 24 0 := by
      conv_rhs => rw [← List.map_id ((Nat.digits 16 id).rightpad 24 0)]
      apply List.map_congr_left
      intro d hd
      exact hexValue_digitChar (objectIdDigit_lt hd)
    rw [objectIdText, String.toList_ofList, List.map_map, List.map_reverse, List.reverse_reverse,
      digits, List.rightpad, Nat.ofDigits_append_replicate_zero, Nat.ofDigits_digits]
  rw [← back a, h, back b]

/-- A text of an ObjectId has no underscore. -/
theorem underscore_notMem (id : Id) : '_' ∉ (objectIdText id).toList := by
  rw [objectIdText, String.toList_ofList, List.mem_map]
  rintro ⟨d, hd, he⟩
  have small := objectIdDigit_lt (List.mem_reverse.mp hd)
  interval_cases d <;> cases he

/-- A text of an ObjectId is not empty. -/
theorem objectIdText_ne_empty (id : Id) : objectIdText id ≠ "" := by
  intro h
  have length := congrArg (fun t : String ↦ t.toList.length) h
  simp [objectIdText] at length
  rw [length.2] at length
  simp at length

/-- `venue/enums/seat-type.enum.ts`. -/
inductive SeatType where
  | standard
  | vip
  | wheelchair
  | restrictedView
  deriving DecidableEq, Repr

/-- The values of the enumeration. -/
def SeatType.text : SeatType → String
  | .standard => "standard"
  | .vip => "vip"
  | .wheelchair => "wheelchair"
  | .restrictedView => "restricted_view"

/-- `SeatDefinition`; `CreateSeatDto` has the same fields. -/
structure SeatDefinition where
  number : String
  type : SeatType
  deriving DecidableEq, Repr

/-- `Row`; `CreateRowDto` has the same fields. -/
structure Row where
  label : String
  seats : List SeatDefinition
  deriving DecidableEq, Repr

/-- `Section`. -/
structure Section where
  id : Id
  name : String
  capacity : Nat
  sortOrder : Int
  rows : List Row
  deriving DecidableEq, Repr

/-- `Venue`. -/
structure Venue where
  id : Id
  name : String
  totalCapacity : Nat
  sections : List Section
  deriving DecidableEq, Repr

/-- `TicketType`; the currency is required, so only a rejected document lacks it. -/
structure TicketType where
  id : Id
  sectionId : String
  name : String
  price : Money
  currency : String
  deriving DecidableEq, Repr

/-- `Event`. -/
structure Event where
  id : Id
  organizerId : String
  venueId : String
  title : String
  startsAt : Nat
  ticketTypes : List TicketType
  deriving DecidableEq, Repr

/-- `CreateSectionDto`. -/
structure CreateSectionDto where
  name : String
  capacity : Option Int
  sortOrder : Option Int
  rows : List Row
  deriving DecidableEq, Repr

/-- `CreateVenueDto`. -/
structure CreateVenueDto where
  name : String
  sections : List CreateSectionDto
  deriving DecidableEq, Repr

/-- `CreateTicketTypeDto`. -/
structure CreateTicketTypeDto where
  sectionId : String
  name : String
  price : Money
  currency : Option String
  deriving DecidableEq, Repr

/-- `CreateEventDto`. -/
structure CreateEventDto where
  organizerId : String
  venueId : String
  title : String
  startsAt : Nat
  ticketTypes : List CreateTicketTypeDto
  deriving DecidableEq, Repr

/-- A message on `event.create`, with what the inventory does not read beside its value. -/
structure EventCreated where
  key : String
  value : SeatInventory.EventCreateMessage
  venueId : String
  venueName : String
  title : String
  startsAt : Nat
  deriving DecidableEq, Repr

/-- The documents, and what was emitted, newest message first. -/
structure Db where
  venues : Table Venue.id
  events : Table Event.id
  nextId : Id
  emitted : List EventCreated
  deriving DecidableEq

/-- The database without documents. -/
def Db.empty : Db := ⟨.empty, .empty, 0, []⟩

/-- The document of a new venue: it gets the next ObjectId, its sections those that follow. -/
def Venue.numbered (n : Id) (venue : Venue) : Venue :=
  { venue with
    id := n
    sections := venue.sections.mapIdx fun i s ↦ { s with id := n + 1 + i } }

/-- The document of a new event: it gets the next ObjectId, its ticket types those that follow. -/
def Event.document (n : Id) (dto : CreateEventDto) : Event where
  id := n
  organizerId := dto.organizerId
  venueId := dto.venueId
  title := dto.title
  startsAt := dto.startsAt
  ticketTypes := dto.ticketTypes.mapIdx fun i t ↦
    { id := n + 1 + i, sectionId := t.sectionId, name := t.name, price := t.price,
      currency := t.currency.getD "" }

/-- The texts of a row are not empty. -/
def Row.valid (row : Row) : Bool :=
  row.label != "" && row.seats.all fun seat ↦ seat.number != ""

/-- The validation of `venue.save()`: a required text is not empty. -/
def Venue.valid (venue : Venue) : Bool :=
  venue.name != "" && venue.sections.all fun s ↦ s.name != "" && s.rows.all Row.valid

/-- The validation of `event.save()`. -/
def Event.valid (event : Event) : Bool :=
  event.organizerId != "" && event.venueId != "" && event.title != "" &&
    event.ticketTypes.all fun t ↦ t.sectionId != "" && t.name != "" && t.currency != ""

/-- What the service awaits. -/
inductive Op where
  | saveVenue (venue : Venue)
  | findVenue (id : String)
  | saveEvent (event : CreateEventDto)
  | emit (message : EventCreated)
  deriving DecidableEq, Repr

/-- The replies. -/
abbrev Res : Op → Type
  | .saveVenue _ => Venue
  | .findVenue _ => Option Venue
  | .saveEvent _ => Event
  | .emit _ => Unit

/-- The operations of the event service. -/
abbrev sig : Sig := ⟨Op, Res, Exception⟩

/-- Await one operation. -/
abbrev await {L : Type} (o : Op) : Code sig L (Res o) := Code.await (S := sig) o

/-- The effect of an operation that does not fail for another reason; `cast` is the cast of a text
to an ObjectId. -/
def perform (cast : String → Option Id) : (o : Op) → Db → sig.Answer o × Db
  | .saveVenue v, s =>
    if (v.numbered s.nextId).valid then
      (.ok (v.numbered s.nextId), { s with
        venues := s.venues.put (v.numbered s.nextId)
        nextId := s.nextId + 1 + v.sections.length })
    else (.error (.failure "Venue validation failed"), s)
  | .findVenue text, s =>
    match cast text with
    | none => (.error (.failure "Cast to ObjectId failed"), s)
    | some id => (.ok (s.venues.find id), s)
  | .saveEvent dto, s =>
    if (Event.document s.nextId dto).valid then
      (.ok (Event.document s.nextId dto), { s with
        events := s.events.put (Event.document s.nextId dto)
        nextId := s.nextId + 1 + dto.ticketTypes.length })
    else (.error (.failure "Event validation failed"), s)
  | .emit m, s => (.ok (), { s with emitted := m :: s.emitted })

/-- What a failing operation answers; nobody listens to the failure of an emission. -/
def Op.failing : (o : Op) → Exception → sig.Answer o
  | .emit _, _ => .ok ()
  | .saveVenue _, e | .findVenue _, e | .saveEvent _, e => .error e

/-- One awaited operation: it fails without effect, or has its effect. -/
def exec (cast : String → Option Id) (x : Choice) (o : Op) (s : Db) : sig.Answer o × Db :=
  match x.fault with
  | some e => (o.failing e, s)
  | none => perform cast o s

end Ticketing.EventService
