import Ticketing.EventService.Store

/-!
# Event service

Library `EventService`. Follows `venue/venue.service.ts`, `event/event.service.ts` and their
controllers, which hand a body to the service once the validation pipe has accepted it.
-/

namespace Ticketing.EventService

open Async Store
open SeatInventory (EventSeat)

namespace VenueService

/-- The number of seats in rows. -/
def capacityOf (rows : List Row) : Nat :=
  rows.foldl (fun total row ↦ total + row.seats.length) 0

/-- The document that `create` saves. -/
def document (createVenueDto : CreateVenueDto) : Venue :=
  let totalCapacity := createVenueDto.sections.foldl
    (fun total s ↦ total + capacityOf s.rows) 0
  let sections := createVenueDto.sections.mapIdx fun index s ↦
    ({ id := 0, name := s.name, capacity := capacityOf s.rows,
       sortOrder := s.sortOrder.getD index, rows := s.rows } : Section)
  { id := 0, name := createVenueDto.name, totalCapacity, sections }

/-- `VenueService.create` (`venue.service.ts:13–38`). -/
def create (createVenueDto : CreateVenueDto) : Code sig Unit Venue :=
  await (.saveVenue (document createVenueDto))

/-- `VenueService.findById` (`venue.service.ts:44–50`). -/
def findById (id : String) : Code sig Unit Venue := do
  match ← await (.findVenue id) with
  | none => throw (.notFound "Venue not found")
  | some venue => pure venue

end VenueService

/-- The seat of a message. -/
def eventSeat (s : Section) (ticketType : TicketType) (row : Row) (seat : SeatDefinition) :
    EventSeat where
  seatId := objectIdText s.id ++ "_" ++ row.label ++ "_" ++ seat.number
  sectionId := objectIdText s.id
  sectionName := s.name
  ticketTypeId := objectIdText ticketType.id
  ticketTypeName := ticketType.name
  price := ticketType.price
  currency := ticketType.currency
  row := row.label
  number := seat.number
  type := seat.type.text

/-- The ticket type of a section. -/
def ticketTypeOf (event : Event) (s : Section) : Option TicketType :=
  event.ticketTypes.find? fun ticket ↦ ticket.sectionId = objectIdText s.id

/-- The seats that one section adds to the message. -/
def sectionSeats (event : Event) (s : Section) : List EventSeat :=
  match ticketTypeOf event s with
  | none => []
  | some ticketType =>
    s.rows.flatMap fun row ↦ row.seats.map fun seat ↦ eventSeat s ticketType row seat

/-- The message of a saved event. -/
def message (venue : Venue) (savedEvent : Event) : EventCreated where
  key := objectIdText savedEvent.id
  value :=
    { eventId := objectIdText savedEvent.id
      seats := venue.sections.flatMap fun s ↦ sectionSeats savedEvent s }
  venueId := objectIdText venue.id
  venueName := venue.name
  title := savedEvent.title
  startsAt := savedEvent.startsAt

/-- Every ticket type names a section of the venue. -/
def checkTicketTypes (venue : Venue) : List CreateTicketTypeDto → Code sig Unit Unit
  | [] => pure ()
  | ticketType :: rest =>
    if (venue.sections.map fun s ↦ objectIdText s.id).contains ticketType.sectionId then
      checkTicketTypes venue rest
    else
      throw (.notFound ("Section " ++ ticketType.sectionId ++ " not found in venue " ++ venue.name))

/-- `EventService.create` (`event.service.ts:22–80`). -/
def create (createEventDto : CreateEventDto) : Code sig Unit Event := do
  let venue ← VenueService.findById createEventDto.venueId
  checkTicketTypes venue createEventDto.ticketTypes
  let savedEvent ← await (.saveEvent createEventDto)
  await (.emit (message venue savedEvent))
  pure savedEvent

/-- The validators of `CreateVenueDto`. -/
def CreateVenueDto.valid (dto : CreateVenueDto) : Bool :=
  dto.name != "" && dto.sections.all fun s ↦ s.name != "" && s.rows.all Row.valid

/-- A request to the service; the validators of an event only ask for texts and numbers. -/
inductive Job where
  | createVenue (dto : CreateVenueDto)
  | createEvent (dto : CreateEventDto)
  deriving DecidableEq

/-- What a request returns. -/
inductive Returned where
  | venue (venue : Venue)
  | event (event : Event)
  deriving DecidableEq

/-- The handler of a request. -/
def handler : Job → Code sig Unit Returned
  | .createVenue dto =>
    if dto.valid then do
      let venue ← VenueService.create dto
      pure (.venue venue)
    else throw (.badRequest "Bad Request Exception")
  | .createEvent dto => do
    let event ← create dto
    pure (.event event)

/-- The event service; `cast` is the cast of a text to an ObjectId. -/
abbrev service (cast : String → Option Id) : Service where
  toSig := sig
  State := Db
  Choice := Choice
  exec := exec cast
  Job := Job
  Reply := Returned
  code j := (handler j).prog

end Ticketing.EventService
