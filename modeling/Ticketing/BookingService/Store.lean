import Ticketing.Async.RelyGuarantee
import Ticketing.Base.Messages
import Ticketing.Store.Table

/-!
# Booking database

Library `BookingService`. Rows of `booking/entities` and `ticket/entities`, what the
service awaits, and its effect. Saving an entity stores all its columns. A failing
operation has no effect; the writes of a transaction take effect together at its commit.
-/

namespace Ticketing.BookingService

open Async Store

/-- `enums/booking-status.enum.ts`. -/
inductive BookingStatus where
  | pending
  | confirmed
  | cancelled
  | refunded
  deriving DecidableEq, Repr

/-- `enums/refund-state.enum.ts`. -/
inductive RefundState where
  | refundInitiated
  | paymentRefunded
  | seatsReleased
  | completed
  | failed
  deriving DecidableEq, Repr

/-- `enums/outbox-status.enum.ts`. -/
inductive OutboxStatus where
  | pending
  | processing
  | completed
  | failed
  deriving DecidableEq, Repr

/-- `ticket/enums/ticket-status.enum.ts`. -/
inductive TicketStatus where
  | active
  | used
  | cancelled
  | transferred
  deriving DecidableEq, Repr

/-- `entities/booking.entity.ts`, the columns. -/
structure Booking where
  id : Id
  bookingNumber : String
  userId : String
  eventId : String
  status : BookingStatus
  totalAmount : Money
  currency : String
  expiresAt : Nat
  confirmedAt : Option Nat
  cancelledAt : Option Nat
  cancellationReason : Option String
  refundState : Option RefundState
  refundIdempotencyKey : Option String
  refundRetryCount : Nat
  refundLastError : Option String
  deriving DecidableEq, Repr

/-- `entities/booking-item.entity.ts`. -/
structure BookingItem where
  id : Id
  bookingId : Id
  seatInventoryId : Id
  seatId : String
  ticketTypeId : String
  ticketTypeName : String
  sectionName : String
  row : String
  seatNumber : String
  unitPrice : Money
  attendeeName : Option String
  attendeeEmail : Option String
  deriving DecidableEq, Repr

/-- A booking loaded with `relations: ['items']`. -/
structure BookingView where
  booking : Booking
  items : List BookingItem
  deriving DecidableEq, Repr

/-- A seat in the payload of a Kafka event. -/
structure SeatPayload where
  seatId : Option String
  sectionName : String
  row : String
  seatNumber : String
  attendeeName : Option String
  attendeeEmail : Option String
  deriving DecidableEq, Repr

/-- The booking in the payload of a Kafka event. -/
structure BookingPayload where
  bookingId : Id
  bookingNumber : String
  userId : String
  eventId : String
  totalAmount : Money
  currency : String
  status : Option BookingStatus
  items : List SeatPayload
  deriving DecidableEq, Repr

/-- The `eventType` column with the `payload` column that goes with it. -/
inductive OutboxEvent where
  | seatsMarkSold (eventId userId : String) (seatIds : List String)
  | bookingConfirmed (payload : BookingPayload)
  | bookingRefunded (payload : BookingPayload)
  | unknown (eventType : String)
  deriving DecidableEq, Repr

/-- `entities/outbox.entity.ts`; every `aggregateType` is `booking`. -/
structure Outbox where
  id : Id
  aggregateId : Id
  event : OutboxEvent
  status : OutboxStatus
  retryCount : Nat
  maxRetries : Nat
  lastError : Option String
  processedAt : Option Nat
  deriving DecidableEq, Repr

/-- A new outbox row with the column defaults; the store numbers it. -/
def Outbox.create (aggregateId : Id) (event : OutboxEvent) : Outbox where
  id := 0
  aggregateId := aggregateId
  event := event
  status := .pending
  retryCount := 0
  maxRetries := 5
  lastError := none
  processedAt := none

/-- `ticket/entities/ticket.entity.ts`. -/
structure Ticket where
  id : Id
  bookingId : Id
  seatId : String
  bookingItemId : Id
  ticketCode : String
  qrCodeData : String
  status : TicketStatus
  sectionName : String
  row : String
  seatNumber : String
  attendeeName : Option String
  attendeeEmail : Option String
  deriving DecidableEq, Repr

/-- The columns that a ticket has from its booking item. -/
structure TicketItem where
  bookingItemId : Id
  seatId : String
  sectionName : String
  row : String
  seatNumber : String
  attendeeName : Option String
  attendeeEmail : Option String
  deriving DecidableEq, Repr

/-- The item that a ticket is for. -/
def Ticket.item (ticket : Ticket) : TicketItem where
  bookingItemId := ticket.bookingItemId
  seatId := ticket.seatId
  sectionName := ticket.sectionName
  row := ticket.row
  seatNumber := ticket.seatNumber
  attendeeName := ticket.attendeeName
  attendeeEmail := ticket.attendeeEmail

/-- What the ticket of a booking item has from it. -/
def BookingItem.toTicket (item : BookingItem) : TicketItem where
  bookingItemId := item.id
  seatId := item.seatId
  sectionName := item.sectionName
  row := item.row
  seatNumber := item.seatNumber
  attendeeName := item.attendeeName
  attendeeEmail := item.attendeeEmail

/-- The booking database, and the `isProcessing` flag of the recovery worker. -/
structure Db where
  bookings : Table Booking.id
  items : List BookingItem
  outbox : Table Outbox.id
  tickets : Table Ticket.id
  nextId : Id
  isProcessing : Bool
  deriving DecidableEq

namespace Db

/-- The database before anything ran. -/
def empty : Db := ⟨.empty, [], .empty, .empty, 0, false⟩

/-- The items of a booking. -/
def itemsOf (s : Db) (id : Id) : List BookingItem := s.items.filter fun i ↦ i.bookingId = id

/-- A stored booking with its items. -/
def view (s : Db) (b : Booking) : BookingView := ⟨b, s.itemsOf b.id⟩

end Db

/-- A statement of an open transaction. -/
inductive Write where
  | booking (row : Booking)
  | items (rows : List BookingItem)
  | outbox (row : Outbox)
  deriving DecidableEq, Repr

/-- New items get the next identifiers of their table. -/
def numberedItems (next : Id) (rows : List BookingItem) : List BookingItem :=
  rows.mapIdx fun i r ↦ { r with id := next + i }

/-- The first item gets the next identifier, the rest the following ones. -/
theorem numberedItems_cons (next : Id) (row : BookingItem) (rest : List BookingItem) :
    numberedItems next (row :: rest) =
      { row with id := next } :: numberedItems (next + 1) rest := by
  unfold numberedItems
  rw [List.mapIdx_cons]
  congr 2
  funext i r
  congr 1
  exact Nat.add_right_comm next i 1

/-- What does not depend on the number of an item is as before. -/
theorem map_numberedItems {α : Type} {f : BookingItem → α}
    (hf : ∀ r n, f { r with id := n } = f r) (next : Id) (rows : List BookingItem) :
    (numberedItems next rows).map f = rows.map f := by
  induction rows generalizing next with
  | nil => rfl
  | cons row rest ih => rw [numberedItems_cons, List.map_cons, List.map_cons, hf, ih]

/-- A numbered item is one of the rows but for its number. -/
theorem mem_numberedItems {next : Id} {rows : List BookingItem} {item : BookingItem}
    (h : item ∈ numberedItems next rows) : ∃ row ∈ rows, item = { row with id := item.id } := by
  obtain ⟨i, hi, rfl⟩ := List.mem_mapIdx.mp h
  exact ⟨rows[i], List.getElem_mem hi, rfl⟩

/-- Numbered items are of the same booking. -/
theorem bookingId_numbered {next b : Id} {rows : List BookingItem}
    (h : ∀ row ∈ rows, row.bookingId = b) : ∀ item ∈ numberedItems next rows,
      item.bookingId = b := by
  intro item hm
  obtain ⟨row, hr, same⟩ := mem_numberedItems hm
  rw [same]
  exact h row hr

/-- The effect of a statement at the commit; items and outbox rows are inserted. -/
def Db.write (s : Db) : Write → Db
  | .booking b => { s with bookings := s.bookings.put b }
  | .items rows => { s with items := s.items ++ numberedItems s.items.length rows }
  | .outbox e =>
    { s with outbox := s.outbox.put { e with id := s.nextId }, nextId := s.nextId + 1 }

/-- New tickets get the next identifiers. -/
def numberedTickets (next : Id) (rows : List Ticket) : List Ticket :=
  rows.mapIdx fun i r ↦ { r with id := next + i }

/-- A ticket after `cancelByBooking`. -/
def cancelTicket (bookingId : Id) (t : Ticket) : Ticket :=
  if t.bookingId = bookingId ∧ t.status = .active then { t with status := .cancelled } else t

/-- What the service awaits. A remote call carries the booking it is made for. -/
inductive Op where
  | findBooking (id : Id)
  | findStuckBookings
  | saveBooking (booking : Booking)
  | connect
  | insertBooking (booking : Booking)
  | statement (write : Write)
  | commit (writes : List Write)
  | rollback
  | findPendingEntries
  | saveEntry (entry : Outbox)
  | findTickets (bookingId : Id)
  | findBookingItems (bookingId : Id)
  | saveTickets (tickets : List Ticket)
  | cancelTickets (bookingId : Id)
  | toDataURL (ticketCode : String) (item : BookingItem)
  | emit (topic : String) (key : Id) (payload : BookingPayload)
  | rpc (issuer : Option Id) (request : Request)
  | enter
  | leave
  | now
  | random
  deriving DecidableEq, Repr

/-- A call to another service. -/
def Op.isRpc : Op → Bool
  | .rpc _ _ => true
  | _ => false

/-- The replies. -/
abbrev Res : Op → Type
  | .findBooking _ => Option BookingView
  | .findStuckBookings => List BookingView
  | .insertBooking _ => Booking
  | .findPendingEntries => List Outbox
  | .findTickets _ | .saveTickets _ => List Ticket
  | .findBookingItems _ => List BookingItem
  | .toDataURL _ _ | .random => String
  | .rpc _ _ => Reply
  | .enter => Bool
  | .now => Nat
  | _ => Unit

/-- The operations of the booking service. -/
abbrev sig : Sig := ⟨Op, Res, Exception⟩

/-- Await one operation. -/
abbrev await {L : Type} (o : Op) : Code sig L (Res o) := Code.await (S := sig) o

/-- The entity that the code assigns. -/
abbrev entity {L : Type} : Code sig L L := Code.entity

/-- Assign the entity. -/
abbrev assign {L : Type} (f : L → L) : Code sig L Unit := Code.assign f

/-- The states that the recovery worker selects. -/
def Booking.stuck (b : Booking) : Bool :=
  b.refundState = some .refundInitiated || b.refundState = some .paymentRefunded ||
    b.refundState = some .seatsReleased

/-- The effect of an operation that does not fail. -/
def perform (x : Choice) : (o : Op) → Db → sig.Answer o × Db
  | .findBooking id, s => (.ok ((s.bookings.find id).map s.view), s)
  | .findStuckBookings, s => (.ok ((s.bookings.rows.filter Booking.stuck).map s.view), s)
  | .saveBooking b, s => (.ok (), { s with bookings := s.bookings.put b })
  | .connect, s => (.ok (), s)
  | .insertBooking b, s => (.ok { b with id := s.nextId }, { s with nextId := s.nextId + 1 })
  | .statement _, s => (.ok (), s)
  | .commit writes, s => (.ok (), writes.foldl Db.write s)
  | .rollback, s => (.ok (), s)
  | .findPendingEntries, s =>
    (.ok ((s.outbox.rows.filter fun e ↦ e.status = .pending).take 10), s)
  | .saveEntry e, s => (.ok (), { s with outbox := s.outbox.put e })
  | .findTickets b, s => (.ok (s.tickets.rows.filter fun t ↦ t.bookingId = b), s)
  | .findBookingItems b, s => (.ok (s.itemsOf b), s)
  | .saveTickets ts, s =>
    (.ok (numberedTickets s.nextId ts),
      { s with tickets := s.tickets.putAll (numberedTickets s.nextId ts),
               nextId := s.nextId + ts.length })
  | .cancelTickets b, s =>
    (.ok (), { s with tickets := s.tickets.putAll (s.tickets.rows.map (cancelTicket b)) })
  | .toDataURL _ _, s => (.ok x.text, s)
  | .emit _ _ _, s => (.ok (), s)
  | .rpc _ _, s => (.ok x.reply, s)
  | .enter, s => (.ok !s.isProcessing, { s with isProcessing := true })
  | .leave, s => (.ok (), { s with isProcessing := false })
  | .now, s => (.ok x.now, s)
  | .random, s => (.ok x.text, s)

/-- The clock, random texts and the worker's flag cannot fail. `emit` hands a message to the Kafka
client and is not awaited: whether it is sent, the caller never learns. -/
def Op.fallible : Op → Bool
  | .now | .random | .enter | .leave | .emit _ _ _ => false
  | _ => true

/-- One awaited operation: it fails without effect, or has its effect. -/
def exec (x : Choice) : (o : Op) → Db → sig.Answer o × Db :=
  sig.attempt Op.fallible x.fault (perform x)

/-- An operation fails without effect, or has its effect. -/
theorem exec_cases (x : Choice) (o : Op) (s : Db) :
    (o.fallible = true ∧ ∃ e, exec x o s = (.error e, s)) ∨ exec x o s = perform x o s :=
  Sig.attempt_cases (S := sig) o s

end Ticketing.BookingService
