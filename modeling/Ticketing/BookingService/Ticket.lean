import Ticketing.BookingService.Orchestrator

/-!
# Tickets

Library `BookingService`. Follows `generateTicket` of `ticket/ticket.service.ts`. The
payload of a QR code is kept as the two values it is built from.
-/

namespace Ticketing.BookingService

open Async

/-- `generateTicketCode`. -/
def generateTicketCode : Code sig Unit String := do
  let timestamp ← await .now
  let random ← await .random
  pure ("TK-" ++ toString36 timestamp ++ "-" ++ (random.take 6).toString.toUpper)

/-- A new ticket for an item; the store numbers it. -/
def newTicket (bookingId : Id) (bookingItem : BookingItem) (ticketCode qrCodeData : String) :
    Ticket where
  id := 0
  bookingId := bookingId
  bookingItemId := bookingItem.id
  ticketCode := ticketCode
  qrCodeData := qrCodeData
  status := .active
  seatId := bookingItem.seatId
  sectionName := bookingItem.sectionName
  row := bookingItem.row
  seatNumber := bookingItem.seatNumber
  attendeeName := bookingItem.attendeeName
  attendeeEmail := bookingItem.attendeeEmail

/-- The loop of `generateTicket` over the items. -/
def newTickets (bookingId : Id) : List BookingItem → Code sig Unit (List Ticket)
  | [] => pure []
  | bookingItem :: rest => do
    let ticketCode ← generateTicketCode
    let qrCodeData ← await (.toDataURL ticketCode bookingItem)
    let tickets ← newTickets bookingId rest
    pure (newTicket bookingId bookingItem ticketCode qrCodeData :: tickets)

/-- `TicketService.generateTicket` (`ticket.service.ts:25–83`). -/
def generateTicket (bookingId : Id) : Code sig Unit (List Ticket) := do
  let existing ← await (.findTickets bookingId)
  if existing.length > 0 then pure existing
  else
    let bookingItems ← await (.findBookingItems bookingId)
    if bookingItems.length = 0 then pure []
    else
      let tickets ← newTickets bookingId bookingItems
      await (.saveTickets tickets)

end Ticketing.BookingService
