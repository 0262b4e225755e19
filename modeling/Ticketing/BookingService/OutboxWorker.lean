import Ticketing.BookingService.Ticket

/-!
# The outbox worker

Library `BookingService`. Follows `booking/outbox.worker.ts`. The local entity is `entry`,
which the handlers only read.
-/

namespace Ticketing.BookingService

open Async

/-- `handleSeatsSold`. -/
def handleSeatsSold (bookingId : Id) (eventId userId : String) (seatIds : List String) :
    Code sig Unit Unit := do
  let success ← grpc (some bookingId) (.markSeatsAsSold eventId seatIds userId) Reply.success?
  if success then pure ()
  else throw (.failure "markSeatsAsSold gRPC call failed")

/-- `handleBookingConfirmed`. -/
def handleBookingConfirmed (aggregateId : Id) (payload : BookingPayload) :
    Code sig Unit Unit := do
  let _ ← generateTicket aggregateId
  await (.emit "booking.confirmed" aggregateId payload)

/-- `handleBookingRefunded`. -/
def handleBookingRefunded (aggregateId : Id) (payload : BookingPayload) :
    Code sig Unit Unit :=
  await (.emit "booking.refunded" aggregateId payload)

/-- `processEntry`. -/
def processEntry (entry : Outbox) : Code sig Unit Unit :=
  match entry.event with
  | .seatsMarkSold eventId userId seatIds =>
    handleSeatsSold entry.aggregateId eventId userId seatIds
  | .bookingConfirmed payload => handleBookingConfirmed entry.aggregateId payload
  | .bookingRefunded payload => handleBookingRefunded entry.aggregateId payload
  | .unknown _ => pure ()

/-- `processOutbox`, the `try` block of one entry (lines 50–54). -/
def completeEntry : Code sig Outbox Unit := do
  Code.on () (processEntry (← entity))
  assign fun e ↦ { e with status := .completed }
  let now ← await .now
  assign fun e ↦ { e with processedAt := some now }
  await (.saveEntry (← entity))

/-- `processOutbox`, the `catch` block of one entry (lines 54–72). -/
def retryEntry (error : Exception) : Code sig Outbox Unit := do
  assign fun e ↦ { e with retryCount := e.retryCount + 1, lastError := some error.message }
  assign fun e ↦
    { e with status := if e.retryCount ≥ e.maxRetries then .failed else .pending }
  await (.saveEntry (← entity))

/-- `processOutbox`, one round of the loop. -/
def processPending : Code sig Outbox Unit := do
  assign fun e ↦ { e with status := .processing }
  await (.saveEntry (← entity))
  tryCatch completeEntry retryEntry

/-- `processOutbox`, the loop. -/
def processEach : List Outbox → Code sig Unit Unit
  | [] => pure ()
  | entry :: rest => do
    Code.on entry processPending
    processEach rest

/-- `OutboxWorker.processOutbox` (`outbox.worker.ts:32–74`). -/
def processOutbox : Code sig Unit Unit := do
  let pendingEntries ← await .findPendingEntries
  processEach pendingEntries

end Ticketing.BookingService
