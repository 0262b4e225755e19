import Ticketing.BookingService.Orchestrator

/-!
# Refunding a booking

Library `BookingService`. Follows `cancelBooking` and `processRefundStateMachine` of
`booking/booking-orchestrator.service.ts` and `booking/refund-recovery.worker.ts`. The local
entity is `booking`: its columns are assigned before they are saved, and the `catch` block
saves what was assigned.
-/

namespace Ticketing.BookingService

open Async

/-- A seat in the payload of `booking.refunded`, which leaves out `seatId`. -/
def refundedSeatPayload (item : BookingItem) : SeatPayload where
  seatId := none
  sectionName := item.sectionName
  row := item.row
  seatNumber := item.seatNumber
  attendeeName := item.attendeeName
  attendeeEmail := item.attendeeEmail

/-- The payload of `booking.refunded`. -/
def refundedPayload (booking : Booking) (items : List BookingItem) : BookingPayload where
  bookingId := booking.id
  bookingNumber := booking.bookingNumber
  userId := booking.userId
  eventId := booking.eventId
  totalAmount := booking.totalAmount
  currency := booking.currency
  status := none
  items := items.map refundedSeatPayload

/-- `text || 'User cancellation'`. -/
def orUserCancellation (text : Option String) : String :=
  if text.getD "" = "" then "User cancellation" else text.getD ""

/-- How one step of the state machine goes on. -/
inductive Outcome where
  | again
  | done
  deriving DecidableEq, Repr

/-- The case `REFUND_INITIATED` (lines 254–273). -/
def refundPaymentStep : Code sig Booking Outcome := do
  let booking ← entity
  let (success, failureReason) ← grpc (some booking.id)
    (.refundPayment booking.id (booking.refundIdempotencyKey.getD "")
      (orUserCancellation booking.cancellationReason))
    Reply.refund?
  if success then
    assign fun b ↦ { b with refundState := some .paymentRefunded }
    await (.saveBooking (← entity))
    pure .again
  else
    assign fun b ↦ { b with refundState := some .failed, refundLastError := some failureReason }
    await (.saveBooking (← entity))
    throw (.badRequest ("Refund failed: " ++ failureReason))

/-- The case `PAYMENT_REFUNDED` (lines 274–285). -/
def releaseSeatsStep (seatIds : List String) : Code sig Booking Outcome := do
  let booking ← entity
  let _ ← await (.rpc (some booking.id) (.releaseSoldSeats booking.eventId seatIds))
  assign fun b ↦ { b with refundState := some .seatsReleased }
  await (.saveBooking (← entity))
  pure .again

/-- The case `SEATS_RELEASED`, the inner `try` block (lines 291–321). The tickets are
updated by their own repository, outside the transaction. -/
def completeTransaction (items : List BookingItem) : Code sig Booking Unit := do
  await (.cancelTickets (← entity).id)
  assign fun b ↦ { b with status := .refunded }
  let now ← await .now
  assign fun b ↦ { b with cancelledAt := some now, refundState := some .completed }
  let booking ← entity
  await (.statement (.booking booking))
  let refundedOutbox := Outbox.create booking.id (.bookingRefunded (refundedPayload booking items))
  await (.statement (.outbox refundedOutbox))
  await (.commit [.booking booking, .outbox refundedOutbox])

/-- The case `SEATS_RELEASED` (lines 286–333). -/
def completeStep (items : List BookingItem) : Code sig Booking Outcome := do
  await .connect
  tryCatch (completeTransaction items) fun error ↦ do
    await .rollback
    throw error
  pure .done

/-- The `switch` over `booking.refundState`. -/
def refundSwitch (items : List BookingItem) : Code sig Booking Outcome := do
  let booking ← entity
  match booking.refundState with
  | some .refundInitiated => refundPaymentStep
  | some .paymentRefunded => releaseSeatsStep (items.map BookingItem.seatId)
  | some .seatsReleased => completeStep items
  | some .completed => pure .done
  | some .failed =>
    throw (.badRequest ("Refund failed: " ++ booking.refundLastError.getD "null"))
  | none => throw (.badRequest "Invalid refund state: null")

/-- The outer `catch` block (lines 348–353). -/
def failRefundStep (error : Exception) : Code sig Booking Outcome := do
  assign fun b ↦
    { b with refundRetryCount := b.refundRetryCount + 1, refundLastError := some error.message }
  await (.saveBooking (← entity))
  throw error

/-- One round of the loop. -/
def refundStep (items : List BookingItem) : Code sig Booking Outcome :=
  tryCatch (refundSwitch items) failRefundStep

/-- The loop; it answers whether it was left by a `return`. -/
def refundLoop (items : List BookingItem) : Nat → Code sig Booking Bool
  | 0 => pure false
  | steps + 1 => do
    match ← refundStep items with
    | .again => refundLoop items steps
    | .done => pure true

/-- `maxSteps`. -/
def maxSteps : Nat := 5

/-- `processRefundStateMachine` (`booking-orchestrator.service.ts:243–357`): whether the loop
was left by a `return`. The booking it returns is the entity. -/
def processRefundStateMachine (items : List BookingItem) : Code sig Booking Bool :=
  refundLoop items maxSteps

/-- `cancelBooking`, lines 233–240: start the refund unless it has started. -/
def startRefund (items : List BookingItem) (refundIdempotencyKey : String)
    (reason : Option String) : Code sig Booking Booking := do
  let booking ← entity
  if booking.refundState = none then
    assign fun b ↦
      { b with refundState := some .refundInitiated,
               refundIdempotencyKey := some refundIdempotencyKey,
               cancellationReason := some (orUserCancellation reason) }
    await (.saveBooking (← entity))
    let _ ← processRefundStateMachine items
    entity
  else
    let _ ← processRefundStateMachine items
    entity

/-- `cancelBooking` (`booking-orchestrator.service.ts:206–241`). -/
def cancelBooking (bookingId : Id) (userId refundIdempotencyKey : String)
    (reason : Option String) : Code sig Unit Booking := do
  match ← await (.findBooking bookingId) with
  | none => throw (.notFound "Booking not found")
  | some ⟨booking, items⟩ =>
    if booking.userId ≠ userId then
      throw (.badRequest "You are not allowed to cancel this booking")
    else if booking.status ≠ .confirmed then
      throw (.badRequest "Booking is not confirmed and cannot be cancelled")
    else Code.on booking (startRefund items refundIdempotencyKey reason)

/-! ### `RefundRecoveryWorker` -/

/-- `MAX_RETRIES`. -/
def maxRetries : Nat := 5

/-- The loop over the stuck bookings; an error of one is logged. -/
def recoverEach : List BookingView → Code sig Unit Unit
  | [] => pure ()
  | ⟨booking, items⟩ :: rest =>
    if booking.refundRetryCount ≥ maxRetries then recoverEach rest
    else do
      tryCatch
        (Code.on booking do
          let _ ← processRefundStateMachine items
          pure ())
        fun _ ↦ pure ()
      recoverEach rest

/-- `recoveryStuckRefunds`, the `try` block. -/
def recoverStuck : Code sig Unit Unit := do
  let stuckBookings ← await .findStuckBookings
  recoverEach stuckBookings

/-- `RefundRecoveryWorker.recoveryStuckRefunds` (`refund-recovery.worker.ts:25–71`). -/
def recoveryStuckRefunds : Code sig Unit Unit := do
  if ← await .enter then
    tryCatch recoverStuck fun error ↦ do
      await .leave
      throw error
    await .leave
  else pure ()

end Ticketing.BookingService
