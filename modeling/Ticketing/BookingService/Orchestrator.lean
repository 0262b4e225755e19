import Mathlib.Data.Nat.Digits.Defs
import Ticketing.BookingService.Store

/-!
# Creating a booking

Library `BookingService`. Follows `createBooking`, `persistBooking` and
`confirmBookingWithOutbox` of `booking/booking-orchestrator.service.ts`. The local entity is
`savedBooking`: the code assigns its columns before it saves them.
-/

namespace Ticketing.BookingService

open Async

/-- `dtos/create-booking.dto.ts`, `BookingItemDto`. -/
structure BookingItemDto where
  seatId : String
  attendeeName : Option String
  attendeeEmail : Option String
  deriving DecidableEq, Repr

/-- `dtos/create-booking.dto.ts`. -/
structure CreateBookingDto where
  userId : String
  eventId : String
  sessionId : String
  cardToken : String
  paymentIdempotencyKey : String
  paymentProvider : Option String
  items : List BookingItemDto
  deriving DecidableEq, Repr

/-- `dto.items.map((item) => item.seatId)`. -/
def CreateBookingDto.seatIds (dto : CreateBookingDto) : List String :=
  dto.items.map BookingItemDto.seatId

/-- `BOOKING_EXPIRY_MS`. -/
def bookingExpiryMs : Nat := 10 * 60 * 1000

/-- A gRPC call; `answer` picks the fields that the caller destructures, and a reply
without them throws. -/
def grpc {L α : Type} (issuer : Option Id) (request : Request) (answer : Reply → Option α) :
    Code sig L α := do
  match answer (← await (.rpc issuer request)) with
  | some a => pure a
  | none => throw (.failure "unexpected reply")

/-- The `seats` of a reply. -/
def Reply.seats? : Reply → Option (List SeatInfo)
  | .seats seats => some seats
  | _ => none

/-- The `verified` of a reply. -/
def Reply.verified? : Reply → Option Bool
  | .verified verified => some verified
  | _ => none

/-- The `success` of a reply. -/
def Reply.success? : Reply → Option Bool
  | .success success => some success
  | _ => none

/-- The `payment` of a reply, which may be absent. -/
def Reply.payment? : Reply → Option (Option PaymentInfo)
  | .payment payment => some payment
  | _ => none

/-- The `success` and `failureReason` of a reply. -/
def Reply.refund? : Reply → Option (Bool × String)
  | .refund success _ failureReason => some (success, failureReason)
  | _ => none

/-- `selectedSeats.reduce((acc, seat) => acc + parseFloat(seat.price), 0)`. -/
def totalAmount (selectedSeats : List SeatInfo) : Money :=
  selectedSeats.foldl (fun acc seat ↦ acc + seat.price) 0

/-- `selectedSeats[0].currency`. -/
def firstCurrency {L : Type} : List SeatInfo → Code sig L String
  | [] => throw (.failure "Cannot read properties of undefined (reading 'currency')")
  | seat :: _ => pure seat.currency

/-- `createBooking`, lines 57–95: the selected seats, all held by the user. -/
def selectSeats (dto : CreateBookingDto) : Code sig Unit (List SeatInfo) := do
  let seatIds := dto.seatIds
  let seats ← grpc none (.getSeatsByEvent dto.eventId) Reply.seats?
  let selectedSeats := seats.filter fun s ↦ seatIds.contains s.seatId
  if selectedSeats.length ≠ seatIds.length then
    let found := selectedSeats.map SeatInfo.seatId
    let missing := seatIds.filter fun id ↦ ¬ found.contains id
    throw (.badRequest ("Seats " ++ String.intercalate ", " missing ++ " not found in inventory"))
  else
    let notHeld := selectedSeats.filter fun seat ↦ seat.status ≠ .held
    if notHeld.length > 0 then
      throw (.badRequest ("Seats " ++ String.intercalate ", " (notHeld.map SeatInfo.seatId) ++
        " are not held"))
    else
      let verified ← grpc none (.verifyHold dto.eventId seatIds dto.userId) Reply.verified?
      if verified then pure selectedSeats
      else throw (.badRequest "Hold verification failed — seats not held by this user")

/-- A digit of `toString(36).toUpperCase()`. -/
def digit36 (d : Nat) : Char := if d < 10 then Char.ofNat (48 + d) else Char.ofNat (55 + d)

/-- `n.toString(36).toUpperCase()`. -/
def toString36 (n : Nat) : String :=
  if n = 0 then "0" else String.ofList ((Nat.digits 36 n).reverse.map digit36)

/-- `generateBookingNumber`. -/
def generateBookingNumber : Code sig Unit String := do
  let timestamp ← await .now
  let random ← await .random
  pure ("BK-" ++ toString36 timestamp ++ "-" ++ (random.take 4).toString.toUpper)

/-- The item of a booking for a selected seat; the store numbers it. -/
def bookingItem (bookingId : Id) (item : BookingItemDto) (seat : SeatInfo) : BookingItem where
  id := 0
  bookingId := bookingId
  seatInventoryId := seat.id
  seatId := seat.seatId
  ticketTypeId := seat.ticketTypeId
  ticketTypeName := seat.ticketTypeName
  sectionName := seat.sectionName
  row := seat.row
  seatNumber := seat.seatNumber
  unitPrice := seat.price
  attendeeName := item.attendeeName
  attendeeEmail := item.attendeeEmail

/-- `persistBooking`, lines 383–403: one item for each item of the dto. -/
def bookingItems (bookingId : Id) (selectedSeats : List SeatInfo) :
    List BookingItemDto → Except Exception (List BookingItem)
  | [] => .ok []
  | item :: rest =>
    match selectedSeats.find? fun s ↦ s.seatId = item.seatId with
    | none => .error (.badRequest ("Seat " ++ item.seatId ++ " not found in inventory"))
    | some seat => (bookingItems bookingId selectedSeats rest).map
        fun items ↦ bookingItem bookingId item seat :: items

/-- A new booking with the column defaults; the store numbers it. -/
def newBooking (dto : CreateBookingDto) (bookingNumber : String) (totalAmount : Money)
    (currency : String) (expiresAt : Nat) : Booking where
  id := 0
  bookingNumber := bookingNumber
  userId := dto.userId
  eventId := dto.eventId
  status := .pending
  totalAmount := totalAmount
  currency := currency
  expiresAt := expiresAt
  confirmedAt := none
  cancelledAt := none
  cancellationReason := none
  refundState := none
  refundIdempotencyKey := none
  refundRetryCount := 0
  refundLastError := none

/-- `persistBooking`, the `try` block up to the commit: the identifier of the booking. -/
def persistTransaction (dto : CreateBookingDto) (selectedSeats : List SeatInfo)
    (totalAmount : Money) : Code sig Unit Id := do
  let bookingNumber ← generateBookingNumber
  let currency ← firstCurrency selectedSeats
  let now ← await .now
  let savedBooking ← await (.insertBooking
    (newBooking dto bookingNumber totalAmount currency (now + bookingExpiryMs)))
  match bookingItems savedBooking.id selectedSeats dto.items with
  | .error error => throw error
  | .ok items =>
    await (.statement (.items items))
    await (.commit [.booking savedBooking, .items items])
    pure savedBooking.id

/-- `persistBooking` (`booking-orchestrator.service.ts:359–422`). The last read is returned
without `await`, so the `catch` block does not see its error. -/
def persistBooking (dto : CreateBookingDto) (selectedSeats : List SeatInfo)
    (totalAmount : Money) : Code sig Unit (Option BookingView) := do
  await .connect
  let id ← tryCatch (persistTransaction dto selectedSeats totalAmount) fun error ↦ do
    await .rollback
    throw error
  await (.findBooking id)

/-- The seat of an item in a Kafka payload. -/
def seatPayload (item : BookingItem) : SeatPayload where
  seatId := some item.seatId
  sectionName := item.sectionName
  row := item.row
  seatNumber := item.seatNumber
  attendeeName := item.attendeeName
  attendeeEmail := item.attendeeEmail

/-- The payload of `booking.confirmed`. -/
def confirmedPayload (booking : Booking) (eventId : String) (items : List BookingItem) :
    BookingPayload where
  bookingId := booking.id
  bookingNumber := booking.bookingNumber
  userId := booking.userId
  eventId := eventId
  totalAmount := booking.totalAmount
  currency := booking.currency
  status := none
  items := items.map seatPayload

/-- `confirmBookingWithOutbox`, the `try` block. -/
def confirmTransaction (eventId userId : String) (seatIds : List String) :
    Code sig Booking Unit := do
  assign fun b ↦ { b with status := .confirmed }
  let now ← await .now
  assign fun b ↦ { b with confirmedAt := some now }
  let booking ← entity
  await (.statement (.booking booking))
  let seatsSoldOutbox := Outbox.create booking.id (.seatsMarkSold eventId userId seatIds)
  match ← await (.findBooking booking.id) with
  | none => throw (.internalServerError "Booking not found after confirmation")
  | some bookingWithItems =>
    let confirmedOutbox := Outbox.create booking.id
      (.bookingConfirmed (confirmedPayload booking eventId bookingWithItems.items))
    await (.statement (.outbox seatsSoldOutbox))
    await (.statement (.outbox confirmedOutbox))
    await (.commit [.booking booking, .outbox seatsSoldOutbox, .outbox confirmedOutbox])

/-- `confirmBookingWithOutbox` (`booking-orchestrator.service.ts:451–526`). -/
def confirmBookingWithOutbox (eventId userId : String) (seatIds : List String) :
    Code sig Booking Unit := do
  await .connect
  tryCatch (confirmTransaction eventId userId seatIds) fun error ↦ do
    await .rollback
    throw error

/-- The assignments of a cancellation. -/
def cancelEntity (reason : String) : Code sig Booking Unit := do
  assign fun b ↦ { b with status := .cancelled }
  let now ← await .now
  assign fun b ↦ { b with cancelledAt := some now, cancellationReason := some reason }

/-- `createBooking`, the `try` block (lines 113–157). -/
def payBooking (dto : CreateBookingDto) (amount : Money) (selectedSeats : List SeatInfo) :
    Code sig Booking Unit := do
  let currency ← firstCurrency selectedSeats
  let id := (← entity).id
  let payment ← grpc (some id)
    (.initiatePayment
      { bookingId := id, idempotencyKey := dto.paymentIdempotencyKey, amount, currency,
        method := .creditCard, cardToken := dto.cardToken,
        provider := dto.paymentProvider.getD "" })
    Reply.payment?
  match payment with
  | none => throw (.internalServerError "Payment initiation failed")
  | some payment =>
    if payment.status = .succeeded then
      confirmBookingWithOutbox dto.eventId dto.userId dto.seatIds
    else
      cancelEntity (if payment.failureReason = "" then "Payment failed" else payment.failureReason)
      await (.saveBooking (← entity))
      let _ ← await (.rpc (some id)
        (.releaseSeats dto.eventId dto.seatIds dto.userId .paymentFailed))

/-- The payload of `booking.cancelled`. -/
def cancelledPayload (booking : Booking) (items : List BookingItem) : BookingPayload where
  bookingId := booking.id
  bookingNumber := booking.bookingNumber
  userId := booking.userId
  eventId := booking.eventId
  totalAmount := booking.totalAmount
  currency := booking.currency
  status := some booking.status
  items := items.map seatPayload

/-- `createBooking`, the `catch` block (lines 158–198). -/
def failBooking (error : Exception) : Code sig Booking Unit := do
  cancelEntity ("Payment error: " ++ error.message)
  let booking ← entity
  await (.saveBooking booking)
  match ← await (.findBooking booking.id) with
  | none => throw (.internalServerError "Booking not found after cancellation")
  | some bookingWithItems =>
    await (.emit "booking.cancelled" booking.id (cancelledPayload booking bookingWithItems.items))
    throw (.badRequest ("Payment failed: " ++ error.message))

/-- `createBooking`, from line 113 on: settle the persisted booking. -/
def settleBooking (dto : CreateBookingDto) (amount : Money) (selectedSeats : List SeatInfo) :
    Code sig Booking (Option BookingView) := do
  tryCatch (payBooking dto amount selectedSeats) failBooking
  await (.findBooking (← entity).id)

/-- `createBooking` (`booking-orchestrator.service.ts:56–204`). -/
def createBooking (dto : CreateBookingDto) : Code sig Unit (Option BookingView) := do
  let selectedSeats ← selectSeats dto
  let amount := totalAmount selectedSeats
  match ← persistBooking dto selectedSeats amount with
  | none => throw (.internalServerError "Booking could not be loaded after persistence")
  | some savedBooking => Code.on savedBooking.booking (settleBooking dto amount selectedSeats)

end Ticketing.BookingService
