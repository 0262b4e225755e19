import Ticketing.AuthGuard.JwtAuthGuard
import Ticketing.BookingService.RefundResumption
import Ticketing.BookingService.Scopes

/-!
# Booking routes

Library `BookingService`. Follows `booking/booking.controller.ts` with the queries and the
checks of the orchestrator that depend on the user. A user who is `undefined` is `none`.
-/

namespace Ticketing.BookingService

open Async AuthGuard

/-- A condition on a text column: TypeORM leaves out one whose value is `undefined`. -/
def selects (value : Option String) (column : String) : Bool :=
  match value with
  | none => true
  | some text => column = text

/-- `findByUserId` (`booking-orchestrator.service.ts:436–442`), newest first; the rows are stored
in the order of their creation. -/
def findByUserId (userId : Option String) (s : Db) : List BookingView :=
  ((s.bookings.rows.filter fun b ↦ selects userId b.userId).reverse).map s.view

/-- `booking.userId !== userId`. -/
def Booking.notOwnedBy (booking : Booking) (userId : Option String) : Bool :=
  some booking.userId ≠ userId

/-- What `cancelBooking` throws to others than the owner. -/
def notAllowed : Exception := .badRequest "You are not allowed to cancel this booking"

/-- `cancelBooking` for a user who may be `undefined`. -/
def cancelBookingOf (bookingId : Id) (userId : Option String) (refundIdempotencyKey : String)
    (reason : Option String) : Code sig Unit Booking := do
  match ← await (.findBooking bookingId) with
  | none => throw (.notFound "Booking not found")
  | some ⟨booking, items⟩ =>
    if booking.notOwnedBy userId then throw notAllowed
    else if booking.status ≠ .confirmed then
      throw (.badRequest "Booking is not confirmed and cannot be cancelled")
    else Code.on booking (startRefund items refundIdempotencyKey reason)

/-- What PostgreSQL answers to a booking without a user. -/
def userIdIsNull : Exception :=
  .failure "null value in column \"userId\" of relation \"booking\" violates not-null constraint"

/-- `persistBooking` for a user who is `undefined`: the row is refused. -/
def persistUnowned (selectedSeats : List SeatInfo) : Code sig Unit (Option BookingView) := do
  await .connect
  tryCatch
    (do
      let _ ← generateBookingNumber
      let _ ← firstCurrency selectedSeats
      let _ ← await .now
      throw userIdIsNull)
    fun error ↦ do
      await .rollback
      throw error

/-- `createBooking` for a user who may be `undefined`, whom the request to the inventory leaves
out. -/
def createBookingOf (dto : CreateBookingDto) (userId : Option String) :
    Code sig Unit (Option BookingView) :=
  match userId with
  | some userId => createBooking { dto with userId := userId }
  | none => do
    let selectedSeats ← selectSeats { dto with userId := "" }
    persistUnowned selectedSeats

namespace BookingController

/-- `@Post()`. -/
def create (request : HttpRequest) (dto : CreateBookingDto) :
    Code sig Unit (Option BookingView) :=
  createBookingOf dto (currentUser "id" request)

/-- `@Get('me')`. -/
def findMyBookings (request : HttpRequest) (s : Db) : List BookingView :=
  findByUserId (currentUser "id" request) s

/-- `@Delete(':id')`. -/
def cancel (request : HttpRequest) (id : Id) (refundIdempotencyKey : String)
    (reason : Option String) : Code sig Unit Booking :=
  cancelBookingOf id (currentUser "id" request) refundIdempotencyKey reason

end BookingController

/-- For a user who is given, it is `cancelBooking`. -/
theorem cancelBookingOf_some (bookingId : Id) (userId refundIdempotencyKey : String)
    (reason : Option String) :
    cancelBookingOf bookingId (some userId) refundIdempotencyKey reason =
      cancelBooking bookingId userId refundIdempotencyKey reason := by
  unfold cancelBookingOf cancelBooking
  congr 1
  funext found
  cases found with
  | none => rfl
  | some view => simp [Booking.notOwnedBy, notAllowed]

/-! ### A user who is `undefined` -/

/-- A request without a user finds the bookings of all users. -/
theorem findByUserId_none (s : Db) : findByUserId none s = s.bookings.rows.reverse.map s.view := by
  simp [findByUserId, selects]

/-- A request without a user owns no booking. -/
theorem notOwnedBy_none (booking : Booking) : booking.notOwnedBy none = true := by
  simp [Booking.notOwnedBy]

/-- An operation answers an error, or has its effect. -/
theorem exec_result {y : Choice} {o : Op} {s : Db} :
    (∃ e, (exec y o s).1 = .error e) ∨ exec y o s = perform y o s := by
  rcases exec_cases y o s with ⟨-, e, he⟩ | he
  · exact .inl ⟨e, by rw [he]⟩
  · exact .inr he

/-- A request without a user cancels no booking. -/
theorem cancelBookingOf_none (x : Nat → Op → Choice) (s : Db) (id : Id) (key : String)
    (reason : Option String) :
    ∃ e, ((cancelBookingOf id none key reason).exec (deciding x) 0 () s).result = .error e := by
  rcases exec_result (y := x 0 (.findBooking id)) (o := .findBooking id) (s := s) with ⟨e, he⟩ | he
  · exact ⟨e, by simp [cancelBookingOf, deciding, he]⟩
  · cases hf : s.bookings.find id with
    | none =>
      exact ⟨.notFound "Booking not found", by simp [cancelBookingOf, deciding, he, perform, hf]⟩
    | some booking =>
      exact ⟨notAllowed, by simp [cancelBookingOf, deciding, he, perform, hf, Db.view,
        notOwnedBy_none]⟩

/-- Operations that leave the database as it is. -/
def Op.idle : Op → Bool
  | .connect | .rollback | .rpc _ _ | .now | .random => true
  | _ => false

/-- An operation that only reads leaves the database as it is. -/
theorem exec_idle {y : Choice} {o : Op} {s : Db} (ho : o.idle = true) : (exec y o s).2 = s := by
  rcases exec_cases y o s with ⟨-, e, he⟩ | he
  · rw [he]
  · rw [he]
    cases o with
    | connect => rfl
    | rollback => rfl
    | rpc issuer request => rfl
    | now => rfl
    | random => rfl
    | _ => cases ho

/-- A request without a user stores no booking. -/
theorem createBookingOf_none (x : Nat → Op → Choice) (s : Db) (dto : CreateBookingDto) :
    ((createBookingOf dto none).exec (deciding x) 0 () s).state = s := by
  have idle : (createBookingOf dto none).Awaits fun o : Op ↦ o.idle = true := by
    apply Code.Awaits.bind (selectSeats_awaits (fun _ ↦ rfl) (fun _ _ _ ↦ rfl) _)
    intro seats
    unfold persistUnowned
    refine .bind (.await rfl) fun _ ↦ ?_
    apply Code.Awaits.tryCatch
    · refine .bind ?_ fun _ ↦ .bind (firstCurrency_awaits seats) fun _ ↦ ?_
      · exact .bind (.await rfl) fun _ ↦ .bind (.await rfl) fun _ ↦ .ret _
      · exact .bind (.await rfl) fun _ ↦ .raise _
    · exact fun _ ↦ .bind (.await rfl) fun _ ↦ .raise _
  exact idle.exec (K := fun r ↦ r = s) (fun n o r ho hr ↦ by rw [hr]; exact exec_idle ho) rfl

end Ticketing.BookingService
