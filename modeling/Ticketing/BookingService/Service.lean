import Ticketing.BookingService.OutboxWorker
import Ticketing.BookingService.Refund

/-!
# Booking service

Library `BookingService`. The requests of `booking/booking.controller.ts` and the two cron
jobs, as the jobs of one service.
-/

namespace Ticketing.BookingService

open Async

/-- What runs in the booking service. -/
inductive Job where
  | createBooking (dto : CreateBookingDto)
  | cancelBooking (bookingId : Id) (userId refundIdempotencyKey : String) (reason : Option String)
  | recoveryStuckRefunds
  | processOutbox
  deriving DecidableEq

/-- What a job returns. -/
inductive Returned where
  | created (booking : Option BookingView)
  | cancelled (booking : Booking)
  | done

/-- The code of a job. -/
def Job.run : Job → Code sig Unit Returned
  | .createBooking dto => do
    let booking ← BookingService.createBooking dto
    pure (.created booking)
  | .cancelBooking id u k r => do
    let booking ← BookingService.cancelBooking id u k r
    pure (.cancelled booking)
  | .recoveryStuckRefunds => do
    BookingService.recoveryStuckRefunds
    pure .done
  | .processOutbox => do
    BookingService.processOutbox
    pure .done

/-- The booking service. -/
abbrev service : Service where
  toSig := sig
  State := Db
  Choice := Choice
  exec := exec
  Job := Job
  Reply := Returned
  code j := j.run.prog

end Ticketing.BookingService
