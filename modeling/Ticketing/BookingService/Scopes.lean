import Ticketing.Async.Run
import Ticketing.BookingService.Service

/-!
# Which operations each job awaits

Library `BookingService`. Creating a booking, refunding one and delivering the outbox await
different operations, whatever these answer.
-/

namespace Ticketing.BookingService

open Async

/-- Outbox rows are inserted as `PENDING`. -/
def Write.inserts : Write → Bool
  | .outbox e => e.status = .pending
  | _ => true

/-- Operations of `createBooking`. -/
def Op.creates : Op → Bool
  | .findBooking _ | .saveBooking _ | .connect | .insertBooking _ | .statement _ | .rollback
  | .emit _ _ _ | .now | .random => true
  | .commit writes => writes.all Write.inserts
  | .rpc _ (.getSeatsByEvent _) | .rpc _ (.verifyHold _ _ _) | .rpc _ (.initiatePayment _)
  | .rpc _ (.releaseSeats _ _ _ _) => true
  | _ => false

/-- Operations of a refund, apart from the call that pays back. -/
def Op.settles : Op → Bool
  | .findBooking _ | .findStuckBookings | .saveBooking _ | .connect | .cancelTickets _
  | .statement _ | .rollback | .enter | .leave | .now => true
  | .commit writes => writes.all Write.inserts
  | .rpc _ (.releaseSoldSeats _ _) => true
  | _ => false

/-- Operations of a refund. -/
def Op.refunds : Op → Bool
  | .rpc _ (.refundPayment _ _ _) => true
  | o => o.settles

/-- Operations that persist or confirm a booking. -/
def Op.persists : Op → Bool
  | .connect | .findBooking _ | .insertBooking _ | .statement _ | .rollback | .now | .random => true
  | .commit writes => writes.all Write.inserts
  | _ => false

/-- An operation that persists a booking is one of `createBooking`. -/
theorem Op.creates_of_persists {o : Op} (h : o.persists = true) : o.creates = true := by
  cases o <;> first | rfl | exact h | cases h

/-- Operations of `processEntry`. -/
def Op.dispatches : Op → Bool
  | .findTickets _ | .findBookingItems _ | .saveTickets _ | .toDataURL _ _ | .emit _ _ _ | .now
  | .random => true
  | .rpc _ (.markSeatsAsSold _ _ _) => true
  | _ => false

/-- Operations of `processOutbox`. -/
def Op.delivers : Op → Bool
  | .findPendingEntries | .saveEntry _ | .findTickets _ | .findBookingItems _ | .saveTickets _
  | .toDataURL _ _ | .emit _ _ _ | .now | .random => true
  | .rpc _ (.markSeatsAsSold _ _ _) => true
  | _ => false

/-- A dispatch is a part of `processOutbox`. -/
theorem Op.delivers_of_dispatches {o : Op} (h : o.dispatches = true) : o.delivers = true := by
  cases o with
  | rpc issuer request => cases request <;> first | rfl | cases h
  | _ => first | rfl | cases h

variable {L : Type} {P : Op → Prop}

/-- A gRPC call awaits one operation. -/
theorem grpc_awaits {α : Type} {i : Option Id} {r : Request} {answer : Reply → Option α}
    (h : P (.rpc i r)) : (grpc i r answer : Code sig L α).Awaits P := by
  apply Code.Awaits.bind (Code.Awaits.await h)
  intro reply
  split
  · exact Code.Awaits.ret _
  · exact Code.Awaits.raise _

/-! ### `createBooking` -/

/-- `selectSeats` only asks the inventory. -/
theorem selectSeats_awaits (hs : ∀ e, P (.rpc none (.getSeatsByEvent e)))
    (hv : ∀ e ids u, P (.rpc none (.verifyHold e ids u))) (dto : CreateBookingDto) :
    (selectSeats dto).Awaits P := by
  unfold selectSeats
  apply Code.Awaits.bind (grpc_awaits (hs _))
  intro seats
  dsimp only
  split
  · exact Code.Awaits.raise _
  · split
    · exact Code.Awaits.raise _
    · apply Code.Awaits.bind (grpc_awaits (hv _ _ _))
      intro verified
      split
      · exact Code.Awaits.ret _
      · exact Code.Awaits.raise _

/-- The currency of the first seat is read. -/
theorem firstCurrency_awaits (seats : List SeatInfo) :
    (firstCurrency seats : Code sig L String).Awaits P := by
  cases seats with
  | nil => exact Code.Awaits.raise _
  | cons seat rest => exact Code.Awaits.ret _

/-- `persistBooking` awaits operations that persist a booking. -/
theorem persistBooking_awaits (dto : CreateBookingDto) (seats : List SeatInfo)
    (amount : Money) : (persistBooking dto seats amount).Awaits fun o : Op ↦ o.persists = true := by
  unfold persistBooking
  apply Code.Awaits.bind (Code.Awaits.await (by rfl))
  intro _
  apply Code.Awaits.bind
  · apply Code.Awaits.tryCatch
    · unfold persistTransaction
      apply Code.Awaits.bind
      · unfold generateBookingNumber
        apply Code.Awaits.bind (Code.Awaits.await (by rfl))
        intro timestamp
        apply Code.Awaits.bind (Code.Awaits.await (by rfl))
        exact fun random ↦ Code.Awaits.ret _
      intro number
      apply Code.Awaits.bind (firstCurrency_awaits seats)
      intro currency
      apply Code.Awaits.bind (Code.Awaits.await (by rfl))
      intro now
      apply Code.Awaits.bind (Code.Awaits.await (by rfl))
      intro saved
      split
      · exact Code.Awaits.raise _
      · apply Code.Awaits.bind (Code.Awaits.await (by rfl))
        intro _
        apply Code.Awaits.bind (Code.Awaits.await (by rfl))
        exact fun _ ↦ Code.Awaits.ret _
    · intro error
      apply Code.Awaits.bind (Code.Awaits.await (by rfl))
      exact fun _ ↦ Code.Awaits.raise _
  · exact fun id ↦ Code.Awaits.await (by rfl)

/-- `confirmBookingWithOutbox` awaits operations that persist a booking. -/
theorem confirmBooking_awaits (eventId userId : String) (seatIds : List String) :
    (confirmBookingWithOutbox eventId userId seatIds).Awaits fun o : Op ↦ o.persists = true := by
  unfold confirmBookingWithOutbox
  apply Code.Awaits.bind (Code.Awaits.await (by rfl))
  intro _
  apply Code.Awaits.tryCatch
  · unfold confirmTransaction
    apply Code.Awaits.bind (Code.Awaits.assign _)
    intro _
    apply Code.Awaits.bind (Code.Awaits.await (by rfl))
    intro now
    apply Code.Awaits.bind (Code.Awaits.assign _)
    intro _
    apply Code.Awaits.bind Code.Awaits.entity
    intro booking
    apply Code.Awaits.bind (Code.Awaits.await (by rfl))
    intro _
    apply Code.Awaits.bind (Code.Awaits.await (by rfl))
    intro found
    cases found with
    | none => exact Code.Awaits.raise _
    | some view =>
      apply Code.Awaits.bind (Code.Awaits.await (by rfl))
      intro _
      apply Code.Awaits.bind (Code.Awaits.await (by rfl))
      exact fun _ ↦ Code.Awaits.await (by rfl)
  · intro error
    apply Code.Awaits.bind (Code.Awaits.await (by rfl))
    exact fun _ ↦ Code.Awaits.raise _

private theorem cancelEntity_awaits (reason : String) :
    (cancelEntity reason).Awaits fun o : Op ↦ o.creates = true := by
  unfold cancelEntity
  apply Code.Awaits.bind (Code.Awaits.assign _)
  intro _
  apply Code.Awaits.bind (Code.Awaits.await (by rfl))
  exact fun now ↦ Code.Awaits.assign _

private theorem payBooking_awaits (dto : CreateBookingDto) (amount : Money)
    (seats : List SeatInfo) :
    (payBooking dto amount seats).Awaits fun o : Op ↦ o.creates = true := by
  unfold payBooking
  apply Code.Awaits.bind (firstCurrency_awaits seats)
  intro currency
  apply Code.Awaits.bind Code.Awaits.entity
  intro booking
  apply Code.Awaits.bind (grpc_awaits (by rfl))
  intro payment
  cases payment with
  | none => exact Code.Awaits.raise _
  | some payment =>
    dsimp only
    split
    · exact (confirmBooking_awaits _ _ _).mono fun _ ↦ Op.creates_of_persists
    · apply Code.Awaits.bind (cancelEntity_awaits _)
      intro _
      apply Code.Awaits.bind Code.Awaits.entity
      intro booking
      apply Code.Awaits.bind (Code.Awaits.await (by rfl))
      intro _
      apply Code.Awaits.bind (Code.Awaits.await (by rfl))
      exact fun _ ↦ Code.Awaits.ret _

private theorem failBooking_awaits (error : Exception) :
    (failBooking error).Awaits fun o : Op ↦ o.creates = true := by
  unfold failBooking
  apply Code.Awaits.bind (cancelEntity_awaits _)
  intro _
  apply Code.Awaits.bind Code.Awaits.entity
  intro booking
  apply Code.Awaits.bind (Code.Awaits.await (by rfl))
  intro _
  apply Code.Awaits.bind (Code.Awaits.await (by rfl))
  intro found
  cases found with
  | none => exact Code.Awaits.raise _
  | some view =>
    apply Code.Awaits.bind (Code.Awaits.await (by rfl))
    exact fun _ ↦ Code.Awaits.raise _

/-- `createBooking` awaits the operations of a creation. -/
theorem createBooking_awaits (dto : CreateBookingDto) :
    (createBooking dto).Awaits fun o : Op ↦ o.creates = true := by
  unfold createBooking
  apply Code.Awaits.bind (selectSeats_awaits (fun _ ↦ rfl) (fun _ _ _ ↦ rfl) dto)
  intro seats
  apply Code.Awaits.bind ((persistBooking_awaits _ _ _).mono fun _ ↦ Op.creates_of_persists)
  intro saved
  cases saved with
  | none => exact Code.Awaits.raise _
  | some view =>
    apply Code.Awaits.on
    unfold settleBooking
    apply Code.Awaits.bind
    · exact Code.Awaits.tryCatch (payBooking_awaits _ _ _) failBooking_awaits
    intro _
    apply Code.Awaits.bind Code.Awaits.entity
    exact fun booking ↦ Code.Awaits.await (by rfl)

/-! ### Refunds -/

/-- Operations that settle a refund are operations of a refund. -/
theorem Op.refunds_of_settles {o : Op} (h : o.settles = true) : o.refunds = true := by
  unfold refunds
  split
  · rfl
  · exact h

/-- What the step that releases the seats awaits. -/
theorem releaseSeatsStep_awaits (seatIds : List String) :
    (releaseSeatsStep seatIds).Awaits fun o : Op ↦ o.settles = true := by
  unfold releaseSeatsStep
  apply Code.Awaits.bind Code.Awaits.entity
  intro booking
  apply Code.Awaits.bind (Code.Awaits.await (by rfl))
  intro reply
  apply Code.Awaits.bind (Code.Awaits.assign _)
  intro _
  apply Code.Awaits.bind Code.Awaits.entity
  intro booking
  apply Code.Awaits.bind (Code.Awaits.await (by rfl))
  exact fun _ ↦ Code.Awaits.ret _

/-- The last step of a refund awaits operations that settle it. -/
theorem completeStep_awaits (items : List BookingItem) :
    (completeStep items).Awaits fun o : Op ↦ o.settles = true := by
  unfold completeStep
  apply Code.Awaits.bind (Code.Awaits.await (by rfl))
  intro _
  apply Code.Awaits.bind
  · apply Code.Awaits.tryCatch
    · unfold completeTransaction
      apply Code.Awaits.bind Code.Awaits.entity
      intro booking
      apply Code.Awaits.bind (Code.Awaits.await (by rfl))
      intro _
      apply Code.Awaits.bind (Code.Awaits.assign _)
      intro _
      apply Code.Awaits.bind (Code.Awaits.await (by rfl))
      intro now
      apply Code.Awaits.bind (Code.Awaits.assign _)
      intro _
      apply Code.Awaits.bind Code.Awaits.entity
      intro booking
      apply Code.Awaits.bind (Code.Awaits.await (by rfl))
      intro _
      apply Code.Awaits.bind (Code.Awaits.await (by rfl))
      exact fun _ ↦ Code.Awaits.await (by rfl)
    · intro error
      apply Code.Awaits.bind (Code.Awaits.await (by rfl))
      exact fun _ ↦ Code.Awaits.raise _
  · exact fun _ ↦ Code.Awaits.ret _

/-- What the `catch` block of a step awaits. -/
theorem failRefundStep_awaits (error : Exception) :
    (failRefundStep error).Awaits fun o : Op ↦ o.settles = true := by
  unfold failRefundStep
  apply Code.Awaits.bind (Code.Awaits.assign _)
  intro _
  apply Code.Awaits.bind Code.Awaits.entity
  intro booking
  apply Code.Awaits.bind (Code.Awaits.await (by rfl))
  exact fun _ ↦ Code.Awaits.raise _

private theorem refundPaymentStep_awaits :
    refundPaymentStep.Awaits fun o : Op ↦ o.refunds = true := by
  unfold refundPaymentStep
  apply Code.Awaits.bind Code.Awaits.entity
  intro booking
  apply Code.Awaits.bind (grpc_awaits (by rfl))
  intro answer
  dsimp only
  split
  · apply Code.Awaits.bind (Code.Awaits.assign _)
    intro _
    apply Code.Awaits.bind Code.Awaits.entity
    intro booking
    apply Code.Awaits.bind (Code.Awaits.await (by rfl))
    exact fun _ ↦ Code.Awaits.ret _
  · apply Code.Awaits.bind (Code.Awaits.assign _)
    intro _
    apply Code.Awaits.bind Code.Awaits.entity
    intro booking
    apply Code.Awaits.bind (Code.Awaits.await (by rfl))
    exact fun _ ↦ Code.Awaits.raise _

private theorem refundStep_awaits (items : List BookingItem) :
    (refundStep items).Awaits fun o : Op ↦ o.refunds = true := by
  unfold refundStep
  apply Code.Awaits.tryCatch
  · unfold refundSwitch
    apply Code.Awaits.bind Code.Awaits.entity
    intro booking
    split
    · exact refundPaymentStep_awaits
    · exact (releaseSeatsStep_awaits _).mono fun _ ↦ Op.refunds_of_settles
    · exact (completeStep_awaits _).mono fun _ ↦ Op.refunds_of_settles
    · exact Code.Awaits.ret _
    · exact Code.Awaits.raise _
    · exact Code.Awaits.raise _
  · exact fun error ↦ (failRefundStep_awaits error).mono fun _ ↦ Op.refunds_of_settles

/-- What the state machine of refunds awaits. -/
theorem processRefund_awaits (items : List BookingItem) :
    (processRefundStateMachine items).Awaits fun o : Op ↦ o.refunds = true := by
  unfold processRefundStateMachine
  generalize maxSteps = n
  induction n with
  | zero => exact Code.Awaits.ret _
  | succ n ih =>
    apply Code.Awaits.bind (refundStep_awaits items)
    intro outcome
    cases outcome with
    | again => exact ih
    | done => exact Code.Awaits.ret _

/-- `cancelBooking` awaits the operations of a refund. -/
theorem cancelBooking_awaits (b : Id) (userId key : String) (reason : Option String) :
    (cancelBooking b userId key reason).Awaits fun o : Op ↦ o.refunds = true := by
  unfold cancelBooking
  apply Code.Awaits.bind (Code.Awaits.await (by rfl))
  intro found
  cases found with
  | none => exact Code.Awaits.raise _
  | some view =>
    dsimp only
    split
    · exact Code.Awaits.raise _
    · split
      · exact Code.Awaits.raise _
      · apply Code.Awaits.on
        unfold startRefund
        apply Code.Awaits.bind Code.Awaits.entity
        intro booking
        split
        · apply Code.Awaits.bind (Code.Awaits.assign _)
          intro _
          apply Code.Awaits.bind Code.Awaits.entity
          intro booking
          apply Code.Awaits.bind (Code.Awaits.await (by rfl))
          intro _
          apply Code.Awaits.bind (processRefund_awaits _)
          exact fun _ ↦ Code.Awaits.entity
        · apply Code.Awaits.bind (processRefund_awaits _)
          exact fun _ ↦ Code.Awaits.entity

private theorem recoverEach_awaits (views : List BookingView) :
    (recoverEach views).Awaits fun o : Op ↦ o.refunds = true := by
  induction views with
  | nil => exact Code.Awaits.ret _
  | cons view rest ih =>
    unfold recoverEach
    split
    · exact ih
    · apply Code.Awaits.bind
      · apply Code.Awaits.tryCatch
        · apply Code.Awaits.on
          apply Code.Awaits.bind (processRefund_awaits _)
          exact fun _ ↦ Code.Awaits.ret _
        · exact fun _ ↦ Code.Awaits.ret _
      · exact fun _ ↦ ih

/-- What `recoveryStuckRefunds` awaits. -/
theorem recoveryStuckRefunds_awaits :
    recoveryStuckRefunds.Awaits fun o : Op ↦ o.refunds = true := by
  unfold recoveryStuckRefunds
  apply Code.Awaits.bind (Code.Awaits.await (by rfl))
  intro entered
  split
  · apply Code.Awaits.bind
    · apply Code.Awaits.tryCatch
      · unfold recoverStuck
        apply Code.Awaits.bind (Code.Awaits.await (by rfl))
        exact fun views ↦ recoverEach_awaits views
      · intro error
        apply Code.Awaits.bind (Code.Awaits.await (by rfl))
        exact fun _ ↦ Code.Awaits.raise _
    · exact fun _ ↦ Code.Awaits.await (by rfl)
  · exact Code.Awaits.ret _

/-! ### The outbox -/

private theorem newTickets_awaits (b : Id) (items : List BookingItem) :
    (newTickets b items).Awaits fun o : Op ↦ o.dispatches = true := by
  induction items with
  | nil => exact Code.Awaits.ret _
  | cons item rest ih =>
    unfold newTickets
    apply Code.Awaits.bind
    · unfold generateTicketCode
      apply Code.Awaits.bind (Code.Awaits.await (by rfl))
      intro timestamp
      apply Code.Awaits.bind (Code.Awaits.await (by rfl))
      exact fun random ↦ Code.Awaits.ret _
    intro code
    apply Code.Awaits.bind (Code.Awaits.await (by rfl))
    intro data
    apply Code.Awaits.bind ih
    exact fun tickets ↦ Code.Awaits.ret _

/-- `processEntry` awaits the operations of a dispatch. -/
theorem processEntry_awaits (entry : Outbox) :
    (processEntry entry).Awaits fun o : Op ↦ o.dispatches = true := by
  unfold processEntry
  split
  · unfold handleSeatsSold
    apply Code.Awaits.bind (grpc_awaits (by rfl))
    intro success
    split
    · exact Code.Awaits.ret _
    · exact Code.Awaits.raise _
  · unfold handleBookingConfirmed generateTicket
    apply Code.Awaits.bind
    · apply Code.Awaits.bind (Code.Awaits.await (by rfl))
      intro existing
      split
      · exact Code.Awaits.ret _
      · apply Code.Awaits.bind (Code.Awaits.await (by rfl))
        intro items
        split
        · exact Code.Awaits.ret _
        · apply Code.Awaits.bind (newTickets_awaits _ _)
          exact fun tickets ↦ Code.Awaits.await (by rfl)
    · exact fun _ ↦ Code.Awaits.await (by rfl)
  · exact Code.Awaits.await (by rfl)
  · exact Code.Awaits.ret _

private theorem processPending_awaits : processPending.Awaits fun o : Op ↦ o.delivers = true := by
  unfold processPending
  apply Code.Awaits.bind (Code.Awaits.assign _)
  intro _
  apply Code.Awaits.bind Code.Awaits.entity
  intro entry
  apply Code.Awaits.bind (Code.Awaits.await (by rfl))
  intro _
  apply Code.Awaits.tryCatch
  · unfold completeEntry
    apply Code.Awaits.bind Code.Awaits.entity
    intro entry
    apply Code.Awaits.bind
    · exact (Code.Awaits.on (processEntry_awaits _)).mono fun _ ↦ Op.delivers_of_dispatches
    intro _
    apply Code.Awaits.bind (Code.Awaits.assign _)
    intro _
    apply Code.Awaits.bind (Code.Awaits.await (by rfl))
    intro now
    apply Code.Awaits.bind (Code.Awaits.assign _)
    intro _
    apply Code.Awaits.bind Code.Awaits.entity
    exact fun entry ↦ Code.Awaits.await (by rfl)
  · intro error
    unfold retryEntry
    apply Code.Awaits.bind (Code.Awaits.assign _)
    intro _
    apply Code.Awaits.bind (Code.Awaits.assign _)
    intro _
    apply Code.Awaits.bind Code.Awaits.entity
    exact fun entry ↦ Code.Awaits.await (by rfl)

/-- `processOutbox` awaits the operations of a delivery. -/
theorem processOutbox_awaits : processOutbox.Awaits fun o : Op ↦ o.delivers = true := by
  have each : ∀ entries, (processEach entries).Awaits fun o : Op ↦ o.delivers = true := by
    intro entries
    induction entries with
    | nil => exact Code.Awaits.ret _
    | cons entry rest ih =>
      unfold processEach
      apply Code.Awaits.bind (Code.Awaits.on processPending_awaits)
      exact fun _ ↦ ih
  unfold processOutbox
  apply Code.Awaits.bind (Code.Awaits.await (by rfl))
  exact each

/-! ### Jobs -/

/-- The operations of a job. -/
def Job.scope : Job → Op → Bool
  | .createBooking _ => Op.creates
  | .cancelBooking _ _ _ _ | .recoveryStuckRefunds => Op.refunds
  | .processOutbox => Op.delivers

/-- A job awaits the operations of its scope. -/
theorem job_awaits (job : Job) : job.run.Awaits fun o ↦ job.scope o = true := by
  cases job with
  | createBooking dto =>
    apply Code.Awaits.bind (createBooking_awaits dto)
    exact fun _ ↦ Code.Awaits.ret _
  | cancelBooking b userId key reason =>
    apply Code.Awaits.bind (cancelBooking_awaits b userId key reason)
    exact fun _ ↦ Code.Awaits.ret _
  | recoveryStuckRefunds =>
    apply Code.Awaits.bind recoveryStuckRefunds_awaits
    exact fun _ ↦ Code.Awaits.ret _
  | processOutbox =>
    apply Code.Awaits.bind processOutbox_awaits
    exact fun _ ↦ Code.Awaits.ret _

end Ticketing.BookingService
