import Ticketing.Async.Prog
import Ticketing.Async.Service
import Ticketing.Async.Play
import Ticketing.Async.RelyGuarantee
import Ticketing.Store.Table
import Ticketing.Base.Messages
import Ticketing.PaymentService.Store
import Ticketing.PaymentService.Service
import Ticketing.SeatInventory.Store
import Ticketing.SeatInventory.Service
import Ticketing.BookingService.Store
import Ticketing.BookingService.Orchestrator
import Ticketing.BookingService.Refund
import Ticketing.BookingService.Ticket
import Ticketing.BookingService.OutboxWorker
import Ticketing.BookingService.Service
import Ticketing.BookingService.History
import Ticketing.BookingService.Invariant
import Ticketing.BookingService.Moves
import Ticketing.BookingService.Steps
import Ticketing.BookingService.Creating
import Ticketing.BookingService.Refunding
import Ticketing.BookingService.Delivering
import Ticketing.BookingService.Sound
import Ticketing.BookingService.TransactionalOutbox
import Ticketing.Async.Refinement
import Ticketing.BookingService.RefundFinality
import Ticketing.BookingService.RefundSaga
import Ticketing.Async.Run
import Ticketing.BookingService.RefundCompletion
import Ticketing.System.PaidMeansBooked
import Ticketing.PaymentService.Moves
import Ticketing.PaymentService.Sound
import Ticketing.System.Platform
import Ticketing.System.Links
import Ticketing.System.ConfirmedPaid
import Ticketing.System.RefundedPaid
import Ticketing.BookingService.Places
import Ticketing.System.DoubleBooking
import Ticketing.System.PaidSeats
import Ticketing.BookingService.Deliveries
import Ticketing.System.RefundedKeepsNothing
import Ticketing.Async.Monitor
import Ticketing.PaymentService.Controllers
import Ticketing.PaymentService.SingleCharge
import Ticketing.PaymentService.RefundStages
import Ticketing.PaymentService.SingleRefund
import Ticketing.PaymentService.RetriedRefund
import Ticketing.BookingService.Scopes
import Ticketing.BookingService.RefundReplies
import Ticketing.System.LostRefundReply
import Ticketing.SeatInventory.Lookups
import Ticketing.System.SeatsReleased
import Ticketing.BookingService.Dispatches
import Ticketing.BookingService.ExclusiveDispatch
import Ticketing.Async.Stopping
import Ticketing.BookingService.LostEntries
import Ticketing.System.RetriedRelease
import Ticketing.BookingService.RefundResumption
import Ticketing.SeatInventory.HeldSeats
import Ticketing.SeatInventory.Holding
import Ticketing.Async.Triples
import Ticketing.SeatInventory.Alone
import Ticketing.SeatInventory.SerialHolds
import Ticketing.SeatInventory.FailedHolds
import Ticketing.SeatInventory.Writers
import Ticketing.SeatInventory.ReleasedSeats
import Ticketing.SeatInventory.SoldSeats
import Ticketing.SeatInventory.LockOwners
import Ticketing.SeatInventory.Creation
import Ticketing.SeatInventory.Bookkeeping
import Ticketing.SeatInventory.ReadModel
import Ticketing.SeatInventory.ReadRefinement
import Ticketing.Async.Translation
import Ticketing.SeatInventory.ReadConcurrency
import Ticketing.Store.Mirror
import Ticketing.SeatInventory.ReadConvergence
import Ticketing.AuthService.Service
import Ticketing.Async.Since
import Ticketing.AuthService.History
import Ticketing.AuthService.Requests
import Ticketing.AuthService.OneTimeTokens
import Ticketing.AuthGuard.JwtAuthGuard
import Ticketing.AuthService.RefreshRotation
import Ticketing.BookingService.Controller
import Ticketing.System.Identity
import Ticketing.EventService.Store
import Ticketing.EventService.Service
import Ticketing.EventService.Emitted
import Ticketing.SeatInventory.CreatedOnce
import Ticketing.System.InventoryCreated
import Ticketing.SeatInventory.ExpiryTick
import Ticketing.Async.Counted
import Ticketing.BookingService.Compensation
import Ticketing.PaymentService.ChargeTruth
import Ticketing.BookingService.OutboxRetries
import Ticketing.BookingService.TicketIssue
import Ticketing.TicketService.CheckIn
import Ticketing.PaymentService.Idempotency
import Ticketing.BookingService.SeatSelection
import Ticketing.System.SeatPricing
import Ticketing.System.SeatIds
import Ticketing.PaymentService.KeyInProgress
import Ticketing.PaymentService.StripeGateway
import Ticketing.Store.SlidingWindow
import Ticketing.ApiGateway.RateLimit
import Ticketing.ApiGateway.SlidingLimit
import Ticketing.ApiGateway.ConcurrentLimit
import Ticketing.ApiGateway.Proxy
import Ticketing.Base.Values
import Ticketing.NotificationService.Consumers
import Ticketing.Store.Owners
import Ticketing.SeatInventory.AllOrNothing
import Ticketing.Store.Receipts
import Ticketing.NotificationService.TemplateEngine
import Ticketing.NotificationService.Service
import Ticketing.NotificationService.Deliveries
import Ticketing.NotificationService.Outcomes
import Ticketing.NotificationService.Attendees
import Ticketing.BookingService.OutboxRounds
import Ticketing.BookingService.Emissions
import Ticketing.System.AttendeesTold
import Ticketing.PaymentService.Books
import Ticketing.PaymentService.Charges
import Ticketing.PaymentService.Balance
import Ticketing.BookingService.PaidTickets
import Ticketing.Async.Relabel
import Ticketing.System.Revenue
import Ticketing.BookingService.RefundRequests
import Ticketing.PaymentService.RefundOrders
import Ticketing.System.RefundsAsked
import Ticketing.SeatInventory.StatusWrites
import Ticketing.BookingService.CompletedSales
import Ticketing.System.SalesBooked
