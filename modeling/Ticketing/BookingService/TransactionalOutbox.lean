import Ticketing.Async.Play
import Ticketing.BookingService.Sound

/-!
# The transactional outbox

Library `BookingService`. A confirmed booking has exactly one `seats.mark_sold` row and one
`booking.confirmed` row, whatever fails and however the jobs interleave.
-/

namespace Ticketing.BookingService

open Async Store

/-- The mode that keeps no jobs from overlapping. -/
def Mode.none : Mode := ⟨false, false⟩

/-- Runs under any regime are runs that keep no jobs from overlapping. -/
theorem Reach.free {G : Regime service} {p : Pool service} (hp : Reach G p) :
    Reach Mode.none.regime p := by
  apply Pool.Reach.mono _ _ hp
  · exact fun _ _ _ ↦ trivial
  · intro i j h
    rcases h with ⟨h, -⟩ | ⟨h, -⟩
    · cases h
    · cases h

/-- The outbox rows of a booking agree with its status, and its `seats.mark_sold` payload
names the seats of its items, each once. -/
theorem outbox_agrees_with_status {p : Pool service} (hp : Reach (.free service) p)
    (hu : UniqueSeats p.conf.log) {r : Booking} (hr : r ∈ p.conf.state.bookings.rows) :
    p.conf.state.countEvents r.id OutboxEvent.isSeatsMarkSold =
        p.conf.state.countEvents r.id OutboxEvent.isBookingConfirmed ∧
      (r.status = .confirmed ∨ r.status = .refunded →
        p.conf.state.countEvents r.id OutboxEvent.isSeatsMarkSold = 1) ∧
      (r.status = .pending ∨ r.status = .cancelled →
        p.conf.state.countEvents r.id OutboxEvent.isSeatsMarkSold = 0) ∧
      ∀ e ∈ p.conf.state.outbox.rows, e.aggregateId = r.id → ∀ eventId userId seatIds,
        e.event = .seatsMarkSold eventId userId seatIds →
          seatIds = (p.conf.state.itemsOf r.id).map BookingItem.seatId ∧ seatIds.Nodup := by
  obtain ⟨owner, hi⟩ := reach_inv hp.free
  have marked := hi.marked r hr
  have confirmed := hi.confirmed r hr
  refine ⟨marked.trans confirmed.symm, ?_, ?_, ?_⟩
  · intro hs
    have : r.settled = true := by rcases hs with hs | hs <;> simp [Booking.settled, hs]
    rw [marked, this, if_pos rfl]
  · intro hs
    have : r.settled = false := by rcases hs with hs | hs <;> simp [Booking.settled, hs]
    rw [marked, this]
    exact if_neg Bool.false_ne_true
  · intro e he ha eventId userId seatIds hv
    obtain ⟨q, hq, -, hd⟩ := hi.entries e he
    rw [ha, Inv.find_of_mem hr] at hq
    cases hq
    rw [hv] at hd
    obtain ⟨-, -, hids⟩ := hd
    exact ⟨hids, hids ▸ hi.seats r hr hu⟩

/-! ### A run that confirms a booking -/

/-- A seat of event `"e"`, as the inventory answers it. -/
def sampleSeat (seatId : String) : SeatInfo where
  id := 0
  eventId := "e"
  seatId := seatId
  sectionId := "s"
  sectionName := "Floor"
  ticketTypeId := "t"
  ticketTypeName := "Standard"
  price := 10000
  currency := "TRY"
  row := "1"
  seatNumber := "1"
  seatType := "seat"
  status := .held

/-- A request of user `"u"` for one seat, with a payment key. -/
def sampleDto (seatId key : String) : CreateBookingDto where
  userId := "u"
  eventId := "e"
  sessionId := "n"
  cardToken := "card"
  paymentIdempotencyKey := key
  paymentProvider := none
  items := [⟨seatId, none, none⟩]

/-- The answer of the payment service for a booking that it charged. -/
def samplePayment (bookingId : Id) (key : String) : PaymentInfo where
  id := 0
  bookingId := bookingId
  idempotencyKey := key
  amount := 10000
  currency := "TRY"
  method := .creditCard
  status := .succeeded
  provider := "stripe"
  providerTxId := "tx"
  failureReason := ""
  paidAt := some 1

/-- Thread `t` takes a step for each choice. -/
def steps (t : Nat) (choices : List Choice) : List (Label service) := choices.map (Label.run t)

/-- Thread `t` takes `n` steps at which nothing is decided. -/
def quietSteps (t n : Nat) : List (Label service) := steps t (List.replicate n {})

/-- Thread `t` creates and confirms booking `b`. -/
def sampleBooking (t : Nat) (b : Id) (seatId : String) : List (Label service) :=
  .spawn (.createBooking (sampleDto seatId "k")) ::
    steps t [{ reply := .seats [sampleSeat seatId] }, { reply := .verified true }] ++
    quietSteps t 8 ++ steps t [{ reply := .payment (some (samplePayment b "k")) }] ++
    quietSteps t 8

/-- The booking of the run has its two outbox rows. -/
theorem outbox_agrees_with_status_confirmed :
    ∃ p, Pool.play (.free service) (sampleBooking 0 0 "A") (.start Db.empty) = some p ∧
      ∃ r ∈ p.conf.state.bookings.rows, r.status = .confirmed ∧
        p.conf.state.countEvents r.id OutboxEvent.isSeatsMarkSold = 1 ∧
        p.conf.state.countEvents r.id OutboxEvent.isBookingConfirmed = 1 := by
  have played : (Pool.play (.free service) (sampleBooking 0 0 "A") (.start Db.empty)).any
      fun p ↦ decide (UniqueSeats p.conf.log) &&
        p.conf.state.bookings.rows.any fun r ↦ r.status = .confirmed := by
    decide +kernel
  rw [Option.any_eq_true] at played
  obtain ⟨p, hp, hs⟩ := played
  rw [Bool.and_eq_true, List.any_eq_true] at hs
  obtain ⟨hu, r, hr, hc⟩ := hs
  have hst : r.status = .confirmed := of_decide_eq_true hc
  obtain ⟨hsame, hone, -, -⟩ := outbox_agrees_with_status (Pool.reach_of_play rfl hp)
    (of_decide_eq_true hu) hr
  exact ⟨p, hp, r, hr, hst, hone (.inl hst), hsame ▸ hone (.inl hst)⟩

end Ticketing.BookingService
