import Ticketing.BookingService.Invariant

/-!
# What one operation of the booking service can do

Library `BookingService`. The moves that the threads guarantee to each other: which thread
may store which row, and what is stored before a call to another service.
-/

namespace Ticketing.BookingService

open Async Store

/-- Which jobs the runs under consideration keep from overlapping. -/
structure Mode where
  outbox : Bool
  refunds : Bool

/-- The job works on refunds. -/
def Job.refunds : Job → Bool
  | .cancelBooking _ _ _ _ | .recoveryStuckRefunds => true
  | .createBooking _ | .processOutbox => false

/-- Every interleaving, but for the jobs that the mode keeps from overlapping. -/
def Mode.regime (M : Mode) : Regime service where
  may _ _ := True
  excl i j :=
    (M.outbox = true ∧ i = .processOutbox ∧ j = .processOutbox) ∨
      (M.refunds = true ∧ i.refunds = true ∧ j.refunds = true)

instance (M : Mode) (c : Conf service) (ev : Event service) : Decidable (M.regime.may c ev) :=
  inferInstanceAs (Decidable True)

instance (M : Mode) (i j : Job) : Decidable (M.regime.excl i j) :=
  inferInstanceAs (Decidable (_ ∨ _))

/-- A new row of a booking, by what the code stores it for. -/
inductive BookingMove (M : Mode) (ev : Event service) (c : Conf service)
    (owner : Id → Option Nat) (b : Id) : Booking → Prop where
  | persisted {r : Booking} {items : List BookingItem}
      (op : ev.op = .commit [.booking r, .items items]) (absent : c.state.bookings.find b = none)
      (own : owner b = some ev.tid) (pending : r.status = .pending)
      (state : r.refundState = none) : BookingMove M ev c owner b r
  | confirmed {r r' : Booking} (found : c.state.bookings.find b = some r)
      (own : owner b = some ev.tid) (pending : r.status = .pending) (order : r'.order = r.order)
      (status : r'.status = .confirmed) (state : r'.refundState = none) :
      BookingMove M ev c owner b r'
  | cancelled {r r' : Booking} (found : c.state.bookings.find b = some r)
      (own : owner b = some ev.tid) (unsettled : r.settled = false) (order : r'.order = r.order)
      (status : r'.status = .cancelled) (state : r'.refundState = none) :
      BookingMove M ev c owner b r'
  | refund {r base r' : Booking} (job : ev.job.refunds = true)
      (found : c.state.bookings.find b = some r) (settled : r.settled = true)
      (settled' : r'.settled = true) (order : r'.order = r.order)
      (state : r'.refundState ≠ none) (last : seen ev.tid b c.log = some base)
      (alone : M.refunds = true → base = r) (forward : Forward base r') :
      BookingMove M ev c owner b r'

/-- How the status of an outbox row goes on when ticks do not overlap. -/
inductive OutboxStatus.Next : OutboxStatus → OutboxStatus → Prop where
  | start : Next .pending .processing
  | complete : Next .processing .completed
  | retry : Next .processing .pending
  | fail : Next .processing .failed

/-- A new outbox row, by what the code stores it for. -/
inductive EntryMove (M : Mode) (ev : Event service) (c : Conf service) (n : Id) :
    Outbox → Prop where
  | created {e : Outbox} (absent : c.state.outbox.find n = none) (status : e.status = .pending)
      (news : ∀ r, c.state.bookings.find e.aggregateId = some r → r.settled = true →
        e.event.isBookingRefunded = true) : EntryMove M ev c n e
  | saved {e e' : Outbox} (job : ev.job = .processOutbox)
      (found : c.state.outbox.find n = some e) (event : e'.event = e.event)
      (aggregate : e'.aggregateId = e.aggregateId)
      (next : M.outbox = true → OutboxStatus.Next e.status e'.status) : EntryMove M ev c n e'

/-- What is stored when a thread executes an operation. -/
def Acts (M : Mode) (c : Conf service) : Op → Prop
  | .rpc issuer (.initiatePayment d) =>
    issuer = some d.bookingId ∧ ∃ r, c.state.bookings.find d.bookingId = some r ∧
      r.status = .pending ∧ d.amount = r.totalAmount ∧ d.currency = r.currency
  | .rpc issuer (.refundPayment b key _) =>
    issuer = some b ∧ ∃ r, c.state.bookings.find b = some r ∧
      (M.refunds = true →
        r.refundState = some .refundInitiated ∧ key = r.refundIdempotencyKey.getD "")
  | .rpc issuer (.releaseSoldSeats e ids) =>
    ∃ b r, issuer = some b ∧ c.state.bookings.find b = some r ∧ r.settled = true ∧
      e = r.eventId ∧ ids = (c.state.itemsOf b).map BookingItem.seatId ∧ Refunded c.log b ∧
      (M.refunds = true → r.refundState = some .paymentRefunded)
  | .rpc issuer (.markSeatsAsSold e ids u) =>
    ∃ entry ∈ c.state.outbox.rows, issuer = some entry.aggregateId ∧
      entry.event = .seatsMarkSold e u ids ∧ (M.outbox = true → entry.status = .processing)
  | .cancelTickets b =>
    Released c.log b ∧ ∃ r, c.state.bookings.find b = some r ∧
      (M.refunds = true → r.refundState = some .seatsReleased)
  | .saveTickets tickets =>
    ∃ b, (∀ ticket ∈ tickets, ticket.bookingId = b) ∧ (M.outbox = true →
      ∃ entry ∈ c.state.outbox.rows, entry.aggregateId = b ∧
        entry.event.isBookingConfirmed = true ∧ entry.status = .processing)
  | _ => True

/-- One operation of a thread, from a configuration to the next. -/
structure Moves (M : Mode) (ev : Event service) (c : Conf service) (owner : Id → Option Nat)
    (c' : Conf service) (owner' : Id → Option Nat) : Prop where
  log : c'.log = ev :: c.log
  owners : ∀ b t, owner b = some t → owner' b = some t
  bookings : ∀ b, c'.state.bookings.find b = c.state.bookings.find b ∨
    ∃ r, c'.state.bookings.find b = some r ∧ ev.op.stored b ev.answer = some r ∧
      BookingMove M ev c owner b r
  items : ∀ b r, c.state.bookings.find b = some r → c'.state.itemsOf b = c.state.itemsOf b
  outbox : ∀ n, c'.state.outbox.find n = c.state.outbox.find n ∨
    ∃ e, c'.state.outbox.find n = some e ∧ EntryMove M ev c n e
  acts : Acts M c ev.op

/-- The rules of the booking service. -/
abbrev Mode.rules (M : Mode) : Rules service where
  regime := M.regime
  Ghost := Id → Option Nat
  inv c owner := Inv c.state c.log owner
  guar t j c owner c' owner' := ∃ o a, Moves M ⟨t, j, o, a⟩ c owner c' owner'

namespace Moves

variable {M : Mode} {ev : Event service} {c c' : Conf service} {owner owner' : Id → Option Nat}

/-- Confirmed bookings stay confirmed or refunded, with their order and items. -/
theorem settled (h : Moves M ev c owner c' owner') {b : Id} {r : Booking}
    (hf : c.state.bookings.find b = some r) (hs : r.settled = true) :
    ∃ r', c'.state.bookings.find b = some r' ∧ r'.settled = true ∧ r'.order = r.order := by
  rcases h.bookings b with he | ⟨r', hr', -, hm⟩
  · exact ⟨r, he.trans hf, hs, rfl⟩
  · refine ⟨r', hr', ?_⟩
    cases hm with
    | persisted op absent own pending state =>
      rw [hf] at absent
      cases absent
    | confirmed found own pending order status state =>
      rw [hf] at found
      cases found
      simp [Booking.settled, pending] at hs
    | cancelled found own unsettled order status state =>
      rw [hf] at found
      cases found
      rw [hs] at unsettled
      cases unsettled
    | refund job found settled settled' order =>
      rw [hf] at found
      cases found
      exact ⟨settled', order⟩

/-- Moves remove no booking. -/
theorem stored (h : Moves M ev c owner c' owner') {b : Id} {r : Booking}
    (hf : c.state.bookings.find b = some r) : ∃ r', c'.state.bookings.find b = some r' := by
  rcases h.bookings b with he | ⟨r', hr', -, -⟩
  · exact ⟨r, he.trans hf⟩
  · exact ⟨r', hr'⟩

/-- Nobody else stores the row of a booking that thread `t` has not confirmed yet. -/
theorem unsettled (h : Moves M ev c owner c' owner') {t : Nat} {b : Id} {r : Booking}
    (ht : ev.tid ≠ t) (ho : owner b = some t) (hf : c.state.bookings.find b = some r)
    (hs : r.settled = false) : c'.state.bookings.find b = some r := by
  rcases h.bookings b with he | ⟨r', -, -, hm⟩
  · exact he.trans hf
  · cases hm with
    | persisted op absent own pending state =>
      rw [hf] at absent
      cases absent
    | confirmed found own pending order status state =>
      rw [ho] at own
      exact absurd (Option.some.inj own).symm ht
    | cancelled found own unsettled order status state =>
      rw [ho] at own
      exact absurd (Option.some.inj own).symm ht
    | refund job found settled =>
      rw [hf] at found
      cases found
      rw [hs] at settled
      cases settled

/-- Nobody else stores a booking that thread `t` is about to store. -/
theorem absent (h : Moves M ev c owner c' owner') {t : Nat} {b : Id} (ht : ev.tid ≠ t)
    (ho : owner b = some t) (hf : c.state.bookings.find b = none) :
    c'.state.bookings.find b = none := by
  rcases h.bookings b with he | ⟨r', -, -, hm⟩
  · exact he.trans hf
  · cases hm with
    | persisted op absent own pending state =>
      rw [ho] at own
      exact absurd (Option.some.inj own).symm ht
    | confirmed found => rw [hf] at found; cases found
    | cancelled found => rw [hf] at found; cases found
    | refund job found => rw [hf] at found; cases found

/-- Jobs that do not work on refunds leave the row of a confirmed booking as it is. -/
theorem settled_eq (h : Moves M ev c owner c' owner') (hj : ev.job.refunds = false) {b : Id}
    {r : Booking} (hf : c.state.bookings.find b = some r) (hs : r.settled = true) :
    c'.state.bookings.find b = some r := by
  rcases h.bookings b with he | ⟨r', -, -, hm⟩
  · exact he.trans hf
  · cases hm with
    | persisted op absent => rw [hf] at absent; cases absent
    | confirmed found own pending =>
      rw [hf] at found
      cases found
      simp [Booking.settled, pending] at hs
    | cancelled found own unsettled =>
      rw [hf] at found
      cases found
      rw [hs] at unsettled
      cases unsettled
    | refund job =>
      rw [hj] at job
      cases job

/-- An outbox row keeps its event and its booking. -/
theorem entry (h : Moves M ev c owner c' owner') {n : Id} {e : Outbox}
    (hf : c.state.outbox.find n = some e) :
    ∃ e', c'.state.outbox.find n = some e' ∧ e'.event = e.event ∧
      e'.aggregateId = e.aggregateId := by
  rcases h.outbox n with he | ⟨e', he', hm⟩
  · exact ⟨e, he.trans hf, rfl, rfl⟩
  · refine ⟨e', he', ?_⟩
    cases hm with
    | created absent => rw [hf] at absent; cases absent
    | saved job found event aggregate next =>
      rw [hf] at found
      cases found
      exact ⟨event, aggregate⟩

/-- Jobs other than the outbox tick leave every outbox row as it is. -/
theorem entry_eq (h : Moves M ev c owner c' owner') {n : Id} {e : Outbox}
    (hj : ev.job ≠ .processOutbox) (hf : c.state.outbox.find n = some e) :
    c'.state.outbox.find n = some e := by
  rcases h.outbox n with he | ⟨e', -, hm⟩
  · exact he.trans hf
  · cases hm with
    | created absent => rw [hf] at absent; cases absent
    | saved job => exact absurd job hj

end Moves

end Ticketing.BookingService
