import Ticketing.BookingService.Service

/-!
# What the history of the booking service shows

Library `BookingService`. Facts about the executed operations: which of them stored or
loaded a row, and which answers of other services a stored status rests on.
-/

namespace Ticketing.BookingService

open Async Store

/-! ### Reads and writes of booking rows -/

/-- The row of a booking that a statement stores. -/
def Write.stored (b : Id) : Write → Option Booking
  | .booking r => if r.id = b then some r else none
  | _ => none

/-- The row of a booking that the operation stored. -/
def Op.stored (b : Id) : (o : Op) → sig.Answer o → Option Booking
  | .saveBooking r, .ok _ => if r.id = b then some r else none
  | .commit ws, .ok _ => ws.findSome? (Write.stored b)
  | _, _ => none

/-- The row of a booking that the operation loaded. -/
def Op.loaded (b : Id) : (o : Op) → sig.Answer o → Option Booking
  | .findBooking _, .ok (some v) => if v.booking.id = b then some v.booking else none
  | .findStuckBookings, .ok vs => (vs.map BookingView.booking).find? fun r ↦ r.id = b
  | _, _ => none

/-- The row of a booking that the operation loaded or stored. -/
def Op.row (b : Id) (o : Op) (a : sig.Answer o) : Option Booking := (o.stored b a).or (o.loaded b a)

/-- The row of a booking that thread `t` loaded or stored last. -/
def seen (t : Nat) (b : Id) : List (Event service) → Option Booking
  | [] => none
  | ev :: log =>
    if ev.tid = t then (ev.op.row b ev.answer).or (seen t b log) else seen t b log

/-- What another thread does is not seen. -/
theorem seen_other {t : Nat} {b : Id} {ev : Event service} {log : List (Event service)}
    (ht : ev.tid ≠ t) : seen t b (ev :: log) = seen t b log := if_neg ht

/-- An operation without a row of the booking leaves the last one. -/
theorem seen_skip {t : Nat} {b : Id} {ev : Event service} {log : List (Event service)}
    (h : ev.op.row b ev.answer = none) : seen t b (ev :: log) = seen t b log := by
  simp [seen, h]

/-- An operation with a row of the booking. -/
theorem seen_row {t : Nat} {b : Id} {ev : Event service} {log : List (Event service)}
    {r : Booking} (ht : ev.tid = t) (h : ev.op.row b ev.answer = some r) :
    seen t b (ev :: log) = some r := by
  simp [seen, h, ht]

/-! ### The rows that the code works on -/

namespace Booking

/-- The columns that are never assigned after the booking was created. -/
def order (r : Booking) : Id × String × String × String × Money × String :=
  (r.id, r.bookingNumber, r.userId, r.eventId, r.totalAmount, r.currency)

/-- The booking was confirmed; it may have been refunded since. -/
def settled (r : Booking) : Bool := r.status = .confirmed || r.status = .refunded

/-- Rows of the same order have the same identifier. -/
theorem id_of_order {r r' : Booking} (h : r.order = r'.order) : r.id = r'.id := by
  simp only [order, Prod.mk.injEq] at h
  exact h.1

end Booking

/-- The arrows of the refund diagram. -/
inductive RefundStep : Option RefundState → Option RefundState → Prop where
  | start : RefundStep none (some .refundInitiated)
  | pay : RefundStep (some .refundInitiated) (some .paymentRefunded)
  | fail : RefundStep (some .refundInitiated) (some .failed)
  | release : RefundStep (some .paymentRefunded) (some .seatsReleased)
  | complete : RefundStep (some .seatsReleased) (some .completed)

/-- A later row of the same refund: the state stays or takes one arrow, and the key of a
started refund stays. -/
structure Forward (r r' : Booking) : Prop where
  state : r'.refundState = r.refundState ∨ RefundStep r.refundState r'.refundState
  key : r.refundState ≠ none → r'.refundIdempotencyKey = r.refundIdempotencyKey

/-- Storing the same refund columns again is no step back. -/
theorem Forward.refl (r : Booking) : Forward r r := ⟨.inl rfl, fun _ ↦ rfl⟩

/-! ### Answers that a stored status rests on -/

/-- The payment service answered `SUCCEEDED` to a request that names the booking and what it costs;
what it has charged for this is its own matter. -/
def Paid (log : List (Event service)) (r : Booking) : Prop :=
  ∃ t j d info,
    (⟨t, j, .rpc (some r.id) (.initiatePayment d), .ok (.payment (some info))⟩ : Event service) ∈
      log ∧ info.status = .succeeded ∧ d.bookingId = r.id ∧ d.amount = r.totalAmount ∧
      d.currency = r.currency

/-- The payment service answered a refund of the booking, with this `success`. -/
def RefundAnswered (success : Bool) (log : List (Event service)) (b : Id) : Prop :=
  ∃ t j key reason id why,
    (⟨t, j, .rpc (some b) (.refundPayment b key reason), .ok (.refund success id why)⟩ :
      Event service) ∈ log

/-- The payment service answered `success` to a refund request that names the booking. -/
abbrev Refunded : List (Event service) → Id → Prop := RefundAnswered true

/-- The payment service answered that the refund did not succeed. -/
abbrev Refused : List (Event service) → Id → Prop := RefundAnswered false

/-- The seat inventory answered the release of the booking's seats. -/
def Released (log : List (Event service)) (b : Id) : Prop :=
  ∃ t j e ids reply,
    (⟨t, j, .rpc (some b) (.releaseSoldSeats e ids), .ok reply⟩ : Event service) ∈ log

/-- The tickets of the booking were cancelled. -/
def TicketsCancelled (log : List (Event service)) (b : Id) : Prop :=
  ∃ t j, (⟨t, j, .cancelTickets b, .ok ()⟩ : Event service) ∈ log

/-- The seats that the inventory answered. -/
def Op.seats : (o : Op) → sig.Answer o → List SeatInfo
  | .rpc _ (.getSeatsByEvent _), .ok (.seats seats) => seats
  | _, _ => []

/-- Every list of seats that the inventory answered has one entry for a seat. -/
def UniqueSeats (log : List (Event service)) : Prop :=
  ∀ ev ∈ log, ((ev.op.seats ev.answer).map SeatInfo.seatId).Nodup

instance (log : List (Event service)) : Decidable (UniqueSeats log) :=
  inferInstanceAs (Decidable (∀ ev ∈ log, _))

/-- What a stored row, or an entity that is about to be stored, says is borne out by the
history. -/
structure RowOk (log : List (Event service)) (r : Booking) : Prop where
  started : r.refundState ≠ none → r.settled = true
  refunded : r.status = .refunded ↔ r.refundState = some .completed
  paid : r.settled = true → Paid log r
  paymentRefunded : r.refundState = some .paymentRefunded ∨ r.refundState = some .seatsReleased ∨
    r.refundState = some .completed → Refunded log r.id
  seatsReleased : r.refundState = some .seatsReleased ∨ r.refundState = some .completed →
    Released log r.id
  completed : r.refundState = some .completed → TicketsCancelled log r.id
  failed : r.refundState = some .failed → Refused log r.id

variable {log : List (Event service)} {ev : Event service}

/-- A booking that was paid stays paid in a longer history. -/
theorem Paid.cons {r : Booking} (h : Paid log r) : Paid (ev :: log) r := by
  obtain ⟨t, j, d, info, hm, h⟩ := h
  exact ⟨t, j, d, info, List.mem_cons_of_mem _ hm, h⟩

/-- An answered refund stays answered in a longer history. -/
theorem RefundAnswered.cons {success : Bool} {b : Id} (h : RefundAnswered success log b) :
    RefundAnswered success (ev :: log) b := by
  obtain ⟨t, j, key, reason, id, why, hm⟩ := h
  exact ⟨t, j, key, reason, id, why, List.mem_cons_of_mem _ hm⟩

/-- Released seats stay released in a longer history. -/
theorem Released.cons {b : Id} (h : Released log b) : Released (ev :: log) b := by
  obtain ⟨t, j, e, ids, reply, hm⟩ := h
  exact ⟨t, j, e, ids, reply, List.mem_cons_of_mem _ hm⟩

/-- Cancelled tickets stay cancelled in a longer history. -/
theorem TicketsCancelled.cons {b : Id} (h : TicketsCancelled log b) :
    TicketsCancelled (ev :: log) b := by
  obtain ⟨t, j, hm⟩ := h
  exact ⟨t, j, List.mem_cons_of_mem _ hm⟩

/-- Unique seats in a history are unique in its beginning. -/
theorem UniqueSeats.tail (h : UniqueSeats (ev :: log)) : UniqueSeats log :=
  fun e he ↦ h e (List.mem_cons_of_mem _ he)

/-- A row that the history bears out is borne out by a longer one. -/
theorem RowOk.cons {r : Booking} (h : RowOk log r) : RowOk (ev :: log) r where
  started := h.started
  refunded := h.refunded
  paid hs := (h.paid hs).cons
  paymentRefunded hs := (h.paymentRefunded hs).cons
  seatsReleased hs := (h.seatsReleased hs).cons
  completed hs := (h.completed hs).cons
  failed hs := (h.failed hs).cons

/-- Evidence of a payment depends on the order only. -/
theorem Paid.of_order {r r' : Booking} (h : Paid log r) (ho : r'.order = r.order) :
    Paid log r' := by
  simp only [Booking.order, Prod.mk.injEq] at ho
  obtain ⟨hi, -, -, -, ha, hc⟩ := ho
  obtain ⟨t, j, d, info, hm, h⟩ := h
  refine ⟨t, j, d, info, ?_, ?_⟩
  · rw [hi]
    exact hm
  · rw [hi, ha, hc]
    exact h

end Ticketing.BookingService
