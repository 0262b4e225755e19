import Ticketing.NotificationService.Outcomes

/-!
# Whom the messages of a booking reach

Library `NotificationService`. What a delivery of a booking's message notifies of, as the booking
service emits it. The values have no title of the event and no reason of a cancellation.
-/

namespace Ticketing.NotificationService

open Async
open BookingService (BookingPayload SeatPayload)

/-! ### What the handlers read -/

variable (payload : BookingPayload) (seat : SeatPayload)

/-- The properties of a booking that come before its status. -/
theorem get_bookingValue {name : String} {v : Value}
    (h : [("bookingId", Value.str (toString payload.bookingId)),
      ("bookingNumber", .str payload.bookingNumber), ("userId", .str payload.userId),
      ("eventId", .str payload.eventId), ("totalAmount", .num payload.totalAmount),
      ("currency", .str payload.currency)].lookup name = some v) :
    (bookingValue payload).get name = .ok v := by
  rw [bookingValue, Value.get_obj, List.lookup_append, List.lookup_append, h]
  rfl

/-- Properties that a booking does not have. -/
theorem get_bookingValue_none {name : String}
    (h : ["bookingId", "bookingNumber", "userId", "eventId", "totalAmount", "currency", "status",
      "items"].contains name = false) : (bookingValue payload).get name = .ok .undefined := by
  simp only [List.contains_cons, List.contains_nil, Bool.or_false, Bool.or_eq_false_iff] at h
  rw [bookingValue, Value.get_obj]
  cases payload.status <;> simp [List.lookup_cons, h]

/-- The mail that confirms a booking to the attendee of a seat. -/
def confirmation : SendNotificationInput where
  userId := .str payload.userId
  channel := .email
  type := "booking_confirmed"
  templateId := "booking_confirmed"
  recipient := .text seat.attendeeEmail
  payload :=
    [("attendeeName", (Value.text seat.attendeeName).or (.str "Guest")),
      ("bookingNumber", .str payload.bookingNumber), ("eventTitle", .undefined),
      ("totalAmount", .num payload.totalAmount), ("currency", .str payload.currency),
      ("seats", .arr (payload.items.map seatValue))]

/-- The mail about a payment that failed. -/
def cancellation : SendNotificationInput where
  userId := .str payload.userId
  channel := .email
  type := "payment_failed"
  templateId := "payment_failed"
  recipient := .text seat.attendeeEmail
  payload :=
    [("bookingNumber", .str payload.bookingNumber), ("reason", .str "Payment failed")]

/-- The seat has the address of its attendee. -/
def hasEmail (seat : SeatPayload) : Bool := (Value.text seat.attendeeEmail).truthy

/-- A seat's payload has the attendee's address. -/
theorem get_attendeeEmail :
    (seatValue seat).get "attendeeEmail" = .ok (.text seat.attendeeEmail) := by
  rw [seatValue, Value.get_obj]
  cases seat.seatId <;> simp [List.lookup_cons]

/-- A seat's payload has the attendee's name. -/
theorem get_attendeeName : (seatValue seat).get "attendeeName" = .ok (.text seat.attendeeName) := by
  rw [seatValue, Value.get_obj]
  cases seat.seatId <;> simp [List.lookup_cons]

/-- Reading a value that is there goes on with it. -/
theorem read_ok {α β : Type} (a : α) (f : α → Code sig Unit β) : read (.ok a) >>= f = f a := rfl

/-! ### What they send -/

/-- An item of a confirmation is mailed if its attendee has an address. -/
theorem confirmItem_seatValue :
    confirmItem (bookingValue payload) (seatValue seat) =
      if hasEmail seat then send (confirmation payload seat) else pure () := by
  have userId : (bookingValue payload).get "userId" = .ok (.str payload.userId) :=
    get_bookingValue payload rfl
  have bookingNumber : (bookingValue payload).get "bookingNumber" =
    .ok (.str payload.bookingNumber) := get_bookingValue payload rfl
  have totalAmount : (bookingValue payload).get "totalAmount" = .ok (.num payload.totalAmount) :=
    get_bookingValue payload rfl
  have currency : (bookingValue payload).get "currency" = .ok (.str payload.currency) :=
    get_bookingValue payload rfl
  have eventTitle : (bookingValue payload).get "eventTitle" = .ok .undefined :=
    get_bookingValue_none payload rfl
  unfold confirmItem
  simp only [get_attendeeEmail, get_attendeeName, userId, bookingNumber, totalAmount, currency,
    eventTitle, items_bookingValue, read_ok]
  unfold hasEmail
  cases (Value.text seat.attendeeEmail).truthy <;> rfl

/-- A confirmation plans one mail for each seat whose attendee has an address. -/
theorem planned_confirmItems (seats : List SeatPayload) :
    planned (forEach (confirmItem (bookingValue payload)) (seats.map seatValue) ()) =
      (seats.filter hasEmail).map (confirmation payload) := by
  induction seats with
  | nil => rfl
  | cons seat rest ih =>
    rw [List.map_cons, forEach, confirmItem_seatValue, List.filter_cons]
    cases hasEmail seat with
    | false => exact ih
    | true => exact congrArg (confirmation payload seat :: ·) ih

/-- A confirmation is mailed to every attendee with an address. -/
theorem notifications_confirmed :
    (⟨.bookingConfirmed, bookingValue payload⟩ : Delivery).notifications =
      (payload.items.filter hasEmail).map (confirmation payload) := by
  have bookingId : (bookingValue payload).get "bookingId" =
    .ok (.str (toString payload.bookingId)) := get_bookingValue payload rfl
  rw [Delivery.notifications_eq, ← planned_confirmItems]
  show planned (handleBookingConfirmed (bookingValue payload) ()) = _
  unfold handleBookingConfirmed
  rw [(plain_bookingValue payload).bare]
  simp only [bookingId, items_bookingValue, read_ok]
  rfl

/-- A cancellation is mailed to the attendee of the first seat, if there is an address. -/
theorem notifications_cancelled :
    (⟨.bookingCancelled, bookingValue payload⟩ : Delivery).notifications =
      (payload.items.head?.filter hasEmail).toList.map (cancellation payload) := by
  have bookingId : (bookingValue payload).get "bookingId" =
    .ok (.str (toString payload.bookingId)) := get_bookingValue payload rfl
  have userId : (bookingValue payload).get "userId" = .ok (.str payload.userId) :=
    get_bookingValue payload rfl
  have bookingNumber : (bookingValue payload).get "bookingNumber" =
    .ok (.str payload.bookingNumber) := get_bookingValue payload rfl
  have reason : (bookingValue payload).get "cancellationReason" = .ok .undefined :=
    get_bookingValue_none payload rfl
  rw [Delivery.notifications_eq]
  show planned (handleBookingCancelled (bookingValue payload) ()) = _
  unfold handleBookingCancelled
  rw [(plain_bookingValue payload).bare]
  simp only [bookingId, userId, bookingNumber, reason, items_bookingValue, read_ok]
  cases payload.items with
  | nil => rfl
  | cons seat rest =>
    have email : (seatValue seat).get? "attendeeEmail" = .text seat.attendeeEmail :=
      Except.ok.inj (get_attendeeEmail seat)
    simp only [List.map_cons, Value.first?, email, List.head?_cons, Option.filter_some]
    unfold hasEmail
    cases (Value.text seat.attendeeEmail).truthy <;> rfl

/-- A refund is mailed to nobody, as its handler expects an envelope. -/
theorem notifications_refunded :
    (⟨.bookingRefunded, bookingValue payload⟩ : Delivery).notifications = [] := by
  rw [Delivery.notifications_eq]
  show planned (handleBookingRefunded (bookingValue payload) ()) = _
  unfold handleBookingRefunded
  rw [show (bookingValue payload).get "value" = .ok .undefined from
    get_bookingValue_none payload rfl]
  rfl

private theorem mem_planned_read {α β : Type} {a : Except Exception α} {f : α → Code sig Unit β}
    {P : SendNotificationInput → Prop} (h : ∀ v, ∀ input ∈ planned (f v ()), P input) :
    ∀ input ∈ planned ((read a >>= f) ()), P input := by
  cases a with
  | ok v => exact h v
  | error e => exact fun input hm ↦ absurd hm List.not_mem_nil

/-- The notifications about an account have the type of their handler. -/
theorem type_handleMail (type link : String) (value : Value) :
    ∀ input ∈ planned (handleMail type link value ()), input.type = type := by
  refine mem_planned_read fun data ↦ mem_planned_read fun _ ↦ mem_planned_read fun userId ↦ ?_
  refine mem_planned_read fun recipient ↦ mem_planned_read fun fullName ↦ ?_
  refine mem_planned_read fun url input hm ↦ ?_
  rw [List.mem_singleton.mp hm]

end Ticketing.NotificationService
