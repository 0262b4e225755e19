import Ticketing.Async.Triples
import Ticketing.AuthService.Store
import Ticketing.Base.Values
import Ticketing.BookingService.Store

/-!
# The consumers of the notification service

Library `NotificationService`. Follows `consumers/booking.consumer.ts` and `auth.consumer.ts`. The
handlers are given the value of a message, or an object with the value as its property. Sending a
notification is one operation.
-/

namespace Ticketing.NotificationService

open Async

/-- `NotificationChannel`. -/
inductive NotificationChannel where
  | email
  | sms
  | push
  deriving DecidableEq, Repr

/-- `SendNotificationInput`, with the values that the handlers read. -/
structure SendNotificationInput where
  userId : Value
  channel : NotificationChannel
  type : String
  templateId : String
  recipient : Value
  payload : List (String × Value)

/-- `NotificationService.send`. -/
inductive Op where
  | send (input : SendNotificationInput)

/-- The operations of the handlers. -/
abbrev sig : Sig := ⟨Op, fun _ ↦ Unit, Exception⟩

/-- A handler of messages. -/
abbrev Handling : Type := Code sig Unit Unit

/-- `await this.notificationService.send(input)`. -/
def send (input : SendNotificationInput) : Handling := Code.await (S := sig) (.send input)

/-- Read a value, or throw. -/
def read {α : Type} : Except Exception α → Code sig Unit α
  | .ok a => pure a
  | .error e => throw e

/-- The body of the loop in `handleBookingConfirmed`. -/
def confirmItem (data item : Value) : Handling := do
  let attendeeEmail ← read (item.get "attendeeEmail")
  if !attendeeEmail.truthy then pure ()
  else
    send
      { userId := ← read (data.get "userId")
        channel := .email
        type := "booking_confirmed"
        templateId := "booking_confirmed"
        recipient := attendeeEmail
        payload :=
          [("attendeeName", (← read (item.get "attendeeName")).or (.str "Guest")),
            ("bookingNumber", ← read (data.get "bookingNumber")),
            ("eventTitle", ← read (data.get "eventTitle")),
            ("totalAmount", ← read (data.get "totalAmount")),
            ("currency", ← read (data.get "currency")),
            ("seats", ← read (data.get "items"))] }

/-- A handler is called for each item. -/
def forEach (body : Value → Handling) : List Value → Handling
  | [] => pure ()
  | item :: rest => do
    body item
    forEach body rest

/-- `BookingConsumer.handleBookingConfirmed`. -/
def handleBookingConfirmed (payload : Value) : Handling := do
  let data := (payload.get? "value").coalesce payload
  let _ ← read (data.get "bookingId")
  let items ← read ((← read (data.get "items")).items "data.items")
  forEach (confirmItem data) items

/-- `BookingConsumer.handleBookingCancelled`. -/
def handleBookingCancelled (payload : Value) : Handling := do
  let data := (payload.get? "value").coalesce payload
  let _ ← read (data.get "bookingId")
  let primaryEmail := (← read (data.get "items")).first?.get? "attendeeEmail"
  if !primaryEmail.truthy then pure ()
  else
    send
      { userId := ← read (data.get "userId")
        channel := .email
        type := "payment_failed"
        templateId := "payment_failed"
        recipient := primaryEmail
        payload :=
          [("bookingNumber", ← read (data.get "bookingNumber")),
            ("reason", (← read (data.get "cancellationReason")).or (.str "Payment failed"))] }

/-- `BookingConsumer.handleBookingRefunded`. -/
def handleBookingRefunded (payload : Value) : Handling := do
  let data ← read (payload.get "value")
  let _ ← read (data.get "bookingNumber")
  let primaryEmail := (← read (data.get "items")).first?.get? "attendeeEmail"
  if !primaryEmail.truthy then pure ()
  else
    send
      { userId := ← read (data.get "userId")
        channel := .email
        type := "booking_refunded"
        templateId := "booking_refunded"
        recipient := primaryEmail
        payload :=
          [("bookingNumber", ← read (data.get "bookingNumber")),
            ("totalAmount", ← read (data.get "totalAmount")),
            ("currency", ← read (data.get "currency"))] }

/-- What the handlers of `AuthConsumer` share: a mail with a link, which is a property of the
value. -/
def handleMail (type link : String) (payload : Value) : Handling := do
  let data ← read (payload.get "value")
  let _ ← read (data.get "email")
  send
    { userId := ← read (data.get "userId")
      channel := .email
      type
      templateId := type
      recipient := ← read (data.get "email")
      payload :=
        [("fullName", ← read (data.get "fullName")), (link, ← read (data.get link))] }

/-- `AuthConsumer.handleEmailVerification`. -/
def handleEmailVerification : Value → Handling := handleMail "email_verification" "verificationUrl"

/-- `AuthConsumer.handlePasswordReset`. -/
def handlePasswordReset : Value → Handling := handleMail "password_reset" "resetUrl"

/-- What the service listens to. -/
inductive Topic where
  | bookingConfirmed
  | bookingCancelled
  | bookingRefunded
  | emailVerification
  | passwordReset
  deriving DecidableEq, Repr

/-- The handler of a topic. -/
def Topic.handler : Topic → Value → Handling
  | .bookingConfirmed => handleBookingConfirmed
  | .bookingCancelled => handleBookingCancelled
  | .bookingRefunded => handleBookingRefunded
  | .emailVerification => handleEmailVerification
  | .passwordReset => handlePasswordReset

/-! ### The values that are emitted -/

/-- The text of a status. -/
def statusText : BookingService.BookingStatus → String
  | .pending => "pending"
  | .confirmed => "confirmed"
  | .cancelled => "cancelled"
  | .refunded => "refunded"

/-- A seat of a booking, as JSON has it. -/
def seatValue (seat : BookingService.SeatPayload) : Value :=
  .obj ((seat.seatId.map fun id ↦ ("seatId", Value.str id)).toList ++
    [("sectionName", .str seat.sectionName), ("row", .str seat.row),
      ("seatNumber", .str seat.seatNumber), ("attendeeName", .text seat.attendeeName),
      ("attendeeEmail", .text seat.attendeeEmail)])

/-- A booking, as JSON has it. -/
def bookingValue (payload : BookingService.BookingPayload) : Value :=
  .obj ([("bookingId", .str (toString payload.bookingId)),
      ("bookingNumber", .str payload.bookingNumber), ("userId", .str payload.userId),
      ("eventId", .str payload.eventId), ("totalAmount", .num payload.totalAmount),
      ("currency", .str payload.currency)] ++
    (payload.status.map fun status ↦ ("status", Value.str (statusText status))).toList ++
    [("items", .arr (payload.items.map seatValue))])

/-- A mail of the auth service, as JSON has it; the text of its end is a parameter. -/
def mailValue (isoString : Nat → String) (link : String) (mail : AuthService.Mail) : Value :=
  .obj [("userId", .str (toString mail.userId)), ("email", .str mail.email),
    ("fullName", .str mail.fullName), (link, .str mail.url),
    ("expiresAt", .str (isoString mail.expiresAt))]

/-- The values that the booking service and the auth service emit. -/
inductive Emitted : Topic → Value → Prop
  | bookingConfirmed (payload : BookingService.BookingPayload) :
    Emitted .bookingConfirmed (bookingValue payload)
  | bookingCancelled (payload : BookingService.BookingPayload) :
    Emitted .bookingCancelled (bookingValue payload)
  | bookingRefunded (payload : BookingService.BookingPayload) :
    Emitted .bookingRefunded (bookingValue payload)
  | emailVerification (isoString : Nat → String) (mail : AuthService.Mail) :
    Emitted .emailVerification (mailValue isoString "verificationUrl" mail)
  | passwordReset (isoString : Nat → String) (mail : AuthService.Mail) :
    Emitted .passwordReset (mailValue isoString "resetUrl" mail)

/-- The value in an envelope. -/
def wrapped (value : Value) : Value := .obj [("value", value)]

/-- Sending, where some notifications fail; the state keeps what was sent. -/
def sending (fails : Nat → Option Exception) : Handler sig (List SendNotificationInput)
  | n, .send input, sent =>
    match fails n with
    | some e => (.error e, sent ++ [input])
    | none => (.ok (), sent ++ [input])

/-- What a handler sends, and how it ends. -/
def notifies (fails : Nat → Option Exception) (code : Handling) :
    Outcome sig Unit Unit (List SendNotificationInput) :=
  code.exec (sending fails) 0 () []

/-- The handler does with a value what it does with its envelope, and throws only what sending
throws. -/
structure AcceptsBoth (handler : Value → Handling) (value : Value) : Prop where
  same : ∀ fails, notifies fails (handler value) = notifies fails (handler (wrapped value))
  bare : (notifies (fun _ ↦ none) (handler value)).throws = false
  enveloped : (notifies (fun _ ↦ none) (handler (wrapped value))).throws = false

/-! ### What the handlers read -/

/-- What is emitted is an object without the property that the envelope has. -/
structure Plain (value : Value) : Prop where
  object : ∃ fields, value = .obj fields
  noValue : value.get? "value" = .undefined

/-- The payload of a booking is plain. -/
theorem plain_bookingValue (payload : BookingService.BookingPayload) :
    Plain (bookingValue payload) := by
  refine ⟨⟨_, rfl⟩, ?_⟩
  unfold bookingValue Value.get?
  cases payload.status <;> simp [List.lookup_cons]

/-- The payload of a booking has its items. -/
theorem items_bookingValue (payload : BookingService.BookingPayload) :
    (bookingValue payload).get "items" = .ok (.arr (payload.items.map seatValue)) := by
  rw [bookingValue, Value.get_obj]
  cases payload.status <;> simp [List.lookup_cons]

/-- The payload of a mail is plain. -/
theorem plain_mailValue (isoString : Nat → String) {link : String} (h : link ≠ "value")
    (mail : AuthService.Mail) : Plain (mailValue isoString link mail) := by
  refine ⟨⟨_, rfl⟩, ?_⟩
  have other : ("value" == link) = false := by simpa using h.symm
  simp [mailValue, Value.get?, List.lookup_cons, other]

variable {value : Value}

/-- A handler that falls back to the payload reads the value itself. -/
theorem Plain.bare (h : Plain value) : (value.get? "value").coalesce value = value := by
  rw [h.noValue]
  rfl

/-- A consumer reads a plain value from an envelope as it reads it bare. -/
theorem Plain.enveloped (h : Plain value) :
    ((wrapped value).get? "value").coalesce (wrapped value) = value := by
  obtain ⟨fields, rfl⟩ := h.object
  rfl

/-- A handler that does not fall back throws, as `undefined` has no properties. -/
theorem Plain.throws (h : Plain value) (name : String) (rest : Value → Handling)
    (fails : Nat → Option Exception) :
    (notifies fails (do
      let data ← read (value.get "value")
      let _ ← read (data.get name)
      rest data)).throws = true := by
  have undefined : value.get "value" = .ok .undefined := by
    obtain ⟨fields, rfl⟩ := h.object
    rw [← h.noValue]
    rfl
  rw [undefined]
  rfl

/-! ### Handlers that send what they can -/

/-- The code throws nothing, where sending throws nothing. -/
def Calm {α : Type} (c : Code sig Unit α) : Prop :=
  Code.Leaves (sending fun _ ↦ none) (fun _ _ ↦ True) c (fun _ _ _ ↦ True) fun _ _ _ ↦ False

variable {α β : Type}

/-- A sequence of calm code is calm. -/
theorem Calm.bind {c : Code sig Unit α} {f : α → Code sig Unit β} (hc : Calm c)
    (hf : ∀ a, Calm (f a)) : Calm (c >>= f) :=
  Code.Leaves.bind hc hf

/-- Returning a value is calm. -/
theorem calm_pure (a : α) : Calm (pure a) := Code.Leaves.ret a fun _ _ _ ↦ trivial

/-- Sending a notification is calm. -/
theorem calm_send (input : SendNotificationInput) : Calm (send input) := by
  apply Code.Leaves.await
  · exact fun _ _ _ _ _ _ _ ↦ trivial
  · intro n l s e s' _ hr
    cases hr

/-- Reading a property of an object is calm. -/
theorem calm_get (fields : List (String × Value)) (name : String) :
    Calm (read ((Value.obj fields).get name)) := by
  rw [Value.get_obj]
  exact calm_pure _

/-- Calm code does not throw. -/
theorem Calm.not_throws {c : Handling} (h : Calm c) :
    (notifies (fun _ ↦ none) c).throws = false := by
  have left := h 0 () [] trivial
  unfold notifies
  rcases he : c.exec (sending fun _ ↦ none) 0 () [] with ⟨_ | _, _, _, _⟩
  · rw [he] at left
    exact left.elim
  · rfl

/-- Confirming an item is calm if the payload and the item are objects. -/
theorem calm_confirmItem (data item : List (String × Value)) :
    Calm (confirmItem (.obj data) (.obj item)) := by
  unfold confirmItem
  apply Calm.bind (calm_get _ _)
  intro attendeeEmail
  split
  · exact calm_pure _
  · apply Calm.bind (calm_get _ _)
    intro userId
    apply Calm.bind (calm_get _ _)
    intro attendeeName
    apply Calm.bind (calm_get _ _)
    intro bookingNumber
    apply Calm.bind (calm_get _ _)
    intro eventTitle
    apply Calm.bind (calm_get _ _)
    intro totalAmount
    apply Calm.bind (calm_get _ _)
    intro currency
    apply Calm.bind (calm_get _ _)
    intro seats
    exact calm_send _

/-- A loop over items is calm if each round is. -/
theorem calm_forEach {body : Value → Handling} {items : List Value}
    (h : ∀ item ∈ items, Calm (body item)) : Calm (forEach body items) := by
  induction items with
  | nil => exact calm_pure _
  | cons item rest ih =>
    apply Calm.bind (h item List.mem_cons_self)
    exact fun _ ↦ ih fun other ho ↦ h other (List.mem_cons_of_mem _ ho)

/-- Handling the confirmation of a booking is calm. -/
theorem calm_confirmed (payload : BookingService.BookingPayload) :
    Calm (handleBookingConfirmed (bookingValue payload)) := by
  unfold handleBookingConfirmed
  rw [(plain_bookingValue payload).bare]
  apply Calm.bind (calm_get _ _)
  intro _
  rw [items_bookingValue]
  apply calm_forEach
  intro item hi
  obtain ⟨seat, -, rfl⟩ := List.mem_map.mp hi
  exact calm_confirmItem _ _

/-- Handling the cancellation of a booking is calm. -/
theorem calm_cancelled (payload : BookingService.BookingPayload) :
    Calm (handleBookingCancelled (bookingValue payload)) := by
  unfold handleBookingCancelled
  rw [(plain_bookingValue payload).bare]
  apply Calm.bind (calm_get _ _)
  intro _
  apply Calm.bind (calm_get _ _)
  intro items
  dsimp only
  split
  · exact calm_pure _
  · apply Calm.bind (calm_get _ _)
    intro userId
    apply Calm.bind (calm_get _ _)
    intro bookingNumber
    apply Calm.bind (calm_get _ _)
    intro cancellationReason
    exact calm_send _

/-- A handler that is calm and does the same with the envelope accepts both. -/
theorem acceptsBoth_of_calm {handler : Value → Handling} (calm : Calm (handler value))
    (same : handler (wrapped value) = handler value) : AcceptsBoth handler value := by
  constructor
  · intro fails
    rw [same]
  · exact calm.not_throws
  · rw [same]
    exact calm.not_throws

/-- A handler that throws at the value does not accept both. -/
theorem not_acceptsBoth {handler : Value → Handling}
    (h : (notifies (fun _ ↦ none) (handler value)).throws = true) :
    ¬ AcceptsBoth handler value := by
  intro accepts
  rw [accepts.bare] at h
  cases h

/-- For every value that is emitted, the handler of its topic accepts the bare value and its
envelope alike if and only if the topic is a confirmation or a cancellation. -/
theorem acceptsBoth_iff {topic : Topic} (h : Emitted topic value) :
    AcceptsBoth topic.handler value ↔ topic = .bookingConfirmed ∨ topic = .bookingCancelled := by
  cases h with
  | bookingConfirmed payload =>
    have plain := plain_bookingValue payload
    refine iff_of_true (acceptsBoth_of_calm (calm_confirmed payload) ?_) (.inl rfl)
    simp only [Topic.handler, handleBookingConfirmed, plain.bare, plain.enveloped]
  | bookingCancelled payload =>
    have plain := plain_bookingValue payload
    refine iff_of_true (acceptsBoth_of_calm (calm_cancelled payload) ?_) (.inr rfl)
    simp only [Topic.handler, handleBookingCancelled, plain.bare, plain.enveloped]
  | bookingRefunded payload =>
    refine iff_of_false (not_acceptsBoth ?_) (by simp)
    exact (plain_bookingValue payload).throws _ _ _
  | emailVerification isoString mail =>
    refine iff_of_false (not_acceptsBoth ?_) (by simp)
    exact (plain_mailValue isoString (by decide) mail).throws _ _ _
  | passwordReset isoString mail =>
    refine iff_of_false (not_acceptsBoth ?_) (by simp)
    exact (plain_mailValue isoString (by decide) mail).throws _ _ _

/-- A booking for two attendees, one of whom has an address. -/
def payloadOfTwo : BookingService.BookingPayload where
  bookingId := 1
  bookingNumber := "BK-1"
  userId := "u"
  eventId := "e"
  totalAmount := 5000
  currency := "TRY"
  status := none
  items :=
    [⟨some "s1", "A", "1", "1", none, some "a@x"⟩, ⟨some "s2", "A", "1", "2", some "B", none⟩]

/-- Its confirmation is mailed once, from either form. -/
theorem acceptsBoth_confirmed :
    (notifies (fun _ ↦ none) (handleBookingConfirmed (bookingValue payloadOfTwo))).state.length =
        1 ∧
      AcceptsBoth Topic.bookingConfirmed.handler (bookingValue payloadOfTwo) := by
  constructor
  · decide
  · exact (acceptsBoth_iff (.bookingConfirmed payloadOfTwo)).mpr (.inl rfl)

/-- Its refund is not mailed from the bare value. -/
theorem refund_not_mailed :
    ¬ ∀ (topic : Topic) (value : Value), Emitted topic value →
      AcceptsBoth topic.handler value := by
  intro accepts
  have throws : (notifies (fun _ ↦ none)
      (Topic.bookingRefunded.handler (bookingValue payloadOfTwo))).throws = true :=
    (plain_bookingValue payloadOfTwo).throws _ _ _
  exact not_acceptsBoth throws (accepts .bookingRefunded _ (.bookingRefunded payloadOfTwo))

end Ticketing.NotificationService
