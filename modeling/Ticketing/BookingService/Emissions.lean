import Ticketing.BookingService.OutboxRounds
import Ticketing.BookingService.Scopes
import Ticketing.BookingService.TransactionalOutbox

/-!
# What the booking service emits

Library `BookingService`. A message is emitted from what its thread has read or stored: an outbox
row, or a booking that the thread cancelled. It describes the booking as it is stored, also later.
-/

namespace Ticketing.BookingService

open Async Store

/-! ### What a thread knows -/

/-- The outbox rows that a thread has found, the booking that it saved last, the items that it
found of this booking, and the message that it emitted last. -/
structure Known where
  entries : List Outbox := []
  saved : Option Booking := none
  items : Option (List BookingItem) := none
  emitted : Option (String × Id × BookingPayload) := none

/-- A message that a thread has a reason to emit. -/
inductive Known.Tells (s : Known) : String → Id → BookingPayload → Prop
  | confirmed {e : Outbox} {payload : BookingPayload} (found : e ∈ s.entries)
      (event : e.event = .bookingConfirmed payload) :
      Tells s "booking.confirmed" e.aggregateId payload
  | refunded {e : Outbox} {payload : BookingPayload} (found : e ∈ s.entries)
      (event : e.event = .bookingRefunded payload) :
      Tells s "booking.refunded" e.aggregateId payload
  | cancelled {b : Booking} {items : List BookingItem} (saved : s.saved = some b)
      (status : b.status = .cancelled) (found : s.items = some items) :
      Tells s "booking.cancelled" b.id (cancelledPayload b items)

/-- The message of an outbox row, if it has one. -/
def Outbox.message (e : Outbox) : Option (String × Id × BookingPayload) :=
  match e.event with
  | .bookingConfirmed payload => some ("booking.confirmed", e.aggregateId, payload)
  | .bookingRefunded payload => some ("booking.refunded", e.aggregateId, payload)
  | _ => none

/-- The message of the row is the last that the thread emitted. -/
def Known.Emitted (s : Known) (e : Outbox) : Prop := ∀ m ∈ e.message, s.emitted = some m

/-- New outbox rows are pending, and a refund is announced together with the booking that it
completes. -/
def Announces (writes : List Write) : Prop :=
  ∀ e, .outbox e ∈ writes → e.status = .pending ∧ (e.event.isBookingRefunded = true →
    ∃ b, writes = [.booking b, .outbox e] ∧ e.aggregateId = b.id ∧ b.status = .refunded)

namespace Known

/-- What an operation tells a thread. -/
def next : Known → (o : Op) → sig.Answer o → Known
  | s, .findPendingEntries, .ok entries => { s with entries }
  | s, .saveBooking b, .ok _ => { s with saved := some b, items := none }
  | s, .findBooking b, .ok view =>
    if s.saved.map Booking.id = some b then { s with items := view.map BookingView.items } else s
  | s, .emit topic key payload, .ok _ => { s with emitted := some (topic, key, payload) }
  | s, _, _ => s

/-- An outbox row that is saved again is one that was found, and it is completed after its message
was emitted; messages have a reason. -/
def may (s : Known) : Op → Prop
  | .emit topic key payload => s.Tells topic key payload
  | .saveEntry e =>
    (∃ e' ∈ s.entries, e.event = e'.event ∧ e.aggregateId = e'.aggregateId) ∧
      (e.status = .completed → s.Emitted e)
  | .commit writes => Announces writes
  | _ => True

end Known

/-- What each thread of the service knows. -/
def telling : Monitor service Known where
  init := {}
  next := Known.next
  may _ := Known.may

/-- The operation is allowed whatever the thread knows. -/
def Always (o : Op) : Prop := ∀ s : Known, s.may o

variable {j : Job} {L : Type}

/-- Code whose operations are always allowed. -/
theorem always_keeps {α : Type} {c : Code sig L α} (h : c.Awaits Always) :
    telling.Keeps j (fun _ _ ↦ True) c :=
  Monitor.Holds.inside (h.mono fun _ ho s _ ↦ ⟨ho s, fun _ ↦ trivial⟩)

/-- Writes that store no announcement of a refund announce nothing. -/
theorem announces_of_none {writes : List Write}
    (h : ∀ e, .outbox e ∈ writes → e.status = .pending ∧ e.event.isBookingRefunded = false) :
    Announces writes := by
  intro e he
  refine ⟨(h e he).1, fun refunded ↦ ?_⟩
  rw [(h e he).2] at refunded
  cases refunded

/-! ### Creating a booking -/

private theorem persistBooking_always (dto : CreateBookingDto) (seats : List SeatInfo)
    (amount : Money) : (persistBooking dto seats amount).Awaits Always := by
  unfold persistBooking
  apply Code.Awaits.bind (Code.Awaits.await fun _ ↦ trivial)
  intro _
  apply Code.Awaits.bind
  · apply Code.Awaits.tryCatch
    · unfold persistTransaction
      apply Code.Awaits.bind
      · unfold generateBookingNumber
        apply Code.Awaits.bind (Code.Awaits.await fun _ ↦ trivial)
        intro timestamp
        apply Code.Awaits.bind (Code.Awaits.await fun _ ↦ trivial)
        exact fun random ↦ Code.Awaits.ret _
      intro bookingNumber
      apply Code.Awaits.bind (firstCurrency_awaits seats)
      intro currency
      apply Code.Awaits.bind (Code.Awaits.await fun _ ↦ trivial)
      intro now
      apply Code.Awaits.bind (Code.Awaits.await fun _ ↦ trivial)
      intro saved
      split
      · exact Code.Awaits.raise _
      · apply Code.Awaits.bind (Code.Awaits.await fun _ ↦ trivial)
        intro _
        apply Code.Awaits.bind
        · exact Code.Awaits.await fun _ ↦ announces_of_none (by simp)
        · exact fun _ ↦ Code.Awaits.ret _
    · intro error
      apply Code.Awaits.bind (Code.Awaits.await fun _ ↦ trivial)
      exact fun _ ↦ Code.Awaits.raise _
  · exact fun id ↦ Code.Awaits.await fun _ ↦ trivial

private theorem confirmBooking_always (eventId userId : String) (seatIds : List String) :
    (confirmBookingWithOutbox eventId userId seatIds).Awaits Always := by
  unfold confirmBookingWithOutbox
  apply Code.Awaits.bind (Code.Awaits.await fun _ ↦ trivial)
  intro _
  apply Code.Awaits.tryCatch
  · unfold confirmTransaction
    apply Code.Awaits.bind (Code.Awaits.assign _)
    intro _
    apply Code.Awaits.bind (Code.Awaits.await fun _ ↦ trivial)
    intro now
    apply Code.Awaits.bind (Code.Awaits.assign _)
    intro _
    apply Code.Awaits.bind Code.Awaits.entity
    intro booking
    apply Code.Awaits.bind (Code.Awaits.await fun _ ↦ trivial)
    intro _
    apply Code.Awaits.bind (Code.Awaits.await fun _ ↦ trivial)
    intro found
    cases found with
    | none => exact Code.Awaits.raise _
    | some view =>
      apply Code.Awaits.bind (Code.Awaits.await fun _ ↦ trivial)
      intro _
      apply Code.Awaits.bind (Code.Awaits.await fun _ ↦ trivial)
      intro _
      apply Code.Awaits.await
      intro _
      apply announces_of_none
      intro e he
      simp only [List.mem_cons, reduceCtorEq, Write.outbox.injEq, List.not_mem_nil, or_false,
        false_or] at he
      rcases he with rfl | rfl <;> exact ⟨rfl, rfl⟩
  · intro error
    apply Code.Awaits.bind (Code.Awaits.await fun _ ↦ trivial)
    exact fun _ ↦ Code.Awaits.raise _

private theorem payBooking_always (dto : CreateBookingDto) (amount : Money)
    (seats : List SeatInfo) : (payBooking dto amount seats).Awaits Always := by
  unfold payBooking
  apply Code.Awaits.bind (firstCurrency_awaits seats)
  intro currency
  apply Code.Awaits.bind Code.Awaits.entity
  intro booking
  apply Code.Awaits.bind (grpc_awaits fun _ ↦ trivial)
  intro payment
  cases payment with
  | none => exact Code.Awaits.raise _
  | some payment =>
    dsimp only
    split
    · exact confirmBooking_always _ _ _
    · unfold cancelEntity
      apply Code.Awaits.bind
      · apply Code.Awaits.bind (Code.Awaits.assign _)
        intro _
        apply Code.Awaits.bind (Code.Awaits.await fun _ ↦ trivial)
        exact fun _ ↦ Code.Awaits.assign _
      intro _
      apply Code.Awaits.bind Code.Awaits.entity
      intro booking
      apply Code.Awaits.bind (Code.Awaits.await fun _ ↦ trivial)
      intro _
      apply Code.Awaits.bind (Code.Awaits.await fun _ ↦ trivial)
      exact fun _ ↦ Code.Awaits.ret _

private theorem failBooking_telling (error : Exception) :
    telling.Keeps j (fun _ _ ↦ True) (failBooking error) := by
  unfold failBooking
  apply Monitor.Holds.bind (I := fun _ l _ ↦ l.status = .cancelled)
  · unfold cancelEntity
    apply Monitor.Holds.bind (I := fun _ l _ ↦ l.status = .cancelled)
    · exact Monitor.Holds.assign _ fun _ _ _ ↦ rfl
    intro _
    apply Monitor.Holds.bind (I := fun _ l _ ↦ l.status = .cancelled)
    · apply Monitor.Holds.await
      · exact fun _ _ _ ↦ trivial
      · exact fun _ _ _ _ h ↦ h
      · exact fun _ _ _ _ _ ↦ trivial
    intro now
    exact Monitor.Holds.assign _ fun _ _ h ↦ h
  intro _
  apply Monitor.Holds.read
  intro booking
  apply Monitor.Holds.bind
    (I := fun _ l s ↦ booking.status = .cancelled ∧ s.saved = some booking)
  · apply Monitor.Holds.await
    · exact fun _ _ _ ↦ trivial
    · rintro _ l s - ⟨rfl, cancelled⟩
      exact ⟨cancelled, rfl⟩
    · exact fun _ _ _ _ _ ↦ trivial
  intro _
  apply Monitor.Holds.bind
    (I := fun found l s ↦ booking.status = .cancelled ∧ s.saved = some booking ∧
      s.items = found.map BookingView.items)
  · apply Monitor.Holds.await
    · exact fun _ _ _ ↦ trivial
    · rintro found l s - ⟨cancelled, saved⟩
      refine ⟨cancelled, ?_⟩
      show (Known.next s (.findBooking booking.id) (.ok found)).saved = _ ∧
        (Known.next s (.findBooking booking.id) (.ok found)).items = _
      simp [Known.next, saved]
    · exact fun _ _ _ _ _ ↦ trivial
  intro found
  cases found with
  | none => exact Monitor.Holds.raise _ fun _ _ _ ↦ trivial
  | some view =>
    apply Monitor.Holds.bind (I := fun _ _ _ ↦ True)
    · apply Monitor.Holds.await
      · rintro l s ⟨cancelled, saved, items⟩
        exact .cancelled saved cancelled items
      · exact fun _ _ _ _ _ ↦ trivial
      · exact fun _ _ _ _ _ ↦ trivial
    · exact fun _ ↦ Monitor.Holds.raise _ fun _ _ _ ↦ trivial

private theorem createBooking_telling (dto : CreateBookingDto) :
    telling.Keeps j (fun _ _ ↦ True) (createBooking dto) := by
  unfold createBooking
  apply Monitor.Holds.bind
  · exact always_keeps (selectSeats_awaits (fun _ _ ↦ trivial) (fun _ _ _ _ ↦ trivial) dto)
  intro seats
  apply Monitor.Holds.bind (always_keeps (persistBooking_always _ _ _))
  intro saved
  cases saved with
  | none => exact Monitor.Holds.raise _ fun _ _ _ ↦ trivial
  | some view =>
    apply Monitor.Holds.on
    intro _
    apply Monitor.Holds.pre (P := fun _ _ ↦ True) _ fun _ _ _ ↦ trivial
    unfold settleBooking
    apply Monitor.Holds.bind
    · exact Monitor.Holds.tryCatch (always_keeps (payBooking_always _ _ _)) failBooking_telling
    intro _
    apply Monitor.Holds.skip
    exact fun booking ↦ always_keeps (Code.Awaits.await fun _ ↦ trivial)

/-! ### Refunding a booking -/

private theorem completeStep_telling (items : List BookingItem) :
    telling.Keeps j (fun _ _ ↦ True) (completeStep items) := by
  unfold completeStep
  apply Monitor.Holds.bind (I := fun _ _ _ ↦ True)
  · exact always_keeps (Code.Awaits.await fun _ ↦ trivial)
  intro _
  apply Monitor.Holds.bind (I := fun _ _ _ ↦ True)
  · apply Monitor.Holds.tryCatch (F := fun _ _ _ ↦ True)
    · unfold completeTransaction
      apply Monitor.Holds.skip
      intro booking
      apply Monitor.Holds.bind (I := fun _ _ _ ↦ True)
      · exact always_keeps (Code.Awaits.await fun _ ↦ trivial)
      intro _
      apply Monitor.Holds.bind (I := fun _ l _ ↦ l.status = .refunded)
      · exact Monitor.Holds.assign _ fun _ _ _ ↦ rfl
      intro _
      apply Monitor.Holds.bind (I := fun _ l _ ↦ l.status = .refunded)
      · apply Monitor.Holds.await
        · exact fun _ _ _ ↦ trivial
        · exact fun _ _ _ _ h ↦ h
        · exact fun _ _ _ _ _ ↦ trivial
      intro now
      apply Monitor.Holds.bind (I := fun _ l _ ↦ l.status = .refunded)
      · exact Monitor.Holds.assign _ fun _ _ h ↦ h
      intro _
      apply Monitor.Holds.read
      intro booking
      have statement : ∀ w : Write, telling.Holds j
          (fun (_ : Booking) _ ↦ booking.status = .refunded)
          (await (.statement w) : Code sig Booking Unit)
          (fun _ _ _ ↦ booking.status = .refunded) fun _ _ _ ↦ True := by
        intro w
        apply Monitor.Holds.await
        · exact fun _ _ _ ↦ trivial
        · exact fun _ _ _ _ h ↦ h
        · exact fun _ _ _ _ _ ↦ trivial
      apply Monitor.Holds.bind
      · apply (statement _).pre
        rintro l s ⟨rfl, refunded⟩
        exact refunded
      intro _
      apply Monitor.Holds.bind (statement _)
      intro _
      apply Monitor.Holds.await
      · rintro l s refunded e he
        simp only [List.mem_cons, reduceCtorEq, Write.outbox.injEq, List.not_mem_nil, or_false,
          false_or] at he
        subst he
        exact ⟨rfl, fun _ ↦ ⟨booking, rfl, rfl, refunded⟩⟩
      · exact fun _ _ _ _ _ ↦ trivial
      · exact fun _ _ _ _ _ ↦ trivial
    · intro error
      apply Monitor.Holds.bind (I := fun _ _ _ ↦ True)
      · exact always_keeps (Code.Awaits.await fun _ ↦ trivial)
      exact fun _ ↦ Monitor.Holds.raise _ fun _ _ _ ↦ trivial
  · exact fun _ ↦ Monitor.Holds.ret _ fun _ _ _ ↦ trivial

private theorem refundPaymentStep_always : refundPaymentStep.Awaits Always := by
  unfold refundPaymentStep
  apply Code.Awaits.bind Code.Awaits.entity
  intro booking
  apply Code.Awaits.bind (grpc_awaits fun _ ↦ trivial)
  intro answer
  dsimp only
  split
  · apply Code.Awaits.bind (Code.Awaits.assign _)
    intro _
    apply Code.Awaits.bind Code.Awaits.entity
    intro booking
    apply Code.Awaits.bind (Code.Awaits.await fun _ ↦ trivial)
    exact fun _ ↦ Code.Awaits.ret _
  · apply Code.Awaits.bind (Code.Awaits.assign _)
    intro _
    apply Code.Awaits.bind Code.Awaits.entity
    intro booking
    apply Code.Awaits.bind (Code.Awaits.await fun _ ↦ trivial)
    exact fun _ ↦ Code.Awaits.raise _

private theorem releaseSeatsStep_always (seatIds : List String) :
    (releaseSeatsStep seatIds).Awaits Always := by
  unfold releaseSeatsStep
  apply Code.Awaits.bind Code.Awaits.entity
  intro booking
  apply Code.Awaits.bind (Code.Awaits.await fun _ ↦ trivial)
  intro reply
  apply Code.Awaits.bind (Code.Awaits.assign _)
  intro _
  apply Code.Awaits.bind Code.Awaits.entity
  intro booking
  apply Code.Awaits.bind (Code.Awaits.await fun _ ↦ trivial)
  exact fun _ ↦ Code.Awaits.ret _

private theorem failRefundStep_always (error : Exception) :
    (failRefundStep error).Awaits Always := by
  unfold failRefundStep
  apply Code.Awaits.bind (Code.Awaits.assign _)
  intro _
  apply Code.Awaits.bind Code.Awaits.entity
  intro booking
  apply Code.Awaits.bind (Code.Awaits.await fun _ ↦ trivial)
  exact fun _ ↦ Code.Awaits.raise _

private theorem processRefund_telling (items : List BookingItem) :
    telling.Keeps j (fun _ _ ↦ True) (processRefundStateMachine items) := by
  have step : telling.Keeps j (fun _ _ ↦ True) (refundStep items) := by
    unfold refundStep
    apply Monitor.Holds.tryCatch (F := fun _ _ _ ↦ True)
    · unfold refundSwitch
      apply Monitor.Holds.skip
      intro booking
      split
      · exact always_keeps refundPaymentStep_always
      · exact always_keeps (releaseSeatsStep_always _)
      · exact completeStep_telling _
      · exact Monitor.Holds.ret _ fun _ _ _ ↦ trivial
      · exact Monitor.Holds.raise _ fun _ _ _ ↦ trivial
      · exact Monitor.Holds.raise _ fun _ _ _ ↦ trivial
    · exact fun error ↦ always_keeps (failRefundStep_always error)
  unfold processRefundStateMachine
  generalize maxSteps = n
  induction n with
  | zero => exact Monitor.Holds.ret _ fun _ _ _ ↦ trivial
  | succ n ih =>
    apply Monitor.Holds.bind step
    intro outcome
    cases outcome with
    | again => exact ih
    | done => exact Monitor.Holds.ret _ fun _ _ _ ↦ trivial

private theorem cancelBooking_telling (b : Id) (userId key : String) (reason : Option String) :
    telling.Keeps j (fun _ _ ↦ True) (cancelBooking b userId key reason) := by
  unfold cancelBooking
  apply Monitor.Holds.bind (I := fun _ _ _ ↦ True)
  · exact always_keeps (Code.Awaits.await fun _ ↦ trivial)
  intro found
  cases found with
  | none => exact Monitor.Holds.raise _ fun _ _ _ ↦ trivial
  | some view =>
    dsimp only
    split
    · exact Monitor.Holds.raise _ fun _ _ _ ↦ trivial
    · split
      · exact Monitor.Holds.raise _ fun _ _ _ ↦ trivial
      · apply Monitor.Holds.on
        intro _
        apply Monitor.Holds.pre (P := fun _ _ ↦ True) _ fun _ _ _ ↦ trivial
        unfold startRefund
        apply Monitor.Holds.skip
        intro booking
        split
        · apply Monitor.Holds.bind (I := fun _ _ _ ↦ True)
          · exact Monitor.Holds.assign _ fun _ _ _ ↦ trivial
          intro _
          apply Monitor.Holds.skip
          intro row
          apply Monitor.Holds.bind (I := fun _ _ _ ↦ True)
          · exact always_keeps (Code.Awaits.await fun _ ↦ trivial)
          intro _
          apply Monitor.Holds.bind (processRefund_telling _)
          exact fun _ ↦ Monitor.Holds.skip fun x ↦ Monitor.Holds.ret x fun _ _ _ ↦ trivial
        · apply Monitor.Holds.bind (processRefund_telling _)
          exact fun _ ↦ Monitor.Holds.skip fun x ↦ Monitor.Holds.ret x fun _ _ _ ↦ trivial

private theorem recoverEach_telling (views : List BookingView) :
    telling.Keeps j (fun _ _ ↦ True) (recoverEach views) := by
  induction views with
  | nil => exact Monitor.Holds.ret _ fun _ _ _ ↦ trivial
  | cons view rest ih =>
    unfold recoverEach
    split
    · exact ih
    · apply Monitor.Holds.bind (I := fun _ _ _ ↦ True)
      · apply Monitor.Holds.tryCatch (F := fun _ _ _ ↦ True)
        · apply Monitor.Holds.on
          intro _
          apply Monitor.Holds.pre (P := fun _ _ ↦ True) _ fun _ _ _ ↦ trivial
          apply Monitor.Holds.bind (processRefund_telling _)
          exact fun _ ↦ Monitor.Holds.ret _ fun _ _ _ ↦ trivial
        · exact fun _ ↦ Monitor.Holds.ret _ fun _ _ _ ↦ trivial
      · exact fun _ ↦ ih

private theorem recoveryStuckRefunds_telling :
    telling.Keeps j (fun _ _ ↦ True) recoveryStuckRefunds := by
  have settle : ∀ {o : Op}, Always o →
      telling.Keeps j (fun _ _ ↦ True) (await o : Code sig Unit (Res o)) :=
    fun ho ↦ always_keeps (Code.Awaits.await ho)
  unfold recoveryStuckRefunds
  apply Monitor.Holds.bind (settle (o := .enter) fun _ ↦ trivial)
  intro entered
  split
  · apply Monitor.Holds.bind (I := fun _ _ _ ↦ True)
    · apply Monitor.Holds.tryCatch (F := fun _ _ _ ↦ True)
      · unfold recoverStuck
        apply Monitor.Holds.bind (settle (o := .findStuckBookings) fun _ ↦ trivial)
        exact recoverEach_telling
      · intro error
        apply Monitor.Holds.bind (settle (o := .leave) fun _ ↦ trivial)
        exact fun _ ↦ Monitor.Holds.raise _ fun _ _ _ ↦ trivial
    · exact fun _ ↦ settle (o := .leave) fun _ ↦ trivial
  · exact Monitor.Holds.ret _ fun _ _ _ ↦ trivial

/-! ### Delivering the outbox -/

variable {entries : List Outbox}

/-- The operation is allowed to a thread that found these rows, and it goes on with them. -/
def With (entries : List Outbox) (o : Op) : Prop :=
  ∀ s : Known, s.entries = entries → s.may o ∧ ∀ r, (s.next o r).entries = entries

/-- The row is one that was found, whatever its status. -/
def WasFound (entries : List Outbox) (l : Outbox) : Prop :=
  ∃ e ∈ entries, l.event = e.event ∧ l.aggregateId = e.aggregateId

/-- Which row was found is a matter of its event and its booking. -/
theorem WasFound.congr {entries : List Outbox} {l l' : Outbox} (event : l'.event = l.event)
    (aggregate : l'.aggregateId = l.aggregateId) (h : WasFound entries l) :
    WasFound entries l' := by
  unfold WasFound
  rwa [event, aggregate]

private theorem newTickets_with (b : Id) (items : List BookingItem) :
    (newTickets b items).Awaits (With entries) := by
  induction items with
  | nil => exact Code.Awaits.ret _
  | cons item rest ih =>
    unfold newTickets
    apply Code.Awaits.bind
    · unfold generateTicketCode
      apply Code.Awaits.bind (Code.Awaits.await fun _ hs ↦ ⟨trivial, fun _ ↦ hs⟩)
      intro timestamp
      apply Code.Awaits.bind (Code.Awaits.await fun _ hs ↦ ⟨trivial, fun _ ↦ hs⟩)
      exact fun random ↦ Code.Awaits.ret _
    intro code
    apply Code.Awaits.bind (Code.Awaits.await fun _ hs ↦ ⟨trivial, fun _ ↦ hs⟩)
    intro data
    apply Code.Awaits.bind ih
    exact fun tickets ↦ Code.Awaits.ret _

private theorem generateTicket_with (b : Id) : (generateTicket b).Awaits (With entries) := by
  unfold generateTicket
  apply Code.Awaits.bind (Code.Awaits.await fun _ hs ↦ ⟨trivial, fun _ ↦ hs⟩)
  intro existing
  split
  · exact Code.Awaits.ret _
  · apply Code.Awaits.bind (Code.Awaits.await fun _ hs ↦ ⟨trivial, fun _ ↦ hs⟩)
    intro items
    split
    · exact Code.Awaits.ret _
    · apply Code.Awaits.bind (newTickets_with _ _)
      exact fun tickets ↦ Code.Awaits.await fun _ hs ↦ ⟨trivial, fun _ ↦ hs⟩

/-- The thread has the rows that it found. -/
abbrev Has (entries : List Outbox) (s : Known) : Prop := s.entries = entries

private theorem processEntry_telling {l : Outbox} (hl : WasFound entries l) :
    telling.Holds j (fun (_ : Unit) ↦ Has entries) (processEntry l)
      (fun _ _ s ↦ Has entries s ∧ s.Emitted l) fun _ _ ↦ Has entries := by
  obtain ⟨e, he, same, aggregate⟩ := hl
  have emit : ∀ {topic payload}, l.message = some (topic, l.aggregateId, payload) →
      (∀ s : Known, Has entries s → s.Tells topic l.aggregateId payload) →
      telling.Holds j (fun (_ : Unit) ↦ Has entries)
        (await (.emit topic l.aggregateId payload) : Code sig Unit Unit)
        (fun _ _ s ↦ Has entries s ∧ s.Emitted l) fun _ _ ↦ Has entries := by
    intro topic payload message tells
    apply Monitor.Holds.await
    · exact fun _ s hs ↦ tells s hs
    · rintro - l' s - hs
      refine ⟨hs, fun m hm ↦ ?_⟩
      rw [message] at hm
      exact hm
    · exact fun _ _ _ _ hs ↦ hs
  unfold processEntry
  split
  · next event =>
    have silent : ∀ s : Known, s.Emitted l := by
      intro s m hm
      simp [Outbox.message, event] at hm
    unfold handleSeatsSold
    apply Monitor.Holds.bind (I := fun _ _ ↦ Has entries)
    · exact Monitor.Holds.inside (grpc_awaits fun _ hs ↦ ⟨trivial, fun _ ↦ hs⟩)
    intro success
    split
    · exact Monitor.Holds.ret _ fun _ s hs ↦ ⟨hs, silent s⟩
    · exact Monitor.Holds.raise _ fun _ _ hs ↦ hs
  · next payload event =>
    unfold handleBookingConfirmed
    apply Monitor.Holds.bind (I := fun _ _ ↦ Has entries)
    · exact Monitor.Holds.inside (generateTicket_with _)
    intro _
    apply emit
    · simp [Outbox.message, event]
    · rintro s rfl
      rw [aggregate]
      exact .confirmed he (same.symm.trans event)
  · next payload event =>
    apply emit
    · simp [Outbox.message, event]
    · rintro s rfl
      rw [aggregate]
      exact .refunded he (same.symm.trans event)
  · next event =>
    apply Monitor.Holds.ret
    refine fun _ s hs ↦ ⟨hs, fun m hm ↦ ?_⟩
    simp [Outbox.message, event] at hm

private theorem rounds_telling :
    Rounds telling j (Has entries) (WasFound entries) fun l s ↦ s.Emitted l where
  dispatch _ found := processEntry_telling found
  may _ s found known emitted := by
    obtain rfl := known
    exact ⟨found, emitted⟩
  saved _ _ a known := by cases a <;> exact known
  now _ := ⟨trivial, fun _ ↦ rfl⟩
  row_congr l l' event aggregate := WasFound.congr event aggregate
  done_congr l l' s event aggregate emitted := by
    unfold Known.Emitted Outbox.message
    rwa [event, aggregate]

private theorem processOutbox_telling : telling.Keeps j (fun _ _ ↦ True) processOutbox := by
  unfold processOutbox
  apply Monitor.Holds.bind (I := fun found _ s ↦ s.entries = found)
  · exact Monitor.Holds.await (fun _ _ _ ↦ trivial) (fun _ _ _ _ _ ↦ rfl) fun _ _ _ _ _ ↦ trivial
  intro found
  exact (rounds_telling.processEach fun _ h ↦ ⟨_, h, rfl, rfl⟩).post (fun _ _ _ _ ↦ trivial)
    fun _ _ _ _ ↦ trivial

/-- Every job emits only what it has a reason for. -/
theorem job_telling (j : Job) :
    telling.Obeys j (service.code j) (fun _ _ ↦ True) telling.init := by
  have keeps : telling.Keeps j (fun (_ : Unit) _ ↦ True) j.run := by
    cases j with
    | createBooking dto =>
      apply Monitor.Holds.bind (createBooking_telling dto)
      exact fun _ ↦ Monitor.Holds.ret _ fun _ _ _ ↦ trivial
    | cancelBooking b userId key reason =>
      apply Monitor.Holds.bind (cancelBooking_telling b userId key reason)
      exact fun _ ↦ Monitor.Holds.ret _ fun _ _ _ ↦ trivial
    | recoveryStuckRefunds =>
      apply Monitor.Holds.bind recoveryStuckRefunds_telling
      exact fun _ ↦ Monitor.Holds.ret _ fun _ _ _ ↦ trivial
    | processOutbox =>
      apply Monitor.Holds.bind processOutbox_telling
      exact fun _ ↦ Monitor.Holds.ret _ fun _ _ _ ↦ trivial
  exact Monitor.obeys_prog.mpr (keeps () telling.init trivial)

/-! ### What is stored stays true -/

/-- The row of a booking goes on: same order, settled and cancelled as before. -/
structure Lasting (s s' : Db) (b : Id) (r : Booking) : Prop where
  row : ∃ r', s'.bookings.find b = some r' ∧ r'.order = r.order ∧
    (r.settled = true → r'.settled = true) ∧ (r.status = .cancelled → r'.status = .cancelled)
  items : s'.itemsOf b = s.itemsOf b

variable {M : Mode} {ev : Event service} {c c' : Conf service} {owner owner' : Id → Option Nat}

/-- Every move keeps the stored bookings. -/
theorem Moves.lasting (h : Moves M ev c owner c' owner') {b : Id} {r : Booking}
    (hf : c.state.bookings.find b = some r) : Lasting c.state c'.state b r where
  row := by
    rcases h.bookings b with he | ⟨r', hr', -, hm⟩
    · exact ⟨r, he.trans hf, rfl, id, id⟩
    · refine ⟨r', hr', ?_⟩
      cases hm with
      | persisted op absent =>
        rw [hf] at absent
        cases absent
      | confirmed found own pending order status =>
        rw [hf] at found
        cases found
        exact ⟨order, fun _ ↦ by simp [Booking.settled, status], fun hs ↦ by simp [hs] at pending⟩
      | cancelled found own unsettled order status =>
        rw [hf] at found
        cases found
        exact ⟨order, fun hs ↦ absurd (hs.symm.trans unsettled) (by simp), fun _ ↦ status⟩
      | refund job found settled settled' order =>
        rw [hf] at found
        cases found
        exact ⟨order, fun _ ↦ settled', fun hs ↦ by simp [Booking.settled, hs] at settled⟩
  items := h.items b r hf

/-- An outbox row that described its booking still does. -/
theorem Moves.entryOk (h : Moves M ev c owner c' owner') {e : Outbox} (he : EntryOk c.state e) :
    EntryOk c'.state e := by
  obtain ⟨r, hr, settled, described⟩ := he
  obtain ⟨⟨r', hr', order, settled', -⟩, items⟩ := h.lasting hr
  refine ⟨r', hr', settled' settled, ?_⟩
  rw [Booking.id_of_order order, (Inv.mem_of_find hr).2, items, ← (Inv.mem_of_find hr).2]
  exact described.of_order order

/-- What is told of a cancelled booking depends on its order and its status. -/
theorem cancelledPayload_congr {r r' : Booking} (order : r'.order = r.order)
    (status : r'.status = r.status) (items : List BookingItem) :
    cancelledPayload r' items = cancelledPayload r items := by
  simp only [Booking.order, Prod.mk.injEq] at order
  obtain ⟨hi, hn, hu, he, ha, hc⟩ := order
  simp only [cancelledPayload, hi, hn, hu, he, ha, hc, status]

/-- What a message says of the stored booking. -/
inductive Told (c : Conf service) (r : Booking) : String → BookingPayload → Prop
  | confirmed {payload : BookingPayload} (settled : r.settled = true) (paid : Paid c.log r)
      (describes : payload = confirmedPayload r r.eventId (c.state.itemsOf r.id)) :
      Told c r "booking.confirmed" payload
  | refunded {payload : BookingPayload} (settled : r.settled = true) (money : Refunded c.log r.id)
      (describes : payload = refundedPayload r (c.state.itemsOf r.id)) :
      Told c r "booking.refunded" payload
  | cancelled {payload : BookingPayload} (status : r.status = .cancelled)
      (describes : payload = cancelledPayload r (c.state.itemsOf r.id)) :
      Told c r "booking.cancelled" payload

/-- What a message says, by its topic. -/
theorem Told.by_topic {c : Conf service} {r : Booking} {topic : String} {payload : BookingPayload}
    (h : Told c r topic payload) :
    (topic = "booking.confirmed" ∧ r.settled = true ∧ Paid c.log r ∧
      payload = confirmedPayload r r.eventId (c.state.itemsOf r.id)) ∨
    (topic = "booking.refunded" ∧ r.settled = true ∧ Refunded c.log r.id ∧
      payload = refundedPayload r (c.state.itemsOf r.id)) ∨
    (topic = "booking.cancelled" ∧ r.status = .cancelled ∧
      payload = cancelledPayload r (c.state.itemsOf r.id)) := by
  cases h with
  | confirmed settled paid describes => exact .inl ⟨rfl, settled, paid, describes⟩
  | refunded settled money describes => exact .inr (.inl ⟨rfl, settled, money, describes⟩)
  | cancelled status describes => exact .inr (.inr ⟨rfl, status, describes⟩)

/-- The booking is stored, and what the message says of it is true. -/
def TruthOf (c : Conf service) (topic : String) (key : Id) (payload : BookingPayload) : Prop :=
  ∃ r, c.state.bookings.find key = some r ∧ Told c r topic payload

/-- Moves keep a message true. -/
theorem Moves.truthOf (h : Moves M ev c owner c' owner') {topic : String} {key : Id}
    {payload : BookingPayload} (ht : TruthOf c topic key payload) :
    TruthOf c' topic key payload := by
  obtain ⟨r, hr, told⟩ := ht
  obtain ⟨⟨r', hr', order, settled', cancelled'⟩, items⟩ := h.lasting hr
  have id : r'.id = r.id := Booking.id_of_order order
  have same : c'.state.itemsOf r'.id = c.state.itemsOf r.id := by
    rw [id, (Inv.mem_of_find hr).2, items]
  refine ⟨r', hr', ?_⟩
  cases told with
  | confirmed settled paid describes =>
    apply Told.confirmed (settled' settled)
    · rw [h.log]
      exact paid.cons.of_order order
    rw [same]
    have same : (OutboxEvent.bookingConfirmed payload).Describes r _ := describes
    exact same.of_order order
  | refunded settled money describes =>
    apply Told.refunded (settled' settled)
    · rw [id, h.log]
      exact money.cons
    · rw [same]
      have same : (OutboxEvent.bookingRefunded payload).Describes r _ := describes
      exact same.of_order order
  | cancelled status describes =>
    apply Told.cancelled (cancelled' status)
    rw [same, describes]
    exact (cancelledPayload_congr order ((cancelled' status).trans status.symm) _).symm

/-! ### Runs -/

/-- What thread `t` knows. -/
abbrev known (t : Nat) (log : List (Event service)) : Known := telling.state t log

/-- An outbox row that tells the truth. -/
structure Truthful (c : Conf service) (e : Outbox) : Prop where
  describes : EntryOk c.state e
  refunded : e.event.isBookingRefunded = true → Refunded c.log e.aggregateId

/-- `emit` was called with the message. -/
def WasEmitted (log : List (Event service)) : String × Id × BookingPayload → Prop
  | (topic, key, payload) => ∃ ev ∈ log, ev.op = .emit topic key payload

/-- What holds of what is stored, of what the threads know and of what was emitted. -/
structure Telling (c : Conf service) : Prop where
  outbox : ∀ e ∈ c.state.outbox.rows, Truthful c e
  entries : ∀ t, ∀ e ∈ (known t c.log).entries, Truthful c e
  saved : ∀ t b, (known t c.log).saved = some b → ∃ r, c.state.bookings.find b.id = some r ∧
    r.order = b.order ∧ (b.status = .cancelled → r.status = .cancelled)
  items : ∀ t b items, (known t c.log).saved = some b → (known t c.log).items = some items →
    items = c.state.itemsOf b.id
  told : ∀ ev ∈ c.log, ∀ topic key payload, ev.op = .emit topic key payload →
    TruthOf c topic key payload
  emitted : ∀ t, ∀ m ∈ (known t c.log).emitted, WasEmitted c.log m
  completed : ∀ e ∈ c.state.outbox.rows, e.status = .completed → ∀ m ∈ e.message,
    WasEmitted c.log m

/-- Moves keep an outbox row truthful. -/
theorem Moves.truthful (h : Moves M ev c owner c' owner') {e : Outbox} (he : Truthful c e) :
    Truthful c' e where
  describes := h.entryOk he.describes
  refunded hr := by
    rw [h.log]
    exact (he.refunded hr).cons

/-- A message with a reason is true. -/
theorem Telling.truthOf (h : Telling c) (hi : Inv c.state c.log owner) {t : Nat} {topic : String}
    {key : Id} {payload : BookingPayload} (reason : (known t c.log).Tells topic key payload) :
    TruthOf c topic key payload := by
  cases reason with
  | @confirmed e payload found event =>
    obtain ⟨r, hr, settled, describes⟩ := (h.entries t e found).describes
    rw [event] at describes
    have row := hi.rows r (Inv.mem_of_find hr).1
    exact ⟨r, hr, .confirmed settled (row.paid settled) describes⟩
  | @refunded e payload found event =>
    obtain ⟨⟨r, hr, settled, describes⟩, money⟩ := h.entries t e found
    rw [event] at describes
    have paid := money (by rw [event]; rfl)
    rw [← (Inv.mem_of_find hr).2] at paid
    exact ⟨r, hr, .refunded settled paid describes⟩
  | @cancelled b items saved status found =>
    obtain ⟨r, hr, order, cancelled⟩ := h.saved t b saved
    refine ⟨r, hr, .cancelled (cancelled status) ?_⟩
    rw [Booking.id_of_order order, ← h.items t b items saved found]
    exact (cancelledPayload_congr order ((cancelled status).trans status.symm) items).symm

/-- The outbox rows after an operation. -/
theorem mem_outbox_perform {x : Choice} {o : Op} {s : Db} {e : Outbox}
    (h : e ∈ (perform x o s).2.outbox.rows) :
    e ∈ s.outbox.rows ∨ o = .saveEntry e ∨ ∃ writes e₀, o = .commit writes ∧
      .outbox e₀ ∈ writes ∧ e.event = e₀.event ∧ e.aggregateId = e₀.aggregateId ∧
      e.status = e₀.status := by
  cases o with
  | saveEntry e' =>
    rcases Table.mem_put.mp h with rfl | ⟨hm, -⟩
    · exact .inr (.inl rfl)
    · exact .inl hm
  | commit writes =>
    have all : ∀ (writes : List Write) (s : Db), e ∈ (writes.foldl Db.write s).outbox.rows →
        e ∈ s.outbox.rows ∨ ∃ e₀, .outbox e₀ ∈ writes ∧ e.event = e₀.event ∧
          e.aggregateId = e₀.aggregateId ∧ e.status = e₀.status := by
      intro writes
      induction writes with
      | nil => exact fun s hm ↦ .inl hm
      | cons w rest ih =>
        intro s hm
        rcases ih (s.write w) hm with old | ⟨e₀, he, same⟩
        · cases w with
          | booking b => exact .inl old
          | items rows => exact .inl old
          | outbox e₀ =>
            rcases Table.mem_put.mp old with rfl | ⟨old, -⟩
            · exact .inr ⟨e₀, List.mem_cons_self, rfl, rfl, rfl⟩
            · exact .inl old
        · exact .inr ⟨e₀, List.mem_cons_of_mem _ he, same⟩
    rcases all writes s h with old | ⟨e₀, he, same⟩
    · exact .inl old
    · exact .inr (.inr ⟨writes, e₀, rfl, he, same⟩)
  | _ => exact .inl h

private theorem next_error (s : Known) (o : Op) (e : Exception) : s.next o (.error e) = s := by
  cases o <;> rfl

private theorem refunded_of_commit {x : Choice} {s : Db} {log : List (Event service)}
    {owner : Id → Option Nat} {b : Booking} {e : Outbox}
    (hi : Inv (perform x (.commit [.booking b, .outbox e]) s).2 log owner)
    (status : b.status = .refunded) : Refunded log b.id := by
  have stored : (perform x (.commit [.booking b, .outbox e]) s).2.bookings.find b.id = some b :=
    Table.find_put_self _ _
  have row := hi.rows b (Inv.mem_of_find stored).1
  exact row.paymentRefunded (.inr (.inr (row.refunded.mp status)))

namespace Telling

variable {owner₁ : Id → Option Nat}

/-- The empty database announces nothing. -/
theorem start : Telling ⟨Db.empty, []⟩ where
  outbox e he := by cases he
  entries t e he := by cases he
  saved t b h := by cases h
  items t b items h := by cases h
  told ev he := by cases he
  emitted t m h := by cases h
  completed e he := by cases he

private theorem lasting (h : Telling c) (hm : Moves M ev c owner c' owner') {t : Nat} {b : Booking}
    (saved : (known t c.log).saved = some b) :
    (∃ r, c'.state.bookings.find b.id = some r ∧ r.order = b.order ∧
      (b.status = .cancelled → r.status = .cancelled)) ∧
      c'.state.itemsOf b.id = c.state.itemsOf b.id := by
  obtain ⟨r, hr, order, cancelled⟩ := h.saved t b saved
  obtain ⟨⟨r', hr', order', -, cancelled'⟩, items⟩ := hm.lasting hr
  exact ⟨⟨r', hr', order'.trans order, fun hs ↦ cancelled' (cancelled hs)⟩, items⟩

private theorem self (t : Nat) (j : Job) (x : Choice) (o : Op) :
    (∃ e, known t (c.after t j x o).log = known t c.log ∧ (c.after t j x o).state = c.state ∧
      c.answer x o = .error e) ∨
    (known t (c.after t j x o).log = (known t c.log).next o (perform x o c.state).1 ∧
      (c.after t j x o).state = (perform x o c.state).2) := by
  have next : known t (c.after t j x o).log = (known t c.log).next o (c.answer x o) :=
    Monitor.state_self telling t j o _ c.log
  rcases exec_cases x o c.state with ⟨-, e, failed⟩ | done
  · have answer : c.answer x o = .error e := congrArg Prod.fst failed
    refine .inl ⟨e, ?_, congrArg Prod.snd failed, answer⟩
    rw [next, answer, next_error]
  · have answer : c.answer x o = (perform x o c.state).1 := congrArg Prod.fst done
    exact .inr ⟨by rw [next, answer], congrArg Prod.snd done⟩

private theorem outbox_step (h : Telling c) {t : Nat} {x : Choice} {o : Op}
    (hi : Inv (c.after t j x o).state (c.after t j x o).log owner₁)
    (hm : Moves M ⟨t, j, o, c.answer x o⟩ c owner (c.after t j x o) owner')
    (may : (known t c.log).may o) :
    ∀ e ∈ (c.after t j x o).state.outbox.rows, Truthful (c.after t j x o) e := by
  intro e he
  refine ⟨hi.entries e he, fun refunded ↦ ?_⟩
  rcases self t j x o with ⟨-, -, same, -⟩ | ⟨-, done⟩
  · rw [same] at he
    exact (hm.truthful (h.outbox e he)).refunded refunded
  · rw [done] at he
    rcases mem_outbox_perform he with old | rfl | ⟨writes, e₀, rfl, hw, event, aggregate, -⟩
    · exact (hm.truthful (h.outbox e old)).refunded refunded
    · obtain ⟨⟨found, hf, event, aggregate⟩, -⟩ := may
      rw [aggregate]
      exact (hm.truthful (h.entries t found hf)).refunded (event ▸ refunded)
    · obtain ⟨b, rfl, own, status⟩ := (may e₀ hw).2 (event ▸ refunded)
      rw [done] at hi
      rw [aggregate, own]
      exact refunded_of_commit hi status

private theorem entries_step (h : Telling c) {t : Nat} {x : Choice} {o : Op}
    (hm : Moves M ⟨t, j, o, c.answer x o⟩ c owner (c.after t j x o) owner') :
    ∀ e ∈ (known t (c.after t j x o).log).entries, Truthful (c.after t j x o) e := by
  intro e he
  rcases self t j x o with ⟨-, same, -, -⟩ | ⟨next, -⟩
  · rw [same] at he
    exact hm.truthful (h.entries t e he)
  · rw [next] at he
    cases o with
    | findPendingEntries =>
      have found := List.mem_of_mem_take he
      exact hm.truthful (h.outbox e (List.mem_of_mem_filter found))
    | findBooking b =>
      have same : ((known t c.log).next (.findBooking b)
          (perform x (.findBooking b) c.state).1).entries = (known t c.log).entries := by
        simp only [perform, Known.next]
        split <;> rfl
      rw [same] at he
      exact hm.truthful (h.entries t e he)
    | _ => exact hm.truthful (h.entries t e he)

private theorem saved_step (h : Telling c) {t : Nat} {x : Choice} {o : Op}
    (hm : Moves M ⟨t, j, o, c.answer x o⟩ c owner (c.after t j x o) owner') {b : Booking}
    (hb : (known t (c.after t j x o).log).saved = some b) :
    (∃ r, (c.after t j x o).state.bookings.find b.id = some r ∧ r.order = b.order ∧
      (b.status = .cancelled → r.status = .cancelled)) ∧
    ∀ items, (known t (c.after t j x o).log).items = some items →
      items = (c.after t j x o).state.itemsOf b.id := by
  have old : (known t c.log).saved = some b →
      (known t (c.after t j x o).log).items = (known t c.log).items →
      (∃ r, (c.after t j x o).state.bookings.find b.id = some r ∧ r.order = b.order ∧
        (b.status = .cancelled → r.status = .cancelled)) ∧
      ∀ items, (known t (c.after t j x o).log).items = some items →
        items = (c.after t j x o).state.itemsOf b.id := by
    intro saved same
    obtain ⟨row, kept⟩ := h.lasting hm saved
    refine ⟨row, fun items hitems ↦ ?_⟩
    rw [same] at hitems
    exact (h.items t b items saved hitems).trans kept.symm
  rcases self t j x o with ⟨-, same, -, -⟩ | ⟨next, done⟩
  · rw [same] at hb
    exact old hb (by rw [same])
  · rw [next] at hb
    cases o with
    | saveBooking b' =>
      obtain rfl : b' = b := Option.some.inj hb
      rw [next, done]
      refine ⟨⟨b', Table.find_put_self _ _, rfl, id⟩, fun items hitems ↦ ?_⟩
      cases hitems
    | findBooking b' =>
      by_cases mine : (known t c.log).saved.map Booking.id = some b'
      · have after : (known t c.log).next (.findBooking b')
            (perform x (.findBooking b') c.state).1 =
              { known t c.log with
                items := ((c.state.bookings.find b').map c.state.view).map BookingView.items } := by
          simp only [perform, Known.next, mine, if_true]
        rw [after] at hb next
        have own : b.id = b' := by
          rw [show (known t c.log).saved = some b from hb] at mine
          exact Option.some.inj mine
        obtain ⟨row, kept⟩ := h.lasting hm hb
        refine ⟨row, fun items hitems ↦ ?_⟩
        rw [next] at hitems
        obtain ⟨r, hr, -⟩ := h.saved t b hb
        rw [own] at hr
        simp only [hr, Option.map_some, Option.some.injEq] at hitems
        rw [kept, ← hitems, own]
        show c.state.itemsOf r.id = c.state.itemsOf b'
        rw [(Inv.mem_of_find hr).2]
      · have after : (known t c.log).next (.findBooking b')
            (perform x (.findBooking b') c.state).1 = known t c.log := by
          simp only [perform, Known.next, mine, if_false]
        rw [after] at hb next
        exact old hb (by rw [next])
    | _ => exact old hb (by rw [next]; rfl)

private theorem wasEmitted_cons {log : List (Event service)} {m : String × Id × BookingPayload}
    (h : WasEmitted log m) : WasEmitted (ev :: log) m := by
  obtain ⟨earlier, he, emits⟩ := h
  exact ⟨earlier, List.mem_cons_of_mem _ he, emits⟩

private theorem emitted_step (h : Telling c) {t : Nat} {x : Choice} {o : Op} :
    ∀ m ∈ (known t (c.after t j x o).log).emitted, WasEmitted (c.after t j x o).log m := by
  intro m hm
  rcases self t j x o with ⟨-, same, -, -⟩ | ⟨next, -⟩
  · rw [same] at hm
    exact wasEmitted_cons (h.emitted t m hm)
  · rw [next] at hm
    cases o with
    | emit topic key payload =>
      cases hm
      exact ⟨_, List.mem_cons_self, rfl⟩
    | findBooking b =>
      have same : ((known t c.log).next (.findBooking b)
          (perform x (.findBooking b) c.state).1).emitted = (known t c.log).emitted := by
        simp only [perform, Known.next]
        split <;> rfl
      rw [same] at hm
      exact wasEmitted_cons (h.emitted t m hm)
    | _ => exact wasEmitted_cons (h.emitted t m hm)

private theorem completed_step (h : Telling c) {t : Nat} {x : Choice} {o : Op}
    (may : (known t c.log).may o) :
    ∀ e ∈ (c.after t j x o).state.outbox.rows, e.status = .completed → ∀ m ∈ e.message,
      WasEmitted (c.after t j x o).log m := by
  intro e he completed m hm
  rcases self t j x o with ⟨-, -, same, -⟩ | ⟨-, done⟩
  · rw [same] at he
    exact wasEmitted_cons (h.completed e he completed m hm)
  · rw [done] at he
    rcases mem_outbox_perform he with old | rfl | ⟨writes, e₀, rfl, hw, -, -, status⟩
    · exact wasEmitted_cons (h.completed e old completed m hm)
    · exact wasEmitted_cons (h.emitted t m (may.2 completed m hm))
    · rw [status, (may e₀ hw).1] at completed
      cases completed

/-- Every operation keeps the announced messages true. -/
theorem step (h : Telling c) {t : Nat} {x : Choice} {o : Op} (before : Inv c.state c.log owner)
    (hi : Inv (c.after t j x o).state (c.after t j x o).log owner₁)
    (hm : Moves M ⟨t, j, o, c.answer x o⟩ c owner (c.after t j x o) owner')
    (may : (known t c.log).may o) : Telling (c.after t j x o) := by
  have other : ∀ u, u ≠ t → known u (c.after t j x o).log = known u c.log :=
    fun u hu ↦ Monitor.state_other telling (Ne.symm hu)
  constructor
  · exact h.outbox_step hi hm may
  · intro u e he
    by_cases hu : u = t
    · exact h.entries_step hm e (hu ▸ he)
    · rw [other u hu] at he
      exact hm.truthful (h.entries u e he)
  · intro u b hb
    by_cases hu : u = t
    · exact (h.saved_step hm (hu ▸ hb)).1
    · rw [other u hu] at hb
      exact (h.lasting hm hb).1
  · intro u b items hb hitems
    by_cases hu : u = t
    · subst hu
      exact (h.saved_step hm hb).2 items hitems
    · rw [other u hu] at hb hitems
      exact (h.items u b items hb hitems).trans (h.lasting hm hb).2.symm
  · intro ev he topic key payload hop
    rcases List.mem_cons.mp he with rfl | he
    · obtain rfl : o = _ := hop
      exact hm.truthOf (h.truthOf before may)
    · exact hm.truthOf (h.told ev he topic key payload hop)
  · intro u m hu
    by_cases htu : u = t
    · exact h.emitted_step m (htu ▸ hu)
    · rw [other u htu] at hu
      exact wasEmitted_cons (h.emitted u m hu)
  · exact h.completed_step may

end Telling

variable {p : Pool service}

/-- The announced messages are true in every run. -/
theorem telling_of_reach (hp : Reach Mode.none.regime p) : Telling p.conf := by
  induction hp with
  | start hs =>
    subst hs
    exact .start
  | spawn _ _ ih => exact ih
  | @run p t j x o k hp ht hmay ih =>
    obtain ⟨owner, owner', before, move⟩ := reach_move (x := x) hp ht
    obtain ⟨owner₁, hi⟩ := reach_inv (hp.run ht hmay)
    have watched := Monitor.watches_of_reach (Q := fun _ _ _ ↦ True) job_telling hp
    exact ih.step before hi move (watched.may ht)

/-- Whatever fails and however the jobs interleave, each message that was emitted is true of the
stored booking, at any later time too: a confirmation is of a booking for which the payment service
answered `SUCCEEDED`, a refund of one for which it answered `success`, and a cancellation of a
cancelled one. -/
theorem emissions_truthful (hp : Reach (.free service) p) {ev : Event service}
    (he : ev ∈ p.conf.log) {topic : String} {key : Id} {payload : BookingPayload}
    (emits : ev.op = .emit topic key payload) : TruthOf p.conf topic key payload :=
  (telling_of_reach hp.free).told ev he topic key payload emits

/-- Whatever fails and however the jobs interleave, `emit` was called with the message of an outbox
row that is marked as completed. -/
theorem completed_emitted (hp : Reach (.free service) p) {e : Outbox}
    (he : e ∈ p.conf.state.outbox.rows) (completed : e.status = .completed)
    {topic : String} {key : Id} {payload : BookingPayload}
    (message : e.message = some (topic, key, payload)) :
    ∃ ev ∈ p.conf.log, ev.op = .emit topic key payload :=
  (telling_of_reach hp.free).completed e he completed _ message

/-- A booking is confirmed, and the worker delivers its outbox rows. -/
def sampleDelivery : List (Label service) :=
  sampleBooking 0 0 "A" ++ .spawn .processOutbox :: quietSteps 1 14

/-- Its outbox row is completed, and the confirmation was emitted. -/
theorem confirmation_emitted :
    ∃ p, Pool.play (.free service) sampleDelivery (.start Db.empty) = some p ∧
      ∃ e ∈ p.conf.state.outbox.rows, e.status = .completed ∧
        ∃ payload, e.message = some ("booking.confirmed", 0, payload) ∧
          ∃ ev ∈ p.conf.log, ev.op = .emit "booking.confirmed" 0 payload := by
  have played : (Pool.play (.free service) sampleDelivery (.start Db.empty)).any
      fun p ↦ p.conf.state.outbox.rows.any fun e ↦ e.status = .completed ∧
        e.message.any fun m ↦ m.1 = "booking.confirmed" ∧ m.2.1 = 0 := by
    decide +kernel
  simp only [Option.any_eq_true, List.any_eq_true, decide_eq_true_eq] at played
  obtain ⟨p, hp, e, he, completed, ⟨_, _, payload⟩, message, rfl, rfl⟩ := played
  exact ⟨p, hp, e, he, completed, payload, message,
    completed_emitted (Pool.reach_of_play rfl hp) he completed message⟩

/-- The operation announces the confirmation of a booking. -/
def Op.confirms (key : Id) : Op → Option BookingPayload
  | .emit "booking.confirmed" key' payload => if key' = key then some payload else none
  | _ => none

/-- A confirmation is an emission on its topic. -/
theorem Op.eq_of_confirms {o : Op} {key : Id} {payload : BookingPayload}
    (h : o.confirms key = some payload) : o = .emit "booking.confirmed" key payload := by
  unfold Op.confirms at h
  split at h
  · split at h
    · next same =>
      cases h
      rw [same]
    · cases h
  · cases h

/-- Its confirmation is announced, and true. -/
theorem confirmation_truthful :
    ∃ p, Pool.play (.free service) sampleDelivery (.start Db.empty) = some p ∧
      ∃ ev ∈ p.conf.log, ∃ payload, ev.op = .emit "booking.confirmed" 0 payload ∧
        TruthOf p.conf "booking.confirmed" 0 payload := by
  have played : (Pool.play (.free service) sampleDelivery (.start Db.empty)).any
      fun p ↦ p.conf.log.any fun ev ↦ (ev.op.confirms 0).isSome := by
    decide +kernel
  simp only [Option.any_eq_true, List.any_eq_true, Option.isSome_iff_exists] at played
  obtain ⟨p, hp, ev, he, payload, confirms⟩ := played
  have emits := Op.eq_of_confirms confirms
  exact ⟨p, hp, ev, he, payload, emits, emissions_truthful (Pool.reach_of_play rfl hp) he emits⟩

end Ticketing.BookingService
