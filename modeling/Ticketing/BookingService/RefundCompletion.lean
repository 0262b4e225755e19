import Ticketing.Async.Run
import Ticketing.BookingService.RefundFinality

/-!
# Completing a refund

Library `BookingService`. What the step from `SEATS_RELEASED` to `COMPLETED` leaves in the
database, for every choice of the statements that fail. The entity is assigned before the
statements run and the outer `catch` block saves it, so the step is not all-or-nothing.
-/

namespace Ticketing.BookingService

open Async Store

/-- Which statements of the step fail; the step executes each at most once. -/
structure StepFaults where
  connect : Option Exception := none
  tickets : Option Exception := none
  booking : Option Exception := none
  outbox : Option Exception := none
  commit : Option Exception := none
  rollback : Option Exception := none
  save : Option Exception := none
  now : Nat := 0

namespace StepFaults

/-- What is decided at an operation of the step. -/
def choice (f : StepFaults) : Op → Choice
  | .connect => { fault := f.connect }
  | .cancelTickets _ => { fault := f.tickets }
  | .statement (.booking _) => { fault := f.booking }
  | .statement _ => { fault := f.outbox }
  | .commit _ => { fault := f.commit }
  | .rollback => { fault := f.rollback }
  | .saveBooking _ => { fault := f.save }
  | _ => { now := f.now }

/-- The answers of the database in the step. -/
def handler (f : StepFaults) : Handler sig Db := fun _ o s ↦ exec (f.choice o) o s

/-- Storing the booking, storing the outbox row or the commit fails. -/
def transactionFails (f : StepFaults) : Bool :=
  f.booking.isSome || f.outbox.isSome || f.commit.isSome

end StepFaults

/-- The database after `processRefundStateMachine` worked on a booking alone. -/
def afterRefund (f : StepFaults) (items : List BookingItem) (b : Booking) (s : Db) : Db :=
  ((processRefundStateMachine items).exec f.handler 0 b s).state

/-- The refund of booking `b` is complete. -/
structure RefundComplete (s : Db) (b : Id) (s' : Db) : Prop where
  booking : ∃ r, s'.bookings.find b = some r ∧ r.refundState = some .completed ∧
    r.status = .refunded
  tickets : ∀ ticket ∈ s.tickets.rows, s'.tickets.find ticket.id = some (cancelTicket b ticket)
  outbox : s'.countEvents b OutboxEvent.isBookingRefunded = 1

/-- Booking `b` is as before, apart from `refundRetryCount` and `refundLastError`. -/
structure RefundUntouched (s : Db) (b : Id) (s' : Db) : Prop where
  booking : ∃ r r', s.bookings.find b = some r ∧ s'.bookings.find b = some r' ∧
    r' = { r with refundRetryCount := r'.refundRetryCount, refundLastError := r'.refundLastError }
  tickets : ∀ n, s'.tickets.find n = s.tickets.find n
  outbox : s'.countEvents b OutboxEvent.isBookingRefunded = 0

/-! ### What the step does -/

/-- The entity after the assignments of the step. -/
def Booking.completed (b : Booking) (now : Nat) : Booking :=
  { b with status := .refunded, cancelledAt := some now, refundState := some .completed }

/-- The entity after the assignments of the outer `catch` block. -/
def Booking.retried (b : Booking) (e : Exception) : Booking :=
  { b with refundRetryCount := b.refundRetryCount + 1, refundLastError := some e.message }

/-- The database after the ticket update. -/
def Db.cancelledTickets (s : Db) (b : Id) : Db :=
  { s with tickets := s.tickets.putAll (s.tickets.rows.map (cancelTicket b)) }

/-- The row that the step inserts. -/
def refundedEntry (b : Booking) (items : List BookingItem) : Outbox :=
  Outbox.create b.id (.bookingRefunded (refundedPayload b items))

/-- The database after the commit of the step. -/
def Db.refunded (s : Db) (b : Booking) (items : List BookingItem) : Db :=
  ((s.cancelledTickets b.id).write (.booking b)).write (.outbox (refundedEntry b items))

variable (f : StepFaults) (items : List BookingItem) (b : Booking) (n : Nat) (s : Db)

/-- Each operation is answered by the database with the choice for it. -/
@[simp] theorem StepFaults.handler_apply (o : Op) : f.handler n o s = exec (f.choice o) o s := rfl

/-- When the ticket update fails nothing is assigned. -/
theorem completeTransaction_begin {e : Exception} (h : f.tickets = some e) :
    (completeTransaction items).exec f.handler n b s = ⟨.error e, b, n + 1, s⟩ := by
  simp [completeTransaction, StepFaults.choice, exec, Sig.attempt, Op.fallible, h]

/-- A failure after the ticket update leaves the tickets cancelled and the entity assigned. -/
theorem completeTransaction_abort (ht : f.tickets = none) (h : f.transactionFails = true) :
    ∃ e m, (completeTransaction items).exec f.handler n b s =
      ⟨.error e, b.completed f.now, m, s.cancelledTickets b.id⟩ := by
  simp only [StepFaults.transactionFails, Bool.or_eq_true] at h
  cases hb : f.booking with
  | some e =>
    simp [completeTransaction, StepFaults.choice, exec, Sig.attempt, Op.fallible, perform, ht, hb,
      Booking.completed, Db.cancelledTickets]
  | none =>
    cases ho : f.outbox with
    | some e =>
      simp [completeTransaction, StepFaults.choice, exec, Sig.attempt, Op.fallible, perform, ht, hb,
        ho, Booking.completed, Db.cancelledTickets]
    | none =>
      cases hc : f.commit with
      | some e =>
        simp [completeTransaction, StepFaults.choice, exec, Sig.attempt, Op.fallible, perform, ht,
          hb, ho, hc, Booking.completed, Db.cancelledTickets]
      | none => simp [hb, ho, hc] at h

/-- Without failures the booking and its outbox row are stored. -/
theorem completeTransaction_done (ht : f.tickets = none) (h : f.transactionFails = false) :
    ∃ m, (completeTransaction items).exec f.handler n b s =
      ⟨.ok (), b.completed f.now, m, s.refunded (b.completed f.now) items⟩ := by
  simp only [StepFaults.transactionFails, Bool.or_eq_false_iff, Option.isSome_eq_false_iff,
    Option.isNone_iff_eq_none] at h
  obtain ⟨⟨hb, ho⟩, hc⟩ := h
  refine ⟨n + 5, ?_⟩
  simp [completeTransaction, StepFaults.choice, exec, Sig.attempt, Op.fallible, perform, ht, hb, ho,
    hc, Booking.completed, Db.refunded, Db.cancelledTickets, refundedEntry]

variable {f items b n s}

/-- After an error of the transaction the rollback leaves entity and database. -/
theorem completeStep_error {e : Exception} {b' : Booking} {m : Nat} {s' : Db}
    (hc : f.connect = none)
    (h : (completeTransaction items).exec f.handler (n + 1) b s = ⟨.error e, b', m, s'⟩) :
    ∃ e' m', (completeStep items).exec f.handler n b s = ⟨.error e', b', m', s'⟩ := by
  cases hr : f.rollback with
  | none =>
    simp [completeStep, StepFaults.choice, exec, Sig.attempt, Op.fallible, perform, hc, h, hr]
  | some e' =>
    simp [completeStep, StepFaults.choice, exec, Sig.attempt, Op.fallible, perform, hc, h, hr]

/-- The step ends the loop when its transaction is committed. -/
theorem completeStep_ok {b' : Booking} {m : Nat} {s' : Db} (hc : f.connect = none)
    (h : (completeTransaction items).exec f.handler (n + 1) b s = ⟨.ok (), b', m, s'⟩) :
    (completeStep items).exec f.handler n b s = ⟨.ok .done, b', m, s'⟩ := by
  simp [completeStep, StepFaults.choice, exec, Sig.attempt, Op.fallible, perform, hc, h]

/-- The database after the outer `catch` block: the entity is saved, unless the save fails. -/
def StepFaults.saved (f : StepFaults) (b : Booking) (e : Exception) (s : Db) : Db :=
  if f.save.isSome then s else { s with bookings := s.bookings.put (b.retried e) }

/-- The `catch` block leaves the tickets. -/
@[simp] theorem StepFaults.saved_tickets (f : StepFaults) (b : Booking) (e : Exception) (s : Db) :
    (f.saved b e s).tickets = s.tickets := by
  unfold saved
  split <;> rfl

/-- The `catch` block leaves the outbox. -/
@[simp] theorem StepFaults.saved_countEvents (f : StepFaults) (b : Booking) (e : Exception) (s : Db)
    (i : Id) (kind : OutboxEvent → Bool) :
    (f.saved b e s).countEvents i kind = s.countEvents i kind := by
  unfold saved
  split <;> rfl

/-- The row after the `catch` block: what was stored, or the entity. -/
theorem StepFaults.saved_find (f : StepFaults) (b : Booking) (e : Exception) (s : Db) :
    (f.saved b e s).bookings.find b.id =
      if f.save.isSome then s.bookings.find b.id else some (b.retried e) := by
  unfold saved
  by_cases h : f.save.isSome = true
  · rw [if_pos h, if_pos h]
  · rw [if_neg h, if_neg h]
    exact Table.find_put_self s.bookings (b.retried e)

/-- An error of the step goes through the outer `catch` block. -/
theorem afterRefund_error {e : Exception} {b' : Booking} {m : Nat} {s' : Db}
    (hs : b.refundState = some .seatsReleased)
    (h : (completeStep items).exec f.handler 0 b s = ⟨.error e, b', m, s'⟩) :
    afterRefund f items b s = f.saved b' e s' := by
  cases hf : f.save with
  | none =>
    simp [afterRefund, processRefundStateMachine, maxSteps, refundLoop, refundStep, refundSwitch,
      hs, h, failRefundStep, StepFaults.choice, exec, Sig.attempt, Op.fallible, perform, hf,
      StepFaults.saved, Booking.retried]
  | some e' =>
    simp [afterRefund, processRefundStateMachine, maxSteps, refundLoop, refundStep, refundSwitch,
      hs, h, failRefundStep, StepFaults.choice, exec, Sig.attempt, Op.fallible, hf,
      StepFaults.saved]

/-- A committed step is the last one. -/
theorem afterRefund_ok {b' : Booking} {m : Nat} {s' : Db}
    (hs : b.refundState = some .seatsReleased)
    (h : (completeStep items).exec f.handler 0 b s = ⟨.ok .done, b', m, s'⟩) :
    afterRefund f items b s = s' := by
  simp [afterRefund, processRefundStateMachine, maxSteps, refundLoop, refundStep, refundSwitch,
    hs, h]

/-- The three ways in which the call can leave the database. -/
theorem afterRefund_cases (hs : b.refundState = some .seatsReleased) :
    ((f.connect.isSome ∨ f.tickets.isSome) → ∃ e, afterRefund f items b s = f.saved b e s) ∧
      (f.connect = none → f.tickets = none → f.transactionFails = true →
        ∃ e, afterRefund f items b s =
          f.saved (b.completed f.now) e (s.cancelledTickets b.id)) ∧
      (f.connect = none → f.tickets = none → f.transactionFails = false →
        afterRefund f items b s = s.refunded (b.completed f.now) items) := by
  refine ⟨?_, ?_, ?_⟩
  · intro h
    cases hc : f.connect with
    | some e =>
      have hstep : (completeStep items).exec f.handler 0 b s = ⟨.error e, b, 1, s⟩ := by
        simp [completeStep, StepFaults.choice, exec, Sig.attempt, Op.fallible, hc]
      exact ⟨e, afterRefund_error hs hstep⟩
    | none =>
      rw [hc] at h
      obtain ⟨e, ht⟩ := Option.isSome_iff_exists.mp (h.resolve_left Bool.false_ne_true)
      obtain ⟨e', m, hstep⟩ := completeStep_error hc (completeTransaction_begin f items b 1 s ht)
      exact ⟨e', afterRefund_error hs hstep⟩
  · intro hc ht h
    obtain ⟨e, m, htrans⟩ := completeTransaction_abort f items b 1 s ht h
    obtain ⟨e', m', hstep⟩ := completeStep_error hc htrans
    exact ⟨e', afterRefund_error hs hstep⟩
  · intro hc ht h
    obtain ⟨m, htrans⟩ := completeTransaction_done f items b 1 s ht h
    exact afterRefund_ok hs (completeStep_ok hc htrans)

/-! ### All or nothing -/

/-- The tickets of the booking that can still be used. -/
def Db.hasActiveTicket (s : Db) (b : Id) : Bool :=
  s.tickets.rows.any fun ticket ↦ ticket.bookingId = b && ticket.status = .active

/-- The ticket update leaves the outbox. -/
@[simp] theorem cancelledTickets_countEvents (s : Db) (b i : Id) (kind : OutboxEvent → Bool) :
    (s.cancelledTickets b).countEvents i kind = s.countEvents i kind := rfl

/-- Updating the tickets changes what every identifier finds. -/
theorem find_cancelledTickets (s : Db) (b n : Id) :
    (s.cancelledTickets b).tickets.find n = (s.tickets.find n).map (cancelTicket b) := by
  apply Table.find_putAll_map
  intro ticket
  unfold cancelTicket
  split <;> rfl

/-- The update changes no ticket exactly if no ticket of the booking is active. -/
theorem cancelledTickets_same (s : Db) (b : Id) :
    (∀ n, (s.cancelledTickets b).tickets.find n = s.tickets.find n) ↔
      s.hasActiveTicket b = false := by
  unfold Db.hasActiveTicket
  rw [List.any_eq_false]
  constructor
  · intro h ticket hm ha
    have found := Table.find_of_mem hm
    have same := h ticket.id
    rw [find_cancelledTickets, found, Option.map_some, Option.some.injEq] at same
    simp only [Bool.and_eq_true, decide_eq_true_eq] at ha
    simp only [cancelTicket, ha, and_self, if_true] at same
    have : TicketStatus.cancelled = TicketStatus.active := by
      rw [← ha.2, ← same]
    cases this
  · intro h n
    rw [find_cancelledTickets]
    cases hf : s.tickets.find n with
    | none => rfl
    | some ticket =>
      have hn := h ticket (Table.find_eq_some_iff.mp hf).1
      simp only [Bool.and_eq_true, decide_eq_true_eq] at hn
      rw [Option.map_some, cancelTicket, if_neg hn]

/-- The call was all-or-nothing for the booking. -/
def AllOrNothing (s : Db) (b : Id) (s' : Db) : Prop :=
  RefundComplete s b s' ∨ RefundUntouched s b s'

/-- Where the row says `SEATS_RELEASED`, nothing may have happened. -/
theorem allOrNothing_of_released {s' : Db} {count : Nat} {last : Option String}
    (hf : s.bookings.find b.id = some b) (hs : b.refundState = some .seatsReleased)
    (hr : s'.bookings.find b.id =
      some { b with refundRetryCount := count, refundLastError := last }) :
    AllOrNothing s b.id s' ↔ s'.countEvents b.id OutboxEvent.isBookingRefunded = 0 ∧
      ∀ n, s'.tickets.find n = s.tickets.find n := by
  constructor
  · rintro (h | h)
    · obtain ⟨r, hr', hc, -⟩ := h.booking
      rw [hr] at hr'
      cases hr'
      rw [hs] at hc
      cases hc
    · exact ⟨h.outbox, h.tickets⟩
  · rintro ⟨hz, ht⟩
    exact .inr ⟨⟨b, _, hf, hr, rfl⟩, ht, hz⟩

/-- Where the row says `COMPLETED`, something has happened. -/
theorem not_untouched_of_completed {s' : Db} {r : Booking}
    (hf : s.bookings.find b.id = some b) (hs : b.refundState = some .seatsReleased)
    (hr : s'.bookings.find b.id = some r) (hc : r.refundState = some .completed) :
    ¬ RefundUntouched s b.id s' := by
  intro h
  obtain ⟨r₁, r₂, h₁, h₂, he⟩ := h.booking
  rw [hf] at h₁
  rw [hr] at h₂
  cases h₁
  cases h₂
  rw [he, hs] at hc
  cases hc

/-- Where the row says `COMPLETED`, everything must have happened. -/
theorem allOrNothing_of_completed {s' : Db} {r : Booking}
    (hf : s.bookings.find b.id = some b) (hs : b.refundState = some .seatsReleased)
    (hr : s'.bookings.find b.id = some r) (hc : r.refundState = some .completed)
    (hst : r.status = .refunded)
    (ht : s'.tickets = (s.cancelledTickets b.id).tickets) :
    AllOrNothing s b.id s' ↔ s'.countEvents b.id OutboxEvent.isBookingRefunded = 1 := by
  constructor
  · rintro (h | h)
    · exact h.outbox
    · exact absurd h (not_untouched_of_completed hf hs hr hc)
  · intro ho
    refine .inl ⟨⟨r, hr, hc, hst⟩, ?_, ho⟩
    intro ticket hm
    rw [ht, find_cancelledTickets, Table.find_of_mem hm, Option.map_some]

/-- The step from `SEATS_RELEASED` is all-or-nothing exactly if no `booking.refunded` row is
stored before, and its begin or its ticket update fails, or nothing fails, or the save of the
`catch` block fails too and there was no ticket to cancel; or if one such row is stored
already and the `catch` block saves what the failed transaction should have stored. -/
theorem refund_step_allOrNothing_iff (f : StepFaults) (items : List BookingItem) {b : Booking}
    {s : Db} (hf : s.bookings.find b.id = some b) (hs : b.refundState = some .seatsReleased)
    (hn : s.outbox.find s.nextId = none) :
    AllOrNothing s b.id (afterRefund f items b s) ↔
      (s.countEvents b.id OutboxEvent.isBookingRefunded = 0 ∧
        (f.connect.isSome ∨ f.tickets.isSome ∨ f.transactionFails = false ∨
          (f.save.isSome ∧ s.hasActiveTicket b.id = false))) ∨
      (s.countEvents b.id OutboxEvent.isBookingRefunded = 1 ∧ f.connect = none ∧
        f.tickets = none ∧ f.transactionFails = true ∧ f.save = none) := by
  obtain ⟨begun, aborted, done⟩ := @afterRefund_cases f items b s hs
  by_cases hbegin : f.connect.isSome ∨ f.tickets.isSome
  · obtain ⟨e, he⟩ := begun hbegin
    have row : ∃ count last, (f.saved b e s).bookings.find b.id =
        some { b with refundRetryCount := count, refundLastError := last } := by
      rw [StepFaults.saved_find]
      by_cases hsave : f.save.isSome = true
      · exact ⟨b.refundRetryCount, b.refundLastError, by rw [if_pos hsave, hf]⟩
      · exact ⟨b.refundRetryCount + 1, some e.message, by rw [if_neg hsave]; rfl⟩
    obtain ⟨count, last, hrow⟩ := row
    rw [he, allOrNothing_of_released hf hs hrow]
    simp only [StepFaults.saved_countEvents, StepFaults.saved_tickets, implies_true, and_true]
    constructor
    · intro hz
      exact .inl ⟨hz, hbegin.imp_right .inl⟩
    · rintro (⟨hz, -⟩ | ⟨-, hc, ht, -⟩)
      · exact hz
      · simp [hc, ht] at hbegin
  · have hc : f.connect = none := by
      rw [← Option.not_isSome_iff_eq_none]
      exact fun h ↦ hbegin (.inl h)
    have ht : f.tickets = none := by
      rw [← Option.not_isSome_iff_eq_none]
      exact fun h ↦ hbegin (.inr h)
    cases hfail : f.transactionFails with
    | false =>
      have row : (s.refunded (b.completed f.now) items).bookings.find b.id =
          some (b.completed f.now) := Table.find_put_self s.bookings (b.completed f.now)
      have count : (s.refunded (b.completed f.now) items).countEvents b.id
          OutboxEvent.isBookingRefunded =
            s.countEvents b.id OutboxEvent.isBookingRefunded + 1 := by
        refine (Inv.countEvents_insert s b.id OutboxEvent.isBookingRefunded
          (e := { refundedEntry (b.completed f.now) items with id := s.nextId }) hn).trans ?_
        simp [refundedEntry, Outbox.create, Booking.completed, OutboxEvent.isBookingRefunded]
      rw [done hc ht hfail, allOrNothing_of_completed hf hs row rfl rfl rfl, count]
      simp [hc, ht]
    | true =>
      obtain ⟨e, he⟩ := aborted hc ht hfail
      rw [he]
      have saved := StepFaults.saved_find f (b.completed f.now) e (s.cancelledTickets b.id)
      cases hsave : f.save with
      | some e' =>
        have row : (f.saved (b.completed f.now) e (s.cancelledTickets b.id)).bookings.find b.id =
            some b := by
          rw [hsave] at saved
          exact saved.trans hf
        rw [allOrNothing_of_released hf hs row]
        simp [hc, ht, cancelledTickets_same]
      | none =>
        rw [hsave] at saved
        rw [allOrNothing_of_completed hf hs saved rfl rfl (StepFaults.saved_tickets _ _ _ _)]
        simp [hc, ht]

/-- A booking whose seats are released, on its way to be refunded. -/
def releasedRefund : List (Label service) :=
  sampleBooking 0 0 "A" ++ sampleRefund 1 "r" ++ quietSteps 1 2

/-- Without failures the refund of the run is completed. -/
theorem refund_step_allOrNothing_iff_released :
    ∃ p b, Pool.play (.free service) releasedRefund (.start Db.empty) = some p ∧
      p.conf.state.bookings.find b.id = some b ∧ b.refundState = some .seatsReleased ∧
      AllOrNothing p.conf.state b.id
        (afterRefund {} (p.conf.state.itemsOf b.id) b p.conf.state) := by
  have played : (Pool.play (.free service) releasedRefund (.start Db.empty)).any fun p ↦
      (p.conf.state.bookings.find 0).any fun b ↦
        p.conf.state.bookings.find b.id = some b && b.refundState = some .seatsReleased &&
          p.conf.state.outbox.find p.conf.state.nextId = none &&
          p.conf.state.countEvents b.id OutboxEvent.isBookingRefunded = 0 := by
    decide +kernel
  simp only [Option.any_eq_true, Bool.and_eq_true, decide_eq_true_eq] at played
  obtain ⟨p, hp, b, -, ⟨⟨hf, hs⟩, hn⟩, hz⟩ := played
  refine ⟨p, b, hp, hf, hs, ?_⟩
  rw [refund_step_allOrNothing_iff {} _ hf hs hn]
  exact .inl ⟨hz, .inr (.inr (.inl rfl))⟩

/-- When the commit fails, the `catch` block stores the refund as completed without its
`booking.refunded` row. -/
theorem failed_commit_completes_refund :
    ¬ ∀ p b f, Reach (.free service) p → p.conf.state.bookings.find b.id = some b →
      b.refundState = some .seatsReleased →
      p.conf.state.countEvents b.id OutboxEvent.isBookingRefunded = 0 →
      AllOrNothing p.conf.state b.id
        (afterRefund f (p.conf.state.itemsOf b.id) b p.conf.state) := by
  have played : (Pool.play (.free service) releasedRefund (.start Db.empty)).any fun p ↦
      (p.conf.state.bookings.find 0).any fun b ↦
        p.conf.state.bookings.find b.id = some b && b.refundState = some .seatsReleased &&
          p.conf.state.countEvents b.id OutboxEvent.isBookingRefunded = 0 &&
          (afterRefund { commit := some (.failure "timeout") } (p.conf.state.itemsOf b.id) b
            p.conf.state).countEvents b.id OutboxEvent.isBookingRefunded = 0 &&
          ((afterRefund { commit := some (.failure "timeout") } (p.conf.state.itemsOf b.id) b
            p.conf.state).bookings.find b.id).any fun r ↦ r.refundState = some .completed := by
    decide +kernel
  simp only [Option.any_eq_true, Bool.and_eq_true, decide_eq_true_eq] at played
  obtain ⟨p, hp, b, -, ⟨⟨⟨hf, hs⟩, hz⟩, hz'⟩, r, hr, hc⟩ := played
  intro all
  rcases all p b _ (Pool.reach_of_play rfl hp) hf hs hz with h | h
  · rw [h.outbox] at hz'
    cases hz'
  · exact not_untouched_of_completed hf hs hr hc h

end Ticketing.BookingService
