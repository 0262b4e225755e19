import Ticketing.BookingService.RefundCompletion

/-!
# Resuming a refund

Library `BookingService`. A tick of the recovery worker, or a repeated `cancelBooking`, that
works alone while nothing fails and the payment service refunds. The worker's selection and
the `switch` agree: both go on from every state of an unfinished refund but `FAILED`.
-/

namespace Ticketing.BookingService

open Async Store

/-- What is decided at each operation: none fails, and each refund succeeds. -/
structure Succeeding (x : Nat → Op → Choice) : Prop where
  fault : ∀ n o, (x n o).fault = none
  refund : ∀ n issuer b key reason, ∃ id why,
    (x n (.rpc issuer (.refundPayment b key reason))).reply = .refund true id why

/-- The answers of the database when `x` is decided. -/
def deciding (x : Nat → Op → Choice) : Handler sig Db := fun n o s ↦ exec (x n o) o s

/-- The database after a tick of the recovery worker alone. -/
def afterTick (x : Nat → Op → Choice) (s : Db) : Db :=
  (recoveryStuckRefunds.exec (deciding x) 0 () s).state

/-- The database after a `cancelBooking` alone. -/
def afterCancel (x : Nat → Op → Choice) (b : Id) (userId refundIdempotencyKey : String)
    (reason : Option String) (s : Db) : Db :=
  ((cancelBooking b userId refundIdempotencyKey reason).exec (deciding x) 0 () s).state

/-- Booking `b` is stored as refunded. -/
def RefundDone (s : Db) (b : Id) : Prop :=
  ∃ r, s.bookings.find b = some r ∧ r.refundState = some .completed ∧ r.status = .refunded

/-- The refund of booking `b` was completed, and no other booking was stored. -/
structure Resumed (s : Db) (b : Id) (s' : Db) : Prop where
  done : RefundDone s' b
  others : ∀ i, i ≠ b → s'.bookings.find i = s.bookings.find i

variable {x : Nat → Op → Choice}

/-- An operation that does not fail has its effect. -/
theorem Succeeding.apply (hx : Succeeding x) (n : Nat) (o : Op) (s : Db) :
    deciding x n o s = perform (x n o) o s := by
  unfold deciding exec
  rw [hx.fault]
  exact Sig.attempt_none (S := sig) o s

/-- A row that is not complete is not done. -/
theorem not_refundDone {s : Db} {r : Booking} (hr : s.bookings.find r.id = some r)
    (hc : r.refundState ≠ some .completed) : ¬ RefundDone s r.id := by
  rintro ⟨r', hr', hc', -⟩
  rw [hr] at hr'
  cases hr'
  exact hc hc'

/-- Saving the entity first does not matter. -/
theorem Resumed.of_save {s s' : Db} {b : Booking}
    (h : Resumed { s with bookings := s.bookings.put b } b.id s') : Resumed s b.id s' where
  done := h.done
  others i hi := by
    rw [h.others i hi]
    exact Table.find_put_of_ne _ (Ne.symm hi)

/-! ### The state machine -/

section Machine

variable (hx : Succeeding x) (items : List BookingItem) (b : Booking) (n steps : Nat) (s : Db)

include hx

/-- From `SEATS_RELEASED` one step is left. -/
theorem resumed_of_seatsReleased (hs : b.refundState = some .seatsReleased) :
    Resumed s b.id ((refundLoop items (steps + 1)).exec (deciding x) n b s).state := by
  have state : ((refundLoop items (steps + 1)).exec (deciding x) n b s).state =
      s.refunded (b.completed (x (n + 2) .now).now) items := by
    simp [refundLoop, refundStep, refundSwitch, hs, completeStep, completeTransaction, hx.apply,
      perform, Db.refunded, Db.cancelledTickets, Booking.completed, refundedEntry]
  rw [state]
  constructor
  · exact ⟨b.completed (x (n + 2) .now).now, Table.find_put_self s.bookings (b.completed _),
      rfl, rfl⟩
  · intro i hi
    have hne : (b.completed (x (n + 2) .now).now).id ≠ i := Ne.symm hi
    exact Table.find_put_of_ne s.bookings hne

/-- From `PAYMENT_REFUNDED` two steps are left. -/
theorem resumed_of_paymentRefunded (hs : b.refundState = some .paymentRefunded) :
    Resumed s b.id ((refundLoop items (steps + 2)).exec (deciding x) n b s).state := by
  let released : Booking := { b with refundState := some .seatsReleased }
  have state : ((refundLoop items (steps + 2)).exec (deciding x) n b s).state =
      ((refundLoop items (steps + 1)).exec (deciding x) (n + 2) released
        { s with bookings := s.bookings.put released }).state := by
    rw [refundLoop]
    simp [refundStep, refundSwitch, hs, releaseSeatsStep, hx.apply, perform, released]
  rw [state]
  exact Resumed.of_save (b := released) (resumed_of_seatsReleased hx items released _ _ _ rfl)

/-- From `REFUND_INITIATED` three steps are left. -/
theorem resumed_of_refundInitiated (hs : b.refundState = some .refundInitiated) :
    Resumed s b.id ((refundLoop items (steps + 3)).exec (deciding x) n b s).state := by
  let refunded : Booking := { b with refundState := some .paymentRefunded }
  obtain ⟨id, why, reply⟩ := hx.refund n (some b.id) b.id (b.refundIdempotencyKey.getD "")
    (orUserCancellation b.cancellationReason)
  have state : ((refundLoop items (steps + 3)).exec (deciding x) n b s).state =
      ((refundLoop items (steps + 2)).exec (deciding x) (n + 2) refunded
        { s with bookings := s.bookings.put refunded }).state := by
    rw [refundLoop]
    simp [refundStep, refundSwitch, hs, refundPaymentStep, grpc, hx.apply, perform, reply,
      Reply.refund?, refunded]
  rw [state]
  exact Resumed.of_save (b := refunded) (resumed_of_paymentRefunded hx items refunded _ _ _ rfl)

/-- From every state that the worker selects the refund is completed. -/
theorem resumed_of_stuck (hs : b.stuck = true) :
    Resumed s b.id ((processRefundStateMachine items).exec (deciding x) n b s).state := by
  simp only [Booking.stuck, Bool.or_eq_true, decide_eq_true_eq] at hs
  rcases hs with (hs | hs) | hs
  · exact resumed_of_refundInitiated hx items b n 2 s hs
  · exact resumed_of_paymentRefunded hx items b n 3 s hs
  · exact resumed_of_seatsReleased hx items b n 4 s hs

/-- A failed refund throws; the `catch` block stores the attempt. -/
theorem state_of_failed (hs : b.refundState = some .failed) :
    ∃ e, ((processRefundStateMachine items).exec (deciding x) n b s).state =
      { s with bookings := s.bookings.put (b.retried e) } := by
  refine ⟨.badRequest ("Refund failed: " ++ b.refundLastError.getD "null"), ?_⟩
  simp [processRefundStateMachine, maxSteps, refundLoop, refundStep, refundSwitch, hs,
    failRefundStep, hx.apply, perform, Booking.retried]

end Machine

/-! ### The recovery worker -/

/-- What the loop over the stuck bookings leaves. -/
structure Recovered (s : Db) (views : List BookingView) (s' : Db) : Prop where
  done : ∀ v ∈ views, v.booking.refundRetryCount < maxRetries → RefundDone s' v.booking.id
  others : ∀ i, (∀ v ∈ views, v.booking.id ≠ i) → s'.bookings.find i = s.bookings.find i

/-- A booking that is tried leaves what its state machine leaves. -/
theorem recoverEach_tried (h : Handler sig Db) {v : BookingView} (rest : List BookingView)
    (hv : v.booking.refundRetryCount < maxRetries) (n : Nat) (s : Db) :
    ∃ m, (recoverEach (v :: rest)).exec h n () s = (recoverEach rest).exec h m ()
      ((processRefundStateMachine v.items).exec h n v.booking s).state := by
  obtain ⟨booking, items⟩ := v
  rw [recoverEach, if_neg (Nat.not_le.mpr hv)]
  rcases hp : (processRefundStateMachine items).exec h n booking s with ⟨r, b', m, s'⟩
  refine ⟨m, ?_⟩
  cases r with
  | ok a => simp [hp]
  | error e => simp [hp]

/-- The loop completes the refunds of the bookings it tries, and touches no others. -/
theorem recoverEach_recovers (hx : Succeeding x) {views : List BookingView}
    (hs : ∀ v ∈ views, v.booking.stuck = true)
    (hd : (views.map fun v ↦ v.booking.id).Nodup) (n : Nat) (s : Db) :
    ∃ m s', (recoverEach views).exec (deciding x) n () s = ⟨.ok (), (), m, s'⟩ ∧
      Recovered s views s' := by
  induction views generalizing n s with
  | nil =>
    refine ⟨n, s, rfl, ?_, ?_⟩
    · intro v hv
      cases hv
    · exact fun _ _ ↦ rfl
  | cons v rest ih =>
    rw [List.map_cons, List.nodup_cons] at hd
    have stuck : ∀ w ∈ rest, w.booking.stuck = true :=
      fun w hw ↦ hs w (List.mem_cons_of_mem _ hw)
    have apart : ∀ w ∈ rest, w.booking.id ≠ v.booking.id :=
      fun w hw he ↦ hd.1 (List.mem_map.mpr ⟨w, hw, he⟩)
    by_cases hv : v.booking.refundRetryCount < maxRetries
    · obtain ⟨m, hm⟩ := recoverEach_tried (deciding x) rest hv n s
      have first := resumed_of_stuck hx v.items v.booking n s (hs v List.mem_cons_self)
      obtain ⟨m', s', he, hr⟩ := ih stuck hd.2 m
        ((processRefundStateMachine v.items).exec (deciding x) n v.booking s).state
      refine ⟨m', s', hm.trans he, ?_, ?_⟩
      · intro w hw hc
        rcases List.mem_cons.mp hw with rfl | hw
        · obtain ⟨r, hf, hdone⟩ := first.done
          exact ⟨r, (hr.others _ apart).trans hf, hdone⟩
        · exact hr.done w hw hc
      · intro i hi
        have hne := Ne.symm (hi v List.mem_cons_self)
        rw [hr.others i fun w hw ↦ hi w (List.mem_cons_of_mem _ hw)]
        exact first.others i hne
    · obtain ⟨m, s', he, hr⟩ := ih stuck hd.2 n s
      refine ⟨m, s', ?_, ?_, ?_⟩
      · rw [recoverEach, if_pos (Nat.not_lt.mp hv)]
        exact he
      · intro w hw hc
        rcases List.mem_cons.mp hw with rfl | hw
        · exact absurd hc hv
        · exact hr.done w hw hc
      · exact fun i hi ↦ hr.others i fun w hw ↦ hi w (List.mem_cons_of_mem _ hw)

/-- A tick returns at once while another one is in progress. -/
theorem afterTick_busy (hx : Succeeding x) {s : Db} (hp : s.isProcessing = true) :
    afterTick x s = { s with isProcessing := true } := by
  simp [afterTick, recoveryStuckRefunds, hx.apply, perform, hp]

/-- Otherwise it recovers the bookings that it selects. -/
theorem afterTick_idle (hx : Succeeding x) {s : Db} (hp : s.isProcessing = false) :
    Recovered s ((s.bookings.rows.filter Booking.stuck).map s.view) (afterTick x s) := by
  let busy : Db := { s with isProcessing := true }
  let views := (s.bookings.rows.filter Booking.stuck).map busy.view
  have stuck : ∀ v ∈ views, v.booking.stuck = true := by
    intro v hv
    obtain ⟨r, hr, rfl⟩ := List.mem_map.mp hv
    exact (List.mem_filter.mp hr).2
  have apart : (views.map fun v ↦ v.booking.id).Nodup := by
    rw [List.map_map]
    exact s.bookings.nodup.sublist (List.filter_sublist.map Booking.id)
  obtain ⟨m, s', he, hr⟩ := recoverEach_recovers hx stuck apart 2 busy
  have state : afterTick x s = { s' with isProcessing := false } := by
    simp only [views, busy] at he
    simp [afterTick, recoveryStuckRefunds, recoverStuck, hx.apply, perform, hp, he]
  rw [state]
  exact ⟨hr.done, hr.others⟩

/-! ### Which refunds are resumed -/

/-- The states of an unfinished refund. -/
theorem stuck_iff_not_failed {r : Booking} (hs : r.refundState ≠ none)
    (hc : r.refundState ≠ some .completed) : r.stuck = true ↔ r.refundState ≠ some .failed := by
  cases hr : r.refundState with
  | none => exact absurd hr hs
  | some state =>
    cases state with
    | completed => exact absurd hr hc
    | refundInitiated => simp [Booking.stuck, hr]
    | paymentRefunded => simp [Booking.stuck, hr]
    | seatsReleased => simp [Booking.stuck, hr]
    | failed => simp [Booking.stuck, hr]

/-- A tick completes the refund exactly if the worker selects it. -/
theorem refundDone_afterTick (hx : Succeeding x) {s : Db} {r : Booking}
    (hr : s.bookings.find r.id = some r) (hc : r.refundState ≠ some .completed)
    (hm : r.refundRetryCount < maxRetries) :
    RefundDone (afterTick x s) r.id ↔ r.stuck = true ∧ s.isProcessing = false := by
  cases hp : s.isProcessing with
  | true =>
    rw [afterTick_busy hx hp]
    simp only [reduceCtorEq, and_false, iff_false]
    exact not_refundDone hr hc
  | false =>
    simp only [and_true]
    have after := afterTick_idle hx hp
    constructor
    · intro done
      by_contra hs
      have same := after.others r.id fun v hv he ↦ by
        obtain ⟨r', hr', rfl⟩ := List.mem_map.mp hv
        obtain ⟨hmem, hstuck⟩ := List.mem_filter.mp hr'
        have found := Table.find_of_mem hmem
        rw [show r'.id = r.id from he, hr] at found
        cases found
        exact hs hstuck
      exact not_refundDone (same.trans hr) hc done
    · intro hs
      have hmem : r ∈ s.bookings.rows := (Table.find_eq_some_iff.mp hr).1
      exact after.done (s.view r)
        (List.mem_map_of_mem (List.mem_filter.mpr ⟨hmem, hs⟩)) hm

/-- A repeated `cancelBooking` goes on with the stored refund. -/
theorem afterCancel_started (hx : Succeeding x) {s : Db} {r : Booking}
    (hr : s.bookings.find r.id = some r) (hst : r.status = .confirmed)
    (hs : r.refundState ≠ none) (key : String) (reason : Option String) :
    afterCancel x r.id r.userId key reason s =
      ((processRefundStateMachine (s.itemsOf r.id)).exec (deciding x) 1 r s).state := by
  rcases hp : (processRefundStateMachine (s.itemsOf r.id)).exec (deciding x) 1 r s with
    ⟨a, b', m, s'⟩
  cases a with
  | ok a =>
    simp [afterCancel, cancelBooking, hx.apply, perform, hr, Db.view, hst, startRefund, hs, hp]
  | error e =>
    simp [afterCancel, cancelBooking, hx.apply, perform, hr, Db.view, hst, startRefund, hs, hp]

/-- A repeated `cancelBooking` completes the refund exactly if the `switch` goes on from its
state. -/
theorem refundDone_afterCancel (hx : Succeeding x) {s : Db} {r : Booking}
    (hr : s.bookings.find r.id = some r) (hst : r.status = .confirmed)
    (hs : r.refundState ≠ none) (hc : r.refundState ≠ some .completed) (key : String)
    (reason : Option String) :
    RefundDone (afterCancel x r.id r.userId key reason s) r.id ↔ r.stuck = true := by
  rw [afterCancel_started hx hr hst hs]
  constructor
  · intro done
    by_contra hstuck
    have failed : r.refundState = some .failed :=
      not_not.mp fun h ↦ hstuck ((stuck_iff_not_failed hs hc).mpr h)
    obtain ⟨e, he⟩ := state_of_failed hx (s.itemsOf r.id) r 1 s failed
    rw [he] at done
    refine not_refundDone (r := r.retried e) (Table.find_put_self _ _) ?_ done
    rw [show (r.retried e).refundState = r.refundState from rfl, failed]
    exact fun h ↦ by cases h
  · exact fun hstuck ↦ (resumed_of_stuck hx _ r 1 s hstuck).done

/-- Every refund succeeds. -/
def refunding : Nat → Op → Choice := fun _ _ ↦ { reply := .refund true none "" }

/-- The choices of the example let every operation succeed. -/
theorem succeeding_refunding : Succeeding refunding where
  fault _ _ := rfl
  refund _ _ _ _ _ := ⟨none, "", rfl⟩

/-- Booking 0 is confirmed; its refund waits for the answer of the payment service. -/
def askedRefund : List (Label service) :=
  sampleBooking 0 0 "A" ++ .spawn (.cancelBooking 0 "u" "r" none) :: quietSteps 1 2

end Ticketing.BookingService
