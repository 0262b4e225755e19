import Ticketing.Async.Refinement
import Ticketing.BookingService.TransactionalOutbox

/-!
# The refund saga

Library `BookingService`. An abstract machine says what the refund of one booking may do:
which call belongs to which state, and which arrows of the diagram there are. Refund jobs
that do not overlap refine it, whatever fails.
-/

namespace Ticketing.BookingService

open Async Store

/-! ### The machine -/

/-- The refund of one booking: the persisted state, the idempotency key since the refund
started, and the answers of the payment service, newest first. -/
structure Saga where
  state : Option RefundState
  key : String
  answers : List Bool
  deriving DecidableEq, Repr

/-- What the refund of one booking does; `answer` is the `success` of the reply, and absent
when the call throws. -/
inductive SagaAction where
  | refundPayment (key : String) (answer : Option Bool)
  | releaseSoldSeats
  | cancelTickets
  | internal
  deriving DecidableEq, Repr

/-- The steps of the refund diagram. -/
inductive Saga.Step : Saga → SagaAction → Saga → Prop where
  | refundPayment {s : Saga} (answer : Option Bool) (hs : s.state = some .refundInitiated) :
      Step s (.refundPayment s.key answer) { s with answers := answer.toList ++ s.answers }
  | releaseSoldSeats {s : Saga} (hs : s.state = some .paymentRefunded) (ha : true ∈ s.answers) :
      Step s .releaseSoldSeats s
  | cancelTickets {s : Saga} (hs : s.state = some .seatsReleased) : Step s .cancelTickets s
  | start {s : Saga} (key : String) (hs : s.state = none) :
      Step s .internal { s with state := some .refundInitiated, key }
  | pay {s : Saga} (hs : s.state = some .refundInitiated) (ha : true ∈ s.answers) :
      Step s .internal { s with state := some .paymentRefunded }
  | fail {s : Saga} (hs : s.state = some .refundInitiated) (ha : false ∈ s.answers) :
      Step s .internal { s with state := some .failed }
  | release {s : Saga} (hs : s.state = some .paymentRefunded) :
      Step s .internal { s with state := some .seatsReleased }
  | complete {s : Saga} (hs : s.state = some .seatsReleased) :
      Step s .internal { s with state := some .completed }
  | idle {s : Saga} : Step s .internal s

/-- The refund diagram. -/
def refundDiagram : Machine Saga SagaAction := ⟨⟨none, "", []⟩, Saga.Step⟩

/-- Every refund call of a trace carries the key of the saga. -/
theorem key_of_trace {ls : List SagaAction} {s : Saga} (h : refundDiagram.Trace ls s) :
    ∀ key answer, .refundPayment key answer ∈ ls → s.state ≠ none ∧ key = s.key := by
  apply Machine.Trace.induct _ _ h
  · intro key answer hm
    cases hm
  · intro ls s l s' hs ih key answer hm
    cases hs with
    | refundPayment answer' hst =>
      rcases List.mem_cons.mp hm with he | hm
      · cases he
        exact ⟨by simp [hst], rfl⟩
      · exact ih key answer hm
    | releaseSoldSeats | cancelTickets | idle =>
      exact ih key answer (by simpa using hm)
    | start key' hst =>
      obtain ⟨hne, -⟩ := ih key answer (by simpa using hm)
      exact absurd hst hne
    | pay | fail | release | complete =>
      obtain ⟨-, hk⟩ := ih key answer (by simpa using hm)
      exact ⟨by simp, hk⟩

/-! ### The service as a saga -/

/-- The `success` of a reply to `refundPayment`. -/
def refundAnswer : Except Exception Reply → Option Bool
  | .ok (.refund success _ _) => some success
  | _ => none

/-- What an operation is for the refund of booking `b`. -/
def Op.sagaAction (b : Id) : (o : Op) → sig.Answer o → SagaAction
  | .rpc _ (.refundPayment b' key _), a =>
    if b' = b then .refundPayment key (refundAnswer a) else .internal
  | .rpc issuer (.releaseSoldSeats _ _), _ =>
    if issuer = some b then .releaseSoldSeats else .internal
  | .cancelTickets b', _ => if b' = b then .cancelTickets else .internal
  | _, _ => .internal

/-- What an executed operation is for the refund of booking `b`. -/
def sagaAction (b : Id) (ev : Event service) : SagaAction := ev.op.sagaAction b ev.answer

/-- The answers to the refund calls of booking `b`. -/
def refundAnswers (b : Id) : List (Event service) → List Bool
  | [] => []
  | ev :: log =>
    match sagaAction b ev with
    | .refundPayment _ answer => answer.toList ++ refundAnswers b log
    | _ => refundAnswers b log

/-- The refund columns of a row; before the refund started there is no key. -/
def Booking.saga (r : Booking) (answers : List Bool) : Saga where
  state := r.refundState
  key := if r.refundState = none then "" else r.refundIdempotencyKey.getD ""
  answers := answers

/-- The refund of booking `b` in a configuration. -/
def sagaOf (b : Id) (c : Conf service) : Saga :=
  match c.state.bookings.find b with
  | none => ⟨none, "", refundAnswers b c.log⟩
  | some r => r.saga (refundAnswers b c.log)

/-- An answer that a state rests on is one of the answers of the saga. -/
theorem mem_refundAnswers {success : Bool} {log : List (Event service)} {b : Id}
    (h : RefundAnswered success log b) : success ∈ refundAnswers b log := by
  obtain ⟨t, j, key, reason, id, why, hm⟩ := h
  induction log with
  | nil => cases hm
  | cons ev log ih =>
    rcases List.mem_cons.mp hm with rfl | hm
    · simp [refundAnswers, sagaAction, Op.sagaAction, refundAnswer]
    · simp only [refundAnswers]
      split
      · exact List.mem_append_right _ (ih hm)
      · exact ih hm

/-- The mode in which no two refund jobs run at the same time. -/
def Mode.refundsApart : Mode := ⟨false, true⟩

/-- Operations that store a booking are no calls of the refund. -/
theorem sagaAction_of_stored {b b' : Id} {o : Op} {a : sig.Answer o} {r : Booking}
    (h : o.stored b a = some r) : o.sagaAction b' a = .internal := by
  cases o with
  | rpc issuer request => simp [Op.stored] at h
  | cancelTickets b => simp [Op.stored] at h
  | _ => rfl

/-- Only replies to `refundPayment` are answers. -/
theorem refundAnswers_internal {b : Id} {ev : Event service} {log : List (Event service)}
    (h : sagaAction b ev = .internal) : refundAnswers b (ev :: log) = refundAnswers b log := by
  simp only [refundAnswers, h]

/-- The saga of a stored booking is that of its row and the answers of the payment service. -/
theorem sagaOf_found {b : Id} {c : Conf service} {r : Booking}
    (h : c.state.bookings.find b = some r) : sagaOf b c = r.saga (refundAnswers b c.log) := by
  simp only [sagaOf, h]

/-- The saga depends on the row and the answers. -/
theorem sagaOf_congr {b : Id} {c c' : Conf service}
    (hb : c'.state.bookings.find b = c.state.bookings.find b) :
    sagaOf b c' = { sagaOf b c with answers := refundAnswers b c'.log } := by
  unfold sagaOf
  rw [hb]
  cases c.state.bookings.find b with
  | none => rfl
  | some r => rfl

/-- Storing a later row of a refund is a step of the diagram. -/
theorem saga_step_of_forward {r r' : Booking} {answers : List Bool} (hf : Forward r r')
    (hn : r'.refundState ≠ none)
    (paid : r'.refundState = some .paymentRefunded → true ∈ answers)
    (failed : r'.refundState = some .failed → false ∈ answers) :
    refundDiagram.Step (r.saga answers) .internal (r'.saga answers) := by
  have kept : r.refundState ≠ none →
      (r'.saga answers) = { r.saga answers with state := r'.refundState } := by
    intro hne
    simp [Booking.saga, hne, hn, hf.key hne]
  rcases hf.state with hsame | hstep
  · rw [kept (hsame ▸ hn), hsame]
    exact .idle
  · by_cases hne : r.refundState = none
    · rw [hne] at hstep
      generalize hs' : r'.refundState = s' at hstep
      cases hstep
      have hr : r'.saga answers = { r.saga answers with
          state := some .refundInitiated, key := r'.refundIdempotencyKey.getD "" } := by
        simp [Booking.saga, hs']
      rw [hr]
      exact .start _ hne
    · rw [kept hne]
      generalize hs : r.refundState = s at hstep
      generalize hs' : r'.refundState = s' at hstep
      cases hstep with
      | start => exact absurd hs hne
      | pay => exact .pay hs (paid hs')
      | fail => exact .fail hs (failed hs')
      | release => exact .release hs
      | complete => exact .complete hs

/-- Before the refund starts the saga has neither state nor key. -/
theorem saga_unstarted {r : Booking} {answers : List Bool} (h : r.refundState = none) :
    r.saga answers = ⟨none, "", answers⟩ := by
  simp [Booking.saga, h]

/-- An operation that stores the booking is a step of the diagram. -/
theorem saga_step_stored {c c' : Conf service} {ev : Event service} {owner owner' : Id → Option Nat}
    (hi : Inv c.state c.log owner) (hi' : Inv c'.state c'.log owner') (hl : c'.log = ev :: c.log)
    {b : Id} {r' : Booking} (hr' : c'.state.bookings.find b = some r')
    (hstored : ev.op.stored b ev.answer = some r')
    (hm : BookingMove Mode.refundsApart ev c owner b r') :
    refundDiagram.Step (sagaOf b c) (sagaAction b ev) (sagaOf b c') := by
  have internal : sagaAction b ev = .internal := sagaAction_of_stored hstored
  have answers : refundAnswers b c'.log = refundAnswers b c.log := by
    rw [hl]
    exact refundAnswers_internal internal
  have hrow : r' ∈ c'.state.bookings.rows ∧ r'.id = b := Inv.mem_of_find hr'
  have hok : RowOk c'.log r' := hi'.rows r' hrow.1
  rw [internal, sagaOf_found hr', answers]
  have idle : ∀ {r}, c.state.bookings.find b = some r → r.refundState = none →
      r'.refundState = none →
      refundDiagram.Step (sagaOf b c) .internal (r'.saga (refundAnswers b c.log)) := by
    intro r found hn hn'
    rw [sagaOf_found found, saga_unstarted hn, saga_unstarted hn']
    exact .idle
  have unstarted : ∀ {r}, c.state.bookings.find b = some r → r.settled = false →
      r.refundState = none := by
    intro r found hs
    by_contra hne
    rw [(hi.rows r (Inv.mem_of_find found).1).started hne] at hs
    cases hs
  cases hm with
  | persisted op absent own pending state =>
    have hsaga : sagaOf b c = ⟨none, "", refundAnswers b c.log⟩ := by simp only [sagaOf, absent]
    rw [hsaga, saga_unstarted state]
    exact .idle
  | confirmed found own pending order status state =>
    exact idle found (unstarted found (by simp [Booking.settled, pending])) state
  | cancelled found own unsettled order status state =>
    exact idle found (unstarted found unsettled) state
  | @refund r _ _ job found settled settled' order state last alone forward =>
    have hbase := alone rfl
    subst hbase
    rw [sagaOf_found found]
    apply saga_step_of_forward forward state
    · intro hp
      rw [← answers, ← hrow.2]
      exact mem_refundAnswers (hok.paymentRefunded (.inl hp))
    · intro hp
      rw [← answers, ← hrow.2]
      exact mem_refundAnswers (hok.failed hp)

/-- An operation that leaves the row of the booking is a step of the diagram. -/
theorem saga_step_kept {c c' : Conf service} {ev : Event service} (hl : c'.log = ev :: c.log)
    {b : Id} (hr : c'.state.bookings.find b = c.state.bookings.find b)
    (ha : Acts Mode.refundsApart c ev.op) :
    refundDiagram.Step (sagaOf b c) (sagaAction b ev) (sagaOf b c') := by
  obtain ⟨t, j, o, a⟩ := ev
  have same : { sagaOf b c with answers := refundAnswers b c.log } = sagaOf b c := by
    unfold sagaOf
    cases c.state.bookings.find b with
    | none => rfl
    | some r => rfl
  have idle : sagaAction b ⟨t, j, o, a⟩ = .internal → refundDiagram.Step (sagaOf b c)
      (sagaAction b ⟨t, j, o, a⟩) (sagaOf b c') := by
    intro h
    rw [sagaOf_congr hr, hl, refundAnswers_internal h, h, same]
    exact .idle
  cases o with
  | rpc issuer request =>
    cases request with
    | refundPayment b' key reason =>
      by_cases hb : b' = b
      · subst hb
        obtain ⟨-, r, found, hst⟩ := ha
        obtain ⟨hs, hk⟩ := hst rfl
        have hsaga := sagaOf_found found
        have hact : sagaAction b' ⟨t, j, .rpc issuer (.refundPayment b' key reason), a⟩ =
            .refundPayment (sagaOf b' c).key (refundAnswer a) := by
          simp [sagaAction, Op.sagaAction, hsaga, Booking.saga, hs, hk]
        have hans : (sagaOf b' c).answers = refundAnswers b' c.log := by rw [hsaga]; rfl
        rw [sagaOf_congr hr, hl, hact]
        simp only [refundAnswers, hact]
        rw [← hans]
        apply Saga.Step.refundPayment
        rw [hsaga]
        exact hs
      · exact idle (by simp [sagaAction, Op.sagaAction, hb])
    | releaseSoldSeats e ids =>
      obtain ⟨b', r, rfl, found, -, -, -, hrefunded, hst⟩ := ha
      by_cases hb : b' = b
      · subst hb
        have hsaga := sagaOf_found found
        have hact : sagaAction b' ⟨t, j, .rpc (some b') (.releaseSoldSeats e ids), a⟩ =
            .releaseSoldSeats := by
          simp [sagaAction, Op.sagaAction]
        rw [sagaOf_congr hr, hl, hact]
        simp only [refundAnswers, hact, same]
        rw [hsaga]
        exact .releaseSoldSeats (hst rfl) (mem_refundAnswers hrefunded)
      · exact idle (by simp [sagaAction, Op.sagaAction, hb])
    | _ => exact idle rfl
  | cancelTickets b' =>
    by_cases hb : b' = b
    · subst hb
      obtain ⟨-, r, found, hst⟩ := ha
      have hact : sagaAction b' ⟨t, j, .cancelTickets b', a⟩ = .cancelTickets := by
        simp [sagaAction, Op.sagaAction]
      rw [sagaOf_congr hr, hl, hact]
      simp only [refundAnswers, hact, same]
      rw [sagaOf_found found]
      exact .cancelTickets (hst rfl)
    · exact idle (by simp [sagaAction, Op.sagaAction, hb])
  | _ => exact idle rfl

/-- Every operation of a run without overlapping refund jobs is a step of the diagram. -/
theorem saga_step {p : Pool service} (hp : Reach Mode.refundsApart.regime p) {t : Nat} {j : Job}
    {x : Choice} {o : Op} {k : sig.Answer o → service.Program} (ht : p.At t j (.op o k)) (b : Id) :
    refundDiagram.Step (sagaOf b p.conf) (sagaAction b ⟨t, j, o, p.conf.answer x o⟩)
      (sagaOf b (p.conf.after t j x o)) := by
  obtain ⟨owner, owner', hi, hmove⟩ := reach_move hp ht (x := x)
  obtain ⟨owner'', hi'⟩ := reach_inv (hp.run ht trivial (x := x))
  rcases hmove.bookings b with he | ⟨r', hr', hstored, hb⟩
  · exact saga_step_kept rfl he hmove.acts
  · exact saga_step_stored hi hi' rfl hr' hstored hb

/-! ### The loop of the state machine -/

/-- How many rounds of the loop a refund in this state needs at most. -/
def roundsLeft : Option RefundState → Nat
  | some .refundInitiated => 3
  | some .paymentRefunded => 2
  | _ => 1

/-- The round does not end the loop only if it brought the refund one state further. -/
def Progress (b : Booking) (r : Except Exception Outcome × Booking) : Prop :=
  r.1 = .ok .again → roundsLeft r.2.refundState < roundsLeft b.refundState

/-- A round that does not end the loop brings the refund one state further. -/
theorem refundSwitch_results (items : List BookingItem) (b : Booking) :
    (refundSwitch items b).Results (Progress b) := by
  have thrown : ∀ e l, Progress b (.error e, l) := by
    intro e l h
    cases h
  have finished : ∀ l, Progress b (.ok .done, l) := by
    intro l h
    cases h
  unfold refundSwitch
  rw [Code.entity_bind]
  cases hs : b.refundState with
  | none => exact thrown _ _
  | some state =>
    cases state with
    | refundInitiated =>
      intro r
      cases r with
      | error e => exact thrown _ _
      | ok reply =>
        cases reply with
        | refund success id why =>
          cases success with
          | true =>
            intro r
            cases r with
            | error e => exact thrown _ _
            | ok u => exact fun _ ↦ by simp [roundsLeft, hs]
          | false =>
            intro r
            cases r with
            | error e => exact thrown _ _
            | ok u => exact thrown _ _
        | _ => exact thrown _ _
    | paymentRefunded =>
      intro r
      cases r with
      | error e => exact thrown _ _
      | ok reply =>
        intro r
        cases r with
        | error e => exact thrown _ _
        | ok u => exact fun _ ↦ by simp [roundsLeft, hs]
    | seatsReleased =>
      -- Whatever connecting and the transaction answer, the last statement is the `return`.
      apply Prog.Results.bind (Prog.Results.any _)
      rintro ⟨r, l⟩ -
      cases r with
      | error e => exact thrown _ _
      | ok u =>
        apply Prog.Results.bind (Prog.Results.any _)
        rintro ⟨r, l⟩ -
        cases r with
        | error e => exact thrown _ _
        | ok u => exact finished _
    | completed => exact finished _
    | failed => exact thrown _ _

/-- A step of the refund progresses, also when an error goes through the outer `catch` block. -/
theorem refundStep_results (items : List BookingItem) (b : Booking) :
    (refundStep items b).Results (Progress b) := by
  apply Prog.Results.bind (refundSwitch_results items b)
  rintro ⟨r, b'⟩ h
  cases r with
  | ok outcome => exact h
  | error e =>
    intro r
    cases r <;> exact fun h ↦ by cases h

/-- The loop is not left by running out of rounds. -/
theorem refundLoop_results (items : List BookingItem) (rounds : Nat) (b : Booking)
    (hb : roundsLeft b.refundState ≤ rounds) :
    (refundLoop items rounds b).Results fun r ↦ r.1 ≠ .ok false := by
  induction rounds generalizing b with
  | zero =>
    unfold roundsLeft at hb
    split at hb <;> omega
  | succ rounds ih =>
    apply Prog.Results.bind (refundStep_results items b)
    rintro ⟨r, b'⟩ h
    cases r with
    | error e => simp [Prog.Results]
    | ok outcome =>
      cases outcome with
      | again =>
        have hlt : roundsLeft b'.refundState < roundsLeft b.refundState := h rfl
        exact ih b' (by omega)
      | done => simp [Prog.Results, pure, Code.ret]

/-! ### The refinement -/

/-- The refund of every booking follows the diagram, its refund calls carry one key, and
the loop of `processRefundStateMachine` is always left by a `return` or a throw. -/
theorem refund_saga_follows_diagram {p : Pool service} (hp : Reach Mode.refundsApart.regime p) :
    (∀ b, refundDiagram.Trace (p.conf.log.map (sagaAction b)) (sagaOf b p.conf)) ∧
      (∀ b key key' answer answer',
        .refundPayment key answer ∈ p.conf.log.map (sagaAction b) →
        .refundPayment key' answer' ∈ p.conf.log.map (sagaAction b) → key = key') ∧
      ∀ items b, (processRefundStateMachine items b).Results fun r ↦ r.1 ≠ .ok false := by
  have traces : ∀ b, refundDiagram.Trace (p.conf.log.map (sagaAction b)) (sagaOf b p.conf) := by
    intro b
    apply Machine.trace_of_reach (sagaOf b) (sagaAction b) _ _ hp
    · rintro _ rfl
      rfl
    · exact fun p t j x o k hp ht _ ↦ saga_step hp ht b
  refine ⟨traces, ?_, ?_⟩
  · intro b key key' answer answer' hm hm'
    have hk := (key_of_trace (traces b) key answer hm).2
    have hk' := (key_of_trace (traces b) key' answer' hm').2
    rw [hk, hk']
  · intro items b
    apply refundLoop_results
    unfold roundsLeft maxSteps
    split <;> omega

/-- The refund call of thread 1 throws, and the recovery worker refunds the booking. -/
def recoveredRefund : List (Label service) :=
  sampleBooking 0 0 "A" ++ [.spawn (.cancelBooking 0 "u" "r" none)] ++ quietSteps 1 2 ++
    steps 1 [{ fault := some (.failure "timeout") }] ++ quietSteps 1 1 ++
    [.spawn .recoveryStuckRefunds] ++ quietSteps 2 2 ++
    steps 2 [{ reply := .refund true none "" }] ++ quietSteps 2 10

/-- The refund of the run is completed, after two calls with one key. -/
theorem refund_saga_follows_diagram_recovered :
    ∃ p, Pool.play Mode.refundsApart.regime recoveredRefund (.start Db.empty) = some p ∧
      (sagaOf 0 p.conf).state = some .completed ∧ (sagaOf 0 p.conf).key = "r" ∧
      (.refundPayment "r" none ∈ p.conf.log.map (sagaAction 0)) ∧
      (.refundPayment "r" (some true) ∈ p.conf.log.map (sagaAction 0)) ∧
      refundDiagram.Trace (p.conf.log.map (sagaAction 0)) (sagaOf 0 p.conf) := by
  have played :
      (Pool.play Mode.refundsApart.regime recoveredRefund (.start Db.empty)).any fun p ↦
        (sagaOf 0 p.conf).state = some .completed && (sagaOf 0 p.conf).key = "r" &&
          decide (.refundPayment "r" none ∈ p.conf.log.map (sagaAction 0)) &&
          decide (.refundPayment "r" (some true) ∈ p.conf.log.map (sagaAction 0)) := by
    decide +kernel
  simp only [Option.any_eq_true, Bool.and_eq_true, decide_eq_true_eq] at played
  obtain ⟨p, hp, ⟨⟨hs, hk⟩, hthrown⟩, hanswered⟩ := played
  obtain ⟨traces, -, -⟩ := refund_saga_follows_diagram (Pool.reach_of_play rfl hp)
  exact ⟨p, hp, hs, hk, hthrown, hanswered, traces 0⟩

end Ticketing.BookingService
