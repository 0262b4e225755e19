import Ticketing.BookingService.TransactionalOutbox

/-!
# Finality of refunds

Library `BookingService`. Refunds go forward as long as nobody saves a copy of a booking
that another thread has refunded further; without a version check a stale copy takes a
completed refund back.
-/

namespace Ticketing.BookingService

open Async Store

/-- The place of a refund state in `REFUND_INITIATED < PAYMENT_REFUNDED < SEATS_RELEASED <
COMPLETED`; `FAILED` has none. -/
def refundRank : Option RefundState → Option Nat
  | none => some 0
  | some .refundInitiated => some 1
  | some .paymentRefunded => some 2
  | some .seatsReleased => some 3
  | some .completed => some 4
  | some .failed => none

/-- The second state stands before the first. -/
def MovedBack (s s' : Option RefundState) : Prop :=
  ∃ m n, refundRank s = some m ∧ refundRank s' = some n ∧ n < m

/-- From one database to a later one no refund state moves backwards, and a booking that is
`COMPLETED` and `REFUNDED` stays so. -/
def RefundsKept (s s' : Db) : Prop :=
  ∀ b r, s.bookings.find b = some r → ∃ r', s'.bookings.find b = some r' ∧
    ¬ MovedBack r.refundState r'.refundState ∧
    (r.refundState = some .completed ∧ r.status = .refunded →
      r'.refundState = some .completed ∧ r'.status = .refunded)

/-- A refund stores a booking only while the stored refund state is the one its thread
loaded or stored last, or already the one it stores. -/
def current : Regime service where
  may c ev := ev.job.refunds = true → ∀ r ∈ c.state.bookings.rows,
    ∀ r' ∈ ev.op.stored r.id ev.answer, ∀ base ∈ seen ev.tid r.id c.log,
      r.refundState = base.refundState ∨ r.refundState = r'.refundState
  excl _ _ := False

instance (c : Conf service) (ev : Event service) : Decidable (current.may c ev) :=
  inferInstanceAs (Decidable (_ → _))

instance (i j : Job) : Decidable (current.excl i j) := inferInstanceAs (Decidable False)

/-! ### Paths of the refund diagram -/

/-- Each booking stays stored, and its refund state follows the arrows of the diagram. -/
def Follows (s s' : Db) : Prop :=
  ∀ b r, s.bookings.find b = some r → ∃ r', s'.bookings.find b = some r' ∧
    Relation.ReflTransGen RefundStep r.refundState r'.refundState

/-- A path of the diagram ends where it began, or in `FAILED`, or further on. -/
theorem refundRank_of_path {s s' : Option RefundState}
    (h : Relation.ReflTransGen RefundStep s s') :
    s' = s ∨ s' = some .failed ∨
      ∃ m n, refundRank s = some m ∧ refundRank s' = some n ∧ m < n := by
  induction h with
  | refl => exact .inl rfl
  | @tail s' s'' _ hs ih =>
    rcases ih with rfl | rfl | ⟨m, n, hm, hn, hlt⟩
    · cases hs with
      | fail => exact .inr (.inl rfl)
      | start => exact .inr (.inr ⟨0, 1, rfl, rfl, by omega⟩)
      | pay => exact .inr (.inr ⟨1, 2, rfl, rfl, by omega⟩)
      | release => exact .inr (.inr ⟨2, 3, rfl, rfl, by omega⟩)
      | complete => exact .inr (.inr ⟨3, 4, rfl, rfl, by omega⟩)
    · cases hs
    · right
      cases hs with
      | fail => exact .inl rfl
      | start | pay | release | complete =>
        right
        simp only [refundRank, Option.some.injEq] at hn ⊢
        exact ⟨m, _, hm, rfl, by omega⟩

/-- A path of the diagram never moves backwards. -/
theorem not_movedBack_of_path {s s' : Option RefundState}
    (h : Relation.ReflTransGen RefundStep s s') : ¬ MovedBack s s' := by
  rintro ⟨m, n, hm, hn, hlt⟩
  rcases refundRank_of_path h with rfl | rfl | ⟨m', n', hm', hn', hlt'⟩
  · rw [hm] at hn
    cases hn
    omega
  · cases hn
  · rw [hm] at hm'
    rw [hn] at hn'
    cases hm'
    cases hn'
    omega

/-- No arrow leaves `COMPLETED`. -/
theorem path_of_completed {s : Option RefundState}
    (h : Relation.ReflTransGen RefundStep (some .completed) s) : s = some .completed := by
  rcases Relation.ReflTransGen.cases_head h with h | ⟨s', hs, -⟩
  · exact h.symm
  · cases hs

/-- The diagram is followed by each operation of a run in which no refund stores a stale copy. -/
theorem follows_of_current {p : Pool service} (hp : Reach current p) {t : Nat} {j : Job}
    {x : Choice} {o : Op} {k : sig.Answer o → service.Program} (ht : p.At t j (.op o k))
    (hm : current.may p.conf ⟨t, j, o, p.conf.answer x o⟩) :
    Follows p.conf.state (p.conf.after t j x o).state := by
  obtain ⟨owner, owner', hi, hmove⟩ := reach_move hp.free ht (x := x)
  intro b r hr
  have hrow : r ∈ p.conf.state.bookings.rows ∧ r.id = b := Inv.mem_of_find hr
  have unstarted : r.settled = false → r.refundState = none := by
    intro hs
    by_contra hne
    rw [(hi.rows r hrow.1).started hne] at hs
    cases hs
  rcases hmove.bookings b with he | ⟨r', hr', hstored, hb⟩
  · exact ⟨r, he.trans hr, .refl⟩
  · refine ⟨r', hr', ?_⟩
    cases hb with
    | persisted op absent =>
      rw [hr] at absent
      cases absent
    | confirmed found own pending order status state =>
      rw [hr] at found
      cases found
      rw [state, unstarted (by simp [Booking.settled, pending])]
    | cancelled found own unsettled order status state =>
      rw [hr] at found
      cases found
      rw [state, unstarted unsettled]
    | @refund _ base _ job found settled settled' order state last alone forward =>
      rw [hr] at found
      cases found
      obtain ⟨hmem, rfl⟩ := hrow
      rcases hm job r hmem r' hstored base last with hbase | hsame
      · rcases forward.state with hkeep | hstep
        · rw [hkeep, hbase]
        · rw [hbase]
          exact .single hstep
      · rw [hsame]

/-- Without stale copies refunds are final, over the whole run. -/
theorem refunds_final_when_current {p q : Pool service} (hp : Reach current p)
    (hl : Pool.Later current p q) : RefundsKept p.conf.state q.conf.state := by
  intro b r hr
  have hpath : Follows p.conf.state q.conf.state := by
    apply Pool.Later.induct _ _ _ hp hl
    · exact fun s b r hr ↦ ⟨r, hr, .refl⟩
    · intro s s' s'' h h' b r hr
      obtain ⟨r', hr', hs⟩ := h b r hr
      obtain ⟨r'', hr'', hs'⟩ := h' b r' hr'
      exact ⟨r'', hr'', hs.trans hs'⟩
    · exact fun p t j x o k hp ht hm ↦ follows_of_current hp ht hm
  obtain ⟨r', hr', hs⟩ := hpath b r hr
  refine ⟨r', hr', not_movedBack_of_path hs, ?_⟩
  rintro ⟨hc, -⟩
  rw [hc] at hs
  have hc' : r'.refundState = some .completed := path_of_completed hs
  have hq : Reach current q := hp.later hl
  obtain ⟨owner, hi⟩ := reach_inv hq.free
  exact ⟨hc', (hi.rows r' (Inv.mem_of_find hr').1).refunded.mpr hc'⟩

/-- Thread `t` cancels booking 0, and the payment service refunds it. -/
def sampleRefund (t : Nat) (key : String) : List (Label service) :=
  .spawn (.cancelBooking 0 "u" key none) :: quietSteps t 2 ++
    steps t [{ reply := .refund true none "" }] ++ quietSteps t 1

/-- A refund that nobody interferes with is kept up to its end, while the worker ticks. -/
theorem refunds_final_when_current_alone :
    ∃ p q, Pool.play current (sampleBooking 0 0 "A" ++ sampleRefund 1 "r") (.start Db.empty) =
        some p ∧
      Pool.play current (quietSteps 1 8 ++ [.spawn .recoveryStuckRefunds] ++ quietSteps 2 3) p =
        some q ∧
      (p.conf.state.bookings.find 0).any (fun r ↦ r.refundState = some .paymentRefunded) ∧
      (q.conf.state.bookings.find 0).any (fun r ↦ r.refundState = some .completed) ∧
      RefundsKept p.conf.state q.conf.state := by
  have played :
      (Pool.play current (sampleBooking 0 0 "A" ++ sampleRefund 1 "r") (.start Db.empty)).any
        fun p ↦ (Pool.play current
            (quietSteps 1 8 ++ [.spawn .recoveryStuckRefunds] ++ quietSteps 2 3) p).any fun q ↦
          (p.conf.state.bookings.find 0).any (fun r ↦ r.refundState = some .paymentRefunded) &&
            (q.conf.state.bookings.find 0).any fun r ↦ r.refundState = some .completed := by
    decide +kernel
  rw [Option.any_eq_true] at played
  obtain ⟨p, hp, played⟩ := played
  rw [Option.any_eq_true] at played
  obtain ⟨q, hq, played⟩ := played
  rw [Bool.and_eq_true] at played
  exact ⟨p, q, hp, hq, played.1, played.2,
    refunds_final_when_current (Pool.reach_of_play rfl hp) (Pool.later_of_play hq)⟩

/-! ### A stale copy of the recovery worker -/

/-- Thread 0 books, thread 1 refunds the payment, thread 2 loads the booking to recover it,
and thread 1 completes the refund. -/
def refundedBehindRecovery : List (Label service) :=
  sampleBooking 0 0 "A" ++ sampleRefund 1 "r" ++ [.spawn .recoveryStuckRefunds] ++
    quietSteps 2 2 ++ quietSteps 1 8

/-- A completed refund goes back to `SEATS_RELEASED`, when the recovery worker goes on with
the copy it loaded before. -/
theorem completed_refund_moves_back :
    ¬ ∀ p q, Reach (.free service) p → Pool.Later (.free service) p q →
      RefundsKept p.conf.state q.conf.state := by
  have played : (Pool.play (.free service) refundedBehindRecovery (.start Db.empty)).any
      fun p ↦ (Pool.play (.free service) (quietSteps 2 2) p).any fun q ↦
        (p.conf.state.bookings.find 0).any fun r ↦ r.refundState = some .completed &&
          r.status = .refunded &&
          (q.conf.state.bookings.find 0).any fun r' ↦ r'.refundState = some .seatsReleased := by
    decide +kernel
  simp only [Option.any_eq_true, Bool.and_eq_true, decide_eq_true_eq] at played
  obtain ⟨p, hp, q, hq, r, hr, ⟨hs, hst⟩, r', hr', hs'⟩ := played
  intro kept
  obtain ⟨r'', hr'', -, hfinal⟩ :=
    kept p q (Pool.reach_of_play rfl hp) (Pool.later_of_play hq) 0 r hr
  rw [hr'] at hr''
  cases hr''
  have hc := (hfinal ⟨hs, hst⟩).1
  rw [hs'] at hc
  cases hc

end Ticketing.BookingService
