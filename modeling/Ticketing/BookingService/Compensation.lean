import Ticketing.Async.Counted
import Ticketing.Async.Triples
import Ticketing.BookingService.Scopes
import Ticketing.BookingService.RefundResumption

/-!
# How a cancelled booking is compensated

Library `BookingService`. `createBooking` leaves its booking `CANCELLED` by two paths: when the
payment is declined, and in its `catch` block. The first releases the seats and announces nothing;
the second announces the cancellation and releases nothing. Only a release that throws after a
declined payment goes through both.
-/

namespace Ticketing.BookingService

open Async Store

/-- The answers of the environment, by position, with a record of what was executed. -/
def answering (x : Nat → Choice) : Handler sig (Db × List (Done sig)) :=
  (deciding fun n _ ↦ x n).recording

/-- An operation that compensates a cancellation. -/
def Op.compensates : Op → Bool
  | .rpc _ (.releaseSeats _ _ _ _) | .emit _ _ _ => true
  | _ => false

/-- The compensating operations of a record, newest first. -/
def effects (log : List (Done sig)) : List Op := (log.map Done.op).filter Op.compensates

/-- The announcement that a booking is cancelled. -/
def Op.announces (id : Id) : Op → Bool
  | .emit topic key _ => topic = "booking.cancelled" && key = id
  | _ => false

/-- The release of the seats was sent for the booking, and its cancellation announced once. -/
def Compensated (dto : CreateBookingDto) (id : Id) (log : List (Done sig)) : Prop :=
  (∃ reason, .rpc (some id) (.releaseSeats dto.eventId dto.seatIds dto.userId reason) ∈
    log.map Done.op) ∧ (log.map Done.op).countP (Op.announces id) = 1

/-- The payment is answered and declined, the cancelled booking is saved, the release of the seats
throws, and the two database calls of the `catch` block succeed. -/
def ReleaseThrows (x : Nat → Choice) : Prop :=
  ((x 10).fault = none ∧ ∃ payment, (x 10).reply = .payment (some payment) ∧
    payment.status ≠ .succeeded) ∧
  (x 12).fault = none ∧ (x 13).fault ≠ none ∧ (x 15).fault = none ∧ (x 16).fault = none

variable {x : Nat → Choice} {dto : CreateBookingDto} {L α : Type}

/-- Compensation depends on the compensating operations only. -/
theorem compensated_iff {id : Id} {log : List (Done sig)} :
    Compensated dto id log ↔
      (∃ reason, .rpc (some id) (.releaseSeats dto.eventId dto.seatIds dto.userId reason) ∈
        effects log) ∧ (effects log).countP (Op.announces id) = 1 := by
  have count : (effects log).countP (Op.announces id) =
      (log.map Done.op).countP (Op.announces id) := by
    rw [effects, List.countP_filter]
    apply List.countP_congr
    intro o _
    cases o <;> simp [Op.announces, Op.compensates]
  rw [Compensated, count]
  constructor
  · rintro ⟨⟨reason, h⟩, once⟩
    exact ⟨⟨reason, List.mem_filter.mpr ⟨h, rfl⟩⟩, once⟩
  · rintro ⟨⟨reason, h⟩, once⟩
    exact ⟨⟨reason, (List.mem_filter.mp h).1⟩, once⟩

/-- The answer to an operation that may fail. -/
theorem exec_of_fault {c : Choice} {o : Op} {e : Exception} (ho : o.fallible = true)
    (hf : c.fault = some e) (s : Db) : exec c o s = (.error e, s) := by
  unfold exec
  rw [hf]
  exact Sig.attempt_some (S := sig) ho e s

/-- The answer to an operation that does not fail. -/
theorem exec_of_none {c : Choice} (hf : c.fault = none) (o : Op) (s : Db) :
    exec c o s = perform c o s := by
  unfold exec
  rw [hf]
  exact Sig.attempt_none (S := sig) o s

/-- What is executed at a position is answered and recorded. -/
theorem answering_apply (n : Nat) (o : Op) (s : Db × List (Done sig)) :
    answering x n o s =
      ((exec (x n) o s.1).1, (exec (x n) o s.1).2, ⟨o, (exec (x n) o s.1).1⟩ :: s.2) := rfl

/-- Reading the clock returns the time and changes nothing. -/
theorem exec_now (c : Choice) (s : Db) : exec c .now s = (.ok c.now, s) :=
  Sig.attempt_of_infallible (S := sig) rfl s

/-- Nobody listens to the failure of an emission. -/
theorem exec_emit (c : Choice) (topic : String) (id : Id) (payload : BookingPayload) (s : Db) :
    exec c (.emit topic id payload) s = (.ok (), s) :=
  Sig.attempt_of_infallible (S := sig) rfl s

/-- A recorded operation that does not compensate. -/
theorem effects_cons {d : Done sig} {log : List (Done sig)} (h : d.op.compensates = false) :
    effects (d :: log) = effects log := by
  rw [effects, List.map_cons, List.filter_cons, if_neg (by simp [h])]
  rfl

/-- A recorded operation that compensates. -/
theorem effects_cons_of {d : Done sig} {log : List (Done sig)} (h : d.op.compensates = true) :
    effects (d :: log) = d.op :: effects log := by
  rw [effects, List.map_cons, List.filter_cons, if_pos h]
  rfl

/-- Operations that do not compensate leave the compensating ones as they are. -/
theorem effects_quiet {c : Code sig L α} (hc : c.Awaits fun o : Op ↦ o.compensates = false)
    (n : Nat) (l : L) (s : Db × List (Done sig)) :
    effects (c.exec (answering x) n l s).state.2 = effects s.2 := by
  refine Code.Awaits.exec (K := fun s' : Db × List (Done sig) ↦ effects s'.2 = effects s.2) ?_ hc
    rfl
  intro n o s' ho h
  exact (effects_cons ho).trans h

/-- Operations that persist or confirm a booking do not compensate. -/
theorem Op.quiet_of_persists {o : Op} (h : o.persists = true) : o.compensates = false := by
  cases o <;> first | rfl | cases h

/-! ### The `catch` block -/

/-- The `catch` block announces the cancellation if its two database calls succeed. -/
theorem effects_failBooking (e : Exception) (n : Nat) (b : Booking) (s : Db × List (Done sig)) :
    ((x (n + 1)).fault = none ∧ (x (n + 2)).fault = none →
      ∃ payload, effects ((failBooking e).exec (answering x) n b s).state.2 =
        .emit "booking.cancelled" b.id payload :: effects s.2) ∧
    (¬ ((x (n + 1)).fault = none ∧ (x (n + 2)).fault = none) →
      effects ((failBooking e).exec (answering x) n b s).state.2 = effects s.2) := by
  obtain ⟨db, log⟩ := s
  unfold failBooking cancelEntity
  simp only [Code.exec_bind, Code.exec_assign, Code.exec_await, Code.exec_entity, answering_apply,
    exec_now]
  cases hs : (x (n + 1)).fault with
  | some err =>
    rw [exec_of_fault rfl hs]
    refine ⟨fun h ↦ (nomatch h.1), fun _ ↦ ?_⟩
    exact (effects_cons rfl).trans (effects_cons rfl)
  | none =>
    rw [exec_of_none hs]
    cases hf : (x (n + 2)).fault with
    | some err =>
      simp only [perform, exec_of_fault (o := .findBooking b.id) rfl hf]
      refine ⟨fun h ↦ (nomatch h.2), fun _ ↦ ?_⟩
      exact (effects_cons rfl).trans ((effects_cons rfl).trans (effects_cons rfl))
    | none =>
      simp only [perform, exec_of_none hf, Table.find_put_self, Option.map_some, exec_emit,
        Code.exec_bind, Code.exec_await, answering_apply, Code.exec_throw]
      refine ⟨fun _ ↦ ⟨_, (effects_cons_of rfl).trans (congrArg _ ?_)⟩,
        fun h ↦ (h ⟨trivial, trivial⟩).elim⟩
      exact (effects_cons rfl).trans ((effects_cons rfl).trans (effects_cons rfl))

/-! ### The payment -/

/-- The release that is sent after a declined payment. -/
def releaseOp (dto : CreateBookingDto) (id : Id) : Op :=
  .rpc (some id) (.releaseSeats dto.eventId dto.seatIds dto.userId .paymentFailed)

/-- What the `try` block leaves, after effects `before`: none, or a release that was answered, or a
release that threw. -/
def Attempted (x : Nat → Choice) (dto : CreateBookingDto) (b : Booking) (before : List Op)
    (out : Async.Outcome sig Booking Unit (Db × List (Done sig))) : Prop :=
  (effects out.state.2 = before ∧ ¬ ReleaseThrows x) ∨
  (out.result = .ok () ∧ effects out.state.2 = releaseOp dto b.id :: before ∧ ¬ ReleaseThrows x) ∨
  ∃ e b' s', out = ⟨.error e, b', 14, s'⟩ ∧ b'.id = b.id ∧
    effects s'.2 = releaseOp dto b.id :: before ∧
    (ReleaseThrows x ↔ (x 15).fault = none ∧ (x 16).fault = none)

/-- What was done before may be written another way. -/
theorem Attempted.congr {b : Booking} {before before' : List Op}
    {out : Async.Outcome sig Booking Unit (Db × List (Done sig))}
    (h : Attempted x dto b before out) (he : before = before') : Attempted x dto b before' out :=
  he ▸ h

/-- A declined payment, up to the release of the seats. -/
theorem declined_attempted (dto : CreateBookingDto) {p : PaymentInfo} (hr : (x 10).fault = none)
    (hp : (x 10).reply = .payment (some p)) (hd : p.status ≠ .succeeded) (reason : String)
    (b : Booking) (s : Db × List (Done sig)) :
    Attempted x dto b (effects s.2) (Code.exec (answering x) 11 b s (do
      cancelEntity reason
      BookingService.await (.saveBooking (← BookingService.entity))
      let _ ← BookingService.await (releaseOp dto b.id)
      pure ())) := by
  unfold cancelEntity
  simp only [Code.exec_bind, Code.exec_assign, Code.exec_await, Code.exec_entity, answering_apply,
    exec_now]
  cases hs : (x 12).fault with
  | some err =>
    left
    rw [exec_of_fault rfl hs]
    refine ⟨(effects_cons rfl).trans (effects_cons rfl), ?_⟩
    rintro ⟨-, h, -⟩
    rw [hs] at h
    cases h
  | none =>
    right
    rw [exec_of_none hs]
    cases hf : (x 13).fault with
    | none =>
      left
      simp only [perform, releaseOp, exec_of_none hf, Code.exec_pure]
      refine ⟨trivial, (effects_cons_of rfl).trans (congrArg _ ?_), ?_⟩
      · exact (effects_cons rfl).trans (effects_cons rfl)
      · rintro ⟨-, -, h, -⟩
        exact h hf
    | some err =>
      right
      simp only [perform, releaseOp, exec_of_fault (o := .rpc _ _) rfl hf]
      refine ⟨_, _, _, rfl, rfl, (effects_cons_of rfl).trans (congrArg _ ?_), ?_⟩
      · exact (effects_cons rfl).trans (effects_cons rfl)
      · constructor
        · rintro ⟨-, -, -, h⟩
          exact h
        · intro h
          refine ⟨⟨hr, p, hp, hd⟩, hs, ?_, h⟩
          rw [hf]
          exact Option.some_ne_none _

/-- The `try` block has attempted the payment of the booking, whether it returns or throws. -/
theorem payBooking_attempted (dto : CreateBookingDto) (amount : Money) (seat : SeatInfo)
    (rest : List SeatInfo) (b : Booking) (s : Db × List (Done sig)) :
    Attempted x dto b (effects s.2)
      ((payBooking dto amount (seat :: rest)).exec (answering x) 10 b s) := by
  -- unless the payment was answered and declined, nothing compensates
  have undeclined : (¬ ∃ p, (x 10).fault = none ∧ (x 10).reply = .payment (some p) ∧
      p.status ≠ .succeeded) → ¬ ReleaseThrows x := by
    rintro h ⟨⟨hr, p, hp, hd⟩, -⟩
    exact h ⟨p, hr, hp, hd⟩
  unfold payBooking firstCurrency grpc
  simp only [Code.exec_bind, Code.exec_pure, Code.exec_await, Code.exec_entity, answering_apply]
  cases hr : (x 10).fault with
  | some err =>
    left
    rw [exec_of_fault rfl hr]
    refine ⟨effects_cons rfl, undeclined ?_⟩
    rintro ⟨p, h, -⟩
    rw [hr] at h
    cases h
  | none =>
    rw [exec_of_none hr]
    simp only [perform]
    cases ha : Reply.payment? (x 10).reply with
    | none =>
      left
      simp only [Code.exec_throw]
      refine ⟨effects_cons rfl, undeclined ?_⟩
      rintro ⟨p, -, hp, -⟩
      rw [hp] at ha
      cases ha
    | some payment =>
      have reply : (x 10).reply = .payment payment := by
        cases hx : (x 10).reply with
        | payment q =>
          rw [hx] at ha
          exact congrArg Reply.payment (Option.some.inj ha)
        | _ =>
          rw [hx] at ha
          cases ha
      cases payment with
      | none =>
        left
        simp only [Code.exec_pure, Code.exec_throw]
        refine ⟨effects_cons rfl, undeclined ?_⟩
        rintro ⟨p, -, hp, -⟩
        rw [reply] at hp
        cases hp
      | some payment =>
        simp only [Code.exec_pure]
        by_cases paid : payment.status = .succeeded
        · left
          rw [if_pos paid]
          have quiet := (confirmBooking_awaits dto.eventId dto.userId dto.seatIds).mono
            fun o ↦ Op.quiet_of_persists
          refine ⟨(effects_quiet quiet _ _ _).trans (effects_cons rfl), undeclined ?_⟩
          rintro ⟨p, -, hp, hd⟩
          rw [reply] at hp
          cases hp
          exact hd paid
        · rw [if_neg paid]
          have declined := fun reason s ↦ declined_attempted dto hr reply paid reason b s
          refine Attempted.congr (declined _ _) ?_
          exact effects_cons rfl

/-- The last read does not compensate. -/
theorem effects_settle (dto : CreateBookingDto) (amount : Money) (seats : List SeatInfo)
    (b : Booking) (s : Db × List (Done sig)) :
    effects ((settleBooking dto amount seats).exec (answering x) 10 b s).state.2 =
      match (payBooking dto amount seats).exec (answering x) 10 b s with
      | ⟨.ok _, _, _, s'⟩ => effects s'.2
      | ⟨.error e, b', n, s'⟩ => effects ((failBooking e).exec (answering x) n b' s').state.2 := by
  unfold settleBooking
  rw [Code.exec_bind, Code.exec_tryCatch]
  rcases (payBooking dto amount seats).exec (answering x) 10 b s with ⟨r, b', n, s'⟩
  cases r with
  | ok _ => exact effects_cons rfl
  | error e =>
    dsimp only
    rcases (failBooking e).exec (answering x) n b' s' with ⟨r, b'', n', s''⟩
    cases r with
    | ok _ => exact effects_cons rfl
    | error _ => rfl

/-- Settling a booking from position 10 on compensates its cancellation exactly when the release
throws after a declined payment. -/
theorem settleBooking_compensated (amount : Money) (seat : SeatInfo) (rest : List SeatInfo)
    (b : Booking) (s : Db × List (Done sig)) (hs : effects s.2 = []) :
    Compensated dto b.id
        ((settleBooking dto amount (seat :: rest)).exec (answering x) 10 b s).state.2 ↔
      ReleaseThrows x := by
  have attempted := payBooking_attempted (x := x) dto amount seat rest b s
  have caught := effects_settle dto amount (seat :: rest) b s (x := x)
  rw [compensated_iff, caught]
  rw [hs] at attempted
  rcases hpay : (payBooking dto amount (seat :: rest)).exec (answering x) 10 b s with ⟨r, b', n, s'⟩
  rw [hpay] at attempted
  have failed := fun e ↦ effects_failBooking (x := x) e n b' s'
  rcases attempted with ⟨before, never⟩ | ⟨ok, before, never⟩ |
    ⟨e, b'', s'', same, hid, before, throws⟩
  · -- nothing was released
    dsimp only at before
    have released : ∀ log, (log = [] ∨ ∃ payload, log = [.emit "booking.cancelled" b'.id payload]) →
        ¬ ∃ reason, Op.rpc (some b.id)
          (.releaseSeats dto.eventId dto.seatIds dto.userId reason) ∈ log := by
      rintro log (rfl | ⟨payload, rfl⟩) ⟨reason, h⟩
      · cases h
      · cases List.mem_singleton.mp h
    constructor
    · rintro ⟨h, -⟩
      refine absurd h (released _ ?_)
      cases r with
      | ok _ => exact .inl before
      | error e =>
        by_cases hx : (x (n + 1)).fault = none ∧ (x (n + 2)).fault = none
        · obtain ⟨payload, he⟩ := (failed e).1 hx
          exact .inr ⟨payload, before ▸ he⟩
        · exact .inl (((failed e).2 hx).trans before)
    · exact fun h ↦ absurd h never
  · -- the release was answered, and nothing is announced
    dsimp only at ok before
    subst ok
    constructor
    · rintro ⟨-, once⟩
      dsimp only at once
      rw [before] at once
      cases once
    · exact fun h ↦ absurd h never
  · cases same
    dsimp only
    by_cases hx : (x 15).fault = none ∧ (x 16).fault = none
    · obtain ⟨payload, he⟩ := (failed e).1 hx
      rw [he, before]
      refine iff_of_true ⟨⟨.paymentFailed, by simp [releaseOp]⟩, ?_⟩ (throws.mpr hx)
      simp [Op.announces, releaseOp, hid]
    · rw [(failed e).2 hx, before]
      refine iff_of_false ?_ fun h ↦ hx (throws.mp h)
      rintro ⟨-, once⟩
      cases once

/-! ### The whole call -/

/-- The effect of an operation is not an error. -/
theorem not_error_of_perform {c : Choice} {o : Op} {s : Db} {e : Exception} :
    (perform c o s).1 ≠ .error e := by
  cases o <;> simp [perform]

/-- An awaited operation fails without effect or has its effect, and is recorded. -/
theorem await_recording {o : Op} {P : L → Db × List (Done sig) → Prop}
    {Q : Res o → L → Db × List (Done sig) → Prop} {E : Exception → L → Db × List (Done sig) → Prop}
    (effect : ∀ c l s log r a, P l (s, log) → (perform c o s).1 = .ok a →
      Q a l ((perform c o s).2, ⟨o, r⟩ :: log))
    (fail : ∀ e l s log r, P l (s, log) → E e l (s, ⟨o, r⟩ :: log)) :
    Code.Leaves (answering x) P (BookingService.await o) Q E := by
  apply Code.Leaves.await
  · rintro n l ⟨s, log⟩ a s' hp hr
    rw [answering_apply] at hr
    rcases exec_cases (x n) o s with ⟨-, e, he⟩ | he
    · rw [he] at hr
      cases hr
    · rw [he] at hr
      have state : ((perform (x n) o s).2, (⟨o, (perform (x n) o s).1⟩ : Done sig) :: log) = s' :=
        congrArg Prod.snd hr
      rw [← state]
      exact effect (x n) l s log _ a hp (congrArg Prod.fst hr)
  · rintro n l ⟨s, log⟩ e s' hp hr
    rw [answering_apply] at hr
    rcases exec_cases (x n) o s with ⟨-, e', he⟩ | he
    · rw [he] at hr
      cases hr
      exact fail e l s log _ hp
    · rw [he] at hr
      exact absurd (congrArg Prod.fst hr) not_error_of_perform

/-- An awaited operation fails without effect or has its effect. -/
theorem await_answering {o : Op} {P : L → Db × List (Done sig) → Prop}
    {Q : Res o → L → Db × List (Done sig) → Prop} {E : Exception → L → Db × List (Done sig) → Prop}
    (effect : ∀ c l s log log' a, P l (s, log) → (perform c o s).1 = .ok a →
      Q a l ((perform c o s).2, log'))
    (fail : ∀ e l s log log', P l (s, log) → E e l (s, log')) :
    Code.Leaves (answering x) P (BookingService.await o) Q E :=
  await_recording (fun c l s log _ a ↦ effect c l s log _ a) fun e l s log _ ↦ fail e l s log _

/-- Nothing was stored. -/
abbrev Unstored (s : Db) (s' : Db × List (Done sig)) : Prop := s'.1 = s

variable {s : Db}

/-- Reading operations keep what is known of the database. -/
theorem await_same {o : Op} {P : Db × List (Done sig) → Prop} (keeps : ∀ c s, (perform c o s).2 = s)
    (hp : ∀ s log log', P (s, log) → P (s, log')) :
    Code.Leaves (answering x) (fun (_ : L) ↦ P) (BookingService.await o) (fun _ _ ↦ P)
      fun _ _ ↦ P := by
  apply await_answering
  · intro c l s log log' a h _
    rw [keeps]
    exact hp s log log' h
  · exact fun _ _ s log log' h ↦ hp s log log' h

/-- The new booking of a call, with its items. -/
structure NewBooking (dto : CreateBookingDto) (seats : List SeatInfo) (amount : Money) (s : Db)
    (b : Booking) (items : List BookingItem) : Prop where
  id : b.id = s.nextId
  pending : b.status = .pending
  amount : b.totalAmount = amount
  currency : seats.head?.map SeatInfo.currency = some b.currency
  items : ∃ rows, bookingItems s.nextId seats dto.items = .ok rows ∧
    items = numberedItems s.items.length rows

/-- The new booking was stored with its items. -/
structure Persists (s : Db) (b : Booking) (items : List BookingItem) (s' : Db × List (Done sig)) :
    Prop where
  bookings : s'.1.bookings = s.bookings.put b
  items : s'.1.items = s.items ++ items

/-- No booking and no item was stored. -/
structure Unpersisted (s : Db) (s' : Db × List (Done sig)) : Prop where
  bookings : s'.1.bookings = s.bookings
  items : s'.1.items = s.items

/-- Storing nothing stores no booking and no item. -/
theorem Unstored.unpersisted {s' : Db × List (Done sig)} (h : Unstored s s') : Unpersisted s s' :=
  ⟨congrArg Db.bookings h, congrArg Db.items h⟩

/-- The transaction of `persistBooking` stores the new booking with its items, or nothing. -/
theorem persistTransaction_persists (seats : List SeatInfo) (amount : Money) :
    Code.Leaves (answering x) (fun _ ↦ Unstored s) (persistTransaction dto seats amount)
      (fun id _ s' ↦ id = s.nextId ∧
        ∃ b items, NewBooking dto seats amount s b items ∧ Persists s b items s')
      fun _ _ ↦ Unpersisted s := by
  have weaker : ∀ {s'}, Unstored s s' → Unpersisted s s' := Unstored.unpersisted
  apply Code.Leaves.bind (Q := fun _ _ ↦ Unstored s)
  · unfold generateBookingNumber
    apply Code.Leaves.bind (Q := fun _ _ ↦ Unstored s)
    · exact (await_same (fun _ _ ↦ rfl) fun _ _ _ h ↦ h).post (fun _ _ _ h ↦ h) fun _ _ _ ↦ weaker
    intro _
    apply Code.Leaves.bind (Q := fun _ _ ↦ Unstored s)
    · exact (await_same (fun _ _ ↦ rfl) fun _ _ _ h ↦ h).post (fun _ _ _ h ↦ h) fun _ _ _ ↦ weaker
    exact fun _ ↦ Code.Leaves.ret _ fun _ _ h ↦ h
  intro number
  cases seats with
  | nil =>
    apply Code.Leaves.bind (Q := fun _ _ _ ↦ False)
    · exact Code.Leaves.raise _ fun _ _ ↦ weaker
    · exact fun _ _ _ _ h ↦ h.elim
  | cons seat rest =>
    apply Code.Leaves.bind (Q := fun currency _ s' ↦ Unstored s s' ∧ currency = seat.currency)
    · exact Code.Leaves.ret _ fun _ _ h ↦ ⟨h, rfl⟩
    intro currency
    apply Code.Leaves.assume
    rintro rfl
    apply Code.Leaves.bind (Q := fun _ _ ↦ Unstored s)
    · exact (await_same (fun _ _ ↦ rfl) fun _ _ _ h ↦ h).post (fun _ _ _ h ↦ h) fun _ _ _ ↦ weaker
    intro now
    apply Code.Leaves.bind (Q := fun saved _ s' ↦ Unpersisted s s' ∧
      saved = { newBooking dto number amount seat.currency (now + bookingExpiryMs) with
        id := s.nextId })
    · apply await_answering
      · rintro c l s' log log' b rfl hb
        cases hb
        exact ⟨⟨rfl, rfl⟩, rfl⟩
      · exact fun _ _ _ _ _ h ↦ Unstored.unpersisted h
    intro saved
    apply Code.Leaves.assume
    rintro rfl
    dsimp only
    split
    · exact Code.Leaves.raise _ fun _ _ h ↦ h
    · next items hitems =>
      apply Code.Leaves.bind (Q := fun _ _ ↦ Unpersisted s)
      · exact await_same (fun _ _ ↦ rfl) fun _ _ _ h ↦ ⟨h.bookings, h.items⟩
      intro _
      apply Code.Leaves.bind (Q := fun _ _ s' ↦
        ∃ b items, NewBooking dto (seat :: rest) amount s b items ∧ Persists s b items s')
      · apply await_answering
        · rintro c l s' log log' b stored -
          refine ⟨{ newBooking dto number amount seat.currency (now + bookingExpiryMs) with
            id := s.nextId }, _, ⟨rfl, rfl, rfl, rfl, items, hitems, rfl⟩, ?_, ?_⟩
          · exact congrArg (fun t : Table Booking.id ↦ t.put _) stored.bookings
          · exact congrArg (fun l ↦ l ++ numberedItems l.length items) stored.items
        · exact fun _ _ _ _ _ h ↦ ⟨h.bookings, h.items⟩
      exact fun _ ↦ Code.Leaves.ret _ fun _ _ h ↦ ⟨rfl, h⟩

/-- `persistBooking` returns the new booking. -/
theorem persistBooking_persists (dto : CreateBookingDto) (seats : List SeatInfo) (amount : Money) :
    Code.Leaves (answering x) (fun _ ↦ Unstored s) (persistBooking dto seats amount)
      (fun found _ s' ↦ ∃ b items, NewBooking dto seats amount s b items ∧ Persists s b items s' ∧
        ∀ v, found = some v → v.booking = b)
      fun _ _ s' ↦ Unpersisted s s' ∨
        ∃ b items, NewBooking dto seats amount s b items ∧ Persists s b items s' := by
  apply Code.Leaves.bind (Q := fun _ _ ↦ Unstored s)
  · apply (await_same (fun _ _ ↦ rfl) fun _ _ _ h ↦ h).post (fun _ _ _ h ↦ h)
    exact fun _ _ _ h ↦ .inl (Unstored.unpersisted h)
  intro _
  apply Code.Leaves.bind (Q := fun id _ s' ↦ id = s.nextId ∧
    ∃ b items, NewBooking dto seats amount s b items ∧ Persists s b items s')
  · apply Code.Leaves.tryCatch (persistTransaction_persists seats amount)
    intro error
    apply Code.Leaves.bind (Q := fun _ _ ↦ Unpersisted s)
    · apply (await_same (fun _ _ ↦ rfl) fun _ _ _ h ↦ ⟨h.bookings, h.items⟩).post
      · exact fun _ _ _ h ↦ h
      · exact fun _ _ _ h ↦ .inl h
    · exact fun _ ↦ Code.Leaves.raise _ fun _ _ h ↦ .inl h
  intro id
  apply await_answering
  · rintro c l s' log log' found ⟨rfl, b, items, new, stored⟩ hr
    refine ⟨b, items, new, ⟨stored.bookings, stored.items⟩, ?_⟩
    rintro v rfl
    have here : s'.bookings.find s.nextId = some b := by
      rw [show s'.bookings = s.bookings.put b from stored.bookings, ← new.id]
      exact Table.find_put_self _ _
    obtain ⟨b', hb, rfl⟩ := Option.map_eq_some_iff.mp (Except.ok.inj hr)
    exact Option.some.inj (hb.symm.trans here)
  · rintro e l s' log log' ⟨-, b, items, new, stored⟩
    exact .inr ⟨b, items, new, stored.bookings, stored.items⟩

/-- A call that throws before its booking is paid has stored no booking but a pending one. -/
def NoneCancelled (s : Db) (s' : Db × List (Done sig)) : Prop :=
  ∀ b ∈ s'.1.bookings.rows, b ∈ s.bookings.rows ∨ b.status = .pending

/-- `persistBooking` returns the new booking. -/
theorem persistBooking_leaves (dto : CreateBookingDto) (seats : List SeatInfo) (amount : Money) :
    Code.Leaves (answering x) (fun _ ↦ Unstored s) (persistBooking dto seats amount)
      (fun found _ s' ↦ NoneCancelled s s' ∧
        ∀ v, found = some v → v.booking.id = s.nextId ∧ seats ≠ [])
      fun _ _ ↦ NoneCancelled s := by
  have pending : ∀ {b items s'}, NewBooking dto seats amount s b items → Persists s b items s' →
      NoneCancelled s s' := by
    intro b items s' new stored b' hm
    rw [stored.bookings] at hm
    rcases Table.mem_put.mp hm with rfl | ⟨hm, -⟩
    · exact .inr new.pending
    · exact .inl hm
  apply (persistBooking_persists dto seats amount).post
  · rintro found l s' ⟨b, items, new, stored, hv⟩
    refine ⟨pending new stored, ?_⟩
    rintro v rfl
    rw [hv v rfl]
    refine ⟨new.id, ?_⟩
    rintro rfl
    cases new.currency
  · rintro e l s' (none | ⟨b, items, new, stored⟩)
    · exact fun b hm ↦ .inl (none.bookings ▸ hm)
    · exact pending new stored

/-- Selecting the seats stores nothing. -/
theorem selectSeats_unstored (n : Nat) (log : List (Done sig)) :
    Unstored s ((selectSeats dto).exec (answering x) n () (s, log)).state := by
  have reads : (selectSeats dto).Awaits fun o : Op ↦ o.isRpc = true :=
    selectSeats_awaits (fun _ ↦ rfl) (fun _ _ _ ↦ rfl) dto
  refine Code.Awaits.exec (K := Unstored s) ?_ reads rfl
  rintro n o ⟨s', log⟩ ho rfl
  cases o with
  | rpc issuer request =>
    rcases exec_cases (x n) (.rpc issuer request) s' with ⟨-, e, he⟩ | he
    · exact congrArg Prod.snd he
    · exact congrArg Prod.snd he
  | _ => cases ho

/-- Selecting the seats takes two operations when it returns, and persisting the booking eight. -/
theorem selectSeats_takes : (selectSeats dto).Takes 2 := by
  have call : ∀ {β : Type} (i : Option Id) (r : Request) (answer : Reply → Option β),
      (grpc i r answer : Code sig Unit β).Takes 1 := by
    intro β i r answer
    apply Code.Takes.bind (j := 1) (k := 0) (Code.Takes.await _)
    intro reply
    split
    · exact Code.Takes.ret _
    · exact Code.Takes.raise _
  apply Code.Takes.bind (j := 1) (k := 1) (call _ _ _)
  intro seats
  dsimp only
  split
  · exact Code.Takes.raise _
  · split
    · exact Code.Takes.raise _
    · apply Code.Takes.bind (j := 1) (k := 0) (call _ _ _)
      intro verified
      split
      · exact Code.Takes.ret _
      · exact Code.Takes.raise _

/-- Persisting a booking awaits eight operations. -/
theorem persistBooking_takes (seats : List SeatInfo) (amount : Money) :
    (persistBooking dto seats amount).Takes 8 := by
  apply Code.Takes.bind (j := 1) (k := 7) (Code.Takes.await _)
  intro _
  apply Code.Takes.bind (j := 6) (k := 1)
  · apply Code.Takes.tryCatch
    · apply Code.Takes.bind (j := 2) (k := 4)
      · apply Code.Takes.bind (j := 1) (k := 1) (Code.Takes.await _)
        intro _
        apply Code.Takes.bind (j := 1) (k := 0) (Code.Takes.await _)
        exact fun _ ↦ Code.Takes.ret _
      intro number
      apply Code.Takes.bind (j := 0) (k := 4)
      · cases seats with
        | nil => exact Code.Takes.raise _
        | cons seat rest => exact Code.Takes.ret _
      intro currency
      apply Code.Takes.bind (j := 1) (k := 3) (Code.Takes.await _)
      intro now
      apply Code.Takes.bind (j := 1) (k := 2) (Code.Takes.await _)
      intro saved
      split
      · exact Code.Takes.raise _
      · apply Code.Takes.bind (j := 1) (k := 1) (Code.Takes.await _)
        intro _
        apply Code.Takes.bind (j := 1) (k := 0) (Code.Takes.await _)
        exact fun _ ↦ Code.Takes.ret _
    · exact fun _ ↦ Code.Throws.after fun _ ↦ Code.Throws.raise _
  · exact fun id ↦ Code.Takes.await (S := sig) (.findBooking id)

/-- A booking that a call of `createBooking` leaves `CANCELLED` is compensated exactly when its
payment was declined and the release of its seats threw. -/
theorem cancelled_compensated_iff (x : Nat → Choice) (dto : CreateBookingDto) {s : Db}
    (hs : ∀ b ∈ s.bookings.rows, b.id ≠ s.nextId) {b : Booking}
    (hb : b ∈ ((createBooking dto).exec (answering x) 0 () (s, [])).state.1.bookings.rows)
    (hid : b.id = s.nextId) (hc : b.status = .cancelled) :
    Compensated dto b.id ((createBooking dto).exec (answering x) 0 () (s, [])).state.2 ↔
      ReleaseThrows x := by
  have foreign : ∀ {s'}, NoneCancelled s s' → b ∉ s'.1.bookings.rows := by
    intro s' none hm
    rcases none b hm with old | pending
    · exact hs b old hid
    · rw [hc] at pending
      cases pending
  have quiet : (selectSeats dto).Awaits fun o : Op ↦ o.compensates = false :=
    selectSeats_awaits (fun _ ↦ rfl) (fun _ _ _ ↦ rfl) dto
  unfold createBooking at hb ⊢
  rw [Code.exec_bind] at hb ⊢
  have seats_effects := effects_quiet (x := x) quiet 0 () (s, [])
  have unstored := @selectSeats_unstored x dto s 0 []
  rcases hsel : (selectSeats dto).exec (answering x) 0 () (s, []) with ⟨r, l, n, s₁⟩
  rw [hsel] at hb unstored seats_effects
  cases r with
  | error e =>
    refine absurd hb (foreign ?_)
    intro b hm
    exact .inl (unstored ▸ hm)
  | ok seats =>
    have two : n = 0 + 2 := selectSeats_takes (answering x) 0 () (s, []) seats l n s₁ hsel
    subst two
    dsimp only at hb unstored seats_effects ⊢
    rw [Code.exec_bind] at hb ⊢
    have persisted :=
      persistBooking_leaves (x := x) (s := s) dto seats (totalAmount seats) (0 + 2) l s₁
      unstored
    have persist_effects := effects_quiet (x := x) ((persistBooking_awaits dto seats
      (totalAmount seats)).mono fun _ ↦ Op.quiet_of_persists) (0 + 2) l s₁
    rcases hper : (persistBooking dto seats (totalAmount seats)).exec (answering x) (0 + 2) l s₁
      with ⟨r, l', n', s₂⟩
    rw [hper] at hb persisted persist_effects
    cases r with
    | error e => exact absurd hb (foreign persisted)
    | ok found =>
      cases found with
      | none => exact absurd hb (foreign persisted.1)
      | some v =>
        have ten : n' = 10 :=
          persistBooking_takes seats (totalAmount seats) (answering x) (0 + 2) l s₁
          _ l' n' s₂ hper
        subst ten
        obtain ⟨number, some⟩ := persisted.2 v rfl
        obtain ⟨seat, rest, rfl⟩ := List.exists_cons_of_ne_nil some
        rw [hid, ← number]
        simp only [Code.exec_on]
        exact settleBooking_compensated _ seat rest v.booking s₂
          (persist_effects.trans seats_effects)

/-- A cart with one item. -/
def oneSeatCart : CreateBookingDto := ⟨"u", "e", "s", "card", "k", none, [⟨"A", none, none⟩]⟩

/-- The held seat of the cart. -/
def cartSeat : SeatInfo :=
  ⟨0, "e", "A", "c", "main", "t", "std", 1000, "TRY", "1", "1", "std", .held⟩

/-- The reply to a payment that is declined. -/
def declined : Reply := .payment (some ⟨1, 0, "k", 1000, "TRY", .creditCard, .failed, "p", "",
  "insufficient funds", none⟩)

/-- The payment is declined; `release` decides how the release of the seats ends. -/
def declining (release : Option Exception) : Nat → Choice
  | 0 => { reply := .seats [cartSeat] }
  | 1 => { reply := .verified true }
  | 10 => { reply := declined }
  | 13 => { fault := release, reply := .success true }
  | _ => {}

/-- The call that books the cart while its payment is declined. -/
def declinedBooking (release : Option Exception) :
    Async.Outcome sig Unit (Option BookingView) (Db × List (Done sig)) :=
  (createBooking oneSeatCart).exec (answering (declining release)) 0 () (Db.empty, [])

/-- The release of the seats throws: the `catch` block announces the cancellation. -/
theorem cancelled_compensated_iff_release_throws :
    ∃ b ∈ (declinedBooking (some (.failure "unavailable"))).state.1.bookings.rows,
      b.status = .cancelled ∧
        (Compensated oneSeatCart b.id (declinedBooking (some (.failure "unavailable"))).state.2 ↔
          ReleaseThrows (declining (some (.failure "unavailable")))) := by
  have played : (declinedBooking (some (.failure "unavailable"))).state.1.bookings.rows.any fun b ↦
      b.id = 0 && b.status = .cancelled := by
    decide +kernel
  simp only [List.any_eq_true, Bool.and_eq_true, decide_eq_true_eq] at played
  obtain ⟨b, hb, hid, hc⟩ := played
  have stated := cancelled_compensated_iff (declining (some (.failure "unavailable"))) oneSeatCart
    (s := Db.empty) (fun _ h ↦ absurd h List.not_mem_nil) (b := b)
  exact ⟨b, hb, hc, stated hb hid hc⟩

/-- The release of the seats succeeds: the cancelled booking is not announced. -/
theorem declined_booking_not_announced :
    ¬ ∀ (x : Nat → Choice) (dto : CreateBookingDto) (s : Db),
      (∀ b ∈ s.bookings.rows, b.id ≠ s.nextId) →
      ∀ b ∈ ((createBooking dto).exec (answering x) 0 () (s, [])).state.1.bookings.rows,
        b.id = s.nextId → b.status = .cancelled →
        Compensated dto b.id ((createBooking dto).exec (answering x) 0 () (s, [])).state.2 := by
  intro all
  have played : (declinedBooking none).state.1.bookings.rows.any fun b ↦
      b.id = 0 && b.status = .cancelled &&
        ((declinedBooking none).state.2.map Done.op).countP (Op.announces b.id) = 0 := by
    decide +kernel
  simp only [List.any_eq_true, Bool.and_eq_true, decide_eq_true_eq] at played
  obtain ⟨b, hb, ⟨hid, hc⟩, none⟩ := played
  have compensated := all (declining Option.none) oneSeatCart Db.empty
    (fun _ h ↦ absurd h List.not_mem_nil) b hb hid hc
  have once : ((declinedBooking Option.none).state.2.map Done.op).countP (Op.announces b.id) = 1 :=
    compensated.2
  rw [none] at once
  cases once

end Ticketing.BookingService
