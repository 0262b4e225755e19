import Ticketing.BookingService.Deliveries
import Ticketing.BookingService.Places
import Ticketing.SeatInventory.Lookups
import Ticketing.System.Links

/-!
# Retried releases

Library `System`. A release of sold seats names them by event and seat only, and makes them
available whoever has them by then. It spares the seats of others as long as it is not sent for
seats that others have taken, and none of them is taken while it is served.
-/

namespace Ticketing.System

open Async Store

namespace Platform

variable {provider : String} {s s' : Platform provider}
  {seats : Table SeatInventory.Seat.place} {run : List (Platform provider)} {b : Id}
  {place : String × String}

/-- Another user than that of booking `b` holds the seat, or it is sold to another booking. -/
def TakenFrom (s : Platform provider) (b : Id) (place : String × String) : Prop :=
  (∃ hold ∈ s.inventory.conf.state.holds.rows, hold.releasedAt = none ∧
    (hold.eventId, hold.seatId) = place ∧
      ∃ r ∈ s.booking.conf.state.bookings.find b, hold.userId ≠ r.userId) ∨
  ∃ r ∈ s.booking.conf.state.bookings.rows, r.id ≠ b ∧ r.status = .confirmed ∧
    place ∈ s.booking.conf.state.placesOf r

/-- No step of a release of sold seats changes the status of a seat that others have. -/
def SparesTaken (run : List (Platform provider)) : Prop :=
  ∀ s₁ s₂ ev b e ids, [s₂, s₁] <:+: run → s₂.inventory.conf.log = ev :: s₁.inventory.conf.log →
    ev.job = .serve (some b) (.releaseSoldSeats e ids) →
      ∀ seat ∈ s₁.inventory.conf.state.seats.rows, s₁.TakenFrom b seat.place →
        ∀ seat' ∈ s₂.inventory.conf.state.seats.rows, seat'.place = seat.place →
          seat'.status = seat.status

/-- The booking and the places that a release of sold seats is for. -/
def frees : SeatInventory.Job → Option (Id × List (String × String))
  | .serve (some b) (.releaseSoldSeats e ids) => some (b, ids.map fun id ↦ (e, id))
  | _ => none

/-- The releases of sold seats that are being served. -/
def freeing (s : Platform provider) : List (Id × List (String × String)) :=
  s.inventory.threads.filterMap fun thread ↦ if thread.2.ended then none else frees thread.1

/-- The booking has no seat that is being released for another. -/
def TakesUnfreed (s : Platform provider) (r : BookingService.Booking) : Prop :=
  ∀ f ∈ s.freeing, r.id ≠ f.1 → ∀ place ∈ s.booking.conf.state.placesOf r, place ∉ f.2

/-- The hold is not for a seat that is being released for another user. -/
def HoldsUnfreed (s : Platform provider) (hold : SeatInventory.SeatHold) : Prop :=
  ∀ f ∈ s.freeing, (hold.eventId, hold.seatId) ∈ f.2 →
    ∀ r ∈ s.booking.conf.state.bookings.find f.1, hold.userId = r.userId

/-- The runs in which a release is sent for seats that no one else has taken, and no one else takes
them while it is served. -/
def untakenReleases (provider : String) : Regime provider where
  may s
    | .call i request =>
      ∀ f ∈ frees (.serve i request), ∀ place ∈ f.2, ¬ s.TakenFrom f.1 place
    | .inventory ev =>
      ∀ hold ∈ ev.op.storedHolds ev.answer, hold.releasedAt = none → s.HoldsUnfreed hold
    | .booking ev =>
      ∀ q ∈ s.booking.conf.state.bookings.rows, ∀ r ∈ ev.op.stored q.id ev.answer,
        r.status = .confirmed → s.TakesUnfreed r
    | _ => True
  excl _ _ := False

instance (s : Platform provider) (b : Id) (place : String × String) :
    Decidable (s.TakenFrom b place) := by
  unfold TakenFrom
  infer_instance

instance (s : Platform provider) (r : BookingService.Booking) : Decidable (s.TakesUnfreed r) := by
  unfold TakesUnfreed
  infer_instance

instance (s : Platform provider) (hold : SeatInventory.SeatHold) :
    Decidable (s.HoldsUnfreed hold) := by
  unfold HoldsUnfreed
  infer_instance

instance (s : Platform provider) :
    (a : Action provider) → Decidable ((untakenReleases provider).may s a)
  | .call i request => inferInstanceAs (Decidable
    (∀ f ∈ frees (.serve i request), ∀ place ∈ f.2, ¬ s.TakenFrom f.1 place))
  | .inventory ev => inferInstanceAs (Decidable
    (∀ hold ∈ ev.op.storedHolds ev.answer, hold.releasedAt = none → s.HoldsUnfreed hold))
  | .booking ev => inferInstanceAs (Decidable
    (∀ q ∈ s.booking.conf.state.bookings.rows, ∀ r ∈ ev.op.stored q.id ev.answer,
      r.status = .confirmed → s.TakesUnfreed r))
  | .arrive _ | .visit _ | .payment _ => inferInstanceAs (Decidable True)

instance (i j : BookingService.Job) : Decidable ((untakenReleases provider).excl i j) :=
  inferInstanceAs (Decidable False)

/-! ### Releases that are being served -/

/-- A thread that releases sold seats and has not ended is being served. -/
theorem mem_freeing {u : Nat} {e : String} {ids : List String}
    {q : SeatInventory.service.Program}
    (hu : s.inventory.At u (.serve (some b) (.releaseSoldSeats e ids)) q) (hq : q.ended = false) :
    (b, ids.map fun id ↦ (e, id)) ∈ s.freeing := by
  apply List.mem_filterMap.mpr
  refine ⟨_, List.mem_of_getElem? hu, ?_⟩
  simp [hq, frees]

/-- The seats of the releases that are being served belong to confirmed bookings, and no one else
has them. -/
def Untaken (s : Platform provider) : Prop :=
  ∀ u b e ids q, s.inventory.At u (.serve (some b) (.releaseSoldSeats e ids)) q →
    q.ended = false → s.booking.conf.state.Settled b ∧
      ∀ id ∈ ids, ¬ s.TakenFrom b (e, id)

namespace Untaken

/-- A step that starts no release and gives no one a seat. -/
theorem keep (h : Untaken s) (hb : s'.booking.conf = s.booking.conf)
    (hi : s'.inventory.conf = s.inventory.conf)
    (ht : ∀ u b e ids q, s'.inventory.At u (.serve (some b) (.releaseSoldSeats e ids)) q →
      s.inventory.At u (.serve (some b) (.releaseSoldSeats e ids)) q) : Untaken s' := by
  intro u b e ids q hu hq
  unfold TakenFrom
  rw [hb, hi]
  exact h u b e ids q (ht u b e ids q hu) hq

/-- A step of the booking service keeps the released seats untaken. -/
theorem booking (h : Untaken s) (hb : BookingService.Reach (.free _) s.booking) {t : Nat}
    {j : BookingService.Job} {x : Choice} {o : BookingService.Op}
    {k : BookingService.sig.Answer o → BookingService.service.Program}
    (ht : s.booking.At t j (.op o k))
    (hm : (untakenReleases provider).may s (.booking ⟨t, j, o, s.booking.conf.answer x o⟩)) :
    Untaken (s.proceed t j x o k) := by
  intro u b e ids w hu hq'
  obtain ⟨owner, owner', hi, hmove⟩ := BookingService.reach_move hb.free ht (x := x)
  obtain ⟨hset, hn⟩ := h u b e ids w hu hq'
  refine ⟨hmove.settled_kept hset, ?_⟩
  intro id hid taken
  apply hn id hid
  rcases taken with ⟨hold, hhold, hrel, hplace, r, hr, hne⟩ | ⟨r, hr, hne, hst, hplace⟩
  · obtain ⟨r₀, hr₀, hset₀⟩ := hset
    obtain ⟨r', hr', -, order⟩ := hmove.settled hr₀ hset₀
    have same : r = r' := Option.some.inj (hr.symm.trans hr')
    simp only [BookingService.Booking.order, Prod.mk.injEq] at order
    exact .inl ⟨hold, hhold, hrel, hplace, r₀, hr₀, order.2.2.1 ▸ same ▸ hne⟩
  · right
    have found := Table.find_of_mem hr
    have places : ∀ q, s.booking.conf.state.bookings.find r.id = some q →
        (e, id) ∈ s.booking.conf.state.placesOf r := by
      intro q hq
      have items := hmove.items r.id q hq
      unfold BookingService.Db.placesOf at hplace ⊢
      rw [← items]
      exact hplace
    rcases hmove.bookings r.id with same | ⟨r', hr', hstored, hm'⟩
    · have old : s.booking.conf.state.bookings.find r.id = some r := same.symm.trans found
      exact ⟨r, (Table.find_eq_some_iff.mp old).1, hne, hst, places r old⟩
    · have same : r' = r := Option.some.inj (hr'.symm.trans found)
      subst same
      have stored : ∀ q, s.booking.conf.state.bookings.find r'.id = some q → False := by
        intro q hq
        obtain ⟨hmem, hid'⟩ := Table.find_eq_some_iff.mp hq
        have unfreed := hm q hmem r' (hid' ▸ hstored) hst
        exact unfreed _ (mem_freeing hu hq') hne _ (places q hq) (List.mem_map_of_mem hid)
      cases hm' with
      | persisted op absent own pending state =>
        rw [pending] at hst
        cases hst
      | confirmed q => exact (stored _ q).elim
      | cancelled q => exact (stored _ q).elim
      | refund job q => exact (stored _ q).elim

/-- A step of the seat inventory keeps the released seats untaken. -/
theorem inventory (h : Untaken s) {t : Nat} {j : SeatInventory.Job} {x : Choice}
    {o : SeatInventory.Op} {k : SeatInventory.sig.Answer o → SeatInventory.service.Program}
    (ht : s.inventory.At t j (.op o k))
    (hm : (untakenReleases provider).may s (.inventory ⟨t, j, o, s.inventory.conf.answer x o⟩)) :
    Untaken { s with inventory := s.inventory.advance t j x o k } := by
  intro u b e ids q hu hq
  have before : ∃ q', s.inventory.At u (.serve (some b) (.releaseSoldSeats e ids)) q' ∧
      q'.ended = false := by
    rcases (Pool.at_advance ht).mp hu with ⟨rfl, rfl, -⟩ | ⟨-, old⟩
    · exact ⟨_, ht, rfl⟩
    · exact ⟨q, old, hq⟩
  obtain ⟨q', hu', hq'⟩ := before
  obtain ⟨hset, hn⟩ := h u b e ids q' hu' hq'
  refine ⟨hset, ?_⟩
  intro id hid taken
  rcases taken with ⟨hold, hhold, hrel, hplace, r, hr, hne⟩ | sold
  · rcases SeatInventory.mem_holds_exec hhold with new | old
    · have unfreed := hm hold new hrel _ (mem_freeing hu' hq')
      rw [hplace] at unfreed
      exact hne (unfreed (List.mem_map_of_mem hid) r hr)
    · exact hn id hid (.inl ⟨hold, old, hrel, hplace, r, hr, hne⟩)
  · exact hn id hid (.inr sold)

/-- A call to another service keeps the released seats untaken. -/
theorem call (h : Untaken s) (hb : BookingService.Reach (.free _) s.booking) {t : Nat}
    {j : BookingService.Job} {i : Option Id} {r : Request}
    {k : BookingService.sig.Answer (.rpc i r) → BookingService.service.Program}
    (ht : s.booking.At t j (.op (.rpc i r) k))
    (hm : (untakenReleases provider).may s (.call i r)) : Untaken (s.send t i r) := by
  cases hr : server r with
  | payment =>
    apply Untaken.keep h
    · rw [send_booking]
    · rw [send_inventory_conf]
    · intro u b e ids q hu
      simpa [send, hr] using hu
  | inventory =>
    intro u b e ids q hu hq
    have hu : (s.inventory.spawn (.serve i r)).At u (.serve (some b) (.releaseSoldSeats e ids))
        q := by
      simpa [send, hr] using hu
    unfold TakenFrom
    rw [send_booking, send_inventory_conf]
    rcases Pool.at_spawn.mp hu with old | ⟨-, hj, -⟩
    · exact h u b e ids q old hq
    · cases hj
      obtain ⟨owner, owner', -, hmove⟩ := BookingService.reach_move hb.free ht (x := {})
      obtain ⟨c, row, hc, hrow, hset, -⟩ := hmove.acts
      cases hc
      refine ⟨⟨row, hrow, hset⟩, ?_⟩
      intro id hid
      exact hm _ rfl _ (List.mem_map_of_mem hid)

end Untaken

/-- Every run of untaken releases keeps the seats that are being released from others. -/
theorem untaken_of_reach (h : Reach (untakenReleases provider) seats s) : Untaken s := by
  induction h with
  | refl =>
    intro u b e ids q hu
    cases hu
  | tail hrun hs ih =>
    have hb := reach_booking hrun
    cases hs with
    | arrive => exact Untaken.keep ih rfl rfl fun _ _ _ _ _ hu ↦ hu
    | payment => exact Untaken.keep ih rfl rfl fun _ _ _ _ _ hu ↦ hu
    | visit hj =>
      refine Untaken.keep ih rfl rfl ?_
      intro u b e ids q hu
      rcases Pool.at_spawn.mp hu with old | ⟨-, rfl, -⟩
      · exact old
      · cases hj
    | call ht _ hm => exact ih.call hb ht hm
    | booking ht _ hm => exact ih.booking hb ht hm
    | inventory ht hm => exact ih.inventory ht hm

/-- Two platforms that follow on each other in a run are a step apart. -/
theorem step_of_infix {G : Regime provider} {s₁ s₂ : Platform provider} (h : Run G seats run)
    (hin : [s₂, s₁] <:+: run) : Reach G seats s₁ ∧ Step G s₁ s₂ := by
  induction h with
  | start =>
    have := hin.length_le
    simp at this
  | step hrun hs ih =>
    rcases List.infix_cons_iff.mp hin with hpre | old
    · obtain ⟨rest, heq⟩ := hpre
      cases heq
      exact ⟨hrun.reach, hs⟩
    · exact ih old

/-- While releases are untaken, they spare what others have. -/
theorem spares_taken_when_untaken (h : Run (untakenReleases provider) seats run) :
    SparesTaken run := by
  intro s₁ s₂ ev b e ids hin hlog hjob seat hseat taken seat' hseat' hplace
  obtain ⟨hreach, hs⟩ := step_of_infix h hin
  have grown : ∀ {log : List (Event SeatInventory.service)}, log = ev :: log → False :=
    fun h ↦ List.cons_ne_self _ _ h.symm
  cases hs with
  | arrive => exact (grown hlog).elim
  | visit => exact (grown hlog).elim
  | call => rw [send_inventory_conf] at hlog; exact (grown hlog).elim
  | booking => exact (grown hlog).elim
  | payment => exact (grown hlog).elim
  | @inventory t j x o k ht hm =>
    have hev : (⟨t, j, o, s₁.inventory.conf.answer x o⟩ : Event SeatInventory.service) = ev :=
      (List.cons.inj hlog).1
    subst hev
    have hjob : j = .serve (some b) (.releaseSoldSeats e ids) := hjob
    subst hjob
    have hi := reach_inventory hreach
    have stays : seat' ∈ s₁.inventory.conf.state.seats.rows := by
      rcases SeatInventory.mem_seats_exec hseat' with new | old
      · obtain ⟨found, hf, row, hrow, hp⟩ := SeatInventory.found_of_stored
          ((Monitor.watches_of_reach SeatInventory.job_obeys hi).may ht) new
        obtain ⟨he, hid⟩ :=
          (SeatInventory.found_of_reach hi).within t _ e ids _ found ht hf row hrow
        have untaken := (untaken_of_reach hreach t b e ids _ ht rfl).2 row.seatId hid
        have at_row : seat.place = (e, row.seatId) := by
          rw [← hplace, hp, SeatInventory.Seat.place, he]
        exact absurd (at_row ▸ taken) untaken
      · exact old
    have same := Table.find_of_mem stays
    rw [hplace, Table.find_of_mem hseat] at same
    rw [Option.some.inj same]

/-- User `"u"` books seat `"A"` and cancels the booking; the seat is released, but the reply is
lost. -/
def lostRelease : List Part :=
  [.alone (holdSeat "A"), .alone (book "A" "k"), .alone (.job .processOutbox),
    .step (.arrive (.cancelBooking 0 "u" "r" none)), .toward 16 2,
    .step (.booking 2 { fault := some (.failure "deadline exceeded") }), .toward 100 2]

/-- Another user holds the seat that was released; the refund goes on, up to the moment at which
the seat is released again. -/
def releaseAgain : List Part :=
  lostRelease ++ [.alone (.visit (.holdSeats "e" ["A"] "v" "n") {}),
    .step (.arrive (.cancelBooking 0 "u" "r" none)), .toward 3 3]

/-- `f` holds of what thread `t` of the seat inventory does next. -/
def inventoryNext (s : Platform provider) (t : Nat)
    (f : SeatInventory.Job → (o : SeatInventory.Op) →
      (SeatInventory.sig.Answer o → SeatInventory.service.Program) → Bool) : Bool :=
  match s.inventory.threads[t]? with
  | some (j, .op o k) => f j o k
  | _ => false

/-- A test of a thread's next operation finds that operation. -/
theorem of_inventoryNext {t : Nat} {f : SeatInventory.Job → (o : SeatInventory.Op) →
    (SeatInventory.sig.Answer o → SeatInventory.service.Program) → Bool}
    (h : s.inventoryNext t f = true) :
    ∃ j o k, s.inventory.At t j (.op o k) ∧ f j o k = true := by
  unfold inventoryNext at h
  split at h
  · next j o k ht => exact ⟨j, o, k, ht, h⟩
  · cases h

/-- A retried release frees a seat that another user holds. -/
theorem retried_release_frees_held_seat :
    ¬ ∀ (provider : String) (seats : Table SeatInventory.Seat.place)
      (run : List (Platform provider)), Run (.free provider) seats run → SparesTaken run := by
  have played : (stage (.free "stripe") releaseAgain (start sampleSeats)).any fun s ↦
      s.inventoryNext 6 fun j o k ↦
        j = .serve (some 0) (.releaseSoldSeats "e" ["A"]) &&
          s.inventory.conf.state.seats.rows.any fun seat ↦
            decide (s.TakenFrom 0 seat.place) &&
              (s.inventory.advance 6 j {} o k).conf.state.seats.rows.any fun seat' ↦
                seat'.place = seat.place && seat'.status ≠ seat.status := by
    decide +kernel
  rw [Option.any_eq_true] at played
  obtain ⟨s, hs, hnext⟩ := played
  obtain ⟨j, o, k, ht, hnext⟩ := of_inventoryNext hnext
  simp only [List.any_eq_true, Bool.and_eq_true, decide_eq_true_eq] at hnext
  obtain ⟨hj, seat, hseat, taken, seat', hseat', hplace, hst⟩ := hnext
  intro spares
  obtain ⟨run, hrun⟩ := run_of_reach (later_of_stage hs)
  have released := hrun.step (.inventory (x := {}) ht trivial)
  exact hst (spares "stripe" sampleSeats _ released s _ _ 0 "e" ["A"]
    (List.prefix_append [_, s] run).isInfix rfl hj seat hseat taken seat' hseat' hplace)

/-- A release whose reply was lost is repeated before anyone takes the seat. -/
theorem spares_taken_when_untaken_retried :
    ∃ s run, stage (untakenReleases "stripe") (lostRelease ++ [.alone (cancel 0 "r")])
        (start sampleSeats) = some s ∧ Run (untakenReleases "stripe") sampleSeats (s :: run) ∧
      (∃ r ∈ s.booking.conf.state.bookings.rows, r.refundState = some .completed) ∧
      SparesTaken (s :: run) := by
  have played : (stage (untakenReleases "stripe") (lostRelease ++ [.alone (cancel 0 "r")])
      (start sampleSeats)).any fun s ↦
        s.booking.conf.state.bookings.rows.any fun r ↦ r.refundState = some .completed := by
    decide +kernel
  simp only [Option.any_eq_true, List.any_eq_true, decide_eq_true_eq] at played
  obtain ⟨s, hs, hr⟩ := played
  obtain ⟨run, hrun⟩ := run_of_reach (later_of_stage hs)
  exact ⟨s, run, hs, hrun, hr, spares_taken_when_untaken hrun⟩

end Platform

end Ticketing.System
