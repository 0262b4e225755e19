import Ticketing.SeatInventory.Lookups
import Ticketing.System.Links

/-!
# Refund states tell the truth about seats

Library `System`. The seat inventory answers a failed release with `success: false`, and the
booking service does not look at the answer. A refund that got past its seats has released them
as long as the statements of some release did not fail.
-/

namespace Ticketing.System

open Async Store

namespace Platform

variable {provider : String} {s s' : Platform provider}
  {seats : Table SeatInventory.Seat.place} {run : List (Platform provider)} {b : Id} {e : String}
  {ids : List String}

/-- The run contains a step at which a request of the booking, after its payment was refunded, set
these seats available. -/
def FreedIn (run : List (Platform provider)) (b : Id) (e : String) (ids : List String) : Prop :=
  ∃ s₁ s₂ ev, [s₂, s₁] <:+: run ∧ BookingService.Refunded s₁.booking.conf.log b ∧
    s₂.inventory.conf.log = ev :: s₁.inventory.conf.log ∧
    ev.job = .serve (some b) (.releaseSoldSeats e ids) ∧ ev.op.saves ev.answer = true ∧
    ∀ seat ∈ s₂.inventory.conf.state.seats.rows, seat.eventId = e → seat.seatId ∈ ids →
      seat.status = .available

/-- A booking whose refund got past its seats has had exactly these set available since. -/
def SeatsReleased (run : List (Platform provider)) : Prop :=
  ∀ s ∈ run.head?, ∀ r ∈ s.booking.conf.state.bookings.rows,
    r.refundState = some .seatsReleased ∨ r.refundState = some .completed →
    FreedIn run r.id r.eventId
      ((s.booking.conf.state.itemsOf r.id).map BookingService.BookingItem.seatId)

/-- Some release of the booking's seats has ended, and none of its statements failed. -/
def ReleaseEnded (s : Platform provider) (b : Id) : Prop :=
  ∃ u ∈ List.range s.inventory.threads.length,
    (s.inventory.threads[u]?).any (fun th ↦ releasesFor b th.1 && th.2.ended) = true ∧
      ∀ ev ∈ s.inventory.conf.log, ev.tid = u → ev.op.failsSeats ev.answer = false

/-- The runs in which the reply to a release arrives when some release of the booking has ended
without a failing statement. -/
def soundReleases (provider : String) : Regime provider where
  may s
    | .booking ⟨_, _, .rpc (some b) (.releaseSoldSeats _ _), .ok _⟩ => s.ReleaseEnded b
    | _ => True
  excl _ _ := False

instance (s : Platform provider) (b : Id) : Decidable (s.ReleaseEnded b) := by
  unfold ReleaseEnded
  infer_instance

/-- The booking whose release of seats is answered. -/
def released? : Action provider → Option Id
  | .booking ⟨_, _, .rpc (some b) (.releaseSoldSeats _ _), .ok _⟩ => some b
  | _ => none

instance (s : Platform provider) (a : Action provider) :
    Decidable ((soundReleases provider).may s a) :=
  decidable_of_iff (∀ b ∈ released? a, s.ReleaseEnded b) (by
    unfold soundReleases released?
    dsimp only
    split <;> simp)

instance (i j : BookingService.Job) : Decidable ((soundReleases provider).excl i j) :=
  inferInstanceAs (Decidable False)

/-! ### Releases of a run -/

/-- Seats freed in a run are freed in a longer one. -/
theorem FreedIn.cons (h : FreedIn run b e ids) (s : Platform provider) :
    FreedIn (s :: run) b e ids := by
  obtain ⟨s₁, s₂, ev, hin, h⟩ := h
  exact ⟨s₁, s₂, ev, List.infix_cons_iff.mpr (.inr hin), h⟩

/-- The seats with these ids are those of a confirmed booking. -/
def SeatsOf (s : Platform provider) (b : Id) (e : String) (ids : List String) : Prop :=
  ∃ r, s.booking.conf.state.bookings.find b = some r ∧ r.settled = true ∧ r.eventId = e ∧
    (s.booking.conf.state.itemsOf b).map BookingService.BookingItem.seatId = ids

/-- What has been released so far. -/
structure Releases (s : Platform provider) (run : List (Platform provider)) : Prop where
  threads : ∀ u b e ids q, s.inventory.At u (.serve (some b) (.releaseSoldSeats e ids)) q →
    s.SeatsOf b e ids ∧ BookingService.Refunded s.booking.conf.log b ∧
      (SeatInventory.looked u s.inventory.conf.log = .stored → FreedIn run b e ids)
  answers : ∀ b, BookingService.Released s.booking.conf.log b →
    ∃ e ids, s.SeatsOf b e ids ∧ FreedIn run b e ids

namespace Releases

/-- A step that leaves the bookings as they are and starts no release. -/
theorem keep (h : Releases s run) (hb : s'.booking.conf = s.booking.conf)
    (hl : s'.inventory.conf = s.inventory.conf)
    (ht : ∀ u b e ids q, s'.inventory.At u (.serve (some b) (.releaseSoldSeats e ids)) q →
      s.inventory.At u (.serve (some b) (.releaseSoldSeats e ids)) q) :
    Releases s' (s' :: run) where
  threads u b e ids q hu := by
    obtain ⟨hs, hr, hf⟩ := h.threads u b e ids q (ht u b e ids q hu)
    unfold SeatsOf at hs ⊢
    rw [hb, hl]
    exact ⟨hs, hr, fun hst ↦ (hf hst).cons _⟩
  answers b hr := by
    rw [hb] at hr
    obtain ⟨e, ids, hs, hf⟩ := h.answers b hr
    unfold SeatsOf at hs ⊢
    rw [hb]
    exact ⟨e, ids, hs, hf.cons _⟩

/-- A step of the booking service keeps the releases recorded. -/
theorem booking (h : Releases s run) (hb : BookingService.Reach (.free _) s.booking)
    (hi : Pool.Reach (.free SeatInventory.service) (fun db ↦ db = .stocked seats) s.inventory)
    {t : Nat} {j : BookingService.Job} {x : Choice} {o : BookingService.Op}
    {k : BookingService.sig.Answer o → BookingService.service.Program}
    (ht : s.booking.At t j (.op o k))
    (hm : (soundReleases provider).may s (.booking ⟨t, j, o, s.booking.conf.answer x o⟩)) :
    Releases (s.proceed t j x o k) (s.proceed t j x o k :: run) := by
  obtain ⟨owner, owner', -, hmove⟩ := BookingService.reach_move hb.free ht (x := x)
  have seatsOf : ∀ {b e ids}, s.SeatsOf b e ids → (s.proceed t j x o k).SeatsOf b e ids := by
    rintro b e ids ⟨r, hr, hset, rfl, rfl⟩
    obtain ⟨r', hr', hset', ho⟩ := hmove.settled hr hset
    simp only [BookingService.Booking.order, Prod.mk.injEq] at ho
    refine ⟨r', hr', hset', ho.2.2.2.1, ?_⟩
    rw [← hmove.items b r hr]
    rfl
  constructor
  · intro u b e ids q hu
    obtain ⟨hs, hr, hf⟩ := h.threads u b e ids q hu
    exact ⟨seatsOf hs, hr.cons, fun hst ↦ (hf hst).cons _⟩
  · rintro b ⟨t', j', e, ids, reply, hmem⟩
    rcases List.mem_cons.mp hmem with he | hmem
    · injection he with h₁ h₂ h₃ h₄
      subst h₃
      rw [← eq_of_heq h₄] at hm
      obtain ⟨u, -, hth, hclean⟩ := hm
      simp only [Option.any_eq_true, Bool.and_eq_true] at hth
      obtain ⟨⟨job, q⟩, hu, hrel, hend⟩ := hth
      cases job with
      | serve i r =>
        cases r with
        | releaseSoldSeats e' ids' =>
          have hi' : i = some b := by simpa [releasesFor] using hrel
          subst hi'
          cases q with
          | op o k => cases hend
          | ret r =>
            obtain ⟨hs, -, hf⟩ := h.threads u b e' ids' _ hu
            exact ⟨e', ids', seatsOf hs, (hf (SeatInventory.stored_of_ended hi hu hclean)).cons _⟩
        | _ => cases hrel
      | _ => cases hrel
    · obtain ⟨e', ids', hs, hf⟩ := h.answers b ⟨t', j', e, ids, reply, hmem⟩
      exact ⟨e', ids', seatsOf hs, hf.cons _⟩

/-- A step of the seat inventory keeps the releases recorded. -/
theorem inventory (h : Releases s (s :: run))
    (hi : Pool.Reach (.free SeatInventory.service) (fun db ↦ db = .stocked seats) s.inventory)
    {t : Nat} {j : SeatInventory.Job} {x : Choice} {o : SeatInventory.Op}
    {k : SeatInventory.sig.Answer o → SeatInventory.service.Program}
    (ht : s.inventory.At t j (.op o k)) :
    Releases { s with inventory := s.inventory.advance t j x o k }
      ({ s with inventory := s.inventory.advance t j x o k } :: s :: run) := by
  constructor
  · intro u b e ids q hu
    rcases (Pool.at_advance ht).mp hu with ⟨rfl, hj, -⟩ | ⟨hne, old⟩
    · subst hj
      obtain ⟨hs, hr, hf⟩ := h.threads u b e ids _ ht
      refine ⟨hs, hr, ?_⟩
      intro hst
      have hst : SeatInventory.looked u
          (⟨u, .serve (some b) (.releaseSoldSeats e ids), o, s.inventory.conf.answer x o⟩ ::
            s.inventory.conf.log) = .stored := hst
      rw [SeatInventory.looked, Monitor.state_self] at hst
      rcases SeatInventory.Looked.saves_of_stored hst with before | saved
      · exact (hf before).cons _
      · refine ⟨s, _, _, (List.prefix_append [_, s] run).isInfix, hr, rfl, rfl, saved, ?_⟩
        cases o with
        | saveSeats rows =>
          cases ha : s.inventory.conf.answer x (.saveSeats rows) with
          | ok a => exact SeatInventory.available_after hi ht ha
          | error error =>
            rw [ha] at saved
            cases saved
        | _ => cases saved
    · obtain ⟨hs, hr, hf⟩ := h.threads u b e ids q old
      refine ⟨hs, hr, ?_⟩
      intro hst
      have hst : SeatInventory.looked u
          (⟨t, j, o, s.inventory.conf.answer x o⟩ :: s.inventory.conf.log) = .stored := hst
      rw [SeatInventory.looked, Monitor.state_other _ (Ne.symm hne)] at hst
      exact (hf hst).cons _
  · intro b hr
    obtain ⟨e, ids, hs, hf⟩ := h.answers b hr
    exact ⟨e, ids, hs, hf.cons _⟩

/-- A call to another service; a release is one of the seats of a refunded booking. -/
theorem call (h : Releases s run) (hb : BookingService.Reach (.free _) s.booking)
    (hi : Pool.Reach (.free SeatInventory.service) (fun db ↦ db = .stocked seats) s.inventory)
    {t : Nat} {j : BookingService.Job} {i : Option Id} {r : Request}
    {k : BookingService.sig.Answer (.rpc i r) → BookingService.service.Program}
    (ht : s.booking.At t j (.op (.rpc i r) k)) : Releases (s.send t i r) (s.send t i r :: run) := by
  cases hr : server r with
  | payment =>
    apply h.keep
    · rw [send_booking]
    · rw [send_inventory_conf]
    · intro u b e ids q hu
      simpa [send, hr] using hu
  | inventory =>
    constructor
    · intro u b e ids q hu
      have hu :
          (s.inventory.spawn (.serve i r)).At u (.serve (some b) (.releaseSoldSeats e ids)) q := by
        simpa [send, hr] using hu
      unfold SeatsOf
      rw [send_booking, send_inventory_conf]
      rcases Pool.at_spawn.mp hu with old | ⟨rfl, hj, -⟩
      · obtain ⟨hs, hrf, hf⟩ := h.threads u b e ids q old
        exact ⟨hs, hrf, fun hst ↦ (hf hst).cons _⟩
      · cases hj
        obtain ⟨owner, owner', -, hmove⟩ := BookingService.reach_move hb.free ht (x := {})
        obtain ⟨c, row, hc, hrow, hset, he, hids, hrf, -⟩ := hmove.acts
        cases hc
        refine ⟨⟨row, hrow, hset, he.symm, hids.symm⟩, hrf, ?_⟩
        intro hst
        have fresh : SeatInventory.looked s.inventory.threads.length s.inventory.conf.log =
            .nothing :=
          (Monitor.watches_of_reach SeatInventory.job_obeys hi).threads _ (Nat.le_refl _)
        rw [fresh] at hst
        cases hst
    · intro b hrel
      rw [send_booking] at hrel
      obtain ⟨e, ids, hs, hf⟩ := h.answers b hrel
      unfold SeatsOf
      rw [send_booking]
      exact ⟨e, ids, hs, hf.cons _⟩

end Releases

/-- Every run of sound releases keeps the record. -/
theorem releases_of_run (h : Run (soundReleases provider) seats run) :
    ∀ s ∈ run.head?, Releases s run := by
  induction h with
  | start =>
    rintro s ⟨⟩
    constructor
    · intro u b e ids q hu
      cases hu
    · rintro b ⟨t, j, e, ids, reply, hm⟩
      cases hm
  | @step s s' before hrun hs ih =>
    rintro _ ⟨⟩
    have h := ih s rfl
    have hb := reach_booking hrun.reach
    have hi := reach_inventory hrun.reach
    cases hs with
    | arrive => exact Releases.keep h rfl rfl fun _ _ _ _ _ hu ↦ hu
    | payment => exact Releases.keep h rfl rfl fun _ _ _ _ _ hu ↦ hu
    | visit hj =>
      refine Releases.keep h rfl rfl ?_
      intro u b e ids q hu
      rcases Pool.at_spawn.mp hu with old | ⟨-, rfl, -⟩
      · exact old
      · cases hj
    | call ht => exact h.call hb hi ht
    | booking ht _ hm => exact h.booking hb hi ht hm
    | inventory ht => exact h.inventory hi ht

/-- While no reply arrives before a release without failures has ended, refund states are borne
out by the seat inventory. -/
theorem seats_released_when_sound (h : Run (soundReleases provider) seats run) :
    SeatsReleased run := by
  intro s hs r hr hst
  cases run with
  | nil => cases hs
  | cons s₀ before =>
    cases hs
    obtain ⟨owner, hi⟩ := BookingService.reach_inv (reach_booking h.reach).free
    obtain ⟨e, ids, ⟨r', hr', -, rfl, rfl⟩, hf⟩ :=
      (releases_of_run h s rfl).answers r.id ((hi.rows r hr).seatsReleased hst)
    rw [BookingService.Inv.find_of_mem hr] at hr'
    cases hr'
    exact hf

/-- The seat inventory keeps what it has logged. -/
theorem logged_of_step {G : Regime provider} (h : Step G s s') :
    s.inventory.conf.log ⊆ s'.inventory.conf.log := by
  cases h with
  | call => rw [send_inventory_conf]; exact List.Subset.refl _
  | inventory => exact List.subset_cons_self ..
  | _ => exact List.Subset.refl _

/-- The last platform of a run has logged what every other one has. -/
theorem logged_of_run {G : Regime provider} (h : Run G seats run) :
    ∀ s ∈ run.head?, ∀ s₀ ∈ run, s₀.inventory.conf.log ⊆ s.inventory.conf.log := by
  induction h with
  | start =>
    rintro s ⟨⟩ s₀ hs₀
    rw [List.mem_singleton.mp hs₀]
    exact List.Subset.refl _
  | step _ hs ih =>
    rintro s ⟨⟩ s₀ hs₀
    rcases List.mem_cons.mp hs₀ with rfl | before
    · exact List.Subset.refl _
    · exact List.Subset.trans (ih _ rfl s₀ before) (logged_of_step hs)

/-- Seats that were set available were saved by a request for them. -/
theorem FreedIn.logged {G : Regime provider} (hrun : Run G seats (s :: run))
    (h : FreedIn (s :: run) b e ids) : ∃ ev ∈ s.inventory.conf.log,
      releasesFor b ev.job = true ∧ ev.op.saves ev.answer = true := by
  obtain ⟨s₁, s₂, ev, hin, -, hlog, hj, hsaves, -⟩ := h
  have hm : s₂ ∈ s :: run := hin.subset (List.mem_cons_self ..)
  have hev : ev ∈ s₂.inventory.conf.log := by
    rw [hlog]
    exact List.mem_cons_self ..
  refine ⟨ev, logged_of_run hrun s rfl s₂ hm hev, ?_, hsaves⟩
  rw [hj]
  simp [releasesFor]

/-- User `"u"` books a seat and cancels the booking; the seat inventory cannot read the seats that
it is to release. -/
def failedRelease : List Part :=
  [.alone (holdSeat "A"), .alone (book "A" "k"), .step (.arrive (.cancelBooking 0 "u" "r" none)),
    .toward 13 1, .step (.inventory 3 { fault := some (.failure "connection terminated") }),
    .toward 100 1]

/-- A refund is completed whose seats were never released. -/
theorem failed_release_is_completed :
    ¬ ∀ (provider : String) (seats : Table SeatInventory.Seat.place)
      (run : List (Platform provider)), Run (.free provider) seats run → SeatsReleased run := by
  have played : (stage (.free "stripe") failedRelease (start sampleSeats)).any fun s ↦
      s.booking.conf.state.bookings.rows.any fun r ↦
        r.refundState = some .completed &&
          s.inventory.conf.log.all fun ev ↦
            !(releasesFor r.id ev.job && ev.op.saves ev.answer) := by
    decide +kernel
  simp only [Option.any_eq_true, List.any_eq_true, List.all_eq_true, Bool.and_eq_true,
    decide_eq_true_eq] at played
  obtain ⟨s, hs, r, hr, hst, hnone⟩ := played
  intro released
  obtain ⟨run, hrun⟩ := run_of_reach (later_of_stage hs)
  obtain ⟨ev, hev, hrel, hsaves⟩ :=
    (released "stripe" sampleSeats (s :: run) hrun s rfl r hr (.inr hst)).logged hrun
  simpa [hrel, hsaves] using hnone ev hev

/-- A cancelled booking whose seats are released. -/
theorem seats_released_when_sound_cancelled :
    ∃ s run, play (soundReleases "stripe") [holdSeat "A", book "A" "k", cancel 0 "r"]
        (start sampleSeats) = some s ∧ Run (soundReleases "stripe") sampleSeats (s :: run) ∧
      (∃ r ∈ s.booking.conf.state.bookings.rows, r.refundState = some .completed) ∧
      SeatsReleased (s :: run) := by
  have played : (play (soundReleases "stripe") [holdSeat "A", book "A" "k", cancel 0 "r"]
      (start sampleSeats)).any fun s ↦
        s.booking.conf.state.bookings.rows.any fun r ↦ r.refundState = some .completed := by
    decide +kernel
  simp only [Option.any_eq_true, List.any_eq_true, decide_eq_true_eq] at played
  obtain ⟨s, hs, hr⟩ := played
  obtain ⟨run, hrun⟩ := run_of_reach (later_of_play hs)
  exact ⟨s, run, hs, hrun, hr, seats_released_when_sound hrun⟩

end Platform

end Ticketing.System
