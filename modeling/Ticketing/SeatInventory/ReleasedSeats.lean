import Ticketing.Async.Play
import Ticketing.SeatInventory.Writers

/-!
# What `releaseSeats` touches

Library `SeatInventory`. The rows are selected by the seat list alone, the holds by the user
and the locks by their owner. When these selections coincide.
-/

namespace Ticketing.SeatInventory

open Async Store

/-- The seat that a hold is for. -/
def SeatHold.place (h : SeatHold) : String × String := (h.eventId, h.seatId)

/-- The user has an unreleased hold on the seat. -/
def Db.HeldBy (s : Db) (place : String × String) (userId : String) : Prop :=
  ∃ h ∈ s.holds.rows, h.place = place ∧ h.userId = userId ∧ h.releasedAt = none

instance (s : Db) (place : String × String) (u : String) : Decidable (s.HeldBy place u) :=
  inferInstanceAs (Decidable
    (∃ h ∈ s.holds.rows, h.place = place ∧ h.userId = u ∧ h.releasedAt = none))

/-- The inventory row, the holds and the lock of a seat are as they were. -/
structure Untouched (place : String × String) (s s' : Db) : Prop where
  seat : s'.seats.find place = s.seats.find place
  holds : s'.holds.rows.filter (fun h ↦ h.place = place) =
    s.holds.rows.filter fun h ↦ h.place = place
  lock : s'.locks.find (placeKey place) = s.locks.find (placeKey place)

/-- A seat that was not on sale is on sale. -/
def Freed (place : String × String) (s s' : Db) : Prop :=
  ∃ r r', s.seats.find place = some r ∧ r.status ≠ .available ∧
    s'.seats.find place = some r' ∧ r'.status = .available

/-- A call for a user touches only seats that the user holds: no sold seat and no seat that is
held by another user becomes available. -/
structure TouchesOwn (userId : String) (s s' : Db) : Prop where
  untouched : ∀ place, ¬ s.HeldBy place userId → Untouched place s s'
  sold : ∀ place r, s.seats.find place = some r → r.status = .sold → ¬ Freed place s s'
  others : ∀ place v, v ≠ userId → s.HeldBy place v → ¬ Freed place s s'

/-- Every listed row that is not on sale is held by the user and by nobody else and not sold,
and the user has a lock of a listed seat only where the user holds the seat. -/
structure OwnList (s : Db) (e : String) (ids : List String) (userId : String) : Prop where
  held : ∀ r ∈ s.listed e ids, r.status ≠ .available → s.HeldBy r.place userId
  unsold : ∀ r ∈ s.listed e ids, r.status ≠ .sold
  nobody : ∀ r ∈ s.listed e ids, r.status ≠ .available →
    ∀ v, v ≠ userId → ¬ s.HeldBy r.place v
  locks : ∀ place, s.Owns e ids userId (placeKey place) → s.HeldBy place userId

variable {s s' : Db} {e : String} {ids : List String} {u : String} {now : Nat}
  {reason : SeatLockReleaseReason}

/-- A row is listed if it is stored, of the event and named by its id. -/
theorem mem_listed {r : Seat} :
    r ∈ s.listed e ids ↔ r ∈ s.seats.rows ∧ r.eventId = e ∧ r.seatId ∈ ids := by
  simp [Db.listed]

/-- A row that is not listed keeps its status. -/
theorem marked_of_not_mem {st : SeatStatus} {r : Seat} (hr : r ∈ s.seats.rows)
    (hl : r ∉ s.listed e ids) : r.marked e ids st = r := by
  apply if_neg
  exact fun h ↦ hl (mem_listed.mpr ⟨hr, h⟩)

/-- A listed row gets the status. -/
theorem marked_of_mem {st : SeatStatus} {r : Seat} (hl : r ∈ s.listed e ids) :
    r.marked e ids st = { r with status := st } :=
  if_pos (mem_listed.mp hl).2

/-- A released hold is for the same seat. -/
@[simp] theorem SeatHold.freed_place (h : SeatHold) :
    (h.freed e ids u now reason).place = h.place := by
  unfold freed
  split <;> rfl

/-- Only holds of the user are released. -/
theorem freed_of_not_heldBy {h : SeatHold} (hm : h ∈ s.holds.rows) (hn : ¬ s.HeldBy h.place u) :
    h.freed e ids u now reason = h := by
  apply if_neg
  rintro ⟨-, hu, hr, -⟩
  exact hn ⟨h, hm, rfl, hu, hr⟩

/-- The holds of a seat that the user does not hold stay as they are. -/
theorem holds_of_not_heldBy {place : String × String} (hn : ¬ s.HeldBy place u) :
    (s.holds.rows.map (SeatHold.freed e ids u now reason)).filter (fun h ↦ h.place = place) =
      s.holds.rows.filter fun h ↦ h.place = place := by
  rw [List.filter_map]
  have same : ((fun h : SeatHold ↦ decide (h.place = place)) ∘
      SeatHold.freed e ids u now reason) = fun h ↦ decide (h.place = place) := by
    funext h
    simp
  rw [same]
  refine (List.map_congr_left ?_).trans (List.map_id _)
  intro h hm
  obtain ⟨hm, hp⟩ := List.mem_filter.mp hm
  exact freed_of_not_heldBy hm (of_decide_eq_true hp ▸ hn)

/-- A call for a list of the user's own seats touches only these. -/
theorem OwnList.touchesOwn (h : OwnList s e ids u)
    (hr : Rewritten e ids u .available now reason s s') : TouchesOwn u s s' := by
  have hs : ∀ place, s'.seats.find place =
      (s.seats.find place).map (Seat.marked e ids .available) := by
    intro place
    rw [hr.seats]
    exact find_marked place
  have listed : ∀ {place r}, s.seats.find place = some r → r.status ≠ .available →
      Freed place s s' → r ∈ s.listed e ids := by
    rintro place r hr hne ⟨r₀, r', hr₀, -, hr', ha⟩
    rw [hr] at hr₀
    cases hr₀
    by_contra hn
    rw [hs, hr, Option.map_some, marked_of_not_mem (Table.find_eq_some_iff.mp hr).1 hn] at hr'
    cases hr'
    exact hne ha
  constructor
  · intro place hn
    constructor
    · rw [hs]
      cases hr : s.seats.find place with
      | none => rfl
      | some r =>
        obtain ⟨hm, hp⟩ := Table.find_eq_some_iff.mp hr
        rw [Option.map_some, Option.some.injEq]
        by_cases hin : r ∈ s.listed e ids
        · have sale : r.status = .available := by
            by_contra hne
            exact hn (hp ▸ h.held r hin hne)
          rw [marked_of_mem hin, ← sale]
        · exact marked_of_not_mem hm hin
    · rw [hr.holds, holds_handed]
      exact holds_of_not_heldBy hn
    · exact hr.locks _ fun ho ↦ hn (h.locks place ho)
  · intro place r hr hsold hf
    exact h.unsold r (listed hr (by rw [hsold]; exact nofun) hf) hsold
  · intro place v hv hheld hf
    obtain ⟨r, r', hr, hne, hr'⟩ := id hf
    have hp := (Table.find_eq_some_iff.mp hr).2
    exact h.nobody r (listed hr hne hf) hne v hv (hp.symm ▸ hheld)

/-- What a call of `releaseSeats` leaves when `x` is decided. -/
def afterRelease (x : Nat → Op → Choice) (e : String) (ids : List String) (u : String)
    (reason : SeatLockReleaseReason) (s : Db) : Db :=
  ((releaseSeats e ids u reason).exec (deciding x) 0 () s).state

/-- Where nothing fails the call returns. -/
theorem afterRelease_handed (e : String) (ids : List String) (u : String)
    (reason : SeatLockReleaseReason) (s : Db) :
    Handed (fun _ ↦ []) e ids u .available reason s
      (afterRelease (fun _ _ ↦ {}) e ids u reason s) := by
  rcases (releaseSeats_leaves (fun _ _ ↦ {}) (fun _ ↦ []) e ids u reason s).outcome (Lost.refl s)
    with ⟨-, h⟩ | ⟨-, h⟩
  · exact h
  · obtain ⟨n, o, hf⟩ := h.faulty
    exact absurd rfl hf

/-- Whatever fails, the rows are left alone, or rewritten. -/
theorem afterRelease_cases (x : Nat → Op → Choice) (e : String) (ids : List String) (u : String)
    (reason : SeatLockReleaseReason) (s : Db) :
    Unchanged s (afterRelease x e ids u reason s) ∨
      ∃ now, Rewritten e ids u .available now reason s (afterRelease x e ids u reason s) := by
  rcases (releaseSeats_leaves x (fun _ ↦ []) e ids u reason s).outcome (Lost.refl s)
    with ⟨-, h⟩ | ⟨-, h⟩
  · exact .inr h.rewritten
  · exact h.cases

/-- An unchanged state touches no seat. -/
theorem Unchanged.untouched (h : Unchanged s s') (place : String × String) :
    Untouched place s s' :=
  ⟨by rw [h.seats], by rw [h.holds], h.locks _⟩

/-- An unchanged state touches the user's own seats alone. -/
theorem Unchanged.touchesOwn (h : Unchanged s s') : TouchesOwn u s s' := by
  have kept : ∀ place, ¬ Freed place s s' := by
    rintro place ⟨r, r', hr, hne, hr', ha⟩
    rw [h.seats, hr] at hr'
    cases hr'
    exact hne ha
  constructor
  · exact fun place _ ↦ h.untouched place
  · exact fun place _ _ _ ↦ kept place
  · exact fun place _ _ _ ↦ kept place

/-- Whatever fails, `releaseSeats` touches only the caller's holds, exactly if the list is of
the caller's own seats or of seats on sale. -/
theorem release_touches_own_iff (e : String) (ids : List String) (u : String)
    (reason : SeatLockReleaseReason) (s : Db) :
    (∀ x, TouchesOwn u s (afterRelease x e ids u reason s)) ↔ OwnList s e ids u := by
  constructor
  · intro h
    have touches := h fun _ _ ↦ {}
    have handed := afterRelease_handed e ids u reason s
    obtain ⟨now, rewritten⟩ := handed.rewritten
    have freed : ∀ r ∈ s.listed e ids, r.status ≠ .available →
        Freed r.place s (afterRelease (fun _ _ ↦ {}) e ids u reason s) := by
      intro r hr hne
      have find := Table.find_of_mem (mem_listed.mp hr).1
      refine ⟨r, { r with status := .available }, find, hne, ?_, rfl⟩
      rw [rewritten.seats]
      refine (find_marked r.place).trans ?_
      rw [find, Option.map_some, marked_of_mem hr]
    constructor
    · intro r hr hne
      by_contra hn
      obtain ⟨r₀, r', hr₀, -, hr', ha⟩ := freed r hr hne
      rw [(touches.untouched r.place hn).seat, hr₀] at hr'
      have find := Table.find_of_mem (mem_listed.mp hr).1
      rw [hr₀] at find
      cases hr'
      cases find
      exact hne ha
    · intro r hr hsold
      exact touches.sold r.place r (Table.find_of_mem (mem_listed.mp hr).1) hsold
        (freed r hr (by rw [hsold]; exact nofun))
    · intro r hr hne v hv hheld
      exact touches.others r.place v hv hheld (freed r hr hne)
    · intro place ho
      by_contra hn
      obtain ⟨-, lock, hl, -⟩ := id ho
      have same := (touches.untouched place hn).lock
      rw [handed.deleted ho, hl] at same
      cases same
  · intro h x
    rcases afterRelease_cases x e ids u reason s with hu | ⟨now, hr⟩
    · exact hu.touchesOwn
    · exact h.touchesOwn hr

/-- A seat is held by a user. -/
def heldRun : List (Label service) :=
  .spawn (.holdSeats "e" ["A"] "u" "s") :: List.replicate 9 (.run 0 {})

/-- Another user takes the seat from the one who holds it. -/
theorem release_takes_held_seat :
    ∃ p, Pool.Reach (.free service) (fun s ↦ s = saleStock) p ∧
      ¬ ∀ x, TouchesOwn "v" p.conf.state
        (afterRelease x "e" ["A"] "v" .userCancel p.conf.state) := by
  have played : (Pool.play (.free service) heldRun (.start saleStock)).any fun p ↦
      decide (¬ p.conf.state.HeldBy ("e", "A") "v") &&
        decide ((afterRelease (fun _ _ ↦ {}) "e" ["A"] "v" .userCancel p.conf.state).seats.find
          ("e", "A") ≠ p.conf.state.seats.find ("e", "A")) := by
    decide +kernel
  simp only [Option.any_eq_true, Bool.and_eq_true, decide_eq_true_eq] at played
  obtain ⟨p, hp, hn, hne⟩ := played
  exact ⟨p, Pool.reach_of_play rfl hp, fun h ↦ hne ((h _).untouched _ hn).seat⟩

end Ticketing.SeatInventory
