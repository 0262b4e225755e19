import Ticketing.SeatInventory.ReleasedSeats

/-!
# Whose seats `markAsSold` takes

Library `SeatInventory`. The rows are selected by the seat list alone. Whom a seat is sold to
is not stored: it is the user of the call that wrote the row last.
-/

namespace Ticketing.SeatInventory

open Async Store

/-- The operation stored the row of the seat. -/
def Stores (place : String × String) (ev : Event service) : Bool :=
  (ev.op.storedSeats ev.answer).any fun r ↦ r.place = place

/-- The user that a sold seat was sold to. -/
def soldTo (c : Conf service) (place : String × String) : Option String :=
  match c.state.seats.find place, (c.log.find? (Stores place)).map Event.job with
  | some r, some (.serve _ (.markSeatsAsSold _ _ v)) => if r.status = .sold then some v else none
  | _, _ => none

/-- The seat is held under an unreleased hold of a different user, or sold to one. -/
def Foreign (c : Conf service) (userId : String) (place : String × String) : Prop :=
  ∃ v, v ≠ userId ∧ (c.state.HeldBy place v ∨ soldTo c place = some v)

/-- A call for a user leaves the seats of other users alone, and fails without effect when one
of them is listed. -/
structure Spares (c : Conf service) (e : String) (ids : List String) (userId : String)
    (out : Outcome sig Unit Unit Db) : Prop where
  untouched : ∀ place, Foreign c userId place → Untouched place c.state out.state
  refuses : (∃ seatId ∈ ids, Foreign c userId (e, seatId)) →
    out.throws = true ∧ Unchanged c.state out.state

/-- No listed seat is another user's, and the locks that the user has of listed seats are not of
another user's seats. -/
structure OwnSale (c : Conf service) (e : String) (ids : List String) (userId : String) : Prop where
  listed : ∀ seatId ∈ ids, ¬ Foreign c userId (e, seatId)
  locks : ∀ place, Foreign c userId place → ¬ c.state.Owns e ids userId (placeKey place)

variable {c : Conf service} {s s' : Db} {e : String} {ids : List String} {u : String}

/-- What is not listed is untouched. -/
theorem Rewritten.untouched {st : SeatStatus} {now : Nat} {reason : SeatLockReleaseReason}
    {place : String × String} (h : Rewritten e ids u st now reason s s')
    (hp : ∀ seatId ∈ ids, place ≠ (e, seatId)) (ho : ¬ s.Owns e ids u (placeKey place)) :
    Untouched place s s' := by
  constructor
  · rw [h.seats]
    refine (find_marked place).trans ?_
    cases hr : s.seats.find place with
    | none => rfl
    | some r =>
      rw [Option.map_some, Option.some.injEq]
      apply if_neg
      rintro ⟨he, hm⟩
      exact hp _ hm (by rw [← (Table.find_eq_some_iff.mp hr).2, ← he]; rfl)
  · rw [h.holds, holds_handed, List.filter_map]
    have same : ((fun h : SeatHold ↦ decide (h.place = place)) ∘
        SeatHold.freed e ids u now reason) = fun h ↦ decide (h.place = place) := by
      funext h
      simp
    rw [same]
    refine (List.map_congr_left ?_).trans (List.map_id _)
    intro hold hm
    apply if_neg
    rintro ⟨he, -, -, hid⟩
    have here : hold.place = place := of_decide_eq_true (List.mem_filter.mp hm).2
    exact hp _ hid (by rw [← here, ← he]; rfl)
  · exact h.locks _ ho

/-- A call of `markAsSold` when `x` is decided. -/
def sale (x : Nat → Op → Choice) (e : String) (ids : List String) (u : String) (s : Db) :
    Outcome sig Unit Unit Db :=
  (markAsSold e ids u).exec (deciding x) 0 () s

/-- Where nothing fails the call returns. -/
theorem sale_handed (e : String) (ids : List String) (u : String) (s : Db) :
    (sale (fun _ _ ↦ {}) e ids u s).throws = false ∧
      Handed (fun _ ↦ []) e ids u .sold .paymentSuccess s
        (sale (fun _ _ ↦ {}) e ids u s).state := by
  rcases (markAsSold_leaves (fun _ _ ↦ {}) (fun _ ↦ []) e ids u s).outcome (Lost.refl s)
    with h | ⟨-, h⟩
  · exact h
  · obtain ⟨n, o, hf⟩ := h.faulty
    exact absurd rfl hf

/-- Whatever fails, `markAsSold` spares the seats of other customers, exactly if the list names
none of them and the caller's locks are not theirs. -/
theorem sale_spares_iff (c : Conf service) (e : String) (ids : List String) (u : String) :
    (∀ x, Spares c e ids u (sale x e ids u c.state)) ↔ OwnSale c e ids u := by
  constructor
  · intro h
    have spares := h fun _ _ ↦ {}
    obtain ⟨returns, handed⟩ := sale_handed e ids u c.state
    constructor
    · intro seatId hm hf
      have throws := (spares.refuses ⟨seatId, hm, hf⟩).1
      rw [returns] at throws
      cases throws
    · intro place hf ho
      obtain ⟨-, lock, hl, -⟩ := id ho
      have same := (spares.untouched place hf).lock
      rw [handed.deleted ho, hl] at same
      cases same
  · intro h x
    constructor
    · intro place hf
      have apart : ∀ seatId ∈ ids, place ≠ (e, seatId) := by
        rintro seatId hm rfl
        exact h.listed seatId hm hf
      have rewritten : ∀ {now s'}, Rewritten e ids u .sold now .paymentSuccess c.state s' →
          Untouched place c.state s' := fun hr ↦ hr.untouched apart (h.locks place hf)
      rcases (markAsSold_leaves x (fun _ ↦ []) e ids u c.state).outcome (Lost.refl c.state)
        with ⟨-, left⟩ | ⟨-, left⟩
      · obtain ⟨now, hr⟩ := left.rewritten
        exact rewritten hr
      · rcases left.cases with hu | ⟨now, hr⟩
        · exact hu.untouched place
        · exact rewritten hr
    · rintro ⟨seatId, hm, hf⟩
      exact absurd hf (h.listed seatId hm)

/-- A user's hold ends, and another user holds the seat. -/
def movedOnRun : List (Label service) :=
  .spawn (.holdSeats "e" ["A"] "v" "t") :: List.replicate 9 (.run 0 {}) ++
    .spawn (.releaseSeats "e" ["A"] "v") :: List.replicate 10 (.run 1 {}) ++
    .spawn (.holdSeats "e" ["A"] "u" "s") :: List.replicate 9 (.run 2 {})

/-- A late sale to the first user takes the seat from the second one. -/
theorem late_sale_takes_held_seat :
    ∃ p, Pool.Reach (.free service) (fun s ↦ s = saleStock) p ∧
      ¬ ∀ x, Spares p.conf "e" ["A"] "v" (sale x "e" ["A"] "v" p.conf.state) := by
  have played : (Pool.play (.free service) movedOnRun (.start saleStock)).any fun p ↦
      decide (p.conf.state.HeldBy ("e", "A") "u") &&
        decide ((sale (fun _ _ ↦ {}) "e" ["A"] "v" p.conf.state).state.seats.find ("e", "A") ≠
          p.conf.state.seats.find ("e", "A")) := by
    decide +kernel
  simp only [Option.any_eq_true, Bool.and_eq_true, decide_eq_true_eq] at played
  obtain ⟨p, hp, hu, hne⟩ := played
  refine ⟨p, Pool.reach_of_play rfl hp, fun h ↦ hne ?_⟩
  exact ((h _).untouched _ ⟨"u", by decide, .inl hu⟩).seat

end Ticketing.SeatInventory
