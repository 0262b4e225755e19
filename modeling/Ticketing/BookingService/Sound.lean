import Ticketing.BookingService.Delivering

/-!
# Every run of the booking service keeps the rules

Library `BookingService`. Each reachable configuration satisfies the invariant and each
executed operation is one of the moves.
-/

namespace Ticketing.BookingService

open Async Store

/-- The runs that start without rows. -/
abbrev Reach (G : Regime service) : Pool service → Prop := Pool.Reach G fun s ↦ s = Db.empty

/-- The code of every job keeps the rules. -/
theorem sound (M : Mode) :
    M.rules.Sound (fun s ↦ s = Db.empty) (fun _ _ _ _ _ ↦ True) where
  init := by
    rintro _ rfl
    exact ⟨_, Inv.empty⟩
  jobs t j := by
    have returned : ∀ {α : Type} {c : Code sig Unit α} (f : α → Returned),
        M.rules.Holds t j c (fun _ _ _ ↦ True) (fun _ _ _ _ ↦ True) (fun _ _ _ _ ↦ True) →
        M.rules.Holds t j (do let a ← c; pure (f a)) (fun _ _ _ ↦ True) (fun _ _ _ _ ↦ True)
          (fun _ _ _ _ ↦ True) := by
      intro α c f h
      apply Rules.Holds.bind h
      exact fun _ ↦ Rules.Holds.ret _ fun _ _ _ _ _ ↦ trivial
    apply Rules.Holds.prog
    cases j with
    | createBooking dto => exact returned _ (createBooking_holds dto)
    | cancelBooking b u k r => exact returned _ (cancelBooking_holds rfl b u k r)
    | recoveryStuckRefunds => exact returned _ (recoveryStuckRefunds_holds rfl)
    | processOutbox => exact returned _ processOutbox_holds

/-- Every reachable configuration satisfies the invariant. -/
theorem reach_inv {M : Mode} {p : Pool service} (hp : Reach M.regime p) :
    ∃ owner, Inv p.conf.state p.conf.log owner :=
  (sound M).inv hp

/-- Every operation that a run executes is a move between configurations with the
invariant. -/
theorem reach_move {M : Mode} {p : Pool service} (hp : Reach M.regime p) {t : Nat} {j : Job}
    {x : Choice} {o : Op} {k : sig.Answer o → service.Program} (ht : p.At t j (.op o k)) :
    ∃ owner owner', Inv p.conf.state p.conf.log owner ∧
      Moves M ⟨t, j, o, p.conf.answer x o⟩ p.conf owner (p.conf.after t j x o) owner' := by
  obtain ⟨g, g', hi, -, o', a', hm⟩ := (sound M).move hp ht (x := x) trivial
  refine ⟨g, g', hi, ?_⟩
  have hl : (⟨t, j, o, p.conf.answer x o⟩ : Event service) = ⟨t, j, o', a'⟩ :=
    (List.cons.inj hm.log).1
  rw [hl]
  exact hm

end Ticketing.BookingService
