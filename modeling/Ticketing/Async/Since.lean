import Mathlib.Data.List.Basic

/-!
# What stands since it was made

Library `Async`. A history lists what happened, newest first. Something stands if it was made
and nothing has broken it since.
-/

namespace Ticketing.Async

variable {α : Type}

/-- Something with `made` happened, and nothing with `broken` after it. -/
def Stands (made broken : α → Prop) (h : List α) : Prop :=
  ∃ after a before, h = after ++ a :: before ∧ made a ∧ ∀ b ∈ after, ¬ broken b

variable {made broken : α → Prop} {a : α} {h : List α}

/-- Nothing stands in the empty history. -/
@[simp] theorem not_stands_nil : ¬ Stands made broken [] := by
  rintro ⟨after, a, before, he, -⟩
  simp at he

/-- A fact stands if the last event made it, or did not break what stood before. -/
theorem stands_cons :
    Stands made broken (a :: h) ↔ made a ∨ (¬ broken a ∧ Stands made broken h) := by
  constructor
  · rintro ⟨after, b, before, he, hb, hafter⟩
    cases after with
    | nil =>
      cases he
      exact .inl hb
    | cons c after =>
      obtain ⟨rfl, rfl⟩ := List.cons.inj he
      have unbroken : ¬ broken a := hafter a (by simp)
      exact .inr ⟨unbroken, after, b, before, rfl, hb, fun d hd ↦ hafter d (by simp [hd])⟩
  · intro hs
    rcases hs with ha | ⟨unbroken, after, b, before, rfl, hb, hafter⟩
    · exact ⟨[], a, h, rfl, ha, by simp⟩
    · refine ⟨a :: after, b, before, rfl, hb, ?_⟩
      intro d hd
      rcases List.mem_cons.mp hd with rfl | hd
      · exact unbroken
      · exact hafter d hd

/-- A fact that stands was made by some event of the history. -/
theorem Stands.was_made (hs : Stands made broken h) : ∃ a ∈ h, made a := by
  obtain ⟨after, a, before, rfl, ha, -⟩ := hs
  exact ⟨a, by simp, ha⟩

end Ticketing.Async
