import Mathlib.Logic.Function.Basic

/-!
# A value and its copy

Library `Store`. A value is changed by commits; a copy of it is written later, by those who have
committed or read it, each with what it has taken then. Takings are stamped with the number of
commits. When no copy overwrites one that was taken later, the copy is the value once everybody
who has to write it has done so.
-/

namespace Ticketing.Store

variable {τ V : Type}

/-- What happens to a value and its copy. -/
inductive CellEvent (τ V : Type) where
  | commit (t : τ) (v : V)
  | take (t : τ)
  | copy (t : τ) (v : V)
  | wipe (t : τ)
  | other
  deriving DecidableEq, Repr

/-- Who does it. -/
def CellEvent.party : CellEvent τ V → Option τ
  | .commit t _ | .take t | .copy t _ | .wipe t => some t
  | .other => none

/-- A value with its copy: how often it was changed, what each party has taken and when, when the
copy was taken, and who has to write it still. -/
structure Cell (τ V : Type) where
  value : V
  stamp : Nat
  shown : Option V
  shownStamp : Nat
  taken : τ → Option (Nat × V)
  owing : τ → Bool

namespace Cell

/-- A value whose copy agrees with it. -/
def start (v : V) : Cell τ V where
  value := v
  stamp := 0
  shown := some v
  shownStamp := 0
  taken _ := none
  owing _ := false

/-- When a party has taken the value. -/
def stampOf (c : Cell τ V) (t : τ) : Nat := ((c.taken t).map Prod.fst).getD 0

/-- A party writes what it has taken, and overwrites nothing that was taken later. -/
def Allows (c : Cell τ V) : CellEvent τ V → Prop
  | .copy t v => ∃ n, c.taken t = some (n, v) ∧ c.shownStamp ≤ n
  | _ => True

/-- What was taken last is the value; a copy that was taken last is the value; and while there is
no such copy, somebody has to write one. -/
structure Kept (c : Cell τ V) : Prop where
  taken : ∀ t n v, c.taken t = some (n, v) → n ≤ c.stamp ∧ (n = c.stamp → v = c.value)
  bound : c.shownStamp ≤ c.stamp
  wiped : c.shown = none → ∃ t, c.owing t = true
  fresh : ∀ v, c.shown = some v → c.shownStamp = c.stamp → v = c.value
  stale : c.shownStamp < c.stamp → ∃ t, c.owing t = true ∧ ∃ v, c.taken t = some (c.stamp, v)

/-- At the start the copy agrees. -/
theorem kept_start (v : V) : (start v : Cell τ V).Kept where
  taken := nofun
  bound := Nat.le_refl _
  wiped := nofun
  fresh _ h _ := (Option.some.inj h).symm
  stale h := absurd h (Nat.lt_irrefl _)

/-- When nobody has to write the copy, it is the value. -/
theorem Kept.settled {c : Cell τ V} (h : c.Kept) (ho : ∀ t, c.owing t = false) :
    c.shown = some c.value := by
  have notOwing : ∀ t, ¬ c.owing t = true := fun t ht ↦ by
    rw [ho t] at ht
    cases ht
  cases hs : c.shown with
  | none =>
    obtain ⟨t, ht⟩ := h.wiped hs
    exact absurd ht (notOwing t)
  | some v =>
    have last : c.shownStamp = c.stamp := by
      by_contra hne
      have bound := h.bound
      obtain ⟨t, ht, -⟩ := h.stale (by omega)
      exact notOwing t ht
    rw [h.fresh v hs last]

variable [DecidableEq τ]

/-- The effect of an event. -/
def step (c : Cell τ V) : CellEvent τ V → Cell τ V
  | .commit t v =>
    { c with
      value := v
      stamp := c.stamp + 1
      taken := Function.update c.taken t (some (c.stamp + 1, v))
      owing := Function.update c.owing t true }
  | .take t => { c with taken := Function.update c.taken t (some (c.stamp, c.value)) }
  | .copy t v =>
    { c with
      shown := some v
      shownStamp := c.stampOf t
      owing := Function.update c.owing t false }
  | .wipe t => { c with shown := none, owing := Function.update c.owing t true }
  | .other => c

/-- What others do changes nothing that a party has taken or has to write. -/
theorem step_others (c : Cell τ V) {e : CellEvent τ V} {t : τ} (h : e.party ≠ some t) :
    (c.step e).taken t = c.taken t ∧ (c.step e).owing t = c.owing t := by
  have other : ∀ u, some u ≠ some t → t ≠ u := fun u hu ht ↦ hu (congrArg some ht.symm)
  cases e with
  | other => exact ⟨rfl, rfl⟩
  | commit u v => simp [step, other u h]
  | take u => simp [step, other u h]
  | copy u v => simp [step, other u h]
  | wipe u => simp [step, other u h]

namespace Kept

variable {c : Cell τ V}

/-- A commit keeps the copy right. -/
theorem commit (h : c.Kept) (t : τ) (v : V) : (c.step (.commit t v)).Kept where
  taken u n w hw := by
    simp only [step, Function.update_apply] at hw ⊢
    split at hw
    · cases hw
      exact ⟨Nat.le_refl _, fun _ ↦ rfl⟩
    · have old := (h.taken u n w hw).1
      exact ⟨by omega, fun he ↦ by omega⟩
  bound := Nat.le_succ_of_le h.bound
  wiped _ := ⟨t, by simp [step]⟩
  fresh w _ he := by
    have he : c.shownStamp = c.stamp + 1 := he
    have bound := h.bound
    omega
  stale _ := ⟨t, by simp [step], v, by simp [step]⟩

/-- Taking the value keeps the copy right. -/
theorem take (h : c.Kept) (t : τ) : (c.step (.take t)).Kept where
  taken u n w hw := by
    simp only [step, Function.update_apply] at hw ⊢
    split at hw
    · cases hw
      exact ⟨Nat.le_refl _, fun _ ↦ rfl⟩
    · exact h.taken u n w hw
  bound := h.bound
  wiped := h.wiped
  fresh := h.fresh
  stale hs := by
    obtain ⟨u, ho, v, hv⟩ := h.stale hs
    refine ⟨u, ho, ?_⟩
    by_cases hu : u = t
    · exact ⟨c.value, by simp [step, hu]⟩
    · exact ⟨v, by simp [step, hu, hv]⟩

/-- Writing a copy that is allowed keeps the copy right. -/
theorem copy (h : c.Kept) {t : τ} {v : V} (ha : c.Allows (.copy t v)) :
    (c.step (.copy t v)).Kept := by
  obtain ⟨n, hn, hle⟩ := ha
  have stamp : c.stampOf t = n := by simp [stampOf, hn]
  obtain ⟨bound, last⟩ := h.taken t n v hn
  constructor
  · exact h.taken
  · simp only [step, stamp]
    exact bound
  · exact nofun
  · intro w hw he
    simp only [step, stamp] at hw he
    cases hw
    exact last he
  · intro hs
    simp only [step, stamp] at hs
    obtain ⟨u, ho, w, hw⟩ := h.stale (by omega)
    have hu : u ≠ t := by
      rintro rfl
      rw [hn] at hw
      cases hw
      exact Nat.lt_irrefl _ hs
    exact ⟨u, by simp [step, hu, ho], w, hw⟩

/-- Deleting the copy keeps it right. -/
theorem wipe (h : c.Kept) (t : τ) : (c.step (.wipe t)).Kept where
  taken := h.taken
  bound := h.bound
  wiped _ := ⟨t, by simp [step]⟩
  fresh := nofun
  stale hs := by
    obtain ⟨u, ho, rest⟩ := h.stale hs
    refine ⟨u, ?_, rest⟩
    simp only [step, Function.update_apply]
    split
    · rfl
    · exact ho

/-- An allowed event keeps all this. -/
theorem step (h : c.Kept) {e : CellEvent τ V} (ha : c.Allows e) : (c.step e).Kept := by
  cases e with
  | commit t v => exact h.commit t v
  | take t => exact h.take t
  | copy t v => exact h.copy ha
  | wipe t => exact h.wipe t
  | other => exact h

end Kept

end Cell

end Ticketing.Store
