import Mathlib.Logic.Function.Basic
import Ticketing.Store.Table

/-!
# Rows with owners

Library `Store`. A table that several parties add rows to, each under a key that is free, and in
which a party removes only rows that it has added. Every added row has one owner.
-/

namespace Ticketing.Store

variable {α κ ι : Type} {key : α → κ} [DecidableEq κ]

/-- The rows of a table are those that were there at the start and those of the owners. -/
structure Owners (t₀ t : Table key) (own : ι → List α) : Prop where
  /-- A row that was there at the start is there. -/
  initial : ∀ k r, t₀.find k = some r → t.find k = some r
  /-- An owned row is there, under a key that was free at the start. -/
  stored : ∀ i, ∀ r ∈ own i, t.find (key r) = some r ∧ t₀.find (key r) = none
  /-- A row under a key that was free at the start is owned. -/
  owner : ∀ k r, t.find k = some r → t₀.find k = none → ∃ i, r ∈ own i
  /-- An owner has one row under a key. -/
  once : ∀ i, ((own i).map key).Nodup
  /-- A row has one owner. -/
  unique : ∀ i j r, r ∈ own i → r ∈ own j → i = j

/-- Of rows with different keys, those that are left have a key other than the erased one. -/
theorem mem_eraseP_key {rows : List α} (hn : (rows.map key).Nodup) {k : κ} {r : α} :
    r ∈ rows.eraseP (key · = k) ↔ r ∈ rows ∧ key r ≠ k := by
  by_cases hr : key r = k
  · simp only [hr, ne_eq, not_true_eq_false, and_false, iff_false]
    induction rows with
    | nil => exact List.not_mem_nil
    | cons first rest ih =>
      rw [List.map_cons, List.nodup_cons] at hn
      by_cases hf : key first = k
      · rw [List.eraseP_cons_of_pos (by simp [hf])]
        intro hm
        apply hn.1
        rw [hf, ← hr]
        exact List.mem_map_of_mem hm
      · rw [List.eraseP_cons_of_neg (by simp [hf])]
        intro hm
        rcases List.mem_cons.mp hm with rfl | hm
        · exact hf hr
        · exact ih hn.2 hm
  · rw [List.mem_eraseP_of_neg (by simp [hr])]
    simp [hr]

namespace Owners

variable {t₀ t : Table key} {own : ι → List α} {r : α}

/-- Nobody owns anything at the start. -/
theorem start (t₀ : Table key) : Owners t₀ t₀ fun (_ : ι) ↦ [] where
  initial _ _ h := h
  stored _ r h := by cases h
  owner k r h hn := by
    rw [h] at hn
    cases hn
  once _ := List.nodup_nil
  unique _ _ _ h := by cases h

/-- Nobody owns a row under a free key. -/
theorem free (h : Owners t₀ t own) {k : κ} (hf : t.find k = none) {i : ι} {r : α}
    (hm : r ∈ own i) : key r ≠ k := by
  rintro rfl
  rw [(h.stored i r hm).1] at hf
  cases hf

variable [DecidableEq ι]

/-- A party adds a row under a free key. -/
theorem put (h : Owners t₀ t own) (hf : t.find (key r) = none) (i : ι) :
    Owners t₀ (t.put r) (Function.update own i (own i ++ [r])) := by
  have mem : ∀ j r', r' ∈ Function.update own i (own i ++ [r]) j ↔
      r' ∈ own j ∨ (j = i ∧ r' = r) := by
    intro j r'
    by_cases hj : j = i
    · subst hj
      simp
    · simp [hj]
  have free₀ : t₀.find (key r) = none := by
    cases h₀ : t₀.find (key r) with
    | none => rfl
    | some old =>
      rw [h.initial _ old h₀] at hf
      cases hf
  refine ⟨?_, ?_, ?_, ?_, ?_⟩
  · intro k old h₀
    have hk : key r ≠ k := by
      rintro rfl
      rw [h₀] at free₀
      cases free₀
    rw [Table.find_put_of_ne _ hk]
    exact h.initial k old h₀
  · intro j r' hm
    rcases (mem j r').mp hm with hm | ⟨rfl, rfl⟩
    · rw [Table.find_put_of_ne _ (h.free hf hm).symm]
      exact h.stored j r' hm
    · exact ⟨Table.find_put_self .., free₀⟩
  · intro k r' hk hk₀
    rw [Table.find_put] at hk
    split at hk
    · cases hk
      exact ⟨i, (mem i r).mpr (.inr ⟨rfl, rfl⟩)⟩
    · obtain ⟨j, hm⟩ := h.owner k r' hk hk₀
      exact ⟨j, (mem j r').mpr (.inl hm)⟩
  · intro j
    by_cases hj : j = i
    · subst hj
      rw [Function.update_self, List.map_append, List.nodup_append]
      refine ⟨h.once j, List.nodup_singleton _, ?_⟩
      intro k hk k' hk' he
      obtain ⟨r', hm, rfl⟩ := List.mem_map.mp hk
      exact h.free hf hm (he.trans (List.mem_singleton.mp hk'))
    · rw [Function.update_of_ne hj]
      exact h.once j
  · intro j j' r' hm hm'
    rcases (mem j r').mp hm with hm | ⟨hj, hr⟩
    · rcases (mem j' r').mp hm' with hm' | ⟨hj', hr'⟩
      · exact h.unique j j' r' hm hm'
      · exact absurd (congrArg key hr') (h.free hf hm)
    · rcases (mem j' r').mp hm' with hm' | ⟨hj', hr'⟩
      · exact absurd (congrArg key hr) (h.free hf hm')
      · rw [hj, hj']

/-- A party removes a row that it owns. -/
theorem erase (h : Owners t₀ t own) {i : ι} (hr : r ∈ own i) :
    Owners t₀ (t.erase (key r))
      (Function.update own i ((own i).eraseP (key · = key r))) := by
  have mem : ∀ j r', r' ∈ Function.update own i ((own i).eraseP (key · = key r)) j ↔
      r' ∈ own j ∧ key r' ≠ key r := by
    intro j r'
    by_cases hj : j = i
    · subst hj
      rw [Function.update_self]
      exact mem_eraseP_key (h.once j)
    · rw [Function.update_of_ne hj, iff_self_and]
      intro hm he
      have same := (h.stored j r' hm).1
      rw [he, (h.stored i r hr).1] at same
      cases same
      exact hj (h.unique j i r hm hr)
  have find : ∀ k, k ≠ key r → (t.erase (key r)).find k = t.find k := by
    intro k hk
    rw [Table.find_erase, if_neg hk]
  refine ⟨?_, ?_, ?_, ?_, ?_⟩
  · intro k old h₀
    have hk : k ≠ key r := by
      rintro rfl
      rw [(h.stored i r hr).2] at h₀
      cases h₀
    rw [find k hk]
    exact h.initial k old h₀
  · intro j r' hm
    obtain ⟨hm, hk⟩ := (mem j r').mp hm
    rw [find _ hk]
    exact h.stored j r' hm
  · intro k r' hk hk₀
    have hne : k ≠ key r := by
      rintro rfl
      rw [Table.find_erase, if_pos rfl] at hk
      cases hk
    rw [find k hne] at hk
    obtain ⟨j, hm⟩ := h.owner k r' hk hk₀
    have key : key r' = k := (Table.find_eq_some_iff.mp hk).2
    exact ⟨j, (mem j r').mpr ⟨hm, by rwa [key]⟩⟩
  · intro j
    by_cases hj : j = i
    · subst hj
      rw [Function.update_self]
      exact (h.once j).sublist (List.eraseP_sublist.map key)
    · rw [Function.update_of_ne hj]
      exact h.once j
  · intro j j' r' hm hm'
    exact h.unique j j' r' ((mem j r').mp hm).1 ((mem j' r').mp hm').1

end Owners

end Ticketing.Store
