import Mathlib.Algebra.GroupWithZero.Nat
import Mathlib.Data.List.Nodup

/-!
# Tables with a primary key

Library `Store`. A table is a list of rows in insertion order that no two rows share the
key of. `put` replaces the row with the same key, or appends: this is what saving an
entity does to a stored table, whatever columns it changes.
-/

namespace Ticketing.Store

/-- Rows in insertion order with pairwise different keys. -/
structure Table {α κ : Type} (key : α → κ) where
  rows : List α
  nodup : (rows.map key).Nodup

namespace Table

variable {α κ : Type} {key : α → κ}

/-- Tables with the same rows are equal. -/
theorem ext {t u : Table key} (h : t.rows = u.rows) : t = u := by
  cases t
  cases u
  cases h
  rfl

/-- The table without rows. -/
def empty : Table key := ⟨[], List.nodup_nil⟩

variable [DecidableEq κ]

instance [DecidableEq α] : DecidableEq (Table key) := fun t u ↦
  decidable_of_iff (t.rows = u.rows) ⟨ext, congrArg rows⟩

/-- The row stored under a key. -/
def find (t : Table key) (k : κ) : Option α := t.rows.find? fun r ↦ key r = k

private def putRow (key : α → κ) (row : α) : List α → List α
  | [] => [row]
  | r :: rs => if key r = key row then row :: rs else r :: putRow key row rs

private theorem putRow_of_mem (row : α) (rs : List α) (h : key row ∈ rs.map key) :
    (putRow key row rs).map key = rs.map key := by
  induction rs with
  | nil => simp at h
  | cons r rs ih =>
    simp only [putRow]
    split
    · next he => simp [he]
    · next he =>
      rw [List.map_cons, ih, List.map_cons]
      rw [List.map_cons, List.mem_cons] at h
      exact h.resolve_left fun e ↦ he e.symm

private theorem putRow_of_notMem (row : α) (rs : List α) (h : key row ∉ rs.map key) :
    putRow key row rs = rs ++ [row] := by
  induction rs with
  | nil => rfl
  | cons r rs ih =>
    rw [List.map_cons, List.mem_cons, not_or] at h
    simp only [putRow, if_neg (Ne.symm h.1), ih h.2, List.cons_append]

/-- Save a row: replace the stored one, or append. -/
def put (t : Table key) (row : α) : Table key where
  rows := putRow key row t.rows
  nodup := by
    by_cases h : key row ∈ t.rows.map key
    · rw [putRow_of_mem row t.rows h]
      exact t.nodup
    · rw [putRow_of_notMem row t.rows h, List.map_append]
      refine List.nodup_append.mpr ⟨t.nodup, by simp, ?_⟩
      intro a ha b hb he
      rw [List.map_singleton, List.mem_singleton] at hb
      subst he hb
      exact h ha

/-- Save several rows, first to last. -/
def putAll (t : Table key) (rows : List α) : Table key := rows.foldl put t

/-- Delete the row stored under a key. -/
def erase (t : Table key) (k : κ) : Table key where
  rows := t.rows.filter fun r ↦ key r ≠ k
  nodup := t.nodup.sublist (List.filter_sublist.map key)

/-- Delete the rows that satisfy a condition. -/
def remove (t : Table key) (p : α → Bool) : Table key where
  rows := t.rows.filter fun r ↦ !p r
  nodup := t.nodup.sublist (List.filter_sublist.map key)

/-- A found row is stored under its key. -/
theorem find_eq_some_iff {t : Table key} {k : κ} {r : α} :
    t.find k = some r ↔ r ∈ t.rows ∧ key r = k := by
  unfold find
  constructor
  · intro h
    exact ⟨List.mem_of_find?_eq_some h, by simpa using List.find?_some h⟩
  · rintro ⟨hm, rfl⟩
    obtain ⟨rows, nodup⟩ := t
    dsimp only at hm ⊢
    induction rows with
    | nil => cases hm
    | cons a rs ih =>
      rw [List.map_cons, List.nodup_cons] at nodup
      rcases List.mem_cons.mp hm with rfl | hr
      · simp
      · have hne : key a ≠ key r := fun e ↦ nodup.1 (e ▸ List.mem_map_of_mem hr)
        rw [List.find?_cons_of_neg (by simpa using hne)]
        exact ih nodup.2 hr

/-- A stored row is found under its key. -/
theorem find_of_mem {t : Table key} {r : α} (h : r ∈ t.rows) : t.find (key r) = some r :=
  find_eq_some_iff.mpr ⟨h, rfl⟩

/-- The empty table finds nothing. -/
@[simp] theorem find_empty (k : κ) : (empty : Table key).find k = none := rfl

private theorem find_putRow (row : α) (k : κ) (rs : List α) :
    (putRow key row rs).find? (fun r ↦ key r = k) =
      if key row = k then some row else rs.find? fun r ↦ key r = k := by
  induction rs with
  | nil =>
    by_cases h : key row = k
    · simp [putRow, h]
    · simp [putRow, h]
  | cons r rs ih =>
    simp only [putRow]
    split
    · next he =>
      by_cases h : key row = k
      · simp [h]
      · simp [h, he]
    · next he =>
      by_cases h : key row = k
      · have hr : key r ≠ k := fun e ↦ he (e.trans h.symm)
        rw [List.find?_cons_of_neg (by simpa using hr), ih]
        simp [h]
      · by_cases hr : key r = k
        · simp [hr, h]
        · rw [List.find?_cons_of_neg (by simpa using hr), ih, if_neg h, if_neg h,
            List.find?_cons_of_neg (by simpa using hr)]

/-- After a save the key finds the saved row; other keys find what they found. -/
theorem find_put (t : Table key) (row : α) (k : κ) :
    (t.put row).find k = if key row = k then some row else t.find k :=
  find_putRow row k t.rows

/-- The saved row is found under its key. -/
@[simp] theorem find_put_self (t : Table key) (row : α) :
    (t.put row).find (key row) = some row := by
  rw [find_put, if_pos rfl]

/-- Other keys find what they found. -/
theorem find_put_of_ne (t : Table key) {row : α} {k : κ} (h : key row ≠ k) :
    (t.put row).find k = t.find k := by
  rw [find_put, if_neg h]

/-- The rows after a save: the saved one and those under other keys. -/
theorem mem_put {t : Table key} {row r : α} :
    r ∈ (t.put row).rows ↔ r = row ∨ (r ∈ t.rows ∧ key r ≠ key row) := by
  have hf : r ∈ (t.put row).rows ↔ (t.put row).find (key r) = some r := by
    rw [find_eq_some_iff]
    exact ⟨fun h ↦ ⟨h, rfl⟩, And.left⟩
  rw [hf, find_put]
  by_cases h : key row = key r
  · rw [if_pos h]
    constructor
    · intro he
      exact .inl (Option.some.inj he).symm
    · rintro (rfl | ⟨-, hne⟩)
      · rfl
      · exact absurd h.symm hne
  · rw [if_neg h, find_eq_some_iff]
    constructor
    · intro hm
      exact .inr ⟨hm.1, Ne.symm h⟩
    · rintro (rfl | ⟨hm, -⟩)
      · exact absurd rfl h
      · exact ⟨hm, rfl⟩

/-- Saving an unknown key appends. -/
theorem rows_put_of_none {t : Table key} {row : α} (h : t.find (key row) = none) :
    (t.put row).rows = t.rows ++ [row] := by
  apply putRow_of_notMem
  intro hm
  obtain ⟨r, hr, he⟩ := List.mem_map.mp hm
  rw [← he, find_of_mem hr] at h
  cases h

/-- A deleted key finds nothing; other keys find what they found. -/
theorem find_erase (t : Table key) (k k' : κ) :
    (t.erase k).find k' = if k' = k then none else t.find k' := by
  ext r
  rw [find_eq_some_iff]
  unfold erase
  simp only [List.mem_filter, decide_eq_true_eq]
  by_cases h : k' = k
  · rw [if_pos h]
    constructor
    · rintro ⟨⟨-, hne⟩, hk⟩
      exact absurd (hk.trans h) hne
    · intro hr
      cases hr
  · rw [if_neg h, find_eq_some_iff]
    constructor
    · exact fun hr ↦ ⟨hr.1.1, hr.2⟩
    · exact fun hr ↦ ⟨⟨hr.1, fun hk ↦ h (hr.2.symm.trans hk)⟩, hr.2⟩

/-- Deleted rows are not found; other keys find what they found. -/
theorem find_remove (t : Table key) (p : α → Bool) (k : κ) :
    (t.remove p).find k = (t.find k).filter fun r ↦ !p r := by
  ext r
  rw [find_eq_some_iff, Option.filter_eq_some_iff, find_eq_some_iff]
  unfold remove
  rw [List.mem_filter]
  tauto

/-- A row that is not deleted is found as before. -/
theorem find_remove_of_kept {t : Table key} {p : α → Bool} {k : κ}
    (h : ∀ r, t.find k = some r → p r = false) : (t.remove p).find k = t.find k := by
  rw [find_remove]
  cases hf : t.find k with
  | none => rfl
  | some r => simp [h r hf]

/-- A row that is deleted is not found. -/
theorem find_remove_of_deleted {t : Table key} {p : α → Bool} {k : κ}
    (h : ∀ r, t.find k = some r → p r = true) : (t.remove p).find k = none := by
  rw [find_remove]
  cases hf : t.find k with
  | none => rfl
  | some r => simp [h r hf]

/-- Saving rows under other keys leaves what a key finds. -/
theorem find_putAll_of_ne (t : Table key) {rows : List α} {k : κ}
    (h : ∀ row ∈ rows, key row ≠ k) : (t.putAll rows).find k = t.find k := by
  induction rows generalizing t with
  | nil => rfl
  | cons row rows ih =>
    have rest := ih (t.put row) fun r hr ↦ h r (List.mem_cons_of_mem _ hr)
    rw [find_put_of_ne _ (h row List.mem_cons_self)] at rest
    exact rest

/-- After saving rows a key finds one of them that has it, or what it found before if none has. -/
theorem find_putAll_cases (t : Table key) (rows : List α) (k : κ) :
    (∃ row ∈ rows, key row = k ∧ (t.putAll rows).find k = some row) ∨
      ((∀ row ∈ rows, key row ≠ k) ∧ (t.putAll rows).find k = t.find k) := by
  induction rows generalizing t with
  | nil => exact .inr ⟨nofun, rfl⟩
  | cons row rows ih =>
    rcases ih (t.put row) with ⟨r, hr, hk, hf⟩ | ⟨hn, hf⟩
    · exact .inl ⟨r, List.mem_cons_of_mem _ hr, hk, hf⟩
    · rw [find_put] at hf
      by_cases hk : key row = k
      · rw [if_pos hk] at hf
        exact .inl ⟨row, List.mem_cons_self, hk, hf⟩
      · rw [if_neg hk] at hf
        exact .inr ⟨List.forall_mem_cons.mpr ⟨hk, hn⟩, hf⟩

/-- When all rows saved under a key are the same, the key finds it. -/
theorem find_putAll_of_mem (t : Table key) {rows : List α} {row : α} (hm : row ∈ rows)
    (hu : ∀ r ∈ rows, key r = key row → r = row) : (t.putAll rows).find (key row) = some row := by
  induction rows generalizing t with
  | nil => cases hm
  | cons r rows ih =>
    show ((t.put r).putAll rows).find (key row) = some row
    by_cases hl : row ∈ rows
    · exact ih _ hl fun r' hr' ↦ hu r' (List.mem_cons_of_mem _ hr')
    · have he : row = r := (List.mem_cons.mp hm).resolve_right hl
      have others : ∀ r' ∈ rows, key r' ≠ key row := by
        intro r' hr' hk
        exact hl (hu r' (List.mem_cons_of_mem _ hr') hk ▸ hr')
      rw [find_putAll_of_ne _ others, he, find_put_self]

/-- After saving rows a stored one is one of them, or it was stored before and none has its key. -/
theorem mem_putAll_cases {t : Table key} {rows : List α} {r : α}
    (h : r ∈ (t.putAll rows).rows) :
    r ∈ rows ∨ (r ∈ t.rows ∧ ∀ row ∈ rows, key row ≠ key r) := by
  induction rows generalizing t with
  | nil => exact .inr ⟨h, fun _ hm ↦ by cases hm⟩
  | cons row rows ih =>
    rcases ih h with hr | ⟨hr, hne⟩
    · exact .inl (List.mem_cons_of_mem _ hr)
    · rcases mem_put.mp hr with rfl | ⟨hr, hk⟩
      · exact .inl List.mem_cons_self
      · right
        refine ⟨hr, ?_⟩
        intro row' hm
        rcases List.mem_cons.mp hm with rfl | hm
        · exact Ne.symm hk
        · exact hne row' hm

/-- After saving rows a stored one is one of them, or was stored before. -/
theorem mem_of_mem_putAll {t : Table key} {rows : List α} {r : α}
    (h : r ∈ (t.putAll rows).rows) : r ∈ rows ∨ r ∈ t.rows :=
  (mem_putAll_cases h).imp_right And.left

/-- Keys that are stored stay stored. -/
theorem key_mem_putAll {t : Table key} {rows : List α} {r : α} (h : r ∈ t.rows) :
    ∃ r' ∈ (t.putAll rows).rows, key r' = key r := by
  induction rows generalizing t r with
  | nil => exact ⟨r, h, rfl⟩
  | cons row rows ih =>
    by_cases hk : key r = key row
    · rw [hk]
      exact ih (mem_put.mpr (.inl rfl))
    · exact ih (mem_put.mpr (.inr ⟨h, hk⟩))

/-- After saving rows with different keys, the saved one is found under its key. -/
theorem find_putAll (t : Table key) (rows : List α) (h : (rows.map key).Nodup) (k : κ) :
    (t.putAll rows).find k = (rows.find? fun r ↦ key r = k).or (t.find k) := by
  induction rows generalizing t with
  | nil => rfl
  | cons r rs ih =>
    rw [List.map_cons, List.nodup_cons] at h
    show ((t.put r).putAll rs).find k = _
    rw [ih _ h.2, find_put]
    by_cases hk : key r = k
    · have hn : rs.find? (fun r ↦ key r = k) = none := by
        rw [List.find?_eq_none]
        intro r' hr' he
        exact h.1 (hk ▸ of_decide_eq_true he ▸ List.mem_map_of_mem hr')
      simp [hk, hn]
    · simp [hk]

/-- Saving a change of every row changes what every key finds. -/
theorem find_putAll_map (t : Table key) (g : α → α) (hg : ∀ r, key (g r) = key r) (k : κ) :
    (t.putAll (t.rows.map g)).find k = (t.find k).map g := by
  have keys : (t.rows.map g).map key = t.rows.map key := by
    rw [List.map_map]
    exact List.map_congr_left fun r _ ↦ hg r
  rw [find_putAll _ _ (keys ▸ t.nodup), List.find?_map]
  have same : ((fun r ↦ decide (key r = k)) ∘ g) = fun r ↦ decide (key r = k) := by
    funext r
    simp [hg]
  rw [same]
  show ((t.find k).map g).or (t.find k) = (t.find k).map g
  cases t.find k <;> rfl

/-- Saving new rows with different keys appends them. -/
theorem rows_putAll_of_fresh {t : Table key} {rows : List α} (h : (rows.map key).Nodup)
    (hf : ∀ row ∈ rows, t.find (key row) = none) : (t.putAll rows).rows = t.rows ++ rows := by
  induction rows generalizing t with
  | nil => simp [putAll]
  | cons row rows ih =>
    rw [List.map_cons, List.nodup_cons] at h
    have put := rows_put_of_none (hf row List.mem_cons_self)
    have fresh : ∀ row' ∈ rows, (t.put row).find (key row') = none := by
      intro row' hm
      have hne : key row ≠ key row' := fun e ↦ h.1 (e ▸ List.mem_map_of_mem hm)
      rw [find_put_of_ne _ hne]
      exact hf row' (List.mem_cons_of_mem _ hm)
    have rest := ih h.2 fresh
    show ((t.put row).putAll rows).rows = _
    rw [rest, put, List.append_assoc, List.singleton_append]

private theorem putRow_append (row old : α) (before after : List α) (hk : key old = key row)
    (h : key row ∉ before.map key) :
    putRow key row (before ++ old :: after) = before ++ row :: after := by
  induction before with
  | nil => simp [putRow, hk]
  | cons r before ih =>
    rw [List.map_cons, List.mem_cons, not_or] at h
    simp only [List.cons_append, putRow, if_neg (Ne.symm h.1), ih h.2]

private theorem rows_putAll_suffix (g : α → α) (hg : ∀ r, key (g r) = key r)
    (before after : List α) (t : Table key) (ht : t.rows = before.map g ++ after) :
    (t.putAll (after.map g)).rows = (before ++ after).map g := by
  induction after generalizing before t with
  | nil => simpa [putAll] using ht
  | cons r after ih =>
    have nodup := t.nodup
    rw [ht, List.map_append, List.nodup_append] at nodup
    have notMem : key (g r) ∉ (before.map g).map key := by
      intro hm
      exact nodup.2.2 _ hm (key r) (by simp) (hg r)
    have put : (t.put (g r)).rows = (before ++ [r]).map g ++ after := by
      show putRow key (g r) t.rows = _
      rw [ht, putRow_append (g r) r _ _ (hg r).symm notMem]
      simp
    have rest := ih (before ++ [r]) (t.put (g r)) put
    rw [List.append_assoc, List.singleton_append] at rest
    exact rest

/-- Saving a change of every row changes every row. -/
theorem rows_putAll_map (t : Table key) (g : α → α) (hg : ∀ r, key (g r) = key r) :
    (t.putAll (t.rows.map g)).rows = t.rows.map g :=
  rows_putAll_suffix g hg [] t.rows t rfl

private theorem putRow_eq_map {row : α} {rs : List α} (hn : (rs.map key).Nodup)
    (h : key row ∈ rs.map key) :
    putRow key row rs = rs.map fun r ↦ if key r = key row then row else r := by
  induction rs with
  | nil => cases h
  | cons r rs ih =>
    rw [List.map_cons, List.nodup_cons] at hn
    by_cases hk : key r = key row
    · have rest : rs.map (fun r ↦ if key r = key row then row else r) = rs := by
        refine (List.map_congr_left ?_).trans (List.map_id rs)
        intro r' hr'
        have hne : key r' ≠ key row := fun e ↦ hn.1 (hk ▸ e ▸ List.mem_map_of_mem hr')
        exact if_neg hne
      rw [putRow, if_pos hk, List.map_cons, if_pos hk, rest]
    · rw [List.map_cons, List.mem_cons] at h
      rw [putRow, if_neg hk, List.map_cons, if_neg hk, ih hn.2 (h.resolve_left (Ne.symm hk))]

/-- Saving a stored key replaces its row. -/
theorem rows_put_of_some {t : Table key} {row : α} (h : (t.find (key row)).isSome) :
    (t.put row).rows = t.rows.map fun r ↦ if key r = key row then row else r := by
  obtain ⟨old, ho⟩ := Option.isSome_iff_exists.mp h
  obtain ⟨hm, hk⟩ := find_eq_some_iff.mp ho
  exact putRow_eq_map t.nodup (hk ▸ List.mem_map_of_mem hm)

/-- Saving rows with different keys that are stored replaces their rows. -/
theorem rows_putAll_of_stored {t : Table key} {rows : List α} (hn : (rows.map key).Nodup)
    (h : ∀ row ∈ rows, (t.find (key row)).isSome) :
    (t.putAll rows).rows =
      t.rows.map fun r ↦ (rows.find? fun row ↦ key row = key r).getD r := by
  induction rows generalizing t with
  | nil => simp [putAll]
  | cons row rows ih =>
    rw [List.map_cons, List.nodup_cons] at hn
    have stored : ∀ row' ∈ rows, ((t.put row).find (key row')).isSome := by
      intro row' hm
      rw [find_put]
      split
      · rfl
      · exact h row' (List.mem_cons_of_mem _ hm)
    show ((t.put row).putAll rows).rows = _
    rw [ih hn.2 stored, rows_put_of_some (h row List.mem_cons_self), List.map_map]
    apply List.map_congr_left
    intro r _
    show (rows.find? fun row' ↦ key row' = key (if key r = key row then row else r)).getD
      (if key r = key row then row else r) = _
    by_cases hk : key r = key row
    · have absent : rows.find? (fun row' ↦ key row' = key row) = none := by
        rw [List.find?_eq_none]
        intro row' hm he
        exact hn.1 (of_decide_eq_true he ▸ List.mem_map_of_mem hm)
      rw [if_pos hk, absent, List.find?_cons_of_pos (by simp [hk])]
      rfl
    · rw [if_neg hk, List.find?_cons_of_neg (by simp [Ne.symm hk])]

/-- Saving changed rows of the table changes exactly these rows. -/
theorem rows_putAll_sublist (t : Table key) {g : α → α} (hg : ∀ r, key (g r) = key r)
    {rows : List α} (h : rows.Sublist (t.rows.map g)) :
    (t.putAll rows).rows = t.rows.map fun r ↦ if key r ∈ rows.map key then g r else r := by
  have keys : (t.rows.map g).map key = t.rows.map key := by
    rw [List.map_map]
    exact List.map_congr_left fun r _ ↦ hg r
  have nodup : (rows.map key).Nodup := by
    have sub := h.map key
    rw [keys] at sub
    exact t.nodup.sublist sub
  have stored : ∀ row ∈ rows, (t.find (key row)).isSome := by
    intro row hrow
    obtain ⟨r, hr, rfl⟩ := List.mem_map.mp (h.subset hrow)
    rw [hg, find_of_mem hr]
    rfl
  rw [rows_putAll_of_stored nodup stored]
  apply List.map_congr_left
  intro r hr
  cases found : rows.find? fun row ↦ key row = key r with
  | none =>
    have absent : key r ∉ rows.map key := by
      intro hk
      obtain ⟨row, hrow, same⟩ := List.mem_map.mp hk
      exact List.find?_eq_none.mp found row hrow (decide_eq_true same)
    rw [if_neg absent]
    rfl
  | some row =>
    have hrow : row ∈ rows := List.mem_of_find?_eq_some found
    have same : key row = key r := by simpa using List.find?_some found
    rw [if_pos (same ▸ List.mem_map_of_mem hrow)]
    obtain ⟨r', hr', rfl⟩ := List.mem_map.mp (h.subset hrow)
    rw [hg] at same
    have one := find_of_mem hr'
    rw [same, find_of_mem hr] at one
    rw [Option.some.inj one]
    rfl

/-- Saving changed rows that were selected changes exactly these rows. -/
theorem rows_putAll_filter (t : Table key) (p : α → Bool) (g : α → α)
    (hg : ∀ r, key (g r) = key r) :
    (t.putAll ((t.rows.filter p).map g)).rows = t.rows.map fun r ↦ if p r then g r else r := by
  rw [rows_putAll_sublist t hg (List.filter_sublist.map g)]
  apply List.map_congr_left
  intro r hr
  have keys : ((t.rows.filter p).map g).map key = (t.rows.filter p).map key := by
    rw [List.map_map]
    exact List.map_congr_left fun r _ ↦ hg r
  have selected : key r ∈ (t.rows.filter p).map key ↔ p r = true := by
    constructor
    · intro hk
      obtain ⟨r', hr', same⟩ := List.mem_map.mp hk
      obtain ⟨hm, hp⟩ := List.mem_filter.mp hr'
      have one := find_of_mem hm
      rw [same, find_of_mem hr] at one
      exact Option.some.inj one ▸ hp
    · exact fun hp ↦ List.mem_map_of_mem (List.mem_filter.mpr ⟨hr, hp⟩)
  simp only [keys, selected]

private theorem countP_putRow (p : α → Bool) (row old : α) (rs : List α)
    (h : rs.find? (fun r ↦ key r = key row) = some old) :
    (putRow key row rs).countP p + (if p old then 1 else 0) =
      rs.countP p + (if p row then 1 else 0) := by
  induction rs with
  | nil => cases h
  | cons r rs ih =>
    simp only [putRow]
    split
    · next he =>
      rw [List.find?_cons_of_pos (by simpa using he)] at h
      cases h
      simp only [List.countP_cons]
      omega
    · next he =>
      rw [List.find?_cons_of_neg (by simpa using he)] at h
      simp only [List.countP_cons]
      have := ih h
      omega

/-- Replacing a row changes a count by what the two rows contribute. -/
theorem countP_put (p : α → Bool) {t : Table key} {row old : α}
    (h : t.find (key row) = some old) :
    (t.put row).rows.countP p + (if p old then 1 else 0) =
      t.rows.countP p + (if p row then 1 else 0) :=
  countP_putRow p row old t.rows h

private theorem sum_putRow (f : α → Nat) (row old : α) (rs : List α)
    (h : rs.find? (fun r ↦ key r = key row) = some old) :
    ((putRow key row rs).map f).sum + f old = (rs.map f).sum + f row := by
  induction rs with
  | nil => cases h
  | cons r rs ih =>
    simp only [putRow]
    split
    · next he =>
      rw [List.find?_cons_of_pos (by simpa using he)] at h
      cases h
      simp only [List.map_cons, List.sum_cons]
      omega
    · next he =>
      rw [List.find?_cons_of_neg (by simpa using he)] at h
      simp only [List.map_cons, List.sum_cons]
      have := ih h
      omega

/-- Replacing a row changes a sum by what the two rows contribute. -/
theorem sum_put (f : α → Nat) {t : Table key} {row old : α} (h : t.find (key row) = some old) :
    ((t.put row).rows.map f).sum + f old = (t.rows.map f).sum + f row :=
  sum_putRow f row old t.rows h

private theorem putRow_putRow {a b : α} (h : key a = key b) (rs : List α) :
    putRow key b (putRow key a rs) = putRow key b rs := by
  induction rs with
  | nil => simp [putRow, h]
  | cons r rs ih =>
    by_cases hr : key r = key b
    · simp [putRow, hr, h]
    · simp [putRow, hr, h, ih]

/-- Of two saves under one key the second stays. -/
theorem put_put (t : Table key) {a b : α} (h : key a = key b) : (t.put a).put b = t.put b :=
  ext (putRow_putRow h t.rows)

/-- Saving a stored row as it is changes nothing. -/
theorem put_of_find {t : Table key} {row : α} (h : t.find (key row) = some row) :
    t.put row = t := by
  apply ext
  rw [rows_put_of_some (by rw [h]; rfl)]
  conv_rhs => rw [← List.map_id t.rows]
  apply List.map_congr_left
  intro r hr
  split
  · next hk =>
    have found := find_of_mem hr
    rw [hk, h] at found
    exact Option.some.inj found
  · rfl

/-- The rows that differ from what is stored under their keys. -/
def changed [DecidableEq α] (t : Table key) (rows : List α) : List α :=
  rows.filter fun row ↦ t.find (key row) ≠ some row

/-- Whether a row has changed is a matter of what its key finds. -/
theorem changed_congr [DecidableEq α] {t u : Table key} {rows : List α}
    (h : ∀ row ∈ rows, t.find (key row) = u.find (key row)) : t.changed rows = u.changed rows :=
  List.filter_congr fun row hr ↦ by rw [h row hr]

/-- Of changed rows that were selected, those that the change makes differ. -/
theorem changed_filter [DecidableEq α] (t : Table key) (p : α → Bool) (g : α → α)
    (hg : ∀ r, key (g r) = key r) :
    t.changed ((t.rows.filter p).map g) = (t.rows.filter fun r ↦ p r && r ≠ g r).map g := by
  unfold changed
  rw [List.filter_map, List.filter_filter]
  congr 1
  apply List.filter_congr
  intro r hr
  have found : t.find (key (g r)) = some r := (congrArg t.find (hg r)).trans (find_of_mem hr)
  simp [found, Bool.and_comm]

/-- A row that has not changed is stored. -/
theorem find_of_not_changed [DecidableEq α] {t : Table key} {rows : List α} {k : κ}
    (hm : k ∈ rows.map key) (hn : k ∉ (t.changed rows).map key) :
    ∃ row ∈ rows, key row = k ∧ t.find k = some row := by
  obtain ⟨row, hr, rfl⟩ := List.mem_map.mp hm
  refine ⟨row, hr, rfl, ?_⟩
  by_contra differs
  exact hn (List.mem_map_of_mem (List.mem_filter.mpr ⟨hr, decide_eq_true differs⟩))

/-- Saving the changed rows saves all of them. -/
theorem putAll_changed [DecidableEq α] (t : Table key) {rows : List α}
    (h : (rows.map key).Nodup) : t.putAll (t.changed rows) = t.putAll rows := by
  induction rows generalizing t with
  | nil => rfl
  | cons row rows ih =>
    rw [List.map_cons, List.nodup_cons] at h
    have rest : (t.put row).changed rows = t.changed rows := by
      apply changed_congr
      intro r hr
      exact find_put_of_ne _ fun hk ↦ h.1 (hk ▸ List.mem_map_of_mem hr)
    by_cases hf : t.find (key row) = some row
    · have skip : t.changed (row :: rows) = t.changed rows :=
        List.filter_cons_of_neg (by simpa using hf)
      rw [skip, ih t h.2]
      exact congrArg (putAll · rows) (put_of_find hf).symm
    · have keep : t.changed (row :: rows) = row :: t.changed rows :=
        List.filter_cons_of_pos (by simpa using hf)
      rw [keep]
      show (t.put row).putAll (t.changed rows) = (t.put row).putAll rows
      rw [← rest]
      exact ih _ h.2

private theorem putRow_append_of_mem {row : α} {rs : List α} (h : key row ∈ rs.map key)
    (added : List α) : putRow key row (rs ++ added) = putRow key row rs ++ added := by
  induction rs with
  | nil => cases h
  | cons r rs ih =>
    by_cases hr : key r = key row
    · simp [putRow, hr]
    · rw [List.map_cons, List.mem_cons] at h
      simp [putRow, hr, ih (h.resolve_left (Ne.symm hr))]

/-- A stored row is replaced where it stands, whatever has been appended. -/
theorem rows_put_of_append {t u : Table key} {added : List α} (h : u.rows = t.rows ++ added)
    {row : α} (hm : ∃ r ∈ t.rows, key r = key row) :
    (u.put row).rows = (t.put row).rows ++ added := by
  obtain ⟨r, hr, hk⟩ := hm
  show putRow key row u.rows = putRow key row t.rows ++ added
  rw [h]
  exact putRow_append_of_mem (hk ▸ List.mem_map_of_mem hr) added

/-- Replacing a stored row keeps the number of rows. -/
theorem length_put {t : Table key} {row : α} (hm : ∃ r ∈ t.rows, key r = key row) :
    (t.put row).rows.length = t.rows.length := by
  obtain ⟨r, hr, hk⟩ := hm
  rw [rows_put_of_some (hk ▸ find_of_mem hr ▸ rfl), List.length_map]

end Table

end Ticketing.Store
