import Mathlib.Data.List.Perm.Subperm
import Ticketing.Store.Table

/-!
# Receipts

Library `Store`. Rows that record what an outside party accepted. Every receipt belongs to one
row, and a row has at most one; a row may claim that it has a receipt, or deny it. A thread that
inserted a row holds it: only this thread saves it and asks the outside party for its receipt.
-/

namespace Ticketing.Store

/-- What a row says of what was accepted: what it stands for, whether it claims a receipt, and
whether it denies one. -/
structure Account (α ε : Type) where
  effect : α → ε
  claims : α → Bool
  denies : α → Bool

variable {α κ ε : Type} {key : α → κ} [DecidableEq κ] (A : Account α ε)

/-- The keys under which something was accepted, newest first, with what was accepted. -/
structure Receipts (t : Table key) (posted : List (κ × ε)) : Prop where
  /-- A row has one receipt. -/
  once : (posted.map Prod.fst).Nodup
  /-- A receipt is for what its row stands for, and the row does not deny it. -/
  backed : ∀ k e, (k, e) ∈ posted →
    ∃ r, t.find k = some r ∧ A.effect r = e ∧ A.denies r = false
  /-- A row that claims a receipt has one. -/
  claimed : ∀ k r, t.find k = some r → A.claims r = true → k ∈ posted.map Prod.fst

namespace Receipts

variable {A} {t : Table key} {posted : List (κ × ε)} {r : α}

/-- The empty table satisfies the receipts of no postings. -/
theorem empty : Receipts A (Table.empty : Table key) [] where
  once := List.nodup_nil
  backed _ _ h := by cases h
  claimed k r h := by
    rw [Table.find_empty] at h
    cases h

/-- Inserting a row that claims nothing keeps the receipts. -/
theorem insert (h : Receipts A t posted) (hf : t.find (key r) = none)
    (hr : A.claims r = false) : Receipts A (t.put r) posted where
  once := h.once
  backed k e hm := by
    obtain ⟨old, hold, he⟩ := h.backed k e hm
    have other : key r ≠ k := by
      rintro rfl
      rw [hf] at hold
      cases hold
    exact ⟨old, by rw [Table.find_put_of_ne t other, hold], he⟩
  claimed k q hq hc := by
    rw [Table.find_put] at hq
    split at hq
    · cases hq
      rw [hr] at hc
      cases hc
    · exact h.claimed k q hq hc

/-- A row that is saved stands for the same, and claims and denies what is true. -/
theorem save (h : Receipts A t posted) {old : α} (hf : t.find (key r) = some old)
    (effect : A.effect r = A.effect old) (claims : A.claims r = true → key r ∈ posted.map Prod.fst)
    (denies : A.denies r = true → key r ∉ posted.map Prod.fst) :
    Receipts A (t.put r) posted where
  once := h.once
  backed k e hm := by
    obtain ⟨q, hq, he, hd⟩ := h.backed k e hm
    by_cases hk : key r = k
    · subst hk
      rw [hf] at hq
      cases hq
      refine ⟨r, Table.find_put_self t r, effect.trans he, ?_⟩
      rw [Bool.eq_false_iff]
      exact fun hr ↦ denies hr (List.mem_map_of_mem hm)
    · exact ⟨q, by rw [Table.find_put_of_ne t hk, hq], he, hd⟩
  claimed k q hq hc := by
    rw [Table.find_put] at hq
    split at hq
    · next hk =>
      cases hq
      exact hk ▸ claims hc
    · exact h.claimed k q hq hc

/-- What a row stands for is accepted. -/
theorem post (h : Receipts A t posted) {k : κ} (hf : t.find k = some r)
    (absent : k ∉ posted.map Prod.fst) (denies : A.denies r = false) :
    Receipts A t ((k, A.effect r) :: posted) where
  once := List.nodup_cons.mpr ⟨absent, h.once⟩
  backed j e hm := by
    rcases List.mem_cons.mp hm with heq | hm
    · cases heq
      exact ⟨r, hf, rfl, denies⟩
    · exact h.backed j e hm
  claimed j q hq hc := List.mem_cons_of_mem _ (h.claimed j q hq hc)

/-- A row may deny its receipt when it has none. -/
theorem recount (h : Receipts A t posted) {A' : Account α ε} (effect : A'.effect = A.effect)
    (claims : A'.claims = A.claims)
    (denies : ∀ r ∈ t.rows, A'.denies r = true → key r ∉ posted.map Prod.fst) :
    Receipts A' t posted where
  once := h.once
  backed k e hm := by
    obtain ⟨r, hr, he, -⟩ := h.backed k e hm
    obtain ⟨stored, rfl⟩ := Table.find_eq_some_iff.mp hr
    refine ⟨r, hr, by rw [effect, he], ?_⟩
    rw [Bool.eq_false_iff]
    exact fun hd ↦ denies r stored hd (List.mem_map_of_mem hm)
  claimed k r hr hc := h.claimed k r hr (claims ▸ hc)

/-! ### The rows and the receipts -/

/-- What a part of some rows stands for is part of what they stand for. -/
theorem subperm_map {β γ : Type} {rows rows' : List β} (f : β → γ)
    (h : List.Subperm rows rows') : List.Subperm (rows.map f) (rows'.map f) := by
  obtain ⟨part, perm, sublist⟩ := h
  exact ⟨part.map f, perm.map f, sublist.map f⟩

/-- Different rows that each have a row of their own elsewhere, which stands for the same. -/
theorem subperm_of_own {β γ δ : Type} {rows : List β} {others : List γ} (R : β → γ → Prop)
    {f : β → δ} {g : γ → δ} (nodup : rows.Nodup) (own : ∀ x ∈ rows, ∃ y ∈ others, R x y)
    (apart : ∀ x x' y, x ∈ rows → x' ∈ rows → R x y → R x' y → x = x')
    (same : ∀ x y, R x y → f x = g y) : List.Subperm (rows.map f) (others.map g) := by
  choose other stored matched using own
  have mapped : rows.map f = (rows.attach.map fun x ↦ other x.1 x.2).map g := by
    rw [List.map_map, ← List.attach_map_val]
    exact List.map_congr_left fun x _ ↦ same _ _ (matched x.1 x.2)
  rw [mapped]
  apply subperm_map
  apply List.Nodup.subperm
  · apply List.Nodup.map_on _ (List.nodup_attach.mpr nodup)
    intro x _ y _ heq
    have hy := matched y.1 y.2
    rw [← heq] at hy
    exact Subtype.ext (apart _ _ _ x.2 y.2 (matched x.1 x.2) hy)
  · intro y hy
    obtain ⟨x, -, rfl⟩ := List.mem_map.mp hy
    exact stored x.1 x.2

/-- The rows of the receipts. -/
def receivedRows (t : Table key) (posted : List (κ × ε)) : List α :=
  posted.filterMap fun p ↦ t.find p.1

private theorem nodup_receivedRows (t : Table key) (posted : List (κ × ε))
    (h : (posted.map Prod.fst).Nodup) : (receivedRows t posted).Nodup := by
  have keys : (posted.filterMap fun p ↦ t.find p.1) = (posted.map Prod.fst).filterMap t.find := by
    rw [List.filterMap_map]
    rfl
  rw [receivedRows, keys]
  apply h.filterMap
  intro k k' q hk hk'
  exact (Table.find_eq_some_iff.mp hk).2.symm.trans (Table.find_eq_some_iff.mp hk').2

private theorem effects_receivedRows (h : Receipts A t posted) :
    (receivedRows t posted).map A.effect = posted.map Prod.snd := by
  have each : ∀ l : List (κ × ε), (∀ p ∈ l, p ∈ posted) →
      (receivedRows t l).map A.effect = l.map Prod.snd := by
    intro l hl
    induction l with
    | nil => rfl
    | cons p rest ih =>
      obtain ⟨q, hq, he, -⟩ := h.backed p.1 p.2 (hl p List.mem_cons_self)
      have step : receivedRows t (p :: rest) = q :: receivedRows t rest :=
        List.filterMap_cons_some hq
      rw [step, List.map_cons, List.map_cons, he,
        ih fun p' hp' ↦ hl p' (List.mem_cons_of_mem _ hp')]
  exact each posted fun _ hp ↦ hp

/-- What the rows claim was accepted. -/
theorem claimed_subperm (h : Receipts A t posted) :
    List.Subperm ((t.rows.filter A.claims).map A.effect) (posted.map Prod.snd) := by
  rw [← effects_receivedRows h]
  apply subperm_map
  have distinct : (t.rows.filter A.claims).Nodup := (List.Nodup.of_map key t.nodup).filter _
  apply distinct.subperm
  intro q hq
  obtain ⟨hm, hc⟩ := List.mem_filter.mp hq
  have found := Table.find_of_mem hm
  obtain ⟨p, hp, hk⟩ := List.mem_map.mp (h.claimed _ q found hc)
  exact List.mem_filterMap.mpr ⟨p, hp, by rw [hk, found]⟩

/-- What was accepted belongs to rows that do not deny it. -/
theorem posted_subperm (h : Receipts A t posted) :
    List.Subperm (posted.map Prod.snd) ((t.rows.filter fun r ↦ !A.denies r).map A.effect) := by
  rw [← effects_receivedRows h]
  apply subperm_map
  apply (nodup_receivedRows t posted h.once).subperm
  intro q hq
  obtain ⟨p, hp, hk⟩ := List.mem_filterMap.mp hq
  obtain ⟨q', hq', -, hd⟩ := h.backed p.1 p.2 hp
  rw [hk] at hq'
  cases hq'
  exact List.mem_filter.mpr ⟨(Table.find_eq_some_iff.mp hk).1, by rw [hd]; rfl⟩

/-- If every row claims a receipt or denies it, the claims are exactly what was accepted. -/
theorem claimed_perm (h : Receipts A t posted)
    (settled : ∀ r ∈ t.rows, A.claims r = !A.denies r) :
    List.Perm ((t.rows.filter A.claims).map A.effect) (posted.map Prod.snd) := by
  apply h.claimed_subperm.antisymm
  rw [List.filter_congr settled]
  exact h.posted_subperm

end Receipts

/-! ### Rows that are held -/

/-- What each thread holds: the row as it is stored, and whether its receipt was given. -/
abbrev Holders (α : Type) : Type := Nat → Option (α × Bool)

/-- The receipts, and the rows that are held. -/
structure Held (t : Table key) (posted : List (κ × ε)) (held : Holders α) : Prop where
  receipts : Receipts A t posted
  /-- A row that is held is stored as its holder knows it. -/
  stored : ∀ u r b, held u = some (r, b) → t.find (key r) = some r
  /-- The holder knows of the receipt. -/
  given : ∀ u r b, held u = some (r, b) → (b = true ↔ key r ∈ posted.map Prod.fst)
  /-- A row has one holder. -/
  apart : ∀ u v r r' b b', held u = some (r, b) → held v = some (r', b') → key r = key r' → u = v

namespace Held

variable {A} {t : Table key} {posted : List (κ × ε)} {held held' : Holders α} {r old : α} {u : Nat}
  {b : Bool}

/-- Nobody holds a row at the start. -/
theorem empty : Held A (Table.empty : Table key) [] (fun _ ↦ none) where
  receipts := .empty
  stored u r b h := by cases h
  given u r b h := by cases h
  apart u v r r' b b' h := by cases h

/-- A row without receipts has not been stored. -/
theorem unposted (h : Held A t posted held) {k : κ} (hf : t.find k = none) :
    k ∉ posted.map Prod.fst := by
  intro hm
  obtain ⟨post, hp, rfl⟩ := List.mem_map.mp hm
  obtain ⟨q, hq, -⟩ := h.receipts.backed post.1 post.2 hp
  rw [hf] at hq
  cases hq

/-- A row of another thread has another key. -/
theorem other (h : Held A t posted held) (hu : held u = some (old, b)) {v : Nat} (hv : v ≠ u)
    {q : α} {b' : Bool} (hq : held v = some (q, b')) : key q ≠ key old :=
  fun hk ↦ hv (h.apart v u q old b' b hq hu hk)

/-- A thread inserts a row, and holds it or not. -/
theorem insert (h : Held A t posted held) (hf : t.find (key r) = none) (claims : A.claims r = false)
    (others : ∀ v, v ≠ u → held' v = held v) (self : ∀ x ∈ held' u, x = (r, false)) :
    Held A (t.put r) posted held' := by
  have fresh : ∀ v q b, held v = some (q, b) → key r ≠ key q := by
    intro v q b hv hk
    have stored := h.stored v q b hv
    rw [← hk, hf] at stored
    cases stored
  have mine : ∀ q b, held' u = some (q, b) → q = r ∧ b = false := by
    intro q b hq
    exact Prod.mk.inj (self _ hq)
  constructor
  · exact h.receipts.insert hf claims
  · intro v q b hq
    by_cases hv : v = u
    · obtain ⟨rfl, -⟩ := mine q b (hv ▸ hq)
      exact Table.find_put_self t q
    · rw [others v hv] at hq
      rw [Table.find_put_of_ne t (fresh v q b hq)]
      exact h.stored v q b hq
  · intro v q b hq
    by_cases hv : v = u
    · obtain ⟨rfl, rfl⟩ := mine q b (hv ▸ hq)
      exact iff_of_false (by simp) (h.unposted hf)
    · rw [others v hv] at hq
      exact h.given v q b hq
  · intro v w q q' b b' hq hq' hk
    by_cases hv : v = u <;> by_cases hw : w = u
    · rw [hv, hw]
    · obtain ⟨rfl, -⟩ := mine q b (hv ▸ hq)
      rw [others w hw] at hq'
      exact absurd hk (fresh w q' b' hq')
    · obtain ⟨rfl, -⟩ := mine q' b' (hw ▸ hq')
      rw [others v hv] at hq
      exact absurd hk.symm (fresh v q b hq)
    · rw [others v hv] at hq
      rw [others w hw] at hq'
      exact h.apart v w q q' b b' hq hq' hk

/-- The holder of a row is given its receipt. -/
theorem post (h : Held A t posted held) (hu : held u = some (r, false))
    (denies : A.denies r = false) (others : ∀ v, v ≠ u → held' v = held v)
    (self : ∀ x ∈ held' u, x = (r, true)) :
    Held A t ((key r, A.effect r) :: posted) held' := by
  have absent : key r ∉ posted.map Prod.fst :=
    fun hm ↦ absurd ((h.given u r false hu).mpr hm) (by simp)
  have mine : ∀ q b, held' u = some (q, b) → q = r ∧ b = true := by
    intro q b hq
    exact Prod.mk.inj (self _ hq)
  constructor
  · exact h.receipts.post (h.stored u r false hu) absent denies
  · intro v q b hq
    by_cases hv : v = u
    · obtain ⟨rfl, -⟩ := mine q b (hv ▸ hq)
      exact h.stored u q false hu
    · rw [others v hv] at hq
      exact h.stored v q b hq
  · intro v q b hq
    by_cases hv : v = u
    · obtain ⟨rfl, rfl⟩ := mine q b (hv ▸ hq)
      simp
    · rw [others v hv] at hq
      rw [h.given v q b hq, List.map_cons, List.mem_cons]
      exact (or_iff_right (h.other hu hv hq)).symm
  · intro v w q q' b b' hq hq' hk
    by_cases hv : v = u <;> by_cases hw : w = u
    · rw [hv, hw]
    · obtain ⟨rfl, -⟩ := mine q b (hv ▸ hq)
      rw [others w hw] at hq'
      exact absurd hk.symm (h.other hu hw hq')
    · obtain ⟨rfl, -⟩ := mine q' b' (hw ▸ hq')
      rw [others v hv] at hq
      exact absurd hk (h.other hu hv hq)
    · rw [others v hv] at hq
      rw [others w hw] at hq'
      exact h.apart v w q q' b b' hq hq' hk

/-- The holder of a row saves it, and says what is true of its receipt. -/
theorem save (h : Held A t posted held) (hu : held u = some (old, b)) (hk : key r = key old)
    (effect : A.effect r = A.effect old) (claims : A.claims r = true → b = true)
    (denies : A.denies r = true → b = false) (others : ∀ v, v ≠ u → held' v = held v)
    (self : ∀ x ∈ held' u, x = (r, b)) : Held A (t.put r) posted held' := by
  have given := h.given u old b hu
  rw [← hk] at given
  have mine : ∀ q b', held' u = some (q, b') → q = r ∧ b' = b := by
    intro q b' hq
    exact Prod.mk.inj (self _ hq)
  have apart : ∀ v, v ≠ u → ∀ q b', held v = some (q, b') → key r ≠ key q := by
    intro v hv q b' hq hrq
    exact h.other hu hv hq (hrq.symm.trans hk)
  constructor
  · have found : t.find (key r) = some old := by
      rw [hk]
      exact h.stored u old b hu
    apply h.receipts.save found effect
    · exact fun hc ↦ given.mp (claims hc)
    · intro hd hm
      rw [denies hd] at given
      exact absurd (given.mpr hm) (by simp)
  · intro v q b' hq
    by_cases hv : v = u
    · obtain ⟨rfl, -⟩ := mine q b' (hv ▸ hq)
      exact Table.find_put_self t q
    · rw [others v hv] at hq
      rw [Table.find_put_of_ne t (apart v hv q b' hq)]
      exact h.stored v q b' hq
  · intro v q b' hq
    by_cases hv : v = u
    · obtain ⟨rfl, rfl⟩ := mine q b' (hv ▸ hq)
      exact given
    · rw [others v hv] at hq
      exact h.given v q b' hq
  · intro v w q q' b₁ b₂ hq hq' hqq
    by_cases hv : v = u <;> by_cases hw : w = u
    · rw [hv, hw]
    · obtain ⟨rfl, -⟩ := mine q b₁ (hv ▸ hq)
      rw [others w hw] at hq'
      exact absurd hqq (apart w hw q' b₂ hq')
    · obtain ⟨rfl, -⟩ := mine q' b₂ (hw ▸ hq')
      rw [others v hv] at hq
      exact absurd hqq.symm (apart v hv q b₁ hq)
    · rw [others v hv] at hq
      rw [others w hw] at hq'
      exact h.apart v w q q' b₁ b₂ hq hq' hqq

/-- A row that nobody holds is saved, and claims and denies no more than before. -/
theorem update (h : Held A t posted held) (hf : t.find (key r) = some old)
    (free : ∀ u q b, held u = some (q, b) → key r ≠ key q) (effect : A.effect r = A.effect old)
    (claims : A.claims r = true → A.claims old = true)
    (denies : A.denies r = true → A.denies old = true) : Held A (t.put r) posted held where
  receipts := by
    apply h.receipts.save hf effect
    · exact fun hc ↦ h.receipts.claimed _ old hf (claims hc)
    · intro hd hm
      obtain ⟨post, hp, hk⟩ := List.mem_map.mp hm
      obtain ⟨q, hq, -, accepted⟩ := h.receipts.backed post.1 post.2 hp
      rw [hk, hf] at hq
      cases hq
      exact absurd (denies hd) (by rw [accepted]; simp)
  stored u q b hq := by
    rw [Table.find_put_of_ne t (free u q b hq)]
    exact h.stored u q b hq
  given := h.given
  apart := h.apart

/-- A thread lets its row go, or nothing changes. -/
theorem release (h : Held A t posted held) (kept : ∀ v x, held' v = some x → held v = some x) :
    Held A t posted held' where
  receipts := h.receipts
  stored u r b hr := h.stored u r b (kept u _ hr)
  given u r b hr := h.given u r b (kept u _ hr)
  apart u v r r' b b' hr hr' := h.apart u v r r' b b' (kept u _ hr) (kept v _ hr')

end Held

end Ticketing.Store
