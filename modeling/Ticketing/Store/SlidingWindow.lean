import Mathlib.Data.List.Basic
import Mathlib.Order.Bounds.Basic

/-!
# Sliding windows

Library `Store`. Admissions are a list of times, newest first. A limiter admits a time while fewer
than `max` admissions lie in the half-open window of length `w` that ends there. Where each
admission was one of fewer than `max` near it, no window ever holds more than `max`.
-/

namespace Ticketing.SlidingWindow

/-- The half-open window of length `w` that ends at `t` contains `a`. -/
def inWindow (w t a : Nat) : Bool := a ≤ t && t < a + w

/-- The admissions in the window that ends at `t`. -/
def load (w t : Nat) (times : List Nat) : Nat := times.countP (inWindow w t)

/-- Some window of length `w` contains both. -/
def near (w a b : Nat) : Bool := a < b + w && b < a + w

/-- The admissions near a time. -/
def crowd (w a : Nat) (times : List Nat) : Nat := times.countP (near w a)

/-- Each admission was one of at most `max` near it. -/
def Spaced (w max : Nat) : List Nat → Prop
  | [] => True
  | a :: times => crowd w a times < max ∧ Spaced w max times

/-- The limiter has room at `t`. -/
def admits (w max : Nat) (times : List Nat) (t : Nat) : Bool := load w t times < max

/-- A request at `t`: what is rejected leaves no trace. -/
def offer (w max : Nat) (times : List Nat) (t : Nat) : List Nat :=
  if admits w max times t then t :: times else times

/-- Requests at several times, one after another. -/
def offerAll (w max : Nat) (times ts : List Nat) : List Nat := ts.foldl (offer w max) times

variable {w max t a b : Nat} {times : List Nat}

/-- The window contains the times that are over, but not for long. -/
theorem inWindow_iff : inWindow w t a = true ↔ a ≤ t ∧ t < a + w := by
  simp [inWindow]

/-- Times in one window are near each other. -/
theorem near_of_inWindow (ha : inWindow w t a = true) (hb : inWindow w t b = true) :
    near w a b = true := by
  rw [inWindow_iff] at ha hb
  simp only [near, Bool.and_eq_true, decide_eq_true_eq]
  omega

/-- No window holds more than `max` admissions. -/
theorem load_le (h : Spaced w max times) (t : Nat) : load w t times ≤ max := by
  induction times with
  | nil => exact Nat.zero_le _
  | cons a times ih =>
    unfold load
    by_cases ha : inWindow w t a = true
    · rw [List.countP_cons_of_pos ha]
      have few : times.countP (inWindow w t) ≤ crowd w a times := by
        apply List.countP_mono_left
        intro b _ hb
        exact near_of_inWindow ha hb
      have room := h.1
      omega
    · rw [List.countP_cons_of_neg ha]
      exact ih h.2

/-- At the latest time, what is near is what the window contains. -/
theorem crowd_eq_load (hw : 0 < w) (latest : ∀ a ∈ times, a ≤ t) :
    crowd w t times = load w t times := by
  apply List.countP_congr
  intro a ha
  have before := latest a ha
  simp only [near, inWindow, Bool.and_eq_true, decide_eq_true_eq]
  omega

/-- A request in the order of time is one of at most `max`. -/
theorem Spaced.offer (h : Spaced w max times) (hw : 0 < w) (latest : ∀ a ∈ times, a ≤ t) :
    Spaced w max (offer w max times t) := by
  unfold SlidingWindow.offer
  split
  · next room =>
    refine ⟨?_, h⟩
    rw [crowd_eq_load hw latest]
    simpa [admits] using room
  · exact h

/-- An offer at `t` adds one to the load if there is room. -/
theorem load_offer (hw : 0 < w) :
    load w t (offer w max times t) =
      if load w t times < max then load w t times + 1 else load w t times := by
  have self : inWindow w t t = true := inWindow_iff.mpr ⟨Nat.le_refl _, by omega⟩
  unfold offer admits
  by_cases room : load w t times < max
  · simp only [room, decide_true, if_true]
    exact List.countP_cons_of_pos self
  · simp only [room, decide_false, if_false, Bool.false_eq_true]

/-- As many of further requests at `t` are admitted as there is room for. -/
theorem length_offerAll (hw : 0 < w) (n : Nat) (times : List Nat) :
    (offerAll w max times (List.replicate n t)).length =
      times.length + min n (max - load w t times) := by
  induction n generalizing times with
  | zero => simp [offerAll]
  | succ n ih =>
    show (offerAll w max (offer w max times t) (List.replicate n t)).length = _
    rw [ih, load_offer hw]
    unfold offer admits
    by_cases room : load w t times < max
    · simp only [room, decide_true, if_true, List.length_cons]
      omega
    · simp only [room, decide_false, if_false, Bool.false_eq_true]
      omega

private theorem countP_lt {p q : Nat → Bool} (mem : a ∈ times) (hq : q a = true)
    (imp : ∀ b ∈ times, p b = true → q b = true) (hp : p a = false) :
    times.countP p < times.countP q := by
  induction times with
  | nil => cases mem
  | cons b times ih =>
    have rest : times.countP p ≤ times.countP q :=
      List.countP_mono_left fun c hc ↦ imp c (List.mem_cons_of_mem _ hc)
    rw [List.countP_cons, List.countP_cons]
    rcases List.mem_cons.mp mem with rfl | later
    · simp only [hp, hq, if_true, Bool.false_eq_true, if_false]
      omega
    · have fewer := ih later fun c hc ↦ imp c (List.mem_cons_of_mem _ hc)
      have this := imp b List.mem_cons_self
      cases hb : p b with
      | false =>
        simp only [Bool.false_eq_true, if_false]
        omega
      | true =>
        simp only [this hb, if_true]
        omega

/-- The oldest admission in the window that ends at `t`. -/
structure Oldest (w t : Nat) (times : List Nat) (a : Nat) : Prop where
  mem : a ∈ times
  inside : inWindow w t a = true
  first : ∀ b ∈ times, inWindow w t b = true → a ≤ b

/-- A window that is not empty has an oldest admission. -/
theorem exists_oldest (h : 0 < load w t times) : ∃ a, Oldest w t times a := by
  have some := List.countP_pos_iff.mp h
  cases hm : (times.filter (inWindow w t)).min? with
  | none =>
    rw [List.min?_eq_none_iff, List.filter_eq_nil_iff] at hm
    obtain ⟨a, ha, hin⟩ := some
    exact absurd hin (hm a ha)
  | some a =>
    obtain ⟨mem, first⟩ := List.min?_eq_some_iff.mp hm
    rw [List.mem_filter] at mem
    exact ⟨a, mem.1, mem.2, fun b hb hin ↦ first b (List.mem_filter.mpr ⟨hb, hin⟩)⟩

/-- A full limiter admits again when the oldest admission leaves the window. -/
theorem next_admission (h : Spaced w max times) (latest : ∀ a ∈ times, a ≤ t)
    (full : admits w max times t = false) (oldest : Oldest w t times a) :
    IsLeast {u | t < u ∧ admits w max times u = true} (a + w) := by
  have full : max ≤ load w t times := by simpa [admits] using full
  have inside := inWindow_iff.mp oldest.inside
  constructor
  · refine ⟨inside.2, ?_⟩
    -- The oldest admission has left, and none has come in.
    have fewer : load w (a + w) times < load w t times := by
      apply countP_lt oldest.mem oldest.inside
      · intro b hb hin
        have before := latest b hb
        rw [inWindow_iff] at hin ⊢
        omega
      · rw [← Bool.not_eq_true, inWindow_iff]
        omega
    have most := load_le h t
    simp only [admits, decide_eq_true_eq]
    omega
  · rintro u ⟨later, room⟩
    by_contra early
    have room : load w u times < max := by simpa [admits] using room
    have kept : load w t times ≤ load w u times := by
      apply List.countP_mono_left
      intro b hb hin
      have first := oldest.first b hb hin
      rw [inWindow_iff] at hin ⊢
      omega
    omega

end Ticketing.SlidingWindow
