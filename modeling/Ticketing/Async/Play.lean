import Ticketing.Async.Service

/-!
# Executing runs

Library `Async`. A list of labels is a run, if every step is one that the pool can take and
the regime allows. This decides whether a concrete run is one.
-/

namespace Ticketing.Async

instance {V : Service} (c : Conf V) (e : Event V) : Decidable ((Regime.free V).may c e) :=
  inferInstanceAs (Decidable True)

instance {V : Service} (i j : V.Job) : Decidable ((Regime.free V).excl i j) :=
  inferInstanceAs (Decidable False)

namespace Pool

variable {V : Service}

/-- Threads with a job that excludes `j` have ended. -/
def idle (G : Regime V) [∀ i j, Decidable (G.excl i j)] (p : Pool V) (j : V.Job) : Bool :=
  p.threads.all fun (i, q) ↦ q.ended || (!decide (G.excl i j) && !decide (G.excl j i))

/-- The step a label names, if the pool can take it and the regime allows it. -/
def take (G : Regime V) [∀ c e, Decidable (G.may c e)] [∀ i j, Decidable (G.excl i j)]
    (p : Pool V) : Label V → Option (Pool V)
  | .spawn j => if p.idle G j then some (p.spawn j) else none
  | .run t x =>
    match p.threads[t]? with
    | some (j, .op o k) =>
      if G.may p.conf ⟨t, j, o, p.conf.answer x o⟩ then some (p.advance t j x o k) else none
    | _ => none

/-- The pool after the steps that the labels name. -/
def play (G : Regime V) [∀ c e, Decidable (G.may c e)] [∀ i j, Decidable (G.excl i j)] :
    List (Label V) → Pool V → Option (Pool V)
  | [], p => some p
  | l :: ls, p => (p.take G l).bind (play G ls)

/-- The job of a thread and the operation that it executes next. -/
def awaits (p : Pool V) (t : Nat) : Option (V.Job × V.Op) :=
  match p.threads[t]? with
  | some (j, .op o _) => some (j, o)
  | _ => none

/-- The thread goes on with some program after the operation. -/
theorem at_of_awaits {p : Pool V} {t : Nat} {j : V.Job} {o : V.Op}
    (h : p.awaits t = some (j, o)) : ∃ k, p.At t j (.op o k) := by
  unfold awaits at h
  split at h
  · next hp =>
    cases h
    exact ⟨_, hp⟩
  · cases h

variable {G : Regime V} [∀ i j, Decidable (G.excl i j)]

/-- An idle pool runs no thread that excludes the job. -/
theorem apart_of_idle {p : Pool V} {j : V.Job} (h : p.idle G j = true) :
    ∀ t i q, p.At t i q → q.ended = false → ¬ G.excl i j ∧ ¬ G.excl j i := by
  intro t i q ht hq
  have hm : (i, q) ∈ p.threads := List.mem_of_getElem? ht
  have := List.all_eq_true.mp h _ hm
  simpa [hq] using this

variable [∀ c e, Decidable (G.may c e)]

/-- A step that is taken is a step of a run. -/
theorem step_of_take {p q : Pool V} {l : Label V} (h : p.take G l = some q) : Step G p q := by
  cases l with
  | spawn j =>
    simp only [take] at h
    split at h
    · next hi =>
      cases h
      exact Step.spawn (apart_of_idle hi)
    · cases h
  | run t x =>
    simp only [take] at h
    split at h
    · next j o k ht =>
      split at h
      · next hm =>
        cases h
        exact Step.run ht hm
      · cases h
    · cases h

/-- A run that can be played goes on from the pool it starts from. -/
theorem later_of_play {p q : Pool V} {ls : List (Label V)} (h : play G ls p = some q) :
    Later G p q := by
  induction ls generalizing p with
  | nil =>
    cases h
    exact Relation.ReflTransGen.refl
  | cons l ls ih =>
    rw [play, Option.bind_eq_some_iff] at h
    obtain ⟨p', hp, hq⟩ := h
    exact Relation.ReflTransGen.head (step_of_take hp) (ih hq)

/-- A played run reaches its last pool. -/
theorem reach_of_play {init : V.State → Prop} {s : V.State} {q : Pool V} {ls : List (Label V)}
    (hs : init s) (h : play G ls (start s) = some q) : Reach G init q :=
  (Reach.start hs).later (later_of_play h)

end Pool

end Ticketing.Async
