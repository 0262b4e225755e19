import Ticketing.Async.Service

/-!
# Refinement of abstract machines

Library `Async`. A machine says what a component is for: its states, and which labelled
steps it may take. A service refines it, if every operation of every run is a step of the
machine under an abstraction of configurations; then every run has a trace of the machine.
-/

namespace Ticketing.Async

/-- States with labelled steps. -/
structure Machine (σ ℓ : Type) where
  init : σ
  Step : σ → ℓ → σ → Prop

namespace Machine

variable {σ ℓ : Type} (A : Machine σ ℓ)

/-- The labels of a run, newest first, and the state it leads to. -/
inductive Trace : List ℓ → σ → Prop where
  | start : Trace [] A.init
  | step {ls : List ℓ} {s s' : σ} {l : ℓ} (ht : Trace ls s) (hs : A.Step s l s') :
      Trace (l :: ls) s'

variable {A}

/-- What holds at the start and is kept by every step holds of every trace. -/
theorem Trace.induct {P : List ℓ → σ → Prop} (start : P [] A.init)
    (step : ∀ ls s l s', A.Step s l s' → P ls s → P (l :: ls) s') {ls : List ℓ} {s : σ}
    (h : A.Trace ls s) : P ls s := by
  induction h with
  | start => exact start
  | step _ hs ih => exact step _ _ _ _ hs ih

/-- A service whose operations are steps of the machine has its traces. -/
theorem trace_of_reach {V : Service} {G : Regime V} {init : V.State → Prop} (abs : Conf V → σ)
    (label : Event V → ℓ) (start : ∀ s, init s → abs ⟨s, []⟩ = A.init)
    (step : ∀ (p : Pool V) t j x o k, Pool.Reach G init p → p.At t j (.op o k) →
      G.may p.conf ⟨t, j, o, p.conf.answer x o⟩ →
      A.Step (abs p.conf) (label ⟨t, j, o, p.conf.answer x o⟩) (abs (p.conf.after t j x o)))
    {p : Pool V} (hp : Pool.Reach G init p) : A.Trace (p.conf.log.map label) (abs p.conf) := by
  induction hp with
  | @start s hs =>
    have hstart : abs ⟨s, []⟩ = A.init := start s hs
    show A.Trace [] (abs ⟨s, []⟩)
    rw [hstart]
    exact .start
  | spawn _ _ ih => exact ih
  | run hp ht hm ih => exact ih.step (step _ _ _ _ _ _ hp ht hm)

end Machine

end Ticketing.Async
