import Ticketing.Async.Monitor
import Ticketing.Async.Play

/-!
# Processes that stop

Library `Async`. The process that runs the threads of a service may stop between any two
operations. Its threads never go on; the next process finds what is stored.
-/

namespace Ticketing.Async

/-- A service and the process that runs it now: threads before `since` have stopped. -/
structure Process (V : Service) where
  pool : Pool V
  since : Nat

namespace Process

variable {V : Service} {σ : Type}

/-- Which steps the runs under consideration may take, and what a new process starts with. -/
structure Regime (V : Service) where
  may : Process V → Event V → Prop
  mayStop : Process V → Prop
  restart : V.State → V.State

/-- Every step is allowed. -/
def Regime.free {V : Service} (restart : V.State → V.State) : Regime V :=
  ⟨fun _ _ ↦ True, fun _ ↦ True, restart⟩

/-- The process after a new job arrived. -/
def spawn (p : Process V) (j : V.Job) : Process V := { p with pool := p.pool.spawn j }

/-- The process after thread `t` executed `o` and goes on with `k`. -/
def advance (p : Process V) (t : Nat) (j : V.Job) (x : V.Choice) (o : V.Op)
    (k : V.toSig.Answer o → V.Program) : Process V :=
  { p with pool := p.pool.advance t j x o k }

/-- The process has stopped, and a new one runs. -/
def stop (restart : V.State → V.State) (p : Process V) : Process V where
  pool := { p.pool with conf := { p.pool.conf with state := restart p.pool.conf.state } }
  since := p.pool.threads.length

/-- The processes that runs from a state satisfying `init` reach. -/
inductive Reach (G : Regime V) (init : V.State → Prop) : Process V → Prop where
  | start {s : V.State} (hs : init s) : Reach G init ⟨.start s, 0⟩
  | spawn {p : Process V} {j : V.Job} (hp : Reach G init p) : Reach G init (p.spawn j)
  | run {p : Process V} {t : Nat} {j : V.Job} {x : V.Choice} {o : V.Op}
      {k : V.toSig.Answer o → V.Program} (hp : Reach G init p) (hr : p.since ≤ t)
      (ht : p.pool.At t j (.op o k)) (hm : G.may p ⟨t, j, o, p.pool.conf.answer x o⟩) :
      Reach G init (p.advance t j x o k)
  | stop {p : Process V} (hp : Reach G init p) (hm : G.mayStop p) :
      Reach G init (p.stop G.restart)

variable {G : Regime V} {init : V.State → Prop} {p q : Process V}

/-- Threads obey their monitors, whatever stops. -/
theorem watches_of_reach {m : Monitor V σ} {Q : V.Job → Except V.Err V.Reply → σ → Prop}
    (hc : ∀ i, m.Obeys i (V.code i) (Q i) m.init) (hp : Reach G init p) : m.Watches Q p.pool := by
  induction hp with
  | start _ => exact .start _
  | spawn _ ih => exact ih.spawn hc _
  | run _ _ ht _ ih => exact ih.advance ht
  | stop _ _ ih => exact ih.congr rfl rfl

/-! ### Executing runs -/

/-- A step: a new job arrives, a thread executes its next operation, or the process stops. -/
inductive Label (V : Service) where
  | spawn (j : V.Job)
  | run (t : Nat) (x : V.Choice)
  | stop

/-- A step of a pool. -/
def Label.of : Async.Label V → Label V
  | .spawn j => .spawn j
  | .run t x => .run t x

variable (G) [∀ p e, Decidable (G.may p e)] [∀ p, Decidable (G.mayStop p)]

/-- The step a label names, if the process can take it and the regime allows it. -/
def take (p : Process V) : Label V → Option (Process V)
  | .spawn j => some (p.spawn j)
  | .run t x =>
    match p.pool.threads[t]? with
    | some (j, .op o k) =>
      if p.since ≤ t ∧ G.may p ⟨t, j, o, p.pool.conf.answer x o⟩ then some (p.advance t j x o k)
      else none
    | _ => none
  | .stop => if G.mayStop p then some (p.stop G.restart) else none

/-- The process after the steps that the labels name. -/
def play : List (Label V) → Process V → Option (Process V)
  | [], p => some p
  | l :: ls, p => (p.take G l).bind (play ls)

variable {G}

/-- A step that is taken is a step of a run. -/
theorem reach_of_take {l : Label V} (hp : Reach G init p) (h : p.take G l = some q) :
    Reach G init q := by
  cases l with
  | spawn j =>
    cases h
    exact hp.spawn
  | run t x =>
    simp only [take] at h
    split at h
    · next ht =>
      split at h
      · next hm =>
        cases h
        exact hp.run hm.1 ht hm.2
      · cases h
    · cases h
  | stop =>
    simp only [take] at h
    split at h
    · next hm =>
      cases h
      exact hp.stop hm
    · cases h

/-- Playing labels from a reachable pool ends in a reachable pool. -/
theorem reach_of_play {ls : List (Label V)} (hp : Reach G init p) (h : play G ls p = some q) :
    Reach G init q := by
  induction ls generalizing p with
  | nil =>
    cases h
    exact hp
  | cons l ls ih =>
    obtain ⟨p', hp', hq⟩ := Option.bind_eq_some_iff.mp h
    exact ih (reach_of_take hp hp') hq

end Process

end Ticketing.Async
