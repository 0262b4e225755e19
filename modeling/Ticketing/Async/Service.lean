import Mathlib.Logic.Relation
import Ticketing.Async.Prog

/-!
# Services

Library `Async`. A service gives its operations an effect on a state and its jobs a
program. A pool runs any number of jobs; one step lets one thread await one operation, so
every interleaving at every `await` is a run. The pool records the executed operations.
-/

namespace Ticketing.Async

/-- How operations act on a state, and which program each job runs. -/
structure Service extends Sig where
  State : Type
  /-- What the environment decides at one operation. -/
  Choice : Type
  exec : Choice → (o : Op) → State → toSig.Answer o × State
  Job : Type
  Reply : Type
  code : Job → Prog toSig (Except Err Reply)

/-- One executed operation: the thread, its job and the answer it got. -/
structure Event (V : Service) where
  tid : Nat
  job : V.Job
  op : V.Op
  answer : V.toSig.Answer op

/-- The state of a service with its history, newest operation first. -/
structure Conf (V : Service) where
  state : V.State
  log : List (Event V)

/-- What a thread of a service still has to run. -/
abbrev Service.Program (V : Service) : Type := Prog V.toSig (Except V.Err V.Reply)

namespace Conf

variable {V : Service}

/-- The answer to an operation under the environment's choice. -/
def answer (c : Conf V) (x : V.Choice) (o : V.Op) : V.toSig.Answer o := (V.exec x o c.state).1

/-- The configuration after thread `t` of job `j` executed `o`. -/
def after (c : Conf V) (t : Nat) (j : V.Job) (x : V.Choice) (o : V.Op) : Conf V where
  state := (V.exec x o c.state).2
  log := ⟨t, j, o, c.answer x o⟩ :: c.log

end Conf

/-- A service with its threads; a thread keeps its number for ever. -/
structure Pool (V : Service) where
  conf : Conf V
  threads : List (V.Job × V.Program)

/-- A step: a new job arrives, or a thread executes its next operation. -/
inductive Label (V : Service) where
  | spawn (j : V.Job)
  | run (t : Nat) (x : V.Choice)

/-- Which steps the runs under consideration may take. -/
structure Regime (V : Service) where
  /-- The operation may be executed in this configuration. -/
  may : Conf V → Event V → Prop
  /-- Jobs that never run at the same time. -/
  excl : V.Job → V.Job → Prop

namespace Regime

/-- Every step is allowed. -/
def free (V : Service) : Regime V := ⟨fun _ _ ↦ True, fun _ _ ↦ False⟩

end Regime

namespace Pool

variable {V : Service}

/-- A service that has not run anything. -/
def start (s : V.State) : Pool V := ⟨⟨s, []⟩, []⟩

/-- Thread `t` of job `j` still has `p` to run. -/
def At (p : Pool V) (t : Nat) (j : V.Job) (q : V.Program) : Prop :=
  p.threads[t]? = some (j, q)

/-- The pool after a new job arrived. -/
def spawn (p : Pool V) (j : V.Job) : Pool V :=
  { p with threads := p.threads ++ [(j, V.code j)] }

/-- The pool after thread `t` executed `o` and goes on with `k`. -/
def advance (p : Pool V) (t : Nat) (j : V.Job) (x : V.Choice) (o : V.Op)
    (k : V.toSig.Answer o → V.Program) : Pool V where
  conf := p.conf.after t j x o
  threads := p.threads.set t (j, k (p.conf.answer x o))

/-- The pools that runs from a state satisfying `init` reach under a regime. -/
inductive Reach (G : Regime V) (init : V.State → Prop) : Pool V → Prop where
  | start {s : V.State} (hs : init s) : Reach G init (start s)
  | spawn {p : Pool V} {j : V.Job} (hp : Reach G init p)
      (hx : ∀ t i q, p.At t i q → q.ended = false → ¬ G.excl i j ∧ ¬ G.excl j i) :
      Reach G init (p.spawn j)
  | run {p : Pool V} {t : Nat} {j : V.Job} {x : V.Choice} {o : V.Op}
      {k : V.toSig.Answer o → V.Program} (hp : Reach G init p) (ht : p.At t j (.op o k))
      (hm : G.may p.conf ⟨t, j, o, p.conf.answer x o⟩) :
      Reach G init (p.advance t j x o k)

/-- A thread has exactly one job. -/
theorem job_of_at {p : Pool V} {t : Nat} {i j : V.Job} {q r : V.Program} (hi : p.At t i q)
    (hj : p.At t j r) : i = j := by
  unfold At at hi hj
  rw [hi] at hj
  cases hj
  rfl

/-- A spawned thread is the last one. -/
theorem at_spawn {p : Pool V} {j i : V.Job} {t : Nat} {q : V.Program} :
    (p.spawn j).At t i q ↔
      p.At t i q ∨ (t = p.threads.length ∧ i = j ∧ q = V.code j) := by
  unfold At spawn
  rw [List.getElem?_append]
  by_cases ht : t < p.threads.length
  · simp only [ht, if_true]
    constructor
    · exact Or.inl
    · rintro (h | ⟨rfl, -, -⟩)
      · exact h
      · exact absurd ht (Nat.lt_irrefl _)
  · simp only [ht, if_false, List.getElem?_eq_none (Nat.le_of_not_lt ht), false_or, reduceCtorEq]
    by_cases he : t = p.threads.length
    · subst he
      simp [eq_comm]
    · have hn : t - p.threads.length ≠ 0 := by omega
      simp [he, hn]

/-- A step changes only the thread that takes it. -/
theorem at_advance {p : Pool V} {t u : Nat} {j i : V.Job} {x : V.Choice} {o : V.Op}
    {k : V.toSig.Answer o → V.Program} {q : V.Program} (ht : p.At t j (.op o k)) :
    (p.advance t j x o k).At u i q ↔
      (u = t ∧ i = j ∧ q = k (p.conf.answer x o)) ∨ (u ≠ t ∧ p.At u i q) := by
  have hl : t < p.threads.length := (List.getElem?_eq_some_iff.mp ht).1
  unfold At advance
  rw [List.getElem?_set]
  by_cases hu : t = u
  · subst hu
    simp [hl, eq_comm]
  · simp [hu, Ne.symm hu]

/-- Threads keep their jobs, and those that have ended keep their results. -/
structure Extends (p q : Pool V) : Prop where
  job : ∀ t j r, p.At t j r → ∃ r', q.At t j r'
  ended : ∀ t j r, p.At t j (.ret r) → q.At t j (.ret r)

/-- Every pool extends itself. -/
theorem Extends.refl (p : Pool V) : Extends p p where
  job _ _ r h := ⟨r, h⟩
  ended _ _ _ h := h

/-- A new job leaves the threads as they are. -/
theorem extends_spawn (p : Pool V) (j : V.Job) : Extends p (p.spawn j) where
  job _ _ r h := ⟨r, at_spawn.mpr (.inl h)⟩
  ended _ _ _ h := at_spawn.mpr (.inl h)

/-- The thread that takes a step has not ended. -/
theorem extends_advance {p : Pool V} {t : Nat} {j : V.Job} {x : V.Choice} {o : V.Op}
    {k : V.toSig.Answer o → V.Program} (ht : p.At t j (.op o k)) :
    Extends p (p.advance t j x o k) where
  job u i r h := by
    by_cases hu : u = t
    · have hi : i = j := by
        unfold At at h ht
        rw [hu, ht] at h
        cases h
        rfl
      exact ⟨_, (at_advance ht).mpr (.inl ⟨hu, hi, rfl⟩)⟩
    · exact ⟨r, (at_advance ht).mpr (.inr ⟨hu, h⟩)⟩
  ended u i r h := by
    have hu : u ≠ t := by
      rintro rfl
      unfold At at h ht
      rw [ht] at h
      cases h
    exact (at_advance ht).mpr (.inr ⟨hu, h⟩)

/-- The reply that a thread has ended with. -/
def reply? (p : Pool V) (t : Nat) : Option V.Reply :=
  match p.threads[t]? with
  | some (_, .ret (.ok a)) => some a
  | _ => none

/-- A thread with a reply has ended with it. -/
theorem at_of_reply {p : Pool V} {t : Nat} {j : V.Job} {q : V.Program} {a : V.Reply}
    (h : p.reply? t = some a) (ht : p.At t j q) : q = .ret (.ok a) := by
  unfold At at ht
  simp only [reply?, ht] at h
  split at h
  · next heq =>
    cases heq
    cases h
    rfl
  · cases h

/-- A reply is the end of a thread. -/
theorem exists_at_of_reply {p : Pool V} {t : Nat} {a : V.Reply} (h : p.reply? t = some a) :
    ∃ j, p.At t j (.ret (.ok a)) := by
  unfold reply? at h
  split at h
  · next j b ht =>
    cases h
    exact ⟨j, ht⟩
  · cases h

/-- Runs under a stricter regime are runs under a weaker one. -/
theorem Reach.mono {G H : Regime V} {init : V.State → Prop} {p : Pool V}
    (hm : ∀ c e, G.may c e → H.may c e) (hx : ∀ i j, H.excl i j → G.excl i j)
    (hp : Reach G init p) : Reach H init p := by
  induction hp with
  | start hs => exact .start hs
  | spawn hp hex ih =>
    refine ih.spawn ?_
    intro t i q ht hq
    exact ⟨fun h ↦ (hex t i q ht hq).1 (hx _ _ h), fun h ↦ (hex t i q ht hq).2 (hx _ _ h)⟩
  | run hp ht hmay ih => exact ih.run ht (hm _ _ hmay)

/-- Every recorded operation was executed by a thread of the pool. -/
theorem Reach.event_at {G : Regime V} {init : V.State → Prop} {p : Pool V}
    (hp : Reach G init p) {ev : Event V} (he : ev ∈ p.conf.log) : ∃ q, p.At ev.tid ev.job q := by
  induction hp with
  | start hs => cases he
  | spawn hp hex ih =>
    obtain ⟨q, hq⟩ := ih he
    exact ⟨q, at_spawn.mpr (.inl hq)⟩
  | @run p t j x o k hp ht hmay ih =>
    rcases List.mem_cons.mp he with rfl | he
    · exact ⟨_, (at_advance ht).mpr (.inl ⟨rfl, rfl, rfl⟩)⟩
    · obtain ⟨q, hq⟩ := ih he
      by_cases hu : ev.tid = t
      · have hj : ev.job = j := by
          unfold At at hq ht
          rw [hu, ht] at hq
          cases hq
          rfl
        exact ⟨_, (at_advance ht).mpr (.inl ⟨hu, hj, rfl⟩)⟩
      · exact ⟨q, (at_advance ht).mpr (.inr ⟨hu, hq⟩)⟩

/-- One step of a run under a regime. -/
inductive Step (G : Regime V) : Pool V → Pool V → Prop where
  | spawn {p : Pool V} {j : V.Job}
      (hx : ∀ t i q, p.At t i q → q.ended = false → ¬ G.excl i j ∧ ¬ G.excl j i) :
      Step G p (p.spawn j)
  | run {p : Pool V} {t : Nat} {j : V.Job} {x : V.Choice} {o : V.Op}
      {k : V.toSig.Answer o → V.Program} (ht : p.At t j (.op o k))
      (hm : G.may p.conf ⟨t, j, o, p.conf.answer x o⟩) : Step G p (p.advance t j x o k)

/-- The pools that a run goes through after `p`. -/
abbrev Later (G : Regime V) : Pool V → Pool V → Prop := Relation.ReflTransGen (Step G)

/-- A step of a run leads to a reachable pool. -/
theorem Reach.step {G : Regime V} {init : V.State → Prop} {p q : Pool V} (hp : Reach G init p)
    (h : Step G p q) : Reach G init q := by
  cases h with
  | spawn hx => exact hp.spawn hx
  | run ht hm => exact hp.run ht hm

/-- A run goes on through reachable pools. -/
theorem Reach.later {G : Regime V} {init : V.State → Prop} {p q : Pool V} (hp : Reach G init p)
    (h : Later G p q) : Reach G init q := by
  induction h with
  | refl => exact hp
  | tail _ hs ih => exact ih.step hs

/-- The history of a run is the end of every later one. -/
theorem log_of_later {G : Regime V} {p q : Pool V} (h : Later G p q) :
    p.conf.log <:+ q.conf.log := by
  induction h with
  | refl => exact List.suffix_refl _
  | tail _ hs ih =>
    cases hs with
    | spawn _ => exact ih
    | run ht hm => exact ih.trans (List.suffix_cons _ _)

/-- What each step of a run keeps, the rest of the run keeps. -/
theorem Later.induct {G : Regime V} {init : V.State → Prop} {K : V.State → V.State → Prop}
    (refl : ∀ s, K s s) (trans : ∀ s s' s'', K s s' → K s' s'' → K s s'')
    (step : ∀ (p : Pool V) t j x o k, Reach G init p → p.At t j (.op o k) →
      G.may p.conf ⟨t, j, o, p.conf.answer x o⟩ → K p.conf.state (p.conf.after t j x o).state)
    {p q : Pool V} (hp : Reach G init p) (h : Later G p q) : K p.conf.state q.conf.state := by
  induction h with
  | refl => exact refl _
  | tail hl hs ih =>
    apply trans _ _ _ ih
    cases hs with
    | spawn hx => exact refl _
    | run ht hm => exact step _ _ _ _ _ _ (hp.later hl) ht hm

end Pool

end Ticketing.Async
