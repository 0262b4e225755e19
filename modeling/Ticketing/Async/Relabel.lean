import Ticketing.Async.Service

/-!
# Services with more jobs

Library `Async`. The same operations may be reached by other jobs too. A run of some of the jobs
is a run among all of them, when each keeps its program up to the shape of its reply.
-/

namespace Ticketing.Async

/-- The program with another result. -/
def Prog.map {S : Sig} {α β : Type} (f : α → β) : Prog S α → Prog S β
  | .ret a => .ret (f a)
  | .op o k => .op o fun r ↦ (k r).map f

/-- Code that ends by changing its value has the same program up to that change. -/
theorem Code.prog_bind_pure {S : Sig} {α β : Type} (c : Code S Unit α) (f : α → β) :
    (c >>= fun a ↦ pure (f a)).prog = c.prog.map (Except.map f) := by
  show ((c ()).bind _).bind _ = ((c ()).bind _).map _
  generalize c () = p
  induction p with
  | ret r =>
    obtain ⟨r, l⟩ := r
    cases r with
    | ok a => rfl
    | error e => rfl
  | op o k ih =>
    simp only [Prog.bind_op, Prog.map]
    congr 1
    funext r
    exact ih r

/-- The operations of a service, reached by other jobs. -/
abbrev Service.serving (V : Service) {J R : Type}
    (code : J → Prog V.toSig (Except V.Err R)) : Service where
  toSig := V.toSig
  State := V.State
  Choice := V.Choice
  exec := V.exec
  Job := J
  Reply := R
  code := code

variable {V : Service} {J R : Type} {f : J → Prog V.toSig (Except V.Err R)}
  (job : V.Job → J) (reply : V.Reply → R)

/-- The operation, executed for the other job. -/
def Event.relabel (ev : Event V) : Event (V.serving f) := ⟨ev.tid, job ev.job, ev.op, ev.answer⟩

/-- The history of the other jobs. -/
def Conf.relabel (c : Conf V) : Conf (V.serving f) := ⟨c.state, c.log.map (·.relabel job)⟩

namespace Pool

/-- The threads of the other jobs. -/
def relabel (p : Pool V) : Pool (V.serving f) :=
  ⟨p.conf.relabel job, p.threads.map fun thread ↦ (job thread.1, thread.2.map (Except.map reply))⟩

variable {job reply} {p : Pool V}

/-- A thread goes on with the program of its own. -/
theorem At.relabel {t : Nat} {j : V.Job} {q : V.Program} (h : p.At t j q) :
    (p.relabel (f := f) job reply).At t (job j) (q.map (Except.map reply)) := by
  unfold At at h ⊢
  simp [Pool.relabel, h]

/-- A new thread is one of the other jobs. -/
theorem relabel_spawn {j : V.Job} (hc : f (job j) = (V.code j).map (Except.map reply)) :
    (p.spawn j).relabel (f := f) job reply =
      Pool.spawn (V := V.serving f) (p.relabel job reply) (job j) := by
  simp [Pool.relabel, spawn, hc]

/-- Relabelling commutes with a step of a thread. -/
theorem relabel_advance {t : Nat} {j : V.Job} {x : V.Choice} {o : V.Op}
    {k : V.toSig.Answer o → V.Program} :
    (p.advance t j x o k).relabel (f := f) job reply =
      Pool.advance (V := V.serving f) (p.relabel job reply) t (job j) x o
        fun r ↦ (k r).map (Except.map reply) := by
  simp [Pool.relabel, advance, Conf.relabel, Conf.after, Conf.answer, Event.relabel]

/-- Every run is a run among all the jobs. -/
theorem reach_relabel (hc : ∀ j, f (job j) = (V.code j).map (Except.map reply))
    {init : V.State → Prop} (hp : Reach (.free V) init p) :
    Reach (.free (V.serving f)) init (p.relabel (f := f) job reply) := by
  induction hp with
  | start hs => exact .start hs
  | spawn _ _ ih =>
    rw [relabel_spawn (hc _)]
    exact ih.spawn fun _ _ _ _ _ ↦ ⟨id, id⟩
  | run _ ht _ ih =>
    rw [relabel_advance]
    exact ih.run ht.relabel trivial

end Pool

end Ticketing.Async
