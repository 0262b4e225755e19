import Mathlib.Tactic.Choose
import Ticketing.Async.Service

/-!
# Rely and guarantee for pools

Library `Async`. Rules for programs whose threads interfere at every `await`. Each
operation is given a postcondition that the other threads keep; every step keeps the
invariant and is one of the moves its thread guarantees. `Reach.sound` carries this to
every pool a run can reach.
-/

namespace Ticketing.Async

/-- What a proof about the runs of a service fixes. -/
structure Rules (V : Service) where
  regime : Regime V
  /-- Knowledge of the proof that the service does not store. -/
  Ghost : Type
  inv : Conf V → Ghost → Prop
  /-- The moves of thread `t` running job `j`. -/
  guar : Nat → V.Job → Conf V → Ghost → Conf V → Ghost → Prop

namespace Rules

variable {V : Service} (R : Rules V)

/-- A fact about the configuration. -/
abbrev Fact : Type := Conf V → R.Ghost → Prop

/-- The other threads keep `P`. -/
def Stable (t : Nat) (j : V.Job) (P : R.Fact) : Prop :=
  ∀ u i c g c' g', u ≠ t → ¬ R.regime.excl j i → R.inv c g → R.inv c' g' →
    R.guar u i c g c' g' → P c g → P c' g'

/-- One operation of thread `t`: it keeps the invariant, is a guaranteed move, and
its answer comes with a fact that the other threads keep. -/
structure Step (t : Nat) (j : V.Job) (o : V.Op) (P : R.Fact)
    (post : V.toSig.Answer o → R.Fact) : Prop where
  stable : ∀ r, R.Stable t j (post r)
  exec : ∀ c g x, R.inv c g → P c g → R.regime.may c ⟨t, j, o, c.answer x o⟩ →
    ∃ g', R.inv (c.after t j x o) g' ∧ R.guar t j c g (c.after t j x o) g' ∧
      post (c.answer x o) (c.after t j x o) g'

/-- Thread `t` may run `p` when `P` holds, and ends with `Q` of its result. -/
def Safe {α : Type} (t : Nat) (j : V.Job) : Prog V.toSig α → R.Fact → (α → R.Fact) → Prop
  | .ret a, P, Q => ∀ c g, R.inv c g → P c g → Q a c g
  | .op o k, P, Q => ∃ post, R.Step t j o P post ∧ ∀ r, Safe t j (k r) (post r) Q

variable {R} {t : Nat} {j : V.Job} {α β : Type}

/-- Facts that never change are stable. -/
theorem Stable.const (p : Prop) : R.Stable t j (fun _ _ ↦ p) :=
  fun _ _ _ _ _ _ _ _ _ _ _ hp ↦ hp

/-- A conjunction of stable facts is stable. -/
theorem Stable.and {P Q : R.Fact} (hp : R.Stable t j P) (hq : R.Stable t j Q) :
    R.Stable t j (fun c g ↦ P c g ∧ Q c g) :=
  fun u i c g c' g' hu hx hi hi' hm h ↦
    ⟨hp u i c g c' g' hu hx hi hi' hm h.1, hq u i c g c' g' hu hx hi hi' hm h.2⟩

/-- A family of stable facts is stable. -/
theorem Stable.all {ι : Sort _} {P : ι → R.Fact} (hp : ∀ n, R.Stable t j (P n)) :
    R.Stable t j (fun c g ↦ ∀ n, P n c g) :=
  fun u i c g c' g' hu hx hi hi' hm h n ↦ hp n u i c g c' g' hu hx hi hi' hm (h n)

/-- A stable fact about some index is stable. -/
theorem Stable.ex {ι : Sort _} {P : ι → R.Fact} (hp : ∀ n, R.Stable t j (P n)) :
    R.Stable t j (fun c g ↦ ∃ n, P n c g) :=
  fun u i c g c' g' hu hx hi hi' hm ⟨n, h⟩ ↦ ⟨n, hp n u i c g c' g' hu hx hi hi' hm h⟩

/-- A stable fact under a condition that never changes is stable. -/
theorem Stable.imp {p : Prop} {P : R.Fact} (hp : p → R.Stable t j P) :
    R.Stable t j (fun c g ↦ p → P c g) :=
  fun u i c g c' g' hu hx hi hi' hm h h' ↦ hp h' u i c g c' g' hu hx hi hi' hm (h h')

namespace Safe

variable {p : Prog V.toSig α} {P P' : R.Fact} {Q Q' : α → R.Fact}

/-- A stronger fact may be assumed before. -/
theorem pre (h : R.Safe t j p P Q) (hp : ∀ c g, R.inv c g → P' c g → P c g) :
    R.Safe t j p P' Q := by
  cases p with
  | ret a => exact fun c g hi h' ↦ h c g hi (hp c g hi h')
  | op o k =>
    obtain ⟨post, hs, hk⟩ := h
    exact ⟨post, ⟨hs.stable, fun c g x hi h' hm ↦ hs.exec c g x hi (hp c g hi h') hm⟩, hk⟩

/-- A weaker fact may be concluded after. -/
theorem post (h : R.Safe t j p P Q) (hq : ∀ a c g, R.inv c g → Q a c g → Q' a c g) :
    R.Safe t j p P Q' := by
  induction p generalizing P with
  | ret a => exact fun c g hi h' ↦ hq a c g hi (h c g hi h')
  | op o k ih =>
    obtain ⟨post, hs, hk⟩ := h
    exact ⟨post, hs, fun r ↦ ih r (hk r)⟩

/-- A sequence of safe programs is safe. -/
theorem bind {f : α → Prog V.toSig β} {Q' : β → R.Fact} (h : R.Safe t j p P Q)
    (hf : ∀ a, R.Safe t j (f a) (Q a) Q') : R.Safe t j (p.bind f) P Q' := by
  induction p generalizing P with
  | ret a => exact (hf a).pre fun c g hi h' ↦ h c g hi h'
  | op o k ih =>
    obtain ⟨post, hs, hk⟩ := h
    exact ⟨post, hs, fun r ↦ ih r (hk r)⟩

/-- What is safe from every member of a family of facts is safe from some member. -/
theorem ex {ι : Sort _} {P : ι → R.Fact} (h : ∀ n, R.Safe t j p (P n) Q) :
    R.Safe t j p (fun c g ↦ ∃ n, P n c g) Q := by
  induction p generalizing ι with
  | ret a => exact fun c g hi ⟨n, hp⟩ ↦ h n c g hi hp
  | op o k ih =>
    choose post hs hk using h
    refine ⟨fun r c g ↦ ∃ n, post n r c g, ?_, fun r ↦ ih r fun n ↦ hk n r⟩
    constructor
    · exact fun r ↦ Stable.ex fun n ↦ (hs n).stable r
    · intro c g x hi ⟨n, hp⟩ hm
      obtain ⟨g', hi', hg, hq⟩ := (hs n).exec c g x hi hp hm
      exact ⟨g', hi', hg, n, hq⟩

/-- What holds of every thread with this precondition can be assumed of the operation. -/
theorem exec {o : V.Op} {k : V.toSig.Answer o → Prog V.toSig α}
    (h : R.Safe t j (.op o k) P Q) {c : Conf V} {g : R.Ghost} {x : V.Choice}
    (hi : R.inv c g) (hp : P c g) (hm : R.regime.may c ⟨t, j, o, c.answer x o⟩) :
    ∃ g', R.inv (c.after t j x o) g' ∧ R.guar t j c g (c.after t j x o) g' ∧
      ∃ P', R.Stable t j P' ∧ P' (c.after t j x o) g' ∧
        R.Safe t j (k (c.answer x o)) P' Q := by
  obtain ⟨post, hs, hk⟩ := h
  obtain ⟨g', hi', hg, hq⟩ := hs.exec c g x hi hp hm
  exact ⟨g', hi', hg, post _, hs.stable _, hq, hk _⟩

end Safe

/-! ### Code with a local entity -/

variable {L M : Type}

/-- Code is safe with a fact about its entity before, and facts about the entity for each
of its two ways to end. -/
def Holds (R : Rules V) (t : Nat) (j : V.Job) (c : Code V.toSig L α) (P : L → R.Fact)
    (Q : α → L → R.Fact) (E : V.Err → L → R.Fact) : Prop :=
  ∀ l, R.Safe t j (c l) (P l) fun r ↦
    match r with
    | (.ok a, l') => Q a l'
    | (.error e, l') => E e l'

namespace Holds

variable {P P' : L → R.Fact} {Q : α → L → R.Fact} {E : V.Err → L → R.Fact}

/-- A stronger fact may be assumed before. -/
theorem pre {c : Code V.toSig L α} (h : R.Holds t j c P Q E)
    (hp : ∀ l c g, R.inv c g → P' l c g → P l c g) : R.Holds t j c P' Q E :=
  fun l ↦ (h l).pre (hp l)

/-- Weaker facts may be concluded after. -/
theorem post {Q' : α → L → R.Fact} {E' : V.Err → L → R.Fact} {c : Code V.toSig L α}
    (h : R.Holds t j c P Q E) (hq : ∀ a l c g, R.inv c g → Q a l c g → Q' a l c g)
    (he : ∀ e l c g, R.inv c g → E e l c g → E' e l c g) : R.Holds t j c P Q' E' := by
  intro l
  refine (h l).post ?_
  rintro ⟨r, l'⟩ c g hi
  cases r with
  | ok a => exact hq a l' c g hi
  | error e => exact he e l' c g hi

/-- Some member of a family of facts may be assumed before. -/
theorem ex {ι : Sort _} {P : ι → L → R.Fact} {c : Code V.toSig L α}
    (h : ∀ n, R.Holds t j c (P n) Q E) :
    R.Holds t j c (fun l c g ↦ ∃ n, P n l c g) Q E :=
  fun l ↦ Safe.ex fun n ↦ h n l

/-- What does not depend on the configuration may be assumed outside. -/
theorem assume {p : Prop} {c : Code V.toSig L α} (h : p → R.Holds t j c P Q E) :
    R.Holds t j c (fun l c g ↦ p ∧ P l c g) Q E :=
  (ex h).pre fun _ _ _ _ ⟨hp, hP⟩ ↦ ⟨hp, hP⟩

/-- Returning a value needs what is concluded of it. -/
theorem ret (a : α) (hq : ∀ l c g, R.inv c g → P l c g → Q a l c g) :
    R.Holds t j (pure a : Code V.toSig L α) P Q E := fun l ↦ hq l

/-- Throwing an error needs what is concluded of it. -/
theorem raise (e : V.Err) (he : ∀ l c g, R.inv c g → P l c g → E e l c g) :
    R.Holds t j (throw e : Code V.toSig L α) P Q E := fun l ↦ he l

/-- Sequencing; an error skips the rest. -/
theorem bind {I : α → L → R.Fact} {Q' : β → L → R.Fact} {c : Code V.toSig L α}
    {f : α → Code V.toSig L β} (h : R.Holds t j c P I E)
    (hf : ∀ a, R.Holds t j (f a) (I a) Q' E) : R.Holds t j (c >>= f) P Q' E := by
  intro l
  refine (h l).bind ?_
  rintro ⟨r, l'⟩
  cases r with
  | ok a => exact hf a l'
  | error e => exact fun _ _ _ h' ↦ h'

/-- The handler starts in the entity that the error left. -/
theorem tryCatch {E' : V.Err → L → R.Fact} {c : Code V.toSig L α}
    {h : V.Err → Code V.toSig L α} (hc : R.Holds t j c P Q E')
    (hh : ∀ e, R.Holds t j (h e) (E' e) Q E) : R.Holds t j (tryCatch c h) P Q E := by
  intro l
  refine (hc l).bind ?_
  rintro ⟨r, l'⟩
  cases r with
  | ok a => exact fun _ _ _ h' ↦ h'
  | error e => exact hh e l'

/-- Reading the entity returns it and changes nothing. -/
theorem entity {Q : L → L → R.Fact} (hq : ∀ l c g, R.inv c g → P l c g → Q l l c g) :
    R.Holds t j (Code.entity : Code V.toSig L L) P Q E := fun l ↦ hq l

/-- Read the entity and go on with its value. -/
theorem read {f : L → Code V.toSig L α}
    (h : ∀ m, R.Holds t j (f m) (fun l c g ↦ l = m ∧ P m c g) Q E) :
    R.Holds t j ((Code.entity : Code V.toSig L L) >>= f) P Q E :=
  bind (entity fun _ _ _ _ hp ↦ ⟨rfl, hp⟩) h

/-- Read an entity whose value is known. -/
theorem readAs {f : L → Code V.toSig L α} {m : L} {P : R.Fact}
    (h : R.Holds t j (f m) (fun l c g ↦ l = m ∧ P c g) Q E) :
    R.Holds t j ((Code.entity : Code V.toSig L L) >>= f) (fun l c g ↦ l = m ∧ P c g) Q E := by
  apply read
  intro n
  apply pre (P := fun l c g ↦ n = m ∧ l = m ∧ P c g)
  · apply assume
    rintro rfl
    exact h
  · rintro l c g _ ⟨rfl, rfl, hp⟩
    exact ⟨rfl, rfl, hp⟩

/-- Assigning the entity needs what is concluded of the new entity. -/
theorem assign {Q : Unit → L → R.Fact} (f : L → L)
    (hq : ∀ l c g, R.inv c g → P l c g → Q () (f l) c g) :
    R.Holds t j (Code.assign f : Code V.toSig L Unit) P Q E := fun l ↦ hq l

/-- An awaited operation is one step between two facts. -/
theorem await {o : V.Op} {Q : V.Res o → L → R.Fact}
    (h : ∀ l, R.Step t j o (P l) fun r ↦
      match r with
      | .ok a => Q a l
      | .error e => E e l) :
    R.Holds t j (Code.await o : Code V.toSig L (V.Res o)) P Q E := by
  intro l
  refine ⟨_, h l, ?_⟩
  intro r
  cases r with
  | ok a => exact fun _ _ _ h' ↦ h'
  | error e => exact fun _ _ _ h' ↦ h'

/-- Awaiting leaves the entity as it is. -/
theorem awaitAs {o : V.Op} {P : R.Fact} {Q : V.Res o → R.Fact} (m : L)
    (h : R.Holds t j (Code.await o : Code V.toSig L (V.Res o)) (fun _ ↦ P) (fun a _ ↦ Q a) E) :
    R.Holds t j (Code.await o : Code V.toSig L (V.Res o)) (fun l c g ↦ l = m ∧ P c g)
      (fun a l c g ↦ l = m ∧ Q a c g) E := by
  intro l
  apply Safe.pre (P := fun c g ↦ ∃ _ : l = m, P c g)
  · apply Safe.ex
    intro hl
    obtain ⟨post, hs, hk⟩ := h l
    refine ⟨post, hs, ?_⟩
    intro r
    cases r with
    | ok a => exact fun c g hi hp ↦ ⟨hl, hk (.ok a) c g hi hp⟩
    | error e => exact hk (.error e)
  · rintro c g _ ⟨hl, hp⟩
    exact ⟨hl, hp⟩

/-- What does not depend on the configuration may be assumed outside, where the entity is
known. -/
theorem assumeAs {p : Prop} {P : R.Fact} {m : L} {c : Code V.toSig L α}
    (h : p → R.Holds t j c (fun l c g ↦ l = m ∧ P c g) Q E) :
    R.Holds t j c (fun l c g ↦ l = m ∧ p ∧ P c g) Q E :=
  (assume h).pre fun _ _ _ _ ⟨hl, hp, hP⟩ ↦ ⟨hp, hl, hP⟩

/-- Code on an entity of its own; the entity outside stays as it is. -/
theorem on {m : M} {c : Code V.toSig M α}
    (h : ∀ l, R.Holds t j c (fun m' c g ↦ m' = m ∧ P l c g) (fun a _ ↦ Q a l)
      fun e _ ↦ E e l) :
    R.Holds t j (Code.on m c : Code V.toSig L α) P Q E := by
  intro l
  refine Safe.bind ((h l m).pre fun _ _ _ h' ↦ ⟨rfl, h'⟩) ?_
  rintro ⟨r, l'⟩
  cases r with
  | ok a => exact fun _ _ _ h' ↦ h'
  | error e => exact fun _ _ _ h' ↦ h'

/-- The program of a call is safe if its code holds. -/
theorem prog {c : Code V.toSig Unit α} {P : R.Fact} {Q : Except V.Err α → R.Fact}
    (h : R.Holds t j c (fun _ ↦ P) (fun a _ ↦ Q (.ok a)) (fun e _ ↦ Q (.error e))) :
    R.Safe t j c.prog P Q := by
  refine (h ()).bind ?_
  rintro ⟨r, l'⟩
  cases r with
  | ok a => exact fun _ _ _ h' ↦ h'
  | error e => exact fun _ _ _ h' ↦ h'

end Holds

/-! ### Runs -/

/-- The proof obligations of a service: the invariant holds at the start, and every job is
safe from no knowledge at all. -/
structure Sound (R : Rules V) (init : V.State → Prop)
    (Q : Nat → V.Job → Except V.Err V.Reply → R.Fact) : Prop where
  init : ∀ s, init s → ∃ g, R.inv ⟨s, []⟩ g
  jobs : ∀ t j, R.Safe t j (V.code j) (fun _ _ ↦ True) (Q t j)

/-- A thread has a stable fact from which it is safe to go on. -/
def Alive (R : Rules V) (Q : Nat → V.Job → Except V.Err V.Reply → R.Fact) (c : Conf V)
    (g : R.Ghost) (t : Nat) (j : V.Job) (q : V.Program) : Prop :=
  ∃ P, R.Stable t j P ∧ P c g ∧ R.Safe t j q P (Q t j)

/-- The thread is running, or its job excludes no other. -/
def Kept (R : Rules V) (j : V.Job) (q : V.Program) : Prop :=
  q.ended = false ∨ ∀ i, ¬ R.regime.excl j i

/-- Threads that run at the same time do not exclude each other. -/
theorem apart {init : V.State → Prop} {p : Pool V} (hp : Pool.Reach R.regime init p)
    {t u : Nat} {i j : V.Job} {q q' : V.Program} (hne : u ≠ t) (ht : p.At t j q) (hu : p.At u i q')
    (hq : q.ended = false) (hq' : q'.ended = false) : ¬ R.regime.excl j i := by
  induction hp generalizing t u i j q q' with
  | start hs => cases ht
  | @spawn p j' hp hx ih =>
    rcases Pool.at_spawn.mp ht with ht' | ⟨rfl, rfl, rfl⟩
    · rcases Pool.at_spawn.mp hu with hu' | ⟨rfl, rfl, rfl⟩
      · exact ih hne ht' hu' hq hq'
      · exact (hx t j q ht' hq).1
    · rcases Pool.at_spawn.mp hu with hu' | ⟨rfl, rfl, rfl⟩
      · exact (hx u i q' hu' hq').2
      · exact absurd rfl hne
  | @run p v j' x o k hp hv hm ih =>
    have old : ∀ {w b r}, (p.advance v j' x o k).At w b r → r.ended = false →
        ∃ r', p.At w b r' ∧ r'.ended = false := by
      intro w b r hw hr
      rcases (Pool.at_advance hv).mp hw with ⟨rfl, rfl, -⟩ | ⟨-, hw⟩
      · exact ⟨_, hv, rfl⟩
      · exact ⟨r, hw, hr⟩
    obtain ⟨r, ht', hr⟩ := old ht hq
    obtain ⟨r', hu', hr'⟩ := old hu hq'
    exact ih hne ht' hu' hr hr'

/-- The proof obligations of a service whose threads know something before they have executed
anything. -/
structure SoundFrom (R : Rules V) (init : V.State → Prop) (Start : Nat → V.Job → R.Fact)
    (Q : Nat → V.Job → Except V.Err V.Reply → R.Fact) : Prop where
  init : ∀ s, init s → ∃ g, R.inv ⟨s, []⟩ g
  start : ∀ t j c g, R.inv c g → (∀ ev ∈ c.log, ev.tid ≠ t) → Start t j c g
  stable : ∀ t j, R.Stable t j (Start t j)
  jobs : ∀ t j, R.Safe t j (V.code j) (Start t j) (Q t j)

/-- Every reachable pool satisfies the invariant, and every thread it keeps knows its
stable fact. -/
theorem SoundFrom.alive {init : V.State → Prop} {Start : Nat → V.Job → R.Fact}
    {Q : Nat → V.Job → Except V.Err V.Reply → R.Fact} (hs : R.SoundFrom init Start Q)
    {p : Pool V} (hp : Pool.Reach R.regime init p) :
    ∃ g, R.inv p.conf g ∧ ∀ t j q, p.At t j q → R.Kept j q → R.Alive Q p.conf g t j q := by
  induction hp with
  | start h =>
    obtain ⟨g, hg⟩ := hs.init _ h
    exact ⟨g, hg, fun t j q ht ↦ by cases ht⟩
  | @spawn p j' hp hx ih =>
    obtain ⟨g, hg, ha⟩ := ih
    refine ⟨g, hg, ?_⟩
    intro t j q ht hk
    rcases Pool.at_spawn.mp ht with ht | ⟨rfl, rfl, rfl⟩
    · exact ha t j q ht hk
    · have unstarted : ∀ ev ∈ p.conf.log, ev.tid ≠ p.threads.length := by
        intro ev he hlen
        obtain ⟨q', hq'⟩ := hp.event_at he
        have := (List.getElem?_eq_some_iff.mp hq').1
        omega
      exact ⟨_, hs.stable _ _, hs.start _ _ _ _ hg unstarted, hs.jobs _ _⟩
  | @run p u i x o k hp hu hm ih =>
    obtain ⟨g, hg, ha⟩ := ih
    obtain ⟨P, hst, hP, hsafe⟩ := ha u i _ hu (.inl rfl)
    obtain ⟨g', hg', hgu, P', hst', hP', hsafe'⟩ := hsafe.exec hg hP hm
    refine ⟨g', hg', ?_⟩
    intro t j q ht hk
    rcases (Pool.at_advance hu).mp ht with ⟨rfl, rfl, rfl⟩ | ⟨hne, ht⟩
    · exact ⟨P', hst', hP', hsafe'⟩
    · obtain ⟨P₀, hst₀, hP₀, hsafe₀⟩ := ha t j q ht hk
      have hx : ¬ R.regime.excl j i := by
        rcases hk with hq | hfree
        · exact apart hp (Ne.symm hne) ht hu hq rfl
        · exact hfree i
      exact ⟨P₀, hst₀, hst₀ u i _ _ _ _ (Ne.symm hne) hx hg hg' hgu hP₀, hsafe₀⟩

/-- Every reachable pool satisfies the invariant, and every thread it keeps knows its
stable fact. -/
theorem Sound.alive {init : V.State → Prop} {Q : Nat → V.Job → Except V.Err V.Reply → R.Fact}
    (hs : R.Sound init Q) {p : Pool V} (hp : Pool.Reach R.regime init p) :
    ∃ g, R.inv p.conf g ∧ ∀ t j q, p.At t j q → R.Kept j q → R.Alive Q p.conf g t j q := by
  have from_nothing : R.SoundFrom init (fun _ _ _ _ ↦ True) Q :=
    ⟨hs.init, fun _ _ _ _ _ _ ↦ trivial, fun _ _ ↦ Stable.const True, hs.jobs⟩
  exact from_nothing.alive hp

/-- Every reachable pool satisfies the invariant. -/
theorem Sound.inv {init : V.State → Prop} {Q : Nat → V.Job → Except V.Err V.Reply → R.Fact}
    (hs : R.Sound init Q) {p : Pool V} (hp : Pool.Reach R.regime init p) :
    ∃ g, R.inv p.conf g := by
  obtain ⟨g, hg, -⟩ := hs.alive hp
  exact ⟨g, hg⟩

/-- Every step of a run is a guaranteed move between configurations with the invariant. -/
theorem Sound.move {init : V.State → Prop} {Q : Nat → V.Job → Except V.Err V.Reply → R.Fact}
    (hs : R.Sound init Q) {p : Pool V} (hp : Pool.Reach R.regime init p) {t : Nat} {j : V.Job}
    {x : V.Choice} {o : V.Op} {k : V.toSig.Answer o → V.Program} (ht : p.At t j (.op o k))
    (hm : R.regime.may p.conf ⟨t, j, o, p.conf.answer x o⟩) :
    ∃ g g', R.inv p.conf g ∧ R.inv (p.conf.after t j x o) g' ∧
      R.guar t j p.conf g (p.conf.after t j x o) g' := by
  obtain ⟨g, hg, ha⟩ := hs.alive hp
  obtain ⟨P, -, hP, hsafe⟩ := ha t j _ ht (.inl rfl)
  obtain ⟨g', hg', hgu, -⟩ := hsafe.exec hg hP hm
  exact ⟨g, g', hg, hg', hgu⟩

/-- A thread that has ended, of a job that excludes no other, keeps its postcondition. -/
theorem Sound.ended {init : V.State → Prop} {Q : Nat → V.Job → Except V.Err V.Reply → R.Fact}
    (hs : R.Sound init Q) {p : Pool V} (hp : Pool.Reach R.regime init p) {t : Nat} {j : V.Job}
    {r : Except V.Err V.Reply} (ht : p.At t j (.ret r)) (hj : ∀ i, ¬ R.regime.excl j i) :
    ∃ g, R.inv p.conf g ∧ Q t j r p.conf g := by
  obtain ⟨g, hg, ha⟩ := hs.alive hp
  obtain ⟨P, -, hP, hsafe⟩ := ha t j _ ht (.inr hj)
  exact ⟨g, hg, hsafe _ _ hg hP⟩

/-- Threads of jobs that exclude no others know their postconditions together, once they have
ended. -/
theorem SoundFrom.ended {init : V.State → Prop} {Start : Nat → V.Job → R.Fact}
    {Q : Nat → V.Job → Except V.Err V.Reply → R.Fact} (hs : R.SoundFrom init Start Q)
    {p : Pool V} (hp : Pool.Reach R.regime init p) (hx : ∀ i j, ¬ R.regime.excl i j) :
    ∃ g, R.inv p.conf g ∧ ∀ t j r, p.At t j (.ret r) → Q t j r p.conf g := by
  obtain ⟨g, hg, ha⟩ := hs.alive hp
  refine ⟨g, hg, ?_⟩
  intro t j r ht
  obtain ⟨P, -, hP, hsafe⟩ := ha t j _ ht (.inr (hx j))
  exact hsafe _ _ hg hP

end Rules

end Ticketing.Async
