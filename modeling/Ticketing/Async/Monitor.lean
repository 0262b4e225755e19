import Ticketing.Async.Run
import Ticketing.Async.Service

/-!
# Monitors

Library `Async`. A monitor follows one thread: its state is what the thread has learned from
its own operations, whatever the other threads do. Code obeys a monitor, if it awaits only
what the monitor allows in the state it is in. In every run each thread then does so.
-/

namespace Ticketing.Async

/-- An answer that the operation gives in some state. -/
def Service.Gives (V : Service) (o : V.Op) (r : V.toSig.Answer o) : Prop :=
  ∃ x s, (V.exec x o s).1 = r

/-- What a thread of some job may await, by what it has awaited so far. -/
structure Monitor (V : Service) (σ : Type) where
  init : σ
  next : σ → (o : V.Op) → V.toSig.Answer o → σ
  may : V.Job → σ → V.Op → Prop

namespace Monitor

variable {V : Service} {σ L M α β : Type} (m : Monitor V σ) (j : V.Job)

/-- The state of thread `t` after a history. -/
def state (t : Nat) : List (Event V) → σ
  | [] => m.init
  | ev :: log => if ev.tid = t then m.next (state t log) ev.op ev.answer else state t log

/-- Each operation of a history was allowed when it was executed. -/
def Kept : List (Event V) → Prop
  | [] => True
  | ev :: log => m.may ev.job (m.state ev.tid log) ev.op ∧ Kept log

/-- The program awaits only what is allowed, and ends in a state with `Q` of its result. -/
def Obeys : Prog V.toSig α → (α → σ → Prop) → σ → Prop
  | .ret a, Q, s => Q a s
  | .op o k, Q, s => m.may j s o ∧ ∀ r, V.Gives o r → Obeys (k r) Q (m.next s o r)

/-- An earlier part of a history was allowed too. -/
theorem Kept.suffix {m : Monitor V σ} {log log' : List (Event V)} (h : m.Kept log)
    (hs : log' <:+ log) : m.Kept log' := by
  induction log with
  | nil =>
    rw [List.suffix_nil.mp hs]
    trivial
  | cons ev log ih =>
    rcases List.suffix_cons_iff.mp hs with rfl | hs
    · exact h
    · exact ih h.2 hs

/-- Each operation was allowed in some state. -/
theorem Kept.mem {m : Monitor V σ} {log : List (Event V)} (h : m.Kept log) {ev : Event V}
    (hm : ev ∈ log) : ∃ s, m.may ev.job s ev.op := by
  induction log with
  | nil => cases hm
  | cons e log ih =>
    rcases List.mem_cons.mp hm with rfl | hm
    · exact ⟨_, h.1⟩
    · exact ih h.2 hm

/-- What another thread does changes nothing. -/
theorem state_other {t : Nat} {ev : Event V} {log : List (Event V)} (h : ev.tid ≠ t) :
    m.state t (ev :: log) = m.state t log := if_neg h

/-- An operation of the thread itself. -/
theorem state_self (t : Nat) (i : V.Job) (o : V.Op) (a : V.toSig.Answer o)
    (log : List (Event V)) : m.state t (⟨t, i, o, a⟩ :: log) = m.next (m.state t log) o a :=
  if_pos rfl

/-- A thread that has executed nothing is in the initial state. -/
theorem state_absent {t : Nat} {log : List (Event V)} (h : ∀ ev ∈ log, ev.tid ≠ t) :
    m.state t log = m.init := by
  induction log with
  | nil => rfl
  | cons ev log ih =>
    rw [state_other m (h ev (List.mem_cons_self ..))]
    exact ih fun e he ↦ h e (List.mem_cons_of_mem _ he)

variable {m j}

/-- A sequence obeys the monitor if its first part does and leaves a state from which the second
does. -/
theorem obeys_bind {p : Prog V.toSig α} {f : α → Prog V.toSig β} {Q : β → σ → Prop} {s : σ} :
    m.Obeys j (p.bind f) Q s ↔ m.Obeys j p (fun a ↦ m.Obeys j (f a) Q) s := by
  induction p generalizing s with
  | ret a => exact Iff.rfl
  | op o k ih => simp only [Prog.bind_op, Obeys, ih]

/-- A weaker fact may be concluded. -/
theorem Obeys.post {p : Prog V.toSig α} {Q R : α → σ → Prop} {s : σ} (h : m.Obeys j p Q s)
    (hq : ∀ a s, Q a s → R a s) : m.Obeys j p R s := by
  induction p generalizing s with
  | ret a => exact hq a s h
  | op o k ih => exact ⟨h.1, fun r hr ↦ ih r (h.2 r hr)⟩

/-- What every operation keeps holds at the end too. -/
theorem Obeys.frame {p : Prog V.toSig α} {Q : α → σ → Prop} {F : σ → Prop} {s : σ}
    (keep : ∀ s o r, F s → F (m.next s o r)) (h : m.Obeys j p Q s) (hs : F s) :
    m.Obeys j p (fun a s ↦ Q a s ∧ F s) s := by
  induction p generalizing s with
  | ret a => exact ⟨h, hs⟩
  | op o k ih => exact ⟨h.1, fun r hr ↦ ih r (h.2 r hr) (keep s o r hs)⟩

/-! ### Code with a local entity -/

variable (m j)

/-- Code obeys the monitor from a state and an entity, and ends with `Q` of its value or with
`E` of its error. -/
def Runs (c : Code V.toSig L α) (Q : α → L → σ → Prop) (E : V.Err → L → σ → Prop) (l : L)
    (s : σ) : Prop :=
  m.Obeys j (c l)
    (fun r ↦
      match r with
      | (.ok a, l') => Q a l'
      | (.error e, l') => E e l') s

variable {m j} {Q : α → L → σ → Prop} {E : V.Err → L → σ → Prop} {l : L} {s : σ}

/-- Returning a value leaves the entity and the monitor's state. -/
@[simp] theorem runs_pure (a : α) :
    m.Runs j (pure a : Code V.toSig L α) Q E l s ↔ Q a l s := Iff.rfl

/-- Throwing an error leaves the entity and the monitor's state. -/
@[simp] theorem runs_throw (e : V.Err) :
    m.Runs j (@throw (no_index V.Err) (Code V.toSig L) _ α e) Q E l s ↔ E e l s := Iff.rfl

/-- Reading the entity returns it and changes nothing. -/
@[simp] theorem runs_entity {Q : L → L → σ → Prop} :
    m.Runs j (Code.entity : Code V.toSig L L) Q E l s ↔ Q l l s := Iff.rfl

/-- Assigning the entity leaves the monitor's state. -/
@[simp] theorem runs_assign (f : L → L) {Q : Unit → L → σ → Prop} :
    m.Runs j (Code.assign f : Code V.toSig L Unit) Q E l s ↔ Q () (f l) s := Iff.rfl

/-- An awaited operation must be allowed, and every answer moves the monitor's state. -/
@[simp] theorem runs_await (o : V.Op) {Q : V.Res o → L → σ → Prop} :
    @Runs V σ L (no_index (V.Res o)) m j (Code.await o) Q E l s ↔
      m.may j s o ∧ (∀ a, V.Gives o (.ok a) → Q a l (m.next s o (.ok a))) ∧
        ∀ e, V.Gives o (.error e) → E e l (m.next s o (.error e)) := by
  constructor
  · intro h
    exact ⟨h.1, fun a ↦ h.2 (.ok a), fun e ↦ h.2 (.error e)⟩
  · intro h
    refine ⟨h.1, ?_⟩
    intro r hr
    cases r with
    | ok a => exact h.2.1 a hr
    | error e => exact h.2.2 e hr

/-- A sequence; an error skips the rest. -/
@[simp] theorem runs_bind (c : Code V.toSig L α) (f : α → Code V.toSig L β)
    {Q : β → L → σ → Prop} :
    m.Runs j (c >>= f) Q E l s ↔ m.Runs j c (fun a ↦ m.Runs j (f a) Q E) E l s := by
  refine obeys_bind.trans (iff_of_eq (congrArg (fun R ↦ m.Obeys j (c l) R s) ?_))
  funext r
  obtain ⟨r, l'⟩ := r
  cases r with
  | ok a => rfl
  | error e => rfl

/-- The handler starts where the error left the code. -/
@[simp] theorem runs_tryCatch (c : Code V.toSig L α) (h : V.Err → Code V.toSig L α) :
    m.Runs j (@tryCatch (no_index V.Err) (Code V.toSig L) _ α c h) Q E l s ↔
      m.Runs j c Q (fun e ↦ m.Runs j (h e) Q E) l s := by
  refine obeys_bind.trans (iff_of_eq (congrArg (fun R ↦ m.Obeys j (c l) R s) ?_))
  funext r
  obtain ⟨r, l'⟩ := r
  cases r with
  | ok a => rfl
  | error e => rfl

/-- Code on an entity of its own leaves the outer entity. -/
@[simp] theorem runs_on (x : M) (c : Code V.toSig M α) :
    m.Runs j (Code.on x c : Code V.toSig L α) Q E l s ↔
      m.Runs j c (fun a _ ↦ Q a l) (fun e _ ↦ E e l) x s := by
  refine obeys_bind.trans (iff_of_eq (congrArg (fun R ↦ m.Obeys j (c x) R s) ?_))
  funext r
  obtain ⟨r, l'⟩ := r
  cases r with
  | ok a => rfl
  | error e => rfl

/-- The conclusions of a run may be weakened. -/
theorem Runs.post {c : Code V.toSig L α} {Q' : α → L → σ → Prop} {E' : V.Err → L → σ → Prop}
    (h : m.Runs j c Q E l s) (hq : ∀ a l s, Q a l s → Q' a l s)
    (he : ∀ e l s, E e l s → E' e l s) : m.Runs j c Q' E' l s := by
  refine Obeys.post h ?_
  rintro ⟨r, l'⟩ s h
  cases r with
  | ok a => exact hq a l' s h
  | error e => exact he e l' s h

/-- The program of a call obeys the monitor if its code runs under it. -/
theorem obeys_prog {c : Code V.toSig Unit α} {Q : Except V.Err α → σ → Prop} {s : σ} :
    m.Obeys j c.prog Q s ↔
      m.Runs j c (fun a _ ↦ Q (.ok a)) (fun e _ ↦ Q (.error e)) () s := by
  refine obeys_bind.trans (iff_of_eq (congrArg (fun R ↦ m.Obeys j (c ()) R s) ?_))
  funext r
  obtain ⟨r, l'⟩ := r
  cases r with
  | ok a => rfl
  | error e => rfl

/-! ### Rules -/

variable (m j)

/-- Code runs from every entity and state with `P`. -/
def Holds (P : L → σ → Prop) (c : Code V.toSig L α) (Q : α → L → σ → Prop)
    (E : V.Err → L → σ → Prop) : Prop := ∀ l s, P l s → m.Runs j c Q E l s

/-- Code keeps a fact, also where it throws. -/
abbrev Keeps (I : L → σ → Prop) (c : Code V.toSig L α) : Prop :=
  m.Holds j I c (fun _ ↦ I) fun _ ↦ I

/-- An operation that is always allowed and tells nothing. -/
def Quiet (o : V.Op) : Prop := ∀ s, m.may j s o ∧ ∀ r, m.next s o r = s

/-- In this state the operation is allowed and tells nothing. -/
def Idle (s : σ) (o : V.Op) : Prop := m.may j s o ∧ ∀ r, m.next s o r = s

variable {m j}

namespace Holds

variable {P P' : L → σ → Prop} {c : Code V.toSig L α}

/-- A stronger fact may be assumed. -/
theorem pre (h : m.Holds j P c Q E) (hp : ∀ l s, P' l s → P l s) : m.Holds j P' c Q E :=
  fun l s hl ↦ h l s (hp l s hl)

/-- The conclusions of a triple may be weakened. -/
theorem post {Q' : α → L → σ → Prop} {E' : V.Err → L → σ → Prop} (h : m.Holds j P c Q E)
    (hq : ∀ a l s, Q a l s → Q' a l s) (he : ∀ e l s, E e l s → E' e l s) :
    m.Holds j P c Q' E' :=
  fun l s hl ↦ (h l s hl).post hq he

/-- Returning a value needs what is concluded of it. -/
theorem ret (a : α) (h : ∀ l s, P l s → Q a l s) :
    m.Holds j P (pure a : Code V.toSig L α) Q E :=
  fun l s hl ↦ runs_pure a |>.mpr (h l s hl)

/-- Throwing an error needs what is concluded of it. -/
theorem raise (e : V.Err) (h : ∀ l s, P l s → E e l s) :
    m.Holds j P (throw e : Code V.toSig L α) Q E :=
  fun l s hl ↦ runs_throw e |>.mpr (h l s hl)

/-- A sequence; an error skips the rest. -/
theorem bind {I : α → L → σ → Prop} {f : α → Code V.toSig L β} {R : β → L → σ → Prop}
    (h : m.Holds j P c I E) (hf : ∀ a, m.Holds j (I a) (f a) R E) :
    m.Holds j P (c >>= f) R E :=
  fun l s hl ↦ (runs_bind c f).mpr ((h l s hl).post hf fun _ _ _ h ↦ h)

/-- The handler starts where the error left the code. -/
theorem tryCatch {F : V.Err → L → σ → Prop} {h : V.Err → Code V.toSig L α}
    (hc : m.Holds j P c Q F) (hh : ∀ e, m.Holds j (F e) (h e) Q E) :
    m.Holds j P (MonadExcept.tryCatch c h) Q E :=
  fun l s hl ↦ (runs_tryCatch c h).mpr ((hc l s hl).post (fun _ _ _ h ↦ h) hh)

/-- Reading the entity and going on with its value. -/
theorem read {f : L → Code V.toSig L α}
    (h : ∀ x, m.Holds j (fun l s ↦ l = x ∧ P l s) (f x) Q E) :
    m.Holds j P ((Code.entity : Code V.toSig L L) >>= f) Q E :=
  fun l s hl ↦ (runs_bind _ f).mpr (runs_entity.mpr (h l l s ⟨rfl, hl⟩))

/-- What is known of an answer may be assumed. -/
theorem assume {p : Prop} (h : p → m.Holds j P c Q E) : m.Holds j (fun l s ↦ p ∧ P l s) c Q E :=
  fun l s hl ↦ h hl.1 l s hl.2

/-- Reading the entity where its value does not matter. -/
theorem skip {f : L → Code V.toSig L α} (h : ∀ x, m.Holds j P (f x) Q E) :
    m.Holds j P ((Code.entity : Code V.toSig L L) >>= f) Q E :=
  read fun x ↦ (h x).pre fun _ _ hl ↦ hl.2

/-- Assigning the entity needs what is concluded of the new entity. -/
theorem assign {R : Unit → L → σ → Prop} (f : L → L) (h : ∀ l s, P l s → R () (f l) s) :
    m.Holds j P (Code.assign f : Code V.toSig L Unit) R E :=
  fun l s hl ↦ (runs_assign f).mpr (h l s hl)

/-- An awaited operation must be allowed; each of its answers is concluded from. -/
theorem await {o : V.Op} {R : V.Res o → L → σ → Prop} (may : ∀ l s, P l s → m.may j s o)
    (ok : ∀ a l s, V.Gives o (.ok a) → P l s → R a l (m.next s o (.ok a)))
    (fail : ∀ e l s, V.Gives o (.error e) → P l s → E e l (m.next s o (.error e))) :
    m.Holds j P (Code.await o : Code V.toSig L (V.Res o)) R E :=
  fun l s hl ↦ (runs_await o).mpr
    ⟨may l s hl, fun a ha ↦ ok a l s ha hl, fun e he ↦ fail e l s he hl⟩

/-- Code on an entity of its own keeps facts of the outer entity. -/
theorem on {x : M} {c : Code V.toSig M α}
    (h : ∀ l, m.Holds j (fun y s ↦ y = x ∧ P l s) c (fun a _ ↦ Q a l) fun e _ ↦ E e l) :
    m.Holds j P (Code.on x c : Code V.toSig L α) Q E :=
  fun l s hl ↦ (runs_on x c).mpr (h l x s ⟨rfl, hl⟩)

/-- What every operation keeps may be added. -/
theorem frame {F : σ → Prop} (keep : ∀ s o r, F s → F (m.next s o r)) (h : m.Holds j P c Q E) :
    m.Holds j (fun l s ↦ P l s ∧ F s) c (fun a l s ↦ Q a l s ∧ F s)
      fun e l s ↦ E e l s ∧ F s := by
  intro l s hl
  apply Obeys.post ((h l s hl.1).frame keep hl.2)
  rintro ⟨r, l'⟩ s' hs'
  cases r with
  | ok a => exact hs'
  | error e => exact hs'

/-- A quiet operation keeps every fact. -/
theorem quiet {o : V.Op} (ho : m.Quiet j o) {R : L → σ → Prop} :
    m.Keeps j R (Code.await o : Code V.toSig L (V.Res o)) := by
  apply await
  · exact fun _ s _ ↦ (ho s).1
  · intro a l s _ h
    rw [(ho s).2]
    exact h
  · intro e l s _ h
    rw [(ho s).2]
    exact h

/-- A quiet operation keeps every fact, and its reply is one that it gives. -/
theorem gives {o : V.Op} (ho : m.Quiet j o) {R : L → σ → Prop} :
    m.Holds j R (Code.await o : Code V.toSig L (V.Res o))
      (fun a l s ↦ V.Gives o (.ok a) ∧ R l s) fun _ ↦ R := by
  apply await
  · exact fun _ s _ ↦ (ho s).1
  · intro a l s hg h
    rw [(ho s).2]
    exact ⟨hg, h⟩
  · intro e l s _ h
    rw [(ho s).2]
    exact h

end Holds

private theorem obeys_of_idle {p : Prog V.toSig α} {s : σ} (hp : p.All (m.Idle j s)) :
    m.Obeys j p (fun _ s' ↦ s' = s) s := by
  induction p with
  | ret a => exact rfl
  | op o k ih =>
    refine ⟨hp.1.1, fun r _ ↦ ?_⟩
    rw [hp.1.2 r]
    exact ih r (hp.2 r)

/-- Code that awaits only what is idle in a state stays in it. -/
theorem Holds.stays {s₀ : σ} {c : Code V.toSig L α} (h : c.Awaits (m.Idle j s₀)) :
    m.Keeps j (fun _ s ↦ s = s₀) c := by
  rintro l s rfl
  apply Obeys.post (obeys_of_idle (h l))
  rintro ⟨r, l'⟩ s' rfl
  cases r with
  | ok a => rfl
  | error e => rfl

/-- Code that awaits only quiet operations keeps every fact about the state. -/
theorem Holds.quietly {c : Code V.toSig L α} (h : c.Awaits (m.Quiet j)) {I : σ → Prop} :
    m.Keeps j (fun _ ↦ I) c := by
  intro l s hs
  apply Obeys.post (obeys_of_idle ((h l).mono fun o ho ↦ ho s))
  rintro ⟨r, l'⟩ s' rfl
  cases r with
  | ok a => exact hs
  | error e => exact hs

private theorem obeys_of_inside {I : σ → Prop} {p : Prog V.toSig α} {s : σ}
    (hp : p.All fun o ↦ ∀ s, I s → m.may j s o ∧ ∀ r, I (m.next s o r)) (hs : I s) :
    m.Obeys j p (fun _ ↦ I) s := by
  induction p generalizing s with
  | ret a => exact hs
  | op o k ih => exact ⟨(hp.1 s hs).1, fun r _ ↦ ih r (hp.2 r) ((hp.1 s hs).2 r)⟩

/-- Code that awaits only what a fact allows and what keeps it keeps it. -/
theorem Holds.inside {I : σ → Prop} {c : Code V.toSig L α}
    (h : c.Awaits fun o ↦ ∀ s, I s → m.may j s o ∧ ∀ r, I (m.next s o r)) :
    m.Keeps j (fun _ ↦ I) c := by
  intro l s hs
  apply Obeys.post (obeys_of_inside (h l) hs)
  rintro ⟨r, l'⟩ s' hs'
  cases r with
  | ok a => exact hs'
  | error e => exact hs'

/-! ### Runs -/

variable (m) (Q : V.Job → Except V.Err V.Reply → σ → Prop)

/-- Every thread has obeyed the monitor, and will. -/
structure Watches (p : Pool V) : Prop where
  kept : m.Kept p.conf.log
  obeys : ∀ t i q, p.At t i q → m.Obeys i q (Q i) (m.state t p.conf.log)
  threads : ∀ t, p.threads.length ≤ t → m.state t p.conf.log = m.init

variable {m Q} {p : Pool V}

namespace Watches

/-- The monitor watches a run that has not begun. -/
theorem start (s : V.State) : m.Watches Q (Pool.start s) where
  kept := trivial
  obeys t i q h := by cases h
  threads _ _ := rfl

/-- A new job obeys from the initial state. -/
theorem spawn (h : m.Watches Q p) (hc : ∀ i, m.Obeys i (V.code i) (Q i) m.init) (i : V.Job) :
    m.Watches Q (p.spawn i) where
  kept := h.kept
  obeys t i' q ht := by
    rcases Pool.at_spawn.mp ht with old | ⟨rfl, rfl, rfl⟩
    · exact h.obeys t i' q old
    · show m.Obeys i' (V.code i') (Q i') (m.state p.threads.length p.conf.log)
      rw [h.threads _ (Nat.le_refl _)]
      exact hc i'
  threads t ht := by
    have hl : p.threads.length ≤ t := by
      simp only [Pool.spawn, List.length_append, List.length_cons, List.length_nil] at ht
      omega
    exact h.threads t hl

/-- A step takes the thread to the next state. -/
theorem advance (h : m.Watches Q p) {t : Nat} {i : V.Job} {x : V.Choice} {o : V.Op}
    {k : V.toSig.Answer o → V.Program} (ht : p.At t i (.op o k)) :
    m.Watches Q (p.advance t i x o k) where
  kept := ⟨(h.obeys t i _ ht).1, h.kept⟩
  obeys u i' q hu := by
    rcases (Pool.at_advance ht).mp hu with ⟨rfl, rfl, rfl⟩ | ⟨hne, hu⟩
    · show m.Obeys i' _ (Q i') (m.state u (⟨u, i', o, p.conf.answer x o⟩ :: p.conf.log))
      rw [state_self]
      exact (h.obeys u i' _ ht).2 _ ⟨x, p.conf.state, rfl⟩
    · show m.Obeys i' q (Q i') (m.state u (⟨t, i, o, p.conf.answer x o⟩ :: p.conf.log))
      rw [state_other m (Ne.symm hne)]
      exact h.obeys u i' q hu
  threads u hu := by
    have hl : p.threads.length ≤ u := by
      simpa only [Pool.advance, List.length_set] using hu
    have hne : t ≠ u := by
      have := (List.getElem?_eq_some_iff.mp ht).1
      omega
    show m.state u (⟨t, i, o, p.conf.answer x o⟩ :: p.conf.log) = m.init
    rw [state_other m hne]
    exact h.threads u hl

/-- Other states of the service have the same history. -/
theorem congr (h : m.Watches Q p) {q : Pool V} (hl : q.conf.log = p.conf.log)
    (ht : q.threads = p.threads) : m.Watches Q q where
  kept := by
    rw [hl]
    exact h.kept
  obeys t i r hr := by
    rw [hl]
    exact h.obeys t i r (by unfold Pool.At at hr ⊢; rw [← ht]; exact hr)
  threads t hlen := by
    rw [hl]
    exact h.threads t (ht ▸ hlen)

/-- What a thread is about to execute is allowed. -/
theorem may (h : m.Watches Q p) {t : Nat} {i : V.Job} {o : V.Op}
    {k : V.toSig.Answer o → V.Program} (ht : p.At t i (.op o k)) :
    m.may i (m.state t p.conf.log) o :=
  (h.obeys t i _ ht).1

/-- A thread that has ended satisfies what is concluded of its job. -/
theorem ended (h : m.Watches Q p) {t : Nat} {i : V.Job} {r : Except V.Err V.Reply}
    (ht : p.At t i (.ret r)) : Q i r (m.state t p.conf.log) :=
  h.obeys t i _ ht

end Watches

/-- Every run is watched, if every job obeys. -/
theorem watches_of_reach {G : Regime V} {init : V.State → Prop}
    (hc : ∀ i, m.Obeys i (V.code i) (Q i) m.init) (hp : Pool.Reach G init p) : m.Watches Q p := by
  induction hp with
  | start _ => exact .start _
  | spawn _ _ ih => exact ih.spawn hc _
  | run _ ht _ ih => exact ih.advance ht

end Monitor

/-- Every recorded answer was given in some state. -/
theorem Pool.Reach.gives {V : Service} {G : Regime V} {init : V.State → Prop} {p : Pool V}
    (hp : Reach G init p) {ev : Event V} (he : ev ∈ p.conf.log) : V.Gives ev.op ev.answer := by
  induction hp with
  | start _ => cases he
  | spawn _ _ ih => exact ih he
  | @run p t j x o k _ _ _ ih =>
    rcases List.mem_cons.mp he with rfl | he
    · exact ⟨x, p.conf.state, rfl⟩
    · exact ih he

end Ticketing.Async
