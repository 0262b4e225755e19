import Ticketing.Async.Prog

/-!
# Running one call alone

Library `Async`. A handler answers the operations of a call one after another, from a state
and the position of the operation. The rules of `exec` follow the code: they compute a call
under any pattern of failures.
-/

namespace Ticketing.Async

/-- Answers the operation at a position in a state. -/
abbrev Handler (S : Sig) (σ : Type) : Type := Nat → (o : S.Op) → σ → S.Answer o × σ

/-- What a call leaves: its result, its entity, the next position and the state. -/
structure Outcome (S : Sig) (L α σ : Type) where
  result : Except S.Err α
  entity : L
  position : Nat
  state : σ

variable {S : Sig} {σ L M α β : Type}

/-- Run a program from a position and a state. -/
def Prog.run (h : Handler S σ) : Prog S α → Nat → σ → α × Nat × σ
  | .ret a, n, s => (a, n, s)
  | .op o k, n, s => (k (h n o s).1).run h (n + 1) (h n o s).2

/-- A sequence runs its parts one after another. -/
theorem Prog.run_bind (h : Handler S σ) (p : Prog S α) (f : α → Prog S β) (n : Nat) (s : σ) :
    (p.bind f).run h n s = (f (p.run h n s).1).run h (p.run h n s).2.1 (p.run h n s).2.2 := by
  induction p generalizing n s with
  | ret a => rfl
  | op o k ih => simp only [bind_op, Prog.run, ih]

namespace Code

variable (h : Handler S σ) (n : Nat) (l : L) (s : σ)

/-- Run code on an entity. -/
def exec (c : Code S L α) : Outcome S L α σ :=
  let r := (c l).run h n s
  ⟨r.1.1, r.1.2, r.2.1, r.2.2⟩

/-- A returned value ends the code. -/
@[simp] theorem exec_pure (a : α) : (pure a : Code S L α).exec h n l s = ⟨.ok a, l, n, s⟩ := rfl

/-- A thrown error ends the execution. -/
@[simp] theorem exec_throw (e : S.Err) :
    exec h n l s (@throw (no_index S.Err) (Code S L) _ α e) = ⟨.error e, l, n, s⟩ := rfl

/-- Reading the entity returns it and changes nothing. -/
@[simp] theorem exec_entity : (entity : Code S L L).exec h n l s = ⟨.ok l, l, n, s⟩ := rfl

/-- Assigning the entity leaves the state. -/
@[simp] theorem exec_assign (f : L → L) :
    (assign f : Code S L Unit).exec h n l s = ⟨.ok (), f l, n, s⟩ := rfl

/-- The handler answers an operation. -/
@[simp] theorem exec_await (o : S.Op) :
    @exec S σ L (no_index (S.Res o)) h n l s (await o) = ⟨(h n o s).1, l, n + 1, (h n o s).2⟩ :=
  rfl

/-- A sequence goes on unless its first part throws. -/
@[simp] theorem exec_bind (c : Code S L α) (f : α → Code S L β) :
    (c >>= f).exec h n l s =
      match c.exec h n l s with
      | ⟨.ok a, l', n', s'⟩ => (f a).exec h n' l' s'
      | ⟨.error e, l', n', s'⟩ => ⟨.error e, l', n', s'⟩ := by
  show exec h n l s (andThen c f) = _
  unfold exec andThen
  rw [Prog.run_bind]
  rcases (c l).run h n s with ⟨⟨r, l'⟩, n', s'⟩
  cases r with
  | ok a => rfl
  | error e => rfl

variable {h n l s} in
/-- A sequence that returns has two parts that return. -/
theorem exec_bind_ok {c : Code S L α} {f : α → Code S L β} {b : β} {l' : L} {n' : Nat} {s' : σ}
    (he : (c >>= f).exec h n l s = ⟨.ok b, l', n', s'⟩) :
    ∃ a m n₁ s₁, c.exec h n l s = ⟨.ok a, m, n₁, s₁⟩ ∧
      (f a).exec h n₁ m s₁ = ⟨.ok b, l', n', s'⟩ := by
  rw [exec_bind] at he
  rcases hc : c.exec h n l s with ⟨r, m, n₁, s₁⟩
  rw [hc] at he
  cases r with
  | ok a => exact ⟨a, m, n₁, s₁, rfl, he⟩
  | error e => cases he

/-- A handler of errors goes on where the code threw. -/
@[simp] theorem exec_tryCatch (c : Code S L α) (f : S.Err → Code S L α) :
    exec h n l s (@tryCatch (no_index S.Err) (Code S L) _ α c f) =
      match c.exec h n l s with
      | ⟨.ok a, l', n', s'⟩ => ⟨.ok a, l', n', s'⟩
      | ⟨.error e, l', n', s'⟩ => (f e).exec h n' l' s' := by
  show exec h n l s (handle c f) = _
  unfold exec handle
  rw [Prog.run_bind]
  rcases (c l).run h n s with ⟨⟨r, l'⟩, n', s'⟩
  cases r with
  | ok a => rfl
  | error e => rfl

/-- Code on its own entity leaves the entity outside as it is. -/
@[simp] theorem exec_on (m : M) (c : Code S M α) :
    (on m c : Code S L α).exec h n l s =
      ⟨(c.exec h n m s).result, l, (c.exec h n m s).position, (c.exec h n m s).state⟩ := by
  unfold exec on
  rw [Prog.run_bind]
  rfl

end Code

/-! ### Which operations code awaits -/

/-- Every operation of the program satisfies `P`, whatever the operations answer. -/
def Prog.All (P : S.Op → Prop) : Prog S α → Prop
  | .ret _ => True
  | .op o k => P o ∧ ∀ r, (k r).All P

/-- A sequence awaits what its parts await. -/
theorem Prog.All.bind {P : S.Op → Prop} {p : Prog S α} {f : α → Prog S β} (hp : p.All P)
    (hf : ∀ a, (f a).All P) : (p.bind f).All P := by
  induction p with
  | ret a => exact hf a
  | op o k ih => exact ⟨hp.1, fun r ↦ ih r (hp.2 r)⟩

/-- More operations may be allowed. -/
theorem Prog.All.mono {P Q : S.Op → Prop} {p : Prog S α} (hp : p.All P) (h : ∀ o, P o → Q o) :
    p.All Q := by
  induction p with
  | ret a => trivial
  | op o k ih => exact ⟨h o hp.1, fun r ↦ ih r (hp.2 r)⟩

/-- What each of its operations keeps, a program keeps. -/
theorem Prog.All.keeps {P : S.Op → Prop} {K : σ → Prop} {h : Handler S σ}
    (hk : ∀ n o s, P o → K s → K (h n o s).2) {p : Prog S α} (hp : p.All P) {n : Nat} {s : σ}
    (hs : K s) : K (p.run h n s).2.2 := by
  induction p generalizing n s with
  | ret a => exact hs
  | op o k ih => exact ih _ (hp.2 _) (hk n o s hp.1 hs)

/-- What every operation keeps, a program keeps. -/
theorem Prog.keeps {K : σ → Prop} {h : Handler S σ} (hk : ∀ n o s, K s → K (h n o s).2)
    (p : Prog S α) {n : Nat} {s : σ} (hs : K s) : K (p.run h n s).2.2 := by
  induction p generalizing n s with
  | ret a => exact hs
  | op o k ih => exact ih _ (hk n o s hs)

namespace Code

/-- What every operation keeps, code keeps. -/
theorem exec_keeps {K : σ → Prop} {h : Handler S σ} (hk : ∀ n o s, K s → K (h n o s).2)
    (c : Code S L α) {n : Nat} {l : L} {s : σ} (hs : K s) : K (c.exec h n l s).state :=
  (c l).keeps hk hs

/-- Every operation of the code satisfies `P`. -/
def Awaits (P : S.Op → Prop) (c : Code S L α) : Prop := ∀ l, (c l).All P

namespace Awaits

variable {P : S.Op → Prop}

/-- Returning a value awaits no operation. -/
theorem ret (a : α) : (pure a : Code S L α).Awaits P := fun _ ↦ trivial

/-- Throwing an error awaits no operation. -/
theorem raise (e : S.Err) : (throw e : Code S L α).Awaits P := fun _ ↦ trivial

/-- Reading the entity awaits nothing. -/
theorem entity : (Code.entity : Code S L L).Awaits P := fun _ ↦ trivial

/-- Assigning the entity awaits nothing. -/
theorem assign (f : L → L) : (Code.assign f : Code S L Unit).Awaits P := fun _ ↦ trivial

/-- Awaiting an operation awaits that one alone. -/
theorem await {o : S.Op} (h : P o) : (Code.await o : Code S L (S.Res o)).Awaits P :=
  fun _ ↦ ⟨h, fun _ ↦ trivial⟩

/-- A sequence awaits what its parts await. -/
theorem bind {c : Code S L α} {f : α → Code S L β} (hc : c.Awaits P) (hf : ∀ a, (f a).Awaits P) :
    (c >>= f).Awaits P := by
  intro l
  refine (hc l).bind ?_
  rintro ⟨r, l'⟩
  cases r with
  | ok a => exact hf a l'
  | error e => trivial

/-- A `try` block awaits what its body and its handler await. -/
theorem tryCatch {c : Code S L α} {f : S.Err → Code S L α} (hc : c.Awaits P)
    (hf : ∀ e, (f e).Awaits P) : (MonadExcept.tryCatch c f).Awaits P := by
  intro l
  refine (hc l).bind ?_
  rintro ⟨r, l'⟩
  cases r with
  | ok a => trivial
  | error e => exact hf e l'

/-- Code on an entity of its own awaits what it awaits alone. -/
theorem on {m : M} {c : Code S M α} (hc : c.Awaits P) : (Code.on m c : Code S L α).Awaits P :=
  fun _ ↦ (hc m).bind fun _ ↦ trivial

/-- More operations may be allowed. -/
theorem mono {Q : S.Op → Prop} {c : Code S L α} (hc : c.Awaits P) (h : ∀ o, P o → Q o) :
    c.Awaits Q :=
  fun l ↦ (hc l).mono h

/-- What each of its operations keeps, code keeps. -/
theorem exec {K : σ → Prop} {h : Handler S σ} (hk : ∀ n o s, P o → K s → K (h n o s).2)
    {c : Code S L α} (hc : c.Awaits P) {n : Nat} {l : L} {s : σ} (hs : K s) :
    K (c.exec h n l s).state :=
  (hc l).keeps hk hs

end Awaits

end Code

end Ticketing.Async
