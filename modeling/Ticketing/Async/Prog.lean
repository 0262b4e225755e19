/-!
# Asynchronous programs

Library `Async`. A program is a tree of atomic operations: every `await` of the modelled
code is one operation, and what follows it depends on the reply. `Code` adds a local
entity that keeps its assignments when the code throws, as an object in memory does.
-/

namespace Ticketing.Async

universe u

/-- Atomic operations, the replies they give and the errors they raise. -/
structure Sig where
  Op : Type
  Res : Op → Type
  Err : Type

namespace Sig

/-- What an operation answers: its reply, or the error it throws. -/
abbrev Answer (S : Sig) (o : S.Op) : Type := Except S.Err (S.Res o)

/-- One operation under the fault that the environment chose: one that can fail does so without
effect. -/
def attempt (S : Sig) {σ : Type} (fallible : S.Op → Bool) (fault : Option S.Err)
    (perform : (o : S.Op) → σ → S.Answer o × σ) (o : S.Op) (s : σ) : S.Answer o × σ :=
  match fallible o, fault with
  | true, some e => (.error e, s)
  | _, _ => perform o s

variable {S : Sig} {σ : Type} {fallible : S.Op → Bool} {fault : Option S.Err}
  {perform : (o : S.Op) → σ → S.Answer o × σ}

/-- An operation fails without effect, or has its effect. -/
theorem attempt_cases (o : S.Op) (s : σ) :
    (fallible o = true ∧ ∃ e, S.attempt fallible fault perform o s = (.error e, s)) ∨
      S.attempt fallible fault perform o s = perform o s := by
  unfold attempt
  cases fallible o with
  | false => exact .inr rfl
  | true =>
    cases fault with
    | none => exact .inr rfl
    | some e => exact .inl ⟨rfl, e, rfl⟩

/-- A fault befalls an operation that can fail. -/
theorem attempt_some {o : S.Op} (h : fallible o = true) (e : S.Err) (s : σ) :
    S.attempt fallible (some e) perform o s = (.error e, s) := by
  unfold attempt
  rw [h]

/-- Without a fault every operation has its effect. -/
theorem attempt_none (o : S.Op) (s : σ) :
    S.attempt fallible none perform o s = perform o s := by
  unfold attempt
  cases fallible o <;> rfl

/-- An operation that cannot fail has its effect. -/
theorem attempt_of_infallible {o : S.Op} (h : fallible o = false) (s : σ) :
    S.attempt fallible fault perform o s = perform o s := by
  unfold attempt
  rw [h]

end Sig

/-- A program over `S`; each node awaits one operation. -/
inductive Prog (S : Sig) (α : Type) where
  | ret (a : α)
  | op (o : S.Op) (k : S.Answer o → Prog S α)

namespace Prog

variable {S : Sig} {α β γ : Type}

/-- Run `p`, then continue with `f` on its result. -/
def bind : Prog S α → (α → Prog S β) → Prog S β
  | .ret a, f => f a
  | .op o k, f => .op o (fun r ↦ (k r).bind f)

/-- Binding a finished program continues with its result. -/
@[simp] theorem bind_ret (a : α) (f : α → Prog S β) : (Prog.ret a).bind f = f a := rfl

/-- Binding under an operation binds every continuation. -/
@[simp] theorem bind_op (o : S.Op) (k : S.Answer o → Prog S α) (f : α → Prog S β) :
    (Prog.op o k).bind f = .op o (fun r ↦ (k r).bind f) := rfl

/-- Whether the program has ended. -/
def ended : Prog S α → Bool
  | .ret _ => true
  | .op _ _ => false

/-- Every result the program can end with, whatever the operations answer, satisfies `Q`. -/
def Results (Q : α → Prop) : Prog S α → Prop
  | .ret a => Q a
  | .op _ k => ∀ r, (k r).Results Q

/-- Every program satisfies the trivial condition on its results. -/
theorem Results.any (p : Prog S α) : p.Results fun _ ↦ True := by
  induction p with
  | ret a => trivial
  | op o k ih => exact ih

/-- Results of a sequence are results of its second part. -/
theorem Results.bind {Q : α → Prop} {R : β → Prop} {p : Prog S α} {f : α → Prog S β}
    (hp : p.Results Q) (hf : ∀ a, Q a → (f a).Results R) : (p.bind f).Results R := by
  induction p with
  | ret a => exact hf a hp
  | op o k ih => exact fun r ↦ ih r (hp r)

end Prog

/-- Code with a local entity `L`: assignments made before a throw are kept. -/
def Code (S : Sig) (L α : Type) : Type := L → Prog S (Except S.Err α × L)

namespace Code

variable {S : Sig} {L M α β : Type}

/-- Return a value. -/
def ret (a : α) : Code S L α := fun l ↦ .ret (.ok a, l)

/-- Throw an error. -/
def raise (e : S.Err) : Code S L α := fun l ↦ .ret (.error e, l)

/-- Run `c`; on a value continue with `f`, on an error skip it. -/
def andThen (c : Code S L α) (f : α → Code S L β) : Code S L β := fun l ↦
  (c l).bind fun
    | (.ok a, l') => f a l'
    | (.error e, l') => .ret (.error e, l')

/-- Run `c`; on an error continue with the handler, in the local state the error left. -/
def handle (c : Code S L α) (h : S.Err → Code S L α) : Code S L α := fun l ↦
  (c l).bind fun
    | (.ok a, l') => .ret (.ok a, l')
    | (.error e, l') => h e l'

/-- Read the local entity. -/
def entity : Code S L L := fun l ↦ .ret (.ok l, l)

/-- Assign the local entity. -/
def assign (f : L → L) : Code S L Unit := fun l ↦ .ret (.ok (), f l)

/-- Await one operation. -/
def await (o : S.Op) : Code S L (S.Res o) := fun l ↦ .op o fun r ↦ .ret (r, l)

/-- Run code on an entity of its own and drop the entity afterwards. -/
def on (m : M) (c : Code S M α) : Code S L α := fun l ↦
  (c m).bind fun (r, _) ↦ .ret (r, l)

instance : Monad (Code S L) where
  pure := ret
  bind := andThen

instance : MonadExceptOf S.Err (Code S L) where
  throw := raise
  tryCatch := handle

/-- Code that starts by reading the entity goes on with its value. -/
theorem entity_bind (f : L → Code S L α) (l : L) : (entity >>= f) l = f l l := rfl

/-- The program of a call: no entity is visible outside. -/
def prog (c : Code S Unit α) : Prog S (Except S.Err α) := (c ()).bind fun (r, _) ↦ .ret r

end Code

end Ticketing.Async
