import Ticketing.Async.Run

/-!
# What a call leaves

Library `Async`. A call that runs alone leads from what held before it to what holds after
it returned or threw, under a handler of its operations. One rule for each way to build
code; a recording handler keeps the answers that were given, a visiting one the states.
-/

namespace Ticketing.Async

variable {S : Sig} {σ L M α β : Type}

/-- The call threw. -/
def Outcome.throws (out : Outcome S L α σ) : Bool :=
  match out.result with
  | .ok _ => false
  | .error _ => true

/-- Code that starts where `P` holds ends where `Q` holds of the value it returns, or `E` of
the error it throws. -/
def Code.Leaves (h : Handler S σ) (P : L → σ → Prop) (c : Code S L α) (Q : α → L → σ → Prop)
    (E : S.Err → L → σ → Prop) : Prop :=
  ∀ n l s, P l s → match c.exec h n l s with
    | ⟨.ok a, l', _, s'⟩ => Q a l' s'
    | ⟨.error e, l', _, s'⟩ => E e l' s'

namespace Code.Leaves

variable {h : Handler S σ} {P P' : L → σ → Prop} {Q Q' : α → L → σ → Prop}
  {R : β → L → σ → Prop} {E E' : S.Err → L → σ → Prop} {c : Code S L α}

/-- Returning a value needs what is concluded of it. -/
theorem ret (a : α) (hq : ∀ l s, P l s → Q a l s) : Leaves h P (pure a) Q E :=
  fun _ l s hp ↦ hq l s hp

/-- Throwing an error needs what is concluded of it. -/
theorem raise (e : S.Err) (he : ∀ l s, P l s → E e l s) : Leaves h P (throw e) Q E :=
  fun _ l s hp ↦ he l s hp

/-- Reading the entity returns it and changes nothing. -/
theorem entity {Q : L → L → σ → Prop} (hq : ∀ l s, P l s → Q l l s) :
    Leaves h P Code.entity Q E :=
  fun _ l s hp ↦ hq l s hp

/-- Assigning the entity needs what is concluded of the new entity. -/
theorem assign {Q : Unit → L → σ → Prop} (f : L → L) (hq : ∀ l s, P l s → Q () (f l) s) :
    Leaves h P (Code.assign f) Q E :=
  fun _ l s hp ↦ hq l s hp

/-- An awaited operation is answered by the handler, which moves the state. -/
theorem await {o : S.Op} {Q : S.Res o → L → σ → Prop}
    (hq : ∀ n l s a s', P l s → h n o s = (.ok a, s') → Q a l s')
    (he : ∀ n l s e s', P l s → h n o s = (.error e, s') → E e l s') :
    Leaves h P (Code.await o) Q E := by
  intro n l s hp
  rw [exec_await]
  rcases hr : h n o s with ⟨r, s'⟩
  cases r with
  | ok a => exact hq n l s a s' hp hr
  | error e => exact he n l s e s' hp hr

/-- A sequence leaves what its second part leaves, or the error of its first part. -/
theorem bind {f : α → Code S L β} (hc : Leaves h P c Q E) (hf : ∀ a, Leaves h (Q a) (f a) R E) :
    Leaves h P (c >>= f) R E := by
  intro n l s hp
  have first := hc n l s hp
  rw [Code.exec_bind]
  rcases hr : c.exec h n l s with ⟨r, l', n', s'⟩
  rw [hr] at first
  cases r with
  | ok a => exact hf a n' l' s' first
  | error e => exact first

/-- A handler of errors goes on where the code threw. -/
theorem tryCatch {f : S.Err → Code S L α} (hc : Leaves h P c Q E')
    (hf : ∀ e, Leaves h (E' e) (f e) Q E) : Leaves h P (MonadExcept.tryCatch c f) Q E := by
  intro n l s hp
  have first := hc n l s hp
  rw [Code.exec_tryCatch]
  rcases hr : c.exec h n l s with ⟨r, l', n', s'⟩
  rw [hr] at first
  cases r with
  | ok a => exact first
  | error e => exact hf e n' l' s' first

/-- Code on an entity of its own leaves the entity outside as it is. -/
theorem on {m : M} {d : Code S M α} {P : M → σ → Prop} {Q : α → σ → Prop} {E : S.Err → σ → Prop}
    (hc : Leaves h P d (fun a _ ↦ Q a) fun e _ ↦ E e) :
    Leaves h (fun (_ : L) ↦ P m) (Code.on m d) (fun a _ ↦ Q a) fun e _ ↦ E e := by
  intro n l s hp
  have inner := hc n m s hp
  rw [Code.exec_on]
  rcases hr : d.exec h n m s with ⟨r, m', n', s'⟩
  rw [hr] at inner
  cases r with
  | ok a => exact inner
  | error e => exact inner

/-- What holds before may be stronger. -/
theorem pre (hc : Leaves h P c Q E) (hp : ∀ l s, P' l s → P l s) : Leaves h P' c Q E :=
  fun n l s h' ↦ hc n l s (hp l s h')

/-- What holds after may be weaker. -/
theorem post (hc : Leaves h P c Q E) (hq : ∀ a l s, Q a l s → Q' a l s)
    (he : ∀ e l s, E e l s → E' e l s) : Leaves h P c Q' E' := by
  intro n l s hp
  have known := hc n l s hp
  rcases hr : c.exec h n l s with ⟨r, l', n', s'⟩
  rw [hr] at known
  cases r with
  | ok a => exact hq a l' s' known
  | error e => exact he e l' s' known

/-- A fact about no state may be assumed. -/
theorem assume {φ : Prop} (hc : φ → Leaves h P c Q E) : Leaves h (fun l s ↦ P l s ∧ φ) c Q E :=
  fun n l s hp ↦ hc hp.2 n l s hp.1

/-- A triple from `P` follows from one triple for each state where `P` holds. -/
theorem from_each (hc : ∀ l s, P l s → Leaves h (fun l' s' ↦ l' = l ∧ s' = s) c Q E) :
    Leaves h P c Q E :=
  fun n l s hp ↦ hc l s hp n l s ⟨rfl, rfl⟩

/-- A call that ends has returned or thrown. -/
theorem outcome {n : Nat} {l : L} {s : σ} {Q : σ → Prop} {E : σ → Prop}
    (hc : Leaves h P c (fun _ _ ↦ Q) fun _ _ ↦ E) (hs : P l s) :
    ((c.exec h n l s).throws = false ∧ Q (c.exec h n l s).state) ∨
      ((c.exec h n l s).throws = true ∧ E (c.exec h n l s).state) := by
  have left := hc n l s hs
  rcases hr : c.exec h n l s with ⟨r, l', n', s'⟩
  rw [hr] at left
  cases r with
  | ok _ => exact .inl ⟨rfl, left⟩
  | error _ => exact .inr ⟨rfl, left⟩

end Code.Leaves

/-- An executed operation and its answer. -/
structure Done (S : Sig) where
  op : S.Op
  answer : S.Answer op

/-- The operation threw. -/
def Done.failed (d : Done S) : Bool :=
  match d.answer with
  | .ok _ => false
  | .error _ => true

/-- The handler that also records what it answered, newest operation first. -/
def Handler.recording (h : Handler S σ) : Handler S (σ × List (Done S)) := fun n o s ↦
  ((h n o s.1).1, (h n o s.1).2, ⟨o, (h n o s.1).1⟩ :: s.2)

/-- The handler that also records the states that it reaches, newest first. -/
def Handler.visiting (h : Handler S σ) : Handler S (σ × List σ) := fun n o s ↦
  ((h n o s.1).1, (h n o s.1).2, (h n o s.1).2 :: s.2)

end Ticketing.Async
