import Ticketing.Async.Run

/-!
# How many operations a call awaits

Library `Async`. Straight code that returns has awaited a number of operations that does not
depend on the answers, so the environment's choice for an operation is found by its position.
-/

namespace Ticketing.Async

namespace Code

variable {S : Sig} {L M α β : Type} {j k : Nat}

/-- When the code returns it has awaited `k` operations. -/
def Takes (k : Nat) (c : Code S L α) : Prop :=
  ∀ {σ : Type} (h : Handler S σ) n l s a l' n' s',
    c.exec h n l s = ⟨.ok a, l', n', s'⟩ → n' = n + k

/-- The code does not return. -/
def Throws (c : Code S L α) : Prop :=
  ∀ {σ : Type} (h : Handler S σ) n l s a l' n' s', c.exec h n l s ≠ ⟨.ok a, l', n', s'⟩

/-- Throwing does not return. -/
theorem Throws.raise (e : S.Err) : (throw e : Code S L α).Throws := by
  intro σ h n l s a l' n' s' he
  cases he

/-- A sequence does not return when its second part does not. -/
theorem Throws.after {c : Code S L α} {f : α → Code S L β} (hf : ∀ a, (f a).Throws) :
    (c >>= f).Throws := by
  intro σ h n l s b l' n' s' he
  obtain ⟨a, m, n₁, s₁, -, hrest⟩ := exec_bind_ok he
  exact hf a h n₁ m s₁ b l' n' s' hrest

namespace Takes

/-- Returning a value awaits no operation. -/
theorem ret (a : α) : (pure a : Code S L α).Takes 0 := by
  intro σ h n l s a l' n' s' he
  cases he
  rfl

/-- Code that throws does not return. -/
theorem raise (e : S.Err) : (throw e : Code S L α).Takes k := by
  intro σ h n l s a l' n' s' he
  cases he

/-- Reading the entity awaits nothing. -/
theorem entity : (Code.entity : Code S L L).Takes 0 := by
  intro σ h n l s a l' n' s' he
  cases he
  rfl

/-- Awaiting an operation takes one operation. -/
theorem await (o : S.Op) : (Code.await o : Code S L (S.Res o)).Takes 1 := by
  intro σ h n l s a l' n' s' he
  exact (congrArg Outcome.position he).symm

/-- A sequence takes what its parts take. -/
theorem bind {c : Code S L α} {f : α → Code S L β} (hc : c.Takes j) (hf : ∀ a, (f a).Takes k) :
    (c >>= f).Takes (j + k) := by
  intro σ h n l s b l' n' s' he
  obtain ⟨a, m, n₁, s₁, hfirst, hrest⟩ := exec_bind_ok he
  rw [hf a h n₁ m s₁ b l' n' s' hrest, hc h n l s a m n₁ s₁ hfirst, Nat.add_assoc]

/-- A handler of errors that throws. -/
theorem tryCatch {c : Code S L α} {f : S.Err → Code S L α} (hc : c.Takes k)
    (hf : ∀ e, (f e).Throws) : (MonadExcept.tryCatch c f).Takes k := by
  intro σ h n l s a l' n' s' he
  rw [exec_tryCatch] at he
  rcases hr : c.exec h n l s with ⟨r, m, n₁, s₁⟩
  rw [hr] at he
  cases r with
  | ok b =>
    cases he
    exact hc h n l s _ _ _ _ hr
  | error e => exact absurd he (hf e h n₁ m s₁ a l' n' s')

end Takes

end Code

end Ticketing.Async
