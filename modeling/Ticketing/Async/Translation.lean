import Ticketing.Async.Monitor

/-!
# Operations made of smaller ones

Library `Async`. A program over coarse operations becomes one over finer operations when each
coarse operation is replaced by a program. What a thread may await carries over, if the program
of each operation may be awaited and leads to the same state of the monitor.
-/

namespace Ticketing.Async

/-- Each operation is replaced by a program that answers it. -/
def Prog.translate {S T : Sig} {α : Type} (f : (o : S.Op) → Prog T (S.Answer o)) :
    Prog S α → Prog T α
  | .ret a => .ret a
  | .op o k => (f o).bind fun r ↦ (k r).translate f

namespace Monitor

variable {V W : Service} {σ α : Type} {m : Monitor V σ} {m' : Monitor W σ} {j : V.Job} {j' : W.Job}

/-- A translated program obeys the finer monitor. -/
theorem obeys_translate {f : (o : V.Op) → Prog W.toSig (V.toSig.Answer o)}
    (hf : ∀ s o, m.may j s o →
      m'.Obeys j' (f o) (fun r s' ↦ V.Gives o r ∧ s' = m.next s o r) s)
    {p : Prog V.toSig α} {Q : α → σ → Prop} {s : σ} (h : m.Obeys j p Q s) :
    m'.Obeys j' (p.translate f) Q s := by
  induction p generalizing s with
  | ret a => exact h
  | op o k ih =>
    refine obeys_bind.mpr ((hf s o h.1).post ?_)
    rintro r s' ⟨gives, rfl⟩
    exact ih r (h.2 r gives)

end Monitor

/-! ### Code that passes errors on -/

/-- Where an operation fails, the program ends with its error. -/
def Prog.Rethrows {S : Sig} {L α : Type} : Prog S (Except S.Err α × L) → Prop
  | .ret _ => True
  | .op _ k => (∀ e, ∃ l, k (.error e) = .ret (.error e, l)) ∧ ∀ a, (k (.ok a)).Rethrows

/-- The code handles no error. -/
def Code.Rethrows {S : Sig} {L α : Type} (c : Code S L α) : Prop := ∀ l, (c l).Rethrows

namespace Code.Rethrows

variable {S : Sig} {L α β : Type}

/-- Returning a value handles no error. -/
theorem ret (a : α) : (pure a : Code S L α).Rethrows := fun _ ↦ trivial

/-- Throwing an error handles none. -/
theorem raise (e : S.Err) : (throw e : Code S L α).Rethrows := fun _ ↦ trivial

/-- Awaiting an operation handles no error. -/
theorem await (o : S.Op) : (Code.await o : Code S L (S.Res o)).Rethrows :=
  fun l ↦ ⟨fun _ ↦ ⟨l, rfl⟩, fun _ ↦ trivial⟩

/-- A sequence handles no error if its parts handle none. -/
theorem bind {c : Code S L α} {f : α → Code S L β} (hc : c.Rethrows) (hf : ∀ a, (f a).Rethrows) :
    (c >>= f).Rethrows := by
  intro l
  show Prog.Rethrows ((c l).bind _)
  have start := hc l
  generalize c l = p at start
  induction p with
  | ret r =>
    obtain ⟨r, l'⟩ := r
    cases r with
    | ok a => exact hf a l'
    | error e => trivial
  | op o k ih =>
    constructor
    · intro e
      obtain ⟨l', hl⟩ := start.1 e
      refine ⟨l', ?_⟩
      dsimp only
      rw [hl]
      rfl
    · exact fun a ↦ ih (.ok a) (start.2 a)

end Code.Rethrows

end Ticketing.Async
