import Ticketing.Async.Triples
import Ticketing.SeatInventory.HeldSeats

/-!
# Calls that run alone

Library `SeatInventory`. The stores answer one call after another; each operation fails
without effect or has its effect. What the operations of a call leave when nothing runs in
between.
-/

namespace Ticketing.SeatInventory

open Async Store

/-- The answers of the stores when `x` is decided. -/
def deciding (x : Nat → Op → Choice) : Handler sig Db := fun n o s ↦ exec (x n o) o s

/-- An operation that does not fail has its effect. -/
theorem deciding_apply {x : Nat → Op → Choice} (hx : ∀ n o, (x n o).fault = none) (n : Nat)
    (o : Op) (s : Db) : deciding x n o s = perform (x n o) o s := by
  unfold deciding exec
  rw [hx]
  exact Sig.attempt_none (S := sig) o s

/-- The seats, the holds and the locks are as they were. -/
structure Unchanged (s s' : Db) : Prop where
  seats : s'.seats = s.seats
  holds : s'.holds = s.holds
  locks : ∀ key, s'.locks.find key = s.locks.find key

/-- Every state is unchanged from itself. -/
theorem Unchanged.refl (s : Db) : Unchanged s s := ⟨rfl, rfl, fun _ ↦ rfl⟩

/-- Every hold has an identifier that was given. -/
def Db.Numbered (s : Db) : Prop := ∀ hold ∈ s.holds.rows, hold.id < s.nextId

/-- `SETNX` sets a key that is free. -/
theorem perform_setNx_free {x : Choice} {l : SeatLock} {s : Db} (h : s.locks.find l.key = none) :
    perform x (.setNx l) s = (.ok true, { s with locks := s.locks.put l }) := by
  simp [perform, h]

/-- A key that is set is left alone. -/
theorem perform_setNx_taken {x : Choice} {l old : SeatLock} {s : Db}
    (h : s.locks.find l.key = some old) : perform x (.setNx l) s = (.ok false, s) := by
  simp [perform, h]

/-- The effect of an operation is not an error. -/
theorem not_error_of_perform {x : Choice} {o : Op} {s : Db} {e : Exception} :
    (perform x o s).1 ≠ .error e := by
  cases o with
  | setNx l =>
    simp only [perform]
    split <;> simp
  | _ => simp [perform]

/-- An awaited operation fails without effect or has its effect, and is recorded. -/
theorem await_recording {L : Type} {x : Nat → Op → Choice} {o : Op}
    {P : L → Db × List (Done sig) → Prop} {Q : Res o → L → Db × List (Done sig) → Prop}
    {E : Exception → L → Db × List (Done sig) → Prop}
    (effect : ∀ c l s log a, P l (s, log) → (perform c o s).1 = .ok a →
      Q a l ((perform c o s).2, ⟨o, .ok a⟩ :: log))
    (fail : ∀ e l s log, o.fallible = true → P l (s, log) → E e l (s, ⟨o, .error e⟩ :: log)) :
    Code.Leaves (deciding x).recording P (await o) Q E := by
  apply Code.Leaves.await
  · rintro n l ⟨s, log⟩ a s' hp hr
    dsimp only [Handler.recording, deciding] at hr
    rcases exec_cases (x n o) o s with ⟨-, e, he⟩ | he
    · rw [he] at hr
      cases hr
    · rw [he] at hr
      obtain ⟨ha, hs⟩ := Prod.mk.inj hr
      rw [← hs, ha]
      exact effect (x n o) l s log a hp ha
  · rintro n l ⟨s, log⟩ e s' hp hr
    dsimp only [Handler.recording, deciding] at hr
    rcases exec_cases (x n o) o s with ⟨hf, e', he⟩ | he
    · rw [he] at hr
      cases hr
      exact fail e l s log hf hp
    · rw [he] at hr
      exact absurd (congrArg Prod.fst hr) not_error_of_perform

/-! ### Locks that expire -/

/-- The stores after the locks of `keys` have expired. -/
def Db.expired (s : Db) (keys : List String) : Db :=
  { s with locks := keys.foldl Table.erase s.locks }

/-- The answers of the stores when `x` is decided and the locks of `gone n` expire before the
operation at position `n`. -/
def expiring (x : Nat → Op → Choice) (gone : Nat → List String) : Handler sig Db :=
  fun n o s ↦ exec (x n o) o (s.expired (gone n))

/-- A handler under which no lock expires is one that lets none expire. -/
theorem deciding_eq_expiring (x : Nat → Op → Choice) : deciding x = expiring x fun _ ↦ [] := rfl

/-- An expired lock is not there; the others are. -/
theorem Db.find_expired (s : Db) (keys : List String) (key : String) :
    (s.expired keys).locks.find key = if key ∈ keys then none else s.locks.find key := by
  unfold expired
  induction keys generalizing s with
  | nil => rfl
  | cons k keys ih =>
    have rest := ih { s with locks := s.locks.erase k }
    simp only at rest
    simp only [List.foldl_cons, rest, Table.find_erase, List.mem_cons]
    by_cases hk : key ∈ keys
    · simp [hk]
    · simp [hk]

/-- Nothing happened but that some locks were lost. -/
structure Lost (gone : String → Prop) (s s' : Db) : Prop where
  rest : s' = { s with locks := s'.locks }
  locks : ∀ key, s'.locks.find key = s.locks.find key ∨ s'.locks.find key = none ∧ gone key

namespace Lost

variable {gone gone' : String → Prop} {s s' s'' : Db}

/-- A state loses no locks to itself. -/
theorem refl (s : Db) : Lost gone s s := ⟨rfl, fun _ ↦ .inl rfl⟩

/-- Lost locks are among any larger set of keys. -/
theorem mono (h : Lost gone s s') (hg : ∀ key, gone key → gone' key) : Lost gone' s s' :=
  ⟨h.rest, fun key ↦ (h.locks key).imp_right fun hn ↦ ⟨hn.1, hg key hn.2⟩⟩

/-- Expired locks are lost. -/
theorem expired (h : Lost gone s s') {keys : List String} (hk : ∀ key ∈ keys, gone key) :
    Lost gone s (s'.expired keys) where
  rest := by
    obtain ⟨rest, -⟩ := h
    rw [rest]
    rfl
  locks key := by
    rw [Db.find_expired]
    by_cases hm : key ∈ keys
    · exact .inr ⟨if_pos hm, hk key hm⟩
    · rw [if_neg hm]
      exact h.locks key

/-- A deleted lock is lost. -/
theorem erase (h : Lost gone s s') {key : String} (hk : gone key) :
    Lost gone s { s' with locks := s'.locks.erase key } where
  rest := by
    obtain ⟨rest, -⟩ := h
    rw [rest]
  locks k := by
    show (s'.locks.erase key).find k = _ ∨ (s'.locks.erase key).find k = none ∧ _
    rw [Table.find_erase]
    by_cases he : k = key
    · exact .inr ⟨if_pos he, he ▸ hk⟩
    · rw [if_neg he]
      exact h.locks k

/-- A lock that is still there was there before. -/
theorem find (h : Lost gone s s') {key : String} {lock : SeatLock}
    (hl : s'.locks.find key = some lock) : s.locks.find key = some lock := by
  rcases h.locks key with he | ⟨he, -⟩
  · rw [← he, hl]
  · rw [hl] at he
    cases he

/-- When no lock may be lost, nothing happened to the locks. -/
theorem eq (h : Lost gone s s') {key : String} (hk : ¬ gone key) :
    s'.locks.find key = s.locks.find key :=
  (h.locks key).resolve_right fun hn ↦ hk hn.2

end Lost

/-- An operation may fail. -/
def Faulty (x : Nat → Op → Choice) : Prop := ∃ n o, (x n o).fault ≠ none

/-- An awaited operation fails without effect, or has its effect; what holds before survives the
expiry of locks. -/
theorem await_expiring {L : Type} {x : Nat → Op → Choice} {gone : Nat → List String} {o : Op}
    {P : L → Db → Prop} {Q : Res o → L → Db → Prop} {E : Exception → L → Db → Prop}
    (expire : ∀ n l s, P l s → P l (s.expired (gone n)))
    (effect : ∀ c l s a, P l s → (perform c o s).1 = .ok a → Q a l (perform c o s).2)
    (fail : ∀ e l s, o.fallible = true → Faulty x → P l s → E e l s) :
    Code.Leaves (expiring x gone) P (await o) Q E := by
  apply Code.Leaves.await
  · intro n l s a s' hp hr
    rcases exec_cases (x n o) o (s.expired (gone n)) with ⟨-, e, he⟩ | he
    · cases he.symm.trans hr
    · have hr := he.symm.trans hr
      have := effect (x n o) l _ a (expire n l s hp) (congrArg Prod.fst hr)
      rwa [hr] at this
  · intro n l s e s' hp hr
    have faulty : Faulty x := by
      refine ⟨n, o, fun hn ↦ ?_⟩
      have done : exec (x n o) o (s.expired (gone n)) = perform (x n o) o (s.expired (gone n)) := by
        unfold exec
        rw [hn]
        exact Sig.attempt_none (S := sig) o _
      exact not_error_of_perform (congrArg Prod.fst (done.symm.trans hr))
    rcases exec_cases (x n o) o (s.expired (gone n)) with ⟨hf, e', he⟩ | he
    · cases he.symm.trans hr
      exact fail e l _ hf faulty (expire n l s hp)
    · exact absurd (congrArg Prod.fst (he.symm.trans hr)) not_error_of_perform

/-- A seat on sale. -/
def saleSeat (n : Id) (seatId : String) : Seat where
  id := n
  eventId := "e"
  seatId := seatId
  sectionId := "main"
  sectionName := "Main"
  ticketTypeId := "std"
  ticketTypeName := "Standard"
  price := 10000
  currency := "TRY"
  row := "A"
  seatNumber := "1"
  seatType := "standard"
  status := .available

/-- Two seats on sale, and nothing else. -/
def saleStock : Db := .stocked ⟨[saleSeat 0 "A", saleSeat 1 "B"], by decide⟩

end Ticketing.SeatInventory
