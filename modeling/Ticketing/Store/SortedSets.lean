import Mathlib.Data.List.Sort
import Ticketing.Store.Table

/-!
# Sorted sets that expire

Library `Store`. The sorted sets of Redis: each key holds members with scores, and may have a time
at which it expires. A key whose last member is removed is gone.
-/

namespace Ticketing.Store

/-- A member with its score. -/
structure Entry where
  member : String
  score : Nat
  deriving DecidableEq, Repr

/-- The set that is stored under a key, in the order in which its members were added. -/
structure SortedSet where
  key : String
  entries : List Entry
  expiresAt : Option Nat
  deriving DecidableEq

/-- The stored sets. -/
abbrev SortedSets : Type := Table SortedSet.key

namespace SortedSets

/-- The members under a key. -/
def entries (s : SortedSets) (key : String) : List Entry :=
  ((s.find key).map SortedSet.entries).getD []

/-- When the key expires. -/
def deadline (s : SortedSets) (key : String) : Option Nat :=
  (s.find key).bind SortedSet.expiresAt

/-- The keys whose time has come are gone. -/
def expire (s : SortedSets) (now : Nat) : SortedSets :=
  s.remove fun row ↦ row.expiresAt.any (· ≤ now)

/-- `ZADD`: a member that is there gets another score; the key goes on to expire when it did. -/
def zadd (s : SortedSets) (key : String) (score : Nat) (member : String) : SortedSets :=
  match s.find key with
  | none => s.put ⟨key, [⟨member, score⟩], none⟩
  | some row =>
    s.put { row with entries := row.entries.filter (·.member ≠ member) ++ [⟨member, score⟩] }

/-- `ZREMRANGEBYSCORE`, both bounds included. -/
def zremrangebyscore (s : SortedSets) (key : String) (min max : Int) : SortedSets :=
  match s.find key with
  | none => s
  | some row =>
    let kept := row.entries.filter fun e ↦ !(min ≤ e.score && e.score ≤ max)
    if kept = [] then s.erase key else s.put { row with entries := kept }

/-- `ZCARD`. -/
def zcard (s : SortedSets) (key : String) : Nat := (s.entries key).length

/-- By score, and by member where the scores are the same. -/
def before (a b : Entry) : Prop := a.score < b.score ∨ (a.score = b.score ∧ a.member ≤ b.member)

instance (a b : Entry) : Decidable (before a b) := inferInstanceAs (Decidable (_ ∨ _))

/-- `ZRANGE` by rank, without scores. -/
def zrange (s : SortedSets) (key : String) (start stop : Nat) : List String :=
  ((((s.entries key).insertionSort before).take (stop + 1)).drop start).map Entry.member

/-- `PEXPIRE`. -/
def pexpire (s : SortedSets) (key : String) (now ms : Nat) : SortedSets :=
  match s.find key with
  | none => s
  | some row => s.put { row with expiresAt := some (now + ms) }

variable {s : SortedSets} {key : String}

private theorem key_of_find {row : SortedSet} (h : s.find key = some row) : row.key = key :=
  (Table.find_eq_some_iff.mp h).2

/-- What expires is a key with its members. -/
theorem entries_expire (now : Nat) : (s.expire now).entries key =
    if (s.deadline key).any (· ≤ now) then [] else s.entries key := by
  unfold entries deadline expire
  rw [Table.find_remove]
  cases hf : s.find key with
  | none => simp
  | some row => cases hd : row.expiresAt.any (· ≤ now) <;> simp [Option.filter_some, hd]

/-- A key that does not expire now expires when it did. -/
theorem deadline_expire (now : Nat) : (s.expire now).deadline key =
    if (s.deadline key).any (· ≤ now) then none else s.deadline key := by
  unfold deadline expire
  rw [Table.find_remove]
  cases hf : s.find key with
  | none => simp
  | some row => cases hd : row.expiresAt.any (· ≤ now) <;> simp [Option.filter_some, hd]

/-- `ZADD` appends a new member. -/
theorem entries_zadd (score : Nat) {member : String}
    (new : ∀ e ∈ s.entries key, e.member ≠ member) :
    (s.zadd key score member).entries key = s.entries key ++ [⟨member, score⟩] := by
  unfold zadd
  unfold entries at new ⊢
  cases hf : s.find key with
  | none => simp
  | some row =>
    have hk := key_of_find hf
    rw [hf] at new
    have all : row.entries.filter (·.member ≠ member) = row.entries := by
      rw [List.filter_eq_self]
      intro e he
      simpa using new e he
    simp only [Table.find_put, hk, if_true, Option.map_some, Option.getD_some, all]

/-- A member that is added does not delay the end of the set. -/
theorem deadline_zadd (score : Nat) (member : String) :
    (s.zadd key score member).deadline key = s.deadline key := by
  unfold zadd deadline
  cases hf : s.find key with
  | none => simp
  | some row => simp [key_of_find hf]

/-- The members in the range are removed. -/
theorem entries_zremrangebyscore (min max : Int) :
    (s.zremrangebyscore key min max).entries key =
      (s.entries key).filter fun e ↦ !(min ≤ e.score && e.score ≤ max) := by
  unfold zremrangebyscore entries
  cases hf : s.find key with
  | none => simp [hf]
  | some row =>
    dsimp only
    split
    · next empty =>
      rw [Table.find_erase]
      simpa using empty.symm
    · simp [key_of_find hf]

/-- A set of which something is left expires when it did. -/
theorem deadline_zremrangebyscore (min max : Int) :
    (s.zremrangebyscore key min max).deadline key =
      if (s.zremrangebyscore key min max).entries key = [] then none else s.deadline key := by
  rw [entries_zremrangebyscore]
  unfold zremrangebyscore deadline entries
  cases hf : s.find key with
  | none => simp [hf]
  | some row =>
    dsimp only [Option.map_some, Option.getD_some]
    split
    · rw [Table.find_erase]
      simp
    · simp [key_of_find hf]

/-- `PEXPIRE` keeps the members. -/
theorem entries_pexpire (now ms : Nat) : (s.pexpire key now ms).entries key = s.entries key := by
  unfold pexpire entries
  cases hf : s.find key with
  | none => simp [hf]
  | some row => simp [key_of_find hf]

/-- `PEXPIRE` sets the deadline of a set that is not empty. -/
theorem deadline_pexpire (now ms : Nat) (h : s.entries key ≠ []) :
    (s.pexpire key now ms).deadline key = some (now + ms) := by
  unfold pexpire deadline
  cases hf : s.find key with
  | none =>
    rw [entries, hf] at h
    exact absurd rfl h
  | some row => simp [key_of_find hf]

end SortedSets

end Ticketing.Store
