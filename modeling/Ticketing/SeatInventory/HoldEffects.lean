import Ticketing.SeatInventory.Writers

/-!
# What `holdSeats` leaves

Library `SeatInventory`. A call of `holdSeats`, running alone while locks may expire, leaves
the rows as they were, or all listed seats held by one new hold for each entry of the list.
-/

namespace Ticketing.SeatInventory

open Async Store

/-- `holdSeats` for a call. -/
def HoldCall.code (a : HoldCall) : Code sig Unit HoldResult :=
  holdSeats a.eventId a.seatIds a.userId a.sessionId

/-- Only locks of `keys` for the user were added, and `given` identifiers were given; locks may
be lost. -/
structure Grown (u : String) (keys : List String) (given : Nat) (s₀ s : Db) : Prop where
  rest : s = { s₀ with locks := s.locks, nextId := s₀.nextId + given }
  locks : ∀ key lock, s.locks.find key = some lock →
    s₀.locks.find key = some lock ∨ (key ∈ keys ∧ lock.userId = u)

namespace Grown

variable {u : String} {keys : List String} {given : Nat} {s₀ s : Db}

/-- A state grows from itself by no locks. -/
theorem refl (s : Db) : Grown u keys 0 s s := ⟨rfl, fun _ _ ↦ .inl⟩

/-- New locks are among any larger list of keys. -/
theorem mono {keys' : List String} (h : Grown u keys given s₀ s) (hk : keys ⊆ keys') :
    Grown u keys' given s₀ s :=
  ⟨h.rest, fun key lock hl ↦ (h.locks key lock hl).imp_right fun hm ↦ ⟨hk hm.1, hm.2⟩⟩

/-- Losing locks keeps the growth. -/
theorem shrink {s' : Db} (h : Grown u keys given s₀ s) (hr : s' = { s with locks := s'.locks })
    (hl : ∀ key lock, s'.locks.find key = some lock → s.locks.find key = some lock) :
    Grown u keys given s₀ s' := by
  refine ⟨?_, fun key lock hf ↦ h.locks key lock (hl key lock hf)⟩
  rw [hr, h.rest]

/-- Expiring locks keep the growth. -/
theorem expired (h : Grown u keys given s₀ s) (gone : List String) :
    Grown u keys given s₀ (s.expired gone) := by
  apply h.shrink rfl
  intro key lock hl
  rw [Db.find_expired] at hl
  split at hl
  · cases hl
  · exact hl

/-- Setting a lock of the user grows the locks by its key. -/
theorem put {lock : SeatLock} (h : Grown u keys given s₀ s) (hu : lock.userId = u) :
    Grown u (keys ++ [lock.key]) given s₀ { s with locks := s.locks.put lock } := by
  obtain ⟨rest, locks⟩ := h
  refine ⟨by rw [rest], ?_⟩
  intro key l hl
  have hl : (s.locks.put lock).find key = some l := hl
  rw [Table.find_put] at hl
  split at hl
  · next hk =>
    cases hl
    exact .inr ⟨by simp [hk], hu⟩
  · exact (locks key l hl).imp_right fun hm ↦ ⟨List.mem_append_left _ hm.1, hm.2⟩

/-- Deleting a lock takes its key from the growth. -/
theorem erase {key : String} {rest : List String} (h : Grown u (key :: rest) given s₀ s) :
    Grown u rest given s₀ { s with locks := s.locks.erase key } := by
  obtain ⟨same, locks⟩ := h
  refine ⟨by rw [same], ?_⟩
  intro k l hl
  have hl : (s.locks.erase key).find k = some l := hl
  rw [Table.find_erase] at hl
  split at hl
  · cases hl
  · next hne =>
    exact (locks k l hl).imp_right fun hm ↦ ⟨(List.mem_cons.mp hm.1).resolve_left hne, hm.2⟩

/-- Where the user has no lock of the keys left, no lock was added. -/
theorem free (h : Grown u keys given s₀ s) (hf : s.Free keys u) : Grown u [] given s₀ s := by
  refine ⟨h.rest, fun key lock hl ↦ .inl ?_⟩
  exact (h.locks key lock hl).resolve_right fun hm ↦ hf key hm.1 lock hl hm.2

end Grown

variable {x : Nat → Op → Choice} {gone : Nat → List String} {a : HoldCall} {s₀ : Db} {L : Type}

/-- The hold entity of a seat. -/
def HoldCall.entity (a : HoldCall) (found : List Seat) (expiresAt : Nat) (seatId : String) :
    SeatHold :=
  { a.hold (((found.find? fun inv ↦ inv.seatId = seatId).map Seat.id).getD 0) seatId with
    expiresAt := expiresAt }

/-- The holds that a call stores. -/
def HoldCall.saved (a : HoldCall) (s : Db) (expiresAt : Nat) : List SeatHold :=
  numbered s.nextId (a.seatIds.map (a.entity (s.listed a.eventId a.seatIds) expiresAt))

/-- The stores after the commit of a call. -/
def HoldCall.held (a : HoldCall) (s : Db) (expiresAt : Nat) : Db :=
  { s.marked a.eventId a.seatIds .held with
    holds := s.holds.putAll (a.saved s expiresAt)
    nextId := s.nextId + a.seatIds.length }

/-- All listed seats are found and on sale. -/
structure Sellable (s : Db) (a : HoldCall) : Prop where
  found : ∀ seatId ∈ a.seatIds, ∃ r ∈ s.listed a.eventId a.seatIds, r.seatId = seatId
  sale : ∀ r ∈ s.listed a.eventId a.seatIds, r.status = .available

/-- What a call leaves that returns. -/
structure WasHeld (a : HoldCall) (s₀ s : Db) : Prop where
  sellable : Sellable s₀ a
  effect : ∃ expiresAt,
    Grown a.userId a.keys 0 ((a.held s₀ expiresAt).shown a.eventId a.seatIds .held) s

/-- What a call leaves that throws: no operation failed and no lock is left, or one has failed
and the rows are as before, or those of the call. -/
structure NotHeld (x : Nat → Op → Choice) (a : HoldCall) (s₀ s : Db) : Prop where
  rows : (∃ keys given, Grown a.userId keys given s₀ s) ∨
    (Sellable s₀ a ∧ ∃ expiresAt, Grown a.userId a.keys 0 (a.held s₀ expiresAt) s)
  clean : ¬ Faulty x → ∃ given, Grown a.userId [] given s₀ s

/-- The first loop grows the locks by the keys that it returns. -/
theorem lockEach_grown (ids keys failed : List String) :
    Code.Leaves (expiring x gone) (fun _ ↦ Grown a.userId keys 0 s₀)
      (lockEach a.eventId a.userId a.sessionId ids keys failed)
      (fun r _ s ↦ Grown a.userId r.1 0 s₀ s ∧ r.1 ⊆ keys ++ ids.map (lockKey a.eventId))
      fun _ _ s ↦ Faulty x ∧ ∃ keys, Grown a.userId keys 0 s₀ s := by
  induction ids generalizing keys failed with
  | nil => exact Code.Leaves.ret _ fun _ _ h ↦ ⟨h, by simp⟩
  | cons seatId rest ih =>
    apply Code.Leaves.bind (Q := fun _ _ ↦ Grown a.userId keys 0 s₀)
    · apply await_expiring
      · exact fun _ _ _ h ↦ h.expired _
      · exact fun _ _ _ _ h _ ↦ h
      · exact fun _ _ _ hf ↦ by cases hf
    · intro lockedAt
      let lock : SeatLock := ⟨lockKey a.eventId seatId, a.userId, a.sessionId, lockedAt⟩
      apply Code.Leaves.bind (Q := fun r _ ↦
        Grown a.userId (if r then keys ++ [lock.key] else keys) 0 s₀)
      · apply await_expiring
        · exact fun _ _ _ h ↦ h.expired _
        · intro c l s r h hr
          cases hk : s.locks.find lock.key with
          | none =>
            rw [perform_setNx_free hk] at hr ⊢
            cases hr
            exact h.put rfl
          | some old =>
            rw [perform_setNx_taken hk] at hr ⊢
            cases hr
            exact h
        · exact fun _ _ _ _ hx h ↦ ⟨hx, keys, h⟩
      · intro r
        cases r with
        | true =>
          apply Code.Leaves.post (ih (keys ++ [lock.key]) failed)
          · intro r l s h
            exact ⟨h.1, by simpa using h.2⟩
          · exact fun _ _ _ h ↦ h
        | false =>
          apply Code.Leaves.post (ih keys (failed ++ [seatId]))
          · intro r l s h
            refine ⟨h.1, List.Subset.trans h.2 ?_⟩
            intro key hk
            rcases List.mem_append.mp hk with hk | hk
            · exact List.mem_append_left _ hk
            · exact List.mem_append_right _ (List.mem_cons_of_mem _ hk)
          · exact fun _ _ _ h ↦ h

/-- The second loop takes its keys from the growth. -/
theorem unlockEach_grown (keys : List String) :
    Code.Leaves (expiring x gone) (fun (_ : L) ↦ Grown a.userId keys 0 s₀) (unlockEach keys)
      (fun _ _ ↦ Grown a.userId [] 0 s₀)
      fun _ _ s ↦ Faulty x ∧ ∃ keys, Grown a.userId keys 0 s₀ s := by
  induction keys with
  | nil => exact Code.Leaves.ret _ fun _ _ h ↦ h
  | cons key rest ih =>
    apply Code.Leaves.bind (Q := fun _ _ ↦ Grown a.userId rest 0 s₀)
    · apply await_expiring
      · exact fun _ _ _ h ↦ h.expired _
      · exact fun _ _ _ _ h _ ↦ h.erase
      · exact fun _ _ _ _ hx h ↦ ⟨hx, _, h⟩
    · exact fun _ ↦ ih

/-- `lockSeats` has set locks of the call, or leaves none. -/
theorem lockSeats_grown :
    Code.Leaves (expiring x gone) (fun _ ↦ Grown a.userId [] 0 s₀)
      (lockSeats a.eventId a.seatIds a.userId a.sessionId)
      (fun failed _ ↦ Grown a.userId (if failed.isEmpty then a.keys else []) 0 s₀)
      fun _ _ s ↦ Faulty x ∧ ∃ keys, Grown a.userId keys 0 s₀ s := by
  apply Code.Leaves.bind (lockEach_grown a.seatIds [] [])
  rintro ⟨lockedKeys, failedSeatIds⟩
  apply Code.Leaves.assume
  intro hkeys
  by_cases hf : failedSeatIds.isEmpty = true
  · simp only [hf, if_true]
    refine Code.Leaves.ret _ ?_
    intro l s h
    exact h.mono hkeys
  · simp only [hf, if_false, Bool.false_eq_true]
    apply Code.Leaves.bind (unlockEach_grown lockedKeys)
    exact fun _ ↦ Code.Leaves.ret _ fun _ _ h ↦ by rwa [if_neg hf]

/-! ### The transaction -/

/-- The transaction is open, and `given` identifiers were given. -/
structure Underway (a : HoldCall) (s₀ : Db) (given : Nat) (active : Bool) (s : Db) : Prop where
  active : active = true
  grown : Grown a.userId a.keys given s₀ s

/-- The transaction throws: it is open, or was committed. -/
def Stopped (x : Nat → Op → Choice) (a : HoldCall) (s₀ : Db) (active : Bool) (s : Db) : Prop :=
  if active then ∃ given, Grown a.userId a.keys given s₀ s
  else Faulty x ∧ Sellable s₀ a ∧ ∃ expiresAt, Grown a.userId a.keys 0 (a.held s₀ expiresAt) s

/-- A call that throws inside its transaction has stopped. -/
theorem Underway.stopped {given : Nat} {active : Bool} {s : Db}
    (h : Underway a s₀ given active s) : Stopped x a s₀ active s := by
  rw [Stopped, if_pos h.active]
  exact ⟨given, h.grown⟩

/-- Expiring locks keep a call under way. -/
theorem Underway.expired {given : Nat} {active : Bool} {s : Db}
    (h : Underway a s₀ given active s) (keys : List String) :
    Underway a s₀ given active (s.expired keys) :=
  ⟨h.active, h.grown.expired keys⟩

/-- Reading in the open transaction. -/
theorem await_underway (o : Op) {given : Nat} (F : Res o → Prop)
    (keeps : ∀ c s, (perform c o s).2 = s)
    (hr : ∀ c s r, s.seats = s₀.seats → (perform c o s).1 = .ok r → F r) :
    Code.Leaves (expiring x gone) (Underway a s₀ given) (await o)
      (fun r active s ↦ Underway a s₀ given active s ∧ F r) fun _ ↦ Stopped x a s₀ := by
  apply await_expiring
  · exact fun _ _ _ h ↦ h.expired _
  · intro c active s r h hanswer
    rw [keeps]
    exact ⟨h, hr c s r (by rw [h.grown.rest]) hanswer⟩
  · exact fun _ _ _ _ _ h ↦ h.stopped

/-- Building the hold entities: all listed seats were found. -/
theorem newHolds_entities {h : Handler sig Db} {P : L → Db → Prop} (expiresAt : Nat)
    (found : List Seat) (ids : List String) :
    Code.Leaves h P (newHolds a.eventId a.userId a.sessionId expiresAt found ids)
      (fun holds l s ↦ P l s ∧ (holds = ids.map (a.entity found expiresAt) ∧
        ∀ seatId ∈ ids, ∃ r ∈ found, r.seatId = seatId))
      fun _ ↦ P := by
  induction ids with
  | nil => exact Code.Leaves.ret _ fun _ _ h ↦ ⟨h, rfl, nofun⟩
  | cons seatId rest ih =>
    unfold newHolds
    cases hf : found.find? fun inv ↦ inv.seatId = seatId with
    | none => exact Code.Leaves.raise _ fun _ _ h ↦ h
    | some inventory =>
      apply Code.Leaves.bind ih
      intro holds
      apply Code.Leaves.assume
      rintro ⟨rfl, hall⟩
      refine Code.Leaves.ret _ ?_
      intro l s h
      refine ⟨h, ?_, ?_⟩
      · rw [List.map_cons]
        simp [HoldCall.entity, hf, HoldCall.hold]
      · intro id hid
        rcases List.mem_cons.mp hid with rfl | hid
        · exact ⟨inventory, List.mem_of_find?_eq_some hf, by simpa using List.find?_some hf⟩
        · exact hall id hid

/-- The commit writes the listed rows and the new holds. -/
theorem Underway.commit {active : Bool} {s : Db} {expiresAt : Nat}
    (h : Underway a s₀ a.seatIds.length active s) :
    Grown a.userId a.keys 0 (a.held s₀ expiresAt)
      ([s₀.changes (.seats ((s₀.listed a.eventId a.seatIds).map fun inv ↦
          { inv with status := .held })), .holds (a.saved s₀ expiresAt)].foldl Db.write s) := by
  obtain ⟨-, rest, locks⟩ := h
  refine ⟨?_, locks⟩
  rw [rest]
  unfold HoldCall.held
  rw [← putAll_listed]
  rfl

private theorem insertHolds_underway (expiresAt : Nat) :
    Code.Leaves (expiring x gone) (Underway a s₀ 0)
      (await (.insertHolds (a.seatIds.map (a.entity (s₀.listed a.eventId a.seatIds) expiresAt))))
      (fun saved active s ↦ Underway a s₀ a.seatIds.length active s ∧ saved = a.saved s₀ expiresAt)
      fun _ ↦ Stopped x a s₀ := by
  apply await_expiring
  · exact fun _ _ _ h ↦ h.expired _
  · intro c active s r h hr
    cases hr
    obtain ⟨active, rest, locks⟩ := h
    have first : s.nextId = s₀.nextId := by rw [rest]; rfl
    refine ⟨⟨active, ?_, locks⟩, ?_⟩
    · simp only [perform]
      rw [first, List.length_map, rest]
    · rw [first]
      rfl
  · exact fun _ _ _ _ _ h ↦ h.stopped

private theorem hset_wasHeld (sellable : Sellable s₀ a) (expiresAt : Nat) :
    Code.Leaves (expiring x gone)
      (fun active s ↦ active = false ∧ Grown a.userId a.keys 0 (a.held s₀ expiresAt) s)
      (await (.hset a.eventId (a.seatIds.map fun seatId ↦ ⟨seatId, .held⟩)))
      (fun _ _ ↦ WasHeld a s₀) fun _ ↦ Stopped x a s₀ := by
  apply await_expiring
  · exact fun _ _ _ h ↦ ⟨h.1, h.2.expired _⟩
  · rintro c active s r ⟨-, h⟩ _
    rw [perform_hset]
    refine ⟨sellable, expiresAt, ?_⟩
    obtain ⟨rest, locks⟩ := h
    refine ⟨?_, locks⟩
    rw [rest]
    rfl
  · rintro err active s _ hx ⟨rfl, h⟩
    exact ⟨hx, sellable, _, h⟩

/-- The `try` block of `holdSeats`. -/
theorem holdTransaction_grown :
    Code.Leaves (expiring x gone) (Underway a s₀ 0)
      (holdTransaction a.eventId a.seatIds a.userId a.sessionId)
      (fun _ _ ↦ WasHeld a s₀) fun _ ↦ Stopped x a s₀ := by
  unfold holdTransaction
  apply Code.Leaves.bind
  · apply await_underway (.findBySeatIds _ _) (fun r ↦ r = s₀.listed a.eventId a.seatIds)
      fun _ _ ↦ rfl
    intro c s r hs hr
    cases hr
    rw [hs]
    rfl
  intro inventories
  apply Code.Leaves.assume
  rintro rfl
  dsimp only
  by_cases hu : ((s₀.listed a.eventId a.seatIds).filter fun inv ↦
      inv.status ≠ .available).isEmpty = true
  · simp only [hu, not_true_eq_false, if_false]
    apply Code.Leaves.bind
    · apply await_underway (.statement _) (fun updated ↦ updated = s₀.changes (.seats _))
        fun _ _ ↦ rfl
      intro c s updated hs hr
      cases hr
      unfold Db.changes
      rw [hs]
    intro updated
    apply Code.Leaves.assume
    rintro rfl
    apply Code.Leaves.bind
    · exact await_underway .now (fun _ ↦ True) (fun _ _ ↦ rfl) fun _ _ _ _ _ ↦ trivial
    intro now
    apply Code.Leaves.assume
    intro _
    apply Code.Leaves.bind
    · apply Code.Leaves.post
      · exact newHolds_entities _ _ _
      · exact fun _ _ _ h ↦ h
      · exact fun _ _ _ h ↦ Underway.stopped h
    intro holds
    apply Code.Leaves.assume
    rintro ⟨rfl, hfound⟩
    have sellable : Sellable s₀ a := ⟨hfound, available_of_isEmpty hu⟩
    apply Code.Leaves.bind (insertHolds_underway _)
    intro savedHolds
    apply Code.Leaves.assume
    rintro rfl
    apply Code.Leaves.bind (Q := fun _ active s ↦ active = false ∧
      Grown a.userId a.keys 0 (a.held s₀ (now + holdDurationMs)) s)
    · apply Code.Leaves.bind (Q := fun _ _ s ↦
        Grown a.userId a.keys 0 (a.held s₀ (now + holdDurationMs)) s)
      · apply await_expiring
        · exact fun _ _ _ h ↦ h.expired _
        · exact fun _ _ _ _ h _ ↦ h.commit
        · exact fun _ _ _ _ _ h ↦ h.stopped
      · exact fun _ ↦ Code.Leaves.assign _ fun _ _ h ↦ ⟨rfl, h⟩
    intro _
    apply Code.Leaves.bind (hset_wasHeld sellable _)
    exact fun _ ↦ Code.Leaves.ret _ fun _ _ h ↦ h
  · simp only [hu, not_false_eq_true, if_true, Bool.false_eq_true]
    exact Code.Leaves.raise _ fun _ _ h ↦ h.stopped

/-- Releasing the user's locks takes the keys of the call from the growth. -/
theorem releaseLocks_grown {given : Nat} :
    Code.Leaves (expiring x gone) (fun (_ : L) ↦ Grown a.userId a.keys given s₀)
      (releaseLocks a.eventId a.userId a.seatIds 0) (fun _ _ ↦ Grown a.userId [] given s₀)
      fun _ _ s ↦ Faulty x ∧ Grown a.userId a.keys given s₀ s := by
  apply Code.Leaves.from_each
  intro l s h
  have start : ∀ l' s', l' = l ∧ s' = s →
      Releasing gone a.eventId a.seatIds a.userId s l [] l' s' := by
    rintro l' s' ⟨rfl, rfl⟩
    exact ⟨rfl, Lost.refl _, nofun⟩
  apply Code.Leaves.post ((releaseLocks_leaves_lost l [] a.seatIds 0 rfl).pre start)
  · rintro _ _ s' ⟨-, lost, free⟩
    exact (h.shrink lost.rest fun _ _ hl ↦ lost.find hl).free free
  · rintro err _ s' ⟨hx, -, lost⟩
    exact ⟨hx, h.shrink lost.rest fun _ _ hl ↦ lost.find hl⟩

/-- The `catch` block of `holdSeats`. -/
theorem holdCatch_grown (error : Exception) :
    Code.Leaves (expiring x gone) (Stopped x a s₀)
      (do
        rollbackTransaction
        let _ ← releaseLocks a.eventId a.userId a.seatIds 0
        throw error : Code sig Bool HoldResult)
      (fun _ _ ↦ WasHeld a s₀) fun _ _ ↦ NotHeld x a s₀ := by
  apply Code.Leaves.bind (Q := fun _ _ s ↦ ∃ given, Grown a.userId a.keys given s₀ s)
  · apply Code.Leaves.bind (Q := fun r active s ↦ r = active ∧ Stopped x a s₀ active s)
    · exact Code.Leaves.entity fun _ _ h ↦ ⟨rfl, h⟩
    · intro active
      cases active with
      | true =>
        apply await_expiring
        · rintro n l s ⟨rfl, given, h⟩
          exact ⟨rfl, given, h.expired _⟩
        · rintro c l s r ⟨rfl, h⟩ _
          exact h
        · rintro err l s _ hx ⟨rfl, given, h⟩
          exact ⟨.inl ⟨_, given, h⟩, fun hn ↦ absurd hx hn⟩
      | false =>
        refine Code.Leaves.raise _ ?_
        rintro l s ⟨rfl, hx, h⟩
        exact ⟨.inr h, fun hn ↦ absurd hx hn⟩
  · intro _
    apply Code.Leaves.from_each
    rintro l s ⟨given, h⟩
    apply Code.Leaves.bind (Q := fun _ _ ↦ Grown a.userId [] given s₀)
    · apply Code.Leaves.post (releaseLocks_grown.pre ?_) (fun _ _ _ h ↦ h)
      · rintro err l s ⟨hx, h⟩
        exact ⟨.inl ⟨_, given, h⟩, fun hn ↦ absurd hx hn⟩
      · rintro l s ⟨rfl, rfl⟩
        exact h
    · intro _
      exact Code.Leaves.raise _ fun _ _ h ↦ ⟨.inl ⟨_, _, h⟩, fun _ ↦ ⟨_, h⟩⟩

/-- `holdSeats` returns with the seats held, or throws as described. -/
theorem holdSeats_grown (x : Nat → Op → Choice) (gone : Nat → List String) (a : HoldCall)
    (s₀ : Db) :
    Code.Leaves (expiring x gone) (fun _ s ↦ s = s₀) a.code (fun _ _ ↦ WasHeld a s₀)
      fun _ _ ↦ NotHeld x a s₀ := by
  have failed : ∀ s, (Faulty x ∧ ∃ keys, Grown a.userId keys 0 s₀ s) → NotHeld x a s₀ s := by
    rintro s ⟨hx, keys, h⟩
    exact ⟨.inl ⟨keys, 0, h⟩, fun hn ↦ absurd hx hn⟩
  unfold HoldCall.code holdSeats
  apply Code.Leaves.bind (Q := fun r _ ↦ Grown a.userId (if r.isEmpty then a.keys else []) 0 s₀)
  · apply Code.Leaves.post (lockSeats_grown.pre ?_) (fun _ _ _ h ↦ h) fun _ _ s h ↦ failed s h
    rintro l s rfl
    exact Grown.refl _
  intro failedSeatIds
  by_cases hf : failedSeatIds.isEmpty = true
  · simp only [hf, not_true_eq_false, if_false, if_true]
    apply Code.Leaves.bind (Q := fun _ _ ↦ Grown a.userId a.keys 0 s₀)
    · apply await_expiring
      · exact fun _ _ _ h ↦ h.expired _
      · exact fun _ _ _ _ h _ ↦ h
      · exact fun _ _ s _ hx h ↦ failed s ⟨hx, _, h⟩
    intro _
    apply Code.Leaves.pre (Code.Leaves.on (m := true) (P := Underway a s₀ 0)
      (Q := fun _ ↦ WasHeld a s₀) (E := fun _ ↦ NotHeld x a s₀) ?_) fun _ _ h ↦ ⟨rfl, h⟩
    exact Code.Leaves.tryCatch holdTransaction_grown holdCatch_grown
  · simp only [hf, Bool.false_eq_true, if_false]
    rw [if_pos not_false]
    exact Code.Leaves.raise _ fun _ _ h ↦ ⟨.inl ⟨_, _, h⟩, fun _ ↦ ⟨_, h⟩⟩

end Ticketing.SeatInventory
