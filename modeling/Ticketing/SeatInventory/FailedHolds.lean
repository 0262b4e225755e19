import Ticketing.SeatInventory.HoldEffects

/-!
# What a failed `holdSeats` leaves

Library `SeatInventory`. A call that throws gives back the locks it has set, unless one of
the operations after the locks failed that the `catch` block does not undo.
-/

namespace Ticketing.SeatInventory

open Async Store

/-- The command set a key. -/
def setKey : Done sig → Bool
  | ⟨.setNx _, .ok r⟩ => r
  | _ => false

/-- Operations inside the open transaction; when one fails, `holdSeats` undoes the rest. -/
def Op.undone : Op → Bool
  | .findBySeatIds _ _ | .statement _ | .insertHolds _ | .commit _ => true
  | _ => false

/-- Once a key was set nothing failed, but for operations of the open transaction. The newest
operation comes first. -/
def harmless : List (Done sig) → Bool
  | [] => true
  | d :: earlier => (!d.failed || d.op.undone || !earlier.any setKey) && harmless earlier

/-- A call that throws has no effect. -/
def FailsCleanly (s : Db) (out : Outcome sig Unit HoldResult (Db × List (Done sig))) : Prop :=
  out.throws = true → Unchanged s out.state.1

/-- Nothing changed but that the call has set the locks of `keys`. -/
structure Locked (s₀ : Db) (userId : String) (keys : List String) (s : Db) : Prop where
  seats : s.seats = s₀.seats
  holds : s.holds = s₀.holds
  nodup : keys.Nodup
  free : ∀ key ∈ keys, s₀.locks.find key = none
  mine : ∀ key ∈ keys, ∃ lock, s.locks.find key = some lock ∧ lock.userId = userId
  others : ∀ key ∉ keys, s.locks.find key = s₀.locks.find key

/-- Nothing harmful failed, and a key was set or not. -/
structure Calm (keySet : Bool) (log : List (Done sig)) : Prop where
  harmless : harmless log = true
  set : log.any setKey = keySet

variable {s₀ s : Db} {u : String} {keys : List String} {log : List (Done sig)} {b : Bool}

/-- Locks that were not given back are a change. -/
theorem Locked.unchanged_iff (h : Locked s₀ u keys s) : Unchanged s₀ s ↔ keys = [] := by
  constructor
  · intro hu
    cases keys with
    | nil => rfl
    | cons key rest =>
      obtain ⟨lock, hl, -⟩ := h.mine key List.mem_cons_self
      rw [hu.locks, h.free key List.mem_cons_self] at hl
      cases hl
  · rintro rfl
    exact ⟨h.seats, h.holds, fun key ↦ h.others key List.not_mem_nil⟩

/-- Giving back one lock leaves the remaining locks. -/
theorem Locked.erase {key : String} {rest : List String} (h : Locked s₀ u (key :: rest) s) :
    Locked s₀ u rest { s with locks := s.locks.erase key } := by
  have hn := List.nodup_cons.mp h.nodup
  constructor
  · exact h.seats
  · exact h.holds
  · exact hn.2
  · exact fun k hk ↦ h.free k (List.mem_cons_of_mem _ hk)
  · intro k hk
    have hne : k ≠ key := fun e ↦ hn.1 (e ▸ hk)
    show ∃ lock, (s.locks.erase key).find k = some lock ∧ _
    rw [Table.find_erase, if_neg hne]
    exact h.mine k (List.mem_cons_of_mem _ hk)
  · intro k hk
    show (s.locks.erase key).find k = _
    rw [Table.find_erase]
    by_cases he : k = key
    · rw [if_pos he, he, h.free key List.mem_cons_self]
    · rw [if_neg he]
      exact h.others k fun hm ↦ (List.mem_cons.mp hm).elim he hk

/-- Setting a free lock adds it to the locks of the call. -/
theorem Locked.put {lock : SeatLock} (h : Locked s₀ u keys s) (hu : lock.userId = u)
    (hf : s.locks.find lock.key = none) :
    Locked s₀ u (keys ++ [lock.key]) { s with locks := s.locks.put lock } := by
  have fresh : lock.key ∉ keys := by
    intro hm
    obtain ⟨old, ho, -⟩ := h.mine _ hm
    rw [hf] at ho
    cases ho
  constructor
  · exact h.seats
  · exact h.holds
  · refine List.nodup_append.mpr ⟨h.nodup, by simp, ?_⟩
    intro k hk k' hk' he
    rw [List.mem_singleton] at hk'
    exact fresh (hk' ▸ he ▸ hk)
  · intro k hk
    rcases List.mem_append.mp hk with hk | hk
    · exact h.free k hk
    · rw [List.mem_singleton.mp hk, ← h.others _ fresh, hf]
  · intro k hk
    show ∃ l, (s.locks.put lock).find k = some l ∧ _
    rw [Table.find_put]
    by_cases he : lock.key = k
    · rw [if_pos he]
      exact ⟨lock, rfl, hu⟩
    · rw [if_neg he]
      exact h.mine k ((List.mem_append.mp hk).resolve_right
        fun hs ↦ he (List.mem_singleton.mp hs).symm)
  · intro k hk
    rw [List.mem_append, List.mem_singleton, not_or] at hk
    show (s.locks.put lock).find k = _
    rw [Table.find_put_of_ne _ (Ne.symm hk.2)]
    exact h.others k hk.1

/-- An operation that does not fail keeps a calm history calm. -/
theorem Calm.cons (h : Calm b log) (d : Done sig) (hd : d.failed = false) :
    Calm (setKey d || b) (d :: log) where
  harmless := by simp [SeatInventory.harmless, h.harmless, hd]
  set := by rw [List.any_cons, h.set]

/-- An operation of the open transaction fails. -/
theorem Calm.undone {o : Op} {e : Exception} (h : Calm b log) (ho : o.undone = true) :
    Calm b (⟨o, .error e⟩ :: log : List (Done sig)) where
  harmless := by simp [SeatInventory.harmless, h.harmless, ho]
  set := by
    have notSet : setKey (⟨o, .error e⟩ : Done sig) = false := by cases o <;> rfl
    rw [List.any_cons, notSet, h.set, Bool.false_or]

/-- Another failure harms, unless it comes before the first key was set. -/
theorem Calm.fail {o : Op} {e : Exception} (h : Calm b log) (ho : o.undone = false) :
    SeatInventory.harmless (⟨o, .error e⟩ :: log : List (Done sig)) = !b := by
  simp [SeatInventory.harmless, h.harmless, h.set, ho, Done.failed]

/-- The call has set the locks of `keys`, and nothing harmful failed. -/
structure LocksSet (s₀ : Db) (u : String) (keys : List String) (b : Bool)
    (p : Db × List (Done sig)) : Prop where
  locked : Locked s₀ u keys p.1
  calm : Calm b p.2

/-- The call throws: it has no effect exactly if nothing harmful failed. -/
def Thrown (s₀ : Db) (p : Db × List (Done sig)) : Prop :=
  Unchanged s₀ p.1 ↔ harmless p.2 = true

/-- The call throws with the locks of `keys` left. -/
theorem Locked.thrown (h : Locked s₀ u keys s) (hl : harmless log = keys.isEmpty) :
    Thrown s₀ (s, log) := by
  unfold Thrown
  rw [hl, List.isEmpty_iff, h.unchanged_iff]

/-- An operation outside the transaction fails. -/
theorem LocksSet.fail {o : Op} {e : Exception} (h : LocksSet s₀ u keys b (s, log))
    (ho : o.undone = false) (hb : b = !keys.isEmpty) : Thrown s₀ (s, ⟨o, .error e⟩ :: log) := by
  apply h.locked.thrown
  rw [h.calm.fail ho, hb, Bool.not_not]

/-- A call that has given back all its locks may throw. -/
theorem LocksSet.thrown {p : Db × List (Done sig)} (h : LocksSet s₀ u [] b p) : Thrown s₀ p :=
  ⟨fun _ ↦ h.calm.harmless, fun _ ↦ h.locked.unchanged_iff.mpr rfl⟩

/-! ### The calls of the lock service -/

variable {x : Nat → Op → Choice} {L : Type} {a : HoldCall}

/-- Setting the locks one after another. -/
theorem lockEach_leaves (seatIds keys failed : List String) :
    Code.Leaves (deciding x).recording (fun _ ↦ LocksSet s₀ a.userId keys !keys.isEmpty)
      (lockEach a.eventId a.userId a.sessionId seatIds keys failed)
      (fun r _ p ↦ LocksSet s₀ a.userId r.1 (!r.1.isEmpty) p ∧
        (r.2 = [] → failed = [] ∧ r.1 = keys ++ seatIds.map (lockKey a.eventId)))
      fun _ _ ↦ Thrown s₀ := by
  induction seatIds generalizing keys failed with
  | nil =>
    refine Code.Leaves.ret _ ?_
    intro l p h
    exact ⟨h, fun hf ↦ ⟨hf, by simp⟩⟩
  | cons seatId rest ih =>
    unfold lockEach
    apply Code.Leaves.bind (Q := fun _ _ ↦ LocksSet s₀ a.userId keys !keys.isEmpty)
    · apply await_recording
      · intro c l s log r h hr
        exact ⟨h.locked, h.calm.cons ⟨.now, .ok r⟩ rfl⟩
      · intro e l s log hf
        cases hf
    · intro lockedAt
      let lock : SeatLock := ⟨lockKey a.eventId seatId, a.userId, a.sessionId, lockedAt⟩
      apply Code.Leaves.bind (Q := fun r _ p ↦
        LocksSet s₀ a.userId (if r then keys ++ [lock.key] else keys) (r || !keys.isEmpty) p)
      · apply await_recording
        · intro c l s log r h hr
          cases hk : s.locks.find lock.key with
          | none =>
            rw [perform_setNx_free hk] at hr ⊢
            cases hr
            exact ⟨h.locked.put rfl hk, h.calm.cons ⟨.setNx lock, .ok true⟩ rfl⟩
          | some old =>
            rw [perform_setNx_taken hk] at hr ⊢
            cases hr
            exact ⟨h.locked, h.calm.cons ⟨.setNx lock, .ok false⟩ rfl⟩
        · intro e l s log _ h
          exact h.fail rfl rfl
      · intro r
        cases r with
        | true =>
          apply Code.Leaves.post (Code.Leaves.pre (ih (keys ++ [lock.key]) failed) ?_)
          · intro r l p h
            refine ⟨h.1, fun hf ↦ ⟨(h.2 hf).1, ?_⟩⟩
            rw [(h.2 hf).2, List.map_cons, List.append_assoc, List.singleton_append]
          · exact fun _ _ _ h ↦ h
          · intro l p h
            have some : (keys ++ [lock.key]).isEmpty = false := by simp
            rw [some]
            exact h
        | false =>
          apply Code.Leaves.post (ih keys (failed ++ [seatId]))
          · intro r l p h
            refine ⟨h.1, fun hf ↦ ?_⟩
            exact absurd (h.2 hf).1 (by simp)
          · exact fun _ _ _ h ↦ h

/-- Giving back the locks one after another. -/
theorem unlockEach_leaves (keys : List String) (hb : keys ≠ [] → b = true) :
    Code.Leaves (deciding x).recording (fun (_ : L) ↦ LocksSet s₀ u keys b) (unlockEach keys)
      (fun _ _ ↦ LocksSet s₀ u [] b) fun _ _ ↦ Thrown s₀ := by
  induction keys with
  | nil => exact Code.Leaves.ret _ fun _ _ h ↦ h
  | cons key rest ih =>
    have set := hb (List.cons_ne_nil _ _)
    apply Code.Leaves.bind (Q := fun _ _ ↦ LocksSet s₀ u rest b)
    · apply await_recording
      · intro c l s log r h hr
        exact ⟨h.locked.erase, h.calm.cons ⟨.del key, .ok r⟩ rfl⟩
      · intro e l s log _ h
        exact h.fail rfl set
    · exact fun _ ↦ ih fun _ ↦ set

/-- `lockSeats` sets all locks, or leaves none. -/
theorem lockSeats_leaves :
    Code.Leaves (deciding x).recording (fun _ p ↦ p = (s₀, []))
      (lockSeats a.eventId a.seatIds a.userId a.sessionId)
      (fun failed _ p ↦ if failed.isEmpty then LocksSet s₀ a.userId a.keys (!a.keys.isEmpty) p
        else Thrown s₀ p)
      fun _ _ ↦ Thrown s₀ := by
  unfold lockSeats
  apply Code.Leaves.bind
  · apply Code.Leaves.pre (lockEach_leaves a.seatIds [] [])
    rintro l p rfl
    exact ⟨⟨rfl, rfl, List.nodup_nil, nofun, nofun, fun _ _ ↦ rfl⟩, ⟨rfl, rfl⟩⟩
  · rintro ⟨lockedKeys, failedSeatIds⟩
    by_cases hf : failedSeatIds.isEmpty = true
    · simp only [hf, if_true]
      refine Code.Leaves.ret _ ?_
      rintro l p ⟨h, hk⟩
      have all : lockedKeys = a.keys := (hk (List.isEmpty_iff.mp hf)).2
      rw [all] at h
      exact h
    · simp only [hf, if_false, Bool.false_eq_true]
      apply Code.Leaves.bind (Q := fun _ _ p ↦ Thrown s₀ p)
      · apply Code.Leaves.post (Code.Leaves.pre (unlockEach_leaves lockedKeys fun hk ↦ ?_)
          fun _ _ h ↦ h.1)
        · exact fun _ _ _ h ↦ h.thrown
        · exact fun _ _ _ h ↦ h
        · simpa using hk
      · exact fun _ ↦ Code.Leaves.ret _ fun _ _ h ↦ by rwa [if_neg hf]

/-- `releaseSeats` of the lock service gives back the locks of a call. -/
theorem releaseLocks_leaves (seatIds : List String) (released : Nat)
    (hb : seatIds ≠ [] → b = true) :
    Code.Leaves (deciding x).recording
      (fun (_ : L) ↦ LocksSet s₀ a.userId (seatIds.map (lockKey a.eventId)) b)
      (releaseLocks a.eventId a.userId seatIds released)
      (fun _ _ ↦ LocksSet s₀ a.userId [] b) fun _ _ ↦ Thrown s₀ := by
  induction seatIds generalizing released with
  | nil => exact Code.Leaves.ret _ fun _ _ h ↦ h
  | cons seatId rest ih =>
    have set := hb (List.cons_ne_nil _ _)
    let key := lockKey a.eventId seatId
    let keys := rest.map (lockKey a.eventId)
    apply Code.Leaves.bind (Q := fun r _ p ↦ LocksSet s₀ a.userId (key :: keys) b p ∧
      ∃ lock, r = some lock ∧ lock.userId = a.userId)
    · apply await_recording
      · intro c l s log r h hr
        refine ⟨⟨h.locked, h.calm.cons ⟨.get key, .ok r⟩ rfl⟩, ?_⟩
        cases hr
        exact h.locked.mine key List.mem_cons_self
      · intro e l s log _ h
        exact h.fail rfl set
    · intro r
      apply Code.Leaves.from_each
      rintro l p ⟨h, lock, rfl, hu⟩
      simp only [hu, if_true]
      apply Code.Leaves.bind (Q := fun _ _ ↦ LocksSet s₀ a.userId keys b)
      · apply Code.Leaves.pre (P := fun _ ↦ LocksSet s₀ a.userId (key :: keys) b)
        · apply await_recording
          · intro c l s log r h hr
            exact ⟨h.locked.erase, h.calm.cons ⟨.del key, .ok r⟩ rfl⟩
          · intro e l s log _ h
            exact h.fail rfl set
        · rintro l p ⟨-, rfl⟩
          exact h
      · exact fun _ ↦ ih _ fun _ ↦ set

/-! ### The transaction -/

/-- An operation that leaves seats, holds and locks alone. -/
theorem LocksSet.step {s' : Db} {d : Done sig} (h : LocksSet s₀ u keys b (s, log))
    (hs : s'.seats = s.seats) (hh : s'.holds = s.holds) (hl : s'.locks = s.locks)
    (hd : d.failed = false) (hk : setKey d = false) : LocksSet s₀ u keys b (s', d :: log) where
  locked := by
    obtain ⟨seats, holds, nodup, free, mine, others⟩ := h.locked
    rw [← hs] at seats
    rw [← hh] at holds
    exact ⟨seats, holds, nodup, free, hl ▸ mine, hl ▸ others⟩
  calm := by
    have next := h.calm.cons d hd
    rwa [hk] at next

/-- Building the hold entities awaits nothing. -/
theorem newHolds_leaves {h : Handler sig (Db × List (Done sig))}
    {P : L → Db × List (Done sig) → Prop}
    (eventId userId sessionId : String) (expiresAt : Nat) (found : List Seat)
    (seatIds : List String) :
    Code.Leaves h P (newHolds eventId userId sessionId expiresAt found seatIds)
      (fun holds l p ↦ P l p ∧ (seatIds = [] → holds = [])) fun _ ↦ P := by
  induction seatIds with
  | nil => exact Code.Leaves.ret _ fun _ _ h ↦ ⟨h, fun _ ↦ rfl⟩
  | cons seatId rest ih =>
    unfold newHolds
    cases found.find? fun inv ↦ inv.seatId = seatId with
    | none => exact Code.Leaves.raise _ fun _ _ h ↦ h
    | some inventory =>
      apply Code.Leaves.bind ih
      intro holds
      exact Code.Leaves.ret _ fun _ _ h ↦ ⟨h.1, by simp⟩

/-- The locks are set and the transaction is open. -/
def InTransaction (s₀ : Db) (a : HoldCall) (active : Bool) (p : Db × List (Done sig)) : Prop :=
  active = true ∧ LocksSet s₀ a.userId a.keys (!a.keys.isEmpty) p

/-- What is known when the transaction throws: it is still open, or nothing undoes it. -/
def Aborted (s₀ : Db) (a : HoldCall) (active : Bool) (p : Db × List (Done sig)) : Prop :=
  if active then LocksSet s₀ a.userId a.keys (!a.keys.isEmpty) p else Thrown s₀ p

/-- An open transaction is aborted. -/
theorem InTransaction.aborted {active : Bool} {p : Db × List (Done sig)}
    (h : InTransaction s₀ a active p) : Aborted s₀ a active p := by
  rw [Aborted, if_pos h.1]
  exact h.2

/-- An operation of the open transaction that stores nothing. -/
theorem await_transaction (o : Op) (F : Res o → Prop) (ho : o.fallible = true → o.undone = true)
    (keeps : ∀ c s, (perform c o s).2.seats = s.seats ∧ (perform c o s).2.holds = s.holds ∧
      (perform c o s).2.locks = s.locks)
    (hk : ∀ r, setKey ⟨o, .ok r⟩ = false) (hr : ∀ c s r, (perform c o s).1 = .ok r → F r) :
    Code.Leaves (deciding x).recording (InTransaction s₀ a) (await o)
      (fun r active p ↦ InTransaction s₀ a active p ∧ F r) fun _ ↦ Aborted s₀ a := by
  apply await_recording
  · intro c active s log r h hanswer
    obtain ⟨hseats, hholds, hlocks⟩ := keeps c s
    exact ⟨⟨h.1, h.2.step hseats hholds hlocks rfl (hk r)⟩, hr c s r hanswer⟩
  · intro e active s log hf h
    rw [Aborted, if_pos h.1]
    exact ⟨h.2.locked, h.2.calm.undone (ho hf)⟩

/-- A commit is a change, but for a call without seats. -/
theorem LocksSet.commit {updated : Write} {saved : List SeatHold} {r : Unit}
    (h : LocksSet s₀ a.userId a.keys (!a.keys.isEmpty) (s, log))
    (hu : a.seatIds = [] → updated = .seats []) (hs : a.seatIds = [] → saved = []) :
    (Unchanged s₀ ([updated, .holds saved].foldl Db.write s) ↔ a.keys = []) ∧
      Calm (!a.keys.isEmpty)
        (⟨.commit [updated, .holds saved], .ok r⟩ :: log : List (Done sig)) := by
  refine ⟨?_, h.calm.cons ⟨.commit _, .ok r⟩ rfl⟩
  rw [← h.locked.unchanged_iff]
  constructor
  · intro same
    rw [h.locked.unchanged_iff]
    by_contra hne
    obtain ⟨key, hk⟩ := List.exists_mem_of_ne_nil _ hne
    obtain ⟨lock, hl, -⟩ := h.locked.mine key hk
    have still : s.locks.find key = s₀.locks.find key := by
      have kept := same.locks key
      cases updated <;> exact kept
    rw [hl, h.locked.free key hk] at still
    cases still
  · intro same
    have none : a.seatIds = [] := List.map_eq_nil_iff.mp (h.locked.unchanged_iff.mp same)
    rw [hu none, hs none]
    exact same

/-- The `try` block of `holdSeats`. -/
theorem holdTransaction_leaves :
    Code.Leaves (deciding x).recording (InTransaction s₀ a)
      (holdTransaction a.eventId a.seatIds a.userId a.sessionId)
      (fun _ _ p ↦ harmless p.2 = true) fun _ ↦ Aborted s₀ a := by
  unfold holdTransaction
  apply Code.Leaves.bind
  · apply await_transaction (.findBySeatIds _ _) (fun found ↦ a.seatIds = [] → found = [])
      (fun _ ↦ rfl) (fun _ _ ↦ ⟨rfl, rfl, rfl⟩) fun _ ↦ rfl
    intro c s found hr he
    cases hr
    simp [he]
  intro inventories
  apply Code.Leaves.assume
  intro hfound
  dsimp only
  split
  · exact Code.Leaves.raise _ fun _ _ h ↦ h.aborted
  apply Code.Leaves.bind
  · apply await_transaction (.statement _) (fun updated ↦ a.seatIds = [] → updated = .seats [])
      (fun _ ↦ rfl) (fun _ _ ↦ ⟨rfl, rfl, rfl⟩) fun _ ↦ rfl
    intro c s updated hr he
    cases hr
    rw [hfound he]
    rfl
  intro updated
  apply Code.Leaves.assume
  intro hupdated
  apply Code.Leaves.bind
  · exact await_transaction .now (fun _ ↦ True) nofun (fun _ _ ↦ ⟨rfl, rfl, rfl⟩) (fun _ ↦ rfl)
      fun _ _ _ _ ↦ trivial
  intro now
  apply Code.Leaves.assume
  intro _
  apply Code.Leaves.bind
  · apply Code.Leaves.post
    · exact newHolds_leaves _ _ _ _ _ _
    · exact fun _ _ _ h ↦ h
    · exact fun _ _ _ h ↦ InTransaction.aborted h
  intro holds
  apply Code.Leaves.assume
  intro hholds
  apply Code.Leaves.bind
  · apply await_transaction (.insertHolds _) (fun saved ↦ a.seatIds = [] → saved = [])
      (fun _ ↦ rfl) (fun _ _ ↦ ⟨rfl, rfl, rfl⟩) fun _ ↦ rfl
    intro c s saved hr he
    cases hr
    rw [hholds he]
    rfl
  intro savedHolds
  apply Code.Leaves.assume
  intro hsaved
  apply Code.Leaves.bind (Q := fun _ active p ↦ active = false ∧
    (Unchanged s₀ p.1 ↔ a.keys = []) ∧ Calm (!a.keys.isEmpty) p.2)
  · apply Code.Leaves.bind (Q := fun _ _ p ↦
      (Unchanged s₀ p.1 ↔ a.keys = []) ∧ Calm (!a.keys.isEmpty) p.2)
    · apply await_recording
      · intro c active s log r h _
        exact h.2.commit hupdated hsaved
      · intro e active s log _ h
        rw [Aborted, if_pos h.1]
        exact ⟨h.2.locked, h.2.calm.undone rfl⟩
    · intro _
      exact Code.Leaves.assign _ fun _ _ h ↦ ⟨rfl, h⟩
  intro _
  apply Code.Leaves.bind (Q := fun _ _ p ↦ harmless p.2 = true)
  · apply await_recording
    · intro c active s log r h _
      exact (h.2.2.cons ⟨.hset _ _, .ok r⟩ rfl).harmless
    · intro e active s log _ h
      obtain ⟨rfl, hu, hc⟩ := h
      show Thrown s₀ _
      unfold Thrown
      rw [hc.fail rfl, Bool.not_not, List.isEmpty_iff]
      exact hu
  · exact fun _ ↦ Code.Leaves.ret _ fun _ _ h ↦ h

/-- The `catch` block of `holdSeats` rolls back and gives back the locks. -/
theorem holdCatch_leaves (error : Exception) :
    Code.Leaves (deciding x).recording (Aborted s₀ a)
      (do
        rollbackTransaction
        let _ ← releaseLocks a.eventId a.userId a.seatIds 0
        throw error : Code sig Bool HoldResult)
      (fun _ _ p ↦ harmless p.2 = true) fun _ _ ↦ Thrown s₀ := by
  have set : a.seatIds ≠ [] → (!a.keys.isEmpty) = true := by
    intro hne
    simpa [HoldCall.keys] using hne
  apply Code.Leaves.bind (Q := fun _ _ ↦ LocksSet s₀ a.userId a.keys (!a.keys.isEmpty))
  · apply Code.Leaves.bind (Q := fun r active p ↦ r = active ∧ Aborted s₀ a active p)
    · exact Code.Leaves.entity fun _ _ h ↦ ⟨rfl, h⟩
    · intro active
      cases active with
      | true =>
        apply await_recording
        · rintro c l s log r ⟨rfl, h⟩ _
          exact LocksSet.step h rfl rfl rfl rfl rfl
        · rintro e l s log _ ⟨rfl, h⟩
          exact LocksSet.fail h rfl rfl
      | false =>
        refine Code.Leaves.raise _ ?_
        rintro l p ⟨rfl, h⟩
        exact h
  · intro _
    apply Code.Leaves.bind (releaseLocks_leaves a.seatIds 0 set)
    exact fun _ ↦ Code.Leaves.raise _ fun _ _ h ↦ h.thrown

/-- `holdSeats` returns after harmless operations, or throws as described. -/
theorem holdSeats_leaves (x : Nat → Op → Choice) (a : HoldCall) (s₀ : Db) :
    Code.Leaves (deciding x).recording (fun _ p ↦ p = (s₀, [])) a.code
      (fun _ _ p ↦ harmless p.2 = true) fun _ _ ↦ Thrown s₀ := by
  unfold HoldCall.code holdSeats
  apply Code.Leaves.bind lockSeats_leaves
  intro failedSeatIds
  by_cases hf : failedSeatIds.isEmpty = true
  · simp only [hf, not_true_eq_false, if_false, if_true]
    apply Code.Leaves.bind (Q := fun _ _ ↦ LocksSet s₀ a.userId a.keys (!a.keys.isEmpty))
    · apply await_recording
      · intro c l s log r h _
        exact h.step rfl rfl rfl rfl rfl
      · intro e l s log _ h
        exact h.fail rfl rfl
    · intro _
      apply Code.Leaves.pre (Code.Leaves.on (m := true) (P := InTransaction s₀ a)
        (Q := fun _ p ↦ harmless p.2 = true) (E := fun _ ↦ Thrown s₀) ?_) fun _ _ h ↦ ⟨rfl, h⟩
      exact Code.Leaves.tryCatch holdTransaction_leaves holdCatch_leaves
  · simp only [hf, Bool.false_eq_true, if_false]
    rw [if_pos not_false]
    exact Code.Leaves.raise _ fun _ _ h ↦ h

/-- When a call of `holdSeats` throws, the seats, holds and locks are as before, exactly if
nothing failed once it had set a key, but for the operations of its open transaction. -/
theorem failed_hold_unchanged_iff (x : Nat → Op → Choice) (a : HoldCall) (s : Db) :
    FailsCleanly s (a.code.exec (deciding x).recording 0 () (s, [])) ↔
      harmless (a.code.exec (deciding x).recording 0 () (s, [])).state.2 = true := by
  have left := holdSeats_leaves x a s 0 () (s, []) rfl
  unfold FailsCleanly
  rcases hr : a.code.exec (deciding x).recording 0 () (s, []) with ⟨r, l, n, p⟩
  rw [hr] at left
  cases r with
  | ok result => exact ⟨fun _ ↦ left, nofun⟩
  | error e => exact ⟨fun h ↦ left.mp (h rfl), fun h _ ↦ left.mpr h⟩

/-- The connection to the database fails. -/
def connectFails (_ : Nat) : Op → Choice
  | .connect => { fault := some (.failure "connection refused") }
  | _ => {}

/-- The call throws, and the seat stays locked. -/
theorem failed_hold_keeps_lock :
    ¬ FailsCleanly saleStock ((⟨"e", ["A"], "u", "s"⟩ : HoldCall).code.exec
      (deciding connectFails).recording 0 () (saleStock, [])) := by
  intro h
  have unlocked := (h (by decide +kernel)).locks (lockKey "e" "A")
  revert unlocked
  decide +kernel

end Ticketing.SeatInventory
