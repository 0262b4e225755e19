import Ticketing.Async.Monitor
import Ticketing.Async.Play
import Ticketing.SeatInventory.Bookkeeping
import Ticketing.Store.Owners

/-!
# All seats or none

Library `SeatInventory`. Calls of `lockSeats` whose commands interleave, with no other command and
no key that expires. A call owns the locks that it has set and has not deleted. Every lock that was
not there at the start has one owner, and only the owner deletes it.
-/

namespace Ticketing.SeatInventory

open Async Store

/-- The service that only locks seats; its calls have the arguments of `HoldCall`. -/
abbrev lockers : Service where
  toSig := sig
  State := Db
  Choice := Choice
  exec := perform
  Job := HoldCall
  Reply := List String
  code a := (lockSeats a.eventId a.seatIds a.userId a.sessionId).prog

/-- What a call has read from the clock, and the locks that it has set and not deleted. -/
structure Owned where
  read : List Nat := []
  locks : List SeatLock := []

/-- After a command. -/
def ownNext (s : Owned) : (o : Op) → sig.Answer o → Owned
  | .now, .ok now => { s with read := now :: s.read }
  | .setNx lock, .ok true => { s with locks := s.locks ++ [lock] }
  | .del key, .ok _ => { s with locks := s.locks.eraseP (·.key = key) }
  | _, _ => s

/-- The value that a call stores. -/
structure Mine (a : HoldCall) (read : List Nat) (lock : SeatLock) : Prop where
  key : lock.key ∈ a.keys
  userId : lock.userId = a.userId
  sessionId : lock.sessionId = a.sessionId
  lockedAt : lock.lockedAt ∈ read

/-- A call sets its own keys, and deletes keys that it owns. -/
def ownMay (a : HoldCall) (s : Owned) : Op → Prop
  | .now => True
  | .setNx lock => Mine a s.read lock
  | .del key => ∃ lock ∈ s.locks, lock.key = key
  | _ => False

/-- What the calls own. -/
def owning : Monitor lockers Owned where
  init := {}
  next := ownNext
  may := ownMay

/-- The clock readings of call `t`. -/
abbrev readings (t : Nat) (p : Pool lockers) : List Nat := (owning.state t p.conf.log).read

/-- The locks that call `t` owns. -/
abbrev owned (t : Nat) (p : Pool lockers) : List SeatLock := (owning.state t p.conf.log).locks

/-- The call has succeeded. -/
def Succeeded (p : Pool lockers) (t : Nat) (a : HoldCall) : Prop := p.At t a (.ret (.ok []))

/-- The call is running. -/
def Running (p : Pool lockers) (t : Nat) : Prop := ∃ a o k, p.At t a (.op o k)

/-! ### What one call does -/

/-- A command of a call does not fail. -/
theorem no_error {o : Op} {e : Exception} (h : lockers.Gives o (.error e)) : False := by
  obtain ⟨x, s, h⟩ := h
  exact not_error_of_perform h

variable {a : HoldCall}

/-- The first loop: the call owns the keys that it has locked. -/
theorem lockEach_owns (ids keys failed done : List String)
    (hk : done ++ ids.map (lockKey a.eventId) = a.keys) :
    owning.Holds a
      (fun (_ : Unit) s ↦ s.locks.map SeatLock.key = keys ∧ (failed = [] → keys = done))
      (lockEach a.eventId a.userId a.sessionId ids keys failed)
      (fun r _ s ↦ s.locks.map SeatLock.key = r.1 ∧ (r.2 = [] → r.1 = a.keys))
      fun _ _ _ ↦ False := by
  induction ids generalizing keys failed done with
  | nil =>
    apply Monitor.Holds.ret
    intro l s h
    rw [List.map_nil, List.append_nil] at hk
    rw [← hk]
    exact h
  | cons seatId rest ih =>
    have mem : lockKey a.eventId seatId ∈ a.keys := by simp [← hk]
    have hk' : (done ++ [lockKey a.eventId seatId]) ++ rest.map (lockKey a.eventId) = a.keys := by
      simp [← hk]
    apply Monitor.Holds.bind (I := fun lockedAt _ s ↦ lockedAt ∈ s.read ∧
      s.locks.map SeatLock.key = keys ∧ (failed = [] → keys = done))
    · apply Monitor.Holds.await
      · exact fun _ _ _ ↦ trivial
      · exact fun now l s _ h ↦ ⟨List.mem_cons_self, h⟩
      · exact fun _ _ _ he _ ↦ no_error he
    intro lockedAt
    apply Monitor.Holds.bind (I := fun r _ s ↦
      s.locks.map SeatLock.key = (if r then keys ++ [lockKey a.eventId seatId] else keys) ∧
        (failed = [] → keys = done))
    · apply Monitor.Holds.await
      · exact fun l s h ↦ ⟨mem, rfl, rfl, h.1⟩
      · intro r l s _ h
        cases r with
        | false => exact h.2
        | true =>
          refine ⟨?_, h.2.2⟩
          show (s.locks ++ [_]).map SeatLock.key = _
          rw [List.map_append, h.2.1]
          rfl
      · exact fun _ _ _ he _ ↦ no_error he
    intro r
    cases r with
    | true =>
      apply (ih (keys ++ [lockKey a.eventId seatId]) failed _ hk').pre
      intro l s h
      refine ⟨h.1, fun hf ↦ ?_⟩
      rw [h.2 hf]
    | false =>
      apply (ih keys (failed ++ [seatId]) _ hk').pre
      intro l s h
      exact ⟨h.1, fun hf ↦ by simp at hf⟩

/-- The second loop: what the call owns is deleted. -/
theorem unlockEach_owns (keys : List String) :
    owning.Holds a (fun (_ : Unit) s ↦ s.locks.map SeatLock.key = keys) (unlockEach keys)
      (fun _ _ s ↦ s.locks = []) fun _ _ _ ↦ False := by
  induction keys with
  | nil => exact Monitor.Holds.ret _ fun _ _ h ↦ List.map_eq_nil_iff.mp h
  | cons key rest ih =>
    apply Monitor.Holds.bind (I := fun _ _ s ↦ s.locks.map SeatLock.key = rest)
    · apply Monitor.Holds.await
      · intro l s h
        obtain ⟨lock, locks, hs, hkey, -⟩ := List.map_eq_cons_iff.mp h
        exact ⟨lock, by simp [hs], hkey⟩
      · intro r l s _ h
        obtain ⟨lock, locks, hs, hkey, hrest⟩ := List.map_eq_cons_iff.mp h
        show (s.locks.eraseP (·.key = key)).map SeatLock.key = rest
        rw [hs, List.eraseP_cons_of_pos (by simp [hkey]), hrest]
      · exact fun _ _ _ he _ ↦ no_error he
    · exact fun _ ↦ ih

/-- What a call owns when it ends: all its keys, or nothing. -/
def EndsWith (a : HoldCall) : Except Exception (List String) → Owned → Prop
  | .ok [], s => s.locks.map SeatLock.key = a.keys
  | .ok (_ :: _), s => s.locks = []
  | .error _, _ => False

/-- A call owns all its keys when it succeeds, and none when it fails. -/
theorem call_owns (a : HoldCall) : owning.Obeys a (lockers.code a) (EndsWith a) owning.init := by
  apply Monitor.obeys_prog.mpr
  have whole : owning.Holds a (fun _ s ↦ s = owning.init)
      (lockSeats a.eventId a.seatIds a.userId a.sessionId)
      (fun failedSeatIds _ s ↦ EndsWith a (.ok failedSeatIds) s) fun _ _ _ ↦ False := by
    apply Monitor.Holds.bind
    · apply (lockEach_owns a.seatIds [] [] [] rfl).pre
      rintro l s rfl
      exact ⟨rfl, fun _ ↦ rfl⟩
    · rintro ⟨lockedKeys, failedSeatIds⟩
      cases failedSeatIds with
      | nil =>
        apply Monitor.Holds.ret
        intro l s h
        show s.locks.map SeatLock.key = a.keys
        rw [h.1]
        exact h.2 rfl
      | cons seatId rest =>
        apply Monitor.Holds.bind ((unlockEach_owns lockedKeys).pre fun _ _ h ↦ h.1)
        exact fun _ ↦ Monitor.Holds.ret _ fun _ _ h ↦ h
  exact whole () owning.init rfl

/-! ### Every run -/

/-- The locks are the initial ones and those that the calls own, with the values of the calls. -/
structure Ledger (s₀ : Db) (p : Pool lockers) : Prop where
  owners : Owners s₀.locks p.conf.state.locks fun t ↦ owned t p
  mine : ∀ t a q, p.At t a q → ∀ lock ∈ owned t p, Mine a (readings t p) lock

variable {s₀ : Db} {p : Pool lockers}

/-- What the calls own after a command of call `t`. -/
theorem owned_advance (p : Pool lockers) (t : Nat) (a : HoldCall) (x : Choice) (o : Op)
    (k : sig.Answer o → lockers.Program) :
    (fun u ↦ owned u (p.advance t a x o k)) = Function.update (fun u ↦ owned u p) t
      (ownNext (owning.state t p.conf.log) o (p.conf.answer x o)).locks := by
  funext u
  by_cases hu : u = t
  · subst hu
    rw [Function.update_self]
    exact congrArg Owned.locks (owning.state_self u a o (p.conf.answer x o) p.conf.log)
  · rw [Function.update_of_ne hu]
    exact congrArg Owned.locks (owning.state_other (Ne.symm hu))

/-- A call goes on owning locks with its values. -/
theorem Mine.next {a : HoldCall} {s : Owned} {o : Op} {r : sig.Answer o} (hm : ownMay a s o)
    (h : ∀ lock ∈ s.locks, Mine a s.read lock) :
    ∀ lock ∈ (ownNext s o r).locks, Mine a (ownNext s o r).read lock := by
  cases o with
  | now =>
    cases r with
    | ok now =>
      intro lock hl
      exact { h lock hl with lockedAt := List.mem_cons_of_mem _ (h lock hl).lockedAt }
    | error e => exact h
  | setNx new =>
    cases r with
    | ok set =>
      cases set with
      | true =>
        intro lock hl
        rcases List.mem_append.mp hl with hl | hl
        · exact h lock hl
        · rw [List.mem_singleton.mp hl]
          exact hm
      | false => exact h
    | error e => exact h
  | del key =>
    cases r with
    | ok _ => exact fun lock hl ↦ h lock (List.mem_of_mem_eraseP hl)
    | error e => exact h
  | _ => exact hm.elim

/-- A command of a call keeps the ledger of owners. -/
theorem owners_command {a : HoldCall} {own : Nat → List SeatLock} {t : Nat} {read : List Nat}
    {x : Choice} {o : Op} {s : Db} (hm : ownMay a ⟨read, own t⟩ o)
    (h : Owners s₀.locks s.locks own) :
    Owners s₀.locks (perform x o s).2.locks
      (Function.update own t (ownNext ⟨read, own t⟩ o (perform x o s).1).locks) := by
  cases o with
  | now =>
    show Owners s₀.locks s.locks (Function.update own t (own t))
    rwa [Function.update_eq_self]
  | setNx lock =>
    cases hf : s.locks.find lock.key with
    | none =>
      rw [perform_setNx_free hf]
      exact h.put hf t
    | some old =>
      rw [perform_setNx_taken hf]
      show Owners s₀.locks s.locks (Function.update own t (own t))
      rwa [Function.update_eq_self]
  | del key =>
    obtain ⟨lock, hl, rfl⟩ := hm
    exact h.erase hl
  | _ => exact hm.elim

/-- In every run the locks are the initial ones and those that the calls own. -/
theorem ledger_of_reach (hp : Pool.Reach (.free lockers) (· = s₀) p) : Ledger s₀ p := by
  induction hp with
  | start hs =>
    subst hs
    exact ⟨Owners.start _, fun _ _ _ ht ↦ by cases ht⟩
  | @spawn p a hp hx ih =>
    have watched := Monitor.watches_of_reach call_owns hp
    refine ⟨ih.owners, ?_⟩
    intro t b q ht lock hl
    rcases Pool.at_spawn.mp ht with old | ⟨rfl, -, -⟩
    · exact ih.mine t b q old lock hl
    · have none : owned p.threads.length p = [] :=
        congrArg Owned.locks (watched.threads _ (Nat.le_refl _))
      have hl : lock ∈ owned p.threads.length p := hl
      rw [none] at hl
      cases hl
  | @run p t a x o k hp ht _ ih =>
    have may := (Monitor.watches_of_reach call_owns hp).may ht
    constructor
    · rw [owned_advance]
      exact owners_command may ih.owners
    · intro u b q hu lock hl
      rcases (Pool.at_advance ht).mp hu with ⟨rfl, rfl, -⟩ | ⟨hne, hu⟩
      · have self : owning.state u (p.advance u b x o k).conf.log =
            ownNext (owning.state u p.conf.log) o (p.conf.answer x o) := owning.state_self ..
        unfold owned at hl
        unfold readings
        rw [self] at hl ⊢
        exact Mine.next may (ih.mine u b _ ht) lock hl
      · have other : owning.state u (p.advance t a x o k).conf.log = owning.state u p.conf.log :=
          owning.state_other (Ne.symm hne)
        unfold owned at hl
        unfold readings
        rw [other] at hl ⊢
        exact ih.mine u b q hu lock hl

/-- What holds at every moment of the calls, and when all have ended. -/
structure AllOrNothing (s₀ : Db) (p : Pool lockers) : Prop where
  /-- The initial locks stay. -/
  initial : ∀ key lock, s₀.locks.find key = some lock → p.conf.state.locks.find key = some lock
  /-- Any other lock has one owner, which is running or has succeeded. -/
  owner : ∀ key lock, p.conf.state.locks.find key = some lock → s₀.locks.find key = none →
    ∃ t, lock ∈ owned t p ∧ (∀ u, lock ∈ owned u p → u = t) ∧
      (Running p t ∨ ∃ a, Succeeded p t a)
  /-- An owned lock is there, under a key of the call that was free, with the value of the call. -/
  locked : ∀ t a q, p.At t a q → ∀ lock ∈ owned t p,
    p.conf.state.locks.find lock.key = some lock ∧ s₀.locks.find lock.key = none ∧
      Mine a (readings t p) lock
  /-- A call that has succeeded lists different seats, all free at the start, and owns their
  locks. -/
  succeeded : ∀ t a, Succeeded p t a → a.seatIds.Nodup ∧
    (∀ key ∈ a.keys, s₀.locks.find key = none) ∧ (owned t p).map SeatLock.key = a.keys
  /-- In the end the locks are the initial ones and those of the successful calls. -/
  final : (∀ t a q, p.At t a q → q.ended = true) → ∀ key lock,
    p.conf.state.locks.find key = some lock ↔ s₀.locks.find key = some lock ∨
      ∃ t a, Succeeded p t a ∧ lock ∈ owned t p ∧ lock.key = key
  /-- In the end the locked seats are the initial ones and those of the successful calls. -/
  seats : (∀ t a q, p.At t a q → q.ended = true ∧ PlainId a.eventId) →
    ∀ place, PlainId place.1 → ((p.conf.state.locks.find (placeKey place)).isSome ↔
      (s₀.locks.find (placeKey place)).isSome ∨ ∃ t a, Succeeded p t a ∧ place ∈ a.places)

/-- What owns a lock is a call, which is running or has succeeded. -/
theorem active_of_owned (h : owning.Watches EndsWith p) {t : Nat} {lock : SeatLock}
    (hl : lock ∈ owned t p) : ∃ a q, p.At t a q ∧ (Running p t ∨ Succeeded p t a) := by
  cases ht : p.threads[t]? with
  | none =>
    have none : owned t p = [] :=
      congrArg Owned.locks (h.threads t (List.getElem?_eq_none_iff.mp ht))
    rw [none] at hl
    cases hl
  | some thread =>
    obtain ⟨a, q⟩ := thread
    refine ⟨a, q, ht, ?_⟩
    cases q with
    | op o k => exact .inl ⟨a, o, k, ht⟩
    | ret r =>
      have ends := h.ended ht
      cases r with
      | error e => exact ends.elim
      | ok failedSeatIds =>
        cases failedSeatIds with
        | nil => exact .inr ht
        | cons seatId rest =>
          have none : owned t p = [] := ends
          rw [none] at hl
          cases hl

/-- A call that has ended is not running. -/
theorem not_running {t : Nat} (h : ∀ t a q, p.At t a q → q.ended = true) : ¬ Running p t := by
  rintro ⟨a, o, k, ht⟩
  cases h t a _ ht

/-- In the end the locks are the initial ones and those of the successful calls. -/
theorem Ledger.final (h : Ledger s₀ p) (hw : owning.Watches EndsWith p)
    (he : ∀ t a q, p.At t a q → q.ended = true) (key : String) (lock : SeatLock) :
    p.conf.state.locks.find key = some lock ↔ s₀.locks.find key = some lock ∨
      ∃ t a, Succeeded p t a ∧ lock ∈ owned t p ∧ lock.key = key := by
  constructor
  · intro hf
    cases h₀ : s₀.locks.find key with
    | some old =>
      rw [h.owners.initial key old h₀] at hf
      exact .inl hf
    | none =>
      obtain ⟨t, hl⟩ := h.owners.owner key lock hf h₀
      obtain ⟨a, q, -, active⟩ := active_of_owned hw hl
      refine .inr ⟨t, a, active.resolve_left (not_running he), hl, ?_⟩
      exact (Table.find_eq_some_iff.mp hf).2
  · rintro (h₀ | ⟨t, a, -, hl, rfl⟩)
    · exact h.owners.initial key lock h₀
    · exact (h.owners.stored t lock hl).1

/-- A call that has succeeded owns the locks of all its seats. -/
theorem Succeeded.owns (hw : owning.Watches EndsWith p) {t : Nat} {a : HoldCall}
    (h : Succeeded p t a) : (owned t p).map SeatLock.key = a.keys := hw.ended h

/-- Every run is all or nothing. -/
theorem allOrNothing_of_reach (hp : Pool.Reach (.free lockers) (· = s₀) p) :
    AllOrNothing s₀ p := by
  have ledger := ledger_of_reach hp
  have watched := Monitor.watches_of_reach call_owns hp
  refine ⟨ledger.owners.initial, ?_, ?_, ?_, ledger.final watched, ?_⟩
  · intro key lock hf h₀
    obtain ⟨t, hl⟩ := ledger.owners.owner key lock hf h₀
    obtain ⟨a, q, -, active⟩ := active_of_owned watched hl
    refine ⟨t, hl, fun u hu ↦ ledger.owners.unique u t lock hu hl, ?_⟩
    exact active.imp_right fun hs ↦ ⟨a, hs⟩
  · intro t a q ht lock hl
    obtain ⟨stored, free⟩ := ledger.owners.stored t lock hl
    exact ⟨stored, free, ledger.mine t a q ht lock hl⟩
  · intro t a hs
    have keys := hs.owns watched
    refine ⟨?_, ?_, keys⟩
    · apply HoldCall.nodup_of_keys
      rw [← keys]
      exact ledger.owners.once t
    · intro key hk
      rw [← keys] at hk
      obtain ⟨lock, hl, rfl⟩ := List.mem_map.mp hk
      exact (ledger.owners.stored t lock hl).2
  · intro he place hplace
    have final := ledger.final watched fun t a q ht ↦ (he t a q ht).1
    simp only [Option.isSome_iff_exists]
    constructor
    · rintro ⟨lock, hf⟩
      rcases (final _ lock).mp hf with h₀ | ⟨t, a, hs, hl, hk⟩
      · exact .inl ⟨lock, h₀⟩
      · have listed : placeKey place ∈ a.keys := by
          rw [← hs.owns watched, ← hk]
          exact List.mem_map_of_mem hl
        rw [a.keys_eq] at listed
        obtain ⟨place', hm, same⟩ := List.mem_map.mp listed
        have plain : PlainId place'.1 := by
          obtain ⟨seatId, -, rfl⟩ := List.mem_map.mp hm
          exact (he t a _ hs).2
        rw [placeKey_inj plain hplace same] at hm
        exact .inr ⟨t, a, hs, hm⟩
    · rintro (⟨lock, h₀⟩ | ⟨t, a, hs, hm⟩)
      · exact ⟨lock, ledger.owners.initial _ lock h₀⟩
      · have listed : placeKey place ∈ (owned t p).map SeatLock.key := by
          rw [hs.owns watched, a.keys_eq]
          exact List.mem_map_of_mem hm
        obtain ⟨lock, hl, hk⟩ := List.mem_map.mp listed
        exact ⟨lock, (final _ lock).mpr (.inr ⟨t, a, hs, hl, hk⟩)⟩

/-! ### A call that runs alone -/

/-- The answers to a call when no other command comes in between. -/
def alone (x : Nat → Op → Choice) : Handler sig Db := fun n o ↦ lockers.exec (x n o) o

/-- No operation fails and no lock expires. -/
theorem alone_eq (x : Nat → Op → Choice) :
    alone x = expiring (fun n o ↦ { x n o with fault := none }) fun _ ↦ [] := by
  rw [← deciding_eq_expiring]
  funext n o s
  rw [deciding_apply fun _ _ ↦ rfl]
  cases o <;> rfl

/-- One round of the first loop sets the key of its seat, or fails on it. -/
theorem lockEach_round (x : Nat → Op → Choice) (e u sess seatId : String)
    (rest keys failed : List String) (n : Nat) (s : Db) :
    ∃ lock : SeatLock, lock.key = lockKey e seatId ∧
      (lockEach e u sess (seatId :: rest) keys failed).exec (alone x) n () s =
        match s.locks.find (lockKey e seatId) with
        | none => (lockEach e u sess rest (keys ++ [lockKey e seatId]) failed).exec (alone x)
            (n + 2) () { s with locks := s.locks.put lock }
        | some _ => (lockEach e u sess rest keys (failed ++ [seatId])).exec (alone x)
            (n + 2) () s := by
  have calm : ¬ Faulty fun n o ↦ { x n o with fault := none } := fun ⟨_, _, h⟩ ↦ h rfl
  obtain ⟨lock, s₁, hlock, hs₁, he⟩ :=
    lockEach_cons (fun _ ↦ []) calm e u sess seatId rest keys failed n s
  have same : s₁ = s := hs₁
  rw [same, ← alone_eq] at he
  exact ⟨lock, hlock, he⟩

/-- The first loop returns, and no seat has failed if and only if the seats are different and
free. -/
theorem lockEach_alone_iff (x : Nat → Op → Choice) (e u sess : String)
    (ids keys failed : List String) (n : Nat) (s : Db) :
    ∃ r m s', (lockEach e u sess ids keys failed).exec (alone x) n () s = ⟨.ok r, (), m, s'⟩ ∧
      (r.2 = [] ↔ failed = [] ∧ ids.Nodup ∧ ∀ id ∈ ids, s.locks.find (lockKey e id) = none) := by
  induction ids generalizing keys failed n s with
  | nil => exact ⟨(keys, failed), n, s, rfl, by simp⟩
  | cons seatId rest ih =>
    obtain ⟨lock, hlock, round⟩ := lockEach_round x e u sess seatId rest keys failed n s
    rw [round]
    cases hf : s.locks.find (lockKey e seatId) with
    | some old =>
      obtain ⟨r, m, s', he, hr⟩ := ih keys (failed ++ [seatId]) (n + 2) s
      refine ⟨r, m, s', he, ?_⟩
      simp [hr, hf]
    | none =>
      obtain ⟨r, m, s', he, hr⟩ :=
        ih (keys ++ [lockKey e seatId]) failed (n + 2) { s with locks := s.locks.put lock }
      refine ⟨r, m, s', he, ?_⟩
      have free : ∀ id, (s.locks.put lock).find (lockKey e id) = none ↔
          id ≠ seatId ∧ s.locks.find (lockKey e id) = none := by
        intro id
        rw [Table.find_put, hlock]
        by_cases hid : id = seatId
        · simp [hid]
        · rw [if_neg fun h ↦ hid (lockKey_inj h).symm]
          simp [hid]
      simp only [hr, free, List.nodup_cons, List.forall_mem_cons, hf]
      grind

/-- The second loop returns in a call that runs alone. -/
theorem unlockEach_alone (x : Nat → Op → Choice) (keys : List String) (n : Nat) (s : Db) :
    ∃ m s', (unlockEach keys : Code sig Unit Unit).exec (alone x) n () s =
      ⟨.ok (), (), m, s'⟩ := by
  induction keys generalizing n s with
  | nil => exact ⟨n, s, rfl⟩
  | cons key rest ih => exact ih (n + 1) { s with locks := s.locks.erase key }

/-- A call that runs alone succeeds if and only if its seats are different and free. -/
theorem alone_succeeds_iff (a : HoldCall) (x : Nat → Op → Choice) (s : Db) :
    ((lockSeats a.eventId a.seatIds a.userId a.sessionId).exec (alone x) 0 () s).result = .ok [] ↔
      a.seatIds.Nodup ∧ ∀ key ∈ a.keys, s.locks.find key = none := by
  obtain ⟨⟨lockedKeys, failedSeatIds⟩, m, s', he, hr⟩ :=
    lockEach_alone_iff x a.eventId a.userId a.sessionId a.seatIds [] [] 0 s
  have keys : (∀ key ∈ a.keys, s.locks.find key = none) ↔
      ∀ seatId ∈ a.seatIds, s.locks.find (lockKey a.eventId seatId) = none := by
    simp [HoldCall.keys]
  rw [keys, lockSeats, Code.exec_bind, he]
  cases failedSeatIds with
  | nil =>
    simp only [true_and] at hr
    exact iff_of_true rfl (hr.mp trivial)
  | cons seatId rest =>
    simp only [true_and] at hr
    refine iff_of_false ?_ (mt hr.mpr (List.cons_ne_nil _ _))
    obtain ⟨m', s'', hu⟩ := unlockEach_alone x lockedKeys m s'
    dsimp only
    rw [List.isEmpty_cons, if_neg Bool.false_ne_true, Code.exec_bind, hu]
    intro h
    cases h

/-- Concurrent calls of `lockSeats` are all or nothing: at every moment of every interleaving each
lock that was not there at the start has one owner, which is running or has succeeded; a call with
a repeated seat or a seat that was locked at the start never succeeds; in the end the locks are the
initial ones and those of the successful calls. A call that runs alone succeeds if and only if its
seats are different and free. -/
theorem lockSeats_all_or_nothing {s₀ : Db} {p : Pool lockers}
    (hp : Pool.Reach (.free lockers) (· = s₀) p) :
    AllOrNothing s₀ p ∧ ∀ (a : HoldCall) (x : Nat → Op → Choice) (s : Db),
      ((lockSeats a.eventId a.seatIds a.userId a.sessionId).exec (alone x) 0 () s).result =
          .ok [] ↔
        a.seatIds.Nodup ∧ ∀ key ∈ a.keys, s.locks.find key = none :=
  ⟨allOrNothing_of_reach hp, alone_succeeds_iff⟩

/-- A seat is locked. -/
def lockedStock : Db :=
  { saleStock with locks := saleStock.locks.put ⟨lockKey "e" "C", "w", "z", 0⟩ }

/-- Between two commands of the second call the first call locks one of its seats. -/
def overlapping : List (Label lockers) :=
  [.spawn ⟨"e", ["A"], "u", "s"⟩, .spawn ⟨"e", ["B", "A"], "v", "t"⟩, .run 1 {}, .run 1 {},
    .run 0 {}, .run 0 {}, .run 1 {}, .run 1 {}, .run 1 {}]

/-- The first call succeeds, and the second call gives back the other seat. -/
theorem lockSeats_all_or_nothing_overlapping :
    ∃ p, Pool.Reach (.free lockers) (· = lockedStock) p ∧ AllOrNothing lockedStock p ∧
      p.reply? 0 = some [] ∧ p.reply? 1 = some ["A"] ∧
      p.conf.state.locks.rows.map SeatLock.key = [lockKey "e" "C", lockKey "e" "A"] := by
  have played : (Pool.play (.free lockers) overlapping (.start lockedStock)).any fun p ↦
      decide (p.reply? 0 = some []) && decide (p.reply? 1 = some ["A"]) &&
        decide (p.conf.state.locks.rows.map SeatLock.key =
          [lockKey "e" "C", lockKey "e" "A"]) := by
    decide +kernel
  simp only [Option.any_eq_true, Bool.and_eq_true, decide_eq_true_eq] at played
  obtain ⟨p, hp, ⟨first, second⟩, rows⟩ := played
  have reach : Pool.Reach (.free lockers) (· = lockedStock) p := Pool.reach_of_play rfl hp
  exact ⟨p, reach, (lockSeats_all_or_nothing reach).1, first, second, rows⟩

end Ticketing.SeatInventory
