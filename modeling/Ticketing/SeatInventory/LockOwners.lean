import Ticketing.Async.Monitor
import Ticketing.Async.Play
import Ticketing.SeatInventory.Alone

/-!
# Who deletes a lock

Library `SeatInventory`. Calls of `SeatLockService` whose commands interleave. A release is a
GET, a comparison and a DEL, and a failed `lockSeats` deletes the keys that it has set: the
value that is deleted need not be the one that was read or set.
-/

namespace Ticketing.SeatInventory

open Async Store

/-- The calls of `SeatLockService`. -/
inductive LockJob where
  | lockSeats (eventId : String) (seatIds : List String) (userId sessionId : String)
  | releaseSeats (eventId : String) (seatIds : List String) (userId : String)
  deriving DecidableEq

namespace LockJob

/-- The user that a call is made for. -/
def user : LockJob → String
  | .lockSeats _ _ u _ | .releaseSeats _ _ u => u

/-- The code of a call. -/
def run : LockJob → Code sig Unit Unit
  | .lockSeats e ids u n => do
    let _ ← SeatInventory.lockSeats e ids u n
    pure ()
  | .releaseSeats e ids u => do
    let _ ← releaseLocks e u ids 0
    pure ()

end LockJob

/-- The lock service. -/
abbrev lockService : Service where
  toSig := sig
  State := Db
  Choice := Choice
  exec := exec
  Job := LockJob
  Reply := Unit
  code j := j.run.prog

/-- The key that a command has found locked or has set, and the user of its lock. -/
def claim : (o : Op) → sig.Answer o → Option (String × String)
  | .get key, .ok (some lock) => some (key, lock.userId)
  | .setNx lock, .ok true => some (lock.key, lock.userId)
  | _, _ => none

/-- The command has set the key. -/
def Sets (key : String) : (o : Op) → sig.Answer o → Prop
  | .setNx lock, .ok true => lock.key = key
  | _, _ => False

/-- Thread `t` has found or set a lock of the user under the key. -/
def HasClaimed (t : Nat) (key userId : String) (ev : Event lockService) : Prop :=
  ev.tid = t ∧ claim ev.op ev.answer = some (key, userId)

/-- Since thread `t` has found or set the lock of its user, no call for a different user has set
the key. -/
def Undisturbed (t : Nat) (key userId : String) : List (Event lockService) → Prop
  | [] => True
  | ev :: log => HasClaimed t key userId ev ∨
      ((Sets key ev.op ev.answer → ev.job.user = userId) ∧ Undisturbed t key userId log)

/-! ### What one thread does -/

/-- The keys that a thread has found or set, with the users of their locks. -/
def lockMonitor : Monitor lockService (List (String × String)) where
  init := []
  next s o r := (claim o r).toList ++ s
  may j s
    | .now | .get _ => True
    | .setNx lock => lock.userId = j.user
    | .del key => (key, j.user) ∈ s
    | _ => False

/-- What the monitor knows happened. -/
theorem claims_of_mem {t : Nat} {key u : String} {log : List (Event lockService)}
    (h : (key, u) ∈ lockMonitor.state t log) : ∃ ev ∈ log, HasClaimed t key u ev := by
  induction log with
  | nil => cases h
  | cons ev log ih =>
    have later : (key, u) ∈ lockMonitor.state t log →
        ∃ ev' ∈ ev :: log, HasClaimed t key u ev' := by
      intro h
      obtain ⟨ev', hm, hev⟩ := ih h
      exact ⟨ev', List.mem_cons_of_mem _ hm, hev⟩
    by_cases ht : ev.tid = t
    · unfold Monitor.state at h
      rw [if_pos ht] at h
      rcases List.mem_append.mp h with hc | hs
      · exact ⟨ev, List.mem_cons_self, ht, Option.mem_toList.mp hc⟩
      · exact later hs
    · rw [Monitor.state_other _ ht] at h
      exact later h

variable {e u n : String} {L : Type}

/-- Setting locks: every locked key is one that the call has set. -/
theorem lockEach_claims {j : LockJob} (hj : j.user = u) (ids keys failed : List String) :
    lockMonitor.Holds j (fun _ s ↦ ∀ key ∈ keys, (key, u) ∈ s) (lockEach e u n ids keys failed)
      (fun r _ s ↦ ∀ key ∈ r.1, (key, u) ∈ s) fun _ _ _ ↦ True := by
  induction ids generalizing keys failed with
  | nil => exact Monitor.Holds.ret _ fun _ _ h ↦ h
  | cons seatId rest ih =>
    apply Monitor.Holds.bind (I := fun _ _ s ↦ ∀ key ∈ keys, (key, u) ∈ s)
    · exact Monitor.Holds.await (fun _ _ _ ↦ trivial) (fun _ _ _ _ h ↦ h) fun _ _ _ _ _ ↦ trivial
    · intro lockedAt
      apply Monitor.Holds.bind (I := fun r _ s ↦
        ∀ key ∈ if r then keys ++ [lockKey e seatId] else keys, (key, u) ∈ s)
      · apply Monitor.Holds.await
        · exact fun _ _ _ ↦ hj.symm
        · intro r l s _ h key hk
          cases r with
          | true =>
            rcases List.mem_append.mp hk with hk | hk
            · exact List.mem_append_right _ (h key hk)
            · rw [List.mem_singleton.mp hk]
              exact List.mem_cons_self
          | false => exact h key hk
        · exact fun _ _ _ _ _ ↦ trivial
      · intro r
        cases r with
        | true => exact ih _ failed
        | false => exact ih keys _

/-- Giving back locks that the call has set. -/
theorem unlockEach_claims {j : LockJob} (hj : j.user = u) (keys : List String) :
    lockMonitor.Holds j (fun (_ : L) s ↦ ∀ key ∈ keys, (key, u) ∈ s) (unlockEach keys)
      (fun _ _ _ ↦ True) fun _ _ _ ↦ True := by
  induction keys with
  | nil => exact Monitor.Holds.ret _ fun _ _ _ ↦ trivial
  | cons key rest ih =>
    apply Monitor.Holds.bind (I := fun _ _ s ↦ ∀ k ∈ rest, (k, u) ∈ s)
    · apply Monitor.Holds.await
      · intro l s h
        show (key, j.user) ∈ s
        rw [hj]
        exact h key List.mem_cons_self
      · exact fun _ _ _ _ h k hk ↦ h k (List.mem_cons_of_mem _ hk)
      · exact fun _ _ _ _ _ ↦ trivial
    · exact fun _ ↦ ih

/-- Releasing deletes a key only where the user's lock was found. -/
theorem releaseLocks_claims {j : LockJob} (hj : j.user = u) (ids : List String) (released : Nat) :
    lockMonitor.Holds j (fun (_ : L) _ ↦ True) (releaseLocks e u ids released)
      (fun _ _ _ ↦ True) fun _ _ _ ↦ True := by
  induction ids generalizing released with
  | nil => exact Monitor.Holds.ret _ fun _ _ _ ↦ trivial
  | cons seatId rest ih =>
    apply Monitor.Holds.bind (I := fun r _ s ↦
      ∀ lock, r = some lock → (lockKey e seatId, lock.userId) ∈ s)
    · apply Monitor.Holds.await
      · exact fun _ _ _ ↦ trivial
      · rintro r l s _ _ lock rfl
        exact List.mem_cons_self
      · exact fun _ _ _ _ _ ↦ trivial
    · intro r
      cases r with
      | none => exact (ih released).pre fun _ _ _ ↦ trivial
      | some lock =>
        by_cases hu : lock.userId = u
        · simp only [hu, if_true]
          apply Monitor.Holds.bind (I := fun _ _ _ ↦ True)
          · apply Monitor.Holds.await
            · intro l s h
              show (lockKey e seatId, j.user) ∈ s
              rw [hj, ← hu]
              exact h lock rfl
            · exact fun _ _ _ _ _ ↦ trivial
            · exact fun _ _ _ _ _ ↦ trivial
          · exact fun _ ↦ ih _
        · simp only [hu, if_false]
          exact (ih released).pre fun _ _ _ ↦ trivial

/-- Every call obeys the monitor of the locks. -/
theorem lockJob_obeys (j : LockJob) :
    lockMonitor.Obeys j (lockService.code j) (fun _ _ ↦ True) lockMonitor.init := by
  apply Monitor.obeys_prog.mpr
  cases j with
  | lockSeats e ids u n =>
    have whole : lockMonitor.Holds (.lockSeats e ids u n) (fun _ s ↦ s = [])
        (LockJob.run (.lockSeats e ids u n)) (fun _ _ _ ↦ True) fun _ _ _ ↦ True := by
      apply Monitor.Holds.bind (I := fun _ _ _ ↦ True)
      · apply Monitor.Holds.bind
        · exact (lockEach_claims rfl ids [] []).pre fun _ _ _ _ hk ↦ by cases hk
        · rintro ⟨lockedKeys, failedSeatIds⟩
          by_cases hf : failedSeatIds.isEmpty = true
          · simp only [hf, if_true]
            exact Monitor.Holds.ret _ fun _ _ _ ↦ trivial
          · simp only [hf, if_false, Bool.false_eq_true]
            apply Monitor.Holds.bind (unlockEach_claims rfl lockedKeys)
            exact fun _ ↦ Monitor.Holds.ret _ fun _ _ _ ↦ trivial
      · exact fun _ ↦ Monitor.Holds.ret _ fun _ _ _ ↦ trivial
    exact whole () [] rfl
  | releaseSeats e ids u =>
    have whole : lockMonitor.Holds (.releaseSeats e ids u) (fun _ s ↦ s = [])
        (LockJob.run (.releaseSeats e ids u)) (fun _ _ _ ↦ True) fun _ _ _ ↦ True := by
      apply Monitor.Holds.bind (I := fun _ _ _ ↦ True)
      · exact (releaseLocks_claims rfl ids 0).pre fun _ _ _ ↦ trivial
      · exact fun _ ↦ Monitor.Holds.ret _ fun _ _ _ ↦ trivial
    exact whole () [] rfl

/-! ### Every run -/

/-- A lock that is there after a command was there before, or the command has set it. -/
theorem find_of_command {j : LockJob} {s : List (String × String)} {o : Op} {x : Choice} {db : Db}
    {key : String} {lock : SeatLock} (hm : lockMonitor.may j s o)
    (h : (exec x o db).2.locks.find key = some lock) :
    db.locks.find key = some lock ∨ (Sets key o (exec x o db).1 ∧ lock.userId = j.user) := by
  rcases exec_cases x o db with ⟨-, err, he⟩ | he
  · rw [he] at h
    exact .inl h
  · rw [he] at h ⊢
    cases o with
    | setNx l =>
      cases hf : db.locks.find l.key with
      | some old =>
        rw [perform_setNx_taken hf] at h
        exact .inl h
      | none =>
        rw [perform_setNx_free hf] at h ⊢
        have h : (db.locks.put l).find key = some lock := h
        rw [Table.find_put] at h
        split at h
        · next hk =>
          cases h
          exact .inr ⟨hk, hm⟩
        · exact .inl h
    | del k =>
      have h : (db.locks.erase k).find key = some lock := h
      rw [Table.find_erase] at h
      split at h
      · cases h
      · exact .inl h
    | now => exact .inl h
    | get k => exact .inl h
    | _ => exact hm.elim

/-- After a command that has found or set the user's lock, the lock is the user's. -/
theorem find_of_claim {o : Op} {x : Choice} {db : Db} {key u : String} {lock : SeatLock}
    (hc : claim o (exec x o db).1 = some (key, u))
    (h : (exec x o db).2.locks.find key = some lock) : lock.userId = u := by
  rcases exec_cases x o db with ⟨-, err, he⟩ | he
  · rw [he] at hc
    cases o <;> cases hc
  · rw [he] at h hc
    cases o with
    | setNx l =>
      cases hf : db.locks.find l.key with
      | some old =>
        rw [perform_setNx_taken hf] at hc
        cases hc
      | none =>
        rw [perform_setNx_free hf] at h hc
        cases hc
        have h : (db.locks.put l).find l.key = some lock := h
        rw [Table.find_put_self] at h
        cases h
        rfl
    | get k =>
      cases hf : db.locks.find k with
      | none =>
        simp only [perform, hf] at hc
        cases hc
      | some old =>
        simp only [perform, hf] at hc
        cases hc
        have h : db.locks.find key = some lock := h
        rw [hf] at h
        cases h
        rfl
    | _ => cases hc

/-- A lock that a thread has found or set, undisturbed since, is its user's or gone. -/
def Guarded (c : Conf lockService) : Prop :=
  ∀ t key u, Undisturbed t key u c.log → (∃ ev ∈ c.log, HasClaimed t key u ev) →
    ∀ lock, c.state.locks.find key = some lock → lock.userId = u

/-- The locks are guarded in every run. -/
theorem guarded_of_reach {init : Db → Prop} {p : Pool lockService}
    (hp : Pool.Reach (.free lockService) init p) : Guarded p.conf := by
  induction hp with
  | start _ =>
    rintro t key u - ⟨ev, hm, -⟩
    cases hm
  | spawn _ _ ih => exact ih
  | @run p t j x o k hp ht _ ih =>
    have watched := Monitor.watches_of_reach (m := lockMonitor) (Q := fun _ _ _ ↦ True)
      lockJob_obeys hp
    intro t' key u hu hc lock hl
    by_cases hnew : HasClaimed t' key u ⟨t, j, o, p.conf.answer x o⟩
    · exact find_of_claim hnew.2 hl
    · obtain ⟨hsets, hold⟩ := hu.resolve_left hnew
      have claimed : ∃ ev ∈ p.conf.log, HasClaimed t' key u ev := by
        obtain ⟨ev, hm, hev⟩ := hc
        rcases List.mem_cons.mp hm with rfl | hm
        · exact absurd hev hnew
        · exact ⟨ev, hm, hev⟩
      rcases find_of_command (watched.may ht) hl with hl | ⟨hs, hj⟩
      · exact ih t' key u hold claimed lock hl
      · rw [hj]
        exact hsets hs

/-- Locks are deleted by their owner only: whatever the interleaving, a DEL of a call finds no
lock of a different user, if no call for a different user has set the key since the call has
found or set its own user's lock. -/
theorem del_removes_own {init : Db → Prop} {p : Pool lockService}
    (hp : Pool.Reach (.free lockService) init p) {t : Nat} {j : LockJob} {key : String}
    {k : sig.Answer (.del key) → lockService.Program} (ht : p.At t j (.op (.del key) k))
    (hu : Undisturbed t key j.user p.conf.log) {lock : SeatLock}
    (hl : p.conf.state.locks.find key = some lock) : lock.userId = j.user := by
  have watched := Monitor.watches_of_reach (m := lockMonitor) (Q := fun _ _ _ ↦ True)
    lockJob_obeys hp
  exact guarded_of_reach hp t key j.user hu (claims_of_mem (watched.may ht)) lock hl

/-- A call for the user who has locked the seat is about to delete the lock. -/
def ownDel : List (Label lockService) :=
  [.spawn (.lockSeats "e" ["A"] "u" "s"), .run 0 {}, .run 0 {},
    .spawn (.releaseSeats "e" ["A"] "u"), .run 1 {}]

/-- A second release of the user and a new lock of another user come in between. -/
def lateDel : List (Label lockService) :=
  ownDel ++ [.spawn (.releaseSeats "e" ["A"] "u"), .run 2 {}, .run 2 {},
    .spawn (.lockSeats "e" ["A"] "v" "t"), .run 3 {}, .run 3 {}]

/-- The lock that is deleted is the user's own. -/
theorem del_removes_own_alone :
    ∃ p, Pool.Reach (.free lockService) (fun _ ↦ True) p ∧
      ∃ j k lock, p.At 1 j (.op (.del (lockKey "e" "A")) k) ∧
        p.conf.state.locks.find (lockKey "e" "A") = some lock ∧ lock.userId = j.user := by
  have played : (Pool.play (.free lockService) ownDel (.start saleStock)).any fun p ↦
      decide (p.awaits 1 = some (.releaseSeats "e" ["A"] "u", .del (lockKey "e" "A"))) &&
        (p.conf.state.locks.find (lockKey "e" "A")).isSome &&
        decide (p.conf.log.map (fun ev ↦ (ev.tid, claim ev.op ev.answer)) =
          [(1, some (lockKey "e" "A", "u")), (0, some (lockKey "e" "A", "u")), (0, none)]) := by
    decide +kernel
  simp only [Option.any_eq_true, Bool.and_eq_true, decide_eq_true_eq, Option.isSome_iff_exists]
    at played
  obtain ⟨p, hp, ⟨ha, lock, hl⟩, hlog⟩ := played
  have reach : Pool.Reach (.free lockService) (fun _ ↦ True) p := Pool.reach_of_play trivial hp
  obtain ⟨k, hk⟩ := Pool.at_of_awaits ha
  refine ⟨p, reach, _, k, lock, hk, hl, del_removes_own reach hk ?_ hl⟩
  -- The newest command is the thread's own GET.
  cases hc : p.conf.log with
  | nil =>
    rw [hc] at hlog
    cases hlog
  | cons ev log =>
    rw [hc] at hlog
    have newest := (List.cons.inj hlog).1
    exact .inl ⟨congrArg Prod.fst newest, congrArg Prod.snd newest⟩

/-- The lock that is deleted is the other user's. -/
theorem late_del_removes_foreign :
    ∃ p, Pool.Reach (.free lockService) (fun _ ↦ True) p ∧
      ∃ j k lock, p.At 1 j (.op (.del (lockKey "e" "A")) k) ∧
        p.conf.state.locks.find (lockKey "e" "A") = some lock ∧ lock.userId ≠ j.user := by
  have played : (Pool.play (.free lockService) lateDel (.start saleStock)).any fun p ↦
      decide (p.awaits 1 = some (.releaseSeats "e" ["A"] "u", .del (lockKey "e" "A"))) &&
        decide ((p.conf.state.locks.find (lockKey "e" "A")).map SeatLock.userId = some "v") := by
    decide +kernel
  simp only [Option.any_eq_true, Bool.and_eq_true, decide_eq_true_eq, Option.map_eq_some_iff]
    at played
  obtain ⟨p, hp, ha, lock, hl, hv⟩ := played
  obtain ⟨k, hk⟩ := Pool.at_of_awaits ha
  refine ⟨p, Pool.reach_of_play trivial hp, _, k, lock, hk, hl, ?_⟩
  rw [hv]
  decide

end Ticketing.SeatInventory
