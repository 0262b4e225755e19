import Ticketing.SeatInventory.Creation
import Ticketing.SeatInventory.HoldEffects
import Ticketing.SeatInventory.ReleasedSeats

/-!
# Rows, holds and locks agree

Library `SeatInventory`. Calls that run one after another from empty stores, while locks may
expire at any moment. The status of a row follows the unreleased holds of its seat, and a lock
names the user of such a hold.
-/

namespace Ticketing.SeatInventory

open Async Store

/-- How many unreleased holds a seat has. -/
def Db.openHolds (s : Db) (place : String × String) : Nat :=
  s.holds.rows.countP fun h ↦ h.place = place && h.releasedAt.isNone

/-- An event id without the separator of keys. -/
def PlainId (eventId : String) : Prop := ':' ∉ eventId.toList

/-- The status of each row follows the unreleased holds of its seat, and each lock of a seat names
the user of an unreleased hold of the seat. -/
structure Agrees (s : Db) : Prop where
  held : ∀ r ∈ s.seats.rows, r.status = .held ↔ s.openHolds r.place = 1
  available : ∀ r ∈ s.seats.rows, r.status = .available ↔ s.openHolds r.place = 0
  locks : ∀ place lock, PlainId place.1 → s.locks.find (placeKey place) = some lock →
    s.HeldBy place lock.userId

/-- The lock of a seat that a call lists more than once does not expire while the call sets its
locks. -/
def Tame (a : HoldCall) (gone : Nat → List String) : Prop :=
  ∀ seatId, 2 ≤ a.seatIds.count seatId →
    ∀ n < 2 * a.seatIds.length, lockKey a.eventId seatId ∉ gone n

/-- The stores that calls reach one after another, when no store operation fails. Locks expire
before the operations of a call as `gone` says, and between the calls. -/
inductive Sequential (tame : HoldCall → (Nat → List String) → Prop) : Db → Prop where
  | start : Sequential tame (.stocked .empty)
  | create {s : Db} (payload : EventCreateMessage) (x : Nat → CreationOp → Choice)
      (hx : ∀ n o, (x n o).fault = none) (he : PlainId payload.eventId) (hs : Sequential tame s) :
      Sequential tame ((createFromEvent payload).exec (creating x) 0 () s).state
  | hold {s : Db} (a : HoldCall) (x : Nat → Op → Choice) (gone : Nat → List String)
      (hx : ¬ Faulty x) (he : PlainId a.eventId) (ht : tame a gone) (hs : Sequential tame s) :
      Sequential tame (a.code.exec (expiring x gone) 0 () s).state
  | tick {s : Db} (x : Nat → Op → Choice) (gone : Nat → List String) (hx : ¬ Faulty x)
      (hs : Sequential tame s) :
      Sequential tame (processExpiredHolds.exec (expiring x gone) 0 () s).state
  | expire {s : Db} (keys : List String) (hs : Sequential tame s) : Sequential tame (s.expired keys)

/-! ### Keys -/

/-- What precedes the first separator is determined. -/
theorem append_separator_inj {c : Char} {xs ys xs' ys' : List Char} (hx : c ∉ xs) (hy : c ∉ ys)
    (h : xs ++ c :: xs' = ys ++ c :: ys') : xs = ys ∧ xs' = ys' := by
  induction xs generalizing ys with
  | nil =>
    cases ys with
    | nil => exact ⟨rfl, (List.cons.inj h).2⟩
    | cons y ys =>
      have first : c = y := (List.cons.inj h).1
      exact absurd (first ▸ List.mem_cons_self) hy
  | cons x xs ih =>
    cases ys with
    | nil =>
      have first : x = c := (List.cons.inj h).1
      exact absurd (first ▸ List.mem_cons_self) hx
    | cons y ys =>
      obtain ⟨first, rest⟩ := List.cons.inj h
      obtain ⟨hxs, hxs'⟩ := ih (fun hm ↦ hx (List.mem_cons_of_mem _ hm))
        (fun hm ↦ hy (List.mem_cons_of_mem _ hm)) rest
      exact ⟨by rw [first, hxs], hxs'⟩

/-- Different seats of plain events have different lock keys. -/
theorem placeKey_inj {p q : String × String} (hp : PlainId p.1) (hq : PlainId q.1)
    (h : placeKey p = placeKey q) : p = q := by
  have lists := congrArg String.toList h
  simp only [placeKey, lockKey, String.toList_append, List.append_assoc] at lists
  have tails := List.append_cancel_left lists
  obtain ⟨he, hs⟩ := append_separator_inj (c := ':') hp hq tails
  have seats : "seat:".toList ++ p.2.toList = "seat:".toList ++ q.2.toList := hs
  have seats := List.append_cancel_left seats
  exact Prod.ext (String.toList_inj.mp he) (String.toList_inj.mp seats)

/-- The worker's key of a group determines the event and the user. -/
theorem groupKey_inj {e e' u u' : String} (he : PlainId e) (he' : PlainId e')
    (h : e ++ ":" ++ u = e' ++ ":" ++ u') : e = e' ∧ u = u' := by
  have lists := congrArg String.toList h
  simp only [String.toList_append, List.append_assoc] at lists
  obtain ⟨hl, hr⟩ := append_separator_inj (c := ':') he he' lists
  exact ⟨String.toList_inj.mp hl, String.toList_inj.mp hr⟩

/-! ### Seats that a call lists more than once -/

variable {x : Nat → Op → Choice} {gone : Nat → List String}

/-- A seat that failed stays failed. -/
theorem lockEach_failed (h : Handler sig Db) (e u n : String) (ids keys failed : List String)
    (hf : failed ≠ []) :
    Code.Leaves h (fun _ _ ↦ True) (lockEach e u n ids keys failed) (fun r _ _ ↦ r.2 ≠ [])
      fun _ _ _ ↦ True := by
  induction ids generalizing keys failed with
  | nil => exact Code.Leaves.ret _ fun _ _ _ ↦ hf
  | cons seatId rest ih =>
    apply Code.Leaves.bind (Q := fun _ _ _ ↦ True)
    · exact Code.Leaves.await (fun _ _ _ _ _ _ _ ↦ trivial) fun _ _ _ _ _ _ _ ↦ trivial
    · intro lockedAt
      apply Code.Leaves.bind (Q := fun _ _ _ ↦ True)
      · exact Code.Leaves.await (fun _ _ _ _ _ _ _ ↦ trivial) fun _ _ _ _ _ _ _ ↦ trivial
      · intro r
        cases r with
        | true => exact ih _ _ hf
        | false => exact ih _ _ (by simp)

/-- One round of the loop: the key is set, or the seat fails. -/
theorem lockEach_cons (gone : Nat → List String) (hx : ¬ Faulty x) (e u sess seatId : String)
    (rest keys failed : List String) (n : Nat) (s : Db) :
    ∃ (lock : SeatLock) (s₁ : Db), lock.key = lockKey e seatId ∧
      s₁ = (s.expired (gone n)).expired (gone (n + 1)) ∧
      (lockEach e u sess (seatId :: rest) keys failed).exec (expiring x gone) n () s =
        match s₁.locks.find (lockKey e seatId) with
        | none => (lockEach e u sess rest (keys ++ [lockKey e seatId]) failed).exec
            (expiring x gone) (n + 2) () { s₁ with locks := s₁.locks.put lock }
        | some _ => (lockEach e u sess rest keys (failed ++ [seatId])).exec (expiring x gone)
            (n + 2) () s₁ := by
  have calm : ∀ n o s, expiring x gone n o s = perform (x n o) o (s.expired (gone n)) := by
    intro n o s
    have hf : (x n o).fault = none := by
      by_contra hn
      exact hx ⟨n, o, hn⟩
    unfold expiring exec
    rw [hf]
    exact Sig.attempt_none (S := sig) o _
  let lock : SeatLock := ⟨lockKey e seatId, u, sess, (x n .now).now⟩
  let s₁ := (s.expired (gone n)).expired (gone (n + 1))
  refine ⟨lock, s₁, rfl, rfl, ?_⟩
  have first : expiring x gone n .now s = (.ok (x n .now).now, s.expired (gone n)) := calm ..
  rw [lockEach, Code.exec_bind, Code.exec_await, first]
  dsimp only
  rw [Code.exec_bind, Code.exec_await]
  cases hf : s₁.locks.find (lockKey e seatId) with
  | none =>
    have second : expiring x gone (n + 1) (.setNx lock) (s.expired (gone n)) =
        (.ok true, { s₁ with locks := s₁.locks.put lock }) :=
      (calm ..).trans (perform_setNx_free hf)
    rw [second]
    rfl
  | some old =>
    have second : expiring x gone (n + 1) (.setNx lock) (s.expired (gone n)) = (.ok false, s₁) :=
      (calm ..).trans (perform_setNx_taken hf)
    rw [second]
    rfl

/-- A seat that is locked and does not expire fails. -/
theorem lockEach_blocked (hx : ¬ Faulty x) {e u sess seatId : String} {ids : List String}
    (hm : seatId ∈ ids) (keys failed : List String) {n : Nat} {s : Db}
    (hk : s.locks.find (lockKey e seatId) ≠ none)
    (hg : ∀ m < 2 * ids.length, lockKey e seatId ∉ gone (n + m)) :
    ∀ r l m s', (lockEach e u sess ids keys failed).exec (expiring x gone) n () s =
      ⟨.ok r, l, m, s'⟩ → r.2 ≠ [] := by
  induction ids generalizing keys failed n s with
  | nil => cases hm
  | cons id rest ih =>
    intro r l m s' hr
    obtain ⟨lock, s₁, hlock, hs₁, he⟩ :=
      lockEach_cons gone hx e u sess id rest keys failed n s
    have still : s₁.locks.find (lockKey e seatId) ≠ none := by
      have h0 : lockKey e seatId ∉ gone n := hg 0 (by simp)
      have h1 := hg 1 (by simp only [List.length_cons]; omega)
      rw [hs₁, Db.find_expired, if_neg h1, Db.find_expired, if_neg h0]
      exact hk
    have later : ∀ m < 2 * rest.length, lockKey e seatId ∉ gone (n + 2 + m) := by
      intro m hm
      have := hg (2 + m) (by simp only [List.length_cons]; omega)
      rwa [← Nat.add_assoc] at this
    rw [he] at hr
    cases hf : s₁.locks.find (lockKey e id) with
    | some old =>
      simp only [hf] at hr
      have left := lockEach_failed (expiring x gone) e u sess rest keys (failed ++ [id])
        (by simp) (n + 2) () s₁ trivial
      rw [hr] at left
      exact left
    | none =>
      simp only [hf] at hr
      have hne : id ≠ seatId := by
        rintro rfl
        exact still hf
      have kept : (s₁.locks.put lock).find (lockKey e seatId) ≠ none := by
        rw [Table.find_put_of_ne _ fun h ↦ hne (lockKey_inj (hlock.symm.trans h))]
        exact still
      exact ih ((List.mem_cons.mp hm).resolve_left (Ne.symm hne)) _ _ kept later r l m s' hr

/-- A call that locks all its seats lists each once, if the locks of repeated seats last. -/
theorem nodup_of_lockEach (hx : ¬ Faulty x) {e u sess : String} {ids : List String}
    (keys failed : List String) {n : Nat} {s : Db}
    (ht : ∀ seatId, 2 ≤ ids.count seatId → ∀ m < 2 * ids.length, lockKey e seatId ∉ gone (n + m)) :
    ∀ r l m s', (lockEach e u sess ids keys failed).exec (expiring x gone) n () s =
      ⟨.ok r, l, m, s'⟩ → r.2 = [] → ids.Nodup := by
  induction ids generalizing keys failed n s with
  | nil => exact fun _ _ _ _ _ _ ↦ List.nodup_nil
  | cons id rest ih =>
    intro r l m s' hr hnone
    obtain ⟨lock, s₁, hlock, hs₁, he⟩ :=
      lockEach_cons gone hx e u sess id rest keys failed n s
    rw [he] at hr
    have later : ∀ seatId, 2 ≤ (id :: rest).count seatId → ∀ m < 2 * rest.length,
        lockKey e seatId ∉ gone (n + 2 + m) := by
      intro seatId hc m hm
      have := ht seatId hc (2 + m) (by simp only [List.length_cons]; omega)
      rwa [← Nat.add_assoc] at this
    cases hf : s₁.locks.find (lockKey e id) with
    | some old =>
      simp only [hf] at hr
      have left := lockEach_failed (expiring x gone) e u sess rest keys (failed ++ [id])
        (by simp) (n + 2) () s₁ trivial
      rw [hr] at left
      exact absurd hnone left
    | none =>
      simp only [hf] at hr
      have fresh : id ∉ rest := by
        intro hm
        have twice : 2 ≤ (id :: rest).count id := by
          have := List.count_pos_iff.mpr hm
          rw [List.count_cons_self]
          omega
        have set : (s₁.locks.put lock).find (lockKey e id) ≠ none := by
          rw [← hlock, Table.find_put_self]
          exact Option.some_ne_none _
        exact lockEach_blocked hx hm _ _ set (later id twice) r l m s' hr hnone
      refine List.nodup_cons.mpr ⟨fresh, ih _ _ (fun seatId hc ↦ later seatId ?_) r l m s' hr hnone⟩
      exact Nat.le_trans hc (List.count_le_count_cons ..)

/-- A call that holds its seats lists each once. -/
theorem nodup_of_holdSeats (hx : ¬ Faulty x) {a : HoldCall} (ht : Tame a gone) {s : Db}
    (hr : (a.code.exec (expiring x gone) 0 () s).throws = false) : a.seatIds.Nodup := by
  rcases hc : a.code.exec (expiring x gone) 0 () s with ⟨r, l, m, s'⟩
  rw [hc] at hr
  cases r with
  | error e => cases hr
  | ok result =>
    obtain ⟨failedSeatIds, _, _, _, hlock, hrest⟩ := Code.exec_bind_ok hc
    have none : failedSeatIds = [] := by
      by_contra hne
      rw [if_pos (by simpa using hne)] at hrest
      cases hrest
    subst none
    obtain ⟨⟨lockedKeys, failed⟩, l', n', s₁, heach, hg⟩ := Code.exec_bind_ok hlock
    have all : failed = [] := by
      by_contra hne
      simp only [List.isEmpty_iff, hne, if_false] at hg
      obtain ⟨_, _, _, _, -, hp⟩ := Code.exec_bind_ok hg
      rw [Code.exec_pure] at hp
      cases hp
      exact hne rfl
    apply nodup_of_lockEach hx [] [] _ _ l' n' s₁ heach all
    intro seatId hcount m hm
    rw [Nat.zero_add]
    exact ht seatId hcount m hm

/-- A hold that is unreleased after a release was left alone. -/
theorem SeatHold.eq_of_freed {e : String} {ids : List String} {u : String} {now : Nat}
    {reason : SeatLockReleaseReason} {hold : SeatHold}
    (h : (hold.freed e ids u now reason).releasedAt = none) :
    hold.freed e ids u now reason = hold := by
  unfold SeatHold.freed at h ⊢
  split
  · next hyes =>
    rw [if_pos hyes] at h
    cases h
  · rfl

/-! ### The invariant -/

/-- The status of each row follows the unreleased holds of its seat, these are for stored seats of
plain events, and each lock names the user of one. -/
structure Booked (s : Db) : Prop where
  seats : ∀ r ∈ s.seats.rows, (r.status = .held ∧ s.openHolds r.place = 1) ∨
    (r.status = .available ∧ s.openHolds r.place = 0)
  stored : ∀ h ∈ s.holds.rows, h.releasedAt = none → ∃ r ∈ s.seats.rows, r.place = h.place
  plain : ∀ r ∈ s.seats.rows, PlainId r.eventId
  locks : ∀ key lock, s.locks.find key = some lock →
    ∃ h ∈ s.holds.rows, h.releasedAt = none ∧ placeKey h.place = key ∧ h.userId = lock.userId
  numbered : s.Numbered

namespace Booked

variable {s s' : Db}

/-- Unreleased holds are for plain events. -/
theorem plainHold (h : Booked s) {hold : SeatHold} (hm : hold ∈ s.holds.rows)
    (hr : hold.releasedAt = none) : PlainId hold.place.1 := by
  obtain ⟨r, hrow, hp⟩ := h.stored hold hm hr
  rw [← hp]
  exact h.plain r hrow

/-- Rows, holds and locks that are booked agree. -/
theorem agrees (h : Booked s) : Agrees s where
  held r hr := by
    rcases h.seats r hr with ⟨hs, ho⟩ | ⟨hs, ho⟩
    · simp [hs, ho]
    · simp [hs, ho]
  available r hr := by
    rcases h.seats r hr with ⟨hs, ho⟩ | ⟨hs, ho⟩
    · simp [hs, ho]
    · simp [hs, ho]
  locks place lock hp hl := by
    obtain ⟨hold, hm, hr, hk, hu⟩ := h.locks _ lock hl
    exact ⟨hold, hm, placeKey_inj (h.plainHold hm hr) hp hk, hu, hr⟩

/-- A stocked inventory without holds is booked. -/
theorem start : Booked (.stocked .empty) where
  seats := nofun
  stored := nofun
  plain := nofun
  locks := nofun
  numbered := nofun

/-- Locks may be lost and identifiers given. -/
theorem shrink (h : Booked s) (hs : s'.seats = s.seats) (hh : s'.holds = s.holds)
    (hn : s.nextId ≤ s'.nextId)
    (hl : ∀ key lock, s'.locks.find key = some lock → s.locks.find key = some lock) :
    Booked s' where
  seats := by
    unfold Db.openHolds
    rw [hs, hh]
    exact h.seats
  stored := by
    rw [hs, hh]
    exact h.stored
  plain := by
    rw [hs]
    exact h.plain
  locks key lock hf := by
    rw [hh]
    exact h.locks key lock (hl key lock hf)
  numbered := by
    intro hold hm
    rw [hh] at hm
    exact Nat.lt_of_lt_of_le (h.numbered hold hm) hn

/-- Expiring locks keep the inventory booked. -/
theorem expired (h : Booked s) (keys : List String) : Booked (s.expired keys) := by
  refine h.shrink ?_ ?_ ?_ ?_
  · rfl
  · rfl
  · exact Nat.le_refl _
  · intro key lock hl
    rw [Db.find_expired] at hl
    split at hl
    · cases hl
    · exact hl

/-- The rows of an event are inserted. -/
theorem created (h : Booked s) {payload : EventCreateMessage} (he : PlainId payload.eventId)
    (ha : s.Accepts payload.rows) : Booked (s.created payload) := by
  have rows := rows_created ha
  have new : ∀ r ∈ numberedSeats s.nextId payload.rows,
      r.status = .available ∧ r.eventId = payload.eventId ∧ s.seats.find r.place = none := by
    intro r hr
    obtain ⟨r₀, hr₀, he⟩ := mem_numberedSeats hr
    have fresh := ha.2 r₀ hr₀
    obtain ⟨seat, -, rfl⟩ := List.mem_map.mp hr₀
    rw [he]
    exact ⟨rfl, rfl, fresh⟩
  constructor
  · intro r hr
    rw [rows, List.mem_append] at hr
    rcases hr with hr | hr
    · exact h.seats r hr
    · right
      obtain ⟨hs, -, hf⟩ := new r hr
      refine ⟨hs, ?_⟩
      show s.openHolds r.place = 0
      rw [Db.openHolds, List.countP_eq_zero]
      intro hold hm hp
      simp only [Bool.and_eq_true, decide_eq_true_eq, Option.isNone_iff_eq_none] at hp
      obtain ⟨r', hr', hp'⟩ := h.stored hold hm hp.2
      have := Table.find_of_mem hr'
      rw [hp', hp.1, hf] at this
      cases this
  · intro hold hm hr
    obtain ⟨r, hrow, hp⟩ := h.stored hold hm hr
    exact ⟨r, by rw [rows]; exact List.mem_append_left _ hrow, hp⟩
  · intro r hr
    rw [rows, List.mem_append] at hr
    rcases hr with hr | hr
    · exact h.plain r hr
    · rw [(new r hr).2.1]
      exact he
  · exact h.locks
  · exact fun hold hm ↦ Nat.lt_of_lt_of_le (h.numbered hold hm) (Nat.le_add_right _ _)

/-- Every unreleased hold of a listed seat is the user's. -/
def OwnsHolds (s : Db) (e : String) (ids : List String) (u : String) : Prop :=
  ∀ h ∈ s.holds.rows, h.releasedAt = none → h.eventId = e → h.seatId ∈ ids → h.userId = u

/-- A hold of an unlisted seat is left alone. -/
theorem freed_of_unlisted {e : String} {ids : List String} {u : String} {now : Nat}
    {reason : SeatLockReleaseReason} {hold : SeatHold}
    (hn : ¬ (hold.eventId = e ∧ hold.seatId ∈ ids)) : hold.freed e ids u now reason = hold := by
  apply if_neg
  rintro ⟨he, -, -, hm⟩
  exact hn ⟨he, hm⟩

/-- When the user owns the unreleased holds of the listed seats, a release leaves none of them, and
those of other seats. -/
theorem openHolds_released {e : String} {ids : List String} {u : String} {now : Nat}
    {reason : SeatLockReleaseReason} (ho : OwnsHolds s e ids u)
    (holds : s'.holds.rows = s.holds.rows.map (SeatHold.freed e ids u now reason))
    (place : String × String) :
    s'.openHolds place = if place.1 = e ∧ place.2 ∈ ids then 0 else s.openHolds place := by
  unfold Db.openHolds
  rw [holds, List.countP_map]
  split
  · next hp =>
    rw [List.countP_eq_zero]
    intro hold hm hq
    simp only [Function.comp_apply, SeatHold.freed_place, Bool.and_eq_true, decide_eq_true_eq,
      Option.isNone_iff_eq_none] at hq
    obtain ⟨rfl, hrel⟩ := hq
    have he : hold.eventId = e := hp.1
    have hid : hold.seatId ∈ ids := hp.2
    unfold SeatHold.freed at hrel
    split at hrel
    · cases hrel
    · next hno => exact hno ⟨he, ho hold hm hrel he hid, hrel, hid⟩
  · next hp =>
    apply List.countP_congr
    intro hold _
    by_cases hplace : hold.place = place
    · have out : ¬ (hold.eventId = e ∧ hold.seatId ∈ ids) := by
        rw [← hplace] at hp
        exact hp
      simp [freed_of_unlisted out]
    · simp [hplace]

/-- The user's holds of listed seats are released, and their rows are on sale. -/
theorem released (h : Booked s) {e : String} {ids : List String} {u : String} {now : Nat}
    {reason : SeatLockReleaseReason} (ho : OwnsHolds s e ids u)
    (hs : s'.seats = (s.handed e ids u .available now reason).seats)
    (hh : s'.holds = (s.handed e ids u .available now reason).holds) (hn : s'.nextId = s.nextId)
    (hl : ∀ key lock, s'.locks.find key = some lock → s.locks.find key = some lock)
    (hf : s'.Free (ids.map (lockKey e)) u) : Booked s' := by
  have rows : s'.seats.rows = s.seats.rows.map (Seat.marked e ids .available) := by
    rw [hs]
    exact rows_marked
  have holds : s'.holds.rows = s.holds.rows.map (SeatHold.freed e ids u now reason) := by
    rw [hh]
    exact holds_handed
  constructor
  · intro r hr
    rw [rows] at hr
    obtain ⟨r₀, hr₀, rfl⟩ := List.mem_map.mp hr
    rw [Seat.marked_place, openHolds_released ho holds]
    by_cases hlisted : r₀.eventId = e ∧ r₀.seatId ∈ ids
    · right
      rw [Seat.marked, if_pos hlisted]
      exact ⟨rfl, if_pos hlisted⟩
    · have out : ¬ (r₀.place.1 = e ∧ r₀.place.2 ∈ ids) := hlisted
      rw [Seat.marked, if_neg hlisted, if_neg out]
      exact h.seats r₀ hr₀
  · intro hold hm hrel
    rw [holds] at hm
    obtain ⟨hold₀, hm₀, rfl⟩ := List.mem_map.mp hm
    have same := SeatHold.eq_of_freed hrel
    rw [same] at hrel ⊢
    obtain ⟨r, hr, hp⟩ := h.stored hold₀ hm₀ hrel
    refine ⟨r.marked e ids .available, ?_, by rw [Seat.marked_place, hp]⟩
    rw [rows]
    exact List.mem_map_of_mem hr
  · intro r hr
    rw [rows] at hr
    obtain ⟨r₀, hr₀, rfl⟩ := List.mem_map.mp hr
    rw [Seat.marked_eventId]
    exact h.plain r₀ hr₀
  · intro key lock hlock
    obtain ⟨hold, hm, hrel, hk, hu⟩ := h.locks key lock (hl key lock hlock)
    have out : ¬ (hold.eventId = e ∧ hold.seatId ∈ ids) := by
      rintro ⟨he, hid⟩
      have mine : hold.userId = u := ho hold hm hrel he hid
      have listed : key ∈ ids.map (lockKey e) := by
        rw [← hk, ← he]
        exact List.mem_map_of_mem hid
      exact hf key listed lock hlock (by rw [← hu, mine])
    refine ⟨hold, ?_, hrel, hk, hu⟩
    rw [holds]
    exact List.mem_map.mpr ⟨hold, hm, freed_of_unlisted out⟩
  · intro hold hm
    rw [holds] at hm
    obtain ⟨hold₀, hm₀, rfl⟩ := List.mem_map.mp hm
    rw [hn, SeatHold.freed_id]
    exact h.numbered hold₀ hm₀

end Booked

/-! ### `holdSeats` -/

/-- A numbered hold is a hold with an identifier. -/
theorem mem_numbered {n : Id} {rows : List SeatHold} {hold : SeatHold}
    (h : hold ∈ numbered n rows) : ∃ hold₀ ∈ rows, hold = { hold₀ with id := hold.id } := by
  obtain ⟨i, hi, rfl⟩ := List.mem_mapIdx.mp h
  exact ⟨rows[i], List.getElem_mem hi, rfl⟩

/-- Counting holds does not depend on their identifiers. -/
theorem countP_numbered (p : SeatHold → Bool) (hp : ∀ hold i, p { hold with id := i } = p hold)
    (n : Id) (rows : List SeatHold) : (numbered n rows).countP p = rows.countP p := by
  have same : (numbered n rows).map p = rows.map p := by
    apply List.ext_getElem
    · simp [numbered]
    · intro i hi hj
      simp [numbered, hp]
  have count : ∀ hs : List SeatHold, hs.countP p = (hs.map p).countP id := by
    intro hs
    rw [List.countP_map]
    rfl
  rw [count, count, same]

variable {s s' : Db} {a : HoldCall}

/-- A new hold is an unreleased one of the user for a listed seat. -/
theorem HoldCall.of_mem_saved {hold : SeatHold} {expiresAt : Nat}
    (h : hold ∈ a.saved s expiresAt) :
    hold.releasedAt = none ∧ hold.userId = a.userId ∧ hold.eventId = a.eventId ∧
      hold.seatId ∈ a.seatIds := by
  obtain ⟨hold₀, hm, he⟩ := mem_numbered h
  obtain ⟨seatId, hid, rfl⟩ := List.mem_map.mp hm
  rw [he]
  exact ⟨rfl, rfl, rfl, hid⟩

/-- A call that lists each seat once stores one hold for each. -/
theorem HoldCall.countP_saved (hn : a.seatIds.Nodup) (place : String × String) (expiresAt : Nat) :
    ((a.saved s expiresAt).countP fun h ↦ h.place = place && h.releasedAt.isNone) =
      if place.1 = a.eventId ∧ place.2 ∈ a.seatIds then 1 else 0 := by
  unfold HoldCall.saved
  rw [countP_numbered _ fun _ _ ↦ rfl, List.countP_map]
  split
  · next hp =>
    have one : a.seatIds.countP (· == place.2) = 1 := List.count_eq_one_of_mem hn hp.2
    rw [← one]
    apply List.countP_congr
    intro seatId _
    have parts : a.eventId = place.1 := hp.1.symm
    simp [HoldCall.entity, HoldCall.hold, SeatHold.place, Prod.ext_iff, parts]
  · next hp =>
    rw [List.countP_eq_zero]
    intro seatId hid hq
    simp only [Function.comp_apply, Bool.and_eq_true, decide_eq_true_eq] at hq
    apply hp
    rw [← hq.1]
    exact ⟨rfl, hid⟩

/-- Saved holds have new identifiers. -/
theorem HoldCall.id_of_mem_saved {expiresAt : Nat} {hold : SeatHold}
    (hm : hold ∈ a.saved s expiresAt) :
    s.nextId ≤ hold.id ∧ hold.id < s.nextId + a.seatIds.length := by
  have known : hold.id ∈ (a.saved s expiresAt).map SeatHold.id := List.mem_map_of_mem hm
  rwa [HoldCall.saved, numbered_ids, List.mem_range'_1, List.length_map] at known

/-- Saving the holds of a call appends them. -/
theorem HoldCall.rows_saved (hn : s.Numbered) (expiresAt : Nat) :
    (s.holds.putAll (a.saved s expiresAt)).rows = s.holds.rows ++ a.saved s expiresAt := by
  apply Table.rows_putAll_of_fresh
  · rw [HoldCall.saved, numbered_ids]
    exact List.nodup_range'
  · intro hold hm
    rw [Option.eq_none_iff_forall_ne_some]
    intro old hold'
    obtain ⟨hrow, he⟩ := Table.find_eq_some_iff.mp hold'
    have known := hn old hrow
    rw [he] at known
    exact absurd (HoldCall.id_of_mem_saved hm).1 (Nat.not_le.mpr known)

/-- A listed seat has a saved hold. -/
theorem HoldCall.exists_saved (hn : a.seatIds.Nodup) (expiresAt : Nat) {seatId : String}
    (hid : seatId ∈ a.seatIds) :
    ∃ hold ∈ a.saved s expiresAt, hold.place = (a.eventId, seatId) := by
  have one := HoldCall.countP_saved (s := s) hn (a.eventId, seatId) expiresAt
  rw [if_pos ⟨rfl, hid⟩] at one
  obtain ⟨hold, hm, hq⟩ := List.countP_pos_iff.mp (Nat.lt_of_lt_of_eq Nat.zero_lt_one one.symm)
  simp only [Bool.and_eq_true, decide_eq_true_eq] at hq
  exact ⟨hold, hm, hq.1⟩

namespace Booked

/-- Holding the seats of a call keeps the inventory booked. -/
theorem held (h : Booked s) (hn : a.seatIds.Nodup)
    (hw : WasHeld a s s') : Booked s' := by
  obtain ⟨sellable, expiresAt, rest, newLocks⟩ := hw
  have rows : s'.seats.rows = s.seats.rows.map (Seat.marked a.eventId a.seatIds .held) := by
    rw [rest]
    exact rows_marked
  have holds : s'.holds.rows = s.holds.rows ++ a.saved s expiresAt := by
    rw [rest]
    exact HoldCall.rows_saved h.numbered expiresAt
  have openHolds : ∀ place, s'.openHolds place = s.openHolds place +
      if place.1 = a.eventId ∧ place.2 ∈ a.seatIds then 1 else 0 := by
    intro place
    unfold Db.openHolds
    rw [holds, List.countP_append, HoldCall.countP_saved hn]
  have stillStored : ∀ place, (∃ r ∈ s.seats.rows, r.place = place) →
      ∃ r ∈ s'.seats.rows, r.place = place := by
    rintro place ⟨r, hr, hplace⟩
    refine ⟨r.marked a.eventId a.seatIds .held, ?_, by rw [Seat.marked_place, hplace]⟩
    rw [rows]
    exact List.mem_map_of_mem hr
  constructor
  · intro r hr
    rw [rows] at hr
    obtain ⟨r₀, hr₀, rfl⟩ := List.mem_map.mp hr
    rw [Seat.marked_place, openHolds]
    by_cases hlisted : r₀.eventId = a.eventId ∧ r₀.seatId ∈ a.seatIds
    · have listed : r₀ ∈ s.listed a.eventId a.seatIds :=
        List.mem_filter.mpr ⟨hr₀, by simp [hlisted.1, hlisted.2]⟩
      have onSale := sellable.sale r₀ listed
      have zero : s.openHolds r₀.place = 0 := by
        rcases h.seats r₀ hr₀ with ⟨hs, -⟩ | ⟨-, ho⟩
        · rw [onSale] at hs
          cases hs
        · exact ho
      have in' : r₀.place.1 = a.eventId ∧ r₀.place.2 ∈ a.seatIds := hlisted
      left
      rw [Seat.marked, if_pos hlisted, zero, if_pos in']
      exact ⟨rfl, rfl⟩
    · have out : ¬ (r₀.place.1 = a.eventId ∧ r₀.place.2 ∈ a.seatIds) := hlisted
      rw [Seat.marked, if_neg hlisted, if_neg out]
      exact h.seats r₀ hr₀
  · intro hold hm hrel
    rw [holds, List.mem_append] at hm
    apply stillStored
    rcases hm with hm | hm
    · exact h.stored hold hm hrel
    · obtain ⟨-, -, he, hid⟩ := HoldCall.of_mem_saved hm
      obtain ⟨r, hr, hseat⟩ := sellable.found hold.seatId hid
      obtain ⟨hrow, hlisted⟩ := List.mem_filter.mp hr
      simp only [Bool.and_eq_true, decide_eq_true_eq] at hlisted
      exact ⟨r, hrow, Prod.ext (hlisted.1.trans he.symm) hseat⟩
  · intro r hr
    rw [rows] at hr
    obtain ⟨r₀, hr₀, rfl⟩ := List.mem_map.mp hr
    rw [Seat.marked_eventId]
    exact h.plain r₀ hr₀
  · intro key lock hlock
    rw [holds]
    rcases newLocks key lock hlock with hold | ⟨hk, hu⟩
    · obtain ⟨hold, hm, hrest⟩ := h.locks key lock hold
      exact ⟨hold, List.mem_append_left _ hm, hrest⟩
    · obtain ⟨seatId, hid, rfl⟩ := List.mem_map.mp hk
      obtain ⟨hold, hm, hplace⟩ := HoldCall.exists_saved (s := s) hn expiresAt hid
      obtain ⟨hrel, hu', -⟩ := HoldCall.of_mem_saved hm
      refine ⟨hold, List.mem_append_right _ hm, hrel, ?_, hu'.trans hu.symm⟩
      rw [hplace]
      rfl
  · intro hold hm
    have next : s'.nextId = s.nextId + a.seatIds.length := by rw [rest]; rfl
    rw [next]
    rw [holds, List.mem_append] at hm
    rcases hm with hm | hm
    · exact Nat.lt_of_lt_of_le (h.numbered hold hm) (Nat.le_add_right _ _)
    · exact (HoldCall.id_of_mem_saved hm).2

/-- A call of `holdSeats` keeps rows, holds and locks in agreement. -/
theorem holdSeats (h : Booked s) {x : Nat → Op → Choice}
    (hx : ¬ Faulty x) {gone : Nat → List String} (ht : Tame a gone) :
    Booked (a.code.exec (expiring x gone) 0 () s).state := by
  rcases (holdSeats_grown x gone a s).outcome (n := 0) (l := ()) (s := s) rfl with
    ⟨returned, hw⟩ | ⟨-, hno⟩
  · exact h.held (nodup_of_holdSeats hx ht returned) hw
  · obtain ⟨given, grown⟩ := hno.clean hx
    apply h.shrink
    · rw [grown.rest]
    · rw [grown.rest]
    · rw [grown.rest]
      exact Nat.le_add_right _ _
    · intro key lock hl
      exact (grown.locks key lock hl).resolve_right fun hm ↦ by cases hm.1

end Booked

/-! ### The expiry worker -/

/-- Two elements that a count of at most one finds are the same. -/
theorem eq_of_countP_le_one {α : Type} {p : α → Bool} {xs : List α} (hc : xs.countP p ≤ 1) {a b : α}
    (ha : a ∈ xs) (hb : b ∈ xs) (hpa : p a = true) (hpb : p b = true) : a = b := by
  rw [List.countP_eq_length_filter] at hc
  have ha' : a ∈ xs.filter p := List.mem_filter.mpr ⟨ha, hpa⟩
  have hb' : b ∈ xs.filter p := List.mem_filter.mpr ⟨hb, hpb⟩
  match hf : xs.filter p, hc with
  | [], _ =>
    rw [hf] at ha'
    cases ha'
  | [c], _ =>
    rw [hf, List.mem_singleton] at ha' hb'
    rw [ha', hb']
  | _ :: _ :: _, hc => simp at hc

/-- The holds of a group are among those grouped, and have its key. -/
theorem mem_groupHolds {holds : List SeatHold} {g : String × List SeatHold}
    (hg : g ∈ groupHolds holds) {hold : SeatHold} (hm : hold ∈ g.2) :
    hold ∈ holds ∧ hold.eventId ++ ":" ++ hold.userId = g.1 := by
  induction holds generalizing g with
  | nil => cases hg
  | cons first rest ih =>
    rw [groupHolds] at hg
    rcases List.mem_cons.mp hg with rfl | hg
    · rcases List.mem_cons.mp hm with rfl | hm
      · exact ⟨List.mem_cons_self, rfl⟩
      · cases hf : (groupHolds rest).find? fun g ↦ g.1 = first.eventId ++ ":" ++ first.userId with
        | none =>
          simp only [hf, Option.map_none, Option.getD_none] at hm
          cases hm
        | some g' =>
          simp only [hf, Option.map_some, Option.getD_some] at hm
          obtain ⟨hin, hk⟩ := ih (List.mem_of_find?_eq_some hf) hm
          have key := List.find?_some hf
          simp only [decide_eq_true_eq] at key
          exact ⟨List.mem_cons_of_mem _ hin, hk.trans key⟩
    · obtain ⟨hin, hk⟩ := ih (List.mem_filter.mp hg).1 hm
      exact ⟨List.mem_cons_of_mem _ hin, hk⟩

namespace Booked

/-- A seat has at most one unreleased hold. -/
theorem unique (h : Booked s) {hold hold' : SeatHold} (hm : hold ∈ s.holds.rows)
    (hm' : hold' ∈ s.holds.rows) (hr : hold.releasedAt = none) (hr' : hold'.releasedAt = none)
    (hp : hold.place = hold'.place) : hold = hold' := by
  obtain ⟨r, hrow, hplace⟩ := h.stored hold hm hr
  have count : s.openHolds r.place ≤ 1 := by
    rcases h.seats r hrow with ⟨-, ho⟩ | ⟨-, ho⟩
    · exact Nat.le_of_eq ho
    · rw [ho]
      exact Nat.zero_le _
  apply eq_of_countP_le_one count hm hm'
  · simp [hplace, hr]
  · simp [hplace, hp, hr']

/-- The worker's groups: the holds of one are of one event and user, who owns all unreleased holds
of their seats. -/
def GroupOwned (s : Db) (holds : List SeatHold) : Prop :=
  ∃ e u, (∀ hold ∈ holds, hold.eventId = e ∧ hold.userId = u) ∧
    OwnsHolds s e (holds.map SeatHold.seatId) u

/-- A group stays owned while holds are only released. -/
theorem GroupOwned.shrink {holds : List SeatHold} (h : GroupOwned s holds)
    (hh : ∀ hold ∈ s'.holds.rows, hold.releasedAt = none → hold ∈ s.holds.rows) :
    GroupOwned s' holds := by
  obtain ⟨e, u, same, owns⟩ := h
  refine ⟨e, u, same, ?_⟩
  intro hold hm hr
  exact owns hold (hh hold hm hr) hr

/-- The groups of expired holds are owned. -/
theorem groupOwned (h : Booked s) {p : SeatHold → Bool}
    (hp : ∀ hold, p hold = true → hold.releasedAt = none) {g : String × List SeatHold}
    (hg : g ∈ groupHolds (s.holds.rows.filter p)) : GroupOwned s g.2 := by
  cases hn : g.2 with
  | nil => exact ⟨"", "", nofun, fun _ _ _ _ hid ↦ by cases hid⟩
  | cons first others =>
    rw [← hn]
    have stored : ∀ hold ∈ g.2, hold ∈ s.holds.rows ∧ hold.releasedAt = none := by
      intro hold hm
      obtain ⟨hin, hq⟩ := List.mem_filter.mp (mem_groupHolds hg hm).1
      exact ⟨hin, hp hold hq⟩
    have firstMem : first ∈ g.2 := by
      rw [hn]
      exact List.mem_cons_self
    have same : ∀ hold ∈ g.2, hold.eventId = first.eventId ∧ hold.userId = first.userId := by
      intro hold hm
      obtain ⟨hin, hr⟩ := stored hold hm
      obtain ⟨hin₁, hr₁⟩ := stored first firstMem
      apply groupKey_inj (h.plainHold hin hr) (h.plainHold hin₁ hr₁)
      exact (mem_groupHolds hg hm).2.trans (mem_groupHolds hg firstMem).2.symm
    refine ⟨first.eventId, first.userId, same, ?_⟩
    intro hold hm hr he hid
    obtain ⟨grouped, hgm, hseat⟩ := List.mem_map.mp hid
    obtain ⟨hin, hr'⟩ := stored grouped hgm
    obtain ⟨he', hu⟩ := same grouped hgm
    have place : hold.place = grouped.place := Prod.ext (he.trans he'.symm) hseat.symm
    rw [h.unique hm hin hr hr' place]
    exact hu

variable {x : Nat → Op → Choice} {gone : Nat → List String}

/-- Releasing the groups of a tick keeps the inventory booked. -/
theorem releaseGroups (hx : ¬ Faulty x) (groups : List (String × List SeatHold)) :
    Code.Leaves (expiring x gone)
      (fun _ s ↦ Booked s ∧ ∀ g ∈ groups, GroupOwned s g.2)
      (SeatInventory.releaseGroups groups) (fun _ _ ↦ Booked) fun _ _ ↦ Booked := by
  induction groups with
  | nil => exact Code.Leaves.ret _ fun _ _ h ↦ h.1
  | cons g rest ih =>
    obtain ⟨key, holds⟩ := g
    unfold SeatInventory.releaseGroups
    cases holds with
    | nil => exact ih.pre fun _ _ h ↦ ⟨h.1, fun g hg ↦ h.2 g (List.mem_cons_of_mem _ hg)⟩
    | cons hold others =>
      have one : Code.Leaves (expiring x gone)
          (fun (_ : Unit) s ↦ Booked s ∧ ∀ g ∈ (key, hold :: others) :: rest, GroupOwned s g.2)
          (releaseSeats hold.eventId ((hold :: others).map SeatHold.seatId) hold.userId .timeout)
          (fun _ _ s ↦ Booked s ∧ ∀ g ∈ rest, GroupOwned s g.2) fun _ _ _ ↦ False := by
        apply Code.Leaves.from_each
        rintro l s ⟨hb, howned⟩
        apply Code.Leaves.post ((releaseSeats_leaves x gone hold.eventId
          ((hold :: others).map SeatHold.seatId) hold.userId .timeout s).pre ?_)
        · rintro _ _ s' ⟨⟨now, lost⟩, free⟩
          obtain ⟨e, u, same, owns⟩ := howned _ List.mem_cons_self
          obtain ⟨rfl, rfl⟩ := same hold List.mem_cons_self
          have holds : s'.holds = (s.handed hold.eventId ((hold :: others).map SeatHold.seatId)
              hold.userId .available now .timeout).holds := by
            rw [lost.rest]
            rfl
          refine ⟨hb.released owns ?_ holds ?_ (fun _ _ hl ↦ lost.find hl) free, ?_⟩
          · rw [lost.rest]
            rfl
          · rw [lost.rest]
            rfl
          · intro g hg
            apply (howned g (List.mem_cons_of_mem _ hg)).shrink
            intro hold' hm hr
            rw [holds, holds_handed] at hm
            obtain ⟨hold₀, hm₀, rfl⟩ := List.mem_map.mp hm
            rwa [SeatHold.eq_of_freed hr]
        · exact fun _ _ _ h ↦ hx h.faulty
        · rintro l' s' ⟨-, rfl⟩
          exact Lost.refl _
      apply Code.Leaves.bind (Q := fun _ _ s ↦ Booked s ∧ ∀ g ∈ rest, GroupOwned s g.2)
      · exact Code.Leaves.tryCatch one fun _ _ _ _ h ↦ h.elim
      · exact fun _ ↦ ih

/-- Changing the worker's flag keeps the inventory booked. -/
theorem processing (h : Booked s) (b : Bool) : Booked { s with isProcessing := b } :=
  h.shrink rfl rfl (Nat.le_refl _) fun _ _ hl ↦ hl

/-- A tick of the worker keeps rows, holds and locks in agreement. -/
theorem processExpiredHolds (hx : ¬ Faulty x) :
    Code.Leaves (expiring x gone) (fun _ ↦ Booked) SeatInventory.processExpiredHolds
      (fun _ _ ↦ Booked) fun _ _ ↦ Booked := by
  unfold SeatInventory.processExpiredHolds
  have leave : Code.Leaves (expiring x gone) (fun (_ : Unit) ↦ Booked) (await .leave)
      (fun _ _ ↦ Booked) fun _ _ ↦ Booked := by
    apply await_expiring
    · exact fun _ _ _ h ↦ h.expired _
    · exact fun _ _ _ _ h _ ↦ h.processing _
    · exact fun _ _ _ hf ↦ by cases hf
  apply Code.Leaves.bind (Q := fun _ _ ↦ Booked)
  · apply await_expiring
    · exact fun _ _ _ h ↦ h.expired _
    · exact fun _ _ _ _ h _ ↦ h.processing _
    · exact fun _ _ _ hf ↦ by cases hf
  intro entered
  cases entered with
  | false => exact Code.Leaves.ret _ fun _ _ h ↦ h
  | true =>
    have expire : Code.Leaves (expiring x gone) (fun (_ : Unit) ↦ Booked) releaseExpired
        (fun _ _ ↦ Booked) fun _ _ ↦ Booked := by
      apply Code.Leaves.bind (Q := fun _ _ ↦ Booked)
      · apply await_expiring
        · exact fun _ _ _ h ↦ h.expired _
        · exact fun _ _ _ _ h _ ↦ h
        · exact fun _ _ _ hf ↦ by cases hf
      intro now
      apply Code.Leaves.bind (Q := fun found _ s ↦
        Booked s ∧ ∀ g ∈ groupHolds found, GroupOwned s g.2)
      · apply await_expiring
        · exact fun _ _ _ h ↦ h.expired _
        · intro c l s r h hr
          cases hr
          refine ⟨h, fun g hg ↦ h.groupOwned ?_ hg⟩
          intro hold hq
          simp only [Bool.and_eq_true, Option.isNone_iff_eq_none] at hq
          exact hq.2
        · exact fun _ _ _ _ hf ↦ absurd hf hx
      · exact fun found ↦ releaseGroups hx _
    apply Code.Leaves.bind (Q := fun _ _ ↦ Booked)
    · apply Code.Leaves.tryCatch expire
      intro error
      apply Code.Leaves.bind leave
      exact fun _ ↦ Code.Leaves.raise _ fun _ _ h ↦ h
    · exact fun _ ↦ leave

end Booked

/-! ### Runs -/

/-- Every run keeps rows, holds and locks in agreement. -/
theorem Sequential.booked {s : Db} (h : Sequential Tame s) : Booked s := by
  induction h with
  | start => exact Booked.start
  | create payload x hx he _ ih =>
    rename_i s _
    rcases (createFromEvent_leaves x payload s).outcome (n := 0) (l := ()) (s := s) rfl with
      ⟨-, left⟩ | ⟨-, same, -⟩
    · rcases left with ⟨-, same⟩ | ⟨-, accepts, created⟩
      · rw [same]
        exact ih
      · rw [created]
        exact ih.created he accepts
    · rw [same]
      exact ih
  | hold a x gone hx he ht _ ih => exact ih.holdSeats hx ht
  | tick x gone hx _ ih =>
    rename_i s _
    rcases (Booked.processExpiredHolds hx).outcome (n := 0) (l := ()) (s := s) ih with h | h
    · exact h.2
    · exact h.2
  | expire keys _ ih => exact ih.expired keys

/-- In every run in which no lock of a repeated seat expires while it is being set, the status of
each row follows the unreleased holds of its seat, and each lock names the user of one. -/
theorem sequential_agrees {s : Db} (h : Sequential Tame s) : Agrees s := h.booked.agrees

/-- The stores after the seat was created. -/
def oneSeatStock : Db :=
  ((createFromEvent oneSeat).exec (creating fun _ _ ↦ {}) 0 () (.stocked .empty)).state

/-- The stores after the seat was listed once or twice, while locks expire. -/
def heldStock (seatIds : List String) (gone : Nat → List String) : Db :=
  ((⟨"e", seatIds, "u", "s"⟩ : HoldCall).code.exec (expiring (fun _ _ ↦ {}) gone) 0 ()
    oneSeatStock).state

/-- The run that holds the stock is sequential. -/
theorem sequential_heldStock {tame : HoldCall → (Nat → List String) → Prop} {seatIds : List String}
    {gone : Nat → List String} (ht : tame ⟨"e", seatIds, "u", "s"⟩ gone) :
    Sequential tame (heldStock seatIds gone) := by
  have plain : ':' ∉ "e".toList := by decide
  have calm : ¬ Faulty fun _ _ ↦ {} := fun ⟨_, _, h⟩ ↦ h rfl
  apply Sequential.hold ⟨"e", seatIds, "u", "s"⟩ _ _ calm plain ht
  exact Sequential.create oneSeat _ (fun _ _ ↦ rfl) plain .start

/-- The seat is held, and its lock expires during the call. -/
theorem sequential_agrees_held :
    Sequential Tame (heldStock ["A"] fun n ↦ if n = 5 then [lockKey "e" "A"] else []) ∧
      Agrees (heldStock ["A"] fun n ↦ if n = 5 then [lockKey "e" "A"] else []) ∧
      (heldStock ["A"] fun n ↦ if n = 5 then [lockKey "e" "A"] else []).openHolds
        ("e", "A") = 1 := by
  have run : Sequential Tame
      (heldStock ["A"] fun n ↦ if n = 5 then [lockKey "e" "A"] else []) := by
    apply sequential_heldStock
    intro seatId hc
    have once : ["A"].count seatId ≤ 1 := List.count_le_length
    exact absurd hc (Nat.not_le.mpr (Nat.lt_succ_of_le once))
  exact ⟨run, sequential_agrees run, by decide +kernel⟩

/-- A seat that is listed twice gets two holds when its lock expires between the two. -/
theorem repeated_seat_held_twice :
    ¬ ∀ s, Sequential (fun _ _ ↦ True) s → Agrees s := by
  intro h
  let gone : Nat → List String := fun n ↦ if n = 3 then [lockKey "e" "A"] else []
  have run : Sequential (fun _ _ ↦ True) (heldStock ["A", "A"] gone) := sequential_heldStock trivial
  have twice : (heldStock ["A", "A"] gone).seats.rows.all fun r ↦ r.status = .held &&
      (heldStock ["A", "A"] gone).openHolds r.place = 2 := by
    decide +kernel
  have some : (heldStock ["A", "A"] gone).seats.rows ≠ [] := by decide +kernel
  obtain ⟨r, hr⟩ := List.exists_mem_of_ne_nil _ some
  have both := List.all_eq_true.mp twice r hr
  simp only [Bool.and_eq_true, decide_eq_true_eq] at both
  have one := ((h _ run).held r hr).mp both.1
  rw [both.2] at one
  cases one

end Ticketing.SeatInventory
