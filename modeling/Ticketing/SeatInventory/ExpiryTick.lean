import Ticketing.SeatInventory.Bookkeeping

/-!
# One tick of the expiry worker

Library `SeatInventory`. The worker groups the expired holds by event and user and releases group
by group. A transaction may fail; its group is left alone, and the tick goes on. The tick ends
exactly the expired holds of the other groups.
-/

namespace Ticketing.SeatInventory

open Async Store

/-! ### One release -/

/-- The statements of a transaction. -/
def Op.transactional : Op → Bool
  | .connect | .findHolds _ _ | .statement _ | .findBySeatIds _ _ | .commit _ | .rollback => true
  | _ => false

/-- Only statements of transactions fail. -/
def OnlyTransactionsFail (x : Nat → Op → Choice) : Prop :=
  ∀ n o, (x n o).fault ≠ none → o.transactional = true

variable {L : Type} {x : Nat → Op → Choice}

/-- An operation outside a transaction has its effect. -/
theorem deciding_outside (hx : OnlyTransactionsFail x) {o : Op} (ho : o.transactional = false)
    (n : Nat) (s : Db) : deciding x n o s = perform (x n o) o s := by
  have faultless : (x n o).fault = none := by
    by_contra h
    have := hx n o h
    rw [ho] at this
    cases this
  unfold deciding exec
  rw [faultless]
  exact Sig.attempt_none (S := sig) o s

/-- Awaiting an operation outside a transaction. -/
theorem await_succeeds (hx : OnlyTransactionsFail x) {o : Op} (ho : o.transactional = false)
    {P : L → Db → Prop} {Q : Res o → L → Db → Prop} {E : Exception → L → Db → Prop}
    (effect : ∀ n l s a, P l s → (perform (x n o) o s).1 = .ok a →
      Q a l (perform (x n o) o s).2) :
    Code.Leaves (deciding x) P (await o) Q E := by
  apply Code.Leaves.await
  · intro n l s a s' hp hr
    rw [deciding_outside hx ho] at hr
    have left := effect n l s a hp (congrArg Prod.fst hr)
    rwa [hr] at left
  · intro n l s e s' hp hr
    rw [deciding_outside hx ho] at hr
    exact absurd (congrArg Prod.fst hr) not_error_of_perform

/-- A statement of a transaction that only reads leaves the stores as they are. -/
theorem await_reads {o : Op} (keeps : ∀ c s, (perform c o s).2 = s) {P : L → Db → Prop} :
    Code.Leaves (deciding x) P (await o) (fun _ ↦ P) fun _ ↦ P := by
  have same : ∀ n s, (deciding x n o s).2 = s := by
    intro n s
    rcases exec_cases (x n o) o s with ⟨-, e, he⟩ | he
    · exact congrArg Prod.snd he
    · exact (congrArg Prod.snd he).trans (keeps (x n o) s)
  apply Code.Leaves.await
  · intro n l s a s' hp hr
    have kept : s' = s := (congrArg Prod.snd hr).symm.trans (same n s)
    rwa [kept]
  · intro n l s e s' hp hr
    have kept : s' = s := (congrArg Prod.snd hr).symm.trans (same n s)
    rwa [kept]

/-- Deleting the locks does not throw. -/
theorem deleteLocks_returns (hx : OnlyTransactionsFail x) (e u : String) (ids : List String)
    (released : Nat) :
    Code.Leaves (deciding x) (fun (_ : L) _ ↦ True) (releaseLocks e u ids released)
      (fun _ _ _ ↦ True) fun _ _ _ ↦ False := by
  induction ids generalizing released with
  | nil => exact Code.Leaves.ret _ fun _ _ _ ↦ trivial
  | cons seatId rest ih =>
    apply Code.Leaves.bind (Q := fun _ _ _ ↦ True)
    · exact await_succeeds hx rfl fun _ _ _ _ _ _ ↦ trivial
    · intro lock
      cases lock with
      | none => exact ih released
      | some lock =>
        by_cases hu : lock.userId = u
        · simp only [hu, if_true]
          apply Code.Leaves.bind (Q := fun _ _ _ ↦ True)
          · exact await_succeeds hx rfl fun _ _ _ _ _ _ ↦ trivial
          · exact fun _ ↦ ih (released + 1)
        · simp only [hu, if_false]
          exact ih released

variable {s₀ : Db}

/-- The transaction of a release throws only before it commits. -/
theorem releaseTransaction_undone (hx : OnlyTransactionsFail x) (e : String) (ids : List String)
    (u : String) (reason : SeatLockReleaseReason) :
    Code.Leaves (deciding x) (fun active s ↦ active = true ∧ s = s₀)
      (releaseTransaction e ids u reason) (fun _ _ _ ↦ True)
      fun _ active s ↦ active = true ∧ s = s₀ := by
  let Open : Bool → Db → Prop := fun active s ↦ active = true ∧ s = s₀
  apply Code.Leaves.bind (Q := fun _ ↦ Open) (await_reads fun _ _ ↦ rfl)
  intro holds
  apply Code.Leaves.bind (Q := fun _ ↦ Open) (await_reads fun _ _ ↦ rfl)
  intro now
  apply Code.Leaves.bind (Q := fun _ ↦ Open) (await_reads fun _ _ ↦ rfl)
  intro _
  apply Code.Leaves.bind (Q := fun _ ↦ Open) (await_reads fun _ _ ↦ rfl)
  intro inventories
  apply Code.Leaves.bind (Q := fun _ ↦ Open) (await_reads fun _ _ ↦ rfl)
  intro _
  apply Code.Leaves.bind (Q := fun _ _ _ ↦ True)
  · apply Code.Leaves.bind (Q := fun _ _ _ ↦ True)
    · apply Code.Leaves.await
      · exact fun _ _ _ _ _ _ _ ↦ trivial
      · intro n active s err s' hp hr
        rcases exec_cases (x n (.commit _)) (.commit _) s with ⟨-, err', he⟩ | he
        · have kept : s = s' := congrArg Prod.snd (he.symm.trans hr)
          rwa [← kept]
        · exact absurd (congrArg Prod.fst (he.symm.trans hr)) not_error_of_perform
    · exact fun _ ↦ Code.Leaves.assign _ fun _ _ _ ↦ trivial
  intro _
  apply Code.Leaves.bind (Q := fun _ _ _ ↦ True)
  · exact (deleteLocks_returns hx e u ids 0).post (fun _ _ _ _ ↦ trivial) fun _ _ _ h ↦ h.elim
  intro _
  exact await_succeeds hx rfl fun _ _ _ _ _ _ ↦ trivial

/-- A release that throws has changed nothing. -/
theorem releaseSeats_undone (hx : OnlyTransactionsFail x) (e : String) (ids : List String)
    (u : String) (reason : SeatLockReleaseReason) :
    Code.Leaves (deciding x) (fun (_ : Unit) s ↦ s = s₀) (releaseSeats e ids u reason)
      (fun _ _ _ ↦ True) fun _ _ s ↦ s = s₀ := by
  apply Code.Leaves.bind (Q := fun _ _ s ↦ s = s₀) (await_reads fun _ _ ↦ rfl)
  intro _
  apply Code.Leaves.pre (Code.Leaves.on (m := true) (P := fun active s ↦ active = true ∧ s = s₀)
    (Q := fun _ _ ↦ True) (E := fun _ s ↦ s = s₀) ?_) fun _ _ h ↦ ⟨rfl, h⟩
  apply Code.Leaves.tryCatch (releaseTransaction_undone hx e ids u reason)
  intro error
  apply Code.Leaves.bind (Q := fun _ _ s ↦ s = s₀)
  · apply Code.Leaves.bind (Q := fun r active s ↦ r = active ∧ active = true ∧ s = s₀)
    · exact Code.Leaves.entity fun _ _ h ↦ ⟨rfl, h⟩
    · intro active
      cases active with
      | true =>
        exact ((await_reads fun _ _ ↦ rfl).pre fun _ _ h ↦ h.2.2).post (fun _ _ _ h ↦ h)
          fun _ _ _ h ↦ h
      | false => exact Code.Leaves.raise _ fun _ _ h ↦ h.2.2
  · exact fun _ ↦ Code.Leaves.raise _ fun _ _ h ↦ h

/-- What a release leaves that returns: the user's unreleased holds of the listed seats have ended,
the rows are on sale, and the user's locks are gone. -/
structure HoldsEnded (e : String) (ids : List String) (u : String) (reason : SeatLockReleaseReason)
    (s s' : Db) : Prop where
  holds : ∃ now, s'.holds.rows = s.holds.rows.map (SeatHold.freed e ids u now reason)
  seats : s'.seats.rows = s.seats.rows.map (Seat.marked e ids .available)
  deleted : ∀ key, s.Owns e ids u key → s'.locks.find key = none
  locks : ∀ key, ¬ s.Owns e ids u key → s'.locks.find key = s.locks.find key

/-- A release returns and has its effect, or throws and has none. -/
theorem releaseSeats_exact (hx : OnlyTransactionsFail x) (e : String) (ids : List String)
    (u : String) (reason : SeatLockReleaseReason) (n : Nat) (s : Db) :
    let out := (releaseSeats e ids u reason).exec (deciding x) n () s
    (out.throws = false ∧ HoldsEnded e ids u reason s out.state) ∨
      (out.throws = true ∧ out.state = s) := by
  have left := releaseSeats_leaves x (fun _ ↦ []) e ids u reason s n () s (Lost.refl s)
  have undone := @releaseSeats_undone x s hx e ids u reason n () s rfl
  rw [← deciding_eq_expiring] at left
  dsimp only
  rcases hr : (releaseSeats e ids u reason).exec (deciding x) n () s with ⟨r, l, n', s'⟩
  rw [hr] at left undone
  cases r with
  | error err => exact .inr ⟨rfl, undone⟩
  | ok _ =>
    have left : Handed (fun _ ↦ []) e ids u .available reason s s' := left
    refine .inl ⟨rfl, ?_, ?_, fun key ↦ left.deleted, ?_⟩
    · obtain ⟨now, written⟩ := left.rewritten
      exact ⟨now, by rw [written.holds, holds_handed]⟩
    · obtain ⟨now, written⟩ := left.rewritten
      rw [written.seats]
      exact rows_marked
    · obtain ⟨now, written⟩ := left.rewritten
      exact written.locks

/-! ### The groups -/

/-- The release of one group. -/
def releaseGroup : List SeatHold → Code sig Unit Unit
  | [] => pure ()
  | holds@(hold :: _) =>
    releaseSeats hold.eventId (holds.map SeatHold.seatId) hold.userId .timeout

/-- The groups of a tick in order, each with whether its release threw. -/
def verdicts (h : Handler sig Db) : List (String × List SeatHold) → Nat → Db →
    List ((String × List SeatHold) × Bool)
  | [], _, _ => []
  | g :: rest, n, s =>
    let out := (releaseGroup g.2).exec h n () s
    (g, out.throws) :: verdicts h rest out.position out.state

/-- Every group has one verdict, in the order of the groups. -/
theorem verdicts_groups (h : Handler sig Db) (groups : List (String × List SeatHold)) (n : Nat)
    (s : Db) : (verdicts h groups n s).map Prod.fst = groups := by
  induction groups generalizing n s with
  | nil => rfl
  | cons g rest ih => simp only [verdicts, List.map_cons, ih]

/-- The keys of the groups differ. -/
theorem nodup_groupHolds (holds : List SeatHold) : ((groupHolds holds).map Prod.fst).Nodup := by
  induction holds with
  | nil => exact List.nodup_nil
  | cons first rest ih =>
    rw [groupHolds, List.map_cons, List.nodup_cons]
    constructor
    · intro h
      obtain ⟨g, hg, hk⟩ := List.mem_map.mp h
      have := (List.mem_filter.mp hg).2
      simp [hk] at this
    · exact ih.sublist (List.filter_sublist.map _)

/-- Every hold is in one of the groups. -/
theorem exists_group {holds : List SeatHold} {hold : SeatHold} (h : hold ∈ holds) :
    ∃ g ∈ groupHolds holds, hold ∈ g.2 := by
  induction holds with
  | nil => cases h
  | cons first rest ih =>
    rw [groupHolds]
    rcases List.mem_cons.mp h with rfl | h
    · exact ⟨_, List.mem_cons_self, List.mem_cons_self⟩
    · obtain ⟨g, hg, hm⟩ := ih h
      by_cases hk : g.1 = first.eventId ++ ":" ++ first.userId
      · refine ⟨_, List.mem_cons_self, List.mem_cons_of_mem _ ?_⟩
        cases hf : (groupHolds rest).find? fun g ↦ g.1 = first.eventId ++ ":" ++ first.userId with
        | none =>
          have := List.find?_eq_none.mp hf g hg
          simp [hk] at this
        | some g' =>
          have key : g'.1 = first.eventId ++ ":" ++ first.userId := by
            simpa using List.find?_some hf
          have same : g' = g := List.inj_on_of_nodup_map (nodup_groupHolds rest)
            (List.mem_of_find?_eq_some hf) hg (key.trans hk.symm)
          rw [same]
          exact hm
      · exact ⟨g, List.mem_cons_of_mem _ (List.mem_filter.mpr ⟨hg, decide_eq_true hk⟩), hm⟩

/-! ### The tick -/

/-- A seat has at most one unreleased hold, and is held if and only if it has one. -/
structure OneHold (s : Db) : Prop where
  one : ∀ place, s.openHolds place ≤ 1
  held : ∀ r ∈ s.seats.rows, r.status = .held ↔ s.openHolds r.place = 1

/-- The hold is released by the worker at some time. -/
def SeatHold.EndedAs (h h' : SeatHold) : Prop :=
  ∃ t, h' = { h with releasedAt := some t, releaseReason := some .timeout }

/-- The key is locked by the user of one of these holds. -/
def Db.LockedFor (s : Db) (done : SeatHold → Prop) (key : String) : Prop :=
  ∃ h ∈ s.holds.rows, done h ∧ placeKey h.place = key ∧
    ∃ lock, s.locks.find key = some lock ∧ lock.userId = h.userId

/-- The seat of one of these holds. -/
def Db.SeatOf (s : Db) (done : SeatHold → Prop) (place : String × String) : Prop :=
  ∃ h ∈ s.holds.rows, done h ∧ h.place = place

/-- What releasing exactly these holds leaves. -/
structure HoldsReleased (done : SeatHold → Prop) (s s' : Db) : Prop where
  holds : List.Forall₂ (fun h h' ↦ (done h → h.EndedAs h') ∧ (¬ done h → h' = h)) s.holds.rows
    s'.holds.rows
  seats : List.Forall₂ (fun r r' ↦ (s.SeatOf done r.place → r' = { r with status := .available }) ∧
    (¬ s.SeatOf done r.place → r' = r)) s.seats.rows s'.seats.rows
  deleted : ∀ key, s.LockedFor done key → s'.locks.find key = none
  locks : ∀ key, ¬ s.LockedFor done key → s'.locks.find key = s.locks.find key

/-- A group of unreleased holds of one event and user. -/
structure Group (s : Db) (e u : String) (holds : List SeatHold) : Prop where
  stored : ∀ h ∈ holds, h ∈ s.holds.rows
  unreleased : ∀ h ∈ holds, h.releasedAt = none
  event : ∀ h ∈ holds, h.eventId = e
  user : ∀ h ∈ holds, h.userId = u

/-- The unreleased hold of a seat is the only one. -/
theorem OneHold.unique {s : Db} (hs : OneHold s) {h h' : SeatHold} (hm : h ∈ s.holds.rows)
    (hm' : h' ∈ s.holds.rows) (hr : h.releasedAt = none) (hr' : h'.releasedAt = none)
    (hp : h.place = h'.place) : h = h' := by
  apply eq_of_countP_le_one (hs.one h.place) hm hm'
  · simp [hr]
  · simp [hp, hr']

/-- A tick has released no hold at its start. -/
theorem HoldsReleased.start (s : Db) : HoldsReleased (fun _ ↦ False) s s where
  holds := List.forall₂_same.mpr fun _ _ ↦ ⟨False.elim, fun _ ↦ rfl⟩
  seats := List.forall₂_same.mpr fun _ _ ↦ ⟨fun ⟨_, _, h, _⟩ ↦ h.elim, fun _ ↦ rfl⟩
  deleted := fun _ ⟨_, _, h, _⟩ ↦ h.elim
  locks _ _ := rfl

variable {s s' : Db} {done : SeatHold → Prop} {e u : String} {holds : List SeatHold}

/-- The listed seats of the event are those of the group's holds. -/
theorem Group.listed (hg : Group s e u holds) (place : String × String) :
    (place.1 = e ∧ place.2 ∈ holds.map SeatHold.seatId) ↔ ∃ h ∈ holds, h.place = place := by
  constructor
  · rintro ⟨he, hid⟩
    obtain ⟨h, hm, hseat⟩ := List.mem_map.mp hid
    exact ⟨h, hm, Prod.ext ((hg.event h hm).trans he.symm) hseat⟩
  · rintro ⟨h, hm, rfl⟩
    exact ⟨hg.event h hm, List.mem_map_of_mem hm⟩

/-- A released hold stays as it is. -/
theorem freed_of_released {ids : List String} {now t : Nat} {reason : SeatLockReleaseReason}
    {h : SeatHold} (hr : h.releasedAt = some t) : h.freed e ids u now reason = h := by
  unfold SeatHold.freed
  rw [if_neg]
  rintro ⟨-, -, hn, -⟩
  rw [hr] at hn
  cases hn

/-- The holds of a group are exactly those that its release frees. -/
theorem Group.frees (hg : Group s₀ e u holds) (hs : OneHold s₀) {h : SeatHold}
    (hm : h ∈ s₀.holds.rows) : (h.eventId = e ∧ h.userId = u ∧ h.releasedAt = none ∧
      h.seatId ∈ holds.map SeatHold.seatId) ↔ h ∈ holds := by
  constructor
  · rintro ⟨he, -, hr, hid⟩
    obtain ⟨h', hm', hplace⟩ := (hg.listed h.place).mp ⟨he, hid⟩
    rwa [hs.unique hm (hg.stored h' hm') hr (hg.unreleased h' hm') hplace.symm]
  · intro hm'
    exact ⟨hg.event h hm', hg.user h hm', hg.unreleased h hm', List.mem_map_of_mem hm'⟩

private theorem HoldsReleased.group_holds (h : HoldsReleased done s₀ s) (hs : OneHold s₀)
    (hg : Group s₀ e u holds) (he : HoldsEnded e (holds.map SeatHold.seatId) u .timeout s s') :
    List.Forall₂ (fun h h' ↦ (done h ∨ h ∈ holds → h.EndedAs h') ∧
      (¬ (done h ∨ h ∈ holds) → h' = h)) s₀.holds.rows s'.holds.rows := by
  obtain ⟨now, rows⟩ := he.holds
  rw [rows, List.forall₂_map_right_iff]
  apply ((List.forall₂_and_left _ _).mpr ⟨fun _ hm ↦ hm, h.holds⟩).imp
  rintro hold hold' ⟨hm, ended, kept⟩
  have frees := hg.frees hs hm
  constructor
  · intro now_done
    by_cases hd : done hold
    · obtain ⟨t, rfl⟩ := ended hd
      exact ⟨t, freed_of_released rfl⟩
    · rw [kept hd]
      exact ⟨now, if_pos (frees.mpr (now_done.resolve_left hd))⟩
  · intro not_done
    rw [not_or] at not_done
    rw [kept not_done.1]
    exact if_neg fun hc ↦ not_done.2 (frees.mp hc)

private theorem HoldsReleased.group_seats (h : HoldsReleased done s₀ s) (hg : Group s₀ e u holds)
    (he : HoldsEnded e (holds.map SeatHold.seatId) u .timeout s s') :
    List.Forall₂ (fun r r' ↦
      (s₀.SeatOf (fun h ↦ done h ∨ h ∈ holds) r.place → r' = { r with status := .available }) ∧
      (¬ s₀.SeatOf (fun h ↦ done h ∨ h ∈ holds) r.place → r' = r)) s₀.seats.rows
      s'.seats.rows := by
  rw [he.seats, List.forall₂_map_right_iff]
  apply h.seats.imp
  rintro r r' ⟨freed, kept⟩
  have place : r'.place = r.place := by
    by_cases hd : s₀.SeatOf done r.place
    · rw [freed hd]
      rfl
    · rw [kept hd]
  have listed : (r'.eventId = e ∧ r'.seatId ∈ holds.map SeatHold.seatId) ↔
      ∃ h ∈ holds, h.place = r.place := by
    rw [← place]
    exact hg.listed r'.place
  constructor
  · rintro ⟨hold, hm, hd, hp⟩
    by_cases hd' : s₀.SeatOf done r.place
    · rw [freed hd']
      unfold Seat.marked
      split <;> rfl
    · have grouped : hold ∈ holds := hd.resolve_left fun hd ↦ hd' ⟨hold, hm, hd, hp⟩
      rw [Seat.marked, if_pos (listed.mpr ⟨hold, grouped, hp⟩), kept hd']
  · intro not_done
    have unfreed : ¬ s₀.SeatOf done r.place := by
      rintro ⟨hold, hm, hd, hp⟩
      exact not_done ⟨hold, hm, .inl hd, hp⟩
    rw [kept unfreed] at listed ⊢
    apply if_neg
    intro hc
    obtain ⟨hold, hm, hp⟩ := listed.mp hc
    exact not_done ⟨hold, hg.stored hold hm, .inr hm, hp⟩

/-- The keys that a group's release deletes, while the lock is still that of the start. -/
theorem Group.owns (hg : Group s₀ e u holds) {key : String}
    (same : s.locks.find key = s₀.locks.find key) :
    s.Owns e (holds.map SeatHold.seatId) u key ↔ s₀.LockedFor (fun h ↦ h ∈ holds) key := by
  unfold Db.Owns Db.LockedFor
  rw [same]
  constructor
  · rintro ⟨hk, lock, hl, hu⟩
    obtain ⟨seatId, hid, rfl⟩ := List.mem_map.mp hk
    obtain ⟨hold, hm, rfl⟩ := List.mem_map.mp hid
    refine ⟨hold, hg.stored hold hm, hm, ?_, lock, hl, hu.trans (hg.user hold hm).symm⟩
    rw [← hg.event hold hm]
    rfl
  · rintro ⟨hold, -, hm, rfl, lock, hl, hu⟩
    refine ⟨?_, lock, hl, hu.trans (hg.user hold hm)⟩
    rw [← hg.event hold hm]
    exact List.mem_map_of_mem (List.mem_map_of_mem hm)

/-- Releasing a group releases its holds and no others. -/
theorem HoldsReleased.group (h : HoldsReleased done s₀ s) (hs : OneHold s₀)
    (hg : Group s₀ e u holds) (he : HoldsEnded e (holds.map SeatHold.seatId) u .timeout s s') :
    HoldsReleased (fun h ↦ done h ∨ h ∈ holds) s₀ s' where
  holds := h.group_holds hs hg he
  seats := h.group_seats hg he
  deleted := by
    rintro key ⟨hold, hm, hd, hk, hl⟩
    by_cases hd' : s₀.LockedFor done key
    · by_cases ho : s.Owns e (holds.map SeatHold.seatId) u key
      · exact he.deleted key ho
      · rw [he.locks key ho]
        exact h.deleted key hd'
    · have grouped : hold ∈ holds := hd.resolve_left fun hd ↦ hd' ⟨hold, hm, hd, hk, hl⟩
      exact he.deleted key ((hg.owns (h.locks key hd')).mpr ⟨hold, hm, grouped, hk, hl⟩)
  locks := by
    intro key not_done
    have before : ¬ s₀.LockedFor done key :=
      fun ⟨hold, hm, hd, rest⟩ ↦ not_done ⟨hold, hm, .inl hd, rest⟩
    rw [he.locks key, h.locks key before]
    intro ho
    obtain ⟨hold, hm, hin, rest⟩ := (hg.owns (h.locks key before)).mp ho
    exact not_done ⟨hold, hm, .inr hin, rest⟩

/-- The released holds depend on which stored holds are done alone. -/
theorem HoldsReleased.congr {done' : SeatHold → Prop} (h : HoldsReleased done s₀ s)
    (hd : ∀ hold ∈ s₀.holds.rows, done hold ↔ done' hold) : HoldsReleased done' s₀ s := by
  have seat : ∀ place, s₀.SeatOf done place ↔ s₀.SeatOf done' place := by
    intro place
    unfold Db.SeatOf
    constructor
    · rintro ⟨hold, hm, h, rest⟩
      exact ⟨hold, hm, (hd hold hm).mp h, rest⟩
    · rintro ⟨hold, hm, h, rest⟩
      exact ⟨hold, hm, (hd hold hm).mpr h, rest⟩
  have lock : ∀ key, s₀.LockedFor done key ↔ s₀.LockedFor done' key := by
    intro key
    unfold Db.LockedFor
    constructor
    · rintro ⟨hold, hm, h, rest⟩
      exact ⟨hold, hm, (hd hold hm).mp h, rest⟩
    · rintro ⟨hold, hm, h, rest⟩
      exact ⟨hold, hm, (hd hold hm).mpr h, rest⟩
  constructor
  · apply ((List.forall₂_and_left _ _).mpr ⟨fun _ hm ↦ hm, h.holds⟩).imp
    rintro hold hold' ⟨hm, ended, kept⟩
    exact ⟨fun hd' ↦ ended ((hd hold hm).mpr hd'), fun hd' ↦ kept fun h ↦ hd' ((hd hold hm).mp h)⟩
  · apply h.seats.imp
    rintro r r' ⟨freed, kept⟩
    exact ⟨fun hd' ↦ freed ((seat _).mpr hd'), fun hd' ↦ kept fun h ↦ hd' ((seat _).mp h)⟩
  · exact fun key hk ↦ h.deleted key ((lock key).mpr hk)
  · exact fun key hk ↦ h.locks key fun h ↦ hk ((lock key).mp h)

/-- A group is released unless its release throws. -/
theorem releaseGroup_released (hx : OnlyTransactionsFail x) (hs : OneHold s₀)
    (hg : Group s₀ e u holds) (n : Nat) (h : HoldsReleased done s₀ s) :
    HoldsReleased (fun hold ↦ done hold ∨
        (((releaseGroup holds).exec (deciding x) n () s).throws = false ∧ hold ∈ holds)) s₀
      ((releaseGroup holds).exec (deciding x) n () s).state := by
  cases holds with
  | nil => exact h.congr fun _ _ ↦ by simp
  | cons hold others =>
    have event := hg.event hold List.mem_cons_self
    have user := hg.user hold List.mem_cons_self
    subst event user
    rcases releaseSeats_exact hx hold.eventId ((hold :: others).map SeatHold.seatId) hold.userId
      .timeout n s with ⟨ht, ended⟩ | ⟨ht, same⟩
    · have ht' : ((releaseGroup (hold :: others)).exec (deciding x) n () s).throws = false := ht
      exact (h.group hs hg ended).congr fun _ _ ↦ by simp [ht']
    · have ht' : ((releaseGroup (hold :: others)).exec (deciding x) n () s).throws = true := ht
      have same' : ((releaseGroup (hold :: others)).exec (deciding x) n () s).state = s := same
      rw [same']
      exact h.congr fun _ _ ↦ by simp [ht']

/-- The loop over the groups releases those whose release does not throw. -/
theorem releaseGroups_released (hx : OnlyTransactionsFail x) (hs : OneHold s₀)
    (groups : List (String × List SeatHold)) (hg : ∀ g ∈ groups, ∃ e u, Group s₀ e u g.2) (n : Nat)
    (h : HoldsReleased done s₀ s) :
    ∃ n' s', (releaseGroups groups).exec (deciding x) n () s = ⟨.ok (), (), n', s'⟩ ∧
      HoldsReleased (fun hold ↦ done hold ∨ ∃ v ∈ verdicts (deciding x) groups n s,
        v.2 = false ∧ hold ∈ v.1.2) s₀ s' := by
  induction groups generalizing n s done with
  | nil =>
    refine ⟨n, s, rfl, h.congr ?_⟩
    simp [verdicts]
  | cons g rest ih =>
    obtain ⟨key, holds⟩ := g
    have rest_groups := fun g hm ↦ hg g (List.mem_cons_of_mem _ hm)
    have loop : (releaseGroups ((key, holds) :: rest)).exec (deciding x) n () s =
        (releaseGroups rest).exec (deciding x)
          ((releaseGroup holds).exec (deciding x) n () s).position ()
          ((releaseGroup holds).exec (deciding x) n () s).state := by
      cases holds with
      | nil => rfl
      | cons hold others =>
        rw [releaseGroups, Code.exec_bind, Code.exec_tryCatch]
        show _ = (releaseGroups rest).exec (deciding x)
          ((releaseSeats hold.eventId ((hold :: others).map SeatHold.seatId) hold.userId
            .timeout).exec (deciding x) n () s).position ()
          ((releaseSeats hold.eventId ((hold :: others).map SeatHold.seatId) hold.userId
            .timeout).exec (deciding x) n () s).state
        rcases (releaseSeats hold.eventId ((hold :: others).map SeatHold.seatId) hold.userId
          .timeout).exec (deciding x) n () s with ⟨r, l, n', s'⟩
        cases r <;> rfl
    obtain ⟨e, u, group⟩ := hg (key, holds) List.mem_cons_self
    have one := releaseGroup_released hx hs group n h
    obtain ⟨n', s', hexec, released⟩ := ih rest_groups
      ((releaseGroup holds).exec (deciding x) n () s).position one
    refine ⟨n', s', loop.trans hexec, released.congr ?_⟩
    intro hold _
    simp only [verdicts, List.mem_cons, exists_eq_or_imp, or_assoc]

/-- The unreleased holds that have expired. -/
def Db.overdue (s : Db) (now : Nat) : List SeatHold :=
  s.holds.rows.filter fun h ↦ h.expiresAt < now && h.releasedAt.isNone

/-- The transaction of the group of this event and user fails in a tick at `now`. -/
def GroupFails (x : Nat → Op → Choice) (now : Nat) (s : Db) (e u : String) : Prop :=
  ∃ v ∈ verdicts (deciding x) (groupHolds (s.overdue now)) 3 { s with isProcessing := true },
    v.2 = true ∧ ∃ h ∈ v.1.2, h.eventId = e ∧ h.userId = u

/-- The hold is unreleased, has expired, and its group does not fail. -/
def Due (now : Nat) (fails : String → String → Prop) (h : SeatHold) : Prop :=
  h.releasedAt = none ∧ h.expiresAt < now ∧ ¬ fails h.eventId h.userId

/-- The tick releases exactly the holds that are due, and frees exactly their seats. -/
structure TickExact (now : Nat) (fails : String → String → Prop) (s s' : Db) : Prop where
  released : HoldsReleased (Due now fails) s s'
  held : ∀ r ∈ s.seats.rows, s.SeatOf (Due now fails) r.place → r.status = .held

/-- Expired holds of one group are of one event and user. -/
theorem group_of_overdue (hp : ∀ h ∈ s.holds.rows, PlainId h.eventId) {now : Nat}
    {g : String × List SeatHold} (hg : g ∈ groupHolds (s.overdue now)) :
    ∃ e u, Group s e u g.2 := by
  have stored : ∀ h ∈ g.2, h ∈ s.holds.rows ∧ h.releasedAt = none := by
    intro h hm
    have mem := (mem_groupHolds hg hm).1
    rw [Db.overdue, List.mem_filter, Bool.and_eq_true, Option.isNone_iff_eq_none] at mem
    exact ⟨mem.1, mem.2.2⟩
  cases hn : g.2 with
  | nil => exact ⟨"", "", nofun, nofun, nofun, nofun⟩
  | cons first others =>
    have first_mem : first ∈ g.2 := hn ▸ List.mem_cons_self
    rw [← hn]
    have same : ∀ h ∈ g.2, h.eventId = first.eventId ∧ h.userId = first.userId := by
      intro h hm
      apply groupKey_inj (hp h (stored h hm).1) (hp first (stored first first_mem).1)
      exact (mem_groupHolds hg hm).2.trans (mem_groupHolds hg first_mem).2.symm
    exact ⟨first.eventId, first.userId, fun h hm ↦ (stored h hm).1, fun h hm ↦ (stored h hm).2,
      fun h hm ↦ (same h hm).1, fun h hm ↦ (same h hm).2⟩

/-- The holds whose group succeeds are those that are due. -/
theorem due_iff {now : Nat} {h : SeatHold} (hm : h ∈ s.holds.rows) :
    (∃ v ∈ verdicts (deciding x) (groupHolds (s.overdue now)) 3 { s with isProcessing := true },
      v.2 = false ∧ h ∈ v.1.2) ↔ Due now (GroupFails x now s) h := by
  let results :=
    verdicts (deciding x) (groupHolds (s.overdue now)) 3 { s with isProcessing := true }
  have groups : results.map Prod.fst = groupHolds (s.overdue now) := verdicts_groups _ _ _ _
  have grouped : ∀ v ∈ results, v.1 ∈ groupHolds (s.overdue now) := by
    intro v hv
    rw [← groups]
    exact List.mem_map_of_mem hv
  constructor
  · rintro ⟨v, hv, ok, hin⟩
    have mem := mem_groupHolds (grouped v hv) hin
    have overdue := mem.1
    rw [Db.overdue, List.mem_filter, Bool.and_eq_true, Option.isNone_iff_eq_none,
      decide_eq_true_eq] at overdue
    refine ⟨overdue.2.2, overdue.2.1, ?_⟩
    rintro ⟨v', hv', failed, h', hin', he, hu⟩
    -- groups of one event and user have one key, so the verdict is the same
    have key : v'.1.1 = v.1.1 := by
      rw [← (mem_groupHolds (grouped v' hv') hin').2, ← mem.2, he, hu]
    have nodup : (results.map fun v ↦ v.1.1).Nodup := by
      have keys := nodup_groupHolds (s.overdue now)
      rwa [← groups, List.map_map] at keys
    have same := List.inj_on_of_nodup_map nodup hv' hv key
    rw [same, ok] at failed
    cases failed
  · rintro ⟨hr, ht, hok⟩
    have overdue : h ∈ s.overdue now := by
      rw [Db.overdue, List.mem_filter, Bool.and_eq_true, Option.isNone_iff_eq_none,
        decide_eq_true_eq]
      exact ⟨hm, ht, hr⟩
    obtain ⟨g, hg, hin⟩ := exists_group overdue
    rw [← groups] at hg
    obtain ⟨v, hv, rfl⟩ := List.mem_map.mp hg
    refine ⟨v, hv, ?_, hin⟩
    cases hb : v.2 with
    | false => rfl
    | true => exact absurd ⟨v, hv, hb, h, hin, rfl, rfl⟩ hok

/-- A tick of the expiry worker releases exactly the expired holds whose group's transaction does
not fail, as `TIMEOUT`, with their seats and their users' locks. -/
theorem expiry_tick_exact (hx : OnlyTransactionsFail x) (hs : OneHold s)
    (hp : ∀ h ∈ s.holds.rows, PlainId h.eventId) (idle : s.isProcessing = false) :
    TickExact (x 1 .now).now (GroupFails x (x 1 .now).now s) s
      (processExpiredHolds.exec (deciding x) 0 () s).state := by
  let now := (x 1 .now).now
  let begun : Db := { s with isProcessing := true }
  have start := HoldsReleased.start s
  have start' : HoldsReleased (fun _ ↦ False) s begun :=
    ⟨start.holds, start.seats, start.deleted, start.locks⟩
  obtain ⟨n', s', hloop, released⟩ := releaseGroups_released hx hs (groupHolds (s.overdue now))
    (fun g hg ↦ group_of_overdue hp hg) 3 start'
  have enter : deciding x 0 .enter s = (.ok true, begun) := by
    rw [deciding_outside hx rfl]
    simp [perform, idle, begun]
  have clock : deciding x 1 .now begun = (.ok now, begun) := deciding_outside hx rfl 1 begun
  have found : deciding x 2 (.findExpiredHolds now) begun = (.ok (s.overdue now), begun) :=
    deciding_outside hx rfl 2 begun
  have leave : deciding x n' .leave s' = (.ok (), { s' with isProcessing := false }) :=
    deciding_outside hx rfl n' s'
  have run : (processExpiredHolds.exec (deciding x) 0 () s).state =
      { s' with isProcessing := false } := by
    unfold processExpiredHolds releaseExpired
    rw [Code.exec_bind, Code.exec_await, enter]
    simp only [if_true, Code.exec_bind, Code.exec_tryCatch, Code.exec_await, clock, found, hloop,
      leave]
  have due : HoldsReleased (Due now (GroupFails x now s)) s s' := by
    apply released.congr
    intro h hm
    rw [false_or]
    exact due_iff hm
  rw [run]
  refine ⟨⟨due.holds, due.seats, due.deleted, due.locks⟩, ?_⟩
  rintro r hr ⟨h, hm, hd, hplace⟩
  have one : 0 < s.openHolds r.place := by
    rw [Db.openHolds, List.countP_pos_iff]
    exact ⟨h, hm, by simp [hplace, hd.1]⟩
  have bound := hs.one r.place
  exact (hs.held r hr).mpr (by omega)

/-- A hold of a seat of event `e`. -/
def sampleHold (n : Id) (seatId userId : String) (expiresAt : Nat) : SeatHold where
  id := n
  seatInventoryId := n
  eventId := "e"
  seatId := seatId
  userId := userId
  sessionId := "session"
  expiresAt := expiresAt
  releasedAt := none
  releaseReason := none

/-- Two expired holds of different users, and one that has not expired. -/
def threeHeld : Db where
  seats := ⟨[{ saleSeat 0 "A" with status := .held }, { saleSeat 1 "B" with status := .held },
    { saleSeat 2 "C" with status := .held }], by decide⟩
  holds := ⟨[sampleHold 0 "A" "u" 50, sampleHold 1 "B" "v" 50, sampleHold 2 "C" "u" 200], by decide⟩
  locks := ⟨[⟨lockKey "e" "A", "u", "session", 0⟩, ⟨lockKey "e" "C", "u", "session", 0⟩], by decide⟩
  availability := .empty
  nextId := 3
  isProcessing := false

/-- The clock says 100, and the transaction of one user fails. -/
def oneFails (_ : Nat) (o : Op) : Choice where
  fault := if o = .findHolds "e" "v" then some (.failure "deadlock detected") else none
  now := 100

/-- Seat A is freed; seats B and C stay held. -/
theorem expiry_tick_exact_three :
    TickExact 100 (GroupFails oneFails 100 threeHeld) threeHeld
        (processExpiredHolds.exec (deciding oneFails) 0 () threeHeld).state ∧
      (processExpiredHolds.exec (deciding oneFails) 0 () threeHeld).state.seats.rows.map
        Seat.status = [.available, .held, .held] := by
  have fails : OnlyTransactionsFail oneFails := by
    intro n o hf
    by_cases ho : o = .findHolds "e" "v"
    · rw [ho]
      rfl
    · simp [oneFails, ho] at hf
  have one : OneHold threeHeld := by
    refine ⟨?_, by decide⟩
    intro place
    have places : (threeHeld.holds.rows.map SeatHold.place).count place ≤ 1 :=
      List.nodup_iff_count_le_one.mp (by decide) place
    rw [List.count_eq_countP, List.countP_map] at places
    refine Nat.le_trans (List.countP_mono_left ?_) places
    intro h _ hp
    simp only [Bool.and_eq_true, decide_eq_true_eq] at hp
    simp [hp.1]
  have plain : ∀ h ∈ threeHeld.holds.rows, ':' ∉ h.eventId.toList := by
    decide
  exact ⟨expiry_tick_exact fails one plain rfl, by decide +kernel⟩

end Ticketing.SeatInventory
