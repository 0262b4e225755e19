import Ticketing.SeatInventory.HeldSeats

/-!
# Concurrent calls of `holdSeats`

Library `SeatInventory`. Calls of `holdSeats` run at the same time, nothing fails and nothing
else happens. Each lock key belongs to the call that set it until this call deletes it: what
a call does to its seats, the other calls do not see.
-/

namespace Ticketing.SeatInventory

open Async Store

/-- The job is a call of `holdSeats`. -/
def Job.holds : Job → Bool
  | .holdSeats _ _ _ _ => true
  | _ => false

/-- Only calls of `holdSeats` run, and no operation fails. -/
def holding : Regime service where
  may _ ev := ev.job.holds = true ∧ ev.answer.isOk = true
  excl _ _ := False

instance (c : Conf service) (ev : Event service) : Decidable (holding.may c ev) :=
  inferInstanceAs (Decidable (_ ∧ _))

instance (i j : Job) : Decidable (holding.excl i j) := inferInstanceAs (Decidable False)

/-- What the proof knows beside the stores: who set a lock key, who was given the identifier
of a hold, and which calls were committed. -/
structure Claims where
  owner : String → Option (Nat × HoldCall)
  number : Id → Option Nat
  calls : List (Nat × HoldCall)

/-- A lock that a call has set. -/
def SeatLock.Of (lock : SeatLock) (a : HoldCall) : Prop :=
  lock.userId = a.userId ∧ lock.sessionId = a.sessionId

/-- What holds between any two operations of the calls, from the stores `s₀`. -/
structure Holding (s₀ : Db) (c : Conf service) (g : Claims) : Prop where
  locked : ∀ key t a, g.owner key = some (t, a) → s₀.locks.find key = none ∧
    ∃ lock, c.state.locks.find key = some lock ∧ lock.Of a
  unlocked : ∀ key, g.owner key = none → c.state.locks.find key = s₀.locks.find key
  written : Written s₀ (g.calls.map Prod.snd) c.state
  numbered : ∀ hold ∈ c.state.holds.rows, hold.id < s₀.nextId ∨
    ∃ t a, g.number hold.id = some t ∧ (t, a) ∈ g.calls
  numbers : ∀ n t, g.number n = some t → s₀.nextId ≤ n ∧ n < c.state.nextId
  next : s₀.nextId ≤ c.state.nextId
  threads : (g.calls.map Prod.fst).Nodup
  owned : ∀ t a, (t, a) ∈ g.calls → ∀ key ∈ a.keys, g.owner key = some (t, a)
  sold : ∀ t a, (t, a) ∈ g.calls → a.seatIds.Nodup ∧
    ∀ place ∈ a.places, ∃ r, s₀.seats.find place = some r ∧ r.status = .available
  unstarted : ∀ t, (∀ ev ∈ c.log, ev.tid ≠ t) →
    (∀ key a, g.owner key ≠ some (t, a)) ∧ ∀ a, (t, a) ∉ g.calls

/-- What thread `t` may change. -/
structure Changes (t : Nat) (c : Conf service) (g : Claims) (c' : Conf service) (g' : Claims) :
    Prop where
  owner : ∀ key u a, u ≠ t → (g'.owner key = some (u, a) ↔ g.owner key = some (u, a))
  number : ∀ n u, u ≠ t → g.number n = some u → g'.number n = some u
  calls : ∀ u a, u ≠ t → ((u, a) ∈ g'.calls ↔ (u, a) ∈ g.calls)
  seats : ∀ place, (∀ a, g.owner (placeKey place) ≠ some (t, a)) →
    c'.state.seats.find place = c.state.seats.find place

/-- The rules for calls that run at the same time, from the stores `s₀`. -/
def holdRules (s₀ : Db) : Rules service where
  regime := holding
  Ghost := Claims
  inv := Holding s₀
  guar t _ := Changes t

/-- A call that has not been committed: the keys it has set, the seats it has found under
these keys, and the identifiers of its holds. -/
structure Open (t : Nat) (a : HoldCall) (keys : List String) (found : List Seat)
    (saved : List Id) (c : Conf service) (g : Claims) : Prop where
  owner : ∀ key b, g.owner key = some (t, b) ↔ b = a ∧ key ∈ keys
  calls : ∀ b, (t, b) ∉ g.calls
  found : ∀ r ∈ found, c.state.seats.find r.place = some r ∧ placeKey r.place ∈ keys
  saved : ∀ n ∈ saved, g.number n = some t

/-- A call that was committed has its keys. -/
structure Committed (t : Nat) (a : HoldCall) (c : Conf service) (g : Claims) : Prop where
  owner : ∀ key b, g.owner key = some (t, b) ↔ b = a ∧ key ∈ a.keys
  calls : (t, a) ∈ g.calls

variable {s₀ : Db} {t : Nat} {j : Job} {a : HoldCall} {L : Type} {keys : List String}
  {found : List Seat} {saved : List Id}

/-- The other calls do not touch what a call has set and found. -/
theorem open_stable : (holdRules s₀).Stable t j (Open t a keys found saved) := by
  intro u i c g c' g' hu _ _ _ hm h
  have hne : t ≠ u := Ne.symm hu
  constructor
  · intro key b
    rw [hm.owner key t b hne]
    exact h.owner key b
  · intro b
    rw [hm.calls t b hne]
    exact h.calls b
  · intro r hr
    obtain ⟨hf, hk⟩ := h.found r hr
    refine ⟨?_, hk⟩
    rw [hm.seats r.place]
    · exact hf
    · intro b hb
      rw [(h.owner _ a).mpr ⟨rfl, hk⟩] at hb
      cases hb
      exact hu rfl
  · exact fun n hn ↦ hm.number n t hne (h.saved n hn)

/-- The other calls do not touch a committed call. -/
theorem committed_stable : (holdRules s₀).Stable t j (Committed t a) := by
  intro u i c g c' g' hu _ _ _ hm h
  have hne : t ≠ u := Ne.symm hu
  constructor
  · intro key b
    rw [hm.owner key t b hne]
    exact h.owner key b
  · rw [hm.calls t a hne]
    exact h.calls

/-- A call may forget what it has found. -/
theorem Open.forget {c : Conf service} {g : Claims} (h : Open t a keys found saved c g) :
    Open t a keys [] [] c g where
  owner := h.owner
  calls := h.calls
  found r hr := by cases hr
  saved n hn := by cases hn

/-- Without keys, seats and numbers it does not matter which call it is. -/
theorem Open.any {c : Conf service} {g : Claims} (h : Open t a [] [] [] c g) (b : HoldCall) :
    Open t b [] [] [] c g where
  owner key b' := by
    rw [h.owner key b']
    simp
  calls := h.calls
  found r hr := by cases hr
  saved n hn := by cases hn

/-! ### The operations -/

/-- An operation that does not fail: what it does to the stores decides. -/
theorem await_holds {o : Op} {P : L → (holdRules s₀).Fact} {Q : Res o → L → (holdRules s₀).Fact}
    {E : Exception → L → (holdRules s₀).Fact}
    (hq : ∀ r l, (holdRules s₀).Stable t j (Q r l))
    (he : ∀ e l, (holdRules s₀).Stable t j (E e l))
    (h : ∀ l c g x r s, Holding s₀ c g → P l c g → perform x o c.state = (.ok r, s) →
      ∃ g', Holding s₀ ⟨s, ⟨t, j, o, .ok r⟩ :: c.log⟩ g' ∧
        Changes t c g ⟨s, ⟨t, j, o, .ok r⟩ :: c.log⟩ g' ∧
        Q r l ⟨s, ⟨t, j, o, .ok r⟩ :: c.log⟩ g') :
    (holdRules s₀).Holds t j (await o : Code sig L (Res o)) P Q E := by
  apply Rules.Holds.await
  intro l
  constructor
  · intro r
    cases r with
    | ok r => exact hq r l
    | error e => exact he e l
  · intro c g x hi hp hm
    have isOk : (exec x o c.state).1.isOk = true := hm.2
    have out : exec x o c.state = perform x o c.state := by
      rcases exec_cases x o c.state with ⟨-, e, hx⟩ | hx
      · rw [hx] at isOk
        cases isOk
      · exact hx
    rw [out] at isOk
    rcases hr : perform x o c.state with ⟨r, s⟩
    have after : exec x o c.state = (r, s) := out.trans hr
    rw [hr] at isOk
    cases r with
    | error e => cases isOk
    | ok r =>
      obtain ⟨g', hi', hc, hq'⟩ := h l c g x r s hi hp hr
      have conf : c.after t j x o = ⟨s, ⟨t, j, o, .ok r⟩ :: c.log⟩ := by
        show Conf.mk (exec x o c.state).2 (⟨t, j, o, (exec x o c.state).1⟩ :: c.log) = _
        rw [after]
      have answer : c.answer x o = .ok r := congrArg Prod.fst after
      rw [conf, answer]
      exact ⟨g', hi', hc, hq'⟩

/-- An operation that changes no seats, holds or locks. -/
theorem Holding.event {c : Conf service} {g : Claims} (h : Holding s₀ c g) (ev : Event service)
    {s : Db} (hs : s.seats = c.state.seats) (hh : s.holds = c.state.holds)
    (hl : s.locks = c.state.locks) (hn : s.nextId = c.state.nextId) :
    Holding s₀ ⟨s, ev :: c.log⟩ g where
  locked := by
    rw [hl]
    exact h.locked
  unlocked := by
    rw [hl]
    exact h.unlocked
  written := by
    constructor
    · rw [hs]
      exact h.written.seats
    · rw [hh]
      exact h.written.holds
  numbered := by
    rw [hh]
    exact h.numbered
  numbers := by
    rw [hn]
    exact h.numbers
  next := by
    rw [hn]
    exact h.next
  threads := h.threads
  owned := h.owned
  sold := h.sold
  unstarted u hu := h.unstarted u fun e he ↦ hu e (List.mem_cons_of_mem _ he)

/-- An operation that leaves the seats changes nothing. -/
theorem Changes.none {c : Conf service} {g : Claims} (ev : Event service) {s : Db}
    (hs : s.seats = c.state.seats) : Changes t c g ⟨s, ev :: c.log⟩ g where
  owner _ _ _ _ := Iff.rfl
  number _ _ _ h := h
  calls _ _ _ := Iff.rfl
  seats place _ := by rw [hs]

/-- Operations that change no seats, holds or locks. -/
def Op.bystands : Op → Bool
  | .now | .connect | .statement _ | .rollback | .hset _ _ | .get _ | .findBySeatIds _ _ => true
  | _ => false

/-- An operation that stands by changes no seats, holds or locks. -/
theorem perform_bystands {x : Choice} {o : Op} {s s' : Db} {r : sig.Answer o}
    (ho : o.bystands = true) (h : perform x o s = (r, s')) :
    s'.seats = s.seats ∧ s'.holds = s.holds ∧ s'.locks = s.locks ∧ s'.nextId = s.nextId := by
  have hs : s' = (perform x o s).2 := (congrArg Prod.snd h).symm
  rw [hs]
  cases o <;> first | exact ⟨rfl, rfl, rfl, rfl⟩ | cases ho

/-- An operation that changes nothing tells what it answers. -/
theorem bystands_holds {o : Op} (ho : o.bystands = true)
    {P : L → (holdRules s₀).Fact} {Q : Res o → L → (holdRules s₀).Fact}
    {E : Exception → L → (holdRules s₀).Fact}
    (hq : ∀ r l, (holdRules s₀).Stable t j (Q r l))
    (he : ∀ e l, (holdRules s₀).Stable t j (E e l))
    (h : ∀ l c g x r s, Holding s₀ c g → P l c g → perform x o c.state = (.ok r, s) →
      s.seats = c.state.seats → Q r l ⟨s, ⟨t, j, o, .ok r⟩ :: c.log⟩ g) :
    (holdRules s₀).Holds t j (await o : Code sig L (Res o)) P Q E := by
  apply await_holds hq he
  intro l c g x r s hi hp hr
  obtain ⟨hs, hh, hl, hn⟩ := perform_bystands ho hr
  exact ⟨g, hi.event _ hs hh hl hn, .none _ hs, h l c g x r s hi hp hr hs⟩

/-- What a call knows does not depend on locks and numbers. -/
theorem Open.congr {c c' : Conf service} {g : Claims} (h : Open t a keys found saved c g)
    (hs : c'.state.seats = c.state.seats) : Open t a keys found saved c' g where
  owner := h.owner
  calls := h.calls
  found r hr := by
    rw [hs]
    exact h.found r hr
  saved := h.saved

/-- An operation that tells nothing. -/
theorem open_pass {o : Op} (ho : o.bystands = true) {E : Exception → L → (holdRules s₀).Fact}
    (he : ∀ e l, (holdRules s₀).Stable t j (E e l)) :
    (holdRules s₀).Holds t j (await o : Code sig L (Res o))
      (fun _ ↦ Open t a keys found saved) (fun _ _ ↦ Open t a keys found saved) E := by
  apply bystands_holds ho (fun _ _ ↦ open_stable) he
  exact fun l c g x r s _ hp _ hs ↦ hp.congr hs

/-- An operation that stands by keeps a committed call committed. -/
theorem committed_pass {o : Op} (ho : o.bystands = true)
    {E : Exception → L → (holdRules s₀).Fact}
    (he : ∀ e l, (holdRules s₀).Stable t j (E e l)) :
    (holdRules s₀).Holds t j (await o : Code sig L (Res o))
      (fun _ ↦ Committed t a) (fun _ _ ↦ Committed t a) E := by
  apply bystands_holds ho (fun _ _ ↦ committed_stable) he
  exact fun l c g x r s _ hp _ _ ↦ ⟨hp.owner, hp.calls⟩

/-! ### Locks -/

/-- A key belongs to nobody, or to a call. -/
def Claims.own (g : Claims) (key : String) (o : Option (Nat × HoldCall)) : Claims :=
  { g with owner := fun k ↦ if k = key then o else g.owner k }

/-- The key that is claimed has its new owner. -/
@[simp] theorem Claims.own_self (g : Claims) (key : String) (o : Option (Nat × HoldCall)) :
    (g.own key o).owner key = o := if_pos rfl

/-- Every other key keeps its owner. -/
theorem Claims.own_ne {g : Claims} {key k : String} {o : Option (Nat × HoldCall)} (h : k ≠ key) :
    (g.own key o).owner k = g.owner k := if_neg h

/-- A call that is not committed sets a free key, or deletes its own. -/
theorem Holding.relock {c : Conf service} {g : Claims} (h : Holding s₀ c g) {key : String}
    (o : Option (Nat × HoldCall)) (locks : Table SeatLock.key) (ev : Event service)
    (hev : ev.tid = t) (before : ∀ u b, g.owner key = some (u, b) → u = t)
    (uncommitted : ∀ b, (t, b) ∉ g.calls)
    (others : ∀ k, k ≠ key → locks.find k = c.state.locks.find k)
    (mine : ∀ u b, o = some (u, b) → u = t ∧ s₀.locks.find key = none ∧
      ∃ lock, locks.find key = some lock ∧ lock.Of b)
    (free : o = none → locks.find key = s₀.locks.find key) :
    Holding s₀ ⟨{ c.state with locks := locks }, ev :: c.log⟩ (g.own key o) ∧
      Changes t c g ⟨{ c.state with locks := locks }, ev :: c.log⟩ (g.own key o) := by
  constructor
  · constructor
    · intro k u b hk
      by_cases he : k = key
      · subst he
        rw [Claims.own_self] at hk
        exact (mine u b hk).2
      · rw [Claims.own_ne he] at hk
        show s₀.locks.find k = none ∧ ∃ lock, locks.find k = some lock ∧ _
        rw [others k he]
        exact h.locked k u b hk
    · intro k hk
      show locks.find k = _
      by_cases he : k = key
      · subst he
        rw [Claims.own_self] at hk
        exact free hk
      · rw [Claims.own_ne he] at hk
        rw [others k he]
        exact h.unlocked k hk
    · exact ⟨h.written.seats, h.written.holds⟩
    · exact h.numbered
    · exact h.numbers
    · exact h.next
    · exact h.threads
    · intro u b hb k hk
      have hne : k ≠ key := by
        intro he
        have owner := h.owned u b hb k hk
        rw [he] at owner
        exact uncommitted b (before u b owner ▸ hb)
      rw [Claims.own_ne hne]
      exact h.owned u b hb k hk
    · exact h.sold
    · intro u hu
      obtain ⟨howner, hcalls⟩ := h.unstarted u fun e he ↦ hu e (List.mem_cons_of_mem _ he)
      refine ⟨?_, hcalls⟩
      intro k b hk
      by_cases he : k = key
      · subst he
        rw [Claims.own_self] at hk
        exact hu ev List.mem_cons_self (hev.trans (mine u b hk).1.symm)
      · rw [Claims.own_ne he] at hk
        exact howner k b hk
  · constructor
    · intro k u b hu
      by_cases he : k = key
      · subst he
        rw [Claims.own_self]
        constructor
        · exact fun ho ↦ absurd (mine u b ho).1 hu
        · exact fun ho ↦ absurd (before u b ho) hu
      · rw [Claims.own_ne he]
    · exact fun n u _ hn ↦ hn
    · exact fun u b _ ↦ Iff.rfl
    · exact fun place _ ↦ rfl

/-- Setting a key, unless it is set. -/
theorem setNx_holds {lock : SeatLock} (hl : lock.Of a) {E : Exception → L → (holdRules s₀).Fact}
    (he : ∀ e l, (holdRules s₀).Stable t j (E e l)) :
    (holdRules s₀).Holds t j (await (.setNx lock) : Code sig L Bool)
      (fun _ ↦ Open t a keys [] [])
      (fun r _ c g ↦ (r = true → lock.key ∉ keys) ∧
        Open t a (if r = true then keys ++ [lock.key] else keys) [] [] c g) E := by
  apply await_holds
  · exact fun r l ↦ Rules.Stable.and (Rules.Stable.const _) open_stable
  · exact he
  · intro l c g x r s hi hp hr
    simp only [perform] at hr
    cases hf : c.state.locks.find lock.key with
    | some old =>
      simp only [hf, Option.isSome_some, if_true, Prod.mk.injEq, Except.ok.injEq] at hr
      obtain ⟨rfl, rfl⟩ := hr
      refine ⟨g, hi.event _ rfl rfl rfl rfl, .none _ rfl, ?_, ?_⟩
      · intro hc
        cases hc
      · exact hp.congr rfl
    | none =>
      simp only [hf, Option.isSome_none, Bool.false_eq_true, if_false, Prod.mk.injEq,
        Except.ok.injEq] at hr
      obtain ⟨rfl, rfl⟩ := hr
      have free : g.owner lock.key = none := by
        rw [Option.eq_none_iff_forall_ne_some]
        rintro ⟨u, b⟩ hu
        obtain ⟨-, old, hold, -⟩ := hi.locked _ _ _ hu
        rw [hf] at hold
        cases hold
      have start : s₀.locks.find lock.key = none := (hi.unlocked _ free).symm.trans hf
      have new : lock.key ∉ keys := by
        intro hm
        rw [(hp.owner _ a).mpr ⟨rfl, hm⟩] at free
        cases free
      obtain ⟨hi', hc⟩ := hi.relock (some (t, a)) (c.state.locks.put lock)
        ⟨t, j, .setNx lock, .ok true⟩ rfl
        (by simp [free]) hp.calls (fun k hk ↦ Table.find_put_of_ne _ (Ne.symm hk))
        (by
          rintro u b hu
          cases hu
          exact ⟨rfl, start, lock, Table.find_put_self _ _, hl⟩)
        (by
          intro ho
          cases ho)
      refine ⟨_, hi', hc, fun _ ↦ new, ?_⟩
      simp only [if_true]
      constructor
      · intro k b
        by_cases hk : k = lock.key
        · subst hk
          rw [Claims.own_self]
          simp [eq_comm]
        · rw [Claims.own_ne hk, hp.owner]
          simp [hk]
      · exact hp.calls
      · intro r hr
        cases hr
      · intro n hn
        cases hn

/-- Deleting a key that the call has set. -/
theorem del_holds {key : String} (hn : key ∉ keys) {E : Exception → L → (holdRules s₀).Fact}
    (he : ∀ e l, (holdRules s₀).Stable t j (E e l)) :
    (holdRules s₀).Holds t j (await (.del key) : Code sig L Unit)
      (fun _ ↦ Open t a (key :: keys) [] []) (fun _ _ ↦ Open t a keys [] []) E := by
  apply await_holds (fun _ _ ↦ open_stable) he
  intro l c g x r s hi hp hr
  simp only [perform, Prod.mk.injEq] at hr
  obtain ⟨-, rfl⟩ := hr
  have own : g.owner key = some (t, a) := (hp.owner _ _).mpr ⟨rfl, List.mem_cons_self⟩
  have start : s₀.locks.find key = none := (hi.locked _ _ _ own).1
  obtain ⟨hi', hc⟩ := hi.relock none (c.state.locks.erase key) ⟨t, j, .del key, .ok r⟩ rfl
    (by
      intro u b hu
      rw [own] at hu
      cases hu
      rfl)
    hp.calls (fun k hk ↦ by rw [Table.find_erase, if_neg hk])
    (by
      intro u b hu
      cases hu)
    (fun _ ↦ by rw [Table.find_erase, if_pos rfl, start])
  refine ⟨_, hi', hc, ?_, hp.calls, ?_, ?_⟩
  · intro k b
    by_cases hk : k = key
    · subst hk
      rw [Claims.own_self]
      simp [hn]
    · rw [Claims.own_ne hk, hp.owner]
      simp [hk]
  · intro r hr
    cases hr
  · intro n hn
    cases hn

/-- Reading a key that the call has set. -/
theorem get_holds {key : String} (hk : key ∈ keys) {E : Exception → L → (holdRules s₀).Fact}
    (he : ∀ e l, (holdRules s₀).Stable t j (E e l)) :
    (holdRules s₀).Holds t j (await (.get key) : Code sig L (Option SeatLock))
      (fun _ ↦ Open t a keys [] [])
      (fun r _ c g ↦ (∃ lock, r = some lock ∧ lock.userId = a.userId) ∧
        Open t a keys [] [] c g) E := by
  apply bystands_holds rfl
  · exact fun r l ↦ Rules.Stable.and (Rules.Stable.const _) open_stable
  · exact he
  · intro l c g x r s hi hp hr hs
    simp only [perform, Prod.mk.injEq, Except.ok.injEq] at hr
    obtain ⟨-, lock, hf, hu, -⟩ := hi.locked _ _ _ ((hp.owner _ _).mpr ⟨rfl, hk⟩)
    exact ⟨⟨lock, hr.1.symm.trans hf, hu⟩, hp.congr hs⟩

section Locks

variable {E : Exception → L → (holdRules s₀).Fact}
  (he : ∀ e l, (holdRules s₀).Stable t j (E e l))

include he

/-- Giving back the keys that were set. -/
theorem unlockEach_holds (hn : keys.Nodup) :
    (holdRules s₀).Holds t j (unlockEach keys : Code sig L Unit)
      (fun _ ↦ Open t a keys [] []) (fun _ _ ↦ Open t a [] [] []) E := by
  induction keys with
  | nil => exact Rules.Holds.ret _ fun _ _ _ _ h ↦ h
  | cons key rest ih =>
    rw [List.nodup_cons] at hn
    unfold unlockEach
    apply Rules.Holds.bind (del_holds hn.1 he)
    exact fun _ ↦ ih hn.2

/-- Releasing the keys of the call by their owner. -/
theorem releaseLocks_holds (seatIds : List String) (hn : seatIds.Nodup) (n : Nat) :
    (holdRules s₀).Holds t j (releaseLocks a.eventId a.userId seatIds n : Code sig L Nat)
      (fun _ ↦ Open t a (seatIds.map (lockKey a.eventId)) [] [])
      (fun _ _ ↦ Open t a [] [] []) E := by
  induction seatIds generalizing n with
  | nil => exact Rules.Holds.ret _ fun _ _ _ _ h ↦ h
  | cons seatId rest ih =>
    rw [List.nodup_cons] at hn
    have apart : lockKey a.eventId seatId ∉ rest.map (lockKey a.eventId) := by
      intro hm
      obtain ⟨s', hs', hk⟩ := List.mem_map.mp hm
      exact hn.1 (lockKey_inj hk ▸ hs')
    unfold releaseLocks
    apply Rules.Holds.bind (get_holds List.mem_cons_self he)
    intro r
    apply Rules.Holds.assume
    rintro ⟨lock, rfl, hu⟩
    simp only [if_pos hu]
    apply Rules.Holds.bind (del_holds apart he)
    exact fun _ ↦ ih hn.2 _

end Locks

/-- The calls that fail in an operation, which does not happen. -/
abbrev unlocked (t : Nat) (a : HoldCall) (_ : Exception) (_ : L) : (holdRules s₀).Fact :=
  Open t a [] [] []

/-- Setting the keys one after another: where none fails all are set. -/
theorem lockEach_holds (seatIds failed : List String) (hn : keys.Nodup) :
    (holdRules s₀).Holds t j (lockEach a.eventId a.userId a.sessionId seatIds keys failed)
      (fun _ ↦ Open t a keys [] [])
      (fun r _ c g ↦ (r.1.Nodup ∧
        (r.2 = [] → failed = [] ∧ r.1 = keys ++ seatIds.map (lockKey a.eventId))) ∧
          Open t a r.1 [] [] c g) (unlocked t a) := by
  induction seatIds generalizing keys failed with
  | nil =>
    apply Rules.Holds.ret
    intro l c g _ h
    exact ⟨⟨hn, fun hf ↦ ⟨hf, by simp⟩⟩, h⟩
  | cons seatId rest ih =>
    have stable : ∀ (e : Exception) (l : Unit), (holdRules s₀).Stable t j (unlocked t a e l) :=
      fun _ _ ↦ open_stable
    unfold lockEach
    apply Rules.Holds.bind (open_pass rfl stable)
    intro lockedAt
    apply Rules.Holds.bind (setNx_holds ⟨rfl, rfl⟩ stable)
    intro locked
    cases locked with
    | true =>
      simp only [if_true, true_implies]
      apply Rules.Holds.assume
      intro new
      have nodup : (keys ++ [lockKey a.eventId seatId]).Nodup := by
        rw [List.nodup_append]
        refine ⟨hn, by simp, ?_⟩
        intro k hk k' hk' he
        rw [List.mem_singleton] at hk'
        exact new (hk' ▸ he ▸ hk)
      apply (ih failed nodup).post
      · rintro r l c g _ ⟨⟨hr, hf⟩, h⟩
        refine ⟨⟨hr, fun he ↦ ⟨(hf he).1, ?_⟩⟩, h⟩
        rw [(hf he).2]
        simp
      · exact fun _ _ _ _ _ h ↦ h
    | false =>
      simp only [Bool.false_eq_true, if_false, false_implies, true_and]
      apply (ih (failed ++ [seatId]) hn).post
      · rintro r l c g _ ⟨⟨hr, hf⟩, h⟩
        refine ⟨⟨hr, fun he ↦ ?_⟩, h⟩
        have := (hf he).1
        simp at this
      · exact fun _ _ _ _ _ h ↦ h

/-- Either all seats of the call are locked, and they are different, or none. -/
theorem lockSeats_holds :
    (holdRules s₀).Holds t j (lockSeats a.eventId a.seatIds a.userId a.sessionId)
      (fun _ ↦ Open t a [] [] [])
      (fun failed _ c g ↦ (failed = [] → a.seatIds.Nodup) ∧
        Open t a (if failed = [] then a.keys else []) [] [] c g) (unlocked t a) := by
  unfold lockSeats
  apply Rules.Holds.bind (lockEach_holds a.seatIds [] List.nodup_nil)
  rintro ⟨keys, failed⟩
  apply Rules.Holds.assume
  rintro ⟨hn, hf⟩
  dsimp only at hn hf ⊢
  cases failed with
  | nil =>
    obtain ⟨-, rfl⟩ := hf rfl
    apply Rules.Holds.ret
    intro l c g _ h
    exact ⟨fun _ ↦ HoldCall.nodup_of_keys hn, h⟩
  | cons seatId rest =>
    simp only [List.isEmpty_cons, Bool.false_eq_true, if_false]
    apply Rules.Holds.bind (unlockEach_holds (fun _ _ ↦ open_stable) hn)
    intro _
    apply Rules.Holds.ret
    intro l c g _ h
    exact ⟨fun he ↦ (by cases he), h⟩

/-! ### The transaction -/

/-- Looking for the seats of the call, which are locked. -/
theorem find_holds {E : Exception → L → (holdRules s₀).Fact}
    (he : ∀ e l, (holdRules s₀).Stable t j (E e l)) :
    (holdRules s₀).Holds t j (await (.findBySeatIds a.eventId a.seatIds) : Code sig L (List Seat))
      (fun _ ↦ Open t a a.keys [] [])
      (fun rows _ c g ↦ ((rows.map Seat.place).Nodup ∧ ∀ r ∈ rows, r.place ∈ a.places) ∧
        Open t a a.keys rows [] c g) E := by
  apply bystands_holds rfl
  · exact fun r l ↦ Rules.Stable.and (Rules.Stable.const _) open_stable
  · exact he
  · intro l c g x rows s hi hp hr hs
    simp only [perform, Prod.mk.injEq, Except.ok.injEq] at hr
    have lookup : rows = a.lookup c.state := hr.1.symm
    subst lookup
    refine ⟨⟨a.nodup_lookup _, fun r hm ↦ (HoldCall.mem_lookup.mp hm).2⟩, hp.owner, hp.calls, ?_,
      hp.saved⟩
    intro r hm
    obtain ⟨hrow, hplace⟩ := HoldCall.mem_lookup.mp hm
    rw [hs]
    refine ⟨Table.find_of_mem hrow, ?_⟩
    rw [HoldCall.keys_eq]
    exact List.mem_map_of_mem hplace

/-- Saving the seats of the call: all of them differ from the stored ones. -/
theorem save_holds (ha : ∀ r ∈ found, r.status = .available)
    {E : Exception → L → (holdRules s₀).Fact} (he : ∀ e l, (holdRules s₀).Stable t j (E e l)) :
    (holdRules s₀).Holds t j (await (.statement (.seats (found.map Seat.held))) : Code sig L Write)
      (fun _ ↦ Open t a keys found saved)
      (fun w _ c g ↦ w = .seats (found.map Seat.held) ∧ Open t a keys found saved c g) E := by
  apply bystands_holds rfl
  · exact fun r l ↦ Rules.Stable.and (Rules.Stable.const _) open_stable
  · exact he
  · intro l c g x w s _ hp hr hs
    simp only [perform, Prod.mk.injEq, Except.ok.injEq] at hr
    exact ⟨hr.1 ▸ changes_held (fun r hm ↦ (hp.found r hm).1) ha, hp.congr hs⟩

/-- The hold entities: one for each seat of the call, all of which were found. -/
theorem newHolds_holds {P : L → (holdRules s₀).Fact} (expiresAt : Nat) (seatIds : List String) :
    (holdRules s₀).Holds t j
      (newHolds a.eventId a.userId a.sessionId expiresAt found seatIds : Code sig L _) P
      (fun holds l c g ↦ ((∀ seatId ∈ seatIds, ∃ r ∈ found, r.seatId = seatId) ∧
        holds.map SeatHold.content = { a with seatIds := seatIds }.holdsOf found) ∧ P l c g)
      (fun _ ↦ P) := by
  induction seatIds with
  | nil =>
    apply Rules.Holds.ret
    intro l c g _ h
    refine ⟨⟨?_, rfl⟩, h⟩
    intro seatId hm
    cases hm
  | cons seatId rest ih =>
    unfold newHolds
    cases hf : found.find? fun inv ↦ inv.seatId = seatId with
    | none => exact Rules.Holds.raise _ fun _ _ _ _ h ↦ h
    | some inv =>
      apply Rules.Holds.bind ih
      intro holds
      apply Rules.Holds.assume
      rintro ⟨hall, hc⟩
      apply Rules.Holds.ret
      intro l c g _ h
      refine ⟨⟨?_, ?_⟩, h⟩
      · intro seatId' hm
        rcases List.mem_cons.mp hm with rfl | hm
        · exact ⟨inv, List.mem_of_find?_eq_some hf, by simpa using List.find?_some hf⟩
        · exact hall seatId' hm
      · rw [List.map_cons, hc]
        simp [HoldCall.holdsOf, hf, SeatHold.content, HoldCall.hold]

/-- Numbering the hold entities: no other call gets these numbers. -/
theorem insertHolds_holds (rows : List SeatHold) {E : Exception → L → (holdRules s₀).Fact}
    (he : ∀ e l, (holdRules s₀).Stable t j (E e l)) :
    (holdRules s₀).Holds t j (await (.insertHolds rows) : Code sig L (List SeatHold))
      (fun _ ↦ Open t a keys found [])
      (fun saved _ c g ↦ (∃ n, saved = numbered n rows) ∧
        Open t a keys found (saved.map SeatHold.id) c g) E := by
  apply await_holds
  · exact fun r l ↦ Rules.Stable.and (Rules.Stable.const _) open_stable
  · exact he
  · intro l c g x saved s hi hp hr
    simp only [perform, Prod.mk.injEq, Except.ok.injEq] at hr
    obtain ⟨rfl, rfl⟩ := hr
    let n := c.state.nextId
    let g' : Claims := { g with
      number := fun i ↦ if n ≤ i ∧ i < n + rows.length then some t else g.number i }
    have kept : ∀ i u, g.number i = some u → g'.number i = some u := by
      intro i u hu
      have hlt : i < n := (hi.numbers i u hu).2
      show (if _ then _ else _) = _
      rw [if_neg fun h ↦ Nat.not_lt.mpr h.1 hlt]
      exact hu
    refine ⟨g', ?_, ?_, ⟨n, rfl⟩, ?_⟩
    · constructor
      · exact hi.locked
      · exact hi.unlocked
      · exact ⟨hi.written.seats, hi.written.holds⟩
      · intro hold hm
        rcases hi.numbered hold hm with hlt | ⟨u, b, hu, hb⟩
        · exact .inl hlt
        · exact .inr ⟨u, b, kept _ _ hu, hb⟩
      · intro i u hu
        show _ ∧ i < n + rows.length
        simp only [g'] at hu
        split at hu
        · next h => exact ⟨Nat.le_trans hi.next h.1, h.2⟩
        · obtain ⟨hle, hlt⟩ := hi.numbers i u hu
          exact ⟨hle, Nat.lt_of_lt_of_le hlt (Nat.le_add_right _ _)⟩
      · exact Nat.le_trans hi.next (Nat.le_add_right _ _)
      · exact hi.threads
      · exact hi.owned
      · exact hi.sold
      · exact fun u hu ↦ hi.unstarted u fun e he ↦ hu e (List.mem_cons_of_mem _ he)
    · exact ⟨fun _ _ _ _ ↦ Iff.rfl, fun i u _ hu ↦ kept i u hu, fun _ _ _ ↦ Iff.rfl,
        fun _ _ ↦ rfl⟩
    · refine ⟨hp.owner, hp.calls, hp.found, ?_⟩
      intro i hm
      rw [numbered_ids, List.mem_range'_1] at hm
      exact if_pos hm

/-- The committed calls, with one more of a thread. -/
def Claims.commit (g : Claims) (t : Nat) (a : HoldCall) : Claims :=
  { g with calls := g.calls ++ [(t, a)] }

/-- A committed call was committed before or is the new one. -/
theorem Claims.mem_commit {g : Claims} {u : Nat} {b : HoldCall} :
    (u, b) ∈ (g.commit t a).calls ↔ (u, b) ∈ g.calls ∨ u = t ∧ b = a := by
  simp [Claims.commit]

section Commit

variable {c : Conf service} {g : Claims} {holds : List SeatHold}

/-- No hold is stored under the identifiers that a call was given. -/
theorem Open.unused (hp : Open t a keys found (holds.map SeatHold.id) c g) (hi : Holding s₀ c g) :
    ∀ hold ∈ holds, c.state.holds.find hold.id = none := by
  intro hold hm
  have mine := hp.saved _ (List.mem_map_of_mem hm)
  rw [Option.eq_none_iff_forall_ne_some]
  intro old hf
  obtain ⟨hmem, hid⟩ := Table.find_eq_some_iff.mp hf
  rcases hi.numbered old hmem with hlt | ⟨u, b, hu, hb⟩
  · rw [hid] at hlt
    exact absurd hlt (Nat.not_lt.mpr (hi.numbers _ _ mine).1)
  · rw [hid, mine] at hu
    cases hu
    exact hp.calls b hb

/-- The rows after the commit of a call are those of the committed calls. -/
theorem Open.written (hp : Open t a keys found (holds.map SeatHold.id) c g)
    (hi : Holding s₀ c g) (chosen : Chosen c.state a found)
    (contents : holds.map SeatHold.content = a.holdsOf found)
    (ids : (holds.map SeatHold.id).Nodup) :
    Written s₀ ((g.commit t a).calls.map Prod.snd)
      ([.seats (found.map Seat.held), .holds holds].foldl Db.write c.state) := by
  have calls : (g.commit t a).calls.map Prod.snd = g.calls.map Prod.snd ++ [a] := by
    simp [Claims.commit]
  rw [calls]
  exact hi.written.commit chosen (contents.trans chosen.holdsOf_eq) ids (hp.unused hi)

/-- Every stored hold has a number from before, or one that a committed call was given. -/
theorem Open.numbered (hp : Open t a keys found (holds.map SeatHold.id) c g)
    (hi : Holding s₀ c g) (ids : (holds.map SeatHold.id).Nodup) :
    ∀ hold ∈ (c.state.holds.putAll holds).rows, hold.id < s₀.nextId ∨
      ∃ u b, g.number hold.id = some u ∧ (u, b) ∈ (g.commit t a).calls := by
  intro hold hm
  rw [Table.rows_putAll_of_fresh ids (hp.unused hi), List.mem_append] at hm
  rcases hm with stored | new
  · rcases hi.numbered hold stored with hlt | ⟨u, b, hu, hb⟩
    · exact .inl hlt
    · exact .inr ⟨u, b, hu, Claims.mem_commit.mpr (.inl hb)⟩
  · exact .inr ⟨t, a, hp.saved _ (List.mem_map_of_mem new), Claims.mem_commit.mpr (.inr ⟨rfl, rfl⟩)⟩

/-- The seats that a call found on sale were so from the start. -/
theorem Holding.onSale (hi : Holding s₀ c g) (chosen : Chosen c.state a found) :
    ∀ place ∈ a.places, ∃ r, s₀.seats.find place = some r ∧ r.status = .available := by
  intro place hm
  obtain ⟨r, hr, rfl⟩ := List.mem_map.mp ((chosen.places place).mpr hm)
  have available := chosen.available r hr
  exact ⟨r, (hi.written.available (chosen.stored r hr) available).1, available⟩

/-- The commit of a call that has found all its seats on sale keeps what holds. -/
theorem Holding.commit (hi : Holding s₀ c g)
    (hp : Open t a a.keys found (holds.map SeatHold.id) c g) (hn : a.seatIds.Nodup)
    (chosen : Chosen c.state a found) (contents : holds.map SeatHold.content = a.holdsOf found)
    (ids : (holds.map SeatHold.id).Nodup) (ev : Event service) (hev : ev.tid = t) :
    Holding s₀ ⟨[.seats (found.map Seat.held), .holds holds].foldl Db.write c.state, ev :: c.log⟩
      (g.commit t a) where
  locked := hi.locked
  unlocked := hi.unlocked
  written := ⟨(hp.written hi chosen contents ids).seats, (hp.written hi chosen contents ids).holds⟩
  numbered := hp.numbered hi ids
  numbers := hi.numbers
  next := hi.next
  threads := by
    show ((g.calls ++ [(t, a)]).map Prod.fst).Nodup
    rw [List.map_append, List.nodup_append]
    refine ⟨hi.threads, by simp, ?_⟩
    intro u hu u' hu' he
    obtain ⟨⟨u, b⟩, hb, rfl⟩ := List.mem_map.mp hu
    simp only [List.map_cons, List.map_nil, List.mem_singleton] at hu'
    exact hp.calls b ((he.trans hu') ▸ hb)
  owned u b hb key hk := by
    rcases Claims.mem_commit.mp hb with hb | ⟨rfl, rfl⟩
    · exact hi.owned u b hb key hk
    · exact (hp.owner key b).mpr ⟨rfl, hk⟩
  sold u b hb := by
    rcases Claims.mem_commit.mp hb with hb | ⟨rfl, rfl⟩
    · exact hi.sold u b hb
    · exact ⟨hn, hi.onSale chosen⟩
  unstarted u hu := by
    obtain ⟨howner, hcalls⟩ := hi.unstarted u fun e he ↦ hu e (List.mem_cons_of_mem _ he)
    refine ⟨howner, ?_⟩
    intro b hb
    rcases Claims.mem_commit.mp hb with hb | ⟨rfl, rfl⟩
    · exact hcalls b hb
    · exact hu _ List.mem_cons_self hev

/-- The commit of a call changes its own seats alone. -/
theorem Changes.commit (hi : Holding s₀ c g)
    (hp : Open t a a.keys found (holds.map SeatHold.id) c g) {s : Db}
    (written : Written s₀ ((g.commit t a).calls.map Prod.snd) s) (ev : Event service) :
    Changes t c g ⟨s, ev :: c.log⟩ (g.commit t a) where
  owner _ _ _ _ := Iff.rfl
  number _ _ _ h := h
  calls u b hu := by
    rw [Claims.mem_commit]
    simp [hu]
  seats place hplace := by
    have apart : place ∉ a.places := by
      intro hm
      have key : placeKey place ∈ a.keys := by
        rw [HoldCall.keys_eq]
        exact List.mem_map_of_mem hm
      exact hplace a ((hp.owner _ a).mpr ⟨rfl, key⟩)
    show s.seats.find place = _
    rw [written.find, hi.written.find]
    cases hf : s₀.seats.find place with
    | none => rfl
    | some r =>
      have hr : r.place = place := (Table.find_eq_some_iff.mp hf).2
      have same : r.place ∈ taken ((g.commit t a).calls.map Prod.snd) ↔
          r.place ∈ taken (g.calls.map Prod.snd) := by
        rw [hr]
        simp [taken, Claims.commit, apart]
      simp only [Option.map_some, Seat.heldAmong, same]

end Commit

/-- The commit of a call that has found all its seats on sale. -/
theorem commit_holds {saved : List SeatHold} (hn : a.seatIds.Nodup)
    (hnodup : (found.map Seat.place).Nodup) (hplaces : ∀ place, place ∈ found.map Seat.place ↔
      place ∈ a.places) (havail : ∀ r ∈ found, r.status = .available)
    (hsaved : saved.map SeatHold.content = a.holdsOf found)
    (hids : (saved.map SeatHold.id).Nodup) {E : Exception → L → (holdRules s₀).Fact}
    (he : ∀ e l, (holdRules s₀).Stable t j (E e l)) :
    (holdRules s₀).Holds t j
      (await (.commit [.seats (found.map Seat.held), .holds saved]) : Code sig L Unit)
      (fun _ ↦ Open t a a.keys found (saved.map SeatHold.id)) (fun _ _ ↦ Committed t a) E := by
  apply await_holds (fun _ _ ↦ committed_stable) he
  intro l c g x r s hi hp hr
  simp only [perform, Prod.mk.injEq] at hr
  obtain ⟨-, rfl⟩ := hr
  have chosen : Chosen c.state a found :=
    ⟨fun r hr ↦ (hp.found r hr).1, hnodup, hplaces, havail⟩
  exact ⟨g.commit t a, hi.commit hp hn chosen hsaved hids _ rfl,
    .commit hi hp (hp.written hi chosen hsaved hids) _,
    hp.owner, Claims.mem_commit.mpr (.inr ⟨rfl, rfl⟩)⟩

/-- The transaction of a call whose seats are locked: it is committed, or throws before. -/
theorem holdTransaction_holds (hn : a.seatIds.Nodup) :
    (holdRules s₀).Holds t j
      (holdTransaction a.eventId a.seatIds a.userId a.sessionId)
      (fun l c g ↦ l = true ∧ Open t a a.keys [] [] c g) (fun _ _ ↦ Committed t a)
      (fun _ l c g ↦ l = true ∧ Open t a a.keys [] [] c g) := by
  have stable : ∀ (e : Exception) (l : Bool), (holdRules s₀).Stable t j
      (fun c g ↦ l = true ∧ Open t a a.keys [] [] c g) :=
    fun _ _ ↦ Rules.Stable.and (Rules.Stable.const _) open_stable
  unfold holdTransaction
  apply Rules.Holds.bind (Rules.Holds.awaitAs true (find_holds stable))
  intro rows
  apply Rules.Holds.assumeAs
  rintro ⟨hnodup, hwithin⟩
  dsimp only
  split
  · apply Rules.Holds.raise
    exact fun l c g _ h ↦ ⟨h.1, h.2.forget⟩
  next hall =>
  have havail : ∀ r ∈ rows, r.status = .available := available_of_isEmpty (not_not.mp hall)
  apply Rules.Holds.bind (Rules.Holds.awaitAs true (save_holds havail stable))
  intro updated
  apply Rules.Holds.assumeAs
  rintro rfl
  apply Rules.Holds.bind (Rules.Holds.awaitAs true (open_pass rfl stable))
  intro now
  apply Rules.Holds.bind
  · apply (newHolds_holds _ _).post
    · exact fun _ _ _ _ _ h ↦ h
    · exact fun _ l c g _ h ↦ ⟨h.1, h.2.forget⟩
  intro holds
  apply Rules.Holds.assume
  rintro ⟨hall, hc⟩
  apply Rules.Holds.bind (Rules.Holds.awaitAs true (insertHolds_holds holds stable))
  intro saved
  apply Rules.Holds.assumeAs
  rintro ⟨n, rfl⟩
  have hplaces : ∀ place, place ∈ rows.map Seat.place ↔ place ∈ a.places := by
    intro place
    constructor
    · intro hm
      obtain ⟨r, hr, rfl⟩ := List.mem_map.mp hm
      exact hwithin r hr
    · intro hm
      obtain ⟨seatId, hs, rfl⟩ := List.mem_map.mp hm
      obtain ⟨r, hr, rfl⟩ := hall seatId hs
      obtain ⟨_, -, he⟩ := List.mem_map.mp (hwithin r hr)
      have event : a.eventId = r.eventId := congrArg Prod.fst he
      exact List.mem_map.mpr ⟨r, hr, by rw [event]; rfl⟩
  have hids : ((numbered n holds).map SeatHold.id).Nodup := by
    rw [numbered_ids]
    exact List.nodup_range'
  apply Rules.Holds.bind (I := fun _ _ ↦ Committed t a)
  · unfold commitTransaction
    apply Rules.Holds.bind (I := fun _ _ ↦ Committed t a)
    · apply (commit_holds hn hnodup hplaces havail ((numbered_content n holds).trans hc) hids
        stable).pre
      exact fun l c g _ h ↦ h.2
    intro _
    exact Rules.Holds.assign _ fun _ _ _ _ h ↦ h
  intro _
  apply Rules.Holds.bind (committed_pass rfl stable)
  intro _
  exact Rules.Holds.ret _ fun _ _ _ _ h ↦ h

/-- A call that succeeds was committed; a call that fails has no key and was not committed. -/
theorem holdSeats_holds :
    (holdRules s₀).Holds t j (holdSeats a.eventId a.seatIds a.userId a.sessionId)
      (fun _ ↦ Open t a [] [] []) (fun _ _ ↦ Committed t a) (fun _ _ ↦ Open t a [] [] []) := by
  have stable : ∀ {L : Type} (e : Exception) (l : L),
      (holdRules s₀).Stable t j (Open t a [] [] []) := fun _ _ ↦ open_stable
  unfold holdSeats
  apply Rules.Holds.bind lockSeats_holds
  intro failed
  apply Rules.Holds.assume
  intro hn
  cases failed with
  | cons seatId rest =>
    exact Rules.Holds.raise _ fun _ _ _ _ h ↦ h
  | nil =>
    apply Rules.Holds.bind (open_pass rfl stable)
    intro _
    apply Rules.Holds.on
    intro _
    apply Rules.Holds.tryCatch (holdTransaction_holds (hn rfl))
    intro error
    apply Rules.Holds.bind (I := fun _ _ ↦ Open t a a.keys [] [])
    · unfold rollbackTransaction
      apply Rules.Holds.readAs
      apply (open_pass rfl stable).pre
      exact fun l c g _ h ↦ h.2
    intro _
    apply Rules.Holds.bind (releaseLocks_holds stable a.seatIds (hn rfl) 0)
    intro _
    exact Rules.Holds.raise _ fun _ _ _ _ h ↦ h

end Ticketing.SeatInventory
