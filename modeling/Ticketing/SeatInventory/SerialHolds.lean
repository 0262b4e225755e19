import Ticketing.Async.Play
import Ticketing.SeatInventory.Alone
import Ticketing.SeatInventory.Holding

/-!
# Concurrent holds are serializable

Library `SeatInventory`. When all concurrent calls of `holdSeats` have ended, the stores are
as if only the successful ones had run, one after another and in any order.
-/

namespace Ticketing.SeatInventory

open Async Store

/-- The stores after calls that run one after another and all succeed. -/
def serially (x : Nat → Op → Choice) : List HoldCall → Nat → Db → Option Db
  | [], _, s => some s
  | a :: rest, n, s =>
    match (holdSeats a.eventId a.seatIds a.userId a.sessionId).exec (deciding x) n () s with
    | ⟨.ok _, _, m, s'⟩ => serially x rest m s'
    | ⟨.error _, _, _, _⟩ => none

/-- A lock without its timestamp. -/
def SeatLock.content (lock : SeatLock) : SeatLock := { lock with lockedAt := 0 }

/-- The seats, the holds and the locks are the same up to generated identifiers and
timestamps. -/
structure SameHolds (s s' : Db) : Prop where
  seats : s.seats = s'.seats
  holds : (s.holds.rows.map SeatHold.content).Perm (s'.holds.rows.map SeatHold.content)
  locks : ∀ key, (s.locks.find key).map SeatLock.content = (s'.locks.find key).map SeatLock.content

/-- A list, in any order, of the threads that succeeded with their calls. -/
structure Successes (p : Pool service) (calls : List (Nat × HoldCall)) : Prop where
  nodup : calls.Nodup
  mem : ∀ t a, (t, a) ∈ calls ↔ ∃ reply, p.At t a.job (.ret (.ok reply))

/-- The call of a thread that has succeeded. -/
def succeeded : Job × service.Program → Option HoldCall
  | (.holdSeats e ids u n, .ret (.ok _)) => some ⟨e, ids, u, n⟩
  | _ => none

/-- The thread ran the call, and replied. -/
theorem succeeded_eq_some {j : Job} {q : service.Program} {a : HoldCall} :
    succeeded (j, q) = some a ↔ j = a.job ∧ ∃ reply, q = .ret (.ok reply) := by
  constructor
  · intro h
    unfold succeeded at h
    split at h
    · next heq =>
      cases h
      cases heq
      exact ⟨rfl, _, rfl⟩
    · cases h
  · rintro ⟨rfl, reply, rfl⟩
    rfl

/-- The calls that succeeded, in the order in which they arrived. -/
def successes (p : Pool service) : List (Nat × HoldCall) :=
  p.threads.zipIdx.filterMap fun (thread, t) ↦ (succeeded thread).map fun a ↦ (t, a)

/-- The listed successes are the calls that returned. -/
theorem successes_spec (p : Pool service) : Successes p (successes p) where
  nodup := by
    have indices : (p.threads.zipIdx.map Prod.snd).Nodup := by
      rw [List.zipIdx_map_snd]
      exact List.nodup_range'
    apply List.Pairwise.filterMap _ _ (List.pairwise_map.mp indices)
    rintro ⟨thread, t⟩ ⟨thread', t'⟩ hne c hc c' hc' rfl
    obtain ⟨a, -, rfl⟩ := Option.map_eq_some_iff.mp hc
    obtain ⟨a', -, he⟩ := Option.map_eq_some_iff.mp hc'
    exact hne (congrArg Prod.fst he).symm
  mem t a := by
    unfold successes
    rw [List.mem_filterMap]
    constructor
    · rintro ⟨⟨⟨j, q⟩, t'⟩, hm, hs⟩
      obtain ⟨a', ha, he⟩ := Option.map_eq_some_iff.mp hs
      cases he
      obtain ⟨rfl, reply, rfl⟩ := succeeded_eq_some.mp ha
      exact ⟨reply, List.mem_zipIdx_iff_getElem?.mp hm⟩
    · rintro ⟨reply, hat⟩
      exact ⟨((a.job, .ret (.ok reply)), t), List.mem_zipIdx_iff_getElem?.mpr hat, rfl⟩

/-- What is left is what the successful calls leave that run alone, one after another. -/
structure Serializable (s₀ : Db) (p : Pool service) (calls : List (Nat × HoldCall)) : Prop where
  disjoint : calls.Pairwise fun c c' ↦ ∀ place ∈ c.2.places, place ∉ c'.2.places
  distinct : ∀ c ∈ calls, c.2.places.Nodup
  available : ∀ c ∈ calls, ∀ place ∈ c.2.places,
    ∃ r, s₀.seats.find place = some r ∧ r.status = .available
  serial : ∀ x : Nat → Op → Choice, (∀ n o, (x n o).fault = none) →
    ∃ s, serially x (calls.map Prod.snd) 0 s₀ = some s ∧ SameHolds p.conf.state s

/-- The stores after some calls were committed, when no other call holds a lock. -/
structure After (s₀ : Db) (calls : List HoldCall) (s : Db) : Prop extends Written s₀ calls s where
  taken : ∀ a ∈ calls, ∀ key ∈ a.keys, ∃ lock, s.locks.find key = some lock ∧ lock.Of a
  free : ∀ key, (∀ a ∈ calls, key ∉ a.keys) → s.locks.find key = s₀.locks.find key

/-- The same calls in any order leave the same holds. -/
theorem After.same {s₀ s s' : Db} {calls calls' : List HoldCall} (h : After s₀ calls s)
    (h' : After s₀ calls' s') (hp : calls.Perm calls') : SameHolds s s' := by
  have w : Written s₀ calls' s := h.toWritten.perm hp
  constructor
  · exact Table.ext (w.seats.trans h'.seats.symm)
  · obtain ⟨new, hrows, hnew⟩ := w.holds
    obtain ⟨new', hrows', hnew'⟩ := h'.holds
    rw [hrows, hrows', List.map_append, List.map_append]
    exact (hnew.trans hnew'.symm).append_left _
  · intro key
    by_cases hk : ∃ a ∈ calls, key ∈ a.keys
    · obtain ⟨a, ha, hk⟩ := hk
      obtain ⟨lock, hf, hu, hs⟩ := h.taken a ha key hk
      obtain ⟨lock', hf', hu', hs'⟩ := h'.taken a (hp.mem_iff.mp ha) key hk
      have key_eq : lock.key = lock'.key :=
        (Table.find_eq_some_iff.mp hf).2.trans (Table.find_eq_some_iff.mp hf').2.symm
      rw [hf, hf']
      simp [SeatLock.content, key_eq, hu, hs, hu', hs']
    · have free : ∀ a ∈ calls, key ∉ a.keys := fun a ha hm ↦ hk ⟨a, ha, hm⟩
      rw [h.free key free, h'.free key fun a ha ↦ free a (hp.mem_iff.mpr ha)]

/-! ### One call alone -/

variable {x : Nat → Op → Choice} {a : HoldCall}

/-- Free keys are set one after another. -/
theorem lockEach_alone (hx : ∀ n o, (x n o).fault = none) (seatIds keys failed : List String)
    (n : Nat) (s : Db) (hn : seatIds.Nodup)
    (hf : ∀ seatId ∈ seatIds, s.locks.find (lockKey a.eventId seatId) = none) :
    ∃ m locks, (lockEach a.eventId a.userId a.sessionId seatIds keys failed).exec (deciding x) n ()
        s = ⟨.ok (keys ++ seatIds.map (lockKey a.eventId), failed), (), m, { s with locks }⟩ ∧
      (∀ key ∈ seatIds.map (lockKey a.eventId), ∃ lock, locks.find key = some lock ∧ lock.Of a) ∧
      ∀ key ∉ seatIds.map (lockKey a.eventId), locks.find key = s.locks.find key := by
  induction seatIds generalizing keys n s with
  | nil =>
    refine ⟨n, s.locks, by simp [lockEach], ?_, fun _ _ ↦ rfl⟩
    intro key hk
    cases hk
  | cons seatId rest ih =>
    rw [List.nodup_cons] at hn
    let lock : SeatLock :=
      ⟨lockKey a.eventId seatId, a.userId, a.sessionId, (x n .now).now⟩
    have apart : ∀ seatId' ∈ rest, lock.key ≠ lockKey a.eventId seatId' :=
      fun seatId' hm he ↦ hn.1 (lockKey_inj he ▸ hm)
    have free : ∀ seatId' ∈ rest,
        (s.locks.put lock).find (lockKey a.eventId seatId') = none := by
      intro seatId' hm
      rw [Table.find_put_of_ne _ (apart seatId' hm)]
      exact hf seatId' (List.mem_cons_of_mem _ hm)
    obtain ⟨m, locks, he, hmine, hothers⟩ :=
      ih (keys ++ [lock.key]) (n + 2) { s with locks := s.locks.put lock } hn.2 free
    refine ⟨m, locks, ?_, ?_, ?_⟩
    · simp only [lock] at he
      simp [lockEach, deciding_apply hx, perform, hf seatId List.mem_cons_self, he]
    · intro key hk
      by_cases hr : key ∈ rest.map (lockKey a.eventId)
      · exact hmine key hr
      · have hkey : key = lock.key := (List.mem_cons.mp hk).resolve_right hr
        refine ⟨lock, ?_, rfl, rfl⟩
        rw [hothers key hr, hkey]
        exact Table.find_put_self s.locks lock
    · intro key hk
      rw [List.map_cons, List.mem_cons, not_or] at hk
      rw [hothers key hk.2]
      exact Table.find_put_of_ne s.locks (Ne.symm hk.1)

/-- The hold entities of seats that were all found. -/
theorem newHolds_found {L : Type} (expiresAt : Nat) (found : List Seat) (seatIds : List String)
    (h : ∀ seatId ∈ seatIds, ∃ r ∈ found, r.seatId = seatId) :
    ∃ holds, (newHolds a.eventId a.userId a.sessionId expiresAt found seatIds : Code sig L _) =
        pure holds ∧
      holds.map SeatHold.content = { a with seatIds := seatIds }.holdsOf found := by
  induction seatIds with
  | nil => exact ⟨[], rfl, rfl⟩
  | cons seatId rest ih =>
    obtain ⟨holds, he, hc⟩ := ih fun seatId' hm ↦ h seatId' (List.mem_cons_of_mem _ hm)
    obtain ⟨r, hr, hs⟩ := h seatId List.mem_cons_self
    have there : (found.find? fun inv ↦ inv.seatId = seatId).isSome := by
      rw [List.find?_isSome]
      exact ⟨r, hr, decide_eq_true hs⟩
    obtain ⟨inv, hinv⟩ := Option.isSome_iff_exists.mp there
    let hold : SeatHold := { a.hold inv.id seatId with expiresAt := expiresAt }
    refine ⟨hold :: holds, ?_, ?_⟩
    · unfold newHolds
      rw [hinv, he]
      rfl
    · rw [List.map_cons, hc]
      simp [HoldCall.holdsOf, hinv, hold, SeatHold.content, HoldCall.hold]

private theorem numbered_unused {s : Db} (hs : s.Numbered) (holds : List SeatHold) :
    ∀ hold ∈ numbered s.nextId holds, s.holds.find hold.id = none := by
  intro hold hm
  have range : hold.id ∈ (numbered s.nextId holds).map SeatHold.id := List.mem_map_of_mem hm
  rw [numbered_ids, List.mem_range'_1] at range
  rw [Option.eq_none_iff_forall_ne_some]
  intro old ho
  obtain ⟨stored, hid⟩ := Table.find_eq_some_iff.mp ho
  have hlt : old.id < s.nextId := hs old stored
  rw [hid] at hlt
  exact absurd hlt (Nat.not_lt.mpr range.1)

private theorem numbered_putAll {s : Db} (hs : s.Numbered) (holds : List SeatHold) :
    ∀ hold ∈ (s.holds.putAll (numbered s.nextId holds)).rows,
      hold.id < s.nextId + holds.length := by
  intro hold hm
  rcases Table.mem_of_mem_putAll hm with new | old
  · have range : hold.id ∈ (numbered s.nextId holds).map SeatHold.id := List.mem_map_of_mem new
    rw [numbered_ids, List.mem_range'_1] at range
    exact range.2
  · exact Nat.lt_of_lt_of_le (hs hold old) (Nat.le_add_right _ _)

/-- A call whose seats are different, on sale and not locked succeeds. -/
theorem holdSeats_alone (hx : ∀ n o, (x n o).fault = none) (n : Nat) {s₀ s : Db}
    {calls : List HoldCall} (hs : s.Numbered) (h : After s₀ calls s) (hn : a.seatIds.Nodup)
    (hk : ∀ key ∈ a.keys, s.locks.find key = none)
    (hp : ∀ place ∈ a.places, ∃ r, s.seats.find place = some r ∧ r.status = .available)
    (hc : ∀ b ∈ calls, ∀ key ∈ b.keys, key ∉ a.keys) :
    ∃ result m s', (holdSeats a.eventId a.seatIds a.userId a.sessionId).exec (deciding x) n () s =
        ⟨.ok result, (), m, s'⟩ ∧ s'.Numbered ∧ After s₀ (calls ++ [a]) s' := by
  obtain ⟨m, locks, hlock, hmine, hothers⟩ := lockEach_alone hx a.seatIds [] [] n s hn
    fun seatId hm ↦ hk _ (List.mem_map_of_mem hm)
  let locked : Db := { s with locks }
  let found := a.lookup locked
  have chosen : Chosen locked a found := chosen_lookup hp
  have sale : found.filter (fun inv ↦ inv.status ≠ .available) = [] := by
    rw [List.filter_eq_nil_iff]
    intro r hr he
    exact of_decide_eq_true he (chosen.available r hr)
  have all : ∀ seatId ∈ a.seatIds, ∃ r ∈ found, r.seatId = seatId := by
    intro seatId hm
    obtain ⟨r, hr, he⟩ := List.mem_map.mp
      ((chosen.places (a.eventId, seatId)).mpr (List.mem_map_of_mem hm))
    exact ⟨r, hr, congrArg Prod.snd he⟩
  let expiresAt := (x (m + 3) .now).now + holdDurationMs
  obtain ⟨holds, hnew, hcontent⟩ :=
    newHolds_found (a := a) (L := Bool) expiresAt found a.seatIds all
  let saved := numbered s.nextId holds
  let committed : Db := [.seats (found.map Seat.held), .holds saved].foldl Db.write
    { locked with nextId := s.nextId + holds.length }
  let shown : Db := { committed with
    availability := s.availability.putAll (a.seatIds.map fun seatId ↦ ⟨a.eventId, seatId, .held⟩) }
  have run : (holdSeats a.eventId a.seatIds a.userId a.sessionId).exec (deciding x) n () s =
      ⟨.ok ⟨saved.map SeatHold.id, expiresAt⟩, (), m + 7, shown⟩ := by
    have transaction : (holdTransaction a.eventId a.seatIds a.userId a.sessionId).exec (deciding x)
        (m + 1) true locked = ⟨.ok ⟨saved.map SeatHold.id, expiresAt⟩, false, m + 7, shown⟩ := by
      have find : deciding x (m + 1) (.findBySeatIds a.eventId a.seatIds) locked =
          (.ok found, locked) := deciding_apply hx _ _ _
      have update : locked.changes (.seats (found.map fun inv ↦ { inv with status := .held })) =
          .seats (found.map Seat.held) := changes_held chosen.stored chosen.available
      unfold holdTransaction
      rw [Code.exec_bind, Code.exec_await, find]
      simp only [sale, List.isEmpty_nil, not_true_eq_false, if_false, Code.exec_bind,
        Code.exec_await, deciding_apply hx, perform, commitTransaction]
      rw [update, show (x (m + 1 + 1 + 1) .now).now + holdDurationMs = expiresAt from rfl, hnew]
      simp only [Code.exec_pure, Code.exec_assign, List.map_map]
      rfl
    simp only [List.nil_append] at hlock
    simp only [locked] at transaction
    simp [holdSeats, lockSeats, hlock, deciding_apply hx, perform, transaction]
  have fresh : ∀ hold ∈ saved, locked.holds.find hold.id = none := numbered_unused hs holds
  have ids : (saved.map SeatHold.id).Nodup := by
    rw [numbered_ids]
    exact List.nodup_range'
  have before : Written s₀ calls locked := ⟨h.seats, h.holds⟩
  have after := before.commit chosen
    ((numbered_content s.nextId holds).trans (hcontent.trans chosen.holdsOf_eq)) ids fresh
  refine ⟨_, _, _, run, numbered_putAll hs holds, ⟨⟨after.seats, after.holds⟩, ?_, ?_⟩⟩
  · intro b hb key hkey
    show ∃ lock, locks.find key = some lock ∧ lock.Of b
    rcases List.mem_append.mp hb with hb | hb
    · rw [hothers key (hc b hb key hkey)]
      exact h.taken b hb key hkey
    · cases List.mem_singleton.mp hb
      exact hmine key hkey
  · intro key hkey
    show locks.find key = _
    rw [hothers key (hkey a (by simp))]
    exact h.free key fun b hb ↦ hkey b (List.mem_append_left _ hb)

/-- Calls whose seats are different, on sale and not locked succeed one after another. -/
theorem serially_after (hx : ∀ n o, (x n o).fault = none) (done rest : List HoldCall) (n : Nat)
    {s₀ s : Db} (hs : s.Numbered) (h : After s₀ done s)
    (hn : ∀ a ∈ rest, a.seatIds.Nodup)
    (hk : ∀ a ∈ rest, ∀ key ∈ a.keys, s₀.locks.find key = none)
    (hp : ∀ a ∈ rest, ∀ place ∈ a.places,
      ∃ r, s₀.seats.find place = some r ∧ r.status = .available)
    (hd : (done ++ rest).Pairwise fun a b ↦ ∀ key ∈ a.keys, key ∉ b.keys) :
    ∃ s', serially x rest n s = some s' ∧ After s₀ (done ++ rest) s' := by
  induction rest generalizing n s done with
  | nil => exact ⟨s, rfl, by rw [List.append_nil]; exact h⟩
  | cons a rest ih =>
    have apart : ∀ b ∈ done, ∀ key ∈ b.keys, key ∉ a.keys := fun b hb ↦
      (List.pairwise_append.mp hd).2.2 b hb a List.mem_cons_self
    have free : ∀ key ∈ a.keys, s.locks.find key = none := by
      intro key hkey
      rw [h.free key fun b hb hm ↦ apart b hb key hm hkey]
      exact hk a List.mem_cons_self key hkey
    have sale : ∀ place ∈ a.places, ∃ r, s.seats.find place = some r ∧ r.status = .available := by
      intro place hplace
      obtain ⟨r, hr, ha⟩ := hp a List.mem_cons_self place hplace
      refine ⟨r, ?_, ha⟩
      have untaken : place ∉ taken done := by
        intro hm
        obtain ⟨b, hb, hpb⟩ := List.mem_flatMap.mp hm
        have key : ∀ c : HoldCall, place ∈ c.places → placeKey place ∈ c.keys := by
          intro c hc
          rw [HoldCall.keys_eq]
          exact List.mem_map_of_mem hc
        exact apart b hb _ (key b hpb) (key a hplace)
      rw [h.toWritten.find, hr, Option.map_some, Seat.heldAmong,
        (Table.find_eq_some_iff.mp hr).2, if_neg untaken]
    obtain ⟨result, m, s', run, hs', h'⟩ :=
      holdSeats_alone hx n hs h (hn a List.mem_cons_self) free sale apart
    have assoc : done ++ a :: rest = (done ++ [a]) ++ rest := by simp
    rw [assoc] at hd
    obtain ⟨s'', hrest, h''⟩ :=
      ih (done ++ [a]) m hs' h' (fun b hb ↦ hn b (List.mem_cons_of_mem _ hb))
      (fun b hb ↦ hk b (List.mem_cons_of_mem _ hb))
      (fun b hb ↦ hp b (List.mem_cons_of_mem _ hb)) hd
    refine ⟨s'', ?_, by rw [assoc]; exact h''⟩
    rw [serially, run]
    exact hrest

/-! ### All calls -/

/-- What is known of an ended thread: a successful call was committed, anything else has set
no key and was not. -/
def Ended (t : Nat) (j : Job) (r : Except Exception Reply) (c : Conf service) (g : Claims) : Prop :=
  match j, r with
  | .holdSeats e ids u n, .ok _ => Committed t ⟨e, ids, u, n⟩ c g
  | _, _ => ∀ b, Open t b [] [] [] c g

/-- Calls of `holdSeats` keep the rules. -/
theorem holds_sound {s₀ : Db} (hs : s₀.Numbered) :
    (holdRules s₀).SoundFrom (fun s ↦ s = s₀) (fun t _ c g ↦ ∀ b, Open t b [] [] [] c g) Ended where
  init := by
    rintro _ rfl
    refine ⟨⟨fun _ ↦ none, fun _ ↦ none, []⟩, ?_⟩
    constructor
    case written => exact .nil _
    case numbered => exact fun hold hm ↦ .inl (hs hold hm)
    case next => exact Nat.le_refl _
    case threads => exact List.nodup_nil
    case unlocked => exact fun _ _ ↦ rfl
    all_goals simp
  start t j c g hi hu b := by
    obtain ⟨howner, hcalls⟩ := hi.unstarted t hu
    constructor
    · intro key b'
      simp [howner]
    · exact hcalls
    · intro r hr
      cases hr
    · intro n hn
      cases hn
  stable t j := Rules.Stable.all fun _ ↦ open_stable
  jobs t j := by
    by_cases hj : j.holds = true
    · cases j with
      | holdSeats e ids u n =>
        let a : HoldCall := ⟨e, ids, u, n⟩
        apply Rules.Holds.prog
        apply Rules.Holds.bind (I := fun _ _ ↦ Committed t a)
        · apply Rules.Holds.post (Rules.Holds.pre (holdSeats_holds (a := a)) fun _ _ _ _ h ↦ h a)
          · exact fun _ _ _ _ _ h ↦ h
          · exact fun _ _ _ _ _ h ↦ h.any
        · exact fun _ ↦ Rules.Holds.ret _ fun _ _ _ _ h ↦ h
      | _ => cases hj
    · have ended : ∀ r, Ended t j r = fun c g ↦ ∀ b, Open t b [] [] [] c g := by
        intro r
        cases j with
        | holdSeats e ids u n => exact absurd rfl hj
        | _ => rfl
      -- No operation of another job is executed.
      have idle : ∀ p : service.Program, (holdRules s₀).Safe t j p
          (fun c g ↦ ∀ b, Open t b [] [] [] c g) (Ended t j) := by
        intro p
        induction p with
        | ret r =>
          intro c g _ h
          rw [ended]
          exact h
        | op o k ih =>
          refine ⟨fun _ c g ↦ ∀ b, Open t b [] [] [] c g, ?_, fun r ↦ ih r⟩
          constructor
          · exact fun _ ↦ Rules.Stable.all fun _ ↦ open_stable
          · exact fun c g x _ _ hm ↦ absurd hm.1 hj
      exact idle _

/-- The calls that were committed are the successful ones, and nobody else has a lock. -/
theorem holds_ended {s₀ : Db} (hs : s₀.Numbered) {p : Pool service}
    (hp : Pool.Reach holding (fun s ↦ s = s₀) p) (he : ∀ t j q, p.At t j q → q.ended = true) :
    ∃ g, Holding s₀ p.conf g ∧
      (∀ t a, (t, a) ∈ g.calls ↔ ∃ reply, p.At t a.job (.ret (.ok reply))) ∧
      ∀ key t a, g.owner key = some (t, a) → (t, a) ∈ g.calls ∧ key ∈ a.keys := by
  obtain ⟨g, hi, hq⟩ := (holds_sound hs).ended hp fun _ _ h ↦ h
  have result : ∀ t, ((∃ key a, g.owner key = some (t, a)) ∨ ∃ a, (t, a) ∈ g.calls) →
      ∃ a reply, p.At t a.job (.ret (.ok reply)) ∧ Committed t a p.conf g := by
    intro t ht
    have started : ∃ ev ∈ p.conf.log, ev.tid = t := by
      by_contra hno
      obtain ⟨howner, hcalls⟩ := hi.unstarted t fun ev hev h ↦ hno ⟨ev, hev, h⟩
      rcases ht with ⟨key, a, h⟩ | ⟨a, h⟩
      · exact howner key a h
      · exact hcalls a h
    obtain ⟨ev, hev, rfl⟩ := started
    obtain ⟨q, hat⟩ := hp.event_at hev
    have hend := he _ _ _ hat
    cases q with
    | op o k => cases hend
    | ret r =>
      have known := hq _ _ _ hat
      have closed : ¬ ∀ b, Open ev.tid b [] [] [] p.conf g := by
        intro h
        rcases ht with ⟨key, a, ho⟩ | ⟨a, ha⟩
        · have := (h a).owner key a |>.mp ho
          simp at this
        · exact (h a).calls a ha
      cases hj : ev.job with
      | holdSeats e ids u n =>
        rw [hj] at known hat
        cases r with
        | ok reply => exact ⟨⟨e, ids, u, n⟩, reply, hat, known⟩
        | error e => exact absurd known closed
      | _ =>
        rw [hj] at known
        exact absurd known closed
  have same : ∀ t a b, (t, a) ∈ g.calls → (t, b) ∈ g.calls → a = b := by
    intro t a b ha hb
    have := List.inj_on_of_nodup_map hi.threads ha hb rfl
    exact congrArg Prod.snd this
  refine ⟨g, hi, ?_, ?_⟩
  · intro t a
    constructor
    · intro ha
      obtain ⟨b, reply, hat, hb⟩ := result t (.inr ⟨a, ha⟩)
      rw [same t a b ha hb.calls]
      exact ⟨reply, hat⟩
    · rintro ⟨reply, hat⟩
      have known : Committed t a p.conf g := hq t a.job _ hat
      exact known.calls
  · intro key t a ho
    obtain ⟨b, reply, -, hb⟩ := result t (.inl ⟨key, a, ho⟩)
    obtain ⟨rfl, hk⟩ := (hb.owner key a).mp ho
    exact ⟨hb.calls, hk⟩

/-- Concurrent calls of `holdSeats` are serializable: the successful ones have disjoint lists
of different seats that were on sale, and when all have ended the seats, holds and locks are
as if only these had run, one after another in any order. -/
theorem concurrent_holds_serializable {s₀ : Db} (hs : s₀.Numbered) {p : Pool service}
    (hp : Pool.Reach holding (fun s ↦ s = s₀) p) (he : ∀ t j q, p.At t j q → q.ended = true)
    {calls : List (Nat × HoldCall)} (hc : Successes p calls) : Serializable s₀ p calls := by
  obtain ⟨g, hi, hcalls, howner⟩ := holds_ended hs hp he
  have mem : ∀ c, c ∈ calls ↔ c ∈ g.calls := by
    rintro ⟨t, a⟩
    rw [hc.mem, hcalls]
  have perm : g.calls.Perm calls :=
    (List.perm_ext_iff_of_nodup hi.threads.of_map hc.nodup).mpr fun c ↦ (mem c).symm
  have key_mem : ∀ (a : HoldCall) place, place ∈ a.places → placeKey place ∈ a.keys := by
    intro a place hm
    rw [HoldCall.keys_eq]
    exact List.mem_map_of_mem hm
  have apart : calls.Pairwise fun c c' ↦ ∀ key ∈ c.2.keys, key ∉ c'.2.keys := by
    apply hc.nodup.pairwise_of_forall_ne
    rintro ⟨t, a⟩ hm ⟨t', a'⟩ hm' hne key hk hk'
    have owner := hi.owned t a ((mem _).mp hm) key hk
    rw [hi.owned t' a' ((mem _).mp hm') key hk'] at owner
    exact hne (Option.some.inj owner).symm
  have sold : ∀ c ∈ calls, c.2.seatIds.Nodup ∧ ∀ place ∈ c.2.places,
      ∃ r, s₀.seats.find place = some r ∧ r.status = .available :=
    fun c hm ↦ hi.sold c.1 c.2 ((mem c).mp hm)
  have after : After s₀ (g.calls.map Prod.snd) p.conf.state := by
    refine ⟨hi.written, ?_, ?_⟩
    · intro a ha key hk
      obtain ⟨⟨t, a⟩, hm, rfl⟩ := List.mem_map.mp ha
      exact (hi.locked key t a (hi.owned t a hm key hk)).2
    · intro key hk
      apply hi.unlocked
      rw [Option.eq_none_iff_forall_ne_some]
      rintro ⟨t, a⟩ ho
      obtain ⟨hm, hkey⟩ := howner key t a ho
      exact hk a (List.mem_map_of_mem hm) hkey
  constructor
  · exact apart.imp fun h place hm hm' ↦ h _ (key_mem _ _ hm) (key_mem _ _ hm')
  · intro c hm
    exact (sold c hm).1.map fun _ _ h ↦ congrArg Prod.snd h
  · exact fun c hm ↦ (sold c hm).2
  · intro x hx
    have start : After s₀ [] s₀ := ⟨.nil _, fun _ h ↦ (by cases h), fun _ _ ↦ rfl⟩
    have serial := serially_after hx [] (calls.map Prod.snd) 0 hs start
      (fun a ha ↦ by
        obtain ⟨c, hm, rfl⟩ := List.mem_map.mp ha
        exact (sold c hm).1)
      (fun a ha key hk ↦ by
        obtain ⟨⟨t, a⟩, hm, rfl⟩ := List.mem_map.mp ha
        exact (hi.locked key t a (hi.owned t a ((mem _).mp hm) key hk)).1)
      (fun a ha ↦ by
        obtain ⟨c, hm, rfl⟩ := List.mem_map.mp ha
        exact (sold c hm).2)
      (by
        rw [List.nil_append, List.pairwise_map]
        exact apart)
    obtain ⟨s', hserial, h'⟩ := serial
    exact ⟨s', hserial, after.same h' (perm.map Prod.snd)⟩

/-- Thread 0 takes one of the seats that thread 1 asks for at the same time. -/
def overlappingHolds : List (Label service) :=
  [.spawn (.holdSeats "e" ["A"] "u" "s"), .spawn (.holdSeats "e" ["B", "A"] "v" "t"),
    .run 1 {}, .run 0 {}, .run 1 {}, .run 0 {}] ++ List.replicate 3 (.run 1 {}) ++
    List.replicate 7 (.run 0 {})

/-- Only one of them succeeds, and the other one leaves nothing. -/
theorem concurrent_holds_serializable_overlapping :
    ∃ p, Pool.play holding overlappingHolds (.start saleStock) = some p ∧
      successes p = [(0, ⟨"e", ["A"], "u", "s"⟩)] ∧ Serializable saleStock p (successes p) := by
  have played : (Pool.play holding overlappingHolds (.start saleStock)).any fun p ↦
      successes p = [(0, ⟨"e", ["A"], "u", "s"⟩)] && p.threads.all fun (_, q) ↦ q.ended := by
    decide +kernel
  simp only [Option.any_eq_true, Bool.and_eq_true, decide_eq_true_eq, List.all_eq_true] at played
  obtain ⟨p, hp, hs, he⟩ := played
  refine ⟨p, hp, hs,
    concurrent_holds_serializable (fun _ h ↦ by cases h) (Pool.reach_of_play rfl hp) ?_
    (successes_spec p)⟩
  exact fun t j q hat ↦ he (j, q) (List.mem_of_getElem? hat)

end Ticketing.SeatInventory
