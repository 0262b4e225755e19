import Ticketing.SeatInventory.Service

/-!
# What successful calls of `holdSeats` leave

Library `SeatInventory`. The rows that a set of successful calls leaves, up to generated
identifiers and timestamps, whatever their order is; and that the commit of one more call
adds what it should.
-/

namespace Ticketing.SeatInventory

open Async Store

/-- The arguments of a call of `holdSeats`. -/
structure HoldCall where
  eventId : String
  seatIds : List String
  userId : String
  sessionId : String
  deriving DecidableEq, Repr

namespace HoldCall

/-- The call as a job. -/
def job (a : HoldCall) : Job := .holdSeats a.eventId a.seatIds a.userId a.sessionId

/-- The seats of the call. -/
def places (a : HoldCall) : List (String × String) :=
  a.seatIds.map fun seatId ↦ (a.eventId, seatId)

/-- The lock keys of the call. -/
def keys (a : HoldCall) : List String := a.seatIds.map (lockKey a.eventId)

end HoldCall

/-- The lock key of a seat. -/
def placeKey (place : String × String) : String := lockKey place.1 place.2

/-- Two seats of an event have different keys. -/
theorem lockKey_inj {e s s' : String} (h : lockKey e s = lockKey e s') : s = s' :=
  (String.append_right_inj _).mp h

/-- The keys of a call are those of its seats. -/
theorem HoldCall.keys_eq (a : HoldCall) : a.keys = a.places.map placeKey := by
  unfold keys places
  rw [List.map_map]
  rfl

/-- A call with different keys has different seats. -/
theorem HoldCall.nodup_of_keys {a : HoldCall} (h : a.keys.Nodup) : a.seatIds.Nodup := .of_map _ h

/-- A row that is held. -/
def Seat.held (seat : Seat) : Seat := { seat with status := .held }

/-- A row after the seats at some places were held. -/
def Seat.heldAmong (places : List (String × String)) (seat : Seat) : Seat :=
  if seat.place ∈ places then seat.held else seat

/-- A held row is the row of the same seat. -/
@[simp] theorem Seat.heldAmong_place (places : List (String × String)) (seat : Seat) :
    (seat.heldAmong places).place = seat.place := by
  unfold heldAmong
  split <;> rfl

/-- A held row keeps its identifier. -/
@[simp] theorem Seat.heldAmong_id (places : List (String × String)) (seat : Seat) :
    (seat.heldAmong places).id = seat.id := by
  unfold heldAmong
  split <;> rfl

/-- Holding two lists of places holds their concatenation. -/
theorem Seat.heldAmong_append (places more : List (String × String)) (seat : Seat) :
    (seat.heldAmong places).heldAmong more = seat.heldAmong (places ++ more) := by
  by_cases h : seat.place ∈ places
  · have both : seat.heldAmong (places ++ more) = seat.held :=
      if_pos (List.mem_append_left _ h)
    have first : seat.heldAmong places = seat.held := if_pos h
    rw [both, first, heldAmong]
    split <;> rfl
  · have first : seat.heldAmong places = seat := if_neg h
    rw [first]
    simp [heldAmong, h]

/-- A hold without what is generated. -/
def SeatHold.content (hold : SeatHold) : SeatHold := { hold with id := 0, expiresAt := 0 }

/-- The hold of a seat, without what is generated. -/
def HoldCall.hold (a : HoldCall) (seatInventoryId : Id) (seatId : String) : SeatHold where
  id := 0
  seatInventoryId := seatInventoryId
  eventId := a.eventId
  seatId := seatId
  userId := a.userId
  sessionId := a.sessionId
  expiresAt := 0
  releasedAt := none
  releaseReason := none

/-- The identifier of the seat at a place. -/
def Db.seatId (s : Db) (place : String × String) : Id := ((s.seats.find place).map Seat.id).getD 0

/-- The holds of a call, without what is generated. -/
def HoldCall.holds (a : HoldCall) (s : Db) : List SeatHold :=
  a.seatIds.map fun seatId ↦ a.hold (s.seatId (a.eventId, seatId)) seatId

/-- The holds of a call that has found these seats, without what is generated. -/
def HoldCall.holdsOf (a : HoldCall) (found : List Seat) : List SeatHold :=
  a.seatIds.map fun seatId ↦
    a.hold (((found.find? fun inv ↦ inv.seatId = seatId).map Seat.id).getD 0) seatId

/-- The seats of some calls. -/
def taken (calls : List HoldCall) : List (String × String) := calls.flatMap HoldCall.places

/-- The rows after some calls were committed. -/
structure Written (s₀ : Db) (calls : List HoldCall) (s : Db) : Prop where
  seats : s.seats.rows = s₀.seats.rows.map (Seat.heldAmong (taken calls))
  holds : ∃ new, s.holds.rows = s₀.holds.rows ++ new ∧
    (new.map SeatHold.content).Perm (calls.flatMap fun a ↦ a.holds s₀)

/-- The seats that a call has found: all of its seats, on sale. -/
structure Chosen (s : Db) (a : HoldCall) (found : List Seat) : Prop where
  stored : ∀ r ∈ found, s.seats.find r.place = some r
  nodup : (found.map Seat.place).Nodup
  places : ∀ place, place ∈ found.map Seat.place ↔ place ∈ a.places
  available : ∀ r ∈ found, r.status = .available

/-- The rows that `findBySeatIds` finds for a call. -/
def HoldCall.lookup (a : HoldCall) (s : Db) : List Seat :=
  s.seats.rows.filter fun r ↦ r.eventId = a.eventId && a.seatIds.contains r.seatId

/-- A call finds the stored rows at its places. -/
theorem HoldCall.mem_lookup {a : HoldCall} {s : Db} {r : Seat} :
    r ∈ a.lookup s ↔ r ∈ s.seats.rows ∧ r.place ∈ a.places := by
  unfold lookup
  rw [List.mem_filter, Bool.and_eq_true, decide_eq_true_eq, List.contains_iff_mem]
  refine and_congr_right fun _ ↦ ?_
  constructor
  · rintro ⟨he, hm⟩
    exact List.mem_map.mpr ⟨r.seatId, hm, by rw [← he]; rfl⟩
  · intro hp
    obtain ⟨seatId, hm, he⟩ := List.mem_map.mp hp
    have event : a.eventId = r.eventId := congrArg Prod.fst he
    have seat : seatId = r.seatId := congrArg Prod.snd he
    exact ⟨event.symm, seat ▸ hm⟩

/-- Rows of which the filter for unavailable ones leaves none are on sale. -/
theorem available_of_isEmpty {rows : List Seat}
    (h : (rows.filter fun inv ↦ inv.status ≠ .available).isEmpty = true) :
    ∀ r ∈ rows, r.status = .available := by
  intro r hr
  by_contra hne
  have none := List.filter_eq_nil_iff.mp (List.isEmpty_iff.mp h)
  exact none r hr (decide_eq_true hne)

/-- The rows that a call finds have different places. -/
theorem HoldCall.nodup_lookup (a : HoldCall) (s : Db) : ((a.lookup s).map Seat.place).Nodup :=
  s.seats.nodup.sublist (List.filter_sublist.map Seat.place)

/-- A call whose seats are on sale finds them. -/
theorem chosen_lookup {s : Db} {a : HoldCall}
    (h : ∀ place ∈ a.places, ∃ r, s.seats.find place = some r ∧ r.status = .available) :
    Chosen s a (a.lookup s) where
  stored r hr := Table.find_of_mem (HoldCall.mem_lookup.mp hr).1
  nodup := a.nodup_lookup s
  places place := by
    constructor
    · intro hm
      obtain ⟨r, hr, rfl⟩ := List.mem_map.mp hm
      exact (HoldCall.mem_lookup.mp hr).2
    · intro hm
      obtain ⟨r, hr, -⟩ := h place hm
      obtain ⟨hrow, rfl⟩ := Table.find_eq_some_iff.mp hr
      exact List.mem_map_of_mem (HoldCall.mem_lookup.mpr ⟨hrow, hm⟩)
  available r hr := by
    obtain ⟨hrow, hp⟩ := HoldCall.mem_lookup.mp hr
    obtain ⟨r', hr', ha⟩ := h _ hp
    rw [Table.find_of_mem hrow] at hr'
    cases hr'
    exact ha

/-- Stored seats on sale differ from what they become, so `save()` updates all of them. -/
theorem changes_held {s : Db} {found : List Seat}
    (hs : ∀ r ∈ found, s.seats.find r.place = some r) (ha : ∀ r ∈ found, r.status = .available) :
    s.changes (.seats (found.map Seat.held)) = .seats (found.map Seat.held) := by
  apply congrArg Write.seats
  apply List.filter_eq_self.mpr
  intro row hrow
  obtain ⟨r, hr, rfl⟩ := List.mem_map.mp hrow
  have differs : r ≠ r.held := by
    intro he
    have status := congrArg Seat.status he
    rw [ha r hr] at status
    cases status
  apply decide_eq_true
  show s.seats.find r.place ≠ some r.held
  rw [hs r hr]
  exact fun he ↦ differs (Option.some.inj he)

/-- A seat that was found is the stored one. -/
theorem Chosen.seatId_eq {s : Db} {a : HoldCall} {found : List Seat} (h : Chosen s a found)
    {seatId : String} (hm : seatId ∈ a.seatIds) :
    ((found.find? fun inv ↦ inv.seatId = seatId).map Seat.id).getD 0 =
      s.seatId (a.eventId, seatId) := by
  have place : (a.eventId, seatId) ∈ a.places := List.mem_map_of_mem hm
  obtain ⟨r, hr, hp⟩ := List.mem_map.mp ((h.places _).mpr place)
  have there : (found.find? fun inv ↦ inv.seatId = seatId).isSome := by
    rw [List.find?_isSome]
    exact ⟨r, hr, decide_eq_true (congrArg Prod.snd hp)⟩
  obtain ⟨r', hr'⟩ := Option.isSome_iff_exists.mp there
  have hm' : r' ∈ found := List.mem_of_find?_eq_some hr'
  have hs' : r'.seatId = seatId := by simpa using List.find?_some hr'
  have hp' : r'.place = (a.eventId, seatId) := by
    obtain ⟨id, -, he⟩ := List.mem_map.mp ((h.places _).mp (List.mem_map_of_mem hm'))
    have event : a.eventId = r'.eventId := congrArg Prod.fst he
    rw [Seat.place, ← event, hs']
  have stored := h.stored r' hm'
  rw [hp'] at stored
  rw [Db.seatId, stored, hr']

/-- The holds of the seats that were found are those of the stored seats. -/
theorem Chosen.holdsOf_eq {s : Db} {a : HoldCall} {found : List Seat} (h : Chosen s a found) :
    a.holdsOf found = a.holds s := by
  apply List.map_congr_left
  intro seatId hm
  rw [h.seatId_eq hm]

/-- New rows have consecutive identifiers. -/
theorem numbered_ids (n : Id) (rows : List SeatHold) :
    (numbered n rows).map SeatHold.id = List.range' n rows.length := by
  apply List.ext_getElem
  · simp [numbered]
  · intro i hi hj
    simp [numbered]

/-- Numbering changes nothing but what is generated. -/
theorem numbered_content (n : Id) (rows : List SeatHold) :
    (numbered n rows).map SeatHold.content = rows.map SeatHold.content := by
  apply List.ext_getElem
  · simp [numbered]
  · intro i hi hj
    simp [numbered, SeatHold.content]

namespace Written

variable {s₀ s : Db} {calls : List HoldCall}

/-- A state is written from itself by no calls. -/
theorem nil (s : Db) : Written s [] s where
  seats := by
    refine ((List.map_congr_left ?_).trans (List.map_id _)).symm
    intro r _
    exact if_neg (by simp [taken])
  holds := ⟨[], by simp, by simp⟩

/-- The order of the calls does not matter. -/
theorem perm {calls' : List HoldCall} (h : Written s₀ calls s) (hp : calls.Perm calls') :
    Written s₀ calls' s where
  seats := by
    rw [h.seats]
    apply List.map_congr_left
    intro r _
    have same : r.place ∈ taken calls ↔ r.place ∈ taken calls' := (hp.flatMap_right _).mem_iff
    unfold Seat.heldAmong
    simp only [same]
  holds := by
    obtain ⟨new, hrows, hnew⟩ := h.holds
    exact ⟨new, hrows, hnew.trans (hp.flatMap_right _)⟩

/-- The row of a seat is the first one, held if a call took its place. -/
theorem find (h : Written s₀ calls s) (place : String × String) :
    s.seats.find place = (s₀.seats.find place).map (Seat.heldAmong (taken calls)) := by
  unfold Table.find
  rw [h.seats, List.find?_map]
  congr 2
  funext r
  simp

/-- The holds of a call do not depend on what is held. -/
theorem holds_eq (h : Written s₀ calls s) (a : HoldCall) : a.holds s = a.holds s₀ := by
  unfold HoldCall.holds Db.seatId
  apply List.map_congr_left
  intro seatId _
  rw [h.find]
  cases s₀.seats.find (a.eventId, seatId) <;> simp

/-- A seat on sale was on sale at the start, and no call has it. -/
theorem available (h : Written s₀ calls s) {r : Seat} (hr : s.seats.find r.place = some r)
    (ha : r.status = .available) :
    s₀.seats.find r.place = some r ∧ r.place ∉ taken calls := by
  rw [h.find, Option.map_eq_some_iff] at hr
  obtain ⟨r₀, hr₀, he⟩ := hr
  have hp : r₀.place = r.place := (Table.find_eq_some_iff.mp hr₀).2
  by_cases hm : r₀.place ∈ taken calls
  · rw [Seat.heldAmong, if_pos hm] at he
    rw [← he] at ha
    cases ha
  · rw [Seat.heldAmong, if_neg hm] at he
    subst he
    exact ⟨hr₀, hm⟩

/-- The commit of a call adds its seats and its holds. -/
theorem commit (h : Written s₀ calls s) {a : HoldCall} {found : List Seat}
    (hf : Chosen s a found) {saved : List SeatHold}
    (hs : saved.map SeatHold.content = a.holds s) (hn : (saved.map SeatHold.id).Nodup)
    (hfresh : ∀ hold ∈ saved, s.holds.find hold.id = none) :
    Written s₀ (calls ++ [a]) ([.seats (found.map Seat.held), .holds saved].foldl Db.write s) where
  seats := by
    show (s.seats.putAll (found.map Seat.held)).rows = _
    have keys : (found.map Seat.held).map Seat.place = found.map Seat.place := by
      rw [List.map_map]
      rfl
    have stored : ∀ row ∈ found.map Seat.held, (s.seats.find row.place).isSome := by
      intro row hrow
      obtain ⟨r, hr, rfl⟩ := List.mem_map.mp hrow
      exact Option.isSome_of_eq_some (hf.stored r hr)
    rw [Table.rows_putAll_of_stored (keys ▸ hf.nodup) stored]
    have here : ∀ r ∈ s.seats.rows,
        ((found.map Seat.held).find? fun row ↦ row.place = r.place).getD r =
          r.heldAmong a.places := by
      intro r hr
      let t : Table Seat.place := ⟨found, hf.nodup⟩
      have look : (found.map Seat.held).find? (fun row ↦ row.place = r.place) =
          (t.find r.place).map Seat.held := List.find?_map ..
      rw [look]
      by_cases hm : r.place ∈ a.places
      · obtain ⟨r', hr', hp⟩ := List.mem_map.mp ((hf.places _).mpr hm)
        have same : r' = r := by
          have stored := hf.stored r' hr'
          rw [hp, Table.find_of_mem hr] at stored
          exact (Option.some.inj stored).symm
        subst same
        have there : t.find r'.place = some r' := Table.find_of_mem hr'
        rw [there, Seat.heldAmong, if_pos hm]
        rfl
      · have absent : t.find r.place = none := by
          rw [Option.eq_none_iff_forall_ne_some]
          intro r' hr'
          obtain ⟨hr', hp⟩ := Table.find_eq_some_iff.mp hr'
          exact hm ((hf.places _).mp (hp ▸ List.mem_map_of_mem hr'))
        rw [absent, Seat.heldAmong, if_neg hm]
        rfl
    rw [List.map_congr_left here, h.seats, List.map_map]
    apply List.map_congr_left
    intro r _
    show (r.heldAmong (taken calls)).heldAmong a.places = _
    rw [Seat.heldAmong_append]
    simp [taken]
  holds := by
    obtain ⟨new, hrows, hnew⟩ := h.holds
    refine ⟨new ++ saved, ?_, ?_⟩
    · show (s.holds.putAll saved).rows = _
      rw [Table.rows_putAll_of_fresh hn hfresh, hrows, List.append_assoc]
    · rw [List.map_append, List.flatMap_append, hs, h.holds_eq]
      simpa using hnew.append_right _

end Written

end Ticketing.SeatInventory
