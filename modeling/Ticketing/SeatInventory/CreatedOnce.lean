import Ticketing.SeatInventory.ReadRefinement

/-!
# The inventory of an event is created once

Library `SeatInventory`. A message may be delivered again and again, under faults and between
calls that hold, release and sell. The first delivery without a fault leaves one row for each
seat of the message; after that nothing but the status of a row changes.
-/

namespace Ticketing.SeatInventory

open Async Store

/-- The consumer reads this message from what Kafka hands over. -/
def Payload.Carries (payload : Payload) (message : EventCreateMessage) : Prop :=
  (payload.value <|> payload.self) = some message

/-- What a delivery leaves. -/
def Payload.delivered (payload : Payload) (x : Nat → CreationOp → Choice) (s : Db) : Db :=
  ((handleEventCreate payload).exec (creating x) 0 () s).state

/-- What deliveries of a message and other calls leave, from stores without rows of the event, and
whether some delivery met no fault. -/
inductive Delivered (message : EventCreateMessage) : Bool → Db → Prop where
  | start {s : Db} (none : s.eventSeats message.eventId = []) : Delivered message false s
  | deliver {b : Bool} {s : Db} {payload : Payload} (hs : Delivered message b s)
      (carries : payload.Carries message) (x : Nat → CreationOp → Choice) :
      Delivered message b (payload.delivered x s)
  | succeed {b : Bool} {s : Db} {payload : Payload} (hs : Delivered message b s)
      (carries : payload.Carries message) {x : Nat → CreationOp → Choice}
      (faultless : ∀ n o, (x n o).fault = none) : Delivered message true (payload.delivered x s)
  | write {b : Bool} {s : Db} (hs : Delivered message b s) (c : WriteCall) (x : Nat → Op → Choice)
      (gone : Nat → List String) : Delivered message b (c.outcome x gone s).state

/-- The row was made from the seat. -/
def MadeFrom (eventId : String) (r : Seat) (seat : EventSeat) : Prop :=
  r = { toInventory eventId seat with id := r.id, status := r.status }

/-- The rows of the event are those of the message, in its order. -/
def Db.Stocked (s : Db) (message : EventCreateMessage) : Prop :=
  List.Forall₂ (MadeFrom message.eventId) (s.eventSeats message.eventId) message.seats

variable {message : EventCreateMessage} {s : Db} {payload : Payload} {x : Nat → CreationOp → Choice}

/-- Numbering rows keeps what they were made from. -/
theorem madeFrom_numbered (next : Id) (eventId : String) (seats : List EventSeat) :
    List.Forall₂ (MadeFrom eventId) (numberedSeats next (seats.map (toInventory eventId)))
      seats := by
  rw [List.forall₂_iff_get]
  constructor
  · simp [numberedSeats]
  · intro i hi hj
    simp [numberedSeats, MadeFrom, toInventory]

/-- Marking a row keeps what it was made from. -/
theorem MadeFrom.marked {eventId : String} {r : Seat} {seat : EventSeat}
    (h : MadeFrom eventId r seat) (e : String) (ids : List String) (st : SeatStatus) :
    MadeFrom eventId (r.marked e ids st) seat := by
  unfold Seat.marked
  split
  · unfold MadeFrom at h ⊢
    rw [h]
  · exact h

/-- Rows that no event has yet are accepted when their seats differ. -/
theorem accepts_of_new (hn : (message.seats.map EventSeat.seatId).Nodup)
    (he : s.eventSeats message.eventId = []) : s.Accepts message.rows := by
  constructor
  · have places : message.rows.map Seat.place =
        (message.seats.map EventSeat.seatId).map fun seatId ↦ (message.eventId, seatId) := by
      simp [EventCreateMessage.rows, toInventory, Seat.place, Function.comp_def]
    rw [places]
    apply hn.map
    exact fun _ _ h ↦ congrArg Prod.snd h
  · intro r hr
    obtain ⟨seat, -, rfl⟩ := List.mem_map.mp hr
    rw [Table.find, List.find?_eq_none]
    intro r' hr' hp
    have place : r'.eventId = message.eventId := congrArg Prod.fst (of_decide_eq_true hp)
    have mem : r' ∈ s.eventSeats message.eventId := by
      rw [Db.eventSeats, List.mem_filter]
      exact ⟨hr', decide_eq_true place⟩
    rw [he] at mem
    cases mem

/-- The rows of the event after its message was inserted. -/
theorem stocked_created (hn : (message.seats.map EventSeat.seatId).Nodup)
    (he : s.eventSeats message.eventId = []) : (s.created message).Stocked message := by
  have rows : (s.created message).eventSeats message.eventId =
      numberedSeats s.nextId message.rows := by
    unfold Db.eventSeats at he ⊢
    rw [rows_created (accepts_of_new hn he), List.filter_append, he, List.nil_append,
      List.filter_eq_self]
    intro r hr
    obtain ⟨r₀, hr₀, hr⟩ := mem_numberedSeats hr
    obtain ⟨seat, -, rfl⟩ := List.mem_map.mp hr₀
    rw [hr]
    exact decide_eq_true rfl
  rw [Db.Stocked, rows]
  exact madeFrom_numbered s.nextId message.eventId message.seats

/-- A message without seats changes nothing. -/
theorem created_of_nil (h : message.seats = []) : s.created message = s := by
  simp [Db.created, EventCreateMessage.rows, h, numberedSeats, Table.putAll]

/-- A delivery leaves the state, or creates the rows of an event that had none. -/
theorem delivered_cases (hm : message.eventId ≠ "") (hc : payload.Carries message)
    (hn : (message.seats.map EventSeat.seatId).Nodup) :
    payload.delivered x s = s ∧
        (s.eventSeats message.eventId ≠ [] ∨ ∃ n o, (x n o).fault ≠ none) ∨
      s.eventSeats message.eventId = [] ∧ payload.delivered x s = s.created message := by
  have code : handleEventCreate payload = createFromEvent message := by
    unfold Payload.Carries at hc
    rw [handleEventCreate, hc]
    exact if_neg hm
  have left := createFromEvent_leaves x message s 0 () s rfl
  unfold Payload.delivered
  rw [code]
  rcases hr : (createFromEvent message).exec (creating x) 0 () s with ⟨r, l, n, s'⟩
  rw [hr] at left
  cases r with
  | ok _ =>
    rcases left with ⟨he, rfl⟩ | ⟨he, -, rfl⟩
    · exact .inl ⟨rfl, .inl he⟩
    · exact .inr ⟨he, rfl⟩
  | error _ =>
    rcases left with ⟨rfl, hx | ⟨he, refused⟩⟩
    · exact .inl ⟨rfl, .inr hx⟩
    · exact absurd (accepts_of_new hn he) refused

/-- A delivery to stores that have the rows changes nothing. -/
theorem Db.Stocked.delivered (h : s.Stocked message) (hm : message.eventId ≠ "")
    (hc : payload.Carries message) (hn : (message.seats.map EventSeat.seatId).Nodup) :
    payload.delivered x s = s := by
  rcases delivered_cases hm hc hn (x := x) (s := s) with ⟨he, -⟩ | ⟨empty, he⟩
  · exact he
  · rw [he]
    apply created_of_nil
    rw [Db.Stocked, empty] at h
    exact List.forall₂_nil_left_iff.mp h

/-- A call of a writer leaves the rows with other statuses. -/
theorem eventSeats_written (c : WriteCall) (x : Nat → Op → Choice) (gone : Nat → List String)
    (e : String) : (c.outcome x gone s).state.eventSeats e = s.eventSeats e ∨
      ∃ e' ids st, (c.outcome x gone s).state.eventSeats e =
        (s.eventSeats e).map (Seat.marked e' ids st) := by
  have marked : ∀ {s' : Db}, s'.seats = (s.marked c.eventId c.seatIds c.status).seats →
      s'.eventSeats e = (s.eventSeats e).map (Seat.marked c.eventId c.seatIds c.status) := by
    intro s' hs
    unfold Db.eventSeats
    rw [hs, rows_marked, List.filter_map]
    congr 2
    funext r
    show decide ((r.marked c.eventId c.seatIds c.status).eventId = e) = _
    unfold Seat.marked
    split <;> rfl
  rcases c.outcome_cases x gone s with ⟨-, hs, -⟩ | ⟨-, hs | hs, -⟩
  · exact .inr ⟨_, _, _, marked hs⟩
  · exact .inl (by rw [Db.eventSeats, hs, Db.eventSeats])
  · exact .inr ⟨_, _, _, marked hs⟩

/-- A call of a writer keeps the rows of the message. -/
theorem Db.Stocked.written (h : s.Stocked message) (c : WriteCall) (x : Nat → Op → Choice)
    (gone : Nat → List String) : (c.outcome x gone s).state.Stocked message := by
  unfold Db.Stocked at h ⊢
  rcases eventSeats_written (s := s) c x gone message.eventId with he | ⟨e, ids, st, he⟩
  · rw [he]
    exact h
  · rw [he, List.forall₂_map_left_iff]
    exact h.imp fun _ _ made ↦ made.marked e ids st

/-- Until a delivery has met no fault the event may have no rows; from then on it has the rows of
its message. -/
theorem Delivered.stocked {b : Bool} (hs : Delivered message b s) (hm : message.eventId ≠ "")
    (hn : (message.seats.map EventSeat.seatId).Nodup) :
    s.Stocked message ∨ (b = false ∧ s.eventSeats message.eventId = []) := by
  induction hs with
  | start none => exact .inr ⟨rfl, none⟩
  | @deliver b s payload hs carries x ih =>
    rcases ih with h | ⟨hb, he⟩
    · rw [h.delivered hm carries hn]
      exact .inl h
    · rcases delivered_cases hm carries hn (x := x) (s := s) with ⟨hd, -⟩ | ⟨-, hd⟩
      · rw [hd]
        exact .inr ⟨hb, he⟩
      · rw [hd]
        exact .inl (stocked_created hn he)
  | @succeed b s payload hs carries x faultless ih =>
    left
    rcases ih with h | ⟨-, he⟩
    · rw [h.delivered hm carries hn]
      exact h
    · rcases delivered_cases hm carries hn (x := x) (s := s) with ⟨-, some | ⟨n, o, hx⟩⟩ | ⟨-, hd⟩
      · exact absurd he some
      · exact absurd (faultless n o) hx
      · rw [hd]
        exact stocked_created hn he
  | @write b s hs c x gone ih =>
    rcases ih with h | ⟨hb, he⟩
    · exact .inl (h.written c x gone)
    · right
      refine ⟨hb, ?_⟩
      rcases eventSeats_written (s := s) c x gone message.eventId with hw | ⟨e, ids, st, hw⟩
      · rw [hw, he]
      · rw [hw, he, List.map_nil]

end Ticketing.SeatInventory
