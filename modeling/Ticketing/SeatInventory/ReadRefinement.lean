import Ticketing.SeatInventory.Creation
import Ticketing.SeatInventory.HoldEffects
import Ticketing.SeatInventory.ReadModel

/-!
# The read model and the database

Library `SeatInventory`. Calls of the writers, restarts and queries that run one after another.
The hashes of an event are filled by a rebuild and by the writers; a query is right as long as
an event whose status hash exists has one field for each row.
-/

namespace Ticketing.SeatInventory

open Async Store

/-! ### Queries -/

/-- An operation of the read service may fail. -/
def FaultyRead (x : Nat → ReadOp → Choice) : Prop := ∃ n o, (x n o).fault ≠ none

/-- Each event has no status hash, or hashes that mirror its rows. -/
def ReadStores.Shows (s : ReadStores) : Prop := ∀ e, s.Missing e ∨ s.Mirrored e

/-- The hashes mirror the rows of the event, or neither exists. -/
def ReadStores.Ready (s : ReadStores) (e : String) : Prop :=
  s.Mirrored e ∨ (s.Missing e ∧ s.rows e = [])

variable {s : ReadStores} {e : String} {x : Nat → ReadOp → Choice} {L : Type}
  {seats : Table Seat.place}

/-- An awaited operation of the read service fails without effect, or has its effect. -/
theorem await_reading {o : ReadOp} {P : L → ReadStores → Prop}
    {Q : ReadRes o → L → ReadStores → Prop} {E : Exception → L → ReadStores → Prop}
    (effect : ∀ l s a, P l s → (performRead o s).1 = .ok a → Q a l (performRead o s).2)
    (fail : ∀ e l s, FaultyRead x → P l s → E e l s) :
    Code.Leaves (reading x) P (awaitRead o) Q E := by
  apply Code.Leaves.await
  · intro n l s a s' hp hr
    unfold reading at hr
    split at hr
    · cases hr
    · have := effect l s a hp (congrArg Prod.fst hr)
      rwa [hr] at this
  · intro n l s err s' hp hr
    unfold reading at hr
    split at hr
    · next hf =>
      cases hr
      exact fail _ l _ ⟨n, o, by rw [hf]; exact nofun⟩ hp
    · cases o <;> cases hr

/-- The hashes say what the rows are, and the seats are these. -/
def Showing (seats : Table Seat.place) (s : ReadStores) : Prop := s.Shows ∧ s.db.seats = seats

/-- What is read when the event is ready. -/
theorem ReadStores.Ready.views (h : s.Ready e) :
    (seatViews (s.db.availability.rows.filter fun a ↦ a.eventId = e)
      (s.details.rows.filter fun d ↦ d.eventId = e)).Perm ((s.rows e).map Seat.view) := by
  rcases h with h | ⟨h, hr⟩
  · exact h.views
  · rw [ReadStores.missing_iff.mp h, hr]
    exact List.Perm.nil

/-- A rebuild makes the event ready. -/
theorem rebuildCache_leaves :
    Code.Leaves (reading x) (fun (_ : L) ↦ Showing seats) (rebuildCache e)
      (fun _ _ s ↦ Showing seats s ∧ s.Ready e) fun _ _ s ↦ FaultyRead x ∧ Showing seats s := by
  apply Code.Leaves.bind (Q := fun r _ s ↦ Showing seats s ∧ r = s.rows e)
  · apply await_reading
    · intro l s r h hr
      cases hr
      exact ⟨h, rfl⟩
    · exact fun _ _ _ hx h ↦ ⟨hx, h⟩
  intro found
  by_cases hf : found.isEmpty = true
  · rw [if_pos hf]
    refine Code.Leaves.ret _ ?_
    rintro l s ⟨h, rfl⟩
    refine ⟨h, ?_⟩
    rcases h.1 e with hm | hm
    · exact .inr ⟨hm, List.isEmpty_iff.mp hf⟩
    · exact .inl hm
  · rw [if_neg hf]
    apply await_reading
    · rintro l s r ⟨h, rfl⟩ _
      simp only [performRead]
      rw [run_rebuildPipeline]
      refine ⟨⟨?_, h.2⟩, .inl ReadStores.mirrored_rebuilt⟩
      intro e'
      by_cases he : e' = e
      · rw [he]
        exact .inr ReadStores.mirrored_rebuilt
      · exact (h.1 e').imp (fun hm ↦ hm.rebuilt he) fun hm ↦ hm.rebuilt
    · exact fun _ _ _ hx h ↦ ⟨hx, h.1⟩

/-- Reading both hashes returns what they hold. -/
theorem readBoth_leaves {α : Type} {f : List SeatAvailability → List DetailEntry → Code readSig L α}
    {P : L → ReadStores → Prop} {Q : α → L → ReadStores → Prop}
    {E : Exception → L → ReadStores → Prop} (he : ∀ err l s, FaultyRead x → P l s → E err l s)
    (hf : ∀ statuses details, Code.Leaves (reading x)
      (fun l s ↦ P l s ∧ statuses = (s.db.availability.rows.filter fun a ↦ a.eventId = e) ∧
        details = s.details.rows.filter fun d ↦ d.eventId = e) (f statuses details) Q E) :
    Code.Leaves (reading x) P
      (do
        let statuses ← awaitRead (.hgetallStatus e)
        let details ← awaitRead (.hgetallDetail e)
        f statuses details) Q E := by
  apply Code.Leaves.bind (Q := fun statuses l s ↦
    P l s ∧ statuses = s.db.availability.rows.filter fun a ↦ a.eventId = e)
  · apply await_reading
    · intro l s r h hr
      cases hr
      exact ⟨h, rfl⟩
    · exact he
  intro statuses
  refine Code.Leaves.bind ?_ (hf statuses)
  apply await_reading
  · intro l s r h hr
    cases hr
    exact ⟨h.1, h.2, rfl⟩
  · exact fun err l s hx h ↦ he err l s hx h.1

/-- The entries are those of the rows. -/
theorem getEventSeatsWithStatus_leaves :
    Code.Leaves (reading x) (fun _ ↦ Showing seats) (getEventSeatsWithStatus e)
      (fun views _ s ↦ Showing seats s ∧ views.Perm ((s.rows e).map Seat.view))
      fun _ _ s ↦ FaultyRead x ∧ Showing seats s := by
  unfold getEventSeatsWithStatus
  apply readBoth_leaves (fun _ _ _ hx h ↦ ⟨hx, h⟩)
  intro statuses details
  by_cases hs : statuses.isEmpty = true
  · rw [if_pos hs]
    apply Code.Leaves.bind (Q := fun _ _ s ↦ Showing seats s ∧ s.Ready e)
    · exact rebuildCache_leaves.pre fun _ _ h ↦ h.1
    intro _
    apply readBoth_leaves (fun _ _ _ hx h ↦ ⟨hx, h.1⟩)
    intro statuses details
    refine Code.Leaves.ret _ ?_
    rintro l s ⟨⟨h, ready⟩, rfl, rfl⟩
    exact ⟨h, ready.views⟩
  · rw [if_neg hs]
    refine Code.Leaves.ret _ ?_
    rintro l s ⟨h, rfl, rfl⟩
    refine ⟨h, ?_⟩
    rcases h.1 e with hm | hm
    · exact absurd (List.isEmpty_iff.mpr (ReadStores.missing_iff.mp hm)) hs
    · exact hm.views

/-- The entries on sale are those of the rows on sale. -/
theorem getAvailableSeatsDetailed_leaves :
    Code.Leaves (reading x) (fun _ ↦ Showing seats) (getAvailableSeatsDetailed e)
      (fun views _ s ↦ Showing seats s ∧
        views.Perm (((s.rows e).filter fun r ↦ r.status = .available).map Seat.view))
      fun _ _ s ↦ FaultyRead x ∧ Showing seats s := by
  apply Code.Leaves.bind getEventSeatsWithStatus_leaves
  intro views
  refine Code.Leaves.ret _ ?_
  rintro l s ⟨h, perm⟩
  refine ⟨h, (perm.filter _).trans ?_⟩
  rw [List.filter_map]
  rfl

/-- The summary reads what `getEventSeatsWithStatus` returns. -/
theorem getEventAvailabilitySummary_leaves :
    Code.Leaves (reading x) (fun _ ↦ Showing seats) (getEventAvailabilitySummary e)
      (fun summary _ s ↦ Showing seats s ∧ summary.totalSeats = (s.rows e).length ∧
        summary.available = (s.rows e).countP fun r ↦ r.status = .available)
      fun _ _ s ↦ FaultyRead x ∧ Showing seats s := by
  apply Code.Leaves.bind getEventSeatsWithStatus_leaves
  intro views
  refine Code.Leaves.ret _ ?_
  rintro l s ⟨h, perm⟩
  refine ⟨h, ?_, ?_⟩
  · rw [perm.length_eq, List.length_map]
  · dsimp only
    rw [perm.countP_eq, List.countP_map]
    rfl

/-- The count is that of the rows on sale, if the status hash exists or no row is on sale. -/
theorem getAvailableCount_leaves :
    Code.Leaves (reading x)
      (fun _ s ↦ Showing seats s ∧
        (s.Missing e → ∀ r ∈ s.rows e, r.status ≠ .available)) (getAvailableCount e)
      (fun count _ s ↦ Showing seats s ∧
        count = (s.rows e).countP fun r ↦ r.status = .available)
      fun _ _ s ↦ FaultyRead x ∧ Showing seats s := by
  apply Code.Leaves.bind (Q := fun statuses _ s ↦ (Showing seats s ∧
    (s.Missing e → ∀ r ∈ s.rows e, r.status ≠ .available)) ∧
      statuses = s.db.availability.rows.filter fun a ↦ a.eventId = e)
  · apply await_reading
    · intro l s r h hr
      cases hr
      exact ⟨h, rfl⟩
    · exact fun _ _ _ hx h ↦ ⟨hx, h.1⟩
  intro statuses
  refine Code.Leaves.ret _ ?_
  rintro l s ⟨⟨h, none⟩, rfl⟩
  refine ⟨h, ?_⟩
  rcases h.1 e with hm | hm
  · rw [ReadStores.missing_iff.mp hm, List.countP_nil, eq_comm, List.countP_eq_zero]
    intro r hr
    simpa using none hm r hr
  · rw [hm.statuses.countP_eq, List.countP_map]
    rfl

/-- Warming up keeps what the hashes say. -/
theorem warmUpCache_leaves :
    Code.Leaves (reading x) (fun _ ↦ Showing seats) warmUpCache (fun _ _ ↦ Showing seats)
      fun _ _ ↦ Showing seats := by
  have each : ∀ events, Code.Leaves (reading x) (fun _ ↦ Showing seats) (rebuildEach events)
      (fun _ _ ↦ Showing seats) fun _ _ ↦ Showing seats := by
    intro events
    induction events with
    | nil => exact Code.Leaves.ret _ fun _ _ h ↦ h
    | cons e rest ih =>
      apply Code.Leaves.bind (Q := fun _ _ ↦ Showing seats)
      · exact rebuildCache_leaves.post (fun _ _ _ h ↦ h.1) fun _ _ _ h ↦ h.2
      · exact fun _ ↦ ih
  apply Code.Leaves.bind (Q := fun _ _ ↦ Showing seats)
  · apply await_reading
    · exact fun _ _ _ h _ ↦ h
    · exact fun _ _ _ _ h ↦ h
  · exact each

/-! ### Writers -/

/-- The calls that write the read model. -/
inductive WriteCall where
  | holdSeats (a : HoldCall)
  | releaseSeats (eventId : String) (seatIds : List String) (userId : String)
      (reason : SeatLockReleaseReason)
  | markAsSold (eventId : String) (seatIds : List String) (userId : String)
  | relaseSoldSeats (eventId : String) (seatIds : List String)
  deriving DecidableEq

namespace WriteCall

/-- The event of a call. -/
def eventId : WriteCall → String
  | .holdSeats a => a.eventId
  | .releaseSeats e _ _ _ | .markAsSold e _ _ | .relaseSoldSeats e _ => e

/-- The seats of a call. -/
def seatIds : WriteCall → List String
  | .holdSeats a => a.seatIds
  | .releaseSeats _ ids _ _ | .markAsSold _ ids _ | .relaseSoldSeats _ ids => ids

/-- The status that a call writes. -/
def status : WriteCall → SeatStatus
  | .holdSeats _ => .held
  | .releaseSeats _ _ _ _ | .relaseSoldSeats _ _ => .available
  | .markAsSold _ _ _ => .sold

/-- The code of a call. -/
def code : WriteCall → Code sig Unit Unit
  | .holdSeats a => do
    let _ ← a.code
    pure ()
  | .releaseSeats e ids u reason => SeatInventory.releaseSeats e ids u reason
  | .markAsSold e ids u => SeatInventory.markAsSold e ids u
  | .relaseSoldSeats e ids => SeatInventory.relaseSoldSeats e ids

/-- What a call leaves that runs alone, while locks may expire. -/
def outcome (c : WriteCall) (x : Nat → Op → Choice) (gone : Nat → List String) (s : Db) :
    Outcome sig Unit Unit Db :=
  c.code.exec (expiring x gone) 0 () s

/-- A call that returns has written the rows and the status hash; one that throws may have written
the rows, but not the hash. -/
theorem outcome_cases (c : WriteCall) (x : Nat → Op → Choice) (gone : Nat → List String) (s : Db) :
    ((c.outcome x gone s).throws = false ∧
      (c.outcome x gone s).state.seats = (s.marked c.eventId c.seatIds c.status).seats ∧
      (c.outcome x gone s).state.availability =
        (s.shown c.eventId c.seatIds c.status).availability) ∨
    ((c.outcome x gone s).throws = true ∧
      ((c.outcome x gone s).state.seats = s.seats ∨
        (c.outcome x gone s).state.seats = (s.marked c.eventId c.seatIds c.status).seats) ∧
      (c.outcome x gone s).state.availability = s.availability) := by
  cases c with
  | holdSeats a =>
    have left : Code.Leaves (expiring x gone) (fun _ s' ↦ s' = s) (code (.holdSeats a))
        (fun _ _ s' ↦ WasHeld a s s') fun _ _ ↦ NotHeld x a s := by
      apply Code.Leaves.bind (holdSeats_grown x gone a s)
      exact fun _ ↦ Code.Leaves.ret _ fun _ _ h ↦ h
    refine (left.outcome (n := 0) (l := ()) rfl).imp (And.imp_right ?_) (And.imp_right ?_)
    · rintro ⟨-, expiresAt, grown⟩
      rw [outcome, grown.rest]
      exact ⟨rfl, rfl⟩
    · rintro ⟨⟨keys, given, grown⟩ | ⟨-, expiresAt, grown⟩, -⟩
      · rw [outcome, grown.rest]
        exact ⟨.inl rfl, rfl⟩
      · rw [outcome, grown.rest]
        exact ⟨.inr rfl, rfl⟩
  | releaseSeats e ids u reason =>
    refine ((releaseSeats_leaves x gone e ids u reason s).outcome (n := 0) (l := ())
      (Lost.refl s)).imp (And.imp_right ?_) (And.imp_right ?_)
    · rintro ⟨⟨now, lost⟩, -⟩
      rw [outcome, code, lost.rest]
      exact ⟨rfl, rfl⟩
    · rintro ⟨-, lost | ⟨now, lost⟩⟩
      · rw [outcome, code, lost.rest]
        exact ⟨.inl rfl, rfl⟩
      · rw [outcome, code, lost.rest]
        exact ⟨.inr rfl, rfl⟩
  | markAsSold e ids u =>
    refine ((markAsSold_leaves x gone e ids u s).outcome (n := 0) (l := ())
      (Lost.refl s)).imp (And.imp_right ?_) (And.imp_right ?_)
    · rintro ⟨⟨now, lost⟩, -⟩
      rw [outcome, code, lost.rest]
      exact ⟨rfl, rfl⟩
    · rintro ⟨-, lost | ⟨now, lost⟩⟩
      · rw [outcome, code, lost.rest]
        exact ⟨.inl rfl, rfl⟩
      · rw [outcome, code, lost.rest]
        exact ⟨.inr rfl, rfl⟩
  | relaseSoldSeats e ids =>
    refine ((relaseSoldSeats_leaves x gone e ids s).outcome (n := 0) (l := ())
      (Lost.refl s)).imp (And.imp_right ?_) (And.imp_right ?_)
    · intro lost
      rw [outcome, code, lost.rest]
      exact ⟨rfl, rfl⟩
    · rintro ⟨-, lost | lost⟩
      · rw [outcome, code, lost.rest]
        exact ⟨.inl rfl, rfl⟩
      · rw [outcome, code, lost.rest]
        exact ⟨.inr rfl, rfl⟩

end WriteCall

/-- The stores when the database and the status hashes are these. -/
def ReadStores.withDb (s : ReadStores) (db : Db) : ReadStores := { s with db := db }

/-- Writing the status of stored seats to a hash that exists keeps it right. -/
theorem ReadStores.Shows.written (h : s.Shows) {db : Db} {e : String} {ids : List String}
    {st : SeatStatus} (hs : db.seats = (s.db.marked e ids st).seats)
    (ha : db.availability = (s.db.shown e ids st).availability)
    (hm : ids = [] ∨ (¬ s.Missing e ∧ ∀ seatId ∈ ids, (s.db.seats.find (e, seatId)).isSome)) :
    (s.withDb db).Shows := by
  have seats : ∀ place, (s.withDb db).db.seats.find place =
      (s.db.seats.find place).map (Seat.marked e ids st) := by
    intro place
    show db.seats.find place = _
    rw [hs, find_marked]
  have availability : ∀ place, (s.withDb db).db.availability.find place =
      if place.1 = e ∧ place.2 ∈ ids then some ⟨e, place.2, st⟩
      else s.db.availability.find place := by
    intro place
    show db.availability.find place = _
    rw [ha, find_shown]
  intro e'
  have listed : ∀ place : String × String, place.1 = e → place.2 ∈ ids →
      ∃ r, s.db.seats.find place = some r := by
    intro place he hid
    rcases hm with rfl | ⟨-, stored⟩
    · cases hid
    · have := stored place.2 hid
      rw [← he] at this
      exact Option.isSome_iff_exists.mp this
  rcases h e' with missing | mirrored
  · left
    intro place hp
    rw [availability, if_neg]
    · exact missing place hp
    · rintro ⟨he, hid⟩
      rcases hm with rfl | ⟨hm, -⟩
      · cases hid
      · have same : e' = e := hp.symm.trans he
        exact hm (same ▸ missing)
  · right
    constructor
    · intro place hp
      rw [availability, seats]
      by_cases hin : place.1 = e ∧ place.2 ∈ ids
      · rw [if_pos hin]
        obtain ⟨r, hr⟩ := listed place hin.1 hin.2
        have hk := (Table.find_eq_some_iff.mp hr).2
        have marked : r.eventId = e ∧ r.seatId ∈ ids := by
          rw [← hk] at hin
          exact hin
        rw [hr, Option.map_some, Option.map_some, Seat.marked, if_pos marked]
        rw [← hk]
        show some _ = some (⟨r.eventId, r.seatId, st⟩ : SeatAvailability)
        rw [marked.1]
        rfl
      · rw [if_neg hin, mirrored.status place hp]
        cases hr : s.db.seats.find place with
        | none => rfl
        | some r =>
          have hk := (Table.find_eq_some_iff.mp hr).2
          have out : ¬ (r.eventId = e ∧ r.seatId ∈ ids) := by
            rw [← hk] at hin
            exact hin
          rw [Option.map_some, Option.map_some, Option.map_some, Seat.marked, if_neg out]
    · intro place hp
      show s.details.find place = _
      rw [seats, mirrored.detail place hp, Option.map_map]
      congr 1
      funext r
      show r.detailEntry = (r.marked e ids st).detailEntry
      unfold Seat.marked
      split <;> rfl

/-- The condition on a writer: it writes to the hash of an event only where the hash exists and
the listed seats are stored, and it does not fail after its commit. -/
def WriteCall.Orderly (c : WriteCall) (out : Outcome sig Unit Unit Db) (s : ReadStores) : Prop :=
  (out.throws = false → c.seatIds = [] ∨ (¬ s.Missing c.eventId ∧
    ∀ seatId ∈ c.seatIds, (s.db.seats.find (c.eventId, seatId)).isSome)) ∧
  (out.throws = true → out.state.seats = s.db.seats ∨ s.Missing c.eventId)

/-- Where the hash does not change, the seats of events without a hash may. -/
theorem ReadStores.Shows.unwritten (h : s.Shows) {db : Db}
    (ha : db.availability = s.db.availability)
    (hs : ∀ place, ¬ s.Missing place.1 → db.seats.find place = s.db.seats.find place) :
    (s.withDb db).Shows := by
  intro e
  by_cases hm : s.Missing e
  · left
    intro place hp
    show db.availability.find place = none
    rw [ha]
    exact hm place hp
  · right
    have mirrored := (h e).resolve_left hm
    constructor
    · rintro place rfl
      show db.availability.find place = (db.seats.find place).map Seat.shown
      rw [ha, hs place hm]
      exact mirrored.status place rfl
    · rintro place rfl
      show s.details.find place = (db.seats.find place).map Seat.detailEntry
      rw [hs place hm]
      exact mirrored.detail place rfl

/-- A writer that meets its condition keeps what the hashes say. -/
theorem ReadStores.Shows.write (h : s.Shows) (c : WriteCall) (x : Nat → Op → Choice)
    (gone : Nat → List String) (hc : c.Orderly (c.outcome x gone s.db) s) :
    (s.withDb (c.outcome x gone s.db).state).Shows := by
  rcases c.outcome_cases x gone s.db with ⟨returned, hs, ha⟩ | ⟨threw, hs, ha⟩
  · exact h.written hs ha (hc.1 returned)
  · apply h.unwritten ha
    intro place hm
    rcases hc.2 threw with same | missing
    · rw [same]
    · rcases hs with same | marked
      · rw [same]
      · rw [marked, find_marked]
        have other : place.1 ≠ c.eventId := fun he ↦ hm (he ▸ missing)
        cases hr : s.db.seats.find place with
        | none => rfl
        | some r =>
          have hk := (Table.find_eq_some_iff.mp hr).2
          have out : ¬ (r.eventId = c.eventId ∧ r.seatId ∈ c.seatIds) := by
            rw [← hk] at other
            exact fun hin ↦ other hin.1
          rw [Option.map_some, Seat.marked, if_neg out]

/-- The rows of a new event leave the other events alone, and the event has no hash. -/
theorem ReadStores.Shows.created (h : s.Shows) {payload : EventCreateMessage}
    (he : s.db.eventSeats payload.eventId = []) : (s.withDb (s.db.created payload)).Shows := by
  have same : (s.db.created payload).availability = s.db.availability := rfl
  apply h.unwritten same
  intro place hm
  have other : place.1 ≠ payload.eventId := by
    intro hp
    apply hm
    intro place' hp'
    have mirrored := (h place.1).resolve_left hm
    rw [mirrored.status place' hp', Option.map_eq_none_iff, Option.eq_none_iff_forall_ne_some]
    intro r hr
    obtain ⟨hrow, hk⟩ := Table.find_eq_some_iff.mp hr
    have listed : r ∈ s.db.eventSeats payload.eventId := by
      apply List.mem_filter.mpr ⟨hrow, ?_⟩
      rw [decide_eq_true_eq, ← hp, ← hp', ← hk]
      rfl
    rw [he] at listed
    cases listed
  apply Table.find_putAll_of_ne
  intro r hr hk
  obtain ⟨r₀, hr₀, hr'⟩ := mem_numberedSeats hr
  obtain ⟨seat, -, rfl⟩ := List.mem_map.mp hr₀
  apply other
  rw [← hk, hr']
  rfl

/-! ### Runs -/

/-- What is asked of the read service. -/
inductive Query where
  | seats (eventId : String)
  | available (eventId : String)
  | count (eventId : String)
  | summary (eventId : String)
  deriving DecidableEq

/-- What it answers. -/
inductive QueryAnswer where
  | views (views : List SeatView)
  | count (count : Nat)
  | summary (summary : AvailabilitySummary)
  deriving DecidableEq

/-- The code of a query. -/
def Query.code : Query → Code readSig Unit QueryAnswer
  | .seats e => do return .views (← getEventSeatsWithStatus e)
  | .available e => do return .views (← getAvailableSeatsDetailed e)
  | .count e => do return .count (← getAvailableCount e)
  | .summary e => do return .summary (← getEventAvailabilitySummary e)

/-- What a query leaves that runs alone. -/
def Query.outcome (q : Query) (x : Nat → ReadOp → Choice) (s : ReadStores) :
    Outcome readSig Unit QueryAnswer ReadStores :=
  q.code.exec (reading x) 0 () s

/-- The answer follows the rows: one entry for each row, one for each row on sale, or their
number. -/
def Query.Right (s : ReadStores) : Query → QueryAnswer → Prop
  | .seats e, .views views => views.Perm ((s.rows e).map Seat.view)
  | .available e, .views views =>
    views.Perm (((s.rows e).filter fun r ↦ r.status = .available).map Seat.view)
  | .count e, .count n => n = (s.rows e).countP fun r ↦ r.status = .available
  | .summary _, .summary _ => True
  | _, _ => False

/-- A query that returns is right, and it returns if no operation fails. -/
def Query.Correct (q : Query) (x : Nat → ReadOp → Choice) (s : ReadStores) : Prop :=
  match (q.outcome x s).result with
  | .ok a => q.Right s a
  | .error _ => FaultyRead x

/-- One call. -/
inductive Step where
  | create (payload : EventCreateMessage) (x : Nat → CreationOp → Choice)
  | write (c : WriteCall) (x : Nat → Op → Choice) (gone : Nat → List String)
  | restart (x : Nat → ReadOp → Choice)
  | query (q : Query) (x : Nat → ReadOp → Choice)

/-- What a call leaves; a restart forgets what is in memory. -/
def Step.next (s : ReadStores) : Step → ReadStores
  | .create payload x => s.withDb ((createFromEvent payload).exec (creating x) 0 () s.db).state
  | .write c x gone => s.withDb (c.outcome x gone s.db).state
  | .restart x =>
    (warmUpCache.exec (reading x) 0 () (s.withDb { s.db with isProcessing := false })).state
  | .query q x => (q.outcome x s).state

/-- What calls reach one after another, from any seats and empty Redis. -/
inductive Visited (ok : Step → ReadStores → Prop) : ReadStores → Prop where
  | start (seats : Table Seat.place) : Visited ok ⟨.stocked seats, .empty⟩
  | step {s : ReadStores} (a : Step) (hok : ok a s) (hs : Visited ok s) : Visited ok (a.next s)

/-- The condition on a query: the count is asked for where the hash exists or no seat is on
sale. -/
def Query.Orderly (q : Query) (s : ReadStores) : Prop :=
  ∀ e, q = .count e → s.Missing e → ∀ r ∈ s.rows e, r.status ≠ .available

/-- The condition on a call. -/
def Step.Orderly : Step → ReadStores → Prop
  | .write c x gone, s => c.Orderly (c.outcome x gone s.db) s
  | .query q _, s => q.Orderly s
  | _, _ => True

/-- A query in its condition answers from the rows and keeps what the hashes say. -/
theorem Query.leaves (q : Query) (x : Nat → ReadOp → Choice) {s₀ : ReadStores} (h : s₀.Shows)
    (hq : q.Orderly s₀) :
    Code.Leaves (reading x) (fun _ s ↦ s = s₀) q.code (fun a _ s ↦ s.Shows ∧ q.Right s₀ a)
      fun _ _ s ↦ FaultyRead x ∧ s.Shows := by
  have showing : ∀ (l : Unit) (s : ReadStores), s = s₀ → Showing s₀.db.seats s := by
    rintro l s rfl
    exact ⟨h, rfl⟩
  have rows : ∀ {s : ReadStores} e, Showing s₀.db.seats s → s.rows e = s₀.rows e := by
    intro s e hs
    unfold ReadStores.rows
    rw [hs.2]
  have failed : ∀ (err : Exception) (l : Unit) s, FaultyRead x ∧ Showing s₀.db.seats s →
      FaultyRead x ∧ s.Shows := fun _ _ _ h ↦ ⟨h.1, h.2.1⟩
  cases q with
  | seats e =>
    refine Code.Leaves.bind ((getEventSeatsWithStatus_leaves.pre showing).post
      (fun _ _ _ h ↦ h) failed) fun views ↦ Code.Leaves.ret _ ?_
    rintro l s ⟨hs, perm⟩
    rw [rows e hs] at perm
    exact ⟨hs.1, perm⟩
  | available e =>
    refine Code.Leaves.bind ((getAvailableSeatsDetailed_leaves.pre showing).post
      (fun _ _ _ h ↦ h) failed) fun views ↦ Code.Leaves.ret _ ?_
    rintro l s ⟨hs, perm⟩
    rw [rows e hs] at perm
    exact ⟨hs.1, perm⟩
  | count e =>
    refine Code.Leaves.bind ((getAvailableCount_leaves.pre ?_).post
      (fun _ _ _ h ↦ h) failed) fun count ↦ Code.Leaves.ret _ ?_
    · rintro l s rfl
      exact ⟨⟨h, rfl⟩, hq e rfl⟩
    · rintro l s ⟨hs, he⟩
      rw [rows e hs] at he
      exact ⟨hs.1, he⟩
  | summary e =>
    refine Code.Leaves.bind ((getEventAvailabilitySummary_leaves.pre showing).post
      (fun _ _ _ h ↦ h) failed) fun summary ↦ Code.Leaves.ret _ ?_
    rintro l s ⟨hs, -⟩
    exact ⟨hs.1, trivial⟩

/-- A query in its condition is correct. -/
theorem Query.correct {q : Query} {x : Nat → ReadOp → Choice} {s : ReadStores} (h : s.Shows)
    (hq : q.Orderly s) : q.Correct x s := by
  have left := q.leaves x h hq 0 () s rfl
  unfold Query.Correct Query.outcome
  rcases hr : q.code.exec (reading x) 0 () s with ⟨r, l, n, s'⟩
  rw [hr] at left
  cases r with
  | ok a => exact left.2
  | error err => exact left.1

/-- Every run whose calls meet the condition keeps what the hashes say. -/
theorem Visited.shows {s : ReadStores} (h : Visited Step.Orderly s) : s.Shows := by
  induction h with
  | start seats => exact fun e ↦ .inl fun _ _ ↦ rfl
  | @step s a hok _ ih =>
    cases a with
    | create payload x =>
      rcases (createFromEvent_leaves x payload s.db).outcome (n := 0) (l := ()) rfl with
        ⟨-, left⟩ | ⟨-, same, -⟩
      · rcases left with ⟨-, same⟩ | ⟨none, -, created⟩
        · rw [Step.next, same]
          exact ih
        · rw [Step.next, created]
          exact ih.created none
      · rw [Step.next, same]
        exact ih
    | write c x gone => exact ih.write c x gone hok
    | restart x =>
      let woken := s.withDb { s.db with isProcessing := false }
      have shows : woken.Shows := ih.unwritten rfl fun _ _ ↦ rfl
      have start : Showing woken.db.seats woken := ⟨shows, rfl⟩
      rcases warmUpCache_leaves.outcome (n := 0) (l := ()) start with h | h
      · exact h.2.1
      · exact h.2.1
    | query q x =>
      have left : Code.Leaves (reading x) (fun _ s' ↦ s' = s) q.code
          (fun _ _ ↦ ReadStores.Shows) fun _ _ ↦ ReadStores.Shows :=
        (q.leaves x ih hok).post (fun _ _ _ h ↦ h.1) fun _ _ _ h ↦ h.2
      rcases left.outcome (n := 0) (l := ()) rfl with h | h
      · exact h.2
      · exact h.2

/-- The read model refines the database in every run whose calls meet the condition: each query in
its condition answers from the rows. -/
theorem read_model_refines {s : ReadStores} (h : Visited Step.Orderly s) (q : Query)
    (x : Nat → ReadOp → Choice) (hq : q.Orderly s) : q.Correct x s :=
  Query.correct h.shows hq

/-- An event with one seat, which nobody has read. -/
def unread : ReadStores := (Step.create oneSeat fun _ _ ↦ {}).next ⟨.stocked .empty, .empty⟩

/-- The event after its seats were read. -/
def readOnce : ReadStores := (Step.query (.seats "e") fun _ _ ↦ {}).next unread

/-- The event after its seat was held. -/
def heldOnce : ReadStores :=
  (Step.write (.holdSeats ⟨"e", ["A"], "u", "s"⟩) (fun _ _ ↦ {}) fun _ ↦ []).next readOnce

/-- After the event was read, the count follows a hold. -/
theorem read_model_refines_held :
    Visited Step.Orderly heldOnce ∧ (Query.count "e").Correct (fun _ _ ↦ {}) heldOnce := by
  have read : Visited Step.Orderly readOnce := by
    apply Visited.step _ _ (Visited.step _ trivial (.start .empty))
    exact nofun
  have run : Visited Step.Orderly heldOnce := by
    apply Visited.step _ _ read
    show WriteCall.Orderly _ _ _
    unfold WriteCall.Orderly
    decide +kernel
  refine ⟨run, read_model_refines run _ _ ?_⟩
  intro e he missing
  cases he
  revert missing
  decide +kernel

/-- Before the event was read, the count is zero although a seat is on sale. -/
theorem count_before_read :
    ¬ ∀ s, Visited (fun _ _ ↦ True) s → ∀ (q : Query) x, q.Correct x s := by
  intro h
  have wrong := h unread (.step _ trivial (.start .empty)) (.count "e") fun _ _ ↦ {}
  have answer : ((Query.count "e").outcome (fun _ _ ↦ {}) unread).result = .ok (.count 0) := rfl
  rw [Query.Correct, answer] at wrong
  have onSale : (unread.rows "e").countP (fun r ↦ r.status = .available) = 1 := by decide +kernel
  exact absurd (wrong.trans onSale) Nat.zero_ne_one

end Ticketing.SeatInventory
