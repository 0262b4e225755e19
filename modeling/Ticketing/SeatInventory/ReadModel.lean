import Ticketing.SeatInventory.Writers

/-!
# The read model

Library `SeatInventory`. Follows `cqrs/availability-read.service.ts`: the status and the detail
hash of an event in Redis, the readers of the hashes, and the rebuild from the rows. The status
hashes are stored beside the seats; here they are joined by the detail hashes.
-/

namespace Ticketing.SeatInventory

open Async Store

/-- The JSON value of a field of the hash `seat_detail:{eventId}`. -/
structure SeatDetail where
  seatId : String
  sectionId : String
  sectionName : String
  ticketTypeId : String
  ticketTypeName : String
  price : Money
  currency : String
  row : String
  seatNumber : String
  seatType : String
  deriving DecidableEq, Repr

/-- A field of the hash `seat_detail:{eventId}` with its value. -/
structure DetailEntry where
  eventId : String
  field : String
  value : SeatDetail
  deriving DecidableEq, Repr

/-- The hash and field an entry is stored under. -/
def DetailEntry.place (d : DetailEntry) : String × String := (d.eventId, d.field)

/-- The stores that the read model uses. -/
structure ReadStores where
  db : Db
  details : Table DetailEntry.place
  deriving DecidableEq

/-- The JSON value of a seat. -/
def Seat.detail (seat : Seat) : SeatDetail where
  seatId := seat.seatId
  sectionId := seat.sectionId
  sectionName := seat.sectionName
  ticketTypeId := seat.ticketTypeId
  ticketTypeName := seat.ticketTypeName
  price := seat.price
  currency := seat.currency
  row := seat.row
  seatNumber := seat.seatNumber
  seatType := seat.seatType

/-- A Redis command of a pipeline. -/
inductive Command where
  | delStatus (eventId : String)
  | delDetail (eventId : String)
  | hsetStatus (eventId field : String) (status : SeatStatus)
  | hsetDetail (eventId field : String) (value : SeatDetail)
  deriving DecidableEq, Repr

/-- The effect of a command. -/
def Command.run (s : ReadStores) : Command → ReadStores
  | .delStatus e =>
    { s with db := { s.db with availability := s.db.availability.remove fun a ↦ a.eventId = e } }
  | .delDetail e => { s with details := s.details.remove fun d ↦ d.eventId = e }
  | .hsetStatus e field status =>
    { s with db := { s.db with availability := s.db.availability.put ⟨e, field, status⟩ } }
  | .hsetDetail e field value => { s with details := s.details.put ⟨e, field, value⟩ }

/-- What the read service awaits. -/
inductive ReadOp where
  | hgetallStatus (eventId : String)
  | hgetallDetail (eventId : String)
  | find (eventId : String)
  | distinctEvents
  | exec (pipeline : List Command)
  deriving DecidableEq, Repr

/-- The replies. -/
abbrev ReadRes : ReadOp → Type
  | .hgetallStatus _ => List SeatAvailability
  | .hgetallDetail _ => List DetailEntry
  | .find _ => List Seat
  | .distinctEvents => List String
  | .exec _ => Unit

/-- The operations of the read service. -/
abbrev readSig : Sig := ⟨ReadOp, ReadRes, Exception⟩

/-- The effect of an operation that does not fail. -/
def performRead : (o : ReadOp) → ReadStores → readSig.Answer o × ReadStores
  | .hgetallStatus e, s => (.ok (s.db.availability.rows.filter fun a ↦ a.eventId = e), s)
  | .hgetallDetail e, s => (.ok (s.details.rows.filter fun d ↦ d.eventId = e), s)
  | .find e, s => (.ok (s.db.seats.rows.filter fun r ↦ r.eventId = e), s)
  | .distinctEvents, s => (.ok (s.db.seats.rows.map Seat.eventId).dedup, s)
  | .exec pipeline, s => (.ok (), pipeline.foldl Command.run s)

/-- The answers of the stores when `x` is decided. -/
def reading (x : Nat → ReadOp → Choice) : Handler readSig ReadStores := fun n o s ↦
  match (x n o).fault with
  | some e => (.error e, s)
  | none => performRead o s

/-- Await one operation of the read service. -/
abbrev awaitRead {L : Type} (o : ReadOp) : Code readSig L (ReadRes o) := Code.await (S := readSig) o

/-! ### `AvailabilityReadService` -/

/-- An entry of `getEventSeatsWithStatus`; without a detail it has a status only. -/
structure SeatView where
  detail : Option SeatDetail
  status : SeatStatus
  deriving DecidableEq, Repr

/-- The pipeline of `rebuildCache`. -/
def rebuildPipeline (eventId : String) (seats : List Seat) : List Command :=
  .delStatus eventId :: .delDetail eventId :: seats.flatMap fun seat ↦
    [.hsetStatus eventId seat.seatId seat.status, .hsetDetail eventId seat.seatId seat.detail]

/-- `rebuildCache` (`availability-read.service.ts:127–166`). -/
def rebuildCache {L : Type} (eventId : String) : Code readSig L Unit := do
  let seats ← awaitRead (.find eventId)
  if seats.isEmpty then pure ()
  else awaitRead (.exec (rebuildPipeline eventId seats))

/-- The entries of the two hashes. -/
def seatViews (statuses : List SeatAvailability) (details : List DetailEntry) : List SeatView :=
  statuses.map fun a ↦
    { detail := (details.find? fun d ↦ d.field = a.seatId).map DetailEntry.value
      status := a.status }

/-- `getEventSeatsWithStatus` (`availability-read.service.ts:45–63`). -/
def getEventSeatsWithStatus (eventId : String) : Code readSig Unit (List SeatView) := do
  let statuses ← awaitRead (.hgetallStatus eventId)
  let details ← awaitRead (.hgetallDetail eventId)
  if statuses.isEmpty then
    rebuildCache eventId
    let statuses ← awaitRead (.hgetallStatus eventId)
    let details ← awaitRead (.hgetallDetail eventId)
    pure (seatViews statuses details)
  else pure (seatViews statuses details)

/-- `getAvailableSeatsDetailed` (`availability-read.service.ts:65–68`). -/
def getAvailableSeatsDetailed (eventId : String) : Code readSig Unit (List SeatView) := do
  let allSeats ← getEventSeatsWithStatus eventId
  pure (allSeats.filter fun v ↦ v.status = .available)

/-- The counts of a section. -/
structure SectionSummary where
  total : Nat
  available : Nat
  held : Nat
  sold : Nat
  price : Option Money
  deriving DecidableEq, Repr

/-- One more seat of a section. -/
def SectionSummary.count (t : SectionSummary) (status : SeatStatus) : SectionSummary :=
  let t := { t with total := t.total + 1 }
  match status with
  | .available => { t with available := t.available + 1 }
  | .held => { t with held := t.held + 1 }
  | .sold => { t with sold := t.sold + 1 }
  | .reserved => t

/-- The section of an entry: a missing or empty name is `Unknown`. -/
def SeatView.sectionKey (v : SeatView) : String :=
  match v.detail with
  | some d => if d.sectionName = "" then "Unknown" else d.sectionName
  | none => "Unknown"

/-- The loop of `getEventAvailabilitySummary`: sections in order of first occurrence, with the
price of their first seat. -/
def summarize (sections : List (String × SectionSummary)) (v : SeatView) :
    List (String × SectionSummary) :=
  if sections.any fun s ↦ s.1 = v.sectionKey then
    sections.map fun s ↦ if s.1 = v.sectionKey then (s.1, s.2.count v.status) else s
  else
    sections ++ [(v.sectionKey,
      SectionSummary.count ⟨0, 0, 0, 0, v.detail.map SeatDetail.price⟩ v.status)]

/-- The reply of `getEventAvailabilitySummary`. -/
structure AvailabilitySummary where
  totalSeats : Nat
  available : Nat
  held : Nat
  sold : Nat
  sections : List (String × SectionSummary)
  deriving DecidableEq, Repr

/-- `getEventAvailabilitySummary` (`availability-read.service.ts:70–113`). -/
def getEventAvailabilitySummary (eventId : String) : Code readSig Unit AvailabilitySummary := do
  let allSeats ← getEventSeatsWithStatus eventId
  pure {
    totalSeats := allSeats.length
    available := allSeats.countP fun v ↦ v.status = .available
    held := allSeats.countP fun v ↦ v.status = .held
    sold := allSeats.countP fun v ↦ v.status = .sold
    sections := allSeats.foldl summarize [] }

/-- `getAvailableCount` (`availability-read.service.ts:115–120`). -/
def getAvailableCount (eventId : String) : Code readSig Unit Nat := do
  let statuses ← awaitRead (.hgetallStatus eventId)
  pure (statuses.countP fun a ↦ a.status = .available)

/-- The loop of `warmUpCache`. -/
def rebuildEach : List String → Code readSig Unit Unit
  | [] => pure ()
  | eventId :: rest => do
    rebuildCache eventId
    rebuildEach rest

/-- `onModuleInit` (`availability-read.service.ts:27–29`), which is `warmUpCache`. -/
def warmUpCache : Code readSig Unit Unit := do
  let eventIds ← awaitRead .distinctEvents
  rebuildEach eventIds

/-! ### What the hashes say -/

/-- What the status hash says of a seat. -/
def Seat.shown (r : Seat) : SeatAvailability := ⟨r.eventId, r.seatId, r.status⟩

/-- What the detail hash says of a seat. -/
def Seat.detailEntry (r : Seat) : DetailEntry := ⟨r.eventId, r.seatId, r.detail⟩

/-- The entry of a seat. -/
def Seat.view (r : Seat) : SeatView := ⟨some r.detail, r.status⟩

/-- The rows of an event. -/
def ReadStores.rows (s : ReadStores) (eventId : String) : List Seat :=
  s.db.seats.rows.filter fun r ↦ r.eventId = eventId

/-- The status hash of the event does not exist. -/
def ReadStores.Missing (s : ReadStores) (eventId : String) : Prop :=
  ∀ place : String × String, place.1 = eventId → s.db.availability.find place = none

/-- The hashes of the event have one field for each of its rows. -/
structure ReadStores.Mirrored (s : ReadStores) (eventId : String) : Prop where
  status : ∀ place : String × String, place.1 = eventId →
    s.db.availability.find place = (s.db.seats.find place).map Seat.shown
  detail : ∀ place : String × String, place.1 = eventId →
    s.details.find place = (s.db.seats.find place).map Seat.detailEntry

variable {s : ReadStores} {e : String}

/-- A row of the event is found under its place. -/
theorem ReadStores.mem_rows {r : Seat} :
    r ∈ s.rows e ↔ r.eventId = e ∧ s.db.seats.find r.place = some r := by
  unfold rows
  rw [List.mem_filter, Table.find_eq_some_iff, decide_eq_true_eq]
  tauto

/-- Without a status hash nothing is read from it. -/
theorem ReadStores.missing_iff :
    s.Missing e ↔ (s.db.availability.rows.filter fun a ↦ a.eventId = e) = [] := by
  rw [List.filter_eq_nil_iff]
  constructor
  · intro h a ha hq
    have none := h a.place (of_decide_eq_true hq)
    rw [Table.find_of_mem ha] at none
    cases none
  · intro h place hp
    rw [Option.eq_none_iff_forall_ne_some]
    intro a ha
    obtain ⟨hm, hk⟩ := Table.find_eq_some_iff.mp ha
    apply h a hm
    rw [decide_eq_true_eq, ← hp, ← hk]
    rfl

instance (s : ReadStores) (e : String) : Decidable (s.Missing e) :=
  decidable_of_iff _ ReadStores.missing_iff.symm

/-- Rows of a table that were selected have different keys. -/
theorem nodup_filter {α κ : Type} {key : α → κ} (t : Table key) (p : α → Bool) :
    (t.rows.filter p).Nodup :=
  List.Nodup.of_map key (t.nodup.sublist (List.filter_sublist.map key))

/-- A status hash with one field for each row has the entries of the rows. -/
theorem ReadStores.Mirrored.statuses (h : s.Mirrored e) :
    (s.db.availability.rows.filter fun a ↦ a.eventId = e).Perm ((s.rows e).map Seat.shown) := by
  have nodup : ((s.rows e).map Seat.shown).Nodup := by
    apply List.Nodup.of_map SeatAvailability.place
    rw [List.map_map]
    exact s.db.seats.nodup.sublist (List.filter_sublist.map Seat.place)
  rw [List.perm_ext_iff_of_nodup (nodup_filter _ _) nodup]
  intro a
  rw [List.mem_filter, List.mem_map, decide_eq_true_eq]
  constructor
  · rintro ⟨ha, he⟩
    have found := h.status a.place he
    rw [Table.find_of_mem ha] at found
    obtain ⟨r, hr, hs⟩ := Option.map_eq_some_iff.mp found.symm
    obtain ⟨hm, hp⟩ := Table.find_eq_some_iff.mp hr
    refine ⟨r, List.mem_filter.mpr ⟨hm, ?_⟩, hs⟩
    rw [decide_eq_true_eq, ← he]
    exact congrArg Prod.fst hp
  · rintro ⟨r, hr, rfl⟩
    obtain ⟨he, hf⟩ := ReadStores.mem_rows.mp hr
    have found := h.status r.place he
    rw [hf] at found
    exact ⟨(Table.find_eq_some_iff.mp found).1, he⟩

/-- The detail of a row is found in the detail hash. -/
theorem ReadStores.Mirrored.find_detail (h : s.Mirrored e) {r : Seat} (hr : r ∈ s.rows e) :
    ((s.details.rows.filter fun d ↦ d.eventId = e).find? fun d ↦ d.field = r.seatId) =
      some r.detailEntry := by
  obtain ⟨he, hf⟩ := ReadStores.mem_rows.mp hr
  have found := h.detail r.place he
  rw [hf] at found
  rw [List.find?_filter, ← Option.map_some, ← found]
  unfold Table.find
  congr 1
  funext d
  simp [DetailEntry.place, Seat.place, Prod.ext_iff, he]

/-- What is read from mirrored hashes is one entry for each row. -/
theorem ReadStores.Mirrored.views (h : s.Mirrored e) :
    (seatViews (s.db.availability.rows.filter fun a ↦ a.eventId = e)
      (s.details.rows.filter fun d ↦ d.eventId = e)).Perm ((s.rows e).map Seat.view) := by
  unfold seatViews
  refine (h.statuses.map _).trans ?_
  rw [List.map_map]
  apply List.Perm.of_eq
  apply List.map_congr_left
  intro r hr
  have found := h.find_detail hr
  show SeatView.mk (Option.map DetailEntry.value (List.find? (fun d ↦ d.field = r.seatId) _))
    r.status = r.view
  rw [found]
  rfl

/-! ### Rebuilding -/

/-- What a table finds after the rows of an event were rebuilt in it. -/
theorem find_rebuilt {α : Type} {key : α → String × String} (t : Table key) {p : α → Bool}
    (hp : ∀ a, p a = decide ((key a).1 = e)) (seats : Table Seat.place) {f : Seat → α}
    (hf : ∀ r, key (f r) = r.place) (place : String × String) :
    ((t.remove p).putAll ((seats.rows.filter fun r ↦ r.eventId = e).map f)).find place =
      if place.1 = e then (seats.find place).map f else t.find place := by
  have removed : (t.remove p).find place = if place.1 = e then none else t.find place := by
    split
    · next he =>
      apply Table.find_remove_of_deleted
      intro a ha
      simp [hp, (Table.find_eq_some_iff.mp ha).2, he]
    · next he =>
      apply Table.find_remove_of_kept
      intro a ha
      simp [hp, (Table.find_eq_some_iff.mp ha).2, he]
  cases hs : seats.find place with
  | some r =>
    obtain ⟨hm, rfl⟩ := Table.find_eq_some_iff.mp hs
    split
    · next he =>
      have listed : f r ∈ (seats.rows.filter fun r ↦ r.eventId = e).map f := by
        apply List.mem_map_of_mem
        exact List.mem_filter.mpr ⟨hm, decide_eq_true he⟩
      rw [Option.map_some, ← hf r]
      apply Table.find_putAll_of_mem _ listed
      intro a ha hk
      obtain ⟨r', hr', rfl⟩ := List.mem_map.mp ha
      have hk : r'.place = r.place := by rw [← hf, hk, hf]
      have same := Table.find_of_mem (List.mem_filter.mp hr').1
      rw [hk, hs] at same
      rw [Option.some.inj same]
    · next he =>
      rw [Table.find_putAll_of_ne, removed, if_neg he]
      intro a ha hk
      obtain ⟨r', hr', rfl⟩ := List.mem_map.mp ha
      apply he
      rw [← hk, hf]
      exact of_decide_eq_true (List.mem_filter.mp hr').2
  | none =>
    rw [Table.find_putAll_of_ne, removed]
    · rfl
    · intro a ha hk
      obtain ⟨r', hr', rfl⟩ := List.mem_map.mp ha
      have stored := Table.find_of_mem (List.mem_filter.mp hr').1
      rw [← hf, hk, hs] at stored
      cases stored

/-- The stores after a rebuild of the event. -/
def ReadStores.rebuilt (s : ReadStores) (eventId : String) : ReadStores :=
  let statuses := s.db.availability.remove fun a ↦ a.eventId = eventId
  let details := s.details.remove fun d ↦ d.eventId = eventId
  { db := { s.db with availability := statuses.putAll ((s.rows eventId).map Seat.shown) }
    details := details.putAll ((s.rows eventId).map Seat.detailEntry) }

/-- The commands of a rebuild leave the stores rebuilt. -/
theorem run_rebuildPipeline :
    (rebuildPipeline e (s.rows e)).foldl Command.run s = s.rebuilt e := by
  have puts : ∀ (seats : List Seat) (t : ReadStores), (∀ r ∈ seats, r.eventId = e) →
      (seats.flatMap fun seat ↦ [Command.hsetStatus e seat.seatId seat.status,
        .hsetDetail e seat.seatId seat.detail]).foldl Command.run t =
        { db := { t.db with availability := t.db.availability.putAll (seats.map Seat.shown) }
          details := t.details.putAll (seats.map Seat.detailEntry) } := by
    intro seats
    induction seats with
    | nil => exact fun _ _ ↦ rfl
    | cons r seats ih =>
      intro t he
      have first := he r List.mem_cons_self
      rw [List.flatMap_cons, List.foldl_append]
      rw [ih _ fun r' hr' ↦ he r' (List.mem_cons_of_mem _ hr')]
      simp only [List.foldl_cons, List.foldl_nil, Command.run, ← first]
      rfl
  unfold rebuildPipeline
  rw [List.foldl_cons, List.foldl_cons, puts _ _ fun r hr ↦ (ReadStores.mem_rows.mp hr).1]
  rfl

/-- The status hashes after a rebuild. -/
theorem ReadStores.find_status_rebuilt (s : ReadStores) (place : String × String) :
    (s.rebuilt e).db.availability.find place =
      if place.1 = e then (s.db.seats.find place).map Seat.shown
      else s.db.availability.find place :=
  find_rebuilt s.db.availability (fun _ ↦ rfl) s.db.seats (fun _ ↦ rfl) place

/-- The detail hashes after a rebuild. -/
theorem ReadStores.find_detail_rebuilt (s : ReadStores) (place : String × String) :
    (s.rebuilt e).details.find place =
      if place.1 = e then (s.db.seats.find place).map Seat.detailEntry
      else s.details.find place :=
  find_rebuilt s.details (fun _ ↦ rfl) s.db.seats (fun _ ↦ rfl) place

/-- The hashes of a rebuilt event mirror its rows. -/
theorem ReadStores.mirrored_rebuilt : (s.rebuilt e).Mirrored e where
  status place he := (s.find_status_rebuilt place).trans (if_pos he)
  detail place he := (s.find_detail_rebuilt place).trans (if_pos he)

/-- A rebuild leaves the hashes of other events alone. -/
theorem ReadStores.Mirrored.rebuilt {e' : String} (h : s.Mirrored e') :
    (s.rebuilt e).Mirrored e' := by
  by_cases he : e' = e
  · rw [he]
    exact ReadStores.mirrored_rebuilt
  · constructor
    · intro place hp
      have other : place.1 ≠ e := hp ▸ he
      rw [ReadStores.find_status_rebuilt, if_neg other]
      exact h.status place hp
    · intro place hp
      have other : place.1 ≠ e := hp ▸ he
      rw [ReadStores.find_detail_rebuilt, if_neg other]
      exact h.detail place hp

/-- A rebuild of one event creates no hash of another. -/
theorem ReadStores.Missing.rebuilt {e' : String} (h : s.Missing e') (he : e' ≠ e) :
    (s.rebuilt e).Missing e' := by
  intro place hp
  have other : place.1 ≠ e := hp ▸ he
  rw [ReadStores.find_status_rebuilt, if_neg other]
  exact h place hp

end Ticketing.SeatInventory
