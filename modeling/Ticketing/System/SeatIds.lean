import Mathlib.Data.List.Pairwise
import Ticketing.SeatInventory.Bookkeeping
import Ticketing.System.InventoryCreated

/-!
# Seat ids

Library `System`. A seat id joins the ObjectId of the section, the label of the row and the number
of the seat by underscores. Labels and numbers may have underscores themselves: the ids of a section
differ unless the label of one row goes on where that of another row ends, and a seat number of the
other row begins with the rest.
-/

namespace Ticketing.System

open Async Store EventService SeatInventory

/-- The seat id of a place. -/
def Place.seatId (place : Place) : String :=
  objectIdText place.area.id ++ "_" ++ place.row.label ++ "_" ++ place.seat.number

/-- Row labels differ within each section, and seat numbers within each row. -/
structure Tidy (venue : Venue) : Prop where
  labels : ∀ area ∈ venue.sections, (area.rows.map Row.label).Nodup
  numbers : ∀ area ∈ venue.sections, ∀ row ∈ area.rows,
    (row.seats.map SeatDefinition.number).Nodup

/-- The label of row `r` is that of row `q` followed by an underscore and `w`, and a seat of `q` has
the number of a seat of `r` preceded by `w` and an underscore. -/
def Collides (area : Section) : Prop :=
  ∃ r ∈ area.rows, ∃ q ∈ area.rows, ∃ n ∈ r.seats, ∃ m ∈ q.seats, ∃ w,
    r.label = q.label ++ "_" ++ w ∧ m.number = w ++ "_" ++ n.number

/-- The seat ids of a message differ, and the message of an event without rows stores one row for
each seat, unless a statement fails for another reason. -/
structure GetsInventory (message : EventCreateMessage) : Prop where
  distinct : (message.seats.map EventSeat.seatId).Nodup
  stored : ∀ (s : SeatInventory.Db) (x : Nat → CreationOp → Choice),
    s.eventSeats message.eventId = [] → (∀ n o, (x n o).fault = none) →
      ((createFromEvent message).exec (creating x) 0 () s).throws = false ∧
        ((createFromEvent message).exec (creating x) 0 () s).state.Stocked message

/-! ### Texts joined by an underscore -/

/-- Lists joined by a separator are equal, or one separator stands further on. -/
theorem append_separator_cases {c : Char} {xs ys xs' ys' : List Char}
    (h : xs ++ c :: xs' = ys ++ c :: ys') :
    (xs = ys ∧ xs' = ys') ∨ (∃ w, xs = ys ++ c :: w ∧ ys' = w ++ c :: xs') ∨
      ∃ w, ys = xs ++ c :: w ∧ xs' = w ++ c :: ys' := by
  rcases List.append_eq_append_iff.mp h with ⟨w, hy, hx⟩ | ⟨w, hx, hy⟩
  · cases w with
    | nil => exact .inl ⟨by simpa using hy.symm, (List.cons.inj hx).2⟩
    | cons d w =>
      obtain ⟨rfl, rest⟩ := List.cons.inj hx
      exact .inr (.inr ⟨w, hy, rest⟩)
  · cases w with
    | nil => exact .inl ⟨by simpa using hx, ((List.cons.inj hy).2).symm⟩
    | cons d w =>
      obtain ⟨rfl, rest⟩ := List.cons.inj hy
      exact .inr (.inl ⟨w, hx, rest⟩)

/-- Joined texts are equal if their parts are, or if one part has swallowed an underscore. -/
theorem join_cases {a b c d : String} (h : a ++ "_" ++ b = c ++ "_" ++ d) :
    (a = c ∧ b = d) ∨ (∃ w, a = c ++ "_" ++ w ∧ d = w ++ "_" ++ b) ∨
      ∃ w, c = a ++ "_" ++ w ∧ b = w ++ "_" ++ d := by
  have text : ∀ {u v : String} {w : List Char}, u.toList = v.toList ++ '_' :: w →
      u = v ++ "_" ++ String.ofList w := by
    intro u v w hu
    apply String.toList_inj.mp
    simp only [hu, String.toList_append, String.toList_ofList, List.append_assoc]
    rfl
  have tail : ∀ {u v : String} {w : List Char}, u.toList = w ++ '_' :: v.toList →
      u = String.ofList w ++ "_" ++ v := by
    intro u v w hu
    apply String.toList_inj.mp
    simp only [hu, String.toList_append, String.toList_ofList, List.append_assoc]
    rfl
  have lists := congrArg String.toList h
  simp only [String.toList_append, List.append_assoc] at lists
  rcases append_separator_cases (c := '_') lists with ⟨hac, hbd⟩ | ⟨w, ha, hd⟩ | ⟨w, hc, hb⟩
  · exact .inl ⟨String.toList_inj.mp hac, String.toList_inj.mp hbd⟩
  · exact .inr (.inl ⟨String.ofList w, text ha, tail hd⟩)
  · exact .inr (.inr ⟨String.ofList w, text hc, tail hb⟩)

/-! ### The ids of a section -/

variable {area area' : Section} {row row' : Row} {seat seat' : SeatDefinition}

/-- Places with the same id are in the same section, and have the same text behind it. -/
theorem seatId_eq (h : Place.seatId ⟨area, row, seat⟩ = Place.seatId ⟨area', row', seat'⟩) :
    area.id = area'.id ∧ row.label ++ "_" ++ seat.number = row'.label ++ "_" ++ seat'.number := by
  have lists := congrArg String.toList h
  simp only [Place.seatId, String.toList_append, List.append_assoc] at lists
  obtain ⟨hid, rest⟩ :=
    append_separator_inj (c := '_') (underscore_notMem area.id) (underscore_notMem area'.id) lists
  refine ⟨objectIdText_inj (String.toList_inj.mp hid), ?_⟩
  apply String.toList_inj.mp
  simp only [String.toList_append, List.append_assoc]
  exact rest

/-- The seats of a section. -/
def places (area : Section) : List Place :=
  area.rows.flatMap fun row ↦ row.seats.map fun seat ↦ ⟨area, row, seat⟩

/-- The ids of a row. -/
def rowIds (area : Section) (row : Row) : List String :=
  row.seats.map fun seat ↦ Place.seatId ⟨area, row, seat⟩

/-- The ids of a section are those of its rows. -/
theorem seatIds_places (area : Section) :
    (places area).map Place.seatId = area.rows.flatMap (rowIds area) := by
  simp only [places, List.map_flatMap, List.map_map]
  rfl

/-- A row whose numbers differ has different ids. -/
theorem rowIds_nodup (h : (row.seats.map SeatDefinition.number).Nodup) :
    (rowIds area row).Nodup := by
  have ids : rowIds area row = (row.seats.map SeatDefinition.number).map
      fun number ↦ objectIdText area.id ++ "_" ++ row.label ++ "_" ++ number := by
    rw [List.map_map]
    rfl
  rw [ids]
  exact h.map fun _ _ he ↦ (String.append_right_inj _).mp he

/-- The ids of a section with different row labels and numbers differ exactly when it does not
collide. -/
theorem seatIds_nodup_iff (labels : (area.rows.map Row.label).Nodup)
    (numbers : ∀ row ∈ area.rows, (row.seats.map SeatDefinition.number).Nodup) :
    ((places area).map Place.seatId).Nodup ↔ ¬ Collides area := by
  rw [seatIds_places, List.nodup_flatMap]
  constructor
  · rintro ⟨-, apart⟩ ⟨r, hr, q, hq, n, hn, m, hm, w, hlabel, hnumber⟩
    have differ : r ≠ q := by
      rintro rfl
      have length := congrArg String.length hlabel
      simp only [String.length_append] at length
      have one : "_".length = 1 := rfl
      omega
    have symm : Std.Symm (Function.onFun List.Disjoint (rowIds area)) :=
      ⟨fun _ _ h _ ha hb ↦ h hb ha⟩
    have disjoint := apart.forall hr hq differ
    have same : Place.seatId ⟨area, r, n⟩ = Place.seatId ⟨area, q, m⟩ := by
      simp only [Place.seatId, hlabel, hnumber, String.append_assoc]
    apply disjoint (List.mem_map_of_mem hn)
    rw [same]
    exact List.mem_map_of_mem hm
  · intro apart
    constructor
    · exact fun row hrow ↦ rowIds_nodup (numbers row hrow)
    · apply (List.pairwise_map.mp labels).imp_of_mem
      intro r q hr hq differ id hid hid'
      obtain ⟨n, hn, rfl⟩ := List.mem_map.mp hid
      obtain ⟨m, hm, same⟩ := List.mem_map.mp hid'
      rcases join_cases (seatId_eq same).2 with
        ⟨label, -⟩ | ⟨w, hlabel, hnumber⟩ | ⟨w, hlabel, hnumber⟩
      · exact differ label.symm
      · exact apart ⟨q, hq, r, hr, m, hm, n, hn, w, hlabel, hnumber⟩
      · exact apart ⟨r, hr, q, hq, n, hn, m, hm, w, hlabel, hnumber⟩

/-! ### The ids of an event -/

variable {venue : Venue} {event : Event}

/-- The message has the ids of the seats on sale. -/
theorem seatIds_message :
    (message venue event).value.seats.map EventSeat.seatId =
      (onSale venue event).map Place.seatId := by
  rw [← List.forall₂_eq_eq_eq, List.forall₂_map_left_iff, List.forall₂_map_right_iff]
  apply message_places.imp
  rintro seat place ⟨t, -, rfl⟩
  rfl

/-- If sections have different ObjectIds, the ids of an event differ exactly when those of each
section on sale do. -/
theorem onSale_nodup_iff (ids : (venue.sections.map Section.id).Nodup) (tidy : Tidy venue) :
    ((onSale venue event).map Place.seatId).Nodup ↔
      ∀ area ∈ offered venue event, ¬ Collides area := by
  have each : ∀ area ∈ offered venue event,
      ((places area).map Place.seatId).Nodup ↔ ¬ Collides area := by
    intro area ha
    have hm := (List.mem_filter.mp ha).1
    exact seatIds_nodup_iff (tidy.labels area hm) (tidy.numbers area hm)
  have apart : (offered venue event).Pairwise
      (Function.onFun List.Disjoint fun area ↦ (places area).map Place.seatId) := by
    apply ((List.pairwise_map.mp ids).sublist List.filter_sublist).imp
    intro area area' differ id hid hid'
    obtain ⟨place, hp, rfl⟩ := List.mem_map.mp hid
    obtain ⟨place', hp', same⟩ := List.mem_map.mp hid'
    have own : ∀ {a : Section} {p : Place}, p ∈ places a → p.area = a := by
      intro a p h
      obtain ⟨row, -, hrow⟩ := List.mem_flatMap.mp h
      obtain ⟨seat, -, rfl⟩ := List.mem_map.mp hrow
      rfl
    have equal := (seatId_eq same).1
    rw [own hp, own hp'] at equal
    exact differ equal.symm
  show (((offered venue event).flatMap places).map Place.seatId).Nodup ↔ _
  rw [List.map_flatMap, List.nodup_flatMap]
  constructor
  · exact fun h area ha ↦ (each area ha).mp (h.1 area ha)
  · exact fun h ↦ ⟨fun area ha ↦ (each area ha).mpr (h area ha), apart⟩

/-- The sections of a stored venue have different ObjectIds. -/
theorem sectionIds_nodup {cast : String → Option Id} {s : EventService.Db} (h : s.Sound cast)
    (hv : venue ∈ s.venues.rows) : (venue.sections.map Section.id).Nodup := by
  obtain ⟨dto, n, -, rfl, -⟩ := h.venue venue hv
  rw [List.Nodup, List.pairwise_iff_getElem]
  intro i k hi hk hlt
  simp only [Venue.numbered, List.getElem_map, List.getElem_mapIdx]
  exact fun same ↦ Nat.ne_of_lt hlt (Nat.add_left_cancel same)

/-- A message whose seat ids differ gets its inventory. -/
theorem getsInventory_iff {m : EventCreateMessage} :
    GetsInventory m ↔ (m.seats.map EventSeat.seatId).Nodup := by
  refine ⟨GetsInventory.distinct, fun distinct ↦ ⟨distinct, ?_⟩⟩
  intro s x none faultless
  have accepts := accepts_of_new distinct none
  have left := createFromEvent_leaves x m s 0 () s rfl
  rcases hr : (createFromEvent m).exec (creating x) 0 () s with ⟨r, l, n, s'⟩
  rw [hr] at left
  cases r with
  | ok _ =>
    rcases left with ⟨some, -⟩ | ⟨-, -, stored⟩
    · exact absurd none some
    · exact ⟨rfl, stored ▸ stocked_created distinct none⟩
  | error e =>
    rcases left with ⟨-, ⟨n, o, fault⟩ | ⟨-, refused⟩⟩
    · exact absurd (faultless n o) fault
    · exact absurd accepts refused

/-- An event at a venue with different labels and numbers gets its inventory exactly when no section
on sale has colliding rows. -/
theorem seatIds_unambiguous_iff {cast : String → Option Id} {p : Pool (EventService.service cast)}
    (hp : Pool.Reach (.free _) (fun s ↦ s = EventService.Db.empty) p)
    (he : event ∈ p.conf.state.events.rows) {created : EventCreated}
    (hm : created ∈ p.conf.state.emitted) (hk : created.key = objectIdText event.id)
    (hv : venue ∈ p.conf.state.venues.rows) (hc : cast event.venueId = some venue.id)
    (tidy : Tidy venue) :
    GetsInventory created.value ↔ ∀ area ∈ offered venue event, ¬ Collides area := by
  have sound := sound_of_reach hp
  obtain ⟨venue', hv', hc', rfl⟩ := message_of_emitted sound he hm hk
  have there : venue' = venue := by
    have ids := Table.find_of_mem hv'
    rw [Option.some.inj (hc'.symm.trans hc), Table.find_of_mem hv] at ids
    exact (Option.some.inj ids).symm
  subst there
  rw [getsInventory_iff, seatIds_message]
  exact onSale_nodup_iff (sectionIds_nodup sound hv) tidy

/-- A hall with one section of two rows, with these labels and numbers. -/
def twoRows (label number label' number' : String) : CreateVenueDto :=
  ⟨"Hall", [⟨"Main", none, none,
    [⟨label, [⟨number, .standard⟩]⟩, ⟨label', [⟨number', .standard⟩]⟩]⟩]⟩

/-- The requests that create the hall and the concert. -/
def twoRowRequests (venue : CreateVenueDto) : List (Label (EventService.service castHall)) :=
  [.spawn (.createVenue venue), .run 0 {}, .spawn (.createEvent concert), .run 1 {}, .run 1 {},
    .run 1 {}]

/-- A hall of two rows whose seats have different identifiers. -/
theorem seatIds_unambiguous_iff_rows :
    ∃ p, Pool.play (.free _) (twoRowRequests (twoRows "A" "1" "B" "1"))
      (.start EventService.Db.empty) = some p ∧
      ∃ event ∈ p.conf.state.events.rows, ∃ venue ∈ p.conf.state.venues.rows,
        ∃ created ∈ p.conf.state.emitted, created.value.seats ≠ [] ∧
          (GetsInventory created.value ↔ ∀ area ∈ offered venue event, ¬ Collides area) := by
  have played : (Pool.play (.free _) (twoRowRequests (twoRows "A" "1" "B" "1"))
      (.start EventService.Db.empty)).any fun p ↦
        p.conf.state.events.rows.any fun event ↦ p.conf.state.venues.rows.any fun venue ↦
          p.conf.state.emitted.any fun created ↦ created.key = objectIdText event.id &&
            decide (castHall event.venueId = some venue.id) && !created.value.seats.isEmpty &&
            venue.sections.all fun area ↦ decide (area.rows.map Row.label).Nodup &&
              area.rows.all fun row ↦ decide (row.seats.map SeatDefinition.number).Nodup := by
    decide +kernel
  simp only [Option.any_eq_true, List.any_eq_true, List.all_eq_true, Bool.and_eq_true,
    decide_eq_true_eq, Bool.not_eq_true', List.isEmpty_eq_false_iff] at played
  obtain ⟨p, hp, event, he, venue, hv, created, hm, ⟨⟨hk, hc⟩, some⟩, tidy⟩ := played
  have vacant : (fun s ↦ s = EventService.Db.empty) EventService.Db.empty := rfl
  exact ⟨p, hp, event, he, venue, hv, created, hm, some,
    seatIds_unambiguous_iff (Pool.reach_of_play vacant hp) he hm hk hv hc
      ⟨fun area ha ↦ (tidy area ha).1, fun area ha ↦ (tidy area ha).2⟩⟩

/-- Row `A` with seat `1_2` and row `A_1` with seat `2`: the event gets no inventory. -/
theorem seatIds_ambiguous :
    ¬ ∀ (cast : String → Option Id) (p : Pool (EventService.service cast)),
      Pool.Reach (.free _) (fun s ↦ s = EventService.Db.empty) p →
      ∀ event ∈ p.conf.state.events.rows, ∀ created ∈ p.conf.state.emitted,
        created.key = objectIdText event.id → ∀ venue ∈ p.conf.state.venues.rows,
          cast event.venueId = some venue.id → Tidy venue → GetsInventory created.value := by
  have played : (Pool.play (.free _) (twoRowRequests (twoRows "A" "1_2" "A_1" "2"))
      (.start EventService.Db.empty)).any fun p ↦
        p.conf.state.events.rows.any fun event ↦ p.conf.state.venues.rows.any fun venue ↦
          p.conf.state.emitted.any fun created ↦ created.key = objectIdText event.id &&
            decide (castHall event.venueId = some venue.id) &&
            !decide (created.value.seats.map EventSeat.seatId).Nodup &&
            venue.sections.all fun area ↦ decide (area.rows.map Row.label).Nodup &&
              area.rows.all fun row ↦ decide (row.seats.map SeatDefinition.number).Nodup := by
    decide +kernel
  simp only [Option.any_eq_true, List.any_eq_true, List.all_eq_true, Bool.and_eq_true,
    decide_eq_true_eq, Bool.not_eq_true', decide_eq_false_iff_not] at played
  obtain ⟨p, hp, event, he, venue, hv, created, hm, ⟨⟨hk, hc⟩, collide⟩, tidy⟩ := played
  have vacant : (fun s ↦ s = EventService.Db.empty) EventService.Db.empty := rfl
  intro all
  have gets := all castHall p (Pool.reach_of_play vacant hp) event he created hm hk venue hv hc
    ⟨fun area ha ↦ (tidy area ha).1, fun area ha ↦ (tidy area ha).2⟩
  exact collide gets.distinct

end Ticketing.System
