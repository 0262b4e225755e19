import Ticketing.Async.Play
import Ticketing.EventService.Emitted
import Ticketing.SeatInventory.CreatedOnce

/-!
# The inventory of an event

Library `System`. The event service lists the seats of the sections that have a ticket type, and
the inventory stores them once, however often the message is delivered.
-/

namespace Ticketing.System

open Async Store EventService SeatInventory

/-- A seat of a venue, with its row and its section. -/
structure Place where
  area : Section
  row : Row
  seat : SeatDefinition

/-- Some ticket type of the event is for the section. -/
def Offers (event : Event) (area : Section) : Prop :=
  ∃ t ∈ event.ticketTypes, t.sectionId = objectIdText area.id

instance (event : Event) (area : Section) : Decidable (Offers event area) :=
  inferInstanceAs (Decidable (∃ t ∈ _, _))

/-- The sections with a ticket type. -/
def offered (venue : Venue) (event : Event) : List Section :=
  venue.sections.filter fun area ↦ Offers event area

/-- The seats of the sections with a ticket type. -/
def onSale (venue : Venue) (event : Event) : List Place :=
  (offered venue event).flatMap fun area ↦
    area.rows.flatMap fun row ↦ row.seats.map fun seat ↦ ⟨area, row, seat⟩

/-- The first ticket type of the event for the section. -/
def First (event : Event) (area : Section) (t : TicketType) : Prop :=
  ∃ before after, event.ticketTypes = before ++ t :: after ∧ t.sectionId = objectIdText area.id ∧
    ∀ u ∈ before, u.sectionId ≠ objectIdText area.id

/-- The row of the inventory is for the seat, at the price of the first ticket type. -/
structure Carries (event : Event) (t : TicketType) (r : Seat) (place : Place) : Prop where
  first : First event place.area t
  eventId : r.eventId = objectIdText event.id
  seatId : r.seatId =
    objectIdText place.area.id ++ "_" ++ place.row.label ++ "_" ++ place.seat.number
  sectionId : r.sectionId = objectIdText place.area.id
  sectionName : r.sectionName = place.area.name
  ticketTypeId : r.ticketTypeId = objectIdText t.id
  ticketTypeName : r.ticketTypeName = t.name
  price : r.price = t.price
  currency : r.currency = t.currency
  row : r.row = place.row.label
  seatNumber : r.seatNumber = place.seat.number
  seatType : r.seatType = place.seat.type.text

variable {venue : Venue} {event : Event}

/-- The ticket type that the service finds is the first one. -/
theorem first_of_ticketTypeOf {area : Section} {t : TicketType}
    (h : ticketTypeOf event area = some t) : First event area t := by
  obtain ⟨ht, before, after, he, hb⟩ := List.find?_eq_some_iff_append.mp h
  refine ⟨before, after, he, of_decide_eq_true ht, ?_⟩
  intro u hu hs
  have := hb u hu
  simp [hs] at this

/-- The message lists the place. -/
def Lists (event : Event) (seat : EventSeat) (place : Place) : Prop :=
  ∃ t, First event place.area t ∧ seat = eventSeat place.area t place.row place.seat

/-- The seats that a section lists are its seats if it has a ticket type. -/
theorem sectionSeats_places (area : Section) :
    List.Forall₂ (Lists event) (sectionSeats event area)
      (if Offers event area then
        area.rows.flatMap fun row ↦ row.seats.map fun seat ↦ (⟨area, row, seat⟩ : Place)
      else []) := by
  unfold sectionSeats
  cases h : ticketTypeOf event area with
  | none =>
    have none : ¬ Offers event area := by
      rintro ⟨t, ht, hs⟩
      have := List.find?_eq_none.mp h t ht
      simp [hs] at this
    rw [if_neg none]
    exact List.Forall₂.nil
  | some t =>
    have first := first_of_ticketTypeOf h
    have some : Offers event area := by
      obtain ⟨before, after, he, hs, -⟩ := first
      exact ⟨t, by simp [he], hs⟩
    rw [if_pos some]
    dsimp only
    induction area.rows with
    | nil => exact List.Forall₂.nil
    | cons row rows ih =>
      rw [List.flatMap_cons, List.flatMap_cons]
      apply List.rel_append _ ih
      rw [List.forall₂_map_left_iff, List.forall₂_map_right_iff, List.forall₂_same]
      exact fun _ _ ↦ ⟨t, first, rfl⟩

/-- The message lists the seats on sale. -/
theorem message_places :
    List.Forall₂ (Lists event) (message venue event).value.seats (onSale venue event) := by
  unfold message onSale offered
  induction venue.sections with
  | nil => exact List.Forall₂.nil
  | cons area rest ih =>
    have first := @sectionSeats_places event area
    dsimp only at ih ⊢
    rw [List.flatMap_cons, List.filter_cons]
    by_cases h : Offers event area
    · rw [if_pos h] at first
      rw [if_pos (decide_eq_true h), List.flatMap_cons]
      exact List.rel_append first ih
    · rw [if_neg h] at first
      rw [if_neg (by simpa using h), List.forall₂_nil_right_iff.mp first]
      exact ih

/-- The seats on sale are as many as their sections' capacities sum up to. -/
theorem length_onSale
    (h : ∀ a ∈ venue.sections, a.capacity = (a.rows.map fun row ↦ row.seats.length).sum) :
    (onSale venue event).length = ((offered venue event).map Section.capacity).sum := by
  rw [onSale, List.length_flatMap]
  congr 1
  apply List.map_congr_left
  intro area ha
  rw [h area (List.mem_filter.mp ha).1, List.length_flatMap]
  simp

/-- What holds of the inventory of an event. -/
structure Inventory (venue : Venue) (event : Event) (rows : List Seat) : Prop where
  /-- The rows are those of the seats on sale, one for each. -/
  places : List.Forall₂ (fun r place ↦ ∃ t, Carries event t r place) rows (onSale venue event)
  distinct : (rows.map Seat.seatId).Nodup
  number : rows.length = ((offered venue event).map Section.capacity).sum

/-- A row made from a listed seat carries what the seat's ticket type says. -/
theorem carries_of_lists {r : Seat} {seat : EventSeat} {place : Place}
    (made : MadeFrom (objectIdText event.id) r seat) (h : Lists event seat place) :
    ∃ t, Carries event t r place := by
  obtain ⟨t, first, rfl⟩ := h
  unfold MadeFrom at made
  refine ⟨t, first, ?_, ?_, ?_, ?_, ?_, ?_, ?_, ?_, ?_, ?_, ?_⟩ <;> rw [made] <;> rfl

/-- Rows made from the listed seats carry, one by one, what these say. -/
theorem carries_each {rows : List Seat} {seats : List EventSeat} {places : List Place}
    (made : List.Forall₂ (MadeFrom (objectIdText event.id)) rows seats)
    (listed : List.Forall₂ (Lists event) seats places) :
    List.Forall₂ (fun r place ↦ ∃ t, Carries event t r place) rows places := by
  induction made generalizing places with
  | nil =>
    cases listed
    exact List.Forall₂.nil
  | cons made _ ih =>
    cases listed with
    | cons listed rest => exact List.Forall₂.cons (carries_of_lists made listed) (ih rest)

/-- The rows of a message that was stored have its seat ids. -/
theorem seatIds_stocked {s : SeatInventory.Db} {m : EventCreateMessage} (h : s.Stocked m) :
    (s.eventSeats m.eventId).map Seat.seatId = m.seats.map EventSeat.seatId := by
  rw [← List.forall₂_eq_eq_eq, List.forall₂_map_left_iff, List.forall₂_map_right_iff]
  apply h.imp
  intro r seat made
  rw [made]
  rfl

/-- A message with the key of an event is the one of the event and its venue. -/
theorem message_of_emitted {cast : String → Option Id} {s : EventService.Db} (sound : s.Sound cast)
    (he : event ∈ s.events.rows) {created : EventCreated} (hm : created ∈ s.emitted)
    (hk : created.key = objectIdText event.id) :
    ∃ venue ∈ s.venues.rows, cast event.venueId = some venue.id ∧
      created = message venue event := by
  obtain ⟨venue, hv, event', he', hc, rfl⟩ := sound.message created hm
  have same : event' = event := by
    have ids := Table.find_of_mem he'
    rw [objectIdText_inj hk, Table.find_of_mem he] at ids
    exact (Option.some.inj ids).symm
  subst same
  exact ⟨venue, hv, hc, rfl⟩

/-- Each seat on sale has exactly one row, whatever was delivered how often: a message of an
accepted event leaves the inventory of the event, and delivering it again changes nothing. -/
theorem inventory_created_once {cast : String → Option Id} {p : Pool (EventService.service cast)}
    (hp : Pool.Reach (Regime.free _) (fun s ↦ s = EventService.Db.empty) p) {event : Event}
    (he : event ∈ p.conf.state.events.rows) {created : EventCreated}
    (hm : created ∈ p.conf.state.emitted) (hk : created.key = objectIdText event.id)
    (hn : (created.value.seats.map EventSeat.seatId).Nodup) {s : SeatInventory.Db}
    (hs : Delivered created.value true s) :
    (∃ venue ∈ p.conf.state.venues.rows, cast event.venueId = some venue.id ∧
      Inventory venue event (s.eventSeats (objectIdText event.id))) ∧
    ∀ (payload : SeatInventory.Payload) x, payload.Carries created.value →
      payload.delivered x s = s := by
  have sound := sound_of_reach hp
  obtain ⟨venue, hv, hc, rfl⟩ := message_of_emitted sound he hm hk
  have stocked : s.Stocked (message venue event).value := by
    rcases hs.stocked (objectIdText_ne_empty _) hn with h | ⟨hb, -⟩
    · exact h
    · cases hb
  refine ⟨⟨venue, hv, hc, ?_, ?_, ?_⟩, ?_⟩
  · exact carries_each stocked message_places
  · exact (seatIds_stocked stocked).symm ▸ hn
  · rw [← length_onSale (sound.capacity hv), ← message_places.length_eq]
    exact stocked.length_eq
  · exact fun payload x carries ↦ stocked.delivered (objectIdText_ne_empty _) carries hn

/-- A hall with one section of two seats. -/
def hall : CreateVenueDto :=
  ⟨"Hall", [⟨"Main", none, none, [⟨"A", [⟨"1", .standard⟩, ⟨"2", .vip⟩]⟩]⟩]⟩

/-- A concert in the hall. -/
def concert : CreateEventDto :=
  ⟨"o", objectIdText 0, "Concert", 0, [⟨objectIdText 1, "Standard", 10000, some "TRY"⟩]⟩

/-- The cast of the texts that occur. -/
def castHall (text : String) : Option Id :=
  if text = objectIdText 0 then some 0 else none

/-- The requests that create the hall and the concert. -/
def hallRequests : List (Label (EventService.service castHall)) :=
  [.spawn (.createVenue hall), .run 0 {}, .spawn (.createEvent concert), .run 1 {}, .run 1 {},
    .run 1 {}]

/-- The message of the concert, delivered once, leaves the inventory of the concert. -/
theorem inventory_created_once_hall :
    ∃ p, Pool.play (Regime.free _) hallRequests (.start EventService.Db.empty) = some p ∧
      ∃ event ∈ p.conf.state.events.rows, ∃ created ∈ p.conf.state.emitted,
        created.value.seats ≠ [] ∧ ∃ s, Delivered created.value true s ∧
          ∃ venue, Inventory venue event (s.eventSeats (objectIdText event.id)) := by
  have played : (Pool.play (Regime.free _) hallRequests (.start EventService.Db.empty)).any
      fun p ↦ p.conf.state.events.rows.any fun event ↦ p.conf.state.emitted.any fun created ↦
        created.key = objectIdText event.id && !created.value.seats.isEmpty &&
          decide (created.value.seats.map EventSeat.seatId).Nodup := by
    decide +kernel
  simp only [Option.any_eq_true, List.any_eq_true, Bool.and_eq_true, decide_eq_true_eq,
    Bool.not_eq_true', List.isEmpty_eq_false_iff] at played
  obtain ⟨p, hp, event, he, created, hm, ⟨hk, hs⟩, hn⟩ := played
  have delivered : Delivered created.value true _ :=
    .succeed (.start (s := SeatInventory.Db.stocked .empty) rfl)
      (show (SeatInventory.Payload.mk none created.value).Carries created.value from rfl)
      (x := fun _ _ ↦ {}) fun _ _ ↦ rfl
  obtain ⟨⟨venue, -, -, inventory⟩, -⟩ :=
    inventory_created_once (Pool.reach_of_play rfl hp) he hm hk hn delivered
  exact ⟨p, hp, event, he, created, hm, hs, _, delivered, venue, inventory⟩

end Ticketing.System
