import Ticketing.BookingService.SeatSelection
import Ticketing.System.SeatIds

/-!
# What a booking costs

Library `System`. The booking service selects the seats of a cart in the inventory that the
inventory service sends, and prices the booking by them, in the currency of the first one. The
event service lets each ticket type name a currency of its own.
-/

namespace Ticketing.System

open Async Store BookingService
open SeatInventory (toSeatInfo)
open EventService (TicketType)

variable {dto : CreateBookingDto} {inventory : List SeatInventory.Seat} {s : BookingService.Db}

/-- A call of `createBooking` with an inventory. A request that is not selectable is refused and
nothing is stored; the booking that is stored has one item for each item of the dto, with the data
of its seat, and costs what they cost together. -/
structure PricedExactly (dto : CreateBookingDto) (inventory : List SeatInfo) (s : BookingService.Db)
    (out : Async.Outcome BookingService.sig Unit (Option BookingView)
      (BookingService.Db × List (Done BookingService.sig))) : Prop where
  refused : ¬ Selectable dto inventory →
    out.throws = true ∧ out.state.1.bookings = s.bookings ∧ out.state.1.items = s.items
  unbooked : (∀ r ∈ out.state.1.bookings.rows, r.id ≠ s.nextId) →
    out.throws = true ∧ out.state.1.bookings = s.bookings ∧ out.state.1.items = s.items
  booked : ∀ r ∈ out.state.1.bookings.rows, r.id = s.nextId →
    Selectable dto inventory ∧
      List.Forall₂ (Books inventory r.id) dto.items (out.state.1.itemsOf r.id) ∧
      r.totalAmount = ((out.state.1.itemsOf r.id).map BookingItem.unitPrice).sum

/-- Whatever the environment answers, seats are selected and priced exactly, if the inventory has no
seat twice. -/
theorem seats_priced_exactly (x : Nat → Choice) (dto : CreateBookingDto)
    (hx : (x 0).reply = .seats (inventory.map toSeatInfo))
    (unique : (inventory.map SeatInventory.Seat.seatId).Nodup)
    (hs : ∀ b ∈ s.bookings.rows, b.id ≠ s.nextId) (hi : ∀ i ∈ s.items, i.bookingId ≠ s.nextId) :
    PricedExactly dto (inventory.map toSeatInfo) s
      ((createBooking dto).exec (answering x) 0 () (s, [])) := by
  have distinct : ((inventory.map toSeatInfo).map SeatInfo.seatId).Nodup := by
    rw [List.map_map]
    exact unique
  rcases @createBooking_cases dto _ x s hx with ⟨throws, none, -⟩ | ⟨seats, b, items, h⟩
  · constructor
    · exact fun _ ↦ ⟨throws, none.bookings, none.items⟩
    · exact fun _ ↦ ⟨throws, none.bookings, none.items⟩
    · intro r hr hid
      rw [none.bookings] at hr
      exact absurd hid (hs r hr)
  · have selectable := h.selected.selectable distinct
    constructor
    · exact fun refused ↦ absurd selectable refused
    · intro unbooked
      obtain ⟨row, found, -⟩ := h.stored.row
      have stored := Table.find_eq_some_iff.mp found
      exact absurd (stored.2.trans h.new.id) (unbooked row stored.1)
    · intro r hr hid
      have order := h.order hr hid
      have amount : r.totalAmount = totalAmount seats := by
        simp only [Booking.order, Prod.mk.injEq] at order
        rw [order.2.2.2.2.1, h.new.amount]
      have hitems := h.itemsOf hi
      rw [h.new.id, ← hid] at hitems
      rw [hitems]
      refine ⟨selectable, ?_, ?_⟩
      · have each := h.new.books.1
        rw [← hid] at each
        apply each.imp
        rintro d item ⟨seat, hm, hd, he⟩
        exact ⟨seat, h.selected.mem hm, hd, he⟩
      · rw [amount]
        exact h.selected.total distinct h.new

/-- The inventory and the hold are answered, and the payment succeeds. -/
def paying (inventory : List SeatInfo) : Nat → Choice
  | 0 => { reply := .seats inventory }
  | 1 => { reply := .verified true }
  | 10 => { reply := .payment (some ⟨1, 0, "k", 3000, "TRY", .creditCard, .succeeded, "p", "", "",
      none⟩) }
  | _ => {}

/-- A cart of seats. -/
def seatCart (seatIds : List String) : CreateBookingDto :=
  ⟨"u", "e", "s", "card", "k", none, seatIds.map (⟨·, none, none⟩)⟩

/-- The call that books a cart of an inventory. -/
def bookedCart (seatIds : List String) (inventory : List SeatInventory.Seat) :
    Async.Outcome BookingService.sig Unit (Option BookingView)
      (BookingService.Db × List (Done BookingService.sig)) :=
  (createBooking (seatCart seatIds)).exec (answering (paying (inventory.map toSeatInfo))) 0 ()
    (BookingService.Db.empty, [])

/-- Two held seats and a free one. -/
def threeSeats : List SeatInventory.Seat :=
  [⟨0, "e", "A", "c", "main", "t", "std", 1000, "TRY", "1", "1", "std", .held⟩,
    ⟨1, "e", "B", "c", "main", "t", "std", 1500, "TRY", "1", "2", "std", .available⟩,
    ⟨2, "e", "C", "c", "main", "t", "vip", 2000, "TRY", "1", "3", "vip", .held⟩]

/-- Two seats, requested in another order. -/
theorem seats_priced_exactly_two :
    ((bookedCart ["C", "A"] threeSeats).state.1.bookings.rows.any fun r ↦
      r.id = 0 && r.totalAmount = 3000) = true ∧
    PricedExactly (seatCart ["C", "A"]) (threeSeats.map toSeatInfo) BookingService.Db.empty
      (bookedCart ["C", "A"] threeSeats) := by
  constructor
  · decide +kernel
  · exact seats_priced_exactly (paying (threeSeats.map toSeatInfo)) _ rfl (by decide)
      (fun _ h ↦ absurd h List.not_mem_nil) fun _ h ↦ absurd h List.not_mem_nil

/-! ### The currency -/

variable {venue : EventService.Venue} {event : EventService.Event}

/-- The cart asks for a seat that is sold with the ticket type. -/
def Asked (venue : EventService.Venue) (event : EventService.Event) (dto : CreateBookingDto)
    (t : TicketType) : Prop :=
  ∃ place ∈ onSale venue event, First event place.area t ∧ place.seatId ∈ dto.seatIds

/-- Every requested seat is priced in the currency that is charged and stored, and the charge is the
sum of their prices. -/
structure OneCurrency (dto : CreateBookingDto) (inventory : List SeatInventory.Seat)
    (s s' : BookingService.Db) (request : InitiatePaymentRequest) : Prop where
  priced : ∀ seat ∈ inventory, seat.seatId ∈ dto.seatIds → seat.currency = request.currency
  stored : ∀ r ∈ s'.bookings.rows, r.id = s.nextId → r.currency = request.currency
  amount : request.amount =
    ((inventory.filter fun seat ↦ dto.seatIds.contains seat.seatId).map
      SeatInventory.Seat.price).sum

/-- A section has one first ticket type. -/
theorem First.unique {area : EventService.Section} {t u : TicketType} (ht : First event area t)
    (hu : First event area u) : t = u := by
  have found : ∀ {v}, First event area v → EventService.ticketTypeOf event area = some v := by
    rintro v ⟨before, after, he, hv, hb⟩
    apply List.find?_eq_some_iff_append.mpr
    exact ⟨decide_eq_true hv, before, after, he, fun w hw ↦ by simpa using hb w hw⟩
  exact Option.some.inj ((found ht).symm.trans (found hu))

variable {rows : List SeatInventory.Seat}

/-- A requested seat of the inventory is sold with a ticket type that the cart asks for. -/
theorem Inventory.asked (made : Inventory venue event rows) {r : SeatInventory.Seat} (hr : r ∈ rows)
    (hid : r.seatId ∈ dto.seatIds) : ∃ t, Asked venue event dto t ∧ r.currency = t.currency := by
  obtain ⟨place, hp, t, carries⟩ := exists_of_forall₂ made.places hr
  have same : r.seatId = place.seatId := carries.seatId
  exact ⟨t, ⟨place, hp, carries.first, same ▸ hid⟩, carries.currency⟩

/-- A ticket type that the cart asks for is that of a requested seat. -/
theorem Inventory.seat (made : Inventory venue event rows) {t : TicketType}
    (ht : Asked venue event dto t) :
    ∃ r ∈ rows, r.seatId ∈ dto.seatIds ∧ r.currency = t.currency := by
  obtain ⟨place, hp, first, hid⟩ := ht
  have flipped :
      List.Forall₂ (fun place r ↦ ∃ t, Carries event t r place) (onSale venue event) rows :=
    List.Forall₂.flip made.places
  obtain ⟨r, hr, u, carries⟩ := exists_of_forall₂ flipped hp
  have same : r.seatId = place.seatId := carries.seatId
  refine ⟨r, hr, same ▸ hid, ?_⟩
  rw [carries.currency, first.unique carries.first]

/-- A call that charges a card does so in one currency exactly when the ticket types that its cart
asks for name one currency. -/
theorem one_currency_iff (x : Nat → Choice) (dto : CreateBookingDto)
    (made : Inventory venue event rows) (order : inventory.Perm rows)
    (hx : (x 0).reply = .seats (inventory.map toSeatInfo)) {request : InitiatePaymentRequest}
    (charged : ChargeSent ((createBooking dto).exec (answering x) 0 () (s, [])).state.2 request) :
    OneCurrency dto inventory s ((createBooking dto).exec (answering x) 0 () (s, [])).state.1
        request ↔
      ∀ t u, Asked venue event dto t → Asked venue event dto u → t.currency = u.currency := by
  rcases @createBooking_cases dto _ x s hx with ⟨-, -, uncharged⟩ | ⟨seats, b, items, h⟩
  · exact absurd charged (uncharged request)
  have ⟨currency, amount⟩ := h.charged request charged
  constructor
  · rintro ⟨priced, -, -⟩ t u ht hu
    obtain ⟨r, hr, hid, hrt⟩ := made.seat ht
    obtain ⟨q, hq, hid', hqu⟩ := made.seat hu
    rw [← hrt, ← hqu, priced r (order.mem_iff.mpr hr) hid, priced q (order.mem_iff.mpr hq) hid']
  · intro one
    -- the first selected seat decides the currency
    obtain ⟨first, hfirst, hcurrency⟩ := Option.map_eq_some_iff.mp h.new.currency
    have head := List.mem_of_mem_head? hfirst
    have requested : ∀ info ∈ seats, ∃ r ∈ inventory, toSeatInfo r = info ∧
        r.seatId ∈ dto.seatIds := by
      intro info hm
      rw [h.selected.chosen] at hm
      obtain ⟨hm, hid⟩ := List.mem_filter.mp hm
      obtain ⟨r, hr, rfl⟩ := List.mem_map.mp hm
      exact ⟨r, hr, rfl, List.contains_iff_mem.mp hid⟩
    obtain ⟨r₀, hr₀, rfl, hid₀⟩ := requested first head
    obtain ⟨t₀, ht₀, hrt₀⟩ := made.asked (order.mem_iff.mp hr₀) hid₀
    constructor
    · intro r hr hid
      obtain ⟨t, ht, hrt⟩ := made.asked (order.mem_iff.mp hr) hid
      rw [hrt, one t t₀ ht ht₀, ← hrt₀, currency, ← hcurrency]
      rfl
    · intro r hr hid
      have same := h.order hr hid
      simp only [Booking.order, Prod.mk.injEq] at same
      rw [same.2.2.2.2.2, currency]
    · have selected : seats =
          (inventory.filter fun seat ↦ dto.seatIds.contains seat.seatId).map toSeatInfo := by
        rw [h.selected.chosen, List.filter_map]
        rfl
      rw [amount, h.new.amount, totalAmount_eq_sum, selected, List.map_map]
      rfl

/-- The rows of an event whose seats are all held. -/
def heldRows (venue : EventService.Venue) (event : EventService.Event) : List SeatInventory.Seat :=
  (EventService.message venue event).value.seats.mapIdx fun i seat ↦
    { SeatInventory.toInventory (EventService.objectIdText event.id) seat with
      id := i, status := .held }

/-- The rows on sale are the inventory of the event. -/
theorem heldRows_inventory (distinct : ((onSale venue event).map Place.seatId).Nodup)
    (capacity : ∀ a ∈ venue.sections, a.capacity = (a.rows.map fun row ↦ row.seats.length).sum) :
    Inventory venue event (heldRows venue event) := by
  have made : List.Forall₂ (SeatInventory.MadeFrom (EventService.objectIdText event.id))
      (heldRows venue event) (EventService.message venue event).value.seats := by
    rw [List.forall₂_iff_get]
    constructor
    · simp [heldRows]
    · intro i hi hj
      simp [heldRows, SeatInventory.MadeFrom, SeatInventory.toInventory]
  have ids : (heldRows venue event).map SeatInventory.Seat.seatId =
      (onSale venue event).map Place.seatId := by
    rw [← seatIds_message, ← List.forall₂_eq_eq_eq, List.forall₂_map_left_iff,
      List.forall₂_map_right_iff]
    apply made.imp
    intro r seat hr
    rw [hr]
    rfl
  refine ⟨carries_each made message_places, ids ▸ distinct, ?_⟩
  rw [← length_onSale capacity, ← message_places.length_eq]
  exact made.length_eq

/-- A hall with two sections of one seat. -/
def opera : EventService.Venue :=
  ⟨0, "Opera", 2, [⟨1, "Floor", 1, 0, [⟨"1", [⟨"1", .standard⟩]⟩]⟩,
    ⟨2, "Balcony", 1, 1, [⟨"1", [⟨"1", .standard⟩]⟩]⟩]⟩

/-- An event there, with the currency of the balcony. -/
def premiere (currency : String) : EventService.Event :=
  ⟨3, "o", EventService.objectIdText 0, "Premiere", 0,
    [⟨4, EventService.objectIdText 1, "Floor", 100000, "TRY"⟩,
      ⟨5, EventService.objectIdText 2, "Balcony", 2000, currency⟩]⟩

/-- The seats of the event. -/
def premiereSeats (currency : String) : List String :=
  (onSale opera (premiere currency)).map Place.seatId

/-- The held seats are the inventory of the event. -/
theorem premiere_inventory (currency : String) (distinct : (premiereSeats currency).Nodup) :
    Inventory opera (premiere currency) (heldRows opera (premiere currency)) := by
  apply heldRows_inventory distinct
  intro a ha
  rcases List.mem_cons.mp ha with rfl | ha
  · rfl
  · cases List.mem_singleton.mp ha
    rfl

/-- A cart with both seats of an event with one currency. -/
theorem one_currency_iff_premiere :
    ∃ request, ChargeSent
        (bookedCart (premiereSeats "TRY") (heldRows opera (premiere "TRY"))).state.2 request ∧
      (OneCurrency (seatCart (premiereSeats "TRY")) (heldRows opera (premiere "TRY"))
          BookingService.Db.empty
          (bookedCart (premiereSeats "TRY") (heldRows opera (premiere "TRY"))).state.1 request ↔
        ∀ t u, Asked opera (premiere "TRY") (seatCart (premiereSeats "TRY")) t →
          Asked opera (premiere "TRY") (seatCart (premiereSeats "TRY")) u →
          t.currency = u.currency) := by
  have played : (bookedCart (premiereSeats "TRY")
      (heldRows opera (premiere "TRY"))).state.2.any fun d ↦ d.op.charge?.isSome := by
    decide +kernel
  simp only [List.any_eq_true, Option.isSome_iff_exists] at played
  obtain ⟨d, hd, request, hr⟩ := played
  refine ⟨request, ⟨d, hd, hr⟩, ?_⟩
  exact one_currency_iff (s := BookingService.Db.empty) _ _
    (premiere_inventory "TRY" (by decide +kernel)) (List.Perm.refl _) rfl ⟨d, hd, hr⟩

/-- A cart with a seat for 1000 TRY and one for 20 USD: 1020 TRY are charged. -/
theorem currencies_mixed :
    ¬ ∀ (x : Nat → Choice) (dto : CreateBookingDto) (venue : EventService.Venue)
      (event : EventService.Event) (rows inventory : List SeatInventory.Seat)
      (s : BookingService.Db) (request : InitiatePaymentRequest),
      Inventory venue event rows → inventory.Perm rows →
      (x 0).reply = .seats (inventory.map toSeatInfo) →
      ChargeSent ((createBooking dto).exec (answering x) 0 () (s, [])).state.2 request →
      OneCurrency dto inventory s ((createBooking dto).exec (answering x) 0 () (s, [])).state.1
        request := by
  have played : (bookedCart (premiereSeats "USD")
      (heldRows opera (premiere "USD"))).state.2.any fun d ↦
        d.op.charge?.any fun request ↦ request.currency = "TRY" && request.amount = 102000 := by
    decide +kernel
  have balcony : (heldRows opera (premiere "USD")).any fun seat ↦
      decide (seat.seatId ∈ premiereSeats "USD") && seat.currency = "USD" := by
    decide +kernel
  simp only [List.any_eq_true, Option.any_eq_true, Bool.and_eq_true, decide_eq_true_eq]
    at played balcony
  obtain ⟨d, hd, request, hr, currency, -⟩ := played
  obtain ⟨seat, hseat, hid, usd⟩ := balcony
  intro all
  have one := all (paying ((heldRows opera (premiere "USD")).map toSeatInfo))
    (seatCart (premiereSeats "USD")) _ _ _ _ BookingService.Db.empty request
    (premiere_inventory "USD" (by decide +kernel)) (List.Perm.refl _) rfl ⟨d, hd, hr⟩
  have requested : seat.seatId ∈ (seatCart (premiereSeats "USD")).seatIds := by
    simpa [seatCart, CreateBookingDto.seatIds, Function.comp_def] using hid
  have same := one.priced seat hseat requested
  rw [usd, currency] at same
  exact absurd same (by decide)

end Ticketing.System
