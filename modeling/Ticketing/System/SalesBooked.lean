import Ticketing.BookingService.CompletedSales
import Ticketing.BookingService.Places
import Ticketing.SeatInventory.StatusWrites
import Ticketing.System.Links

/-!
# Seats are sold to those who booked them

Library `System`. From the outbox of the booking service to the table of seats: a seat that was sold
is one of a booking that was paid for, and it was sold to the user of that booking.
-/

namespace Ticketing.System

open Async Store

namespace Platform

variable {provider : String} {s : Platform provider} {seats : Table SeatInventory.Seat.place}
  {G : Regime provider}

/-- The sale is that of an outbox row, which describes a confirmed booking. -/
def SaleOrdered (db : BookingService.Db) (i : Option Id) (e : String) (ids : List String)
    (u : String) : Prop :=
  ∃ entry, BookingService.EntryOk db entry ∧ i = some entry.aggregateId ∧
    entry.event = .seatsMarkSold e u ids

private theorem saleOrdered_of_reach (h : Reach G seats s) {n : Nat} {i : Option Id} {e : String}
    {ids : List String} {u : String} {q : SeatInventory.service.Program}
    (hn : s.inventory.At n (.serve i (.markSeatsAsSold e ids u)) q) :
    SaleOrdered s.booking.conf.state i e ids u := by
  have served : s.Serves i (.markSeatsAsSold e ids u) n := ⟨q, hn⟩
  refine of_serves (C := fun p i r ↦ ∀ e ids u, r = .markSeatsAsSold e ids u →
    SaleOrdered p.conf.state i e ids u) ?_ ?_ ?_ h served e ids u rfl
  · rintro p t j i r k booking ht e ids u rfl
    obtain ⟨owner, owner', before, move⟩ := BookingService.reach_move (x := {}) booking.free ht
    obtain ⟨entry, mem, issuer, event, -⟩ := move.acts
    exact ⟨entry, before.entries entry mem, issuer, event⟩
  · exact fun _ before ↦ before
  · intro p t j x o k i r booking ht before e ids u same
    obtain ⟨entry, ok, issuer, event⟩ := before e ids u same
    obtain ⟨owner, owner', -, move⟩ := BookingService.reach_move (x := x) booking.free ht
    exact ⟨entry, move.entryOk ok, issuer, event⟩

private theorem isNamed_iff {r : BookingService.Booking} {items : List BookingService.BookingItem}
    {seat : SeatInventory.Seat} :
    seat.isNamed (r.eventId, items.map BookingService.BookingItem.seatId) = true ↔
      seat.place ∈ r.places items := by
  simp only [SeatInventory.Seat.isNamed, Bool.and_eq_true, decide_eq_true_eq,
    List.contains_iff_mem, BookingService.Booking.places, List.mem_map, SeatInventory.Seat.place,
    Prod.mk.injEq]
  constructor
  · rintro ⟨event, item, mem, id⟩
    exact ⟨item, mem, event.symm, id⟩
  · rintro ⟨item, mem, event, id⟩
    exact ⟨event.symm, item, mem, id⟩

/-- Whatever fails and however the services interleave, a seat that is sold was sold at the start,
or it is a seat of a booking that was confirmed and paid for, and it is sold to its user. -/
theorem sold_means_booked (h : Reach G seats s) {seat : SeatInventory.Seat}
    (mem : seat ∈ s.inventory.conf.state.seats.rows) (sold : seat.status = .sold) :
    seat ∈ seats.rows ∨ ∃ r ∈ s.booking.conf.state.bookings.rows, r.settled = true ∧
      BookingService.Paid s.booking.conf.log r ∧ seat.place ∈ s.booking.conf.state.placesOf r ∧
        SeatInventory.soldTo s.inventory.conf seat.place = some r.userId := by
  have inventory := reach_inventory h
  rcases SeatInventory.status_given inventory mem with
    old | ⟨ev, last, gives, named, names, isNamed⟩
  · exact .inl old
  refine .inr ?_
  rw [sold] at gives
  obtain ⟨q, hq⟩ := inventory.event_at (List.mem_of_find?_eq_some last)
  obtain ⟨t, j, o, a⟩ := ev
  obtain ⟨i, e, ids, u, rfl⟩ := SeatInventory.Job.eq_of_sold gives
  obtain rfl : (e, ids) = named := names _ rfl
  obtain ⟨entry, ⟨r, found, settled, describes⟩, -, event⟩ :=
    saleOrdered_of_reach h hq
  rw [event] at describes
  obtain ⟨rfl, rfl, rfl⟩ := describes
  have hr := (BookingService.Inv.mem_of_find found).1
  obtain ⟨owner, holds⟩ := BookingService.reach_inv (reach_booking h).free
  refine ⟨r, hr, settled, (holds.rows r hr).paid settled, isNamed_iff.mp isNamed, ?_⟩
  unfold SeatInventory.soldTo
  rw [Table.find_of_mem mem, last]
  exact if_pos sold

/-- User `"u"` books a seat, and the outbox is delivered: the seat is sold to the user. -/
theorem sold_means_booked_delivered :
    ∃ s, play (.free "stripe") [holdSeat "A", book "A" "k", .job .processOutbox]
        (start sampleSeats) = some s ∧
      ∃ seat ∈ s.inventory.conf.state.seats.rows, seat.status = .sold ∧
        ∃ r ∈ s.booking.conf.state.bookings.rows, r.settled = true ∧
          BookingService.Paid s.booking.conf.log r ∧ seat.place ∈ s.booking.conf.state.placesOf r ∧
            SeatInventory.soldTo s.inventory.conf seat.place = some r.userId := by
  have unsold : ∀ seat ∈ sampleSeats.rows, seat.status ≠ .sold := by decide
  have played : (play (.free "stripe") [holdSeat "A", book "A" "k", .job .processOutbox]
      (start sampleSeats)).any fun s ↦
        s.inventory.conf.state.seats.rows.any fun seat ↦ seat.status = .sold := by
    decide +kernel
  simp only [Option.any_eq_true, List.any_eq_true, decide_eq_true_eq] at played
  obtain ⟨s, hs, seat, mem, sold⟩ := played
  rcases sold_means_booked (later_of_play hs) mem sold with old | booked
  · exact absurd sold (unsold seat old)
  · exact ⟨s, hs, seat, mem, sold, booked⟩

/-- Whatever fails and however the services interleave, once the outbox row that orders the sale of
a booking is completed, a sale for its user has saved the seats of the booking. This updated exactly
those that were not `SOLD` then, and then it has stored exactly these as `SOLD` at one step. -/
theorem completed_sold (h : Reach G seats s) {entry : BookingService.Outbox}
    (mem : entry ∈ s.booking.conf.state.outbox.rows) (completed : entry.status = .completed)
    (sale : entry.event.isSeatsMarkSold = true) :
    ∃ r ∈ s.booking.conf.state.bookings.rows, r.id = entry.aggregateId ∧ r.settled = true ∧
      ∃ ev earlier, ev :: earlier <:+ s.inventory.conf.log ∧
        (∃ ids, ev.job = .serve (some r.id) (.markSeatsAsSold r.eventId ids r.userId)) ∧
        ev.op.stores ev.answer = true ∧
        ∃ save before, save :: before <:+ ev :: earlier ∧ save.tid = ev.tid ∧
          save.op.updates? save.answer = some (ev.op.storedSeats ev.answer) ∧
          ev.op.storedSeats ev.answer =
            ((SeatInventory.seatsAfter seats.rows before).filter fun seat ↦
              seat.place ∈ s.booking.conf.state.placesOf r && seat.status ≠ .sold).map
                (SeatInventory.Seat.become .sold) := by
  have inventory := reach_inventory h
  obtain ⟨owner, holds⟩ := BookingService.reach_inv (reach_booking h).free
  obtain ⟨r, found, settled, describes⟩ := holds.entries entry mem
  obtain ⟨hr, id⟩ := BookingService.Inv.mem_of_find found
  obtain ⟨call, hcall, sold⟩ :=
    BookingService.completed_acknowledged (reach_booking h) mem completed sale
  obtain ⟨t, j, e, ids, u, event, rfl⟩ := BookingService.Op.eq_of_sale sold
  rw [event] at describes
  obtain ⟨rfl, rfl, rfl⟩ := describes
  obtain ⟨n, hn⟩ := (reach_linked h).replies _ _ _ _ _ hcall
  obtain ⟨ev, earlier, suffix, rfl, job, stores, save, before, first, tid, saved, named, names,
    stored⟩ := SeatInventory.saved_of_acknowledged inventory hn rfl
  obtain rfl := names _ rfl
  refine ⟨r, hr, id, settled, ev, earlier, suffix, ?_, stores, save, before, first, tid, saved, ?_⟩
  · rw [id]
    exact ⟨_, job⟩
  · rw [stored]
    unfold SeatInventory.restated
    congr 1
    apply List.filter_congr
    intro seat _
    congr 1
    rw [Bool.eq_iff_iff, decide_eq_true_iff]
    exact isNamed_iff

/-- User `"u"` books a seat, and the outbox is delivered: its seat was sold. -/
theorem completed_sold_delivered :
    ∃ s, play (.free "stripe") [holdSeat "A", book "A" "k", .job .processOutbox]
        (start sampleSeats) = some s ∧
      ∃ r ∈ s.booking.conf.state.bookings.rows, r.settled = true ∧
        ∃ ev ∈ s.inventory.conf.log, ev.op.stores ev.answer = true ∧
          ∃ before, ev.op.storedSeats ev.answer =
            ((SeatInventory.seatsAfter sampleSeats.rows before).filter fun seat ↦
              seat.place ∈ s.booking.conf.state.placesOf r && seat.status ≠ .sold).map
                (SeatInventory.Seat.become .sold) := by
  have played : (play (.free "stripe") [holdSeat "A", book "A" "k", .job .processOutbox]
      (start sampleSeats)).any fun s ↦ s.booking.conf.state.outbox.rows.any fun entry ↦
        entry.status = .completed && entry.event.isSeatsMarkSold := by
    decide +kernel
  simp only [Option.any_eq_true, List.any_eq_true, Bool.and_eq_true, decide_eq_true_eq] at played
  obtain ⟨s, hs, entry, mem, completed, sale⟩ := played
  obtain ⟨r, hr, -, settled, ev, earlier, suffix, -, stores, save, before, -, -, -, stored⟩ :=
    completed_sold (later_of_play hs) mem completed sale
  exact ⟨s, hs, r, hr, settled, ev, suffix.subset List.mem_cons_self, stores, before, stored⟩

end Platform

end Ticketing.System
