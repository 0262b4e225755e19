import Ticketing.BookingService.PaidTickets
import Ticketing.PaymentService.RefundOrders
import Ticketing.System.ConfirmedPaid

/-!
# What was sold was paid for

Library `System`. From the gateways to the tickets: a ticket is of a settled booking, a settled
booking has a payment of its own, and a settled payment has a charge of its own that its gateway
accepted.
-/

namespace Ticketing.System

open Async Store

namespace Platform

variable {provider : String} {s : Platform provider} {seats : Table SeatInventory.Seat.place}

/-- The charges that the gateways accepted, with their transactions. -/
def charges (s : Platform provider) : List (PaymentService.Charge × Option String) :=
  PaymentService.acceptedCharges (PaymentService.requests s.payment).conf.log

/-- The bookings that were confirmed at some time. -/
def sales (s : Platform provider) : List BookingService.Booking :=
  s.booking.conf.state.bookings.rows.filter BookingService.Booking.settled

/-- What was sold was paid for. -/
structure Funded (s : Platform provider) : Prop where
  /-- Each sale has an accepted charge of its own, of its total in its currency. -/
  charged : List.Subperm (s.sales.map fun r ↦ (r.totalAmount, r.currency))
    (s.charges.map fun charge ↦ (charge.1.amount, charge.1.currency))
  /-- A ticket is of an item that was sold. -/
  issued : ∀ ticket ∈ s.booking.conf.state.tickets.rows,
    ∃ r ∈ s.sales, r.id = ticket.bookingId ∧
      ∃ item ∈ s.booking.conf.state.itemsOf r.id, ticket.item = item.toTicket

/-- The payment is of the booking, and of its total. -/
private def Pays (r : BookingService.Booking) (p : PaymentService.Payment) : Prop :=
  p.bookingId = r.id ∧ p.amount = r.totalAmount ∧ p.currency = r.currency

/-- While the keys of succeeded payments do not come back, each settled booking was charged by a
gateway, for its total and for no other booking, and tickets are of the items of such bookings. -/
theorem tickets_funded (h : Reach (newKeys provider) seats s) : s.Funded := by
  have free := (reach_booking h).free
  obtain ⟨owner, hi⟩ := BookingService.reach_inv free
  have payment : PaymentService.Reach (.free (PaymentService.service provider)) s.payment :=
    reach_payment (fun _ _ _ ↦ trivial) (fun _ _ ↦ id) h
  have nodup : s.sales.Nodup := (List.Nodup.of_map _ s.booking.conf.state.bookings.nodup).filter _
  constructor
  · have paid : ∀ r ∈ s.sales, ∃ p ∈ s.payment.conf.state.settled, Pays r p := by
      intro r hr
      obtain ⟨stored, settled⟩ := List.mem_filter.mp hr
      obtain ⟨t, j, d, info, hm, hs, booking, amount, currency⟩ := (hi.rows r stored).paid settled
      obtain ⟨p, hp, -, charged, hb, ha, hc⟩ := chargedPayment_of_reply h hm hs
      exact ⟨p, List.mem_filter.mpr ⟨hp, charged⟩, hb.trans booking, ha.trans amount,
        hc.trans currency⟩
    have receipts : List.Subperm (s.payment.conf.state.settled.map PaymentService.Payment.receipt)
        s.charges :=
      PaymentService.settled_subperm (PaymentService.reach_requests payment)
    have funds := Receipts.subperm_map (fun charge ↦ (charge.1.amount, charge.1.currency)) receipts
    rw [List.map_map] at funds
    refine (Receipts.subperm_of_own Pays nodup paid ?_ ?_).trans funds
    · intro r r' p hr hr' hp hp'
      have same : r.id = r'.id := hp.1.symm.trans hp'.1
      exact List.inj_on_of_nodup_map s.booking.conf.state.bookings.nodup (List.mem_filter.mp hr).1
        (List.mem_filter.mp hr').1 same
    · rintro r p ⟨-, amount, currency⟩
      exact (Prod.ext amount currency).symm
  · intro ticket ht
    obtain ⟨⟨r, hr, settled⟩, copied⟩ := BookingService.paidFor_of_reach free ht
    obtain ⟨stored, id⟩ := BookingService.Inv.mem_of_find hr
    obtain ⟨item, mem, same⟩ := List.mem_map.mp copied
    exact ⟨r, List.mem_filter.mpr ⟨stored, settled⟩, id, item, by rwa [id], same.symm⟩

/-- A user books a seat, and the ticket is issued. -/
theorem tickets_funded_issued :
    ∃ s, play (newKeys "stripe") [holdSeat "A", book "A" "k", .job .processOutbox]
        (start sampleSeats) = some s ∧
      (∃ ticket ∈ s.booking.conf.state.tickets.rows, ticket.seatId = "A") ∧
      s.Funded := by
  have played : (play (newKeys "stripe") [holdSeat "A", book "A" "k", .job .processOutbox]
      (start sampleSeats)).any fun s ↦
        s.booking.conf.state.tickets.rows.any fun ticket ↦ ticket.seatId = "A" := by
    decide +kernel
  simp only [Option.any_eq_true, List.any_eq_true, decide_eq_true_eq] at played
  obtain ⟨s, hs, ticket⟩ := played
  exact ⟨s, hs, ticket, tickets_funded (later_of_play hs)⟩

end Platform

end Ticketing.System
