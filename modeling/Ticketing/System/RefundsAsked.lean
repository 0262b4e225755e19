import Ticketing.BookingService.RefundRequests
import Ticketing.PaymentService.RefundOrders
import Ticketing.PaymentService.SingleRefund
import Ticketing.System.Links

/-!
# Money goes back to those who asked

Library `System`. From the request of a user to the gateway: a refund that a gateway is asked for is
of a settled payment of a booking whose owner asked for a refund.
-/

namespace Ticketing.System

open Async Store

namespace Platform

variable {provider : String} {s : Platform provider} {seats : Table SeatInventory.Seat.place}
  {G : Regime provider}

/-- Every refund that reached the payment service was asked for by the owner of the booking. -/
def RefundsAsked (s : Platform provider) : Prop :=
  ∀ u i b key reason q, s.payment.At u ⟨i, .refundPayment b key reason⟩ q →
    BookingService.RefundAsked s.booking b key

private theorem refundsAsked_of_reach (h : Reach G seats s) : s.RefundsAsked := by
  intro u i b key reason q hu
  have served : s.Serves i (.refundPayment b key reason) u := ⟨q, hu⟩
  refine of_serves (C := fun p _ r ↦ ∀ b key reason, r = .refundPayment b key reason →
    BookingService.RefundAsked p b key) ?_ ?_ ?_ h served b key reason rfl
  · rintro p t j i r k booking ht b key reason rfl
    exact BookingService.asked_of_refund booking.free ht
  · intro p i r j before b key reason same
    exact (before b key reason same).spawn j
  · intro p t j x o k i r booking ht before b key reason same
    exact (before b key reason same).advance booking.free ht

/-- Whatever fails and however the services interleave, a gateway is asked to pay back no more and
no less than a settled payment that it charged, of a booking whose owner asked for a refund. -/
theorem refunds_for_owners (h : Reach G seats s) {t : Nat} {j : PaymentService.Job}
    {gateway providerTxId : String} {amount : Money}
    {a : PaymentService.sig.Answer (.refund gateway providerTxId amount)}
    (mem : (⟨t, j, .refund gateway providerTxId amount, a⟩ :
      Event (PaymentService.service provider)) ∈ s.payment.conf.log) :
    ∃ p ∈ s.payment.conf.state.payments.rows, p.settled = true ∧ p.provider = gateway ∧
      p.providerTxId.getD "" = providerTxId ∧ p.amount = amount ∧
        ∃ key, BookingService.RefundAsked s.booking p.bookingId key := by
  have payment : PaymentService.Reach (.free (PaymentService.service provider)) s.payment :=
    reach_payment (fun _ _ _ ↦ trivial) (fun _ _ ↦ id) h
  obtain ⟨p, hp, settled, name, txId, all, key, reason, asks⟩ :=
    PaymentService.refund_ordered payment mem
  refine ⟨p, hp, settled, name, txId, all, key, ?_⟩
  obtain ⟨q, hq⟩ := payment.event_at mem
  obtain ⟨i, request⟩ := j
  cases (show request = _ from asks)
  exact refundsAsked_of_reach h t i _ key reason q hq

/-- A user books a seat and cancels the booking; the money goes back. -/
theorem refunds_for_owners_cancelled :
    ∃ s : Platform "stripe",
      play (.free "stripe") [holdSeat "A", book "A" "k", cancel 0 "r"] (start sampleSeats) =
        some s ∧
      ∃ p ∈ s.payment.conf.state.payments.rows, p.settled = true ∧ p.amount = 10000 ∧
        ∃ key, BookingService.RefundAsked s.booking p.bookingId key := by
  have played :
      (play (.free "stripe") [holdSeat "A", book "A" "k", cancel 0 "r"] (start sampleSeats)).any
        fun s ↦ s.payment.conf.log.any fun ev ↦
          PaymentService.Op.accepts ev.op ev.answer = some 10000 := by
    decide +kernel
  simp only [Option.any_eq_true, List.any_eq_true, decide_eq_true_eq] at played
  obtain ⟨s, hs, ⟨t, j, o, a⟩, mem, sent⟩ := played
  refine ⟨s, hs, ?_⟩
  cases o with
  | refund gateway providerTxId amount =>
    have all : amount = 10000 := by
      cases a with
      | error e => cases sent
      | ok response =>
        simp only [PaymentService.Op.accepts, Option.ite_none_right_eq_some,
          Option.some.injEq] at sent
        exact sent.2
    subst all
    obtain ⟨p, hp, settled, -, -, amount, asked⟩ := refunds_for_owners (later_of_play hs) mem
    exact ⟨p, hp, settled, amount, asked⟩
  | _ => cases sent

end Platform

end Ticketing.System
