import Ticketing.System.Links

/-!
# Refund states tell the truth about money

Library `System`. The payment service answers a refund key that it has seen with the refund
stored under it, whichever booking it was for. A booking whose payment counts as refunded
has a refunded payment as long as each key brings back only a refund of its own booking.
-/

namespace Ticketing.System

open Async Store

namespace Platform

variable {provider : String} {s : Platform provider} {seats : Table SeatInventory.Seat.place}

/-- Every booking whose refund got past its payment has a refunded payment, with a processed
refund. -/
def RefundsTruthful (s : Platform provider) : Prop :=
  ∀ r ∈ s.booking.conf.state.bookings.rows,
    r.refundState = some .paymentRefunded ∨ r.refundState = some .seatsReleased ∨
      r.refundState = some .completed →
    ∃ p ∈ s.payment.conf.state.payments.rows, p.bookingId = r.id ∧ p.status = .refunded ∧
      ∃ f ∈ s.payment.conf.state.refunds.rows, f.paymentId = p.id ∧ f.status = .processed

/-- The runs in which a refund key brings back a processed refund only for the booking whose
refunded payment it belongs to. -/
def ownRefunds (provider : String) : Regime provider where
  may s
    | .payment ev => PaymentService.OwnRefund s.payment.conf.state ev.job.request ev.op
    | _ => True
  excl _ _ := False

instance (s : Platform provider) : (a : Action provider) → Decidable ((ownRefunds provider).may s a)
  | .payment ev => inferInstanceAs
    (Decidable (PaymentService.OwnRefund s.payment.conf.state ev.job.request ev.op))
  | .arrive _ | .visit _ | .call _ _ | .booking _ | .inventory _ => inferInstanceAs (Decidable True)

instance (i j : BookingService.Job) : Decidable ((ownRefunds provider).excl i j) :=
  inferInstanceAs (Decidable False)

/-- While every refund key brings back refunds of its own booking only, refund states are
borne out by the payment service. -/
theorem refunds_truthful_when_own (h : Reach (ownRefunds provider) seats s) :
    s.RefundsTruthful := by
  intro r hr hst
  obtain ⟨owner, hi⟩ := BookingService.reach_inv (reach_booking h).free
  obtain ⟨t, j, key, reason, id, why, hm⟩ := (hi.rows r hr).paymentRefunded hst
  obtain ⟨u, hu⟩ := (reach_linked h).replies _ _ _ _ _ hm
  let M : PaymentService.Mode := ⟨false, true⟩
  have hp : PaymentService.Reach (M.regime provider) s.payment := by
    apply reach_payment _ (fun _ _ h ↦ h) h
    intro s ev hev
    exact ⟨fun hf ↦ absurd hf Bool.false_ne_true, fun _ ↦ hev⟩
  obtain ⟨p, hmem, hb, hs⟩ := PaymentService.reach_told hp hu rfl
  exact ⟨p, hmem, hb, hs, PaymentService.reach_refunded hp hmem hs⟩

/-- A user books a seat and cancels the booking, and the payment is refunded. -/
theorem refunds_truthful_when_own_cancelled :
    ∃ s, play (ownRefunds "stripe") [holdSeat "A", book "A" "k", cancel 0 "r"]
        (start sampleSeats) = some s ∧
      (∃ r ∈ s.booking.conf.state.bookings.rows, r.refundState = some .completed) ∧
      s.RefundsTruthful := by
  have played :
      (play (ownRefunds "stripe") [holdSeat "A", book "A" "k", cancel 0 "r"]
        (start sampleSeats)).any fun s ↦
        s.booking.conf.state.bookings.rows.any fun r ↦ r.refundState = some .completed := by
    decide +kernel
  simp only [Option.any_eq_true, List.any_eq_true, decide_eq_true_eq] at played
  obtain ⟨s, hs, hr⟩ := played
  exact ⟨s, hs, hr, refunds_truthful_when_own (later_of_play hs)⟩

/-- A second booking that is cancelled with the refund key of the first counts as refunded,
while its payment is not. -/
theorem reused_refund_key_keeps_money :
    ¬ ∀ (provider : String) (seats : Table SeatInventory.Seat.place) (s : Platform provider),
      Reach (.free provider) seats s → s.RefundsTruthful := by
  have played : (play (.free "stripe")
      [holdSeat "A", holdSeat "B", book "A" "k", book "B" "l", cancel 0 "r", cancel 3 "r"]
      (start sampleSeats)).any fun s ↦ s.booking.conf.state.bookings.rows.any fun r ↦
        r.refundState = some .completed &&
          s.payment.conf.state.payments.rows.all fun p ↦
            !(p.bookingId = r.id && p.status = .refunded) := by
    decide +kernel
  simp only [Option.any_eq_true, List.any_eq_true, List.all_eq_true, Bool.and_eq_true,
    Bool.not_eq_true', Bool.and_eq_false_iff, decide_eq_true_eq, decide_eq_false_iff_not] at played
  obtain ⟨s, hs, r, hr, hst, hnone⟩ := played
  intro truthful
  obtain ⟨p, hp, hb, href, -⟩ :=
    truthful "stripe" sampleSeats s (later_of_play hs) r hr (.inr (.inr hst))
  rcases hnone p hp with hne | hne
  · exact hne hb
  · exact hne href

end Platform

end Ticketing.System
