import Ticketing.System.Links

/-!
# Confirmed bookings are paid

Library `System`. The payment service answers a key that it has seen with the payment stored
under it, whatever that payment was for, and the booking service does not compare. A
confirmed booking has a payment of its own as long as no key of a succeeded payment comes
back.
-/

namespace Ticketing.System

open Async Store

namespace Platform

variable {provider : String} {s : Platform provider} {seats : Table SeatInventory.Seat.place}

/-- Every confirmed booking has a payment of its amount that succeeded, refunded or not. -/
def ConfirmedPaid (s : Platform provider) : Prop :=
  ∀ r ∈ s.booking.conf.state.bookings.rows, r.status = .confirmed →
    ∃ p ∈ s.payment.conf.state.payments.rows, p.bookingId = r.id ∧ p.amount = r.totalAmount ∧
      p.currency = r.currency ∧ (p.status = .succeeded ∨ p.status = .refunded)

/-- The payment service answered the request for booking `b` with payment `n`, succeeded. -/
def PaidWith (s : Platform provider) (b n : Id) : Prop :=
  ∃ t j i d info,
    (⟨t, j, .rpc i (.initiatePayment d), .ok (.payment (some info))⟩ :
      Event BookingService.service) ∈ s.booking.conf.log ∧
      d.bookingId = b ∧ info.status = .succeeded ∧ info.id = n

/-- No payment confirms two bookings. -/
def PaymentsApart (s : Platform provider) : Prop :=
  ∀ b b' n, s.PaidWith b n → s.PaidWith b' n → b = b'

/-- The runs in which no payment key is looked up that a succeeded payment is stored under. -/
def newKeys (provider : String) : Regime provider where
  may s
    | .payment ev => PaymentService.NewKey s.payment.conf.state ev.op
    | _ => True
  excl _ _ := False

instance (s : Platform provider) : (a : Action provider) → Decidable ((newKeys provider).may s a)
  | .payment ev => inferInstanceAs (Decidable (PaymentService.NewKey s.payment.conf.state ev.op))
  | .arrive _ | .visit _ | .call _ _ | .booking _ | .inventory _ => inferInstanceAs (Decidable True)

instance (i j : BookingService.Job) : Decidable ((newKeys provider).excl i j) :=
  inferInstanceAs (Decidable False)

/-- The reply of the payment service to a new key is of a payment of the request. -/
theorem chargedPayment_of_reply (h : Reach (newKeys provider) seats s) {t : Nat}
    {j : BookingService.Job} {i : Option Id} {d : InitiatePaymentRequest} {info : PaymentInfo}
    (hm : (⟨t, j, .rpc i (.initiatePayment d), .ok (.payment (some info))⟩ :
      Event BookingService.service) ∈ s.booking.conf.log) (hs : info.status = .succeeded) :
    PaymentService.ChargedPayment d info.id s.payment.conf.state := by
  obtain ⟨u, hu⟩ := (reach_linked h).replies _ _ _ _ _ hm
  let M : PaymentService.Mode := ⟨true, false⟩
  have hp : PaymentService.Reach (M.regime provider) s.payment := by
    apply reach_payment _ (fun _ _ h ↦ h) h
    intro s ev hev
    exact ⟨fun _ ↦ hev, fun hf ↦ absurd hf Bool.false_ne_true⟩
  exact PaymentService.reach_told hp hu rfl hs

/-- While the keys of succeeded payments do not come back, every confirmed booking is paid
by a payment of its own. -/
theorem confirmed_paid_when_keys_new (h : Reach (newKeys provider) seats s) :
    s.ConfirmedPaid ∧ s.PaymentsApart := by
  constructor
  · intro r hr hst
    obtain ⟨owner, hi⟩ := BookingService.reach_inv (reach_booking h).free
    have settled : r.settled = true := by simp [BookingService.Booking.settled, hst]
    obtain ⟨t, j, d, info, hm, hs, hb, ha, hc⟩ := (hi.rows r hr).paid settled
    obtain ⟨p, hp, -, hps, hpb, hpa, hpc⟩ := chargedPayment_of_reply h hm hs
    refine ⟨p, hp, hpb.trans hb, hpa.trans ha, hpc.trans hc, ?_⟩
    simpa [PaymentService.Payment.settled] using hps
  · rintro b b' n ⟨t, j, i, d, info, hm, rfl, hs, rfl⟩ ⟨t', j', i', d', info', hm', rfl, hs', hn⟩
    obtain ⟨p, hp, hpi, -, hpb, -⟩ := chargedPayment_of_reply h hm hs
    obtain ⟨p', hp', hpi', -, hpb', -⟩ := chargedPayment_of_reply h hm' hs'
    have same : p.id = p'.id := by rw [hpi, hpi', hn]
    have found := Table.find_of_mem hp
    rw [same, Table.find_of_mem hp'] at found
    cases found
    exact hpb.symm.trans hpb'

/-- A user books a seat, and the booking is confirmed and paid. -/
theorem confirmed_paid_when_keys_new_booked :
    ∃ s, play (newKeys "stripe") [holdSeat "A", book "A" "k"] (start sampleSeats) = some s ∧
      (∃ r ∈ s.booking.conf.state.bookings.rows, r.status = .confirmed) ∧
      s.ConfirmedPaid ∧ s.PaymentsApart := by
  have played :
      (play (newKeys "stripe") [holdSeat "A", book "A" "k"] (start sampleSeats)).any fun s ↦
        s.booking.conf.state.bookings.rows.any fun r ↦ r.status = .confirmed := by
    decide +kernel
  simp only [Option.any_eq_true, List.any_eq_true, decide_eq_true_eq] at played
  obtain ⟨s, hs, hr⟩ := played
  exact ⟨s, hs, hr, confirmed_paid_when_keys_new (later_of_play hs)⟩

/-- A second booking with the key of the first is confirmed, and has no payment. -/
theorem reused_key_confirms_unpaid :
    ¬ ∀ (provider : String) (seats : Table SeatInventory.Seat.place) (s : Platform provider),
      Reach (.free provider) seats s → s.ConfirmedPaid ∧ s.PaymentsApart := by
  have played : (play (.free "stripe") [holdSeat "A", holdSeat "B", book "A" "k", book "B" "k"]
      (start sampleSeats)).any fun s ↦ s.booking.conf.state.bookings.rows.any fun r ↦
        r.status = .confirmed &&
          s.payment.conf.state.payments.rows.all fun p ↦ p.bookingId ≠ r.id := by
    decide +kernel
  simp only [Option.any_eq_true, List.any_eq_true, List.all_eq_true, Bool.and_eq_true,
    decide_eq_true_eq] at played
  obtain ⟨s, hs, r, hr, hst, hnone⟩ := played
  intro paid
  obtain ⟨p, hp, hb, -⟩ := (paid "stripe" sampleSeats s (later_of_play hs)).1 r hr hst
  exact hnone p hp hb

end Platform

end Ticketing.System
