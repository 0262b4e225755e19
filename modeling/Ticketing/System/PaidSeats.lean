import Ticketing.System.DoubleBooking

/-!
# Paid seats stay off sale

Library `System`. Between the confirmation and the `seats.mark_sold` step a seat is kept only
by its hold, and every release (the expiry of a hold, the failure branch of another booking)
frees the seats that it is told to free. Where none of them frees a seat that a booking has
taken, and no booking takes a seat that is on sale, a paid seat is never on sale.
-/

namespace Ticketing.System

open Async Store

/-- The booking waits for its payment, or is paid and not being refunded. -/
def awaited (r : BookingService.Booking) : Bool :=
  r.status = .pending || r.status = .confirmed && r.refundState = none

namespace Platform

variable {provider : String} {s : Platform provider} {seats : Table SeatInventory.Seat.place}

/-- No seat of a confirmed booking that is not being refunded is available. -/
def PaidOffSale (s : Platform provider) : Prop :=
  ∀ r ∈ s.booking.conf.state.bookings.rows, r.status = .confirmed → r.refundState = none →
    ∀ seat ∈ s.inventory.conf.state.seats.rows,
      seat.place ∈ s.booking.conf.state.placesOf r → seat.status ≠ .available

/-- No operation of the seat inventory makes a seat available that an awaited booking has. -/
def FreesUntaken (s : Platform provider) (ev : Event SeatInventory.service) : Prop :=
  ∀ seat ∈ ev.op.storedSeats ev.answer, seat.status = .available →
    ∀ r ∈ s.booking.conf.state.bookings.rows, awaited r = true →
      seat.place ∉ s.booking.conf.state.placesOf r

/-- When `persistBooking` commits, its seats are not available. -/
def TakesOffSale (s : Platform provider) (ev : Event BookingService.service) : Prop :=
  ∀ new ∈ ev.op.persisted ev.answer, ∀ seat ∈ s.inventory.conf.state.seats.rows,
    seat.place ∈ new.1.places new.2 → seat.status ≠ .available

/-- The runs in which no seat of an awaited booking is freed, and bookings take seats that are
not on sale. -/
def keptSeats (provider : String) : Regime provider where
  may s
    | .booking ev => s.TakesOffSale ev
    | .inventory ev => s.FreesUntaken ev
    | _ => True
  excl _ _ := False

instance (s : Platform provider) (ev : Event SeatInventory.service) :
    Decidable (s.FreesUntaken ev) := by
  unfold FreesUntaken
  infer_instance

instance (s : Platform provider) (ev : Event BookingService.service) :
    Decidable (s.TakesOffSale ev) := by
  unfold TakesOffSale
  infer_instance

instance (s : Platform provider) : (a : Action provider) → Decidable ((keptSeats provider).may s a)
  | .booking ev => inferInstanceAs (Decidable (s.TakesOffSale ev))
  | .inventory ev => inferInstanceAs (Decidable (s.FreesUntaken ev))
  | .arrive _ | .visit _ | .call _ _ | .payment _ => inferInstanceAs (Decidable True)

instance (i j : BookingService.Job) : Decidable ((keptSeats provider).excl i j) :=
  inferInstanceAs (Decidable False)

/-- The runs in which no client releases seats. -/
def noClientRelease (provider : String) : Regime provider where
  may _
    | .visit (.releaseSeats _ _ _) => False
    | _ => True
  excl _ _ := False

instance (s : Platform provider) :
    (a : Action provider) → Decidable ((noClientRelease provider).may s a)
  | .visit (.releaseSeats _ _ _) => inferInstanceAs (Decidable False)
  | .visit (.holdSeats _ _ _ _) | .visit (.serve _ _) | .visit .processExpiredHolds
  | .visit (.expireLock _ _) => inferInstanceAs (Decidable True)
  | .arrive _ | .call _ _ | .booking _ | .payment _ | .inventory _ =>
    inferInstanceAs (Decidable True)

instance (i j : BookingService.Job) : Decidable ((noClientRelease provider).excl i j) :=
  inferInstanceAs (Decidable False)

/-- No seat of an awaited booking is available. -/
def AwaitedOffSale (s : Platform provider) : Prop :=
  ∀ r ∈ s.booking.conf.state.bookings.rows, awaited r = true →
    ∀ seat ∈ s.inventory.conf.state.seats.rows,
      seat.place ∈ s.booking.conf.state.placesOf r → seat.status ≠ .available

/-- An operation of the booking service takes no seat that is on sale. -/
theorem awaitedOffSale_booking {G : Async.Regime BookingService.service} {t : Nat}
    {j : BookingService.Job} {x : Choice} {o : BookingService.Op}
    {k : BookingService.sig.Answer o → BookingService.service.Program}
    (hb : BookingService.Reach G s.booking) (h : s.AwaitedOffSale)
    (ht : s.booking.At t j (.op o k))
    (hm : s.TakesOffSale ⟨t, j, o, s.booking.conf.answer x o⟩) :
    (s.proceed t j x o k).AwaitedOffSale := by
  intro r hr ha seat hseat hplace
  have hst : r.status ≠ .cancelled := by
    intro hc
    simp [awaited, hc] at ha
  cases BookingService.origin_of_step hb ht hr hst with
  | persisted items op places => exact hm _ op seat hseat (places _ hplace)
  | kept mem places => exact h r mem ha seat hseat (places ▸ hplace)
  | confirmed q mem id places pending =>
    exact h q mem (by simp [awaited, pending]) seat hseat (places ▸ hplace)
  | refund q mem id places settled settled' state stored =>
    have open_ : r.status = .confirmed ∨ r.status = .refunded := by
      simpa [BookingService.Booking.settled] using settled'
    rcases open_ with hc | hc
    · simp [awaited, hc, state] at ha
    · simp [awaited, hc] at ha

/-- An operation of the seat inventory frees no seat of an awaited booking. -/
theorem awaitedOffSale_inventory {t : Nat} {j : SeatInventory.Job} {x : Choice}
    {o : SeatInventory.Op} {k : SeatInventory.sig.Answer o → SeatInventory.service.Program}
    (h : s.AwaitedOffSale) (hm : s.FreesUntaken ⟨t, j, o, s.inventory.conf.answer x o⟩) :
    { s with inventory := s.inventory.advance t j x o k }.AwaitedOffSale := by
  intro r hr ha seat hseat hplace
  rcases SeatInventory.mem_seats_exec hseat with hstored | hold
  · intro hav
    exact hm seat hstored hav r hr ha hplace
  · exact h r hr ha seat hold hplace

/-- No seat of an awaited booking is available over the whole run. -/
theorem awaitedOffSale_of_reach (h : Reach (keptSeats provider) seats s) : s.AwaitedOffSale := by
  induction h with
  | refl =>
    intro r hr
    cases hr
  | tail hrun hs ih =>
    cases hs with
    | booking ht _ hm => exact awaitedOffSale_booking (reach_booking hrun) ih ht hm
    | inventory _ hm => exact awaitedOffSale_inventory ih hm
    | @call t j i r k ht hn hm =>
      intro q hq ha seat hseat hplace
      rw [send_booking] at hq hplace
      rw [send_inventory_conf] at hseat
      exact ih q hq ha seat hseat hplace
    | _ => exact ih

/-- While no seat of an awaited booking is freed and bookings take seats that are not on sale,
no paid seat is on sale. -/
theorem paid_off_sale_when_kept (h : Reach (keptSeats provider) seats s) : s.PaidOffSale := by
  intro r hr hc hn
  exact awaitedOffSale_of_reach h r hr (by simp [awaited, hc, hn])

/-- A user books a seat, and the outbox marks it as sold. -/
theorem paid_off_sale_when_kept_sold :
    ∃ s, play (keptSeats "stripe") [holdSeat "A", book "A" "k", .job .processOutbox]
        (start sampleSeats) = some s ∧
      (∃ r ∈ s.booking.conf.state.bookings.rows, r.status = .confirmed ∧ r.refundState = none) ∧
      s.PaidOffSale := by
  have played : (play (keptSeats "stripe") [holdSeat "A", book "A" "k", .job .processOutbox]
      (start sampleSeats)).any fun s ↦ s.booking.conf.state.bookings.rows.any fun r ↦
        r.status = .confirmed && r.refundState = none := by
    decide +kernel
  simp only [Option.any_eq_true, List.any_eq_true, Bool.and_eq_true, decide_eq_true_eq] at played
  obtain ⟨s, hs, hr⟩ := played
  exact ⟨s, hs, hr, paid_off_sale_when_kept (later_of_play hs)⟩

/-- The hold of a paid seat expires before the outbox marks it as sold, and the seat is on sale
again. -/
theorem expired_hold_frees_paid_seat :
    ¬ ∀ (provider : String) (seats : Table SeatInventory.Seat.place) (s : Platform provider),
      Reach (noClientRelease provider) seats s → s.PaidOffSale := by
  have played : (play (noClientRelease "stripe")
      [holdSeat "A", book "A" "k", .visit .processExpiredHolds { now := 600001 }]
      (start sampleSeats)).any fun s ↦ s.booking.conf.state.bookings.rows.any fun r ↦
        r.status = .confirmed && r.refundState = none &&
          s.inventory.conf.state.seats.rows.any fun seat ↦
            (s.booking.conf.state.placesOf r).contains seat.place && seat.status = .available := by
    decide +kernel
  simp only [Option.any_eq_true, List.any_eq_true, Bool.and_eq_true, decide_eq_true_eq,
    List.contains_iff_mem] at played
  obtain ⟨s, hs, r, hr, ⟨hc, hn⟩, seat, hseat, hplace, hav⟩ := played
  intro kept
  exact kept "stripe" sampleSeats s (later_of_play hs) r hr hc hn seat hseat hplace hav

end Platform

end Ticketing.System
