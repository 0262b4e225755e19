import Ticketing.BookingService.Places
import Ticketing.System.Links

/-!
# Double booking

Library `System`. The hold check of `createBooking` asks who holds the seats, not who has
booked them: nothing in either service refuses a seat that a pending or confirmed booking
has taken. Where that does not happen, and no stale copy of a refunded booking is stored, no
seat is booked twice.
-/

namespace Ticketing.System

open Async Store

/-- The booking is pending or confirmed. -/
def live (r : BookingService.Booking) : Bool := r.status = .pending || r.status = .confirmed

namespace Platform

variable {provider : String} {s : Platform provider} {seats : Table SeatInventory.Seat.place}

/-- No place is taken by two confirmed bookings. -/
def NoDoubleBooking (s : Platform provider) : Prop :=
  ∀ r ∈ s.booking.conf.state.bookings.rows, ∀ r' ∈ s.booking.conf.state.bookings.rows,
    r.status = .confirmed → r'.status = .confirmed →
      ∀ place ∈ s.booking.conf.state.placesOf r, place ∈ s.booking.conf.state.placesOf r' →
        r.id = r'.id

/-- When `persistBooking` commits, no pending or confirmed booking has taken its places. -/
def TakesFree (s : BookingService.Db) (ev : Event BookingService.service) : Prop :=
  ∀ new ∈ ev.op.persisted ev.answer, ∀ q ∈ s.bookings.rows, live q = true →
    ∀ place ∈ new.1.places new.2, place ∉ s.placesOf q

/-- A refunded booking is not stored with another status. -/
def KeepsRefunded (s : BookingService.Db) (ev : Event BookingService.service) : Prop :=
  ∀ q ∈ s.bookings.rows, q.status = .refunded →
    ∀ r ∈ ev.op.stored q.id ev.answer, r.status = .refunded

/-- The runs in which bookings take free places and refunded bookings stay so. -/
def freePlaces (provider : String) : Regime provider where
  may s
    | .booking ev =>
      TakesFree s.booking.conf.state ev ∧ KeepsRefunded s.booking.conf.state ev
    | _ => True
  excl _ _ := False

instance (s : BookingService.Db) (ev : Event BookingService.service) :
    Decidable (TakesFree s ev) := by
  unfold TakesFree
  infer_instance

instance (s : BookingService.Db) (ev : Event BookingService.service) :
    Decidable (KeepsRefunded s ev) := by
  unfold KeepsRefunded
  infer_instance

instance (s : Platform provider) : (a : Action provider) → Decidable ((freePlaces provider).may s a)
  | .booking ev => inferInstanceAs
    (Decidable (TakesFree s.booking.conf.state ev ∧ KeepsRefunded s.booking.conf.state ev))
  | .arrive _ | .visit _ | .call _ _ | .payment _ | .inventory _ => inferInstanceAs (Decidable True)

instance (i j : BookingService.Job) : Decidable ((freePlaces provider).excl i j) :=
  inferInstanceAs (Decidable False)

/-- No place is taken by two pending or confirmed bookings. -/
def LiveApart (s : BookingService.Db) : Prop :=
  ∀ r ∈ s.bookings.rows, ∀ r' ∈ s.bookings.rows, live r = true → live r' = true →
    ∀ place ∈ s.placesOf r, place ∈ s.placesOf r' → r.id = r'.id

/-- A live booking was live before with the same places, or it was persisted. -/
theorem live_origin {db db' : BookingService.Db} {ev : Event BookingService.service}
    {r : BookingService.Booking} (ho : BookingService.Origin db ev.op ev.answer db' r)
    (hk : KeepsRefunded db ev) (hl : live r = true) :
    (∃ q ∈ db.bookings.rows, live q = true ∧ q.id = r.id ∧ db'.placesOf r = db.placesOf q) ∨
      ∃ items, ev.op.persisted ev.answer = some (r, items) ∧
        ∀ place ∈ db'.placesOf r, place ∈ r.places items := by
  cases ho with
  | persisted items op places => exact .inr ⟨items, op, places⟩
  | kept mem places => exact .inl ⟨r, mem, hl, rfl, places⟩
  | confirmed q mem id places pending =>
    exact .inl ⟨q, mem, by simp [live, pending], id, places⟩
  | refund q mem id places settled settled' state stored =>
    refine .inl ⟨q, mem, ?_, id, places⟩
    have notRefunded : q.status ≠ .refunded := by
      intro hq
      have hr := hk q mem hq r (id ▸ stored)
      simp [live, hr] at hl
    simp only [BookingService.Booking.settled, Bool.or_eq_true, decide_eq_true_eq] at settled
    simp [live, settled.resolve_right notRefunded]

/-- An operation of the booking service keeps the places of live bookings apart. -/
theorem liveApart_step {db db' : BookingService.Db} {ev : Event BookingService.service}
    (h : LiveApart db) (ht : TakesFree db ev) (hk : KeepsRefunded db ev)
    (ho : ∀ r ∈ db'.bookings.rows, r.status ≠ .cancelled →
      BookingService.Origin db ev.op ev.answer db' r) : LiveApart db' := by
  have origin : ∀ r ∈ db'.bookings.rows, live r = true → _ := fun r hr hl ↦ by
    have hst : r.status ≠ .cancelled := by
      intro hc
      simp [live, hc] at hl
    exact live_origin (ho r hr hst) hk hl
  intro r hr r' hr' hl hl' place hp hp'
  rcases origin r hr hl with ⟨q, hq, hql, hqi, hqp⟩ | ⟨items, hop, hplaces⟩
  · rcases origin r' hr' hl' with ⟨q', hq', hql', hqi', hqp'⟩ | ⟨items', hop', hplaces'⟩
    · rw [← hqi, ← hqi']
      exact h q hq q' hq' hql hql' place (hqp ▸ hp) (hqp' ▸ hp')
    · exact absurd (hqp ▸ hp) (ht _ hop' q hq hql place (hplaces' place hp'))
  · rcases origin r' hr' hl' with ⟨q', hq', hql', hqi', hqp'⟩ | ⟨items', hop', hplaces'⟩
    · exact absurd (hqp' ▸ hp') (ht _ hop q' hq' hql' place (hplaces place hp))
    · rw [hop] at hop'
      cases hop'
      rfl

/-- The places of live bookings stay apart over the whole run. -/
theorem liveApart_of_reach (h : Reach (freePlaces provider) seats s) :
    LiveApart s.booking.conf.state := by
  induction h with
  | refl =>
    intro r hr
    cases hr
  | tail hrun hs ih =>
    cases hs with
    | @booking t j x o k ht ha hm =>
      exact liveApart_step ih hm.1 hm.2 fun r hr hst ↦
        BookingService.origin_of_step (reach_booking hrun) ht hr hst
    | call =>
      rw [send_booking]
      exact ih
    | _ => exact ih

/-- While bookings take free places and refunded bookings stay so, no seat is booked twice. -/
theorem no_double_booking_when_free (h : Reach (freePlaces provider) seats s) :
    s.NoDoubleBooking := by
  intro r hr r' hr' hc hc'
  exact liveApart_of_reach h r hr r' hr' (by simp [live, hc]) (by simp [live, hc'])

/-- A user books two different seats. -/
theorem no_double_booking_when_free_two :
    ∃ s, play (freePlaces "stripe") [holdSeat "A", holdSeat "B", book "A" "k", book "B" "l"]
        (start sampleSeats) = some s ∧
      (s.booking.conf.state.bookings.rows.map fun r ↦ r.status) = [.confirmed, .confirmed] ∧
      s.NoDoubleBooking := by
  have played : (play (freePlaces "stripe")
      [holdSeat "A", holdSeat "B", book "A" "k", book "B" "l"] (start sampleSeats)).any fun s ↦
        (s.booking.conf.state.bookings.rows.map fun r ↦ r.status) = [.confirmed, .confirmed] := by
    decide +kernel
  simp only [Option.any_eq_true, decide_eq_true_eq] at played
  obtain ⟨s, hs, hr⟩ := played
  exact ⟨s, hs, hr, no_double_booking_when_free (later_of_play hs)⟩

/-- The user who holds a seat books it twice with two payment keys, before the outbox marks it
as sold. -/
theorem held_seat_booked_twice :
    ¬ ∀ (provider : String) (seats : Table SeatInventory.Seat.place) (s : Platform provider),
      Reach (.free provider) seats s → s.NoDoubleBooking := by
  have played : (play (.free "stripe") [holdSeat "A", book "A" "k", book "A" "l"]
      (start sampleSeats)).any fun s ↦ s.booking.conf.state.bookings.rows.any fun r ↦
        s.booking.conf.state.bookings.rows.any fun r' ↦ r.status = .confirmed &&
          r'.status = .confirmed && r.id ≠ r'.id &&
          (s.booking.conf.state.placesOf r).any fun place ↦
            (s.booking.conf.state.placesOf r').contains place := by
    decide +kernel
  simp only [Option.any_eq_true, List.any_eq_true, Bool.and_eq_true, decide_eq_true_eq,
    List.contains_iff_mem] at played
  obtain ⟨s, hs, r, hr, r', hr', ⟨⟨hc, hc'⟩, hne⟩, place, hp, hp'⟩ := played
  intro apart
  exact hne (apart "stripe" sampleSeats s (later_of_play hs) r hr r' hr' hc hc' place hp hp')

end Platform

end Ticketing.System
