import Ticketing.BookingService.TransactionalOutbox

/-!
# The places that bookings take

Library `BookingService`. A booking takes the places of its items from the moment it is
persisted; later rows of it keep them. Only `persistBooking` takes new places.
-/

namespace Ticketing.BookingService

open Async Store

/-- The places of items of a booking. -/
def Booking.places (r : Booking) (items : List BookingItem) : List (String × String) :=
  items.map fun i ↦ (r.eventId, i.seatId)

/-- The places that a stored booking takes. -/
def Db.placesOf (s : Db) (r : Booking) : List (String × String) := r.places (s.itemsOf r.id)

/-- The booking that a commit of `persistBooking` stores, with its items. -/
def Op.persisted : (o : Op) → sig.Answer o → Option (Booking × List BookingItem)
  | .commit [.booking r, .items items], .ok _ => some (r, items)
  | _, _ => none

/-- Where the row of a booking comes from that is not cancelled: it was persisted, it is a
row of a booking that takes the same places, or such a row was confirmed or refunded. -/
inductive Origin (s : Db) (o : Op) (a : sig.Answer o) (s' : Db) (r : Booking) : Prop where
  | persisted (items : List BookingItem) (op : o.persisted a = some (r, items))
      (places : ∀ place ∈ s'.placesOf r, place ∈ r.places items)
  | kept (mem : r ∈ s.bookings.rows) (places : s'.placesOf r = s.placesOf r)
  | confirmed (q : Booking) (mem : q ∈ s.bookings.rows) (id : q.id = r.id)
      (places : s'.placesOf r = s.placesOf q) (pending : q.status = .pending)
  | refund (q : Booking) (mem : q ∈ s.bookings.rows) (id : q.id = r.id)
      (places : s'.placesOf r = s.placesOf q) (settled : q.settled = true)
      (settled' : r.settled = true) (state : r.refundState ≠ none)
      (stored : o.stored r.id a = some r)

/-- The rows after one operation of a run, by their origin. -/
theorem origin_of_step {G : Regime service} {p : Pool service} (hp : Reach G p) {t : Nat}
    {j : Job} {x : Choice} {o : Op} {k : sig.Answer o → service.Program} (ht : p.At t j (.op o k))
    {r : Booking} (hr : r ∈ (p.conf.after t j x o).state.bookings.rows)
    (hst : r.status ≠ .cancelled) :
    Origin p.conf.state o (p.conf.answer x o) (p.conf.after t j x o).state r := by
  obtain ⟨owner, owner', hi, hm⟩ := reach_move hp.free ht (x := x)
  have found' := Table.find_of_mem hr
  have samePlaces : ∀ q, p.conf.state.bookings.find r.id = some q → r.order = q.order →
      (p.conf.after t j x o).state.placesOf r = p.conf.state.placesOf q := by
    intro q hq ho
    have hid : r.id = q.id := Booking.id_of_order ho
    simp only [Booking.order, Prod.mk.injEq] at ho
    obtain ⟨-, -, -, hev, -⟩ := ho
    rw [Db.placesOf, Db.placesOf, Booking.places, Booking.places, hm.items r.id q hq, hev, hid]
  rcases hm.bookings r.id with he | ⟨r', hr', hstored, hmove⟩
  · rw [he] at found'
    exact .kept (Inv.mem_of_find found').1 (samePlaces r found' rfl)
  · rw [found'] at hr'
    cases hr'
    cases hmove with
    | @persisted _ items op absent own pending state =>
      dsimp only at op
      subst op
      rcases exec_cases x (.commit [.booking r, .items items]) p.conf.state with ⟨-, e, he⟩ | he
      · have ha : p.conf.answer x (.commit [.booking r, .items items]) = .error e := by
          simp only [Conf.answer, he]
        rw [ha] at hstored
        cases hstored
      · have ha : p.conf.answer x (.commit [.booking r, .items items]) = .ok () := by
          simp only [Conf.answer, he, perform]
        refine .persisted items (by rw [ha]; rfl) ?_
        have stored : (p.conf.after t j x (.commit [.booking r, .items items])).state.itemsOf r.id =
            (numberedItems p.conf.state.items.length items).filter fun i ↦ i.bookingId = r.id := by
          have old : p.conf.state.items.filter (fun i ↦ i.bookingId = r.id) = [] :=
            hi.itemsOf_eq_nil absent
          simp only [Conf.after, he, perform, List.foldl_cons, List.foldl_nil, Db.write, Db.itemsOf,
            List.filter_append, old, List.nil_append]
        intro place hplace
        rw [Db.placesOf, stored] at hplace
        have listed := List.map_subset _ (List.filter_subset_self _) hplace
        rwa [map_numberedItems fun _ _ ↦ rfl] at listed
    | @confirmed q _ found own pending order status state =>
      have hid : q.id = r.id := (Inv.mem_of_find found).2
      exact .confirmed q (Inv.mem_of_find found).1 hid (samePlaces q found order) pending
    | cancelled found own unsettled order status state => exact absurd status hst
    | @refund q base _ job found settled settled' order state last alone forward =>
      have hid : q.id = r.id := (Inv.mem_of_find found).2
      exact .refund q (Inv.mem_of_find found).1 hid (samePlaces q found order) settled
        settled' state hstored

end Ticketing.BookingService
