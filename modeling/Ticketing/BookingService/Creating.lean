import Mathlib.Data.List.Perm.Subperm
import Ticketing.BookingService.Steps

/-!
# `createBooking` keeps the rules

Library `BookingService`. The booking that a call creates is stored by no other thread until
it is confirmed; what the call stores, and when, follows from the row it stored last.
-/

namespace Ticketing.BookingService

open Async Store

variable {M : Mode} {t : Nat} {j : Job}

/-! ### The selected seats -/

/-- The seats of the request differ, unless the inventory answered a seat twice. -/
def DistinctSeats (dto : CreateBookingDto) (log : List (Event service)) : Prop :=
  UniqueSeats log → dto.seatIds.Nodup

private theorem distinct_stable (dto : CreateBookingDto) :
    M.rules.Stable t j fun c _ ↦ DistinctSeats dto c.log :=
  stable_log fun _ _ h hu ↦ h hu.tail

/-- As many different seats as requested ones, all of them requested: they are the requested ones
in another order. -/
theorem perm_of_selected {seats : List SeatInfo} {seatIds : List String}
    (hn : (seats.map SeatInfo.seatId).Nodup) (hl : seats.length = seatIds.length)
    (hs : ∀ s ∈ seats, s.seatId ∈ seatIds) : (seats.map SeatInfo.seatId).Perm seatIds := by
  have hsub : seats.map SeatInfo.seatId ⊆ seatIds := by
    intro i hi
    obtain ⟨s, hm, rfl⟩ := List.mem_map.mp hi
    exact hs s hm
  apply (List.subperm_of_subset hn hsub).perm_of_length_le
  rw [List.length_map, hl]

/-- No seat is requested twice then. -/
theorem nodup_of_selected {seats : List SeatInfo} {seatIds : List String}
    (hn : (seats.map SeatInfo.seatId).Nodup) (hl : seats.length = seatIds.length)
    (hs : ∀ s ∈ seats, s.seatId ∈ seatIds) : seatIds.Nodup :=
  (perm_of_selected hn hl hs).nodup_iff.mp hn

private theorem selectSeats_holds (dto : CreateBookingDto) :
    M.rules.Holds t j (selectSeats dto) (fun _ _ _ ↦ True)
      (fun _ _ c _ ↦ DistinctSeats dto c.log) (fun _ _ _ _ ↦ True) := by
  have asked : M.rules.Holds t j
      (BookingService.grpc none (.getSeatsByEvent dto.eventId) Reply.seats? :
        Code sig Unit (List SeatInfo)) (fun _ _ _ ↦ True)
      (fun seats _ c _ ↦ UniqueSeats c.log → (seats.map SeatInfo.seatId).Nodup)
      (fun _ _ _ _ ↦ True) := by
    apply Holds.grpc
    · exact fun seats _ ↦
        stable_log (K := fun log ↦ UniqueSeats log → (seats.map SeatInfo.seatId).Nodup)
          fun _ _ h hu ↦ h hu.tail
    · exact fun _ ↦ Rules.Stable.const True
    · exact fun _ _ _ _ _ ↦ trivial
    · exact fun _ _ _ _ _ ↦ trivial
    · intro _ c g reply seats _ _ hr hu
      cases reply with
      | seats s =>
        cases hr
        exact hu _ List.mem_cons_self
      | _ => cases hr
  apply Rules.Holds.bind asked
  intro seats
  dsimp only
  split
  · exact Rules.Holds.raise _ fun _ _ _ _ _ ↦ trivial
  · next hl =>
    split
    · exact Rules.Holds.raise _ fun _ _ _ _ _ ↦ trivial
    · have distinct : ∀ c : Conf service,
          (UniqueSeats c.log → (seats.map SeatInfo.seatId).Nodup) → DistinctSeats dto c.log := by
        intro c h hu
        refine nodup_of_selected ((h hu).sublist (List.filter_sublist.map _)) (not_not.mp hl) ?_
        intro s hs
        exact List.contains_iff_mem.mp (List.mem_filter.mp hs).2
      have verify : M.rules.Holds t j
          (BookingService.grpc none (.verifyHold dto.eventId dto.seatIds dto.userId)
            Reply.verified? : Code sig Unit Bool) (fun _ c _ ↦ DistinctSeats dto c.log)
          (fun _ _ c _ ↦ DistinctSeats dto c.log) (fun _ _ _ _ ↦ True) := by
        apply Holds.grpc
        · exact fun _ _ ↦ distinct_stable dto
        · exact fun _ ↦ Rules.Stable.const True
        · exact fun _ _ _ _ _ ↦ trivial
        · exact fun _ _ _ _ _ ↦ trivial
        · exact fun _ _ _ _ _ _ h _ hu ↦ h hu.tail
      apply Rules.Holds.pre (P := fun _ c _ ↦ DistinctSeats dto c.log)
      · apply Rules.Holds.bind verify
        intro verified
        dsimp only
        split
        · exact Rules.Holds.ret _ fun _ _ _ _ h ↦ h
        · exact Rules.Holds.raise _ fun _ _ _ _ _ ↦ trivial
      · exact fun _ c _ _ h ↦ distinct c h

/-! ### The created booking -/

/-- The entity `l` of a booking that thread `t` created and nobody has confirmed yet: its
stored row `r` is the one that the thread stored last. -/
structure Created (t : Nat) (dto : CreateBookingDto) (amount : Money) (currency : String)
    (r l : Booking) (c : Conf service) (owner : Id → Option Nat) : Prop where
  own : owner l.id = some t
  found : c.state.bookings.find l.id = some r
  unsettled : r.settled = false
  order : l.order = r.order
  state : l.refundState = none
  eventId : r.eventId = dto.eventId
  userId : r.userId = dto.userId
  amount : r.totalAmount = amount
  currency : r.currency = currency
  seats : (c.state.itemsOf l.id).map BookingItem.seatId = dto.seatIds

variable {dto : CreateBookingDto} {amount : Money} {currency : String}

private theorem created_stable (r l : Booking) :
    M.rules.Stable t j fun c g ↦ Created t dto amount currency r l c g := by
  intro u i c g c' g' hu _ _ _ hm h
  obtain ⟨o, a, hm⟩ := hm
  have found : c'.state.bookings.find l.id = some r := hm.unsettled hu h.own h.found h.unsettled
  exact { h with own := hm.owners _ _ h.own, found, seats := hm.items _ _ h.found ▸ h.seats }

/-- An operation that stores nothing keeps what is known. -/
theorem Created.event {r l : Booking} {c : Conf service} {g : Id → Option Nat}
    (h : Created t dto amount currency r l c g) (ev : Event service) :
    Created t dto amount currency r l ⟨c.state, ev :: c.log⟩ g :=
  { h with }

/-- What is known does not depend on the columns that are assigned. -/
theorem Created.assign {r l l' : Booking} {c : Conf service} {g : Id → Option Nat}
    (h : Created t dto amount currency r l c g) (ho : l'.order = l.order)
    (hs : l'.refundState = l.refundState) : Created t dto amount currency r l' c g := by
  have hi : l'.id = l.id := Booking.id_of_order ho
  constructor
  · rw [hi]
    exact h.own
  · rw [hi]
    exact h.found
  · exact h.unsettled
  · exact ho.trans h.order
  · exact hs.trans h.state
  · exact h.eventId
  · exact h.userId
  · exact h.amount
  · exact h.currency
  · rw [hi]
    exact h.seats

/-- The row of a booking that was not confirmed says nothing that needs evidence. -/
theorem rowOk_unsettled {r : Booking} {log : List (Event service)} (hs : r.settled = false)
    (hn : r.refundState = none) : RowOk log r := by
  have hr : r.status ≠ .refunded := by
    intro he
    simp [Booking.settled, he] at hs
  constructor <;> simp [hn, hs, hr]

/-- The entity after it was saved with a status that is not confirmed. -/
theorem Created.saved {r l : Booking} {c c' : Conf service} {g : Id → Option Nat}
    (h : Created t dto amount currency r l c g) (hl : l.settled = false)
    (hf : c'.state.bookings.find l.id = some l) (hi : c'.state.items = c.state.items) :
    Created t dto amount currency l l c' g := by
  have ho := h.order
  simp only [Booking.order, Prod.mk.injEq] at ho
  obtain ⟨-, -, hu, he, ha, hc⟩ := ho
  have seats := h.seats
  simp only [Db.itemsOf, ← hi] at seats
  exact ⟨h.own, hf, hl, rfl, h.state, he.trans h.eventId, hu.trans h.userId, ha.trans h.amount,
    hc.trans h.currency, seats⟩

/-! ### `persistBooking` -/

/-- The items of a booking have its number and the seats of the request. -/
theorem bookingItems_spec {b : Id} {seats : List SeatInfo} {dtos : List BookingItemDto}
    {items : List BookingItem} (h : bookingItems b seats dtos = .ok items) :
    (∀ i ∈ items, i.bookingId = b) ∧
      items.map BookingItem.seatId = dtos.map BookingItemDto.seatId := by
  induction dtos generalizing items with
  | nil =>
    cases h
    exact ⟨fun _ hi ↦ (List.not_mem_nil hi).elim, rfl⟩
  | cons d ds ih =>
    rw [bookingItems] at h
    split at h
    · cases h
    · next seat hs =>
      cases hr : bookingItems b seats ds with
      | error e =>
        rw [hr] at h
        cases h
      | ok rest =>
        rw [hr] at h
        cases h
        obtain ⟨hb, hm⟩ := ih hr
        have hd : seat.seatId = d.seatId := by simpa using List.find?_some hs
        refine ⟨?_, ?_⟩
        · intro i hi
          rcases List.mem_cons.mp hi with rfl | hi
          · rfl
          · exact hb i hi
        · rw [List.map_cons, List.map_cons, hm]
          exact congrArg (· :: _) hd

/-- `selectedSeats[0].currency`, where there is one. -/
def currencyOf : List SeatInfo → String
  | [] => ""
  | seat :: _ => seat.currency

private theorem firstCurrency_holds {L : Type} {P E : L → M.rules.Fact} (seats : List SeatInfo)
    (hE : ∀ l c g, P l c g → E l c g) :
    M.rules.Holds t j (firstCurrency seats : Code sig L String) P
      (fun cur l c g ↦ cur = currencyOf seats ∧ P l c g) (fun _ ↦ E) := by
  cases seats with
  | nil => exact Rules.Holds.raise _ fun l c g _ h ↦ hE l c g h
  | cons s rest => exact Rules.Holds.ret _ fun _ _ _ _ h ↦ ⟨rfl, h⟩

/-- The booking that `persistBooking` has stored. -/
def Persisted (t : Nat) (dto : CreateBookingDto) (amount : Money) (currency : String) (b : Id)
    (c : Conf service) (owner : Id → Option Nat) : Prop :=
  ∃ r, r.id = b ∧ r.status = .pending ∧ Created t dto amount currency r r c owner

/-- A number that thread `t` has for a booking it has not stored. -/
def Numbered (t : Nat) (b : Id) (c : Conf service) (owner : Id → Option Nat) : Prop :=
  owner b = some t ∧ c.state.bookings.find b = none

private theorem numbered_stable (b : Id) :
    M.rules.Stable t j fun c g ↦ Numbered t b c g ∧ DistinctSeats dto c.log := by
  apply Rules.Stable.and
  · intro u i c g c' g' hu _ _ _ hm h
    obtain ⟨o, a, hm⟩ := hm
    exact ⟨hm.owners _ _ h.1, hm.absent hu h.1 h.2⟩
  · exact distinct_stable dto

private theorem insertBooking_holds (row : Booking) :
    M.rules.Holds t j (BookingService.await (.insertBooking row) : Code sig Unit Booking)
      (fun _ c _ ↦ DistinctSeats dto c.log)
      (fun r _ c g ↦ r = { row with id := r.id } ∧ Numbered t r.id c g ∧
        DistinctSeats dto c.log) (fun _ _ _ _ ↦ True) := by
  apply Rules.Holds.await
  intro l
  apply step
  · intro r
    cases r with
    | ok r => exact (Rules.Stable.const _).and (numbered_stable r.id)
    | error e => exact Rules.Stable.const True
  · exact fun _ _ _ _ ↦ trivial
  · exact fun _ _ _ _ _ ↦ trivial
  · intro c g x hi h
    refine ⟨claim g c.state.nextId t, (hi.number t).event _, ?_, rfl, ⟨claim_self _ _ _, ?_⟩, ?_⟩
    · refine Moves.congr trivial rfl rfl rfl ?_
      intro b u hb
      rw [claim_of_ne (Nat.ne_of_lt (hi.fresh b u hb))]
      exact hb
    · cases hf : c.state.bookings.find c.state.nextId with
      | none => exact hf
      | some r =>
        obtain ⟨hm, hid⟩ := Inv.mem_of_find hf
        obtain ⟨u, hu⟩ := hi.owned r hm
        rw [hid] at hu
        exact absurd (hi.fresh _ u hu) (Nat.lt_irrefl _)
    · exact fun hu ↦ h hu.tail

private theorem commitBooking_holds {r : Booking} {items : List BookingItem}
    (hp : r.status = .pending) (hn : r.refundState = none) (he : r.eventId = dto.eventId)
    (hu : r.userId = dto.userId) (ha : r.totalAmount = amount) (hc : r.currency = currency)
    (hb : ∀ i ∈ items, i.bookingId = r.id)
    (hs : items.map BookingItem.seatId = dto.seatIds) :
    M.rules.Holds t j
      (BookingService.await (.commit [.booking r, .items items]) : Code sig Unit Unit)
      (fun _ c g ↦ Numbered t r.id c g ∧ DistinctSeats dto c.log)
      (fun _ _ c g ↦ Created t dto amount currency r r c g) (fun _ _ _ _ ↦ True) := by
  have hus : r.settled = false := by simp [Booking.settled, hp]
  apply Rules.Holds.await
  intro l
  apply step
  · intro a
    cases a with
    | ok a => exact created_stable r r
    | error e => exact Rules.Stable.const True
  · exact fun _ _ _ _ ↦ trivial
  · exact fun _ _ _ _ _ ↦ trivial
  · rintro c g x hi ⟨⟨hg, hf⟩, hd⟩
    let stored := numberedItems c.state.items.length items
    have seats : stored.map BookingItem.seatId = dto.seatIds :=
      (map_numberedItems (fun _ _ ↦ rfl) _ _).trans hs
    have own : ∀ i ∈ stored, i.bookingId = r.id := bookingId_numbered hb
    have hnd : UniqueSeats c.log → (stored.map BookingItem.seatId).Nodup := by
      rw [seats]
      exact hd
    refine ⟨g, (hi.persist hf hg hp hn own hnd).event _, Moves.persist hf hg hp hn hb, ?_⟩
    have mine : (c.state.items ++ stored).filter (fun i ↦ i.bookingId = r.id) = stored := by
      have hnil : c.state.items.filter (fun i ↦ i.bookingId = r.id) = [] := hi.itemsOf_eq_nil hf
      rw [List.filter_append, hnil, List.nil_append, List.filter_eq_self]
      exact fun i hi ↦ decide_eq_true (own i hi)
    refine ⟨hg, Table.find_put_self _ r, hus, rfl, hn, he, hu, ha, hc, ?_⟩
    show ((c.state.items ++ stored).filter (fun i ↦ i.bookingId = r.id)).map _ = _
    rw [mine]
    exact seats

private theorem persistTransaction_holds (seats : List SeatInfo) :
    M.rules.Holds t j (persistTransaction dto seats amount)
      (fun _ c _ ↦ DistinctSeats dto c.log)
      (fun b _ ↦ Persisted t dto amount (currencyOf seats) b) (fun _ _ _ _ ↦ True) := by
  have skip : ∀ o : Op, o.silent = true → (∀ c, Acts M c o) →
      M.rules.Holds t j (BookingService.await o : Code sig Unit (Res o))
        (fun _ c _ ↦ DistinctSeats dto c.log) (fun _ _ c _ ↦ DistinctSeats dto c.log)
        (fun _ _ _ _ ↦ True) := fun o ho ha ↦
    Holds.pass ho (fun _ ↦ distinct_stable dto) (fun _ ↦ Rules.Stable.const True) ha
      (fun _ _ _ _ h hu ↦ h hu.tail) fun _ _ _ _ _ ↦ trivial
  have number : M.rules.Holds t j generateBookingNumber (fun _ c _ ↦ DistinctSeats dto c.log)
      (fun _ _ c _ ↦ DistinctSeats dto c.log) (fun _ _ _ _ ↦ True) := by
    apply Rules.Holds.bind (skip .now rfl fun _ ↦ trivial)
    intro timestamp
    apply Rules.Holds.bind (skip .random rfl fun _ ↦ trivial)
    intro random
    exact Rules.Holds.ret _ fun _ _ _ _ h ↦ h
  apply Rules.Holds.bind number
  intro bookingNumber
  apply Rules.Holds.bind (firstCurrency_holds seats fun _ _ _ _ ↦ trivial)
  intro cur
  apply Rules.Holds.assume
  rintro rfl
  apply Rules.Holds.bind (skip .now rfl fun _ ↦ trivial)
  intro now
  apply Rules.Holds.bind (insertBooking_holds _)
  intro savedBooking
  apply Rules.Holds.assume
  intro hrow
  dsimp only
  split
  · exact Rules.Holds.raise _ fun _ _ _ _ _ ↦ trivial
  · next items hitems =>
    obtain ⟨hb, hs⟩ := bookingItems_spec hitems
    have saved : M.rules.Holds t j
        (BookingService.await (.statement (.items items)) : Code sig Unit Unit)
        (fun _ c g ↦ Numbered t savedBooking.id c g ∧ DistinctSeats dto c.log)
        (fun _ _ c g ↦ Numbered t savedBooking.id c g ∧ DistinctSeats dto c.log)
        (fun _ _ _ _ ↦ True) :=
      Holds.pass rfl (fun _ ↦ numbered_stable _) (fun _ ↦ Rules.Stable.const True)
        (fun _ ↦ trivial) (fun _ _ _ _ h ↦ ⟨h.1, fun hu ↦ h.2 hu.tail⟩) fun _ _ _ _ _ ↦ trivial
    apply Rules.Holds.bind saved
    intro _
    apply Rules.Holds.bind (I := fun _ _ c g ↦
      Created t dto amount (currencyOf seats) savedBooking savedBooking c g)
    · apply commitBooking_holds <;> first | exact hb | exact hs | rw [hrow]; rfl
    intro _
    exact Rules.Holds.ret _ fun _ _ _ _ h ↦ ⟨savedBooking, rfl, by rw [hrow]; rfl, h⟩

/-- A loaded row is the stored one, and its items are those of the booking. -/
theorem findBooking_holds {L : Type} {P E : L → M.rules.Fact} (b : Id)
    (stable : ∀ l, M.rules.Stable t j (P l)) (stable' : ∀ l, M.rules.Stable t j (E l))
    (own : ∀ l c g ev, P l c g → P l ⟨c.state, ev :: c.log⟩ g)
    (fail : ∀ l c g, P l c g → E l c g)
    {K : BookingView → L → M.rules.Fact} (stable'' : ∀ v l, M.rules.Stable t j (K v l))
    (known : ∀ v l c g, Inv c.state c.log g → P l c g →
      c.state.bookings.find b = some v.booking → v.items = c.state.itemsOf b →
      K v l ⟨c.state, ⟨t, j, .findBooking b, .ok (some v)⟩ :: c.log⟩ g) :
    M.rules.Holds t j (BookingService.await (.findBooking b) : Code sig L (Option BookingView)) P
      (fun found l c g ↦ P l c g ∧ ∀ v, found = some v → K v l c g) (fun _ ↦ E) := by
  apply Holds.observe rfl
  · exact fun found l ↦ (stable l).and (Rules.Stable.all fun v ↦ Rules.Stable.imp fun _ ↦
      stable'' v l)
  · exact stable'
  · exact fun _ _ _ _ _ ↦ trivial
  · exact fun _ l c g e h ↦ fail l _ g (own l c g _ h)
  · intro l c g x found hi h hf
    refine ⟨own l c g _ h, ?_⟩
    rintro v rfl
    cases hr : c.state.bookings.find b with
    | none => simp [perform, hr] at hf
    | some r =>
      simp only [perform, hr, Option.map_some, Except.ok.injEq, Option.some.injEq] at hf
      subst hf
      have hid := (Inv.mem_of_find hr).2
      exact known _ l c g hi h hr (by rw [← hid]; rfl)

private theorem rollback_holds {L : Type} {α : Type} {P : L → M.rules.Fact}
    {Q : α → L → M.rules.Fact} (e : Exception) (stable : ∀ l, M.rules.Stable t j (P l))
    (own : ∀ l c g ev, P l c g → P l ⟨c.state, ev :: c.log⟩ g) :
    M.rules.Holds t j (do BookingService.await .rollback; throw e : Code sig L α) P Q
      (fun _ ↦ P) := by
  apply Rules.Holds.bind (I := fun _ ↦ P)
  · exact Holds.pass rfl stable stable (fun _ ↦ trivial) (fun l c g _ h ↦ own l c g _ h)
      fun _ _ _ _ h ↦ h
  · intro _
    apply Rules.Holds.raise
    exact fun _ _ _ _ h ↦ h

private theorem persistBooking_holds (seats : List SeatInfo) :
    M.rules.Holds t j (persistBooking dto seats amount)
      (fun _ c _ ↦ DistinctSeats dto c.log)
      (fun found _ c g ↦ ∀ v, found = some v → v.booking.status = .pending ∧
        Created t dto amount (currencyOf seats) v.booking v.booking c g)
      (fun _ _ _ _ ↦ True) := by
  apply Rules.Holds.bind (I := fun _ _ c _ ↦ DistinctSeats dto c.log)
  · exact Holds.pass rfl (fun _ ↦ distinct_stable dto) (fun _ ↦ Rules.Stable.const True)
      (fun _ ↦ trivial) (fun _ _ _ _ h hu ↦ h hu.tail) fun _ _ _ _ _ ↦ trivial
  intro _
  apply Rules.Holds.bind (Rules.Holds.tryCatch (persistTransaction_holds seats) fun e ↦
    rollback_holds e (fun _ ↦ Rules.Stable.const True) fun _ _ _ _ _ ↦ trivial)
  intro b
  apply Rules.Holds.ex
  intro r
  apply Rules.Holds.assume
  rintro rfl
  apply Rules.Holds.assume
  intro hp
  have loaded : M.rules.Holds t j
      (BookingService.await (.findBooking r.id) : Code sig Unit (Option BookingView))
      (fun _ c g ↦ Created t dto amount (currencyOf seats) r r c g)
      (fun found _ c g ↦ Created t dto amount (currencyOf seats) r r c g ∧
        ∀ v, found = some v → v.booking = r) (fun _ _ _ _ ↦ True) := by
    apply findBooking_holds
    · exact fun _ ↦ created_stable r r
    · exact fun _ ↦ Rules.Stable.const True
    · exact fun _ _ _ _ h ↦ h.event _
    · exact fun _ _ _ _ ↦ trivial
    · exact fun _ _ ↦ Rules.Stable.const _
    · intro v _ c g _ h hf _
      rw [h.found] at hf
      exact (Option.some.inj hf).symm
  apply loaded.post
  · intro found _ c g _ h v hv
    rw [h.2 v hv]
    exact ⟨hp, h.1⟩
  · exact fun _ _ _ _ _ h ↦ h

/-! ### Settling the booking -/

/-- The entity `l` of the created booking, whatever its stored row is. -/
def Open (t : Nat) (dto : CreateBookingDto) (amount : Money) (currency : String) (l : Booking)
    (c : Conf service) (owner : Id → Option Nat) : Prop :=
  ∃ r, Created t dto amount currency r l c owner

private theorem open_stable (l : Booking) :
    M.rules.Stable t j (Open t dto amount currency l) :=
  Rules.Stable.ex fun r ↦ created_stable r l

private theorem cancelEntity_holds (reason : String) :
    M.rules.Holds t j (cancelEntity reason) (fun l ↦ Open t dto amount currency l)
      (fun _ l c g ↦ l.status = .cancelled ∧ Open t dto amount currency l c g)
      (fun _ l ↦ Open t dto amount currency l) := by
  apply Rules.Holds.bind (I := fun _ l c g ↦
    l.status = .cancelled ∧ Open t dto amount currency l c g)
  · apply Rules.Holds.assign
    exact fun _ _ _ _ ⟨r, h⟩ ↦ ⟨rfl, r, h.assign rfl rfl⟩
  intro _
  apply Rules.Holds.bind (I := fun _ l c g ↦
    l.status = .cancelled ∧ Open t dto amount currency l c g)
  · exact Holds.pass rfl (fun l ↦ (Rules.Stable.const _).and (open_stable l)) open_stable
      (fun _ ↦ trivial) (fun _ _ _ _ ⟨hs, r, h⟩ ↦ ⟨hs, r, h.event _⟩) fun _ _ _ _ h ↦ h.2
  intro now
  apply Rules.Holds.assign
  exact fun _ _ _ _ ⟨hs, r, h⟩ ↦ ⟨hs, r, h.assign rfl rfl⟩

private theorem saveCancelled_holds (b : Booking) :
    M.rules.Holds t j (BookingService.await (.saveBooking b) : Code sig Booking Unit)
      (fun l c g ↦ l = b ∧ b.status = .cancelled ∧ Open t dto amount currency b c g)
      (fun _ l c g ↦ l = b ∧ Open t dto amount currency l c g)
      (fun _ l ↦ Open t dto amount currency l) := by
  apply Rules.Holds.await
  intro l
  apply step
  · intro a
    cases a with
    | ok a => exact (Rules.Stable.const _).and (open_stable l)
    | error e => exact open_stable l
  · exact fun _ _ _ _ ↦ trivial
  · rintro _ c g e ⟨rfl, _, r, h⟩
    exact ⟨r, h.event _⟩
  · rintro c g x hi ⟨rfl, hs, r, h⟩
    have hl : l.settled = false := by simp [Booking.settled, hs]
    refine ⟨g, (hi.save h.found h.order ?_ ?_).event _, Moves.save ?_, rfl, l, ?_⟩
    · rw [hl, h.unsettled]
    · exact rowOk_unsettled hl h.state
    · exact .cancelled h.found h.own h.unsettled h.order hs h.state
    · exact h.saved hl (Table.find_put_self _ l) rfl

/-- The payment service answered that it charged the booking. -/
def Charged (t : Nat) (dto : CreateBookingDto) (amount : Money) (currency : String)
    (r l : Booking) (c : Conf service) (owner : Id → Option Nat) : Prop :=
  Created t dto amount currency r l c owner ∧ Paid c.log l

private theorem charged_stable (r l : Booking) :
    M.rules.Stable t j (Charged t dto amount currency r l) :=
  (created_stable r l).and (stable_log (K := fun log ↦ Paid log l) fun _ _ h ↦ h.cons)

private theorem items_stable {r l b : Booking} (items : List BookingItem) :
    M.rules.Stable t j fun c g ↦ Charged t dto amount currency r l c g ∧ l = b ∧
      c.state.itemsOf b.id = items := by
  rintro u i c g c' g' hu hx hi hi' hm ⟨h, rfl, hit⟩
  refine ⟨charged_stable r l u i c g c' g' hu hx hi hi' hm h, rfl, ?_⟩
  obtain ⟨o, a, hm⟩ := hm
  exact (hm.items l.id r h.1.found).trans hit

private theorem charged_event {r l : Booking} {c : Conf service} {g : Id → Option Nat}
    (h : Charged t dto amount currency r l c g) (ev : Event service) :
    Charged t dto amount currency r l ⟨c.state, ev :: c.log⟩ g :=
  ⟨h.1.event ev, h.2.cons⟩

private theorem charged_assign {r l l' : Booking} {c : Conf service} {g : Id → Option Nat}
    (h : Charged t dto amount currency r l c g) (ho : l'.order = l.order)
    (hs : l'.refundState = l.refundState) : Charged t dto amount currency r l' c g :=
  ⟨h.1.assign ho hs, h.2.of_order ho⟩

private theorem initiatePayment_holds {r b : Booking} (key token provider : String)
    (hp : r.status = .pending) :
    M.rules.Holds t j
      (BookingService.grpc (some b.id) (.initiatePayment
        { bookingId := b.id, idempotencyKey := key, amount, currency, method := .creditCard,
          cardToken := token, provider }) Reply.payment? : Code sig Booking (Option PaymentInfo))
      (fun l c g ↦ l = b ∧ Created t dto amount currency r b c g)
      (fun payment l c g ↦ Created t dto amount currency r l c g ∧
        ∀ info, payment = some info → info.status = .succeeded → Paid c.log l)
      (fun _ l ↦ Open t dto amount currency l) := by
  apply Holds.grpc
  · intro payment l
    apply (created_stable r l).and
    exact stable_log (K := fun log ↦
      ∀ info, payment = some info → info.status = .succeeded → Paid log l)
      fun _ _ h info hi hs ↦ (h info hi hs).cons
  · exact open_stable
  · rintro l c g _ ⟨rfl, h⟩
    exact ⟨rfl, r, h.found, hp, h.amount.symm, h.currency.symm⟩
  · rintro l c g _ ⟨rfl, h⟩
    exact ⟨r, h.event _⟩
  · rintro l c g reply payment _ ⟨rfl, h⟩ ha
    refine ⟨h.event _, ?_⟩
    rintro info rfl hs
    have ho := h.order
    simp only [Booking.order, Prod.mk.injEq] at ho
    obtain ⟨-, -, -, -, hta, hcu⟩ := ho
    cases reply with
    | payment p =>
      cases ha
      refine ⟨t, j, _, info, List.mem_cons_self, hs, rfl, ?_, ?_⟩
      · exact (hta.trans h.amount).symm
      · exact (hcu.trans h.currency).symm
    | _ => cases ha

private theorem commitConfirmed_holds {r b : Booking} (hp : r.status = .pending)
    (hb : b.status = .confirmed) {items : List BookingItem} :
    M.rules.Holds t j
      (BookingService.await (.commit [.booking b,
        .outbox (Outbox.create b.id (.seatsMarkSold dto.eventId dto.userId dto.seatIds)),
        .outbox (Outbox.create b.id (.bookingConfirmed (confirmedPayload b dto.eventId items)))]) :
        Code sig Booking Unit)
      (fun l c g ↦ l = b ∧ c.state.itemsOf b.id = items ∧ Charged t dto amount currency r l c g)
      (fun _ _ _ _ ↦ True) (fun _ l ↦ Open t dto amount currency l) := by
  apply Rules.Holds.await
  intro l
  apply step
  · intro a
    cases a with
    | ok a => exact Rules.Stable.const True
    | error e => exact open_stable l
  · exact fun _ _ _ _ ↦ trivial
  · exact fun _ _ _ _ ⟨_, _, h⟩ ↦ ⟨r, h.1.event _⟩
  · rintro c g x hi ⟨rfl, rfl, h, hpaid⟩
    have hl : l.settled = true := by simp [Booking.settled, hb]
    have ho := h.order
    simp only [Booking.order, Prod.mk.injEq] at ho
    obtain ⟨-, -, hu, he, -, -⟩ := ho
    have hev : l.eventId = dto.eventId := he.trans h.eventId
    have hus : l.userId = dto.userId := hu.trans h.userId
    have hok : RowOk c.log l := by
      constructor <;> simp [h.state, hb, hl, hpaid]
    refine ⟨g, ?_, ?_, trivial⟩
    · apply Inv.event
      apply hi.confirm h.found h.unsettled h.order hl hok rfl rfl
      · exact ⟨hev.symm, hus.symm, h.seats.symm⟩
      · show confirmedPayload l dto.eventId _ = confirmedPayload l l.eventId _
        rw [hev]
    · refine Moves.commit [Outbox.create l.id _, Outbox.create l.id _] rfl ?_ ?_ ?_
      · exact .confirmed h.found h.own hp h.order hb h.state
      · exact fun n hn ↦ hi.find_unused hn
      · intro e hm
        have hst : e.status = .pending ∧ e.aggregateId = l.id := by
          rw [List.mem_cons, List.mem_singleton] at hm
          rcases hm with rfl | rfl <;> exact ⟨rfl, rfl⟩
        refine ⟨hst.1, ?_⟩
        intro q hq hqs
        rw [hst.2, h.found] at hq
        cases hq
        rw [h.unsettled] at hqs
        cases hqs

private theorem confirmTransaction_holds {r : Booking} (hp : r.status = .pending) :
    M.rules.Holds t j (confirmTransaction dto.eventId dto.userId dto.seatIds)
      (fun l c g ↦ Charged t dto amount currency r l c g) (fun _ _ _ _ ↦ True)
      (fun _ l ↦ Open t dto amount currency l) := by
  apply Rules.Holds.bind (I := fun _ l c g ↦
    l.status = .confirmed ∧ Charged t dto amount currency r l c g)
  · apply Rules.Holds.assign
    exact fun _ _ _ _ h ↦ ⟨rfl, charged_assign h rfl rfl⟩
  intro _
  apply Rules.Holds.bind (I := fun _ l c g ↦
    l.status = .confirmed ∧ Charged t dto amount currency r l c g)
  · exact Holds.pass rfl (fun l ↦ (Rules.Stable.const _).and (charged_stable r l)) open_stable
      (fun _ ↦ trivial) (fun _ _ _ _ h ↦ ⟨h.1, charged_event h.2 _⟩) fun _ _ _ _ h ↦ ⟨r, h.2.1⟩
  intro now
  apply Rules.Holds.bind (I := fun _ l c g ↦
    l.status = .confirmed ∧ Charged t dto amount currency r l c g)
  · apply Rules.Holds.assign
    exact fun _ _ _ _ h ↦ ⟨h.1, charged_assign h.2 rfl rfl⟩
  intro _
  apply Rules.Holds.read
  intro b
  -- from here on the entity is `b`, the row that the transaction stores
  have isOpen : ∀ l c g, l = b ∧ b.status = .confirmed ∧ Charged t dto amount currency r b c g →
      Open t dto amount currency l c g := by
    rintro l c g ⟨rfl, -, h⟩
    exact ⟨r, h.1⟩
  have known_stable : ∀ l, M.rules.Stable t j fun c g ↦
      l = b ∧ b.status = .confirmed ∧ Charged t dto amount currency r b c g :=
    fun l ↦ (Rules.Stable.const _).and ((Rules.Stable.const _).and (charged_stable r b))
  have stated : M.rules.Holds t j
      (BookingService.await (.statement (.booking b)) : Code sig Booking Unit)
      (fun l c g ↦ l = b ∧ b.status = .confirmed ∧ Charged t dto amount currency r b c g)
      (fun _ l c g ↦ l = b ∧ b.status = .confirmed ∧ Charged t dto amount currency r b c g)
      (fun _ l ↦ Open t dto amount currency l) :=
    Holds.pass rfl known_stable open_stable (fun _ ↦ trivial)
      (fun _ _ _ _ h ↦ ⟨h.1, h.2.1, charged_event h.2.2 _⟩) fun _ ↦ isOpen
  apply Rules.Holds.bind stated
  intro _
  dsimp only
  have loaded : M.rules.Holds t j
      (BookingService.await (.findBooking b.id) : Code sig Booking (Option BookingView))
      (fun l c g ↦ l = b ∧ b.status = .confirmed ∧ Charged t dto amount currency r b c g)
      (fun found l c g ↦ (l = b ∧ b.status = .confirmed ∧ Charged t dto amount currency r b c g) ∧
        ∀ v, found = some v → Charged t dto amount currency r l c g ∧ l = b ∧
          c.state.itemsOf b.id = v.items)
      (fun _ l ↦ Open t dto amount currency l) := by
    apply findBooking_holds
    · exact known_stable
    · exact open_stable
    · exact fun _ _ _ _ h ↦ ⟨h.1, h.2.1, charged_event h.2.2 _⟩
    · exact isOpen
    · exact fun v l ↦ items_stable v.items
    · rintro v l c g _ ⟨rfl, -, h⟩ _ hv
      exact ⟨charged_event h _, rfl, hv.symm⟩
  apply Rules.Holds.bind loaded
  intro found
  cases found with
  | none =>
    apply Rules.Holds.raise
    exact fun _ _ _ _ h ↦ isOpen _ _ _ h.1
  | some v =>
    apply Rules.Holds.pre (P := fun l c g ↦ b.status = .confirmed ∧
      Charged t dto amount currency r l c g ∧ l = b ∧ c.state.itemsOf b.id = v.items)
    · apply Rules.Holds.assume
      intro hb
      have statement : ∀ w, M.rules.Holds t j
          (BookingService.await (.statement w) : Code sig Booking Unit)
          (fun l c g ↦ Charged t dto amount currency r l c g ∧ l = b ∧
            c.state.itemsOf b.id = v.items)
          (fun _ l c g ↦ Charged t dto amount currency r l c g ∧ l = b ∧
            c.state.itemsOf b.id = v.items)
          (fun _ l ↦ Open t dto amount currency l) := fun w ↦
        Holds.pass rfl (fun l ↦ items_stable v.items) open_stable (fun _ ↦ trivial)
          (fun _ _ _ _ h ↦ ⟨charged_event h.1 _, h.2⟩) fun _ _ _ _ h ↦ ⟨r, h.1.1⟩
      apply Rules.Holds.bind (statement _)
      intro _
      apply Rules.Holds.bind (statement _)
      intro _
      apply (commitConfirmed_holds hp hb).pre
      exact fun _ _ _ _ h ↦ ⟨h.2.1, h.2.2, h.1⟩
    · exact fun _ _ _ _ h ↦ ⟨h.1.2.1, h.2 v rfl⟩

private theorem confirmBooking_holds {r : Booking} (hp : r.status = .pending) :
    M.rules.Holds t j (confirmBookingWithOutbox dto.eventId dto.userId dto.seatIds)
      (fun l c g ↦ Charged t dto amount currency r l c g) (fun _ _ _ _ ↦ True)
      (fun _ l ↦ Open t dto amount currency l) := by
  apply Rules.Holds.bind (I := fun _ l c g ↦ Charged t dto amount currency r l c g)
  · exact Holds.pass rfl (fun l ↦ charged_stable r l) open_stable (fun _ ↦ trivial)
      (fun _ _ _ _ h ↦ charged_event h _) fun _ _ _ _ h ↦ ⟨r, h.1⟩
  intro _
  apply Rules.Holds.tryCatch (confirmTransaction_holds hp)
  intro e
  exact rollback_holds e open_stable fun _ _ _ _ ⟨q, h⟩ ↦ ⟨q, h.event _⟩

private theorem payBooking_holds {r : Booking} (seats : List SeatInfo) (hp : r.status = .pending) :
    M.rules.Holds t j (payBooking dto amount seats)
      (fun l c g ↦ Created t dto amount (currencyOf seats) r l c g) (fun _ _ _ _ ↦ True)
      (fun _ l ↦ Open t dto amount (currencyOf seats) l) := by
  apply Rules.Holds.bind (firstCurrency_holds seats fun _ _ _ h ↦ ⟨r, h⟩)
  intro cur
  apply Rules.Holds.assume
  rintro rfl
  apply Rules.Holds.read
  intro b
  dsimp only
  apply Rules.Holds.bind (initiatePayment_holds _ _ _ hp)
  intro payment
  cases payment with
  | none =>
    apply Rules.Holds.raise
    exact fun _ _ _ _ h ↦ ⟨r, h.1⟩
  | some info =>
    dsimp only
    split
    · next hs =>
      apply (confirmBooking_holds hp).pre
      exact fun _ _ _ _ h ↦ ⟨h.1, h.2 info rfl hs⟩
    · apply Rules.Holds.bind ((cancelEntity_holds _).pre fun _ _ _ _ h ↦ ⟨r, h.1⟩)
      intro _
      apply Rules.Holds.read
      intro b'
      apply Rules.Holds.bind (saveCancelled_holds b')
      intro _
      apply Rules.Holds.bind (I := fun _ _ _ _ ↦ True)
      · apply Holds.observe rfl
        · exact fun _ _ ↦ Rules.Stable.const True
        · exact open_stable
        · exact fun _ _ _ _ _ ↦ trivial
        · exact fun _ _ _ _ _ ⟨_, q, h⟩ ↦ ⟨q, h.event _⟩
        · exact fun _ _ _ _ _ _ _ _ ↦ trivial
      intro _
      exact Rules.Holds.ret _ fun _ _ _ _ _ ↦ trivial

private theorem failBooking_holds (e : Exception) :
    M.rules.Holds t j (failBooking e) (fun l ↦ Open t dto amount currency l)
      (fun _ _ _ _ ↦ True) (fun _ _ _ _ ↦ True) := by
  have ignore : ∀ o : Op, o.silent = true → (∀ c, Acts M c o) →
      M.rules.Holds t j (BookingService.await o : Code sig Booking (Res o))
        (fun _ _ _ ↦ True) (fun _ _ _ _ ↦ True) (fun _ _ _ _ ↦ True) := fun o ho ha ↦
    Holds.pass ho (fun _ ↦ Rules.Stable.const True) (fun _ ↦ Rules.Stable.const True) ha
      (fun _ _ _ _ _ ↦ trivial) fun _ _ _ _ _ ↦ trivial
  apply Rules.Holds.bind ((cancelEntity_holds _).post (fun _ _ _ _ _ h ↦ h)
    fun _ _ _ _ _ _ ↦ trivial)
  intro _
  apply Rules.Holds.read
  intro b
  apply Rules.Holds.bind (I := fun _ _ _ _ ↦ True)
  · exact (saveCancelled_holds b).post (fun _ _ _ _ _ _ ↦ trivial) fun _ _ _ _ _ _ ↦ trivial
  intro _
  apply Rules.Holds.bind (ignore (.findBooking b.id) rfl fun _ ↦ trivial)
  intro found
  cases found with
  | none =>
    apply Rules.Holds.raise
    exact fun _ _ _ _ _ ↦ trivial
  | some v =>
    apply Rules.Holds.bind (ignore (.emit _ _ _) rfl fun _ ↦ trivial)
    intro _
    apply Rules.Holds.raise
    exact fun _ _ _ _ _ ↦ trivial

/-- `createBooking` keeps the rules of the service. -/
theorem createBooking_holds (dto : CreateBookingDto) :
    M.rules.Holds t j (createBooking dto) (fun _ _ _ ↦ True) (fun _ _ _ _ ↦ True)
      (fun _ _ _ _ ↦ True) := by
  apply Rules.Holds.bind (selectSeats_holds dto)
  intro seats
  apply Rules.Holds.bind (persistBooking_holds seats)
  intro found
  cases found with
  | none =>
    apply Rules.Holds.raise
    exact fun _ _ _ _ _ ↦ trivial
  | some v =>
    apply Rules.Holds.pre (P := fun _ c g ↦ v.booking.status = .pending ∧
      Created t dto (totalAmount seats) (currencyOf seats) v.booking v.booking c g)
    · apply Rules.Holds.assume
      intro hp
      apply Rules.Holds.on
      intro _
      apply Rules.Holds.bind (I := fun _ _ _ _ ↦ True)
      · apply Rules.Holds.tryCatch ((payBooking_holds seats hp).pre ?_)
        · exact fun e ↦ failBooking_holds e
        · rintro l c g _ ⟨rfl, h⟩
          exact h
      intro _
      apply Rules.Holds.read
      intro b
      exact Holds.observe rfl (fun _ _ ↦ Rules.Stable.const True)
        (fun _ ↦ Rules.Stable.const True) (fun _ _ _ _ _ ↦ trivial) (fun _ _ _ _ _ _ ↦ trivial)
        fun _ _ _ _ _ _ _ _ ↦ trivial
    · exact fun _ c g _ h ↦ h v rfl

end Ticketing.BookingService
