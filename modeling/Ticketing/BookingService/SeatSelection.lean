import Mathlib.Algebra.BigOperators.Group.List.Basic
import Ticketing.BookingService.Compensation
import Ticketing.BookingService.Creating

/-!
# The seats and the price of a booking

Library `BookingService`. `createBooking` compares the length of a filtered inventory with the
request, sums the prices in the order of the inventory, and makes the items in the order of the
request. If the inventory has no seat twice, the selected seats are the requested ones in another
order.
-/

namespace Ticketing.BookingService

open Async Store

/-- The requested seats differ, and each of them is in the inventory and held. -/
structure Selectable (dto : CreateBookingDto) (inventory : List SeatInfo) : Prop where
  distinct : dto.seatIds.Nodup
  held : ∀ seatId ∈ dto.seatIds, ∃ seat ∈ inventory, seat.seatId = seatId ∧ seat.status = .held

/-- What `selectSeats` returns. -/
structure Selected (dto : CreateBookingDto) (inventory seats : List SeatInfo) : Prop where
  chosen : seats = inventory.filter fun s ↦ dto.seatIds.contains s.seatId
  length : seats.length = dto.seatIds.length
  held : ∀ seat ∈ seats, seat.status = .held

/-- The item is the one of the dto's item, with the data of its seat. -/
def Books (inventory : List SeatInfo) (id : Id) (d : BookingItemDto) (item : BookingItem) : Prop :=
  ∃ seat ∈ inventory, seat.seatId = d.seatId ∧ item = { bookingItem id d seat with id := item.id }

/-- The price of a seat. -/
def priceOf (seats : List SeatInfo) (seatId : String) : Money :=
  ((seats.find? fun s ↦ s.seatId = seatId).map SeatInfo.price).getD 0

variable {dto : CreateBookingDto} {inventory seats : List SeatInfo}

/-! ### The seats and their prices -/

namespace Selected

/-- The selected seats are the requested ones. -/
theorem perm (h : Selected dto inventory seats) (unique : (inventory.map SeatInfo.seatId).Nodup) :
    (seats.map SeatInfo.seatId).Perm dto.seatIds := by
  apply perm_of_selected
  · rw [h.chosen]
    exact unique.sublist (List.filter_sublist.map _)
  · exact h.length
  · intro s hs
    rw [h.chosen] at hs
    exact List.contains_iff_mem.mp (List.mem_filter.mp hs).2

/-- A selected seat is in the inventory. -/
theorem mem (h : Selected dto inventory seats) {seat : SeatInfo} (hs : seat ∈ seats) :
    seat ∈ inventory := by
  rw [h.chosen] at hs
  exact (List.mem_filter.mp hs).1

/-- A request whose seats were selected was selectable. -/
theorem selectable (h : Selected dto inventory seats)
    (unique : (inventory.map SeatInfo.seatId).Nodup) : Selectable dto inventory := by
  have same := h.perm unique
  have distinct : (seats.map SeatInfo.seatId).Nodup := by
    rw [h.chosen]
    exact unique.sublist (List.filter_sublist.map _)
  constructor
  · exact same.nodup_iff.mp distinct
  · intro seatId hid
    obtain ⟨seat, hs, rfl⟩ := List.mem_map.mp (same.mem_iff.mpr hid)
    exact ⟨seat, h.mem hs, rfl, h.held seat hs⟩

end Selected

/-- The total is the sum of the prices. -/
theorem totalAmount_eq_sum (seats : List SeatInfo) :
    totalAmount seats = (seats.map SeatInfo.price).sum := by
  rw [totalAmount, List.sum_eq_foldl, List.foldl_map]

/-- Seats that differ have the prices that are found by their ids. -/
theorem map_price (distinct : (seats.map SeatInfo.seatId).Nodup) :
    seats.map SeatInfo.price = (seats.map SeatInfo.seatId).map (priceOf seats) := by
  rw [List.map_map]
  apply List.map_congr_left
  intro seat hs
  have found : (seats.find? fun s ↦ s.seatId = seat.seatId) = some seat :=
    Table.find_of_mem (t := ⟨seats, distinct⟩) hs
  show seat.price = priceOf seats seat.seatId
  rw [priceOf, found]
  rfl

/-- Each item has the data of the seat that its item of the dto names. -/
theorem bookingItems_books {id : Id} {items : List BookingItemDto} {rows : List BookingItem}
    (h : bookingItems id seats items = .ok rows) :
    List.Forall₂ (Books seats id) items rows ∧
      rows.map BookingItem.unitPrice = (items.map BookingItemDto.seatId).map (priceOf seats) := by
  induction items generalizing rows with
  | nil =>
    cases h
    exact ⟨.nil, rfl⟩
  | cons d rest ih =>
    unfold bookingItems at h
    cases hf : seats.find? fun s ↦ s.seatId = d.seatId with
    | none =>
      rw [hf] at h
      cases h
    | some seat =>
      rw [hf] at h
      cases hr : bookingItems id seats rest with
      | error e =>
        simp only [hr] at h
        cases h
      | ok tail =>
        simp only [hr] at h
        cases h
        obtain ⟨each, prices⟩ := ih hr
        have here : seat.seatId = d.seatId := by simpa using List.find?_some hf
        constructor
        · exact .cons ⟨seat, List.mem_of_find?_eq_some hf, here, rfl⟩ each
        · rw [List.map_cons, List.map_cons, List.map_cons, prices, priceOf, hf]
          rfl

/-- Items are numbered when they are stored. -/
theorem books_numbered {id : Id} {items : List BookingItemDto} {rows : List BookingItem}
    (h : List.Forall₂ (Books seats id) items rows) (next : Id) :
    List.Forall₂ (Books seats id) items (numberedItems next rows) := by
  induction h generalizing next with
  | nil => exact .nil
  | cons first _ ih =>
    rw [numberedItems_cons]
    obtain ⟨seat, hm, hd, he⟩ := first
    exact .cons ⟨seat, hm, hd, by rw [he]⟩ (ih _)

/-- The items of a new booking have the data of the seats that the dto names. -/
theorem NewBooking.books {amount : Money} {s : Db} {b : Booking} {items : List BookingItem}
    (h : NewBooking dto seats amount s b items) :
    List.Forall₂ (Books seats s.nextId) dto.items items ∧
      items.map BookingItem.unitPrice =
        (dto.items.map BookingItemDto.seatId).map (priceOf seats) := by
  obtain ⟨rows, hr, rfl⟩ := h.items
  obtain ⟨each, prices⟩ := bookingItems_books hr
  exact ⟨books_numbered each _, (map_numberedItems (fun _ _ ↦ rfl) _ _).trans prices⟩

/-- Each element on the left of a relation between lists is related to one on the right. -/
theorem exists_of_forall₂ {α β : Type} {R : α → β → Prop} {xs : List α} {ys : List β}
    (h : List.Forall₂ R xs ys) {a : α} (ha : a ∈ xs) : ∃ b ∈ ys, R a b := by
  induction h with
  | nil => cases ha
  | cons first _ ih =>
    rcases List.mem_cons.mp ha with rfl | ha
    · exact ⟨_, List.mem_cons_self, first⟩
    · obtain ⟨b, hb, hr⟩ := ih ha
      exact ⟨b, List.mem_cons_of_mem _ hb, hr⟩

/-- The items belong to their booking. -/
theorem books_own {id : Id} {items : List BookingItemDto} {rows : List BookingItem}
    (h : List.Forall₂ (Books seats id) items rows) : ∀ i ∈ rows, i.bookingId = id := by
  have flipped : List.Forall₂ (fun i d ↦ Books seats id d i) rows items := List.Forall₂.flip h
  intro i hi
  obtain ⟨d, -, seat, -, -, same⟩ := exists_of_forall₂ flipped hi
  rw [same]
  rfl

/-- The total amount is the sum of the items' prices. -/
theorem Selected.total (h : Selected dto inventory seats)
    (unique : (inventory.map SeatInfo.seatId).Nodup) {amount : Money} {s : Db} {b : Booking}
    {items : List BookingItem} (new : NewBooking dto seats amount s b items) :
    totalAmount seats = (items.map BookingItem.unitPrice).sum := by
  have same := h.perm unique
  have distinct := same.nodup_iff.mpr (h.selectable unique).distinct
  rw [totalAmount_eq_sum, map_price distinct, new.books.2]
  exact (same.map _).sum_eq

/-! ### The call -/

variable {x : Nat → Choice} {s : Db}

/-- What `selectSeats` returns when the inventory is the first answer. -/
theorem selectSeats_selected (hx : (x 0).reply = .seats inventory) {log : List (Done sig)}
    {l : Unit} {n : Nat} {s' : Db × List (Done sig)}
    (hr : (selectSeats dto).exec (answering x) 0 () (s, log) = ⟨.ok seats, l, n, s'⟩) :
    Selected dto inventory seats := by
  have answered : ∀ {seats₀ l₁ n₁ s₁}, (grpc none (.getSeatsByEvent dto.eventId) Reply.seats? :
      Code sig Unit (List SeatInfo)).exec (answering x) 0 () (s, log) = ⟨.ok seats₀, l₁, n₁, s₁⟩ →
      seats₀ = inventory := by
    intro seats₀ l₁ n₁ s₁ h
    unfold grpc at h
    simp only [Code.exec_bind, Code.exec_await, answering_apply] at h
    cases h₀ : (x 0).fault with
    | some e =>
      rw [exec_of_fault rfl h₀] at h
      cases h
    | none =>
      simp only [exec_of_none h₀, perform, hx, Reply.seats?, Code.exec_pure] at h
      cases h
      rfl
  unfold selectSeats at hr
  obtain ⟨seats₀, l₁, n₁, s₁, hfirst, hrest⟩ := Code.exec_bind_ok hr
  cases answered hfirst
  dsimp only at hrest
  split at hrest
  · cases hrest
  · next hl =>
    split at hrest
    · cases hrest
    · next hheld =>
      have all : ∀ seat ∈ inventory.filter fun s ↦ dto.seatIds.contains s.seatId,
          seat.status = .held := by
        intro seat hs
        by_contra hne
        have notHeld : seat ∈ (inventory.filter fun s ↦ dto.seatIds.contains s.seatId).filter
            fun seat ↦ seat.status ≠ .held := List.mem_filter.mpr ⟨hs, by simpa using hne⟩
        exact hheld (List.length_pos_of_mem notHeld)
      obtain ⟨verified, l₂, n₂, s₂, -, hlast⟩ := Code.exec_bind_ok hrest
      split at hlast
      · cases hlast
        exact ⟨rfl, not_not.mp hl, all⟩
      · cases hlast

/-- The stored booking of a call, with the columns that are never assigned again, and its items. -/
structure Ordered (s : Db) (b : Booking) (items : List BookingItem) (s' : Db) : Prop where
  row : ∃ r, s'.bookings.find b.id = some r ∧ r.order = b.order
  others : ∀ r ∈ s'.bookings.rows, r.id = b.id ∨ r ∈ s.bookings.rows
  items : s'.items = s.items ++ items

/-- The charge that an operation asks for. -/
def Op.charge? : Op → Option InitiatePaymentRequest
  | .rpc _ (.initiatePayment request) => some request
  | _ => none

/-- Operations that persist or confirm a booking charge nothing. -/
theorem Op.charge_of_persists {o : Op} (h : o.persists = true) : o.charge? = none := by
  cases o <;> first | rfl | cases h

/-- The record has a request to charge a card. -/
def ChargeSent (log : List (Done sig)) (request : InitiatePaymentRequest) : Prop :=
  ∃ d ∈ log, d.op.charge? = some request

/-- The card is charged what the booking costs. -/
def ChargedAs (b : Booking) (log : List (Done sig)) : Prop :=
  ∀ request, ChargeSent log request → request.currency = b.currency ∧ request.amount = b.totalAmount

/-- The entity of a call is its stored booking, and the card is charged what it costs. -/
structure Settling (s : Db) (b : Booking) (items : List BookingItem) (l : Booking)
    (s' : Db × List (Done sig)) : Prop where
  order : l.order = b.order
  stored : Ordered s b items s'.1
  charged : ChargedAs b s'.2

variable {b : Booking} {items : List BookingItem}

/-- A booking that was persisted stands as ordered. -/
theorem Persists.ordered {s' : Db × List (Done sig)} (h : Persists s b items s') :
    Ordered s b items s'.1 := by
  constructor
  · refine ⟨b, ?_, rfl⟩
    rw [h.bookings]
    exact Table.find_put_self _ _
  · intro r hr
    rw [h.bookings] at hr
    rcases Table.mem_put.mp hr with rfl | ⟨old, -⟩
    · exact .inl rfl
    · exact .inr old
  · exact h.items

/-- Saving a copy with the same order keeps the booking as ordered. -/
theorem Ordered.save {s' : Db} (h : Ordered s b items s') {l : Booking} (ho : l.order = b.order)
    {t : Db} (hb : t.bookings = s'.bookings.put l) (hi : t.items = s'.items) :
    Ordered s b items t := by
  have hid : l.id = b.id := Booking.id_of_order ho
  constructor
  · refine ⟨l, ?_, ho⟩
    rw [hb, ← hid]
    exact Table.find_put_self _ _
  · intro r hr
    rw [hb] at hr
    rcases Table.mem_put.mp hr with rfl | ⟨old, -⟩
    · exact .inl hid
    · exact h.others r old
  · rw [hi]
    exact h.items

/-- An operation that charges nothing else keeps the charges of the booking. -/
theorem ChargedAs.cons {log : List (Done sig)} (h : ChargedAs b log) {d : Done sig}
    (hd : ∀ request, d.op.charge? = some request →
      request.currency = b.currency ∧ request.amount = b.totalAmount) :
    ChargedAs b (d :: log) := by
  rintro request ⟨d', hm, hr⟩
  rcases List.mem_cons.mp hm with rfl | hm
  · exact hd request hr
  · exact h request ⟨d', hm, hr⟩

/-- A state with the same bookings and items has the booking as ordered. -/
theorem Ordered.same {s' t : Db} (h : Ordered s b items s') (hb : t.bookings = s'.bookings)
    (hi : t.items = s'.items) : Ordered s b items t := by
  constructor
  · rw [hb]
    exact h.row
  · rw [hb]
    exact h.others
  · rw [hi]
    exact h.items

/-- An operation that stores no booking and no item, and charges nothing else. -/
theorem settling_asks {o : Op} (charge : ∀ request, o.charge? = some request →
      request.currency = b.currency ∧ request.amount = b.totalAmount)
    (keeps : ∀ c s, (perform c o s).2.bookings = s.bookings ∧ (perform c o s).2.items = s.items) :
    Code.Leaves (answering x) (Settling s b items) (BookingService.await o)
      (fun _ ↦ Settling s b items) fun _ ↦ Settling s b items := by
  apply await_recording
  · intro c l s' log r a h _
    exact ⟨h.order, h.stored.same (keeps c s').1 (keeps c s').2, h.charged.cons charge⟩
  · intro e l s' log r h
    exact ⟨h.order, h.stored, h.charged.cons charge⟩

/-- An operation that only reads keeps the booking settling. -/
theorem settling_reads {o : Op} (charge : o.charge? = none)
    (keeps : ∀ c s, (perform c o s).2.bookings = s.bookings ∧ (perform c o s).2.items = s.items) :
    Code.Leaves (answering x) (Settling s b items) (BookingService.await o)
      (fun _ ↦ Settling s b items) fun _ ↦ Settling s b items := by
  apply settling_asks _ keeps
  intro request h
  rw [charge] at h
  cases h

/-- An operation that stores the entity. -/
theorem settling_saves {o : Op} {row : Booking} (ho : row.order = b.order)
    (charge : o.charge? = none) (saves : ∀ c s, (perform c o s).2.bookings = s.bookings.put row ∧
      (perform c o s).2.items = s.items) :
    Code.Leaves (answering x) (Settling s b items) (BookingService.await o)
      (fun _ ↦ Settling s b items) fun _ ↦ Settling s b items := by
  have silent : ∀ request, o.charge? = some request →
      request.currency = b.currency ∧ request.amount = b.totalAmount := by
    intro request h
    rw [charge] at h
    cases h
  apply await_recording
  · intro c l s' log r a h _
    exact ⟨h.order, h.stored.save ho (saves c s').1 (saves c s').2, h.charged.cons silent⟩
  · intro e l s' log r h
    exact ⟨h.order, h.stored, h.charged.cons silent⟩

/-- Reading the entity gives a copy with the order of the booking. -/
theorem settling_entity {α : Type} {f : Booking → Code sig Booking α}
    (h : ∀ row, row.order = b.order →
      Code.Leaves (answering x) (Settling s b items) (f row) (fun _ ↦ Settling s b items)
        fun _ ↦ Settling s b items) :
    Code.Leaves (answering x) (Settling s b items) (BookingService.entity >>= f)
      (fun _ ↦ Settling s b items) fun _ ↦ Settling s b items := by
  apply Code.Leaves.bind (Q := fun row l s' ↦ Settling s b items l s' ∧ row.order = b.order)
  · exact Code.Leaves.entity fun l s' hs ↦ ⟨hs, hs.order⟩
  · exact fun row ↦ Code.Leaves.assume (h row)

/-- The confirmation stores the entity. -/
theorem confirmTransaction_settles (eventId userId : String) (seatIds : List String) :
    Code.Leaves (answering x) (Settling s b items) (confirmTransaction eventId userId seatIds)
      (fun _ ↦ Settling s b items) fun _ ↦ Settling s b items := by
  apply Code.Leaves.bind (Q := fun _ ↦ Settling s b items)
  · exact Code.Leaves.assign _ fun _ _ h ↦ ⟨h.order, h.stored, h.charged⟩
  intro _
  apply Code.Leaves.bind (settling_reads rfl fun _ _ ↦ ⟨rfl, rfl⟩)
  intro now
  apply Code.Leaves.bind (Q := fun _ ↦ Settling s b items)
  · exact Code.Leaves.assign _ fun _ _ h ↦ ⟨h.order, h.stored, h.charged⟩
  intro _
  apply settling_entity
  intro row ho
  apply Code.Leaves.bind (settling_reads rfl fun _ _ ↦ ⟨rfl, rfl⟩)
  intro _
  apply Code.Leaves.bind (settling_reads rfl fun _ _ ↦ ⟨rfl, rfl⟩)
  intro found
  cases found with
  | none => exact Code.Leaves.raise _ fun _ _ h ↦ h
  | some view =>
    apply Code.Leaves.bind (settling_reads rfl fun _ _ ↦ ⟨rfl, rfl⟩)
    intro _
    apply Code.Leaves.bind (settling_reads rfl fun _ _ ↦ ⟨rfl, rfl⟩)
    intro _
    exact settling_saves ho rfl fun _ _ ↦ ⟨rfl, rfl⟩

/-- The assignments of a cancellation. -/
theorem cancelEntity_settles (reason : String) :
    Code.Leaves (answering x) (Settling s b items) (cancelEntity reason)
      (fun _ ↦ Settling s b items) fun _ ↦ Settling s b items := by
  apply Code.Leaves.bind (Q := fun _ ↦ Settling s b items)
  · exact Code.Leaves.assign _ fun _ _ h ↦ ⟨h.order, h.stored, h.charged⟩
  intro _
  apply Code.Leaves.bind (settling_reads rfl fun _ _ ↦ ⟨rfl, rfl⟩)
  exact fun now ↦ Code.Leaves.assign _ fun _ _ h ↦ ⟨h.order, h.stored, h.charged⟩

/-- The `try` block keeps the booking settling. -/
theorem payBooking_settles (dto : CreateBookingDto)
    (hc : seats.head?.map SeatInfo.currency = some b.currency) :
    Code.Leaves (answering x) (Settling s b items) (payBooking dto b.totalAmount seats)
      (fun _ ↦ Settling s b items) fun _ ↦ Settling s b items := by
  apply Code.Leaves.bind (Q := fun currency l s' ↦ Settling s b items l s' ∧ currency = b.currency)
  · cases seats with
    | nil => exact Code.Leaves.raise _ fun _ _ h ↦ h
    | cons seat rest => exact Code.Leaves.ret _ fun _ _ h ↦ ⟨h, Option.some.inj hc⟩
  intro currency
  apply Code.Leaves.assume
  rintro rfl
  apply settling_entity
  intro row ho
  apply Code.Leaves.bind (Q := fun _ ↦ Settling s b items)
  · have charge : ∀ (asked : InitiatePaymentRequest) request,
        (Op.rpc (some row.id) (.initiatePayment asked)).charge? = some request → asked = request :=
      fun asked request h ↦ Option.some.inj h
    apply Code.Leaves.bind (settling_asks _ fun _ _ ↦ ⟨rfl, rfl⟩)
    rotate_left
    · intro request h
      cases charge _ request h
      exact ⟨rfl, rfl⟩
    intro reply
    split
    · exact Code.Leaves.ret _ fun _ _ h ↦ h
    · exact Code.Leaves.raise _ fun _ _ h ↦ h
  intro payment
  cases payment with
  | none => exact Code.Leaves.raise _ fun _ _ h ↦ h
  | some payment =>
    dsimp only
    split
    · apply Code.Leaves.bind (settling_reads rfl fun _ _ ↦ ⟨rfl, rfl⟩)
      intro _
      apply Code.Leaves.tryCatch (confirmTransaction_settles dto.eventId dto.userId dto.seatIds)
      intro error
      apply Code.Leaves.bind (settling_reads rfl fun _ _ ↦ ⟨rfl, rfl⟩)
      exact fun _ ↦ Code.Leaves.raise _ fun _ _ h ↦ h
    · apply Code.Leaves.bind (cancelEntity_settles _)
      intro _
      apply settling_entity
      intro row ho
      apply Code.Leaves.bind (settling_saves ho rfl fun _ _ ↦ ⟨rfl, rfl⟩)
      intro _
      apply Code.Leaves.bind (settling_reads rfl fun _ _ ↦ ⟨rfl, rfl⟩)
      exact fun _ ↦ Code.Leaves.ret _ fun _ _ h ↦ h

/-- The `catch` block keeps the booking settling. -/
theorem failBooking_settles (error : Exception) :
    Code.Leaves (answering x) (Settling s b items) (failBooking error)
      (fun _ ↦ Settling s b items) fun _ ↦ Settling s b items := by
  apply Code.Leaves.bind (cancelEntity_settles _)
  intro _
  apply settling_entity
  intro row ho
  apply Code.Leaves.bind (settling_saves ho rfl fun _ _ ↦ ⟨rfl, rfl⟩)
  intro _
  apply Code.Leaves.bind (settling_reads rfl fun _ _ ↦ ⟨rfl, rfl⟩)
  intro found
  cases found with
  | none => exact Code.Leaves.raise _ fun _ _ h ↦ h
  | some view =>
    apply Code.Leaves.bind (settling_reads rfl fun _ _ ↦ ⟨rfl, rfl⟩)
    exact fun _ ↦ Code.Leaves.raise _ fun _ _ h ↦ h

/-- Settling a booking keeps its order and its items, and charges what it costs. -/
theorem settleBooking_settles (dto : CreateBookingDto)
    (hc : seats.head?.map SeatInfo.currency = some b.currency) :
    Code.Leaves (answering x) (Settling s b items) (settleBooking dto b.totalAmount seats)
      (fun _ ↦ Settling s b items) fun _ ↦ Settling s b items := by
  apply Code.Leaves.bind (Q := fun _ ↦ Settling s b items)
  · exact Code.Leaves.tryCatch (payBooking_settles dto hc) failBooking_settles
  intro _
  apply settling_entity
  exact fun row ho ↦ settling_reads rfl fun _ _ ↦ ⟨rfl, rfl⟩

/-- Operations that charge nothing leave the record without a charge. -/
theorem charges_quiet {L α : Type} {c : Code sig L α} (hc : c.Awaits fun o : Op ↦ o.charge? = none)
    (n : Nat) (l : L) {s' : Db × List (Done sig)} (hs : ∀ request, ¬ ChargeSent s'.2 request) :
    ∀ request, ¬ ChargeSent (c.exec (answering x) n l s').state.2 request := by
  refine Code.Awaits.exec (K := fun s'' : Db × List (Done sig) ↦
    ∀ request, ¬ ChargeSent s''.2 request) ?_ hc hs
  rintro n o s'' ho h request ⟨d, hm, hr⟩
  rcases List.mem_cons.mp hm with rfl | hm
  · rw [show (Op.charge? o) = none from ho] at hr
    cases hr
  · exact h request ⟨d, hm, hr⟩

/-- The booking of a call was stored for the selected seats, and its card charged what it costs. -/
structure BookedFor (dto : CreateBookingDto) (inventory seats : List SeatInfo) (s : Db)
    (b : Booking) (items : List BookingItem) (s' : Db × List (Done sig)) : Prop where
  selected : Selected dto inventory seats
  new : NewBooking dto seats (totalAmount seats) s b items
  stored : Ordered s b items s'.1
  charged : ChargedAs b s'.2

/-- Nothing was stored and no card charged. -/
structure Untouched (s : Db) (s' : Db × List (Done sig)) : Prop where
  unpersisted : Unpersisted s s'
  uncharged : ∀ request, ¬ ChargeSent s'.2 request

/-- A call throws and stores and charges nothing, or stores its booking with its items. -/
theorem createBooking_cases (hx : (x 0).reply = .seats inventory) :
    (((createBooking dto).exec (answering x) 0 () (s, [])).throws = true ∧
      Untouched s ((createBooking dto).exec (answering x) 0 () (s, [])).state) ∨
    ∃ seats b items, BookedFor dto inventory seats s b items
      ((createBooking dto).exec (answering x) 0 () (s, [])).state := by
  have start : ∀ request, ¬ ChargeSent [] request := by
    rintro request ⟨d, hm, -⟩
    cases hm
  have asks : (selectSeats dto).Awaits fun o : Op ↦ o.charge? = none :=
    selectSeats_awaits (fun _ ↦ rfl) (fun _ _ _ ↦ rfl) dto
  have unstored := @selectSeats_unstored x dto s 0 []
  have uncharged := @charges_quiet x Unit _ _ asks 0 () (s, []) start
  unfold createBooking
  rw [Code.exec_bind]
  rcases hsel : (selectSeats dto).exec (answering x) 0 () (s, []) with ⟨r, l, n, s₁⟩
  rw [hsel] at unstored uncharged
  cases r with
  | error e => exact .inl ⟨rfl, unstored.unpersisted, uncharged⟩
  | ok seats =>
    have selected := selectSeats_selected hx hsel
    dsimp only
    rw [Code.exec_bind]
    have persisted := persistBooking_persists (x := x) (s := s) dto seats (totalAmount seats) n l s₁
      unstored
    have quiet := (persistBooking_awaits dto seats (totalAmount seats)).mono
      fun _ ↦ Op.charge_of_persists
    have still := charges_quiet (x := x) quiet n l uncharged
    rcases hper : (persistBooking dto seats (totalAmount seats)).exec (answering x) n l s₁
      with ⟨r, l', n', s₂⟩
    rw [hper] at persisted still
    have charged : ∀ b, ChargedAs b s₂.2 := fun b request h ↦ absurd h (still request)
    cases r with
    | error e =>
      rcases persisted with none | ⟨b, items, new, stored⟩
      · exact .inl ⟨rfl, none, still⟩
      · exact .inr ⟨seats, b, items, selected, new, stored.ordered, charged b⟩
    | ok found =>
      obtain ⟨b, items, new, stored, same⟩ := persisted
      right
      refine ⟨seats, b, items, ?_⟩
      cases found with
      | none => exact ⟨selected, new, stored.ordered, charged b⟩
      | some v =>
        have own : v.booking = b := same v rfl
        simp only [Code.exec_on, own]
        have settled := settleBooking_settles (x := x) dto new.currency n' b s₂
          ⟨rfl, stored.ordered, charged b⟩
        rw [new.amount] at settled
        rcases hset : (settleBooking dto (totalAmount seats) seats).exec (answering x) n' b s₂
          with ⟨r, l'', n'', s₃⟩
        rw [hset] at settled
        cases r with
        | ok _ => exact ⟨selected, new, settled.stored, settled.charged⟩
        | error _ => exact ⟨selected, new, settled.stored, settled.charged⟩

/-- The items of a new booking are the ones that were stored with it. -/
theorem BookedFor.itemsOf {s' : Db × List (Done sig)}
    (h : BookedFor dto inventory seats s b items s')
    (fresh : ∀ i ∈ s.items, i.bookingId ≠ s.nextId) : s'.1.itemsOf b.id = items := by
  have own := books_own h.new.books.1
  have others : s.items.filter (fun i ↦ i.bookingId = b.id) = [] := by
    apply List.filter_eq_nil_iff.mpr
    intro i hi
    rw [h.new.id]
    simpa using fresh i hi
  have all : items.filter (fun i ↦ i.bookingId = b.id) = items := by
    apply List.filter_eq_self.mpr
    intro i hi
    rw [h.new.id]
    simpa using own i hi
  rw [Db.itemsOf, h.stored.items, List.filter_append, others, all, List.nil_append]

/-- The row of the new booking keeps the columns that it was stored with. -/
theorem BookedFor.order {r : Booking} {s' : Db × List (Done sig)}
    (h : BookedFor dto inventory seats s b items s') (hr : r ∈ s'.1.bookings.rows)
    (hid : r.id = s.nextId) : r.order = b.order := by
  obtain ⟨row, found, order⟩ := h.stored.row
  have key := Table.find_of_mem hr
  rw [hid, ← h.new.id, found] at key
  exact Option.some.inj key ▸ order

end Ticketing.BookingService
