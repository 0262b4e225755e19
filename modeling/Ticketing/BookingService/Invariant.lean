import Ticketing.BookingService.History

/-!
# The invariant of the booking database

Library `BookingService`. What holds of the stored rows between any two operations, and that
every kind of write keeps it. `owner` names the thread that created a booking.
-/

namespace Ticketing.BookingService

open Async Store

/-- The event of `seats.mark_sold` rows. -/
def OutboxEvent.isSeatsMarkSold : OutboxEvent → Bool
  | .seatsMarkSold _ _ _ => true
  | _ => false

/-- The event of `booking.confirmed` rows. -/
def OutboxEvent.isBookingConfirmed : OutboxEvent → Bool
  | .bookingConfirmed _ => true
  | _ => false

/-- The event of `booking.refunded` rows. -/
def OutboxEvent.isBookingRefunded : OutboxEvent → Bool
  | .bookingRefunded _ => true
  | _ => false

/-- How many outbox rows of a booking have an event of some kind. -/
def Db.countEvents (s : Db) (b : Id) (kind : OutboxEvent → Bool) : Nat :=
  s.outbox.rows.countP fun e ↦ e.aggregateId = b && kind e.event

/-- The payload of an outbox row that tells the truth about a booking with these items. -/
def OutboxEvent.Describes (r : Booking) (items : List BookingItem) : OutboxEvent → Prop
  | .seatsMarkSold eventId userId seatIds =>
    eventId = r.eventId ∧ userId = r.userId ∧ seatIds = items.map BookingItem.seatId
  | .bookingConfirmed payload => payload = confirmedPayload r r.eventId items
  | .bookingRefunded payload => payload = refundedPayload r items
  | .unknown _ => False

/-- An outbox row belongs to a booking that was confirmed, and describes it. -/
def EntryOk (s : Db) (e : Outbox) : Prop :=
  ∃ r, s.bookings.find e.aggregateId = some r ∧ r.settled = true ∧
    e.event.Describes r (s.itemsOf r.id)

/-- The owners after thread `t` created booking `b`. -/
def claim (owner : Id → Option Nat) (b : Id) (t : Nat) : Id → Option Nat :=
  fun i ↦ if i = b then some t else owner i

/-- The thread that created the booking owns it. -/
@[simp] theorem claim_self (owner : Id → Option Nat) (b : Id) (t : Nat) :
    claim owner b t b = some t := if_pos rfl

/-- Other bookings keep their owners. -/
theorem claim_of_ne {owner : Id → Option Nat} {b i : Id} {t : Nat} (h : i ≠ b) :
    claim owner b t i = owner i := if_neg h

/-- What holds of the booking database and its history. -/
structure Inv (s : Db) (log : List (Event service)) (owner : Id → Option Nat) : Prop where
  owned : ∀ r ∈ s.bookings.rows, ∃ t, owner r.id = some t
  fresh : ∀ b t, owner b = some t → b < s.nextId
  items : ∀ i ∈ s.items, ∃ r, s.bookings.find i.bookingId = some r
  seats : ∀ r ∈ s.bookings.rows, UniqueSeats log →
    ((s.itemsOf r.id).map BookingItem.seatId).Nodup
  rows : ∀ r ∈ s.bookings.rows, RowOk log r
  numbered : ∀ e ∈ s.outbox.rows, e.id < s.nextId
  entries : ∀ e ∈ s.outbox.rows, EntryOk s e
  marked : ∀ r ∈ s.bookings.rows,
    s.countEvents r.id OutboxEvent.isSeatsMarkSold = if r.settled then 1 else 0
  confirmed : ∀ r ∈ s.bookings.rows,
    s.countEvents r.id OutboxEvent.isBookingConfirmed = if r.settled then 1 else 0

namespace Inv

variable {s : Db} {log : List (Event service)} {owner : Id → Option Nat}

/-- The empty database satisfies the invariant. -/
theorem empty : Inv Db.empty [] fun _ ↦ none := by
  constructor
  case fresh => simp
  all_goals
    intro _ h
    cases h

/-- A stored row is found under its identifier. -/
theorem find_of_mem {r : Booking} (h : r ∈ s.bookings.rows) : s.bookings.find r.id = some r :=
  Table.find_of_mem h

/-- A found row is stored, under the identifier it was asked for. -/
theorem mem_of_find {b : Id} {r : Booking} (h : s.bookings.find b = some r) :
    r ∈ s.bookings.rows ∧ r.id = b :=
  Table.find_eq_some_iff.mp h

/-- An operation that changes no row keeps the invariant. -/
theorem event (h : Inv s log owner) (ev : Event service) : Inv s (ev :: log) owner where
  owned := h.owned
  fresh := h.fresh
  items := h.items
  seats r hr hu := h.seats r hr hu.tail
  rows r hr := (h.rows r hr).cons
  numbered := h.numbered
  entries := h.entries
  marked := h.marked
  confirmed := h.confirmed

/-- Tickets, flags and unused numbers do not matter. -/
theorem congr {s' : Db} (h : Inv s log owner) (hb : s'.bookings = s.bookings)
    (hi : s'.items = s.items) (ho : s'.outbox = s.outbox) (hn : s.nextId ≤ s'.nextId) :
    Inv s' log owner := by
  obtain ⟨bookings, items, outbox, tickets, nextId, isProcessing⟩ := s
  obtain ⟨bookings', items', outbox', tickets', nextId', isProcessing'⟩ := s'
  simp only at hb hi ho hn
  subst hb hi ho
  have fresh : ∀ b t, owner b = some t → b < nextId' :=
    fun b t hb ↦ Nat.lt_of_lt_of_le (h.fresh b t hb) hn
  have numbered : ∀ e ∈ outbox'.rows, e.id < nextId' :=
    fun e he ↦ Nat.lt_of_lt_of_le (h.numbered e he) hn
  exact ⟨h.owned, fresh, h.items, h.seats, h.rows, numbered, h.entries, h.marked, h.confirmed⟩

/-- A booking that is not stored has no items. -/
theorem itemsOf_eq_nil (h : Inv s log owner) {b : Id} (hb : s.bookings.find b = none) :
    s.itemsOf b = [] := by
  unfold Db.itemsOf
  rw [List.filter_eq_nil_iff]
  intro i hi he
  obtain ⟨r, hr⟩ := h.items i hi
  rw [decide_eq_true_eq.mp he, hb] at hr
  cases hr

/-- A number that no booking has belongs to no outbox row. -/
theorem entry_stored (h : Inv s log owner) {e : Outbox} (he : e ∈ s.outbox.rows) {b : Id}
    (hb : s.bookings.find b = none) : e.aggregateId ≠ b := by
  obtain ⟨r, hr, -⟩ := h.entries e he
  intro hab
  rw [hab, hb] at hr
  cases hr

/-- Counting on tables that differ in one outbox row. -/
theorem countEvents_insert (s : Db) (b : Id) (kind : OutboxEvent → Bool) {e : Outbox}
    (h : s.outbox.find e.id = none) :
    { s with outbox := s.outbox.put e }.countEvents b kind =
      s.countEvents b kind + if e.aggregateId = b && kind e.event then 1 else 0 := by
  have hr : (s.outbox.put e).rows = s.outbox.rows ++ [e] := Table.rows_put_of_none h
  simp only [Db.countEvents, hr, List.countP_append, List.countP_cons, List.countP_nil,
    Nat.zero_add]

end Inv

/-- A payload speaks of the order and the items only. -/
theorem OutboxEvent.Describes.of_order {ev : OutboxEvent} {r r' : Booking}
    {items : List BookingItem} (h : ev.Describes r items) (ho : r'.order = r.order) :
    ev.Describes r' items := by
  simp only [Booking.order, Prod.mk.injEq] at ho
  obtain ⟨hi, hn, hu, he, ha, hc⟩ := ho
  cases ev with
  | seatsMarkSold eventId userId seatIds =>
    simp only [Describes, he, hu] at h ⊢
    exact h
  | bookingConfirmed payload =>
    simp only [Describes, confirmedPayload, hi, hn, hu, he, ha, hc] at h ⊢
    exact h
  | bookingRefunded payload =>
    simp only [Describes, refundedPayload, hi, hn, hu, he, ha, hc] at h ⊢
    exact h
  | unknown eventType => exact h

namespace Inv

variable {s : Db} {log : List (Event service)} {owner : Id → Option Nat}

/-- Rows of the same order, confirmed or not as before, may replace each other. -/
theorem entryOk_save {r r' : Booking} (hf : s.bookings.find r'.id = some r)
    (ho : r'.order = r.order) (hs : r.settled = true → r'.settled = true) {e : Outbox}
    (he : EntryOk s e) : EntryOk { s with bookings := s.bookings.put r' } e := by
  obtain ⟨q, hq, hqs, hd⟩ := he
  unfold EntryOk
  simp only [Table.find_put]
  by_cases hb : r'.id = e.aggregateId
  · rw [hb, hq] at hf
    cases hf
    refine ⟨r', by rw [if_pos hb], hs hqs, ?_⟩
    have hi := Booking.id_of_order ho
    rw [hi]
    exact hd.of_order ho
  · exact ⟨q, by rw [if_neg hb]; exact hq, hqs, hd⟩

/-- Saving a stored booking whose new row the history bears out. -/
theorem save (h : Inv s log owner) {r r' : Booking} (hf : s.bookings.find r'.id = some r)
    (ho : r'.order = r.order) (hs : r'.settled = r.settled) (hr : RowOk log r') :
    Inv { s with bookings := s.bookings.put r' } log owner := by
  obtain ⟨hm, -⟩ := mem_of_find hf
  have hi : r'.id = r.id := Booking.id_of_order ho
  have old : ∀ q ∈ (s.bookings.put r').rows, q = r' ∨ (q ∈ s.bookings.rows ∧ q.id ≠ r'.id) :=
    fun q hq ↦ Table.mem_put.mp hq
  constructor
  · intro q hq
    rcases old q hq with rfl | ⟨hq, -⟩
    · rw [hi]
      exact h.owned r hm
    · exact h.owned q hq
  · exact h.fresh
  · intro i hmi
    obtain ⟨q, hq⟩ := h.items i hmi
    simp only [Table.find_put]
    by_cases hb : r'.id = i.bookingId
    · exact ⟨r', if_pos hb⟩
    · exact ⟨q, (if_neg hb).trans hq⟩
  · intro q hq hu
    rcases old q hq with rfl | ⟨hq, -⟩
    · rw [hi]
      exact h.seats r hm hu
    · exact h.seats q hq hu
  · intro q hq
    rcases old q hq with rfl | ⟨hq, -⟩
    · exact hr
    · exact h.rows q hq
  · exact h.numbered
  · intro e he
    exact entryOk_save hf ho (fun hrs ↦ hs.trans hrs) (h.entries e he)
  · intro q hq
    rcases old q hq with rfl | ⟨hq, -⟩
    · rw [hs, hi]
      exact h.marked r hm
    · exact h.marked q hq
  · intro q hq
    rcases old q hq with rfl | ⟨hq, -⟩
    · rw [hs, hi]
      exact h.confirmed r hm
    · exact h.confirmed q hq

/-- Taking the next identifier keeps the invariant. -/
theorem number (h : Inv s log owner) (t : Nat) :
    Inv { s with nextId := s.nextId + 1 } log (claim owner s.nextId t) := by
  have grown : Inv { s with nextId := s.nextId + 1 } log owner :=
    h.congr rfl rfl rfl (Nat.le_succ _)
  constructor
  · intro r hr
    obtain ⟨u, hu⟩ := h.owned r hr
    have hlt : r.id < s.nextId := h.fresh r.id u hu
    exact ⟨u, by rw [claim_of_ne (Nat.ne_of_lt hlt)]; exact hu⟩
  · intro b u hb
    show b < s.nextId + 1
    by_cases hbn : b = s.nextId
    · rw [hbn]
      exact Nat.lt_succ_self _
    · rw [claim_of_ne hbn] at hb
      exact Nat.lt_succ_of_lt (h.fresh b u hb)
  · exact grown.items
  · exact grown.seats
  · exact grown.rows
  · exact grown.numbered
  · exact grown.entries
  · exact grown.marked
  · exact grown.confirmed

/-- Storing a new pending booking with its items. -/
theorem persist (h : Inv s log owner) {r : Booking} {items : List BookingItem} {t : Nat}
    (hf : s.bookings.find r.id = none) (ho : owner r.id = some t) (hp : r.status = .pending)
    (hn : r.refundState = none) (hi : ∀ i ∈ items, i.bookingId = r.id)
    (hu : UniqueSeats log → (items.map BookingItem.seatId).Nodup) :
    Inv { s with bookings := s.bookings.put r, items := s.items ++ items } log owner := by
  have hus : r.settled = false := by simp [Booking.settled, hp]
  have old : ∀ q ∈ (s.bookings.put r).rows, q = r ∨ (q ∈ s.bookings.rows ∧ q.id ≠ r.id) :=
    fun q hq ↦ Table.mem_put.mp hq
  have mine : { s with bookings := s.bookings.put r, items := s.items ++ items }.itemsOf r.id =
      items := by
    have hnil : s.items.filter (fun i ↦ i.bookingId = r.id) = [] := h.itemsOf_eq_nil hf
    simp only [Db.itemsOf, List.filter_append, hnil, List.nil_append]
    rw [List.filter_eq_self]
    intro i him
    exact decide_eq_true (hi i him)
  have others : ∀ b, b ≠ r.id →
      { s with bookings := s.bookings.put r, items := s.items ++ items }.itemsOf b =
        s.itemsOf b := by
    intro b hb
    have hnil : items.filter (fun i ↦ i.bookingId = b) = [] := by
      rw [List.filter_eq_nil_iff]
      intro i him he
      exact hb ((decide_eq_true_eq.mp he).symm.trans (hi i him))
    simp only [Db.itemsOf, List.filter_append, hnil, List.append_nil]
  constructor
  · intro q hq
    rcases old q hq with rfl | ⟨hq, -⟩
    · exact ⟨t, ho⟩
    · exact h.owned q hq
  · exact h.fresh
  · intro i him
    simp only [Table.find_put]
    by_cases hb : r.id = i.bookingId
    · exact ⟨r, if_pos hb⟩
    · rcases List.mem_append.mp him with him | him
      · obtain ⟨q, hq⟩ := h.items i him
        exact ⟨q, (if_neg hb).trans hq⟩
      · exact absurd (hi i him).symm hb
  · intro q hq hus'
    rcases old q hq with rfl | ⟨hq, hne⟩
    · rw [mine]
      exact hu hus'
    · rw [others q.id hne]
      exact h.seats q hq hus'
  · intro q hq
    rcases old q hq with rfl | ⟨hq, -⟩
    · constructor <;> simp [hn, hp, hus]
    · exact h.rows q hq
  · exact h.numbered
  · intro e he
    obtain ⟨q, hq, hqs, hd⟩ := h.entries e he
    have hne : r.id ≠ e.aggregateId := Ne.symm (h.entry_stored he hf)
    refine ⟨q, by rw [Table.find_put_of_ne _ hne]; exact hq, hqs, ?_⟩
    have hqi := (mem_of_find hq).2
    rw [others q.id (by rw [hqi]; exact Ne.symm hne)]
    exact hd
  · intro q hq
    rcases old q hq with rfl | ⟨hq, -⟩
    · rw [hus]
      apply List.countP_eq_zero.mpr
      intro e he
      simp [h.entry_stored he hf]
    · exact h.marked q hq
  · intro q hq
    rcases old q hq with rfl | ⟨hq, -⟩
    · rw [hus]
      apply List.countP_eq_zero.mpr
      intro e he
      simp [h.entry_stored he hf]
    · exact h.confirmed q hq

/-- Numbers that are not in use find no outbox row. -/
theorem find_unused (h : Inv s log owner) {n : Id} (hn : s.nextId ≤ n) :
    s.outbox.find n = none := by
  cases hf : s.outbox.find n with
  | none => rfl
  | some e =>
    obtain ⟨hm, rfl⟩ := Table.find_eq_some_iff.mp hf
    exact absurd (h.numbered e hm) (Nat.not_lt.mpr hn)

/-- Confirming a pending booking: the row and its two outbox rows. -/
theorem confirm (h : Inv s log owner) {r r' : Booking} (hf : s.bookings.find r'.id = some r)
    (hu : r.settled = false) (ho : r'.order = r.order) (hs : r'.settled = true)
    (hr : RowOk log r') {sold sent : OutboxEvent} (hks : sold.isSeatsMarkSold = true)
    (hkc : sent.isBookingConfirmed = true) (hds : sold.Describes r' (s.itemsOf r'.id))
    (hdc : sent.Describes r' (s.itemsOf r'.id)) :
    Inv ([.booking r', .outbox (Outbox.create r'.id sold),
      .outbox (Outbox.create r'.id sent)].foldl Db.write s) log owner := by
  obtain ⟨hm, -⟩ := mem_of_find hf
  have hi : r'.id = r.id := Booking.id_of_order ho
  let e₁ : Outbox := { Outbox.create r'.id sold with id := s.nextId }
  let e₂ : Outbox := { Outbox.create r'.id sent with id := s.nextId + 1 }
  have none₁ : s.outbox.find e₁.id = none := h.find_unused (Nat.le_refl _)
  have none₂ : (s.outbox.put e₁).find e₂.id = none := by
    rw [Table.find_put_of_ne _ (Nat.ne_of_lt (Nat.lt_succ_self _))]
    exact h.find_unused (Nat.le_succ _)
  have rows : ((s.outbox.put e₁).put e₂).rows = s.outbox.rows ++ [e₁] ++ [e₂] := by
    rw [Table.rows_put_of_none none₂, Table.rows_put_of_none none₁]
  let s' : Db := { s with bookings := s.bookings.put r', outbox := (s.outbox.put e₁).put e₂,
                          nextId := s.nextId + 1 + 1 }
  have hc : ∀ b kind, s'.countEvents b kind = s.countEvents b kind +
      (if r'.id = b && kind sold then 1 else 0) + if r'.id = b && kind sent then 1 else 0 := by
    intro b kind
    simp only [s', Db.countEvents, rows, List.countP_append, List.countP_singleton]
    rfl
  have old : ∀ q ∈ (s.bookings.put r').rows, q = r' ∨ (q ∈ s.bookings.rows ∧ q.id ≠ r'.id) :=
    fun q hq ↦ Table.mem_put.mp hq
  have hsc : sold.isBookingConfirmed = false := by cases sold <;> first | rfl | cases hks
  have hcs : sent.isSeatsMarkSold = false := by cases sent <;> first | rfl | cases hkc
  show Inv s' log owner
  constructor
  · intro q hq
    rcases old q hq with rfl | ⟨hq, -⟩
    · rw [hi]
      exact h.owned r hm
    · exact h.owned q hq
  · intro b t hb
    exact Nat.lt_succ_of_lt (Nat.lt_succ_of_lt (h.fresh b t hb))
  · intro i him
    obtain ⟨q, hq⟩ := h.items i him
    show ∃ q, (s.bookings.put r').find i.bookingId = some q
    rw [Table.find_put]
    by_cases hb : r'.id = i.bookingId
    · exact ⟨r', if_pos hb⟩
    · exact ⟨q, (if_neg hb).trans hq⟩
  · intro q hq hus
    rcases old q hq with rfl | ⟨hq, -⟩
    · rw [hi]
      exact h.seats r hm hus
    · exact h.seats q hq hus
  · intro q hq
    rcases old q hq with rfl | ⟨hq, -⟩
    · exact hr
    · exact h.rows q hq
  · intro e he
    rw [rows, List.mem_append, List.mem_append, List.mem_singleton, List.mem_singleton] at he
    show e.id < s.nextId + 1 + 1
    rcases he with (he | rfl) | rfl
    · exact Nat.lt_succ_of_lt (Nat.lt_succ_of_lt (h.numbered e he))
    · exact Nat.lt_succ_of_lt (Nat.lt_succ_self _)
    · exact Nat.lt_succ_self _
  · intro e he
    rw [rows, List.mem_append, List.mem_append, List.mem_singleton, List.mem_singleton] at he
    rcases he with (he | rfl) | rfl
    · exact entryOk_save hf ho (fun _ ↦ hs) (h.entries e he)
    · exact ⟨r', Table.find_put_self _ r', hs, hds⟩
    · exact ⟨r', Table.find_put_self _ r', hs, hdc⟩
  · intro q hq
    rw [hc]
    rcases old q hq with rfl | ⟨hq, hne⟩
    · have := h.marked r hm
      rw [← hi, hu] at this
      simp [this, hs, hks, hcs]
    · simp [h.marked q hq, Ne.symm hne]
  · intro q hq
    rw [hc]
    rcases old q hq with rfl | ⟨hq, hne⟩
    · have := h.confirmed r hm
      rw [← hi, hu] at this
      simp [this, hs, hkc, hsc]
    · simp [h.confirmed q hq, Ne.symm hne]

/-- Inserting an outbox row that describes its booking and is of neither kind. -/
theorem insertEntry (h : Inv s log owner) {r : Booking} (hf : s.bookings.find r.id = some r)
    (hs : r.settled = true) {event : OutboxEvent} (hks : event.isSeatsMarkSold = false)
    (hkc : event.isBookingConfirmed = false) (hd : event.Describes r (s.itemsOf r.id)) :
    Inv (s.write (.outbox (Outbox.create r.id event))) log owner := by
  let e₁ : Outbox := { Outbox.create r.id event with id := s.nextId }
  have none₁ : s.outbox.find e₁.id = none := h.find_unused (Nat.le_refl _)
  have rows : (s.outbox.put e₁).rows = s.outbox.rows ++ [e₁] := Table.rows_put_of_none none₁
  let s' : Db := { s with outbox := s.outbox.put e₁, nextId := s.nextId + 1 }
  have hc : ∀ b kind, kind event = false → s'.countEvents b kind = s.countEvents b kind := by
    intro b kind hk
    have he : kind e₁.event = false := hk
    simp only [s', Db.countEvents, rows, List.countP_append, List.countP_singleton, he,
      Bool.and_false]
    rfl
  show Inv s' log owner
  constructor
  · exact h.owned
  · intro b t hb
    exact Nat.lt_succ_of_lt (h.fresh b t hb)
  · exact h.items
  · exact h.seats
  · exact h.rows
  · intro e he
    rw [rows, List.mem_append, List.mem_singleton] at he
    show e.id < s.nextId + 1
    rcases he with he | rfl
    · exact Nat.lt_succ_of_lt (h.numbered e he)
    · exact Nat.lt_succ_self _
  · intro e he
    rw [rows, List.mem_append, List.mem_singleton] at he
    rcases he with he | rfl
    · exact h.entries e he
    · exact ⟨r, hf, hs, hd⟩
  · intro q hq
    rw [hc _ _ hks]
    exact h.marked q hq
  · intro q hq
    rw [hc _ _ hkc]
    exact h.confirmed q hq

/-- Saving a stored outbox row with another status. -/
theorem saveEntry (h : Inv s log owner) {e e' : Outbox} (hf : s.outbox.find e'.id = some e)
    (ha : e'.aggregateId = e.aggregateId) (hv : e'.event = e.event) :
    Inv { s with outbox := s.outbox.put e' } log owner := by
  obtain ⟨hm, hid⟩ := Table.find_eq_some_iff.mp hf
  have old : ∀ q ∈ (s.outbox.put e').rows, q = e' ∨ (q ∈ s.outbox.rows ∧ q.id ≠ e'.id) :=
    fun q hq ↦ Table.mem_put.mp hq
  have hc : ∀ b kind, { s with outbox := s.outbox.put e' }.countEvents b kind =
      s.countEvents b kind := by
    intro b kind
    have := Table.countP_put (fun q : Outbox ↦ q.aggregateId = b && kind q.event) hf
    simp only [ha, hv] at this
    exact Nat.add_right_cancel this
  constructor
  · exact h.owned
  · exact h.fresh
  · exact h.items
  · exact h.seats
  · exact h.rows
  · intro q hq
    rcases old q hq with rfl | ⟨hq, -⟩
    · rw [← hid]
      exact h.numbered e hm
    · exact h.numbered q hq
  · intro q hq
    rcases old q hq with rfl | ⟨hq, -⟩
    · obtain ⟨r, hr, hs, hd⟩ := h.entries e hm
      exact ⟨r, by rw [ha]; exact hr, hs, by rw [hv]; exact hd⟩
    · exact h.entries q hq
  · intro q hq
    rw [hc]
    exact h.marked q hq
  · intro q hq
    rw [hc]
    exact h.confirmed q hq

end Inv

end Ticketing.BookingService
