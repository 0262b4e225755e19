import Ticketing.BookingService.Deliveries
import Ticketing.BookingService.Dispatches

/-!
# Exclusive dispatch

Library `BookingService`. A tick marks each entry that it has read, whatever has become of it. As
long as entries are marked while they are `PENDING`, no two dispatches of an entry overlap, and each
item gets one ticket.
-/

namespace Ticketing.BookingService

open Async Store

/-- What the tickets of a booking have from their items. -/
def Db.ticketed (s : Db) (b : Id) : List TicketItem :=
  (s.tickets.rows.filter fun t ↦ t.bookingId = b).map Ticket.item

/-- What a ticket for each item of a booking has from it. -/
def Db.ticketItems (s : Db) (b : Id) : List TicketItem := (s.itemsOf b).map BookingItem.toTicket

/-- The operation stored the entry as `COMPLETED`. -/
def Op.completes (n : Id) : (o : Op) → sig.Answer o → Bool
  | .saveEntry e, .ok _ => e.id = n && e.status = .completed
  | _, _ => false

/-- No entry is dispatched by two threads, or after a dispatch of it was stored as `COMPLETED`;
a booking has no tickets or one for each of its items. -/
structure Exclusive (c : Conf service) : Prop where
  apart : ∀ t u e e', t ≠ u → dispatched t c.log = some e → dispatched u c.log = some e' →
    e.id ≠ e'.id
  once : ∀ t e, dispatched t c.log = some e → ∀ ev ∈ c.log, ev.op.completes e.id ev.answer = false
  tickets : ∀ b, c.state.ticketed b = [] ∨ c.state.ticketed b = c.state.ticketItems b

/-- The runs in which entries are `PENDING` when a tick marks them. -/
def pendingClaims : Regime service where
  may c
    | ⟨_, _, .saveEntry e, .ok _⟩ =>
      e.status = .processing → ∃ row ∈ c.state.outbox.find e.id, row.status = .pending
    | _ => True
  excl _ _ := False

/-- The entry that the operation saved. -/
def Op.saved? : (o : Op) → sig.Answer o → Option Outbox
  | .saveEntry e, .ok _ => some e
  | _, _ => none

instance (c : Conf service) (ev : Event service) : Decidable (pendingClaims.may c ev) :=
  decidable_of_iff (∀ e ∈ ev.op.saved? ev.answer, e.status = .processing →
      ∃ row ∈ c.state.outbox.find e.id, row.status = .pending) (by
    obtain ⟨t, j, o, a⟩ := ev
    simp only [pendingClaims, Op.saved?]
    split
    · simp
    · next other =>
      split
      · next same =>
        cases same
        exact absurd HEq.rfl (other _ _ rfl)
      · simp)

instance (i j : Job) : Decidable (pendingClaims.excl i j) := inferInstanceAs (Decidable False)

/-! ### What operations leave alone -/

variable {x : Choice} {o : Op} {s : Db} {w : Work} {c : Conf service} {t u : Nat} {j : Job}

private theorem entry_writes (writes : List Write) {s : Db}
    (hn : ∀ e ∈ s.outbox.rows, e.id < s.nextId) {e : Outbox} (h : s.outbox.find e.id = some e) :
    (writes.foldl Db.write s).outbox.find e.id = some e := by
  induction writes generalizing s with
  | nil => exact h
  | cons write writes ih =>
    cases write with
    | outbox new =>
      have hne : s.nextId ≠ e.id := Ne.symm (Nat.ne_of_lt (hn e (Table.find_eq_some_iff.mp h).1))
      apply ih
      · intro e' he'
        rcases Table.mem_put.mp he' with rfl | ⟨old, -⟩
        · exact Nat.lt_succ_self _
        · exact Nat.lt_succ_of_lt (hn e' old)
      · show (s.outbox.put { new with id := s.nextId }).find e.id = some e
        rw [Table.find_put, if_neg hne]
        exact h
    | _ => exact ih hn h

/-- Other operations leave the stored entries as they are. -/
theorem entry_exec (ho : o.savesEntry = false) (hn : ∀ e ∈ s.outbox.rows, e.id < s.nextId)
    {e : Outbox} (h : s.outbox.find e.id = some e) :
    (exec x o s).2.outbox.find e.id = some e := by
  rcases exec_cases x o s with ⟨-, error, he⟩ | he
  · rw [he]
    exact h
  · rw [he]
    cases o with
    | saveEntry e => cases ho
    | commit writes => exact entry_writes writes hn h
    | _ => exact h

/-- No operation lowers the next identifier. -/
theorem nextId_exec (x : Choice) (o : Op) (s : Db) : s.nextId ≤ (exec x o s).2.nextId := by
  have writes : ∀ (writes : List Write) (s : Db), s.nextId ≤ (writes.foldl Db.write s).nextId := by
    intro writes
    induction writes with
    | nil => exact fun s ↦ Nat.le_refl _
    | cons write writes ih =>
      intro s
      refine Nat.le_trans ?_ (ih (s.write write))
      cases write with
      | outbox e => exact Nat.le_succ _
      | _ => exact Nat.le_refl _
  rcases exec_cases x o s with ⟨-, error, he⟩ | he
  · rw [he]
  · rw [he]
    cases o with
    | commit ws => exact writes ws s
    | insertBooking b => exact Nat.le_succ _
    | saveTickets tickets => exact Nat.le_add_right _ _
    | _ => exact Nat.le_refl _

/-- The operation saves tickets. -/
def Op.savesTickets : Op → Bool
  | .saveTickets _ => true
  | _ => false

private theorem ticketed_cancel (s : Db) (b c : Id) :
    ({ s with tickets := s.tickets.putAll (s.tickets.rows.map (cancelTicket c)) } : Db).ticketed b =
      s.ticketed b := by
  have same : ∀ t, (cancelTicket c t).id = t.id ∧ (cancelTicket c t).bookingId = t.bookingId ∧
      (cancelTicket c t).item = t.item := by
    intro t
    unfold cancelTicket
    split <;> exact ⟨rfl, rfl, rfl⟩
  unfold Db.ticketed
  rw [Table.rows_putAll_map _ _ fun t ↦ (same t).1, List.filter_map, List.map_map]
  have booking : ((fun t : Ticket ↦ decide (t.bookingId = b)) ∘ cancelTicket c) =
      fun t ↦ decide (t.bookingId = b) := by
    funext t
    simp only [Function.comp_apply, (same t).2.1]
  have item : Ticket.item ∘ cancelTicket c = Ticket.item := by
    funext t
    exact (same t).2.2
  rw [booking, item]

/-- Other operations issue no tickets. -/
theorem ticketed_exec (ho : o.savesTickets = false) (b : Id) :
    (exec x o s).2.ticketed b = s.ticketed b := by
  rcases exec_cases x o s with ⟨-, error, he⟩ | he
  · rw [he]
  · rw [he]
    cases o with
    | saveTickets tickets => cases ho
    | cancelTickets c => exact ticketed_cancel s b c
    | commit writes =>
      unfold Db.ticketed
      show (((writes.foldl Db.write s).tickets.rows.filter _).map _) = _
      rw [tickets_writes]
    | _ => rfl

private theorem numberedTickets_cons (next : Id) (ticket : Ticket) (rest : List Ticket) :
    numberedTickets next (ticket :: rest) =
      { ticket with id := next } :: numberedTickets (next + 1) rest := by
  unfold numberedTickets
  rw [List.mapIdx_cons]
  congr 2
  funext i r
  congr 1
  exact Nat.add_right_comm next i 1

/-- New tickets get consecutive identifiers from the next one on. -/
theorem id_of_numbered {next : Id} {tickets : List Ticket} {ticket : Ticket}
    (h : ticket ∈ numberedTickets next tickets) :
    next ≤ ticket.id ∧ ticket.id < next + tickets.length := by
  obtain ⟨i, hi, rfl⟩ := List.mem_mapIdx.mp h
  exact ⟨Nat.le_add_right _ _, Nat.add_lt_add_left hi _⟩

private theorem nodup_numbered (next : Id) (tickets : List Ticket) :
    ((numberedTickets next tickets).map Ticket.id).Nodup := by
  induction tickets generalizing next with
  | nil => exact List.nodup_nil
  | cons ticket rest ih =>
    rw [numberedTickets_cons, List.map_cons, List.nodup_cons]
    refine ⟨?_, ih (next + 1)⟩
    intro hm
    obtain ⟨other, hother, hid⟩ := List.mem_map.mp hm
    have := (id_of_numbered hother).1
    rw [hid] at this
    exact absurd this (Nat.not_succ_le_self next)

private theorem items_of_numbered (next b : Id) (tickets : List Ticket) :
    ((numberedTickets next tickets).filter fun t ↦ t.bookingId = b).map Ticket.item =
      (tickets.filter fun t ↦ t.bookingId = b).map Ticket.item := by
  induction tickets generalizing next with
  | nil => rfl
  | cons ticket rest ih =>
    rw [numberedTickets_cons]
    by_cases hb : ticket.bookingId = b
    · simp only [List.filter_cons, hb, decide_true, if_true, List.map_cons, ih]
      rfl
    · simp [hb, ih]

/-- Saving tickets appends them to those of their bookings. -/
theorem ticketed_save (hn : ∀ ticket ∈ s.tickets.rows, ticket.id < s.nextId)
    (tickets : List Ticket) (b : Id) :
    (perform x (.saveTickets tickets) s).2.ticketed b =
      s.ticketed b ++ (tickets.filter fun t ↦ t.bookingId = b).map Ticket.item := by
  have fresh : ∀ ticket ∈ numberedTickets s.nextId tickets, s.tickets.find ticket.id = none := by
    intro ticket hm
    cases hf : s.tickets.find ticket.id with
    | none => rfl
    | some old =>
      obtain ⟨hold, hid⟩ := Table.find_eq_some_iff.mp hf
      have lt := hn old hold
      rw [hid] at lt
      exact absurd (id_of_numbered hm).1 (Nat.not_le.mpr lt)
  unfold Db.ticketed
  show (((s.tickets.putAll (numberedTickets s.nextId tickets)).rows.filter _).map _) = _
  rw [Table.rows_putAll_of_fresh (nodup_numbered _ _) fresh, List.filter_append, List.map_append,
    items_of_numbered]

/-- Numbers of tickets stay below the next one. -/
theorem numbered_exec (x : Choice) (o : Op) {s : Db}
    (hn : ∀ ticket ∈ s.tickets.rows, ticket.id < s.nextId) :
    ∀ ticket ∈ (exec x o s).2.tickets.rows, ticket.id < (exec x o s).2.nextId := by
  intro ticket hm
  have old : ∀ ticket ∈ s.tickets.rows, ticket.id < (exec x o s).2.nextId :=
    fun ticket hm ↦ Nat.lt_of_lt_of_le (hn ticket hm) (nextId_exec x o s)
  rcases exec_cases x o s with ⟨-, error, he⟩ | he
  · rw [he] at hm
    exact old ticket hm
  · rcases mem_tickets_exec hm with hm' | ⟨b, before, -, hm', rfl⟩ | ⟨rows, rfl, -⟩
    · exact old ticket hm'
    · have same : (cancelTicket b before).id = before.id := by
        unfold cancelTicket
        split <;> rfl
      rw [same]
      exact old before hm'
    · rw [he] at hm ⊢
      rcases Table.mem_of_mem_putAll hm with hm | hm
      · exact (id_of_numbered hm).2
      · exact Nat.lt_of_lt_of_le (hn ticket hm) (Nat.le_add_right _ _)

/-! ### Entries -/

/-- What a thread dispatches is stored as `PROCESSING`, by no other thread, and what was completed
stays so. -/
structure Claims (c : Conf service) : Prop where
  row : ∀ t e, dispatched t c.log = some e →
    c.state.outbox.find e.id = some e ∧ e.status = .processing
  apart : ∀ t u e e', t ≠ u → dispatched t c.log = some e → dispatched u c.log = some e' →
    e.id ≠ e'.id
  done : ∀ ev ∈ c.log, ∀ n, ev.op.completes n ev.answer = true →
    ∃ row, c.state.outbox.find n = some row ∧ row.status = .completed

namespace Claims

/-- A step that neither stores an entry nor stops dispatching one. -/
theorem other (h : Claims c) (hn : ∀ e ∈ c.state.outbox.rows, e.id < c.state.nextId)
    (ho : o.savesEntry = false) : Claims (c.after t j x o) := by
  have same : ∀ u, dispatched u (c.after t j x o).log = dispatched u c.log := by
    intro u
    by_cases hu : u = t
    · subst hu
      show dispatched u (⟨u, j, o, c.answer x o⟩ :: c.log) = _
      rw [dispatched_self]
      exact entry_next ho _
    · exact dispatched_other (Ne.symm hu) _
  have kept : ∀ n row, c.state.outbox.find n = some row →
      (c.after t j x o).state.outbox.find n = some row := by
    intro n row hrow
    obtain ⟨-, rfl⟩ := Table.find_eq_some_iff.mp hrow
    exact entry_exec ho hn hrow
  constructor
  · intro u e hu
    rw [same] at hu
    obtain ⟨hf, hst⟩ := h.row u e hu
    exact ⟨kept _ _ hf, hst⟩
  · intro u v e e' hne hu hv
    rw [same] at hu hv
    exact h.apart u v e e' hne hu hv
  · intro ev hev n hc
    rcases List.mem_cons.mp hev with rfl | hev
    · cases o with
      | saveEntry e => cases ho
      | _ => cases hc
    · obtain ⟨row, hrow, hst⟩ := h.done ev hev n hc
      exact ⟨row, kept _ _ hrow, hst⟩

/-- A save of an entry that fails keeps the claims. -/
theorem unsaved (h : Claims c) {e : Outbox} {error : Exception} :
    Claims ⟨c.state, ⟨t, j, .saveEntry e, .error error⟩ :: c.log⟩ := by
  have before : ∀ u e', dispatched u (⟨t, j, .saveEntry e, .error error⟩ :: c.log) = some e' →
      dispatched u c.log = some e' := by
    intro u e' hu
    by_cases he : u = t
    · subst he
      rw [dispatched_self] at hu
      by_cases hst : e.status = .completed
      · rw [next_unsaved, if_pos hst] at hu
        exact hu
      · rw [next_unsaved, if_neg hst] at hu
        cases hu
    · rw [dispatched_other (Ne.symm he)] at hu
      exact hu
  constructor
  · exact fun u e' hu ↦ h.row u e' (before u e' hu)
  · exact fun u v e' e'' hne hu hv ↦ h.apart u v e' e'' hne (before u e' hu) (before v e'' hv)
  · intro ev hev n hc
    rcases List.mem_cons.mp hev with rfl | hev
    · cases hc
    · exact h.done ev hev n hc

/-- A tick marks an entry that is pending. -/
theorem mark (h : Claims c) {e row : Outbox} (hst : e.status = .processing)
    (hrow : c.state.outbox.find e.id = some row) (hp : row.status = .pending) :
    Claims ⟨{ c.state with outbox := c.state.outbox.put e },
      ⟨t, j, .saveEntry e, .ok ()⟩ :: c.log⟩ := by
  have self : dispatched t (⟨t, j, .saveEntry e, .ok ()⟩ :: c.log) = some e := by
    rw [dispatched_self]
    exact congrArg Work.entry (if_pos hst)
  -- what the others dispatch is not pending
  have others : ∀ u e', dispatched u c.log = some e' → e.id ≠ e'.id := by
    intro u e' hu hid
    obtain ⟨hf, hpr⟩ := h.row u e' hu
    rw [← hid, hrow, Option.some.injEq] at hf
    rw [← hf, hp] at hpr
    cases hpr
  have split : ∀ u e', dispatched u (⟨t, j, .saveEntry e, .ok ()⟩ :: c.log) = some e' →
      (u = t ∧ e' = e) ∨ (u ≠ t ∧ dispatched u c.log = some e') := by
    intro u e' hu
    by_cases hut : u = t
    · rw [hut, self] at hu
      exact .inl ⟨hut, (Option.some.inj hu).symm⟩
    · rw [dispatched_other (Ne.symm hut)] at hu
      exact .inr ⟨hut, hu⟩
  constructor
  · intro u e' hu
    rcases split u e' hu with ⟨-, rfl⟩ | ⟨-, hu⟩
    · exact ⟨Table.find_put_self _ _, hst⟩
    · obtain ⟨hf, hpr⟩ := h.row u e' hu
      exact ⟨(Table.find_put_of_ne _ (others u e' hu)).trans hf, hpr⟩
  · intro u v e' e'' hne hu hv
    rcases split u e' hu with ⟨rfl, rfl⟩ | ⟨-, hu'⟩
    · rcases split v e'' hv with ⟨rfl, -⟩ | ⟨-, hv'⟩
      · exact absurd rfl hne
      · exact others v e'' hv'
    · rcases split v e'' hv with ⟨rfl, rfl⟩ | ⟨-, hv'⟩
      · exact Ne.symm (others u e' hu')
      · exact h.apart u v e' e'' hne hu' hv'
  · intro ev hev n hc
    rcases List.mem_cons.mp hev with rfl | hev
    · simp [Op.completes, hst] at hc
    · obtain ⟨row', hrow', hst'⟩ := h.done ev hev n hc
      have hne : e.id ≠ n := by
        rintro rfl
        rw [hrow, Option.some.injEq] at hrow'
        rw [← hrow', hp] at hst'
        cases hst'
      exact ⟨row', (Table.find_put_of_ne _ hne).trans hrow', hst'⟩

/-- A tick stores how the dispatch of an entry ended. -/
theorem finish (h : Claims c) {e e₀ : Outbox} (hst : e.status ≠ .processing)
    (ht : dispatched t c.log = some e₀) (hid : e₀.id = e.id) :
    Claims ⟨{ c.state with outbox := c.state.outbox.put e },
      ⟨t, j, .saveEntry e, .ok ()⟩ :: c.log⟩ := by
  obtain ⟨hf₀, hst₀⟩ := h.row t e₀ ht
  have before : ∀ u e', dispatched u (⟨t, j, .saveEntry e, .ok ()⟩ :: c.log) = some e' →
      dispatched u c.log = some e' ∧ e.id ≠ e'.id := by
    intro u e' hu
    by_cases hut : u = t
    · rw [hut, dispatched_self, next_saved hst] at hu
      cases hu
    · rw [dispatched_other (Ne.symm hut)] at hu
      exact ⟨hu, hid ▸ h.apart t u e₀ e' (Ne.symm hut) ht hu⟩
  constructor
  · intro u e' hu
    obtain ⟨hu, hne⟩ := before u e' hu
    obtain ⟨hf, hpr⟩ := h.row u e' hu
    exact ⟨(Table.find_put_of_ne _ hne).trans hf, hpr⟩
  · exact fun u v e' e'' hne hu hv ↦ h.apart u v e' e'' hne (before u e' hu).1 (before v e'' hv).1
  · intro ev hev n hc
    rcases List.mem_cons.mp hev with rfl | hev
    · simp only [Op.completes, Bool.and_eq_true, decide_eq_true_eq] at hc
      obtain ⟨rfl, hc⟩ := hc
      exact ⟨e, Table.find_put_self _ _, hc⟩
    · obtain ⟨row, hrow, hst'⟩ := h.done ev hev n hc
      have hne : e.id ≠ n := by
        rintro rfl
        rw [← hid, hf₀, Option.some.injEq] at hrow
        rw [← hrow, hst₀] at hst'
        cases hst'
      exact ⟨row, (Table.find_put_of_ne _ hne).trans hrow, hst'⟩

/-- Every operation keeps the claims. -/
theorem step (h : Claims c) (hn : ∀ e ∈ c.state.outbox.rows, e.id < c.state.nextId)
    (ha : (work.state t c.log).Allows o)
    (hm : pendingClaims.may c ⟨t, j, o, c.answer x o⟩) : Claims (c.after t j x o) := by
  cases o with
  | saveEntry e =>
    unfold Conf.after
    unfold Conf.answer at hm ⊢
    rcases exec_cases x (.saveEntry e) c.state with ⟨-, error, he⟩ | he
    · show Claims ⟨(exec x (.saveEntry e) c.state).2,
        ⟨t, j, .saveEntry e, (exec x (.saveEntry e) c.state).1⟩ :: c.log⟩
      rw [he]
      exact h.unsaved
    · show Claims ⟨(exec x (.saveEntry e) c.state).2,
        ⟨t, j, .saveEntry e, (exec x (.saveEntry e) c.state).1⟩ :: c.log⟩
      have hm : pendingClaims.may c ⟨t, j, .saveEntry e, (exec x (.saveEntry e) c.state).1⟩ := hm
      rw [he] at hm ⊢
      by_cases hst : e.status = .processing
      · obtain ⟨row, hrow, hp⟩ := hm hst
        exact h.mark hst hrow hp
      · obtain ⟨e₀, he₀, hid⟩ := entry_of_end ha hst
        exact h.finish hst he₀ hid
  | _ => exact h.other hn rfl

end Claims

/-! ### Tickets -/

/-- The entry for which no tickets were found. -/
def Work.bare : Work → Option Outbox
  | .unticketed e | .ticketing e _ => some e
  | .idle | .dispatching _ => none

/-- What a dispatch has found is still true. -/
structure Found (s : Db) (w : Work) : Prop where
  bare : ∀ e ∈ w.bare, e.event.isBookingConfirmed = true ∧ s.ticketed e.aggregateId = []
  loaded : ∀ e items, w = .ticketing e items → items = s.itemsOf e.aggregateId

/-- A booking has no tickets or one for each item. -/
structure Ticketed (c : Conf service) : Prop where
  numbered : ∀ ticket ∈ c.state.tickets.rows, ticket.id < c.state.nextId
  issued : ∀ b, c.state.ticketed b = [] ∨ c.state.ticketed b = c.state.ticketItems b
  threads : ∀ t, Found c.state (work.state t c.log)

/-- A booking has one entry that confirms it. -/
theorem sole_confirmed {owner : Id → Option Nat} {log : List (Event service)} (hi : Inv s log owner)
    {e e' : Outbox} (he : e ∈ s.outbox.rows) (he' : e' ∈ s.outbox.rows)
    (ha : e.aggregateId = e'.aggregateId) (hc : e.event.isBookingConfirmed = true)
    (hc' : e'.event.isBookingConfirmed = true) : e = e' := by
  obtain ⟨r, hr, hset, -⟩ := hi.entries e he
  obtain ⟨hm, hid⟩ := Inv.mem_of_find hr
  have count := hi.confirmed r hm
  rw [hset, if_pos rfl, Db.countEvents, List.countP_eq_length_filter] at count
  obtain ⟨only, honly⟩ := List.length_eq_one_iff.mp count
  have mem : ∀ e'' ∈ s.outbox.rows, e''.aggregateId = r.id → e''.event.isBookingConfirmed = true →
      e'' = only := by
    intro e'' hm'' ha'' hc''
    have : e'' ∈ [only] := by
      rw [← honly]
      simp [hm'', ha'', hc'']
    exact List.mem_singleton.mp this
  rw [mem e he hid.symm hc, mem e' he' (ha ▸ hid.symm) hc']

/-- An entry whose booking was found bare is the entry of the dispatch. -/
theorem entry_of_bare {e : Outbox} (h : e ∈ w.bare) : w.entry = some e := by
  cases w <;> first | exact h | cases h

/-- Before a search for tickets comes the dispatch. -/
theorem entry_of_bare_next {a : sig.Answer o} {e : Outbox} (h : e ∈ (w.next o a).bare) :
    w.entry = some e := by
  by_cases ho : o.savesEntry = true
  · cases o with
    | saveEntry e' =>
      cases a with
      | ok u =>
        have h : e ∈ (if e'.status = .processing then Work.dispatching e' else .idle).bare := h
        split at h <;> cases h
      | error error =>
        have h : e ∈ (if e'.status = .completed then w else .idle).bare := h
        split at h
        · exact entry_of_bare h
        · cases h
    | _ => cases ho
  · rw [← entry_next (Bool.eq_false_iff.mpr ho) a]
    exact entry_of_bare h

namespace Found

/-- A dispatch that has not searched for tickets. -/
theorem of_bare (h : w.bare = none) : Found s w where
  bare e he := by
    rw [h] at he
    cases he
  loaded e items hw := by
    rw [hw] at h
    cases h

/-- What an operation tells is true. -/
theorem next (h : Found s w) (ha : w.Allows o) : Found s (w.next o (exec x o s).1) := by
  cases o with
  | saveEntry e =>
    cases (exec x (.saveEntry e) s).1 with
    | ok u =>
      show Found s (if e.status = .processing then Work.dispatching e else .idle)
      split <;> exact of_bare rfl
    | error error =>
      show Found s (if e.status = .completed then w else .idle)
      split
      · exact h
      · exact of_bare rfl
  | saveTickets tickets =>
    obtain ⟨e, items, rfl, -⟩ := ha
    cases (exec x (.saveTickets tickets) s).1 <;> exact of_bare rfl
  | findTickets b =>
    rcases exec_cases x (.findTickets b) s with ⟨-, error, he⟩ | he
    · rw [he]
      exact h
    · rw [he]
      cases w with
      | dispatching e =>
        obtain ⟨e', he', hb, hc⟩ := ha
        cases he'
        show Found s (if (s.tickets.rows.filter fun t ↦ t.bookingId = b) = [] then .unticketed e
          else .dispatching e)
        split
        · next hnil =>
          constructor
          · rintro e' ⟨⟩
            refine ⟨hc, ?_⟩
            unfold Db.ticketed
            rw [hb, hnil, List.map_nil]
          · rintro e' items ⟨⟩
        · exact of_bare rfl
      | _ => exact h
  | findBookingItems b =>
    rcases exec_cases x (.findBookingItems b) s with ⟨-, error, he⟩ | he
    · rw [he]
      exact h
    · rw [he]
      cases w with
      | unticketed e =>
        obtain ⟨e', he', hb, hc⟩ := ha
        cases he'
        show Found s (.ticketing e (s.itemsOf b))
        constructor
        · exact h.bare
        · rintro e' items ⟨⟩
          rw [hb]
      | _ => exact h
  | _ => exact h

/-- What a dispatch found stays true while the tickets and the items of the booking stay. -/
theorem keep (h : Found s w) {s' : Db} (hk : ∀ e ∈ w.bare,
    s'.ticketed e.aggregateId = s.ticketed e.aggregateId ∧
      s'.itemsOf e.aggregateId = s.itemsOf e.aggregateId) : Found s' w where
  bare e he := by
    rw [(hk e he).1]
    exact h.bare e he
  loaded e items hw := by
    have he : e ∈ w.bare := by
      rw [hw]
      rfl
    rw [(hk e he).2]
    exact h.loaded e items hw

end Found

namespace Ticketed

variable {owner owner' : Id → Option Nat}

private theorem threads_after {P : Db → Work → Prop} (t : Nat) (j : Job) (x : Choice) (o : Op)
    (self : P (c.after t j x o).state (work.next (work.state t c.log) o (c.answer x o)))
    (others : ∀ u, u ≠ t → P (c.after t j x o).state (work.state u c.log)) (u : Nat) :
    P (c.after t j x o).state (work.state u (c.after t j x o).log) := by
  by_cases hu : u = t
  · subst hu
    show P _ (work.state u (⟨u, j, o, c.answer x o⟩ :: c.log))
    rw [Monitor.state_self]
    exact self
  · show P _ (work.state u (⟨t, j, o, c.answer x o⟩ :: c.log))
    rw [Monitor.state_other _ (Ne.symm hu)]
    exact others u hu

/-- The items of an entry that is dispatched stay. -/
theorem items_kept (hc : Claims c) (hi : Inv c.state c.log owner)
    (hmove : Moves Mode.none ⟨t, j, o, c.answer x o⟩ c owner (c.after t j x o) owner')
    {u : Nat} {e : Outbox} (hu : dispatched u c.log = some e) :
    (c.after t j x o).state.itemsOf e.aggregateId = c.state.itemsOf e.aggregateId := by
  have hm := (Table.find_eq_some_iff.mp (hc.row u e hu).1).1
  obtain ⟨r, hr, -⟩ := hi.entries e hm
  exact hmove.items _ r hr

/-- An operation that issues no tickets keeps the bookings ticketed once. -/
theorem other (h : Ticketed c) (hc : Claims c) (hi : Inv c.state c.log owner)
    (hmove : Moves Mode.none ⟨t, j, o, c.answer x o⟩ c owner (c.after t j x o) owner')
    (ha : (work.state t c.log).Allows o)
    (ht : ∀ b, (c.after t j x o).state.ticketed b = c.state.ticketed b)
    (hn : ∀ ticket ∈ (c.after t j x o).state.tickets.rows,
      ticket.id < (c.after t j x o).state.nextId) : Ticketed (c.after t j x o) where
  numbered := hn
  issued b := by
    rw [ht]
    cases hb : c.state.bookings.find b with
    | some r =>
      rw [Db.ticketItems, hmove.items b r hb]
      exact h.issued b
    | none =>
      refine .inl ?_
      rcases h.issued b with hnil | hall
      · exact hnil
      · rw [hall, Db.ticketItems, hi.itemsOf_eq_nil hb]
        rfl
  threads := by
    apply threads_after
    · apply ((h.threads t).next ha).keep
      intro e he
      exact ⟨ht _, items_kept hc hi hmove (entry_of_bare_next he)⟩
    · intro u _
      apply (h.threads u).keep
      intro e he
      exact ⟨ht _, items_kept hc hi hmove (entry_of_bare he)⟩

/-- A dispatch that found no tickets saves one for each item. -/
theorem save (h : Ticketed c) (hc : Claims c) (hi : Inv c.state c.log owner)
    {tickets : List Ticket} (ha : (work.state t c.log).Allows (.saveTickets tickets))
    (he : exec x (.saveTickets tickets) c.state = perform x (.saveTickets tickets) c.state) :
    Ticketed (c.after t j x (.saveTickets tickets)) := by
  obtain ⟨e, read, hw, hitems, hce, hb⟩ := ha
  have hloaded := (h.threads t).loaded e _ hw
  have hnone := ((h.threads t).bare e (by rw [hw]; rfl)).2
  have hstate : (c.after t j x (.saveTickets tickets)).state =
      (perform x (.saveTickets tickets) c.state).2 := congrArg Prod.snd he
  have ticketed : ∀ b, (c.after t j x (.saveTickets tickets)).state.ticketed b =
      if b = e.aggregateId then c.state.ticketItems b else c.state.ticketed b := by
    intro b
    rw [hstate, ticketed_save h.numbered]
    by_cases hbe : b = e.aggregateId
    · rw [if_pos hbe, hbe, hnone, List.nil_append, List.filter_eq_self.mpr, hitems, hloaded]
      · rfl
      intro ticket hm
      simpa using hb ticket hm
    · rw [if_neg hbe, List.filter_eq_nil_iff.mpr, List.map_nil, List.append_nil]
      intro ticket hm
      simpa [hb ticket hm] using Ne.symm hbe
  have items : ∀ b, (c.after t j x (.saveTickets tickets)).state.itemsOf b = c.state.itemsOf b := by
    intro b
    rw [hstate]
    rfl
  have copies : ∀ b, (c.after t j x (.saveTickets tickets)).state.ticketItems b =
      c.state.ticketItems b := fun b ↦ congrArg _ (items b)
  constructor
  · exact numbered_exec x (.saveTickets tickets) h.numbered
  · intro b
    rw [ticketed, copies]
    by_cases hbe : b = e.aggregateId
    · rw [if_pos hbe]
      exact .inr rfl
    · rw [if_neg hbe]
      exact h.issued b
  · apply threads_after
    · rw [hw]
      cases c.answer x (.saveTickets tickets) <;> exact Found.of_bare rfl
    · intro u hu
      apply (h.threads u).keep
      intro e' he'
      refine ⟨?_, items _⟩
      rw [ticketed, if_neg]
      intro hab
      have ht : dispatched t c.log = some e := by
        unfold dispatched
        rw [hw]
        rfl
      have hu' : dispatched u c.log = some e' := entry_of_bare he'
      have same := sole_confirmed hi (Table.find_eq_some_iff.mp (hc.row u e' hu').1).1
        (Table.find_eq_some_iff.mp (hc.row t e ht).1).1 hab ((h.threads u).bare e' he').1 hce
      exact hc.apart u t e' e hu hu' ht (congrArg Outbox.id same)

/-- Every step keeps the tickets right. -/
theorem step (h : Ticketed c) (hc : Claims c) (hi : Inv c.state c.log owner)
    (hmove : Moves Mode.none ⟨t, j, o, c.answer x o⟩ c owner (c.after t j x o) owner')
    (ha : (work.state t c.log).Allows o) : Ticketed (c.after t j x o) := by
  by_cases ho : o.savesTickets = true
  · rcases exec_cases x o c.state with ⟨-, error, he⟩ | he
    · have hstate : (c.after t j x o).state = c.state := congrArg Prod.snd he
      apply h.other hc hi hmove ha
      · exact fun b ↦ by rw [hstate]
      · rw [hstate]
        exact h.numbered
    · cases o with
      | saveTickets tickets => exact h.save hc hi ha he
      | _ => cases ho
  · have ho : o.savesTickets = false := Bool.eq_false_iff.mpr ho
    apply h.other hc hi hmove ha
    · exact fun b ↦ ticketed_exec ho b
    · exact numbered_exec x o h.numbered

end Ticketed

/-! ### Runs -/

variable {p : Pool service}

/-- Every run in which entries are pending when they are marked keeps both. -/
theorem claims_of_reach (hp : Reach pendingClaims p) : Claims p.conf ∧ Ticketed p.conf := by
  induction hp with
  | start hs =>
    subst hs
    constructor
    · constructor
      · rintro t e h
        cases h
      · rintro t u e e' - h
        cases h
      · rintro ev h
        cases h
    · constructor
      · rintro ticket h
        cases h
      · exact fun b ↦ .inl rfl
      · exact fun t ↦ Found.of_bare rfl
  | spawn _ _ ih => exact ih
  | @run p t j x o k hp ht hm ih =>
    obtain ⟨hc, hk⟩ := ih
    have ha := (Monitor.watches_of_reach job_work hp).may ht
    obtain ⟨owner, owner', hi, hmove⟩ := reach_move (Reach.free hp) ht (x := x)
    exact ⟨hc.step hi.numbered ha hm, hk.step hc hi hmove ha⟩

/-- While entries are pending when they are marked, dispatch is exclusive. -/
theorem exclusive_when_pending (hp : Reach pendingClaims p) : Exclusive p.conf := by
  obtain ⟨hc, hk⟩ := claims_of_reach hp
  refine ⟨hc.apart, ?_, hk.issued⟩
  intro t e ht ev hev
  obtain ⟨hf, hst⟩ := hc.row t e ht
  by_contra hcomp
  obtain ⟨row, hrow, hdone⟩ := hc.done ev hev e.id (Bool.not_eq_false _ ▸ hcomp)
  rw [hf, Option.some.injEq] at hrow
  rw [← hrow, hst] at hdone
  cases hdone

/-- Thread `t` delivers the `seats.mark_sold` entry of a booking. -/
def deliverSale (t : Nat) : List (Label service) :=
  steps t [{}, { reply := .success true }] ++ quietSteps t 2

/-- Two ticks read the entries of a booking; each delivers them. -/
def overlappingTicks : List (Label service) :=
  sampleBooking 0 0 "A" ++ [.spawn .processOutbox, .spawn .processOutbox, .run 1 {}, .run 2 {}] ++
    deliverSale 1 ++ quietSteps 1 3 ++ deliverSale 2 ++ quietSteps 2 7 ++ quietSteps 1 4

/-- Two ticks that overlap issue two tickets for one item. -/
theorem overlapping_ticks_issue_twice :
    ¬ ∀ p, Reach (.free service) p → Exclusive p.conf := by
  have played : (Pool.play (.free service) overlappingTicks (.start Db.empty)).any fun p ↦
      !(p.conf.state.ticketed 0).isEmpty &&
        p.conf.state.ticketed 0 ≠ p.conf.state.ticketItems 0 := by
    decide +kernel
  simp only [Option.any_eq_true, Bool.and_eq_true, decide_eq_true_eq] at played
  obtain ⟨p, hp, hsome, htwo⟩ := played
  intro exclusive
  rcases (exclusive p (Pool.reach_of_play rfl hp)).tickets 0 with hnil | hall
  · simp [hnil] at hsome
  · exact htwo hall

/-- A tick that delivers the entries of a booking issues its ticket. -/
theorem exclusive_when_pending_delivered :
    ∃ p, Pool.play pendingClaims (sampleBooking 0 0 "A" ++ .spawn .processOutbox :: .run 1 {} ::
        deliverSale 1 ++ quietSteps 1 10) (.start Db.empty) = some p ∧
      p.conf.state.ticketed 0 ≠ [] ∧ Exclusive p.conf := by
  have played : (Pool.play pendingClaims (sampleBooking 0 0 "A" ++ .spawn .processOutbox ::
      .run 1 {} :: deliverSale 1 ++ quietSteps 1 10) (.start Db.empty)).any fun p ↦
        p.conf.state.ticketed 0 ≠ [] := by
    decide +kernel
  simp only [Option.any_eq_true, decide_eq_true_eq] at played
  obtain ⟨p, hp, hsome⟩ := played
  exact ⟨p, hp, hsome, exclusive_when_pending (Pool.reach_of_play rfl hp)⟩

end Ticketing.BookingService
