import Ticketing.BookingService.TransactionalOutbox

/-!
# Outbox rows that are done with

Library `BookingService`. A row that is completed or failed is not processed again as long as
ticks do not overlap. What the worker does for such a row lies in the past.
-/

namespace Ticketing.BookingService

open Async Store

/-- The worker is done with the row. -/
def Outbox.final (e : Outbox) : Bool := e.status = .completed || e.status = .failed

/-- The worker is done with the rows of a booking that have some kind of event. -/
def Db.Delivered (s : Db) (b : Id) (kind : OutboxEvent → Bool) : Prop :=
  ∀ e ∈ s.outbox.rows, e.aggregateId = b → kind e.event = true → e.final = true

instance (s : Db) (b : Id) (kind : OutboxEvent → Bool) : Decidable (s.Delivered b kind) := by
  unfold Db.Delivered
  infer_instance

/-- The mode of one outbox worker. -/
def Mode.worker : Mode := ⟨true, false⟩

/-- A confirmed booking is stored under this number. -/
def Db.Settled (s : Db) (b : Id) : Prop := ∃ r, s.bookings.find b = some r ∧ r.settled = true

/-- A row that is done with is not the one a tick works on. -/
theorem Outbox.not_processing {e : Outbox} (h : e.final = true) : e.status ≠ .processing := by
  intro hp
  simp [final, hp] at h

/-- No status follows a final one. -/
theorem Outbox.final_next {e e' : Outbox} (h : e.final = true)
    (hn : OutboxStatus.Next e.status e'.status) : False := by
  simp only [final, Bool.or_eq_true, decide_eq_true_eq] at h
  generalize e.status = a at h hn
  generalize e'.status = a' at hn
  cases hn <;> simp at h

section Move

variable {ev : Event service} {c c' : Conf service} {owner owner' : Id → Option Nat}

/-- Moves keep a settled booking settled. -/
theorem Moves.settled_kept {M : Mode} (hm : Moves M ev c owner c' owner') {b : Id}
    (h : c.state.Settled b) : c'.state.Settled b := by
  obtain ⟨r, hr, hs⟩ := h
  obtain ⟨r', hr', hs', -⟩ := hm.settled hr hs
  exact ⟨r', hr', hs'⟩

/-- Rows of a confirmed booking that are done with stay so, and only news of its refund are
added. -/
theorem Moves.delivered (hm : Moves Mode.worker ev c owner c' owner') {b : Id}
    {kind : OutboxEvent → Bool} (hk : ∀ v, kind v = true → v.isBookingRefunded = false)
    (hs : c.state.Settled b) (h : c.state.Delivered b kind) : c'.state.Delivered b kind := by
  intro e' he' hb hkind
  have hf' := Table.find_of_mem he'
  rcases hm.outbox e'.id with same | ⟨e'', hf'', move⟩
  · rw [same] at hf'
    exact h e' (Table.find_eq_some_iff.mp hf').1 hb hkind
  · rw [hf'] at hf''
    cases hf''
    cases move with
    | created absent status news =>
      obtain ⟨r, hr, hset⟩ := hs
      have := news r (hb ▸ hr) hset
      rw [hk _ hkind] at this
      cases this
    | @saved e _ job found event aggregate next =>
      have hfin : e.final = true :=
        h e (Table.find_eq_some_iff.mp found).1 (aggregate ▸ hb) (event ▸ hkind)
      exact (Outbox.final_next hfin (next rfl)).elim

end Move

section Run

variable {p : Pool service}

/-- Seats are released for confirmed bookings only. -/
theorem settled_of_released (hp : Reach Mode.worker.regime p) {b : Id}
    (h : Released p.conf.log b) : p.conf.state.Settled b := by
  induction hp with
  | start hs =>
    obtain ⟨t, j, e, ids, reply, hm⟩ := h
    cases hm
  | spawn _ _ ih => exact ih h
  | @run p t j x o k hp ht hm ih =>
    obtain ⟨owner, owner', hi, hmove⟩ := reach_move hp ht (x := x)
    obtain ⟨t', j', e, ids, reply, hmem⟩ := h
    rcases List.mem_cons.mp hmem with he | hmem
    · have acts := hmove.acts
      injection he with _ _ hop _
      subst hop
      obtain ⟨b', r, hb, hr, hset, -⟩ := acts
      cases hb
      exact hmove.settled_kept ⟨r, hr, hset⟩
    · exact hmove.settled_kept (ih ⟨t', j', e, ids, reply, hmem⟩)

/-- A commit leaves the tickets as they are. -/
theorem tickets_writes (writes : List Write) (s : Db) :
    (writes.foldl Db.write s).tickets = s.tickets := by
  induction writes generalizing s with
  | nil => rfl
  | cons w writes ih =>
    rw [List.foldl_cons, ih]
    cases w <;> rfl

/-- The tickets after `cancelByBooking`. -/
theorem mem_cancelled {s : Db} {b : Id} {ticket : Ticket}
    (h : ticket ∈ (s.tickets.putAll (s.tickets.rows.map (cancelTicket b))).rows) :
    ∃ old ∈ s.tickets.rows, ticket = cancelTicket b old := by
  have hid : ∀ t : Ticket, (cancelTicket b t).id = t.id := by
    intro t
    unfold cancelTicket
    split <;> rfl
  have hf := Table.find_of_mem h
  rw [Table.find_putAll_map _ _ hid, Option.map_eq_some_iff] at hf
  obtain ⟨old, hold, hc⟩ := hf
  exact ⟨old, (Table.find_eq_some_iff.mp hold).1, hc.symm⟩

/-- A ticket that is stored after an operation: it was stored before, it was stored before and
`cancelTickets` may have changed it, or it is one of the saved tickets. -/
theorem mem_tickets_exec {x : Choice} {o : Op} {s : Db} {ticket : Ticket}
    (h : ticket ∈ (exec x o s).2.tickets.rows) :
    ticket ∈ s.tickets.rows ∨
      (∃ b old, o = .cancelTickets b ∧ old ∈ s.tickets.rows ∧ ticket = cancelTicket b old) ∨
      ∃ rows, o = .saveTickets rows ∧ ticket ∈ numberedTickets s.nextId rows := by
  rcases exec_cases x o s with ⟨-, e, he⟩ | he
  · rw [he] at h
    exact .inl h
  · rw [he] at h
    cases o with
    | saveTickets rows =>
      rcases Table.mem_of_mem_putAll h with hn | ho
      · exact .inr (.inr ⟨rows, rfl, hn⟩)
      · exact .inl ho
    | cancelTickets b =>
      obtain ⟨old, hold, hc⟩ := mem_cancelled h
      exact .inr (.inl ⟨b, old, rfl, hold, hc⟩)
    | commit writes =>
      simp only [perform, tickets_writes] at h
      exact .inl h
    | _ => exact .inl h

/-- A ticket that is not active does not become active. -/
theorem cancelTicket_not_active {b c : Id} {ticket : Ticket}
    (h : ticket.bookingId = b → ticket.status ≠ .active)
    (hb : (cancelTicket c ticket).bookingId = b) : (cancelTicket c ticket).status ≠ .active := by
  unfold cancelTicket at hb ⊢
  split
  · intro hs
    cases hs
  · next hn =>
    rw [if_neg hn] at hb
    exact h hb

/-- A ticket of the cancelled booking is not active. -/
theorem cancelTicket_own {b : Id} {ticket : Ticket} (hb : (cancelTicket b ticket).bookingId = b) :
    (cancelTicket b ticket).status ≠ .active := by
  unfold cancelTicket at hb ⊢
  split
  · intro hs
    cases hs
  · next hn =>
    rw [if_neg hn] at hb
    exact fun hs ↦ hn ⟨hb, hs⟩

/-- A ticket that gets its number keeps its booking. -/
theorem bookingId_of_numbered {next b : Id} {rows : List Ticket}
    (h : ∀ ticket ∈ rows, ticket.bookingId = b) {ticket : Ticket}
    (hm : ticket ∈ numberedTickets next rows) : ticket.bookingId = b := by
  obtain ⟨i, hi, rfl⟩ := List.mem_mapIdx.mp hm
  exact h rows[i] (List.getElem_mem hi)

end Run

end Ticketing.BookingService
