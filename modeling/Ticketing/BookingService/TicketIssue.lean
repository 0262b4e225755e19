import Ticketing.Async.Triples
import Ticketing.BookingService.ExclusiveDispatch

/-!
# Tickets under redelivery

Library `BookingService`. Ticks that run one after another may dispatch a `booking.confirmed` entry
many times, and whatever fails, tickets may be cancelled between them. A dispatch issues tickets
only if the booking has none, all of them with one save.
-/

namespace Ticketing.BookingService

open Async Store

/-- `TicketService.cancelByBooking` (`ticket.service.ts:121–133`). -/
def cancelByBooking (bookingId : Id) : Code sig Unit Unit := await (.cancelTickets bookingId)

/-- What runs: a tick of the outbox worker or `cancelByBooking`, with what is decided at each
operation. -/
inductive Turn where
  | tick (x : Nat → Op → Choice)
  | cancelByBooking (bookingId : Id) (x : Nat → Op → Choice)

/-- The code of a turn. -/
def Turn.code : Turn → Code sig Unit Unit
  | .tick _ => processOutbox
  | .cancelByBooking b _ => BookingService.cancelByBooking b

/-- What is decided in a turn. -/
def Turn.choice : Turn → Nat → Op → Choice
  | .tick x | .cancelByBooking _ x => x

/-- The answers to the operations of a turn. -/
def Turn.handler (t : Turn) : Handler sig Db := fun n o s ↦ exec (t.choice n o) o s

/-- One turn, with the databases after each of its operations. -/
def Turn.run (t : Turn) (s : Db × List Db) : Db × List Db :=
  (t.code.exec t.handler.visiting 0 () s).state

/-- Turns one after another. -/
def runTurns (turns : List Turn) (s : Db × List Db) : Db × List Db :=
  turns.foldl (fun s t ↦ t.run s) s

/-- The booking has no tickets, or one for each of its items, with the data of the item. -/
def Issued (b : Id) (s : Db) : Prop := s.ticketed b = [] ∨ s.ticketed b = s.ticketItems b

/-- The booking's tickets are right now and were right in every database before; new tickets get new
numbers. -/
structure Issuing (b : Id) (s : Db × List Db) : Prop where
  visited : ∀ d ∈ s.2, Issued b d
  issued : Issued b s.1
  numbered : ∀ ticket ∈ s.1.tickets.rows, ticket.id < s.1.nextId

/-- The operation issues no tickets and inserts no items. -/
def Op.issuesNothing : Op → Bool
  | .saveTickets _ | .commit _ => false
  | _ => true

variable {b c : Id} {t : Turn} {s : Db × List Db} {n : Nat} {o : Op}

/-- An operation that issues nothing saves no tickets. -/
theorem Op.savesTickets_of_issuesNothing (ho : o.issuesNothing = true) :
    o.savesTickets = false := by
  cases o <;> first | rfl | cases ho

/-- An operation that issues nothing keeps the items of every booking. -/
theorem itemsOf_exec (ho : o.issuesNothing = true) (x : Choice) (s : Db) (c : Id) :
    (exec x o s).2.itemsOf c = s.itemsOf c := by
  rcases exec_cases x o s with ⟨-, e, he⟩ | he
  · rw [he]
  · rw [he]
    cases o <;> first | rfl | cases ho

/-- An operation that issues nothing keeps the tickets right. -/
theorem Issuing.quiet (h : Issuing b s) (ho : o.issuesNothing = true) :
    Issuing b (t.handler.visiting n o s).2 := by
  have now : Issued b (exec (t.choice n o) o s.1).2 := by
    unfold Issued
    rw [ticketed_exec (Op.savesTickets_of_issuesNothing ho), Db.ticketItems, itemsOf_exec ho]
    exact h.issued
  constructor
  · intro d hd
    rcases List.mem_cons.mp hd with rfl | hd
    · exact now
    · exact h.visited d hd
  · exact now
  · exact numbered_exec _ _ h.numbered

/-- The booking `c` has no tickets, and `items` are its items. -/
structure Bare (b c : Id) (items : List BookingItem) (s : Db × List Db) : Prop where
  issuing : Issuing b s
  none : s.1.ticketed c = []
  items : s.1.itemsOf c = items

/-- An operation that issues nothing keeps a bare booking bare. -/
theorem Bare.quiet {items : List BookingItem} (h : Bare b c items s) (ho : o.issuesNothing = true) :
    Bare b c items (t.handler.visiting n o s).2 where
  issuing := h.issuing.quiet ho
  none := (ticketed_exec (Op.savesTickets_of_issuesNothing ho) c).trans h.none
  items := (itemsOf_exec ho _ s.1 c).trans h.items

/-- A bare booking gets a ticket for each of its items. -/
theorem Bare.issue {items : List BookingItem} (h : Bare b c items s) {tickets : List Ticket}
    (hb : ∀ ticket ∈ tickets, ticket.bookingId = c)
    (hi : tickets.map Ticket.item = items.map BookingItem.toTicket) :
    Issuing b (t.handler.visiting n (.saveTickets tickets) s).2 := by
  have now : Issued b (exec (t.choice n (.saveTickets tickets)) (.saveTickets tickets) s.1).2 := by
    rcases exec_cases (t.choice n (.saveTickets tickets)) (.saveTickets tickets) s.1 with
      ⟨-, e, he⟩ | he
    · rw [he]
      exact h.issuing.issued
    · have items : (perform (t.choice n (.saveTickets tickets)) (.saveTickets tickets)
          s.1).2.ticketItems b = s.1.ticketItems b := rfl
      unfold Issued
      rw [he, ticketed_save h.issuing.numbered, items]
      by_cases hbc : b = c
      · subst hbc
        have all : tickets.filter (fun ticket ↦ ticket.bookingId = b) = tickets := by
          apply List.filter_eq_self.mpr
          intro ticket hm
          simpa using hb ticket hm
        right
        rw [h.none, all, hi, Db.ticketItems, h.items, List.nil_append]
      · have none : tickets.filter (fun ticket ↦ ticket.bookingId = b) = [] := by
          apply List.filter_eq_nil_iff.mpr
          intro ticket hm
          simpa [hb ticket hm] using Ne.symm hbc
        rw [none, List.map_nil, List.append_nil]
        exact h.issuing.issued
  constructor
  · intro d hd
    rcases List.mem_cons.mp hd with rfl | hd
    · exact now
    · exact h.issuing.visited d hd
  · exact now
  · exact numbered_exec _ _ h.issuing.numbered

/-! ### A dispatch -/

/-- An operation that issues nothing keeps what such operations keep. -/
theorem quiet_leaves {L : Type} {K : Db × List Db → Prop}
    (hk : ∀ n s, K s → K (t.handler.visiting n o s).2) :
    Code.Leaves t.handler.visiting (fun (_ : L) ↦ K) (BookingService.await o) (fun _ _ ↦ K)
      fun _ _ ↦ K := by
  apply Code.Leaves.await
  · intro n l s a s' h hr
    have kept := hk n s h
    rw [hr] at kept
    exact kept
  · intro n l s e s' h hr
    have kept := hk n s h
    rw [hr] at kept
    exact kept

/-- Awaiting such an operation keeps the tickets right. -/
theorem issuing_leaves {L : Type} (ho : o.issuesNothing = true) :
    Code.Leaves t.handler.visiting (fun (_ : L) ↦ Issuing b) (BookingService.await o)
      (fun _ _ ↦ Issuing b) fun _ _ ↦ Issuing b :=
  quiet_leaves fun _ _ h ↦ h.quiet ho

/-- Awaiting such an operation keeps the booking bare. -/
theorem bare_leaves {L : Type} {items : List BookingItem} (ho : o.issuesNothing = true) :
    Code.Leaves t.handler.visiting (fun (_ : L) ↦ Bare b c items) (BookingService.await o)
      (fun _ _ ↦ Bare b c items) fun _ _ ↦ Issuing b :=
  (quiet_leaves fun _ _ h ↦ h.quiet ho).post (fun _ _ _ h ↦ h) fun _ _ _ h ↦ h.issuing

/-- The new tickets are for the items of the booking. -/
theorem newTickets_leaves (items rest : List BookingItem) :
    Code.Leaves t.handler.visiting (fun _ ↦ Bare b c items) (newTickets c rest)
      (fun tickets _ s ↦ Bare b c items s ∧ (∀ ticket ∈ tickets, ticket.bookingId = c) ∧
        tickets.map Ticket.item = rest.map BookingItem.toTicket)
      fun _ _ ↦ Issuing b := by
  induction rest with
  | nil =>
    apply Code.Leaves.ret
    intro l s h
    exact ⟨h, by simp, rfl⟩
  | cons item rest ih =>
    apply Code.Leaves.bind (Q := fun _ _ ↦ Bare b c items)
    · unfold generateTicketCode
      apply Code.Leaves.bind (bare_leaves rfl)
      intro timestamp
      apply Code.Leaves.bind (bare_leaves rfl)
      exact fun random ↦ Code.Leaves.ret _ fun _ _ h ↦ h
    intro ticketCode
    apply Code.Leaves.bind (bare_leaves rfl)
    intro qrCodeData
    apply Code.Leaves.bind ih
    intro tickets
    apply Code.Leaves.ret
    rintro l s ⟨bare, hb, hi⟩
    refine ⟨bare, ?_, congrArg (item.toTicket :: ·) hi⟩
    intro ticket hm
    rcases List.mem_cons.mp hm with rfl | hm
    · rfl
    · exact hb ticket hm

/-- An operation that is answered had its effect. -/
theorem perform_of_answered {a : Res o} {s' : Db × List Db}
    (hr : t.handler.visiting n o s = (.ok a, s')) :
    perform (t.choice n o) o s.1 = (.ok a, s'.1) := by
  have answer : (exec (t.choice n o) o s.1).1 = .ok a := congrArg Prod.fst hr
  have state : (exec (t.choice n o) o s.1).2 = s'.1 :=
    congrArg (fun r : sig.Answer o × Db × List Db ↦ r.2.1) hr
  rcases exec_cases (t.choice n o) o s.1 with ⟨-, e, he⟩ | he
  · rw [he] at answer
    cases answer
  · rw [he] at answer state
    rw [← answer, ← state]

/-- `generateTicket` issues tickets to a booking without tickets only. -/
theorem generateTicket_leaves (c : Id) :
    Code.Leaves t.handler.visiting (fun _ ↦ Issuing b) (generateTicket c)
      (fun _ _ ↦ Issuing b) fun _ _ ↦ Issuing b := by
  apply Code.Leaves.bind (Q := fun existing _ s ↦ Issuing b s ∧
    (existing.length = 0 → s.1.ticketed c = []))
  · apply Code.Leaves.await
    · intro n l s existing s' h hr
      have kept := h.quiet (t := t) (n := n) (o := .findTickets c) rfl
      rw [hr] at kept
      refine ⟨kept, ?_⟩
      intro none
      have found := perform_of_answered hr
      have rows : s.1.tickets.rows.filter (fun ticket ↦ ticket.bookingId = c) = existing :=
        Except.ok.inj (congrArg Prod.fst found)
      have same : s.1 = s'.1 := congrArg Prod.snd found
      rw [Db.ticketed, ← same, rows, List.eq_nil_of_length_eq_zero none]
      rfl
    · intro n l s e s' h hr
      have kept := h.quiet (t := t) (n := n) (o := .findTickets c) rfl
      rw [hr] at kept
      exact kept
  intro existing
  split
  · exact Code.Leaves.ret _ fun _ _ h ↦ h.1
  · next empty =>
    apply Code.Leaves.bind (Q := fun items _ ↦ Bare b c items)
    · apply Code.Leaves.await
      · intro n l s items s' h hr
        have kept := h.1.quiet (t := t) (n := n) (o := .findBookingItems c) rfl
        rw [hr] at kept
        have found := perform_of_answered hr
        have all : s.1.itemsOf c = items := Except.ok.inj (congrArg Prod.fst found)
        have same : s.1 = s'.1 := congrArg Prod.snd found
        exact ⟨kept, same ▸ h.2 (by omega), same ▸ all⟩
      · intro n l s e s' h hr
        have kept := h.1.quiet (t := t) (n := n) (o := .findBookingItems c) rfl
        rw [hr] at kept
        exact kept
    intro items
    split
    · exact Code.Leaves.ret _ fun _ _ h ↦ h.issuing
    · apply Code.Leaves.bind (newTickets_leaves items items)
      intro tickets
      apply Code.Leaves.await
      · rintro n l s saved s' ⟨bare, hb, hi⟩ hr
        have kept := bare.issue (t := t) (n := n) hb hi
        rw [hr] at kept
        exact kept
      · rintro n l s e s' ⟨bare, hb, hi⟩ hr
        have kept := bare.issue (t := t) (n := n) hb hi
        rw [hr] at kept
        exact kept

/-- A dispatch keeps the tickets right, whatever fails. -/
theorem dispatch_leaves (entry : Outbox) :
    Code.Leaves t.handler.visiting (fun _ ↦ Issuing b) (processEntry entry)
      (fun _ _ ↦ Issuing b) fun _ _ ↦ Issuing b := by
  unfold processEntry
  split
  · unfold handleSeatsSold grpc
    apply Code.Leaves.bind (Q := fun _ _ ↦ Issuing b)
    · apply Code.Leaves.bind (issuing_leaves rfl)
      intro reply
      split
      · exact Code.Leaves.ret _ fun _ _ h ↦ h
      · exact Code.Leaves.raise _ fun _ _ h ↦ h
    · intro success
      split
      · exact Code.Leaves.ret _ fun _ _ h ↦ h
      · exact Code.Leaves.raise _ fun _ _ h ↦ h
  · apply Code.Leaves.bind (generateTicket_leaves entry.aggregateId)
    exact fun _ ↦ issuing_leaves rfl
  · exact issuing_leaves rfl
  · exact Code.Leaves.ret _ fun _ _ h ↦ h

/-- Saving the entry keeps the tickets right. -/
theorem saveEntity_leaves : Code.Leaves t.handler.visiting (fun _ ↦ Issuing b)
    (do BookingService.await (.saveEntry (← BookingService.entity)))
    (fun _ _ ↦ Issuing b) fun _ _ ↦ Issuing b := by
  apply Code.Leaves.bind (Q := fun _ _ ↦ Issuing b)
  · exact Code.Leaves.entity fun _ _ h ↦ h
  · exact fun _ ↦ issuing_leaves rfl

/-- Assigning the entity keeps the tickets right. -/
theorem assign_leaves (f : Outbox → Outbox) : Code.Leaves t.handler.visiting
    (fun _ ↦ Issuing b) (assign f) (fun _ _ ↦ Issuing b) fun _ _ ↦ Issuing b :=
  Code.Leaves.assign f fun _ _ h ↦ h

/-- Delivering an entry keeps the tickets right. -/
theorem completeEntry_issuing : Code.Leaves t.handler.visiting (fun _ ↦ Issuing b) completeEntry
    (fun _ _ ↦ Issuing b) fun _ _ ↦ Issuing b := by
  apply Code.Leaves.bind (Q := fun _ _ ↦ Issuing b) (Code.Leaves.entity fun _ _ h ↦ h)
  intro entry
  apply Code.Leaves.bind (Code.Leaves.on (dispatch_leaves entry))
  intro _
  apply Code.Leaves.bind (assign_leaves _)
  intro _
  apply Code.Leaves.bind (issuing_leaves rfl)
  intro now
  apply Code.Leaves.bind (assign_leaves _)
  exact fun _ ↦ saveEntity_leaves

/-- One round of the loop keeps the tickets right. -/
theorem processPending_issuing : Code.Leaves t.handler.visiting (fun _ ↦ Issuing b) processPending
    (fun _ _ ↦ Issuing b) fun _ _ ↦ Issuing b := by
  apply Code.Leaves.bind (assign_leaves _)
  intro _
  apply Code.Leaves.bind (Q := fun _ _ ↦ Issuing b) (Code.Leaves.entity fun _ _ h ↦ h)
  intro entry
  apply Code.Leaves.bind (issuing_leaves rfl)
  intro _
  apply Code.Leaves.tryCatch completeEntry_issuing
  intro error
  apply Code.Leaves.bind (assign_leaves _)
  intro _
  apply Code.Leaves.bind (assign_leaves _)
  exact fun _ ↦ saveEntity_leaves

/-- A tick keeps the tickets right. -/
theorem tick_leaves : Code.Leaves t.handler.visiting (fun _ ↦ Issuing b) processOutbox
    (fun _ _ ↦ Issuing b) fun _ _ ↦ Issuing b := by
  have each : ∀ entries, Code.Leaves t.handler.visiting (fun _ ↦ Issuing b) (processEach entries)
      (fun _ _ ↦ Issuing b) fun _ _ ↦ Issuing b := by
    intro entries
    induction entries with
    | nil => exact Code.Leaves.ret _ fun _ _ h ↦ h
    | cons entry rest ih =>
      apply Code.Leaves.bind (Code.Leaves.on processPending_issuing)
      exact fun _ ↦ ih
  apply Code.Leaves.bind (issuing_leaves rfl)
  exact each

/-! ### Runs -/

/-- A turn keeps the tickets right. -/
theorem Issuing.run (h : Issuing b s) (t : Turn) : Issuing b (t.run s) := by
  have left : Code.Leaves t.handler.visiting (fun (_ : Unit) ↦ Issuing b) t.code
      (fun _ _ ↦ Issuing b) fun _ _ ↦ Issuing b := by
    cases t with
    | tick x => exact tick_leaves
    | cancelByBooking c x => exact issuing_leaves rfl
  rcases left.outcome (n := 0) (l := ()) h with ⟨-, h'⟩ | ⟨-, h'⟩
  · exact h'
  · exact h'

/-- Whatever fails, and however often an entry is dispatched, a booking has no tickets or one for
each of its items after every operation. -/
theorem redelivery_keeps_tickets (turns : List Turn) (b : Id) {s : Db}
    (hn : ∀ ticket ∈ s.tickets.rows, ticket.id < s.nextId) (hs : Issued b s) :
    ∀ d ∈ (runTurns turns (s, [s])).2, Issued b d := by
  have kept : ∀ (turns : List Turn) {s : Db × List Db}, Issuing b s →
      Issuing b (runTurns turns s) := by
    intro turns
    induction turns with
    | nil => exact fun h ↦ h
    | cons t turns ih => exact fun h ↦ ih (h.run t)
  have start : Issuing b (s, [s]) := ⟨by simpa using hs, hs, hn⟩
  exact (kept turns start).visited

/-- A booking with one item, whose confirmation waits to be delivered. -/
def confirmedSeat : Db := { Db.empty with
  items := [⟨0, 0, 0, "A", "t", "std", "main", "1", "1", 1000, none, none⟩]
  outbox := Table.empty.put
    (.create 0 (.bookingConfirmed ⟨0, "BK", "u", "e", 1000, "TRY", none, []⟩))
  nextId := 1 }

/-- The tickets are stored but the save of the entry as `COMPLETED` fails; they are cancelled, and
the entry is dispatched again. -/
def redelivered : List Turn :=
  [.tick fun n _ ↦ if n = 10 then { fault := some (.failure "timeout") } else {},
    .cancelByBooking 0 fun _ _ ↦ {}, .tick fun _ _ ↦ {}]

/-- A second dispatch leaves the ticket of the first as it is. -/
theorem redelivery_keeps_tickets_cancelled :
    ∃ d ∈ (runTurns redelivered (confirmedSeat, [confirmedSeat])).2,
      Issued 0 d ∧ d.tickets.rows.any (fun ticket ↦ ticket.status = .cancelled) = true ∧
        d.outbox.rows.all (fun e ↦ e.status = .completed && e.retryCount = 1) = true := by
  have played : (runTurns redelivered (confirmedSeat, [confirmedSeat])).2.any fun d ↦
      d.tickets.rows.any (fun ticket ↦ ticket.status = .cancelled) &&
        d.outbox.rows.all (fun e ↦ e.status = .completed && e.retryCount = 1) := by
    decide +kernel
  rw [List.any_eq_true] at played
  obtain ⟨d, hd, both⟩ := played
  rw [Bool.and_eq_true] at both
  have none : Issued 0 confirmedSeat := .inl rfl
  have unticketed : ∀ ticket ∈ confirmedSeat.tickets.rows, ticket.id < confirmedSeat.nextId :=
    fun _ h ↦ absurd h List.not_mem_nil
  exact ⟨d, hd, redelivery_keeps_tickets redelivered 0 unticketed none d hd, both⟩

end Ticketing.BookingService
