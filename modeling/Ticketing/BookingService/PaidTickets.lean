import Ticketing.BookingService.Emissions
import Ticketing.BookingService.ExclusiveDispatch

/-!
# Tickets are paid for, and issued

Library `BookingService`. Tickets are stored by the dispatch of a confirmation only, for the items
that it has read, and a confirmation is completed only after that. Such an outbox row is stored
together with a booking that was charged, so every ticket is of a seat of a booking that was paid
for, and a booking whose confirmation is completed has a ticket for each of its seats.
-/

namespace Ticketing.BookingService

open Async Store

/-- The outbox rows that a thread has found, the items that it read last, and the bookings of which
it has found or stored the tickets. -/
structure Grounds where
  entries : List Outbox := []
  items : Option (Id × List BookingItem) := none
  issued : List Id := []

/-- Some row of a confirmation is of the booking. -/
def Confirms (entries : List Outbox) (b : Id) : Prop :=
  ∃ e ∈ entries, e.event.isBookingConfirmed = true ∧ e.aggregateId = b

namespace Grounds

/-- What an operation tells a thread. -/
def next : Grounds → (o : Op) → sig.Answer o → Grounds
  | s, .findPendingEntries, .ok entries => { s with entries }
  | s, .findTickets b, .ok tickets => if tickets = [] then s else { s with issued := b :: s.issued }
  | s, .findBookingItems b, .ok items =>
    { s with
      items := some (b, items)
      issued := if items = [] then b :: s.issued else s.issued }
  | s, .saveTickets _, .ok _ => { s with issued := (s.items.map Prod.fst).toList ++ s.issued }
  | s, _, _ => s

/-- Tickets are saved for a confirmation that was found, one for each item that was read, and the
confirmation is completed when there are tickets; new confirmations are pending. -/
def may (s : Grounds) : Op → Prop
  | .findBookingItems b => Confirms s.entries b
  | .saveTickets tickets => ∃ b items, Confirms s.entries b ∧
      (∀ ticket ∈ tickets, ticket.bookingId = b) ∧ s.items = some (b, items) ∧
      tickets.map Ticket.item = items.map BookingItem.toTicket
  | .saveEntry e => e.status = .completed → e.event.isBookingConfirmed = true →
      e.aggregateId ∈ s.issued
  | .commit writes => writes.all Write.inserts = true
  | _ => True

end Grounds

/-- What each thread knows when it issues tickets. -/
def grounds : Monitor service Grounds where
  init := {}
  next := Grounds.next
  may _ := Grounds.may

variable {j : Job} {L : Type}

private theorem inside_of_scope {α : Type} {c : Code sig L α} {scope : Op → Bool}
    (h : c.Awaits fun o : Op ↦ scope o = true)
    (apart : ∀ (o : Op) (s : Grounds), scope o = true → s.may o) :
    grounds.Keeps j (fun _ _ ↦ True) c :=
  Monitor.Holds.inside (h.mono fun o ho s _ ↦ ⟨apart o s ho, fun _ ↦ trivial⟩)

variable {entries : List Outbox}

/-- The thread has the rows that it found, and has read the items of a booking. -/
private def HasRead (entries : List Outbox) (b : Id) (items : List BookingItem) (s : Grounds) :
    Prop :=
  s.entries = entries ∧ s.items = some (b, items)

private theorem newTickets_grounds (b b' : Id) (read items : List BookingItem) :
    grounds.Holds j (fun (_ : Unit) ↦ HasRead entries b' read) (newTickets b items)
      (fun tickets _ s ↦ HasRead entries b' read s ∧
        tickets.map Ticket.item = items.map BookingItem.toTicket ∧
        ∀ ticket ∈ tickets, ticket.bookingId = b)
      fun _ _ ↦ (Grounds.entries · = entries) := by
  have aside : ∀ {o : Op}, grounds.Quiet j o →
      grounds.Holds j (fun (_ : Unit) ↦ HasRead entries b' read)
        (await o : Code sig Unit (Res o)) (fun _ _ ↦ HasRead entries b' read)
        fun _ _ ↦ (Grounds.entries · = entries) :=
    fun quiet ↦ (Monitor.Holds.quiet quiet).post (fun _ _ _ h ↦ h) fun _ _ _ h ↦ h.1
  induction items with
  | nil => exact Monitor.Holds.ret _ fun _ s h ↦ ⟨h, rfl, by simp⟩
  | cons item rest ih =>
    unfold newTickets
    apply Monitor.Holds.bind (I := fun _ _ ↦ HasRead entries b' read)
    · unfold generateTicketCode
      apply Monitor.Holds.bind (aside (o := .now) fun _ ↦ ⟨trivial, fun _ ↦ rfl⟩)
      intro timestamp
      apply Monitor.Holds.bind (aside (o := .random) fun _ ↦ ⟨trivial, fun _ ↦ rfl⟩)
      exact fun random ↦ Monitor.Holds.ret _ fun _ _ h ↦ h
    intro code
    apply Monitor.Holds.bind
      (aside (o := .toDataURL code item) fun _ ↦ ⟨trivial, fun _ ↦ rfl⟩)
    intro data
    apply Monitor.Holds.bind ih
    intro tickets
    apply Monitor.Holds.ret
    rintro l s ⟨read, same, own⟩
    refine ⟨read, congrArg (item.toTicket :: ·) same, fun ticket ht ↦ ?_⟩
    rcases List.mem_cons.mp ht with rfl | ht
    · rfl
    · exact own ticket ht

private theorem generateTicket_grounds {b : Id} (hb : Confirms entries b) :
    grounds.Holds j (fun (_ : Unit) ↦ (Grounds.entries · = entries)) (generateTicket b)
      (fun _ _ s ↦ s.entries = entries ∧ b ∈ s.issued) fun _ _ ↦ (Grounds.entries · = entries) := by
  unfold generateTicket
  apply Monitor.Holds.bind
    (I := fun existing _ s ↦ s.entries = entries ∧ (existing ≠ [] → b ∈ s.issued))
  · apply Monitor.Holds.await
    · exact fun _ _ _ ↦ trivial
    · intro existing l s _ h
      show (Grounds.next s (.findTickets b) (.ok existing)).entries = _ ∧
        (existing ≠ [] → b ∈ (Grounds.next s (.findTickets b) (.ok existing)).issued)
      cases existing with
      | nil => simpa [Grounds.next] using h
      | cons ticket rest => simpa [Grounds.next] using h
    · exact fun _ _ _ _ h ↦ h
  intro existing
  split
  · next some =>
    apply Monitor.Holds.ret
    rintro l s ⟨h, known⟩
    exact ⟨h, known (List.ne_nil_of_length_pos some)⟩
  · apply Monitor.Holds.bind
      (I := fun items _ s ↦ HasRead entries b items s ∧ (items = [] → b ∈ s.issued))
    · apply Monitor.Holds.await
      · rintro l s ⟨rfl, -⟩
        exact hb
      · rintro items l s - ⟨h, -⟩
        refine ⟨⟨h, rfl⟩, ?_⟩
        rintro rfl
        exact List.mem_cons_self
      · exact fun _ _ _ _ h ↦ h.1
    intro items
    split
    · next none =>
      apply Monitor.Holds.ret
      rintro l s ⟨⟨h, -⟩, known⟩
      exact ⟨h, known (List.length_eq_zero_iff.mp none)⟩
    · apply Monitor.Holds.pre (P := fun _ ↦ HasRead entries b items) _ fun _ _ h ↦ h.1
      apply Monitor.Holds.bind (newTickets_grounds b b items items)
      intro tickets
      apply Monitor.Holds.await
      · rintro l s ⟨⟨rfl, read⟩, same, own⟩
        exact ⟨b, items, hb, own, read, same⟩
      · rintro saved l s - ⟨⟨h, read⟩, -⟩
        refine ⟨h, ?_⟩
        show b ∈ (s.items.map Prod.fst).toList ++ s.issued
        simp [read]
      · exact fun _ _ _ _ h ↦ h.1.1

/-- The tickets of a confirmation that is processed are there. -/
private def HasTickets (l : Outbox) (s : Grounds) : Prop :=
  l.event.isBookingConfirmed = true → l.aggregateId ∈ s.issued

private theorem processEntry_grounds {l : Outbox} (hl : WasFound entries l) :
    grounds.Holds j (fun (_ : Unit) ↦ (Grounds.entries · = entries)) (processEntry l)
      (fun _ _ s ↦ s.entries = entries ∧ HasTickets l s)
      fun _ _ ↦ (Grounds.entries · = entries) := by
  obtain ⟨e, he, same, aggregate⟩ := hl
  unfold processEntry
  split
  · next event =>
    have other : ∀ s, HasTickets l s := fun s confirms ↦ by
      rw [event] at confirms
      cases confirms
    unfold handleSeatsSold
    apply Monitor.Holds.bind (I := fun _ _ ↦ (Grounds.entries · = entries))
    · exact Monitor.Holds.inside (grpc_awaits fun _ hs ↦ ⟨trivial, fun _ ↦ hs⟩)
    intro success
    split
    · exact Monitor.Holds.ret _ fun _ s hs ↦ ⟨hs, other s⟩
    · exact Monitor.Holds.raise _ fun _ _ hs ↦ hs
  · next payload event =>
    have found : Confirms entries l.aggregateId :=
      ⟨e, he, by rw [← same, event]; rfl, aggregate.symm⟩
    unfold handleBookingConfirmed
    apply Monitor.Holds.bind (generateTicket_grounds found)
    intro _
    apply Monitor.Holds.await
    · exact fun _ _ _ ↦ trivial
    · exact fun _ _ _ _ h ↦ ⟨h.1, fun _ ↦ h.2⟩
    · exact fun _ _ _ _ h ↦ h.1
  · next event =>
    have other : ∀ s, HasTickets l s := fun s confirms ↦ by
      rw [event] at confirms
      cases confirms
    apply Monitor.Holds.await
    · exact fun _ _ _ ↦ trivial
    · exact fun _ _ s _ h ↦ ⟨h, other _⟩
    · exact fun _ _ _ _ h ↦ h
  · next event =>
    apply Monitor.Holds.ret
    refine fun _ s hs ↦ ⟨hs, fun confirms ↦ ?_⟩
    rw [event] at confirms
    cases confirms

private theorem rounds_grounds :
    Rounds grounds j (Grounds.entries · = entries) (WasFound entries) HasTickets where
  dispatch _ found := processEntry_grounds found
  may _ _ _ _ ready := ready
  saved _ _ a known := by cases a <;> exact known
  now _ := ⟨trivial, fun _ ↦ rfl⟩
  row_congr l l' event aggregate := WasFound.congr event aggregate
  done_congr l l' s event aggregate tickets := by
    unfold HasTickets
    rwa [event, aggregate]

/-- Every job stores tickets for what it has found. -/
theorem job_grounds (j : Job) :
    grounds.Obeys j (service.code j) (fun _ _ ↦ True) grounds.init := by
  have creates : ∀ (o : Op) (s : Grounds), o.creates = true → s.may o := by
    intro o s h
    cases o <;> trivial
  have refunds : ∀ (o : Op) (s : Grounds), o.refunds = true → s.may o := by
    intro o s h
    cases o <;> trivial
  have keeps : grounds.Keeps j (fun (_ : Unit) _ ↦ True) j.run := by
    cases j with
    | processOutbox =>
      apply Monitor.Holds.bind (I := fun _ _ _ ↦ True)
      · unfold processOutbox
        apply Monitor.Holds.bind (I := fun found _ s ↦ s.entries = found)
        · exact Monitor.Holds.await (fun _ _ _ ↦ trivial) (fun _ _ _ _ _ ↦ rfl)
            fun _ _ _ _ _ ↦ trivial
        intro found
        exact (rounds_grounds.processEach fun _ h ↦ ⟨_, h, rfl, rfl⟩).post (fun _ _ _ _ ↦ trivial)
          fun _ _ _ _ ↦ trivial
      · exact fun _ ↦ Monitor.Holds.ret _ fun _ _ _ ↦ trivial
    | createBooking dto =>
      exact inside_of_scope (job_awaits (.createBooking dto)) creates
    | cancelBooking b userId key reason =>
      exact inside_of_scope (job_awaits (.cancelBooking b userId key reason)) refunds
    | recoveryStuckRefunds =>
      exact inside_of_scope (job_awaits .recoveryStuckRefunds) refunds
  exact Monitor.obeys_prog.mpr (keeps () grounds.init trivial)

/-! ### What the tickets are for -/

/-- The booking is stored and was paid for, and the item is one of its own. -/
def PaidFor (c : Conf service) (b : Id) (item : TicketItem) : Prop :=
  (∃ r, c.state.bookings.find b = some r ∧ r.settled = true) ∧ item ∈ c.state.ticketItems b

/-- The booking is stored, and has these items. -/
def HasItems (c : Conf service) (b : Id) (items : List BookingItem) : Prop :=
  (∃ r, c.state.bookings.find b = some r) ∧ c.state.itemsOf b = items

/-- The booking is stored, and each of its items has a ticket. -/
def FullyIssued (c : Conf service) (b : Id) : Prop :=
  (∃ r, c.state.bookings.find b = some r) ∧ c.state.ticketItems b ⊆ c.state.ticketed b

/-- What a thread knows when it issues tickets. -/
private abbrev knows (t : Nat) (log : List (Event service)) : Grounds := grounds.state t log

/-- What holds of the tickets. -/
private structure Grounded (c : Conf service) : Prop where
  numbered : ∀ ticket ∈ c.state.tickets.rows, ticket.id < c.state.nextId
  paid : ∀ b, ∀ item ∈ c.state.ticketed b, PaidFor c b item
  /-- Tickets of a booking come together. -/
  all : ∀ b, c.state.ticketed b ≠ [] → FullyIssued c b
  entries : ∀ t, ∀ e ∈ (knows t c.log).entries, EntryOk c.state e
  items : ∀ t b items, (knows t c.log).items = some (b, items) → HasItems c b items
  issued : ∀ t, ∀ b ∈ (knows t c.log).issued, FullyIssued c b
  completed : ∀ e ∈ c.state.outbox.rows, e.status = .completed →
    e.event.isBookingConfirmed = true → FullyIssued c e.aggregateId

variable {M : Mode} {c c' : Conf service} {owner owner' : Id → Option Nat}

/-- The tickets of a stored booking are to be for the same items. -/
theorem Moves.ticketItems {ev : Event service} (h : Moves M ev c owner c' owner') {b : Id}
    {r : Booking} (hr : c.state.bookings.find b = some r) :
    c'.state.ticketItems b = c.state.ticketItems b :=
  congrArg _ (h.items b r hr)

/-- Moves keep a booking's items paid for. -/
theorem Moves.paidFor {ev : Event service} (h : Moves M ev c owner c' owner') {b : Id}
    {item : TicketItem} (hp : PaidFor c b item) : PaidFor c' b item := by
  obtain ⟨⟨r, hr, settled⟩, hm⟩ := hp
  obtain ⟨r', hr', settled', -⟩ := h.settled hr settled
  exact ⟨⟨r', hr', settled'⟩, by rwa [h.ticketItems hr]⟩

/-- A stored booking keeps its items. -/
theorem Moves.hasItems {ev : Event service} (h : Moves M ev c owner c' owner') {b : Id}
    {items : List BookingItem} (hi : HasItems c b items) : HasItems c' b items := by
  obtain ⟨⟨r, hr⟩, same⟩ := hi
  exact ⟨h.stored hr, (h.items b r hr).trans same⟩

/-- Tickets that were issued stay so. -/
theorem Moves.issued {ev : Event service} (h : Moves M ev c owner c' owner') {b : Id}
    (kept : c.state.ticketed b ⊆ c'.state.ticketed b) (hi : FullyIssued c b) :
    FullyIssued c' b := by
  obtain ⟨⟨r, hr⟩, all⟩ := hi
  exact ⟨h.stored hr, by rw [h.ticketItems hr]; exact List.Subset.trans all kept⟩

private theorem after_cases (c : Conf service) (t : Nat) (j : Job) (x : Choice) (o : Op) :
    (∃ e, c.answer x o = .error e ∧ (c.after t j x o).state = c.state) ∨
      (c.answer x o = (perform x o c.state).1 ∧
        (c.after t j x o).state = (perform x o c.state).2) := by
  rcases exec_cases x o c.state with ⟨-, e, he⟩ | he
  · exact .inl ⟨e, congrArg Prod.fst he, congrArg Prod.snd he⟩
  · exact .inr ⟨congrArg Prod.fst he, congrArg Prod.snd he⟩

/-- An operation that fails gives no ground to issue tickets. -/
theorem Grounds.next_error (s : Grounds) (o : Op) (e : Exception) : s.next o (.error e) = s := by
  cases o <;> rfl

namespace Grounded

variable {t : Nat} {j : Job} {x : Choice} {o : Op}

private theorem kept (h : Grounded c) (b : Id) :
    c.state.ticketed b ⊆ (c.after t j x o).state.ticketed b := by
  rcases after_cases c t j x o with ⟨e, -, hs⟩ | ⟨-, hs⟩
  · rw [hs]
    exact List.Subset.refl _
  · cases saves : o.savesTickets with
    | false => exact (ticketed_exec (x := x) saves b) ▸ List.Subset.refl _
    | true =>
      cases o with
      | saveTickets tickets =>
        rw [hs, ticketed_save h.numbered]
        exact List.subset_append_left _ _
      | _ => cases saves

private theorem known {u : Nat} {P : Grounds → Prop} (old : P (knows u c.log))
    (own : u = t → c.answer x o = (perform x o c.state).1 →
      (c.after t j x o).state = (perform x o c.state).2 →
      P ((knows u c.log).next o (perform x o c.state).1)) :
    P (knows u (c.after t j x o).log) := by
  by_cases hu : u = t
  · subst hu
    have self : knows u (c.after u j x o).log = (knows u c.log).next o (c.answer x o) :=
      Monitor.state_self grounds u j o _ c.log
    rw [self]
    rcases after_cases c u j x o with ⟨e, ha, -⟩ | ⟨ha, hs⟩
    · rw [ha, Grounds.next_error]
      exact old
    · rw [ha]
      exact own rfl ha hs
  · have other : knows u (c.after t j x o).log = knows u c.log :=
      Monitor.state_other grounds (Ne.symm hu)
    rw [other]
    exact old

private theorem saved (h : Grounded c) {tickets : List Ticket}
    (may : (knows t c.log).may (.saveTickets tickets)) :
    ∃ b r, c.state.bookings.find b = some r ∧ r.settled = true ∧
      (∀ ticket ∈ tickets, ticket.bookingId = b) ∧
      c.state.ticketItems b = tickets.map Ticket.item ∧
      (knows t c.log).items.map Prod.fst = some b := by
  obtain ⟨b, items, ⟨e, he, -, rfl⟩, own, read, same⟩ := may
  obtain ⟨r, hr, settled, -⟩ := h.entries t e he
  refine ⟨e.aggregateId, r, hr, settled, own, ?_, by rw [read]; rfl⟩
  rw [same, Db.ticketItems, (h.items t _ _ read).2]

private theorem ticketed_after (h : Grounded c) {b : Id} {item : TicketItem}
    (hm : item ∈ (c.after t j x o).state.ticketed b) :
    item ∈ c.state.ticketed b ∨ ∃ tickets, o = .saveTickets tickets ∧
      (c.after t j x o).state = (perform x o c.state).2 ∧
      ∃ ticket ∈ tickets, ticket.bookingId = b ∧ ticket.item = item := by
  rcases after_cases c t j x o with ⟨e, -, hs⟩ | ⟨-, hs⟩
  · rw [hs] at hm
    exact .inl hm
  · cases saves : o.savesTickets with
    | false => exact .inl ((ticketed_exec (x := x) saves b) ▸ hm)
    | true =>
      cases o with
      | saveTickets tickets =>
        rw [hs, ticketed_save h.numbered] at hm
        rcases List.mem_append.mp hm with old | new
        · exact .inl old
        · obtain ⟨ticket, ht, rfl⟩ := List.mem_map.mp new
          obtain ⟨mem, booking⟩ := List.mem_filter.mp ht
          exact .inr ⟨tickets, rfl, hs, ticket, mem, of_decide_eq_true booking, rfl⟩
      | _ => cases saves

private theorem issued_of_saved (h : Grounded c) {tickets : List Ticket}
    {owner owner' : Id → Option Nat}
    (hm : Moves M ⟨t, j, .saveTickets tickets, c.answer x (.saveTickets tickets)⟩ c owner
      (c.after t j x (.saveTickets tickets)) owner')
    (hs : (c.after t j x (.saveTickets tickets)).state =
      (perform x (.saveTickets tickets) c.state).2)
    {b : Id} {r : Booking} (hr : c.state.bookings.find b = some r)
    (own : ∀ ticket ∈ tickets, ticket.bookingId = b)
    (items : c.state.ticketItems b = tickets.map Ticket.item) :
    FullyIssued (c.after t j x (.saveTickets tickets)) b := by
  refine ⟨hm.stored hr, ?_⟩
  rw [hm.ticketItems hr, items, hs, ticketed_save h.numbered]
  intro item hitem
  obtain ⟨ticket, ht, rfl⟩ := List.mem_map.mp hitem
  apply List.mem_append_right
  exact List.mem_map_of_mem (List.mem_filter.mpr ⟨ht, decide_eq_true (own ticket ht)⟩)

private theorem paid_step (h : Grounded c)
    (hm : Moves M ⟨t, j, o, c.answer x o⟩ c owner (c.after t j x o) owner')
    (may : (knows t c.log).may o) (b : Id) :
    ∀ item ∈ (c.after t j x o).state.ticketed b, PaidFor (c.after t j x o) b item := by
  intro item hitem
  apply hm.paidFor
  rcases h.ticketed_after hitem with old | ⟨tickets, rfl, -, ticket, ht, rfl, rfl⟩
  · exact h.paid b item old
  · obtain ⟨b, r, hr, settled, own, items, -⟩ := h.saved may
    rw [own ticket ht]
    exact ⟨⟨r, hr, settled⟩, items ▸ List.mem_map_of_mem ht⟩

private theorem all_step (h : Grounded c)
    (hm : Moves M ⟨t, j, o, c.answer x o⟩ c owner (c.after t j x o) owner')
    (may : (knows t c.log).may o) {b : Id} (some : (c.after t j x o).state.ticketed b ≠ []) :
    FullyIssued (c.after t j x o) b := by
  obtain ⟨item, hitem⟩ := List.exists_mem_of_ne_nil _ some
  rcases h.ticketed_after hitem with old | ⟨tickets, rfl, hs, ticket, ht, rfl, -⟩
  · exact hm.issued (h.kept b) (h.all b (List.ne_nil_of_mem old))
  · obtain ⟨b, r, hr, -, own, items, -⟩ := h.saved may
    rw [own ticket ht]
    exact h.issued_of_saved hm hs hr own items

private theorem entries_step (h : Grounded c) (hi : Inv c.state c.log owner)
    (hm : Moves M ⟨t, j, o, c.answer x o⟩ c owner (c.after t j x o) owner') (u : Nat)
    (e : Outbox) :
    e ∈ (knows u (c.after t j x o).log).entries → EntryOk (c.after t j x o).state e := by
  apply known (P := fun s ↦ e ∈ s.entries → EntryOk _ e)
  · exact fun he ↦ hm.entryOk (h.entries u e he)
  · intro hu ha hs he
    apply hm.entryOk
    cases o with
    | findPendingEntries =>
      exact hi.entries e (List.mem_of_mem_filter (List.mem_of_mem_take he))
    | findTickets b =>
      simp only [Grounds.next, perform] at he
      split at he <;> exact h.entries u e he
    | _ => exact h.entries u e he

private theorem items_step (h : Grounded c)
    (hm : Moves M ⟨t, j, o, c.answer x o⟩ c owner (c.after t j x o) owner')
    (may : (knows t c.log).may o) (u : Nat) (b : Id) (items : List BookingItem) :
    (knows u (c.after t j x o).log).items = some (b, items) →
      HasItems (c.after t j x o) b items := by
  apply known (P := fun s ↦ s.items = some (b, items) → HasItems _ b items)
  · exact fun hb ↦ hm.hasItems (h.items u b items hb)
  · rintro rfl ha hs hb
    apply hm.hasItems
    cases o with
    | findBookingItems b' =>
      cases hb
      obtain ⟨e, he, -, rfl⟩ := may
      obtain ⟨r, hr, -⟩ := h.entries u e he
      exact ⟨⟨r, hr⟩, rfl⟩
    | findTickets b' =>
      simp only [Grounds.next, perform] at hb
      split at hb <;> exact h.items u b items hb
    | _ => exact h.items u b items hb

private theorem issued_step (h : Grounded c)
    (hm : Moves M ⟨t, j, o, c.answer x o⟩ c owner (c.after t j x o) owner')
    (may : (knows t c.log).may o) (u : Nat) (b : Id) :
    b ∈ (knows u (c.after t j x o).log).issued → FullyIssued (c.after t j x o) b := by
  have issued : ∀ b, FullyIssued c b → FullyIssued (c.after t j x o) b :=
    fun b ↦ hm.issued (h.kept b)
  apply known (P := fun s ↦ b ∈ s.issued → FullyIssued _ b)
  · exact fun hb ↦ issued b (h.issued u b hb)
  · rintro rfl ha hs hb
    cases o with
    | findTickets b' =>
      simp only [Grounds.next, perform] at hb
      split at hb
      · exact issued b (h.issued u b hb)
      · next some =>
        rcases List.mem_cons.mp hb with rfl | hb
        · exact issued b (h.all b fun none ↦ some (List.map_eq_nil_iff.mp none))
        · exact issued b (h.issued u b hb)
    | findBookingItems b' =>
      simp only [Grounds.next, perform] at hb
      split at hb
      · next none =>
        rcases List.mem_cons.mp hb with rfl | hb
        · obtain ⟨e, he, -, rfl⟩ := may
          obtain ⟨r, hr, -⟩ := h.entries u e he
          have empty : c.state.ticketItems e.aggregateId = [] := List.map_eq_nil_iff.mpr none
          exact issued _ ⟨⟨r, hr⟩, empty ▸ List.nil_subset _⟩
        · exact issued b (h.issued u b hb)
      · exact issued b (h.issued u b hb)
    | saveTickets tickets =>
      rcases List.mem_append.mp hb with new | hb
      · obtain ⟨b', r, hr, -, own, items, read⟩ := h.saved may
        rw [read] at new
        obtain rfl := List.mem_singleton.mp new
        exact h.issued_of_saved hm hs hr own items
      · exact issued b (h.issued u b hb)
    | _ => exact issued b (h.issued u b hb)

private theorem completed_step (h : Grounded c)
    (hm : Moves M ⟨t, j, o, c.answer x o⟩ c owner (c.after t j x o) owner')
    (may : (knows t c.log).may o) {e : Outbox} (he : e ∈ (c.after t j x o).state.outbox.rows)
    (completed : e.status = .completed) (confirms : e.event.isBookingConfirmed = true) :
    FullyIssued (c.after t j x o) e.aggregateId := by
  apply hm.issued (h.kept _)
  rcases after_cases c t j x o with ⟨_, -, hs⟩ | ⟨-, hs⟩
  · rw [hs] at he
    exact h.completed e he completed confirms
  · rw [hs] at he
    rcases mem_outbox_perform he with old | rfl | ⟨writes, e₀, rfl, hw, -, -, status⟩
    · exact h.completed e old completed confirms
    · exact h.issued t _ (may completed confirms)
    · have pending : e₀.status = .pending := of_decide_eq_true (List.all_eq_true.mp may _ hw)
      rw [status, pending] at completed
      cases completed

private theorem step (h : Grounded c) (hi : Inv c.state c.log owner)
    (hm : Moves M ⟨t, j, o, c.answer x o⟩ c owner (c.after t j x o) owner')
    (may : (knows t c.log).may o) : Grounded (c.after t j x o) where
  numbered := numbered_exec x o h.numbered
  paid := h.paid_step hm may
  all _ := h.all_step hm may
  entries := h.entries_step hi hm
  items := h.items_step hm may
  issued := h.issued_step hm may
  completed _ := h.completed_step hm may

end Grounded

variable {p : Pool service}

private theorem grounded_of_reach (hp : Reach Mode.none.regime p) : Grounded p.conf := by
  induction hp with
  | start hs =>
    subst hs
    constructor
    case numbered | completed =>
      intro _ hm
      cases hm
    case all => exact fun _ some ↦ absurd rfl some
    case items =>
      intro t b items hb
      cases hb
    case paid | entries | issued =>
      intro _ _ hm
      cases hm
  | spawn _ _ ih => exact ih
  | @run p t j x o k hp ht hmay ih =>
    obtain ⟨owner, owner', before, move⟩ := reach_move (x := x) hp ht
    have watched := Monitor.watches_of_reach (Q := fun _ _ _ ↦ True) job_grounds hp
    exact ih.step before move (watched.may ht)

/-- Every ticket is of an item of a booking that was paid for. -/
theorem paidFor_of_reach (hp : Reach Mode.none.regime p) {ticket : Ticket}
    (ht : ticket ∈ p.conf.state.tickets.rows) :
    PaidFor p.conf ticket.bookingId ticket.item := by
  apply (grounded_of_reach hp).paid
  exact List.mem_map_of_mem (List.mem_filter.mpr ⟨ht, decide_eq_true rfl⟩)

/-- Whatever fails and however the jobs interleave, a ticket is of an item of a stored booking that
was confirmed and charged for its total. -/
theorem tickets_paid (hp : Reach (.free service) p) {ticket : Ticket}
    (ht : ticket ∈ p.conf.state.tickets.rows) :
    ∃ r, p.conf.state.bookings.find ticket.bookingId = some r ∧ r.settled = true ∧
      Paid p.conf.log r ∧ ∃ item ∈ p.conf.state.itemsOf r.id, ticket.item = item.toTicket := by
  obtain ⟨⟨r, hr, settled⟩, copied⟩ := paidFor_of_reach hp.free ht
  obtain ⟨owner, hi⟩ := reach_inv hp.free
  obtain ⟨stored, id⟩ := Inv.mem_of_find hr
  obtain ⟨item, mem, same⟩ := List.mem_map.mp copied
  exact ⟨r, hr, settled, (hi.rows r stored).paid settled, item, by rwa [id], same.symm⟩

/-- A booking whose confirmation is completed has a ticket for each of its items, whatever failed
and however the jobs interleave. -/
theorem completed_ticketed (hp : Reach (.free service) p) {e : Outbox}
    (he : e ∈ p.conf.state.outbox.rows) (completed : e.status = .completed)
    (confirms : e.event.isBookingConfirmed = true) :
    ∀ item ∈ p.conf.state.itemsOf e.aggregateId, ∃ ticket ∈ p.conf.state.tickets.rows,
      ticket.bookingId = e.aggregateId ∧ ticket.item = item.toTicket := by
  intro item hitem
  have issued := (grounded_of_reach hp.free).completed e he completed confirms
  obtain ⟨ticket, ht, same⟩ := List.mem_map.mp (issued.2 (List.mem_map_of_mem hitem))
  obtain ⟨stored, booking⟩ := List.mem_filter.mp ht
  exact ⟨ticket, stored, of_decide_eq_true booking, same⟩

/-- The ticket of a confirmed booking is paid for. -/
theorem tickets_paid_confirmed :
    ∃ p, Pool.play (.free service) sampleDelivery (.start Db.empty) = some p ∧
      ∃ ticket ∈ p.conf.state.tickets.rows, ticket.seatId = "A" ∧
        ∃ r, p.conf.state.bookings.find ticket.bookingId = some r ∧ r.settled = true ∧
          Paid p.conf.log r ∧ ∃ item ∈ p.conf.state.itemsOf r.id, ticket.item = item.toTicket := by
  have played : (Pool.play (.free service) sampleDelivery (.start Db.empty)).any
      fun p ↦ p.conf.state.tickets.rows.any fun ticket ↦ ticket.seatId = "A" := by
    decide +kernel
  simp only [Option.any_eq_true, List.any_eq_true, decide_eq_true_eq] at played
  obtain ⟨p, hp, ticket, ht, seat⟩ := played
  exact ⟨p, hp, ticket, ht, seat, tickets_paid (Pool.reach_of_play rfl hp) ht⟩

/-- The confirmation of a booking is completed, and its seat has a ticket. -/
theorem ticketed_completed :
    ∃ p, Pool.play (.free service) sampleDelivery (.start Db.empty) = some p ∧
      ∃ e ∈ p.conf.state.outbox.rows, e.status = .completed ∧
        (p.conf.state.itemsOf e.aggregateId).map BookingItem.seatId = ["A"] ∧
        ∀ item ∈ p.conf.state.itemsOf e.aggregateId, ∃ ticket ∈ p.conf.state.tickets.rows,
          ticket.bookingId = e.aggregateId ∧ ticket.item = item.toTicket := by
  have played : (Pool.play (.free service) sampleDelivery (.start Db.empty)).any
      fun p ↦ p.conf.state.outbox.rows.any fun e ↦ e.status = .completed ∧
        e.event.isBookingConfirmed = true ∧
        (p.conf.state.itemsOf e.aggregateId).map BookingItem.seatId = ["A"] := by
    decide +kernel
  simp only [Option.any_eq_true, List.any_eq_true, decide_eq_true_eq] at played
  obtain ⟨p, hp, e, he, completed, confirms, seats⟩ := played
  exact ⟨p, hp, e, he, completed, seats,
    completed_ticketed (Pool.reach_of_play rfl hp) he completed confirms⟩

end Ticketing.BookingService
