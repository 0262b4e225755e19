import Ticketing.Async.Monitor
import Ticketing.BookingService.Invariant
import Ticketing.BookingService.Scopes

/-!
# Which entry a tick dispatches

Library `BookingService`. A tick marks an entry as `PROCESSING`, dispatches it and stores how that
ended. In between it works on this entry only; tickets are saved by a dispatch that found none.
-/

namespace Ticketing.BookingService

open Async

/-- What a tick is doing. -/
inductive Work where
  | idle
  | dispatching (entry : Outbox)
  /-- No tickets were found for the booking of the entry. -/
  | unticketed (entry : Outbox)
  /-- The items were loaded that get tickets. -/
  | ticketing (entry : Outbox) (items : List BookingItem)
  deriving DecidableEq

namespace Work

/-- The entry that is dispatched. -/
def entry : Work → Option Outbox
  | .idle => none
  | .dispatching e | .unticketed e | .ticketing e _ => some e

/-- What an operation tells. A tick goes on with its entry if it could not be stored as
`COMPLETED`, and gives up if it could not be stored otherwise. -/
def next (w : Work) : (o : Op) → sig.Answer o → Work
  | .saveEntry e, .ok _ => if e.status = .processing then .dispatching e else .idle
  | .saveEntry e, .error _ => if e.status = .completed then w else .idle
  | .findTickets _, .ok tickets =>
    match w with
    | .dispatching e => if tickets = [] then .unticketed e else w
    | _ => w
  | .findBookingItems _, .ok items =>
    match w with
    | .unticketed e => .ticketing e items
    | _ => w
  | .saveTickets _, _ =>
    match w with
    | .ticketing e _ => .dispatching e
    | _ => w
  | _, _ => w

/-- What a thread awaits for the entry it dispatches, and that new entries are `PENDING`. -/
def Allows (w : Work) : Op → Prop
  | .saveEntry e =>
    if e.status = .processing then w = .idle else ∃ e' ∈ w.entry, e'.id = e.id
  | .findTickets b | .findBookingItems b =>
    ∃ e ∈ w.entry, e.aggregateId = b ∧ e.event.isBookingConfirmed = true
  | .saveTickets tickets =>
    ∃ e items, w = .ticketing e items ∧ tickets.map Ticket.item = items.map BookingItem.toTicket ∧
      e.event.isBookingConfirmed = true ∧ ∀ ticket ∈ tickets, ticket.bookingId = e.aggregateId
  | .toDataURL _ _ | .rpc _ (.markSeatsAsSold _ _ _) => ∃ e, w.entry = some e
  | .commit writes => writes.all Write.inserts = true
  | _ => True

end Work

/-- What each thread does with the outbox. -/
def work : Monitor service Work where
  init := .idle
  next := Work.next
  may _ := Work.Allows

/-- The entry that thread `t` dispatches after a history. -/
def dispatched (t : Nat) (log : List (Event service)) : Option Outbox := (work.state t log).entry

variable {j : Job} {L : Type} {w : Work} {o : Op} {e : Outbox}

/-- How a dispatch ended is stored for its own entry. -/
theorem allows_save (hst : e.status ≠ .processing) (he : ∃ e' ∈ w.entry, e'.id = e.id) :
    w.Allows (.saveEntry e) := by
  show if e.status = .processing then w = .idle else ∃ e' ∈ w.entry, e'.id = e.id
  rw [if_neg hst]
  exact he

/-- A thread that marks an entry has no other. -/
theorem idle_of_mark (h : w.Allows (.saveEntry e)) (hst : e.status = .processing) : w = .idle := by
  have h : if e.status = .processing then w = .idle else ∃ e' ∈ w.entry, e'.id = e.id := h
  rw [if_pos hst] at h
  exact h

/-- A thread that stores how a dispatch ended has dispatched the entry. -/
theorem entry_of_end (h : w.Allows (.saveEntry e)) (hst : e.status ≠ .processing) :
    ∃ e' ∈ w.entry, e'.id = e.id := by
  have h : if e.status = .processing then w = .idle else ∃ e' ∈ w.entry, e'.id = e.id := h
  rw [if_neg hst] at h
  exact h

/-- Saving the entry with its verdict ends the dispatch. -/
theorem next_saved (hst : e.status ≠ .processing) {a : Unit} :
    work.next w (.saveEntry e) (.ok a) = .idle := if_neg hst

/-- A failing save ends the dispatch unless the entry was complete, where the `catch` block
follows. -/
theorem next_unsaved {error : Exception} :
    work.next w (.saveEntry e) (.error error) = if e.status = .completed then w else .idle := rfl

/-- The operation stores an outbox entry. -/
def Op.savesEntry : Op → Bool
  | .saveEntry _ => true
  | _ => false

/-- Other operations go on with the same entry. -/
theorem entry_next (h : o.savesEntry = false) (a : sig.Answer o) :
    (w.next o a).entry = w.entry := by
  cases o with
  | saveEntry e => cases h
  | findTickets b =>
    cases a with
    | ok tickets =>
      cases w with
      | dispatching e =>
        show (if tickets = [] then Work.unticketed e else .dispatching e).entry = some e
        split <;> rfl
      | _ => rfl
    | error e => rfl
  | findBookingItems b => cases a <;> cases w <;> rfl
  | saveTickets tickets => cases a <;> cases w <;> rfl
  | _ => cases a <;> rfl

/-- The entry that a thread dispatches after its own operation. -/
theorem dispatched_self (t : Nat) (j : Job) (o : Op) (a : sig.Answer o)
    (log : List (Event service)) :
    dispatched t (⟨t, j, o, a⟩ :: log) = (work.next (work.state t log) o a).entry := by
  unfold dispatched
  rw [Monitor.state_self]

/-- Other threads dispatch what they did. -/
theorem dispatched_other {t : Nat} {ev : Event service} (h : ev.tid ≠ t)
    (log : List (Event service)) : dispatched t (ev :: log) = dispatched t log := by
  unfold dispatched
  rw [Monitor.state_other _ h]

/-! ### Operations that tell nothing -/

/-- Other jobs leave the outbox entries alone. -/
theorem work_idle (h : o.creates = true ∨ o.refunds = true) : work.Idle j .idle o := by
  constructor
  · cases o with
    | rpc i request =>
      cases request <;> first | trivial | simp [Op.creates, Op.refunds, Op.settles] at h
    | commit writes => exact h.elim id id
    | _ => first | trivial | simp [Op.creates, Op.refunds, Op.settles] at h
  · intro r
    cases o with
    | saveEntry e => simp [Op.creates, Op.refunds, Op.settles] at h
    | _ => cases r <;> rfl

private theorem await_work (ho : w.Allows o) (hn : ∀ r, w.next o r = w) :
    work.Keeps j (fun (_ : L) s ↦ s = w) (await o : Code sig L (Res o)) :=
  Monitor.Holds.stays (Code.Awaits.await ⟨ho, hn⟩)

/-! ### `processOutbox` -/

private theorem generateTicketCode_work :
    work.Keeps j (fun _ s ↦ s = w) generateTicketCode := by
  unfold generateTicketCode
  apply Monitor.Holds.bind (await_work (o := .now) trivial fun _ ↦ rfl)
  intro timestamp
  apply Monitor.Holds.bind (await_work (o := .random) trivial fun _ ↦ rfl)
  exact fun random ↦ Monitor.Holds.ret _ fun _ _ h ↦ h

private theorem newTickets_work {e : Outbox} (hw : w.entry = some e) (b : Id)
    (items : List BookingItem) :
    work.Holds j (fun _ s ↦ s = w) (newTickets b items)
      (fun tickets _ s ↦ s = w ∧ tickets.map Ticket.item = items.map BookingItem.toTicket ∧
        ∀ ticket ∈ tickets, ticket.bookingId = b) (fun _ _ s ↦ s = w) := by
  induction items with
  | nil => exact Monitor.Holds.ret _ fun _ _ h ↦ ⟨h, rfl, fun _ hm ↦ by cases hm⟩
  | cons item rest ih =>
    unfold newTickets
    apply Monitor.Holds.bind generateTicketCode_work
    intro code
    apply Monitor.Holds.bind (await_work (o := .toDataURL code item) ⟨e, hw⟩ fun _ ↦ rfl)
    intro data
    apply Monitor.Holds.bind ih
    intro tickets
    apply Monitor.Holds.ret
    rintro l s ⟨hs, hitems, hb⟩
    refine ⟨hs, congrArg (item.toTicket :: ·) hitems, ?_⟩
    intro ticket hm
    rcases List.mem_cons.mp hm with rfl | hm
    · rfl
    · exact hb ticket hm

/-- A dispatch of the entry goes on. -/
abbrev Dispatches (e : Outbox) (w : Work) : Prop := w.entry = some e

private theorem generateTicket_work {e : Outbox} (he : e.event.isBookingConfirmed = true) :
    work.Holds j (fun _ s ↦ s = .dispatching e) (generateTicket e.aggregateId)
      (fun _ _ ↦ Dispatches e) (fun _ _ ↦ Dispatches e) := by
  unfold generateTicket
  apply Monitor.Holds.bind
    (I := fun existing _ s ↦ s = if existing = [] then .unticketed e else .dispatching e)
  · apply Monitor.Holds.await
    · rintro l s rfl
      exact ⟨e, rfl, rfl, he⟩
    · rintro existing l s - rfl
      rfl
    · rintro error l s - rfl
      rfl
  intro existing
  cases existing with
  | cons ticket rest =>
    have some : (ticket :: rest).length > 0 := by simp
    rw [if_pos some]
    apply Monitor.Holds.ret
    rintro l s rfl
    rfl
  | nil =>
    have none : ¬ ([] : List Ticket).length > 0 := by simp
    rw [if_neg none]
    simp only [if_true]
    apply Monitor.Holds.bind (I := fun items _ s ↦ s = .ticketing e items)
    · apply Monitor.Holds.await
      · rintro l s rfl
        exact ⟨e, rfl, rfl, he⟩
      · rintro items l s - rfl
        rfl
      · rintro error l s - rfl
        rfl
    intro items
    split
    · apply Monitor.Holds.ret
      rintro l s rfl
      rfl
    · apply Monitor.Holds.bind
      · apply (newTickets_work (e := e) rfl e.aggregateId items).post
        · exact fun _ _ _ h ↦ h
        · rintro error l s rfl
          rfl
      intro tickets
      apply Monitor.Holds.await
      · rintro l s ⟨rfl, hitems, hb⟩
        exact ⟨e, items, rfl, hitems, he, hb⟩
      · rintro saved l s - ⟨rfl, -⟩
        rfl
      · rintro error l s - ⟨rfl, -⟩
        rfl

private theorem processEntry_work (e : Outbox) :
    work.Holds j (fun _ s ↦ s = .dispatching e) (processEntry e)
      (fun _ _ ↦ Dispatches e) (fun _ _ ↦ Dispatches e) := by
  have emit : ∀ (topic : String) (b : Id) (payload : BookingPayload),
      work.Keeps j (fun (_ : Unit) ↦ Dispatches e) (await (.emit topic b payload)) := by
    intro topic b payload
    apply Monitor.Holds.quiet
    exact fun s ↦ ⟨trivial, fun r ↦ rfl⟩
  unfold processEntry
  split
  · unfold handleSeatsSold grpc
    apply Monitor.Holds.bind (I := fun _ _ ↦ Dispatches e)
    · apply Monitor.Holds.bind (I := fun _ _ ↦ Dispatches e)
      · apply Monitor.Holds.await
        · rintro l s rfl
          exact ⟨e, rfl⟩
        · rintro reply l s - rfl
          rfl
        · rintro error l s - rfl
          rfl
      intro reply
      split
      · exact Monitor.Holds.ret _ fun _ _ h ↦ h
      · exact Monitor.Holds.raise _ fun _ _ h ↦ h
    intro success
    split
    · exact Monitor.Holds.ret _ fun _ _ h ↦ h
    · exact Monitor.Holds.raise _ fun _ _ h ↦ h
  · next hevent =>
    unfold handleBookingConfirmed
    apply Monitor.Holds.bind (generateTicket_work (by rw [hevent]; rfl))
    exact fun _ ↦ emit _ _ _
  · apply (emit _ _ _).pre
    rintro l s rfl
    rfl
  · apply Monitor.Holds.ret
    rintro l s rfl
    rfl

private theorem completeEntry_work (e : Outbox) :
    work.Holds j (fun l s ↦ l = e ∧ s = .dispatching e) completeEntry
      (fun _ _ s ↦ s = .idle) (fun _ l s ↦ l.id = e.id ∧ Dispatches e s) := by
  unfold completeEntry
  apply Monitor.Holds.read
  intro entry
  apply Monitor.Holds.bind (I := fun _ l s ↦ l.id = e.id ∧ Dispatches e s)
  · apply Monitor.Holds.on
    intro l
    rintro _ s ⟨-, rfl, rfl, rfl⟩
    apply (processEntry_work l () _ rfl).post
    · exact fun _ _ _ h ↦ ⟨rfl, h⟩
    · exact fun _ _ _ h ↦ ⟨rfl, h⟩
  intro _
  apply Monitor.Holds.bind
    (I := fun _ l s ↦ l.status = .completed ∧ l.id = e.id ∧ Dispatches e s)
  · exact Monitor.Holds.assign _ fun _ _ h ↦ ⟨rfl, h⟩
  intro _
  apply Monitor.Holds.bind
    (I := fun _ l s ↦ l.status = .completed ∧ l.id = e.id ∧ Dispatches e s)
  · apply Monitor.Holds.await
    · exact fun _ _ _ ↦ trivial
    · exact fun _ _ _ _ h ↦ h
    · exact fun _ _ _ _ h ↦ h.2
  intro now
  apply Monitor.Holds.bind
    (I := fun _ l s ↦ l.status = .completed ∧ l.id = e.id ∧ Dispatches e s)
  · exact Monitor.Holds.assign _ fun _ _ h ↦ h
  intro _
  apply Monitor.Holds.read
  intro entry
  apply Monitor.Holds.await
  · rintro l s ⟨rfl, hst, hid, hs⟩
    exact allows_save (by simp [hst]) ⟨e, hs, hid.symm⟩
  · rintro _ l s - ⟨rfl, hst, hid, hs⟩
    exact next_saved (by simp [hst])
  · rintro error l s - ⟨rfl, hst, hid, hs⟩
    refine ⟨hid, ?_⟩
    rw [next_unsaved, if_pos hst]
    exact hs

private theorem retryEntry_work (e : Outbox) (error : Exception) :
    work.Holds j (fun l s ↦ l.id = e.id ∧ Dispatches e s) (retryEntry error)
      (fun _ _ s ↦ s = .idle) (fun _ _ s ↦ s = .idle) := by
  unfold retryEntry
  apply Monitor.Holds.bind (I := fun _ l s ↦ l.id = e.id ∧ Dispatches e s)
  · exact Monitor.Holds.assign _ fun _ _ h ↦ h
  intro _
  apply Monitor.Holds.bind
    (I := fun _ l s ↦ (l.status = .failed ∨ l.status = .pending) ∧ l.id = e.id ∧ Dispatches e s)
  · apply Monitor.Holds.assign
    intro l s h
    refine ⟨?_, h⟩
    by_cases hr : l.retryCount ≥ l.maxRetries
    · exact .inl (if_pos hr)
    · exact .inr (if_neg hr)
  intro _
  apply Monitor.Holds.read
  intro entry
  apply Monitor.Holds.await
  · rintro l s ⟨rfl, hst, hid, hs⟩
    refine allows_save ?_ ⟨e, hs, hid.symm⟩
    rcases hst with hst | hst <;> simp [hst]
  · rintro _ l s - ⟨rfl, hst, -, -⟩
    apply next_saved
    rcases hst with hst | hst <;> simp [hst]
  · rintro error l s - ⟨rfl, hst, -, -⟩
    rw [next_unsaved, if_neg]
    rcases hst with hst | hst <;> simp [hst]

private theorem processPending_work :
    work.Keeps j (fun _ s ↦ s = .idle) processPending := by
  unfold processPending
  apply Monitor.Holds.bind (I := fun _ l s ↦ l.status = .processing ∧ s = .idle)
  · exact Monitor.Holds.assign _ fun _ _ h ↦ ⟨rfl, h⟩
  intro _
  apply Monitor.Holds.read
  intro entry
  apply Monitor.Holds.bind (I := fun _ l s ↦ l = entry ∧ s = .dispatching entry)
  · apply Monitor.Holds.await
    · rintro l s ⟨rfl, hst, rfl⟩
      show Work.Allows .idle (.saveEntry l)
      simp [Work.Allows, hst]
    · rintro _ l s - ⟨rfl, hst, rfl⟩
      exact ⟨rfl, if_pos hst⟩
    · rintro error l s - ⟨rfl, hst, rfl⟩
      rw [next_unsaved, ite_self]
  intro _
  exact Monitor.Holds.tryCatch (completeEntry_work entry) (retryEntry_work entry)

/-- Every job obeys, and has nothing to dispatch when it ends. -/
theorem job_work (j : Job) : work.Obeys j (service.code j) (fun _ s ↦ s = .idle) .idle := by
  have keeps : work.Keeps j (fun (_ : Unit) s ↦ s = .idle) j.run := by
    cases j with
    | createBooking dto =>
      apply Monitor.Holds.stays
      exact (job_awaits (.createBooking dto)).mono fun o ho ↦ work_idle (.inl ho)
    | cancelBooking b userId key reason =>
      apply Monitor.Holds.stays
      exact (job_awaits (.cancelBooking b userId key reason)).mono fun o ho ↦ work_idle (.inr ho)
    | recoveryStuckRefunds =>
      apply Monitor.Holds.stays
      exact (job_awaits .recoveryStuckRefunds).mono fun o ho ↦ work_idle (.inr ho)
    | processOutbox =>
      have each : ∀ entries,
          work.Keeps .processOutbox (fun _ s ↦ s = .idle) (processEach entries) := by
        intro entries
        induction entries with
        | nil => exact Monitor.Holds.ret _ fun _ _ h ↦ h
        | cons entry rest ih =>
          apply Monitor.Holds.bind (I := fun _ _ s ↦ s = .idle)
          · apply Monitor.Holds.on
            intro _
            exact processPending_work.pre fun _ _ h ↦ h.2
          · exact fun _ ↦ ih
      apply Monitor.Holds.bind (I := fun _ _ s ↦ s = .idle)
      · apply Monitor.Holds.bind
        · exact Monitor.Holds.stays (Code.Awaits.await ⟨trivial, fun _ ↦ rfl⟩)
        · exact each
      · exact fun _ ↦ Monitor.Holds.ret _ fun _ _ h ↦ h
  exact Monitor.obeys_prog.mpr (keeps () .idle rfl)

end Ticketing.BookingService
