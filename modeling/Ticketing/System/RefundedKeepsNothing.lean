import Ticketing.BookingService.Deliveries
import Ticketing.System.Links

/-!
# What a refunded booking keeps

Library `System`. Tickets and sold seats are delayed effects of a confirmation, and a refund
does not wait for them: the outbox worker may create the tickets and sell the seats of a
booking that has been refunded. Where every refund finds them done, nothing is left.
-/

namespace Ticketing.System

open Async Store

/-- The job marks seats as sold for the booking. -/
def sellsFor (b : Id) : SeatInventory.Job → Bool
  | .serve i (.markSeatsAsSold _ _ _) => i = some b
  | _ => false

/-- A `markAsSold` call for the booking takes effect. -/
def soldBy (b : Id) (ev : Event SeatInventory.service) : Bool :=
  sellsFor b ev.job && !(ev.op.storedSeats ev.answer).isEmpty

/-- A `releaseSoldSeats` call for the booking takes effect. -/
def releasedBy (b : Id) (ev : Event SeatInventory.service) : Bool :=
  releasesFor b ev.job && !(ev.op.storedSeats ev.answer).isEmpty

namespace Platform

variable {provider : String} {s : Platform provider} {seats : Table SeatInventory.Seat.place}
  {b : Id}

/-- A refunded booking whose outbox rows are all done with has no active ticket, and none of
its seats was sold after they were released. -/
def KeepsNothing (s : Platform provider) : Prop :=
  ∀ r ∈ s.booking.conf.state.bookings.rows, r.status = .refunded →
    s.booking.conf.state.Delivered r.id (fun _ ↦ true) →
    (∀ ticket ∈ s.booking.conf.state.tickets.rows, ticket.bookingId = r.id →
      ticket.status ≠ .active) ∧
    s.inventory.conf.log.Pairwise fun later earlier ↦
      ¬ (soldBy r.id later = true ∧ releasedBy r.id earlier = true)

/-- No `markAsSold` call for the booking is running. -/
def SalesEnded (s : Platform provider) (b : Id) : Prop :=
  ∀ th ∈ s.inventory.threads, sellsFor b th.1 = true → th.2.ended = true

/-- The runs of one outbox worker in which a refund releases seats when their sale is done
with, and cancels tickets when their creation is. -/
def lateRefunds (provider : String) : Regime provider where
  may s
    | .call (some b) (.releaseSoldSeats _ _) =>
      s.booking.conf.state.Delivered b BookingService.OutboxEvent.isSeatsMarkSold ∧
        s.SalesEnded b
    | .booking ⟨_, _, .cancelTickets b, _⟩ =>
      s.booking.conf.state.Delivered b BookingService.OutboxEvent.isBookingConfirmed
    | _ => True
  excl i j := i = .processOutbox ∧ j = .processOutbox

/-- The runs of one outbox worker. -/
def oneWorker (provider : String) : Regime provider where
  may _ _ := True
  excl i j := i = .processOutbox ∧ j = .processOutbox

instance (s : Platform provider) (b : Id) : Decidable (s.SalesEnded b) := by
  unfold SalesEnded
  infer_instance

/-- The booking that a release of seats is sent for. -/
def releases? : Action provider → Option Id
  | .call (some b) (.releaseSoldSeats _ _) => some b
  | _ => none

/-- The booking whose tickets are cancelled. -/
def cancels? : Action provider → Option Id
  | .booking ⟨_, _, .cancelTickets b, _⟩ => some b
  | _ => none

instance (s : Platform provider) (a : Action provider) :
    Decidable ((lateRefunds provider).may s a) :=
  decidable_of_iff
    ((∀ b ∈ releases? a,
        s.booking.conf.state.Delivered b BookingService.OutboxEvent.isSeatsMarkSold ∧
          s.SalesEnded b) ∧
      ∀ b ∈ cancels? a,
        s.booking.conf.state.Delivered b BookingService.OutboxEvent.isBookingConfirmed) (by
    unfold lateRefunds
    dsimp only
    split
    · simp [releases?, cancels?]
    · simp [releases?, cancels?]
    · next no_release no_cancel =>
      have released : releases? a = none := by
        unfold releases?
        split
        · exact absurd rfl (no_release _ _ _)
        · rfl
      have cancelled : cancels? a = none := by
        unfold cancels?
        split
        · exact absurd rfl (no_cancel _ _ _ _)
        · rfl
      simp [released, cancelled])

instance (i j : BookingService.Job) : Decidable ((lateRefunds provider).excl i j) :=
  inferInstanceAs (Decidable (_ ∧ _))

instance (s : Platform provider) (a : Action provider) :
    Decidable ((oneWorker provider).may s a) :=
  inferInstanceAs (Decidable True)

instance (i j : BookingService.Job) : Decidable ((oneWorker provider).excl i j) :=
  inferInstanceAs (Decidable (_ ∧ _))

/-- The runs of one outbox worker are such runs of the booking service. -/
theorem reach_worker (h : Reach (lateRefunds provider) seats s) :
    BookingService.Reach BookingService.Mode.worker.regime s.booking := by
  apply Pool.Reach.mono _ _ (reach_booking h)
  · exact fun _ _ _ ↦ trivial
  · rintro i j (⟨-, hi, hj⟩ | ⟨hm, -⟩)
    · exact ⟨hi, hj⟩
    · cases hm

/-! ### Tickets -/

/-- The tickets of the booking were cancelled, and none is still to come. -/
structure TicketsGone (s : Platform provider) (b : Id) : Prop where
  settled : s.booking.conf.state.Settled b
  delivered : s.booking.conf.state.Delivered b BookingService.OutboxEvent.isBookingConfirmed
  inactive : ∀ ticket ∈ s.booking.conf.state.tickets.rows, ticket.bookingId = b →
    ticket.status ≠ .active

/-- No operation of the booking service brings a ticket back. -/
theorem TicketsGone.booking (h : s.TicketsGone b)
    (hb : BookingService.Reach BookingService.Mode.worker.regime s.booking)
    {t : Nat} {j : BookingService.Job} {x : Choice} {o : BookingService.Op}
    {k : BookingService.sig.Answer o → BookingService.service.Program}
    (ht : s.booking.At t j (.op o k)) : (s.proceed t j x o k).TicketsGone b := by
  obtain ⟨owner, owner', hi, hmove⟩ := BookingService.reach_move hb ht (x := x)
  refine ⟨hmove.settled_kept h.settled, hmove.delivered ?_ h.settled h.delivered, ?_⟩
  · intro v hv
    cases v <;> first | rfl | cases hv
  · intro ticket hmem hid
    rcases BookingService.mem_tickets_exec hmem with old | ⟨c, old, -, hold, rfl⟩ | ⟨rows, ho, hnew⟩
    · exact h.inactive ticket old hid
    · exact BookingService.cancelTicket_not_active (h.inactive old hold) hid
    · have acts := hmove.acts
      simp only [ho] at acts
      obtain ⟨c, hrows, hwork⟩ := acts
      obtain ⟨entry, hentry, hagg, hkind, hstatus⟩ := hwork rfl
      have hc : c = b := (BookingService.bookingId_of_numbered hrows hnew).symm.trans hid
      have hfin := h.delivered entry hentry (hagg.trans hc) hkind
      exact absurd hstatus (BookingService.Outbox.not_processing hfin)

/-- Cancelling the tickets of a confirmed booking leaves none that is active. -/
theorem ticketsGone_of_cancel (hs : s.booking.conf.state.Settled b)
    (hd : s.booking.conf.state.Delivered b BookingService.OutboxEvent.isBookingConfirmed)
    {t : Nat} {j : BookingService.Job} {x : Choice}
    {k : BookingService.sig.Answer (.cancelTickets b) → BookingService.service.Program}
    (ha : s.booking.conf.answer x (.cancelTickets b) = .ok ()) :
    (s.proceed t j x (.cancelTickets b) k).TicketsGone b := by
  rcases BookingService.exec_cases x (.cancelTickets b) s.booking.conf.state with ⟨-, e, he⟩ | he
  · have hf : s.booking.conf.answer x (.cancelTickets b) = .error e := congrArg Prod.fst he
    rw [hf] at ha
    cases ha
  · have after : (s.proceed t j x (.cancelTickets b) k).booking.conf.state =
        (BookingService.perform x (.cancelTickets b) s.booking.conf.state).2 := congrArg Prod.snd he
    constructor
    · rw [after]
      exact hs
    · rw [after]
      exact hd
    · rw [after]
      intro ticket hmem hid
      obtain ⟨old, -, rfl⟩ := BookingService.mem_cancelled hmem
      exact BookingService.cancelTicket_own hid

/-- In every run of late refunds, cancelled tickets are gone for good. -/
theorem ticketsGone_of_reach (h : Reach (lateRefunds provider) seats s)
    (hc : BookingService.TicketsCancelled s.booking.conf.log b) : s.TicketsGone b := by
  induction h with
  | refl =>
    obtain ⟨t, j, hm⟩ := hc
    cases hm
  | @tail s s' hrun hs ih =>
    have hb := reach_worker hrun
    cases hs with
    | @booking t j x o k ht _ hm =>
      obtain ⟨t', j', hmem⟩ := hc
      rcases List.mem_cons.mp hmem with he | hmem
      · injection he with _ _ hop hans
        subst hop
        obtain ⟨owner, owner', -, hmove⟩ := BookingService.reach_move hb ht (x := x)
        have hs := BookingService.settled_of_released hb hmove.acts.1
        exact ticketsGone_of_cancel hs hm (eq_of_heq hans).symm
      · exact (ih ⟨t', j', hmem⟩).booking hb ht
    | @call t j i r k ht hn hm =>
      rw [send_booking] at hc
      have old := ih hc
      constructor
      · rw [send_booking]
        exact old.settled
      · rw [send_booking]
        exact old.delivered
      · rw [send_booking]
        exact old.inactive
    | _ =>
      have old := ih hc
      exact ⟨old.settled, old.delivered, old.inactive⟩

/-! ### Sold seats -/

/-- The seats of the booking are being released, or were: no sale of them is to come. -/
structure SalesGone (s : Platform provider) (b : Id) : Prop where
  settled : s.booking.conf.state.Settled b
  delivered : s.booking.conf.state.Delivered b BookingService.OutboxEvent.isSeatsMarkSold
  ended : s.SalesEnded b

/-- A call of the seat inventory releases, or has released, seats of the booking. -/
def Releasing (s : Platform provider) (b : Id) : Prop :=
  ∃ th ∈ s.inventory.threads, releasesFor b th.1 = true

/-- New threads that sell nothing of the booking change nothing. -/
theorem SalesGone.threads {s' : Platform provider} (h : s.SalesGone b)
    (hb : s'.booking.conf = s.booking.conf)
    (ht : ∀ th ∈ s'.inventory.threads, th ∈ s.inventory.threads ∨ sellsFor b th.1 = false) :
    s'.SalesGone b := by
  refine ⟨hb ▸ h.settled, hb ▸ h.delivered, ?_⟩
  intro th hth hsell
  rcases ht th hth with old | other
  · exact h.ended th old hsell
  · rw [other] at hsell
    cases hsell

/-- No operation of the booking service starts a sale again. -/
theorem SalesGone.booking (h : s.SalesGone b)
    (hb : BookingService.Reach BookingService.Mode.worker.regime s.booking)
    {t : Nat} {j : BookingService.Job} {x : Choice} {o : BookingService.Op}
    {k : BookingService.sig.Answer o → BookingService.service.Program}
    (ht : s.booking.At t j (.op o k)) : (s.proceed t j x o k).SalesGone b := by
  obtain ⟨owner, owner', hi, hmove⟩ := BookingService.reach_move hb ht (x := x)
  refine ⟨hmove.settled_kept h.settled, hmove.delivered ?_ h.settled h.delivered, h.ended⟩
  intro v hv
  cases v <;> first | rfl | cases hv

/-- A thread that takes a step has not ended, so no sale of the booking takes one. -/
theorem SalesGone.inventory (h : s.SalesGone b) {t : Nat} {j : SeatInventory.Job} {x : Choice}
    {o : SeatInventory.Op} {k : SeatInventory.sig.Answer o → SeatInventory.service.Program}
    (ht : s.inventory.At t j (.op o k)) :
    sellsFor b j = false ∧ { s with inventory := s.inventory.advance t j x o k }.SalesGone b := by
  have other : sellsFor b j = false := by
    by_contra hj
    have := h.ended _ (List.mem_of_getElem? ht) (by simpa using hj)
    cases this
  refine ⟨other, h.settled, h.delivered, ?_⟩
  intro th hth hsell
  rcases List.mem_or_eq_of_mem_set hth with old | rfl
  · exact h.ended th old hsell
  · rw [other] at hsell
    cases hsell

/-- The seat inventory runs the same threads after a call, but for the one that serves it. -/
theorem mem_threads_send {t : Nat} {i : Option Id} {r : Request}
    {th : SeatInventory.Job × SeatInventory.service.Program}
    (h : th ∈ (s.send t i r).inventory.threads) :
    th ∈ s.inventory.threads ∨ th.1 = .serve i r := by
  unfold send at h
  cases hr : server r with
  | payment =>
    simp only [hr] at h
    exact .inl h
  | inventory =>
    simp only [hr] at h
    rcases List.mem_append.mp h with old | new
    · exact .inl old
    · rw [List.mem_singleton.mp new]
      exact .inr rfl

/-- The seats that a refund releases are those of a confirmed booking. -/
theorem settled_of_releasing
    (hb : BookingService.Reach BookingService.Mode.worker.regime s.booking) {t : Nat}
    {j : BookingService.Job} {e : String} {ids : List String}
    {k : BookingService.sig.Answer (.rpc (some b) (.releaseSoldSeats e ids)) →
      BookingService.service.Program}
    (ht : s.booking.At t j (.op (.rpc (some b) (.releaseSoldSeats e ids)) k)) :
    s.booking.conf.state.Settled b := by
  obtain ⟨owner, owner', -, hmove⟩ := BookingService.reach_move hb ht (x := {})
  obtain ⟨c, r, hc, hr, hset, -⟩ := hmove.acts
  cases hc
  exact ⟨r, hr, hset⟩

/-- No seats of a booking are marked as sold whose sale is done with. -/
theorem SalesGone.no_sale (h : s.SalesGone b)
    (hb : BookingService.Reach BookingService.Mode.worker.regime s.booking) {t : Nat}
    {j : BookingService.Job} {i : Option Id} {r : Request}
    {k : BookingService.sig.Answer (.rpc i r) → BookingService.service.Program}
    (ht : s.booking.At t j (.op (.rpc i r) k)) : sellsFor b (.serve i r) = false := by
  by_contra hsell
  cases r with
  | markSeatsAsSold e ids u =>
    obtain ⟨owner, owner', -, hmove⟩ := BookingService.reach_move hb ht (x := {})
    obtain ⟨entry, hentry, hissuer, hevent, hstatus⟩ := hmove.acts
    have hi : i = some b := by simpa [sellsFor] using hsell
    have hagg : entry.aggregateId = b := Option.some.inj (hissuer.symm.trans hi)
    have hfin := h.delivered entry hentry hagg (by rw [hevent]; rfl)
    exact absurd (hstatus rfl) (BookingService.Outbox.not_processing hfin)
  | _ => exact hsell rfl

/-- A call to the seat inventory releases the seats of a booking whose sale is done with, and
sells none of them afterwards. -/
theorem salesGone_call (hb : BookingService.Reach BookingService.Mode.worker.regime s.booking)
    {t : Nat} {j : BookingService.Job} {i : Option Id} {r : Request}
    {k : BookingService.sig.Answer (.rpc i r) → BookingService.service.Program}
    (ht : s.booking.At t j (.op (.rpc i r) k)) (hm : (lateRefunds provider).may s (.call i r))
    (ih : s.Releasing b → s.SalesGone b) (h : (s.send t i r).Releasing b) :
    (s.send t i r).SalesGone b := by
  have before : s.SalesGone b ∧ sellsFor b (.serve i r) = false := by
    obtain ⟨th, hth, hrel⟩ := h
    rcases mem_threads_send hth with old | new
    · have gone := ih ⟨th, old, hrel⟩
      exact ⟨gone, gone.no_sale hb ht⟩
    · rw [new] at hrel
      cases r with
      | releaseSoldSeats e ids =>
        have hi : i = some b := by simpa [releasesFor] using hrel
        subst hi
        exact ⟨⟨settled_of_releasing hb ht, hm.1, hm.2⟩, rfl⟩
      | _ => cases hrel
  obtain ⟨gone, other⟩ := before
  apply gone.threads
  · rw [send_booking]
  · intro th hth
    rcases mem_threads_send hth with old | new
    · exact .inl old
    · exact .inr (new ▸ other)

/-- In every run of late refunds, released seats are not sold again. -/
theorem salesGone_of_reach (h : Reach (lateRefunds provider) seats s) (hr : s.Releasing b) :
    s.SalesGone b := by
  induction h with
  | refl =>
    obtain ⟨th, hth, -⟩ := hr
    cases hth
  | @tail s s' hrun hs ih =>
    have hb := reach_worker hrun
    obtain ⟨th, hth, hrel⟩ := hr
    cases hs with
    | arrive => exact (ih ⟨th, hth, hrel⟩).threads rfl fun _ h ↦ .inl h
    | payment => exact (ih ⟨th, hth, hrel⟩).threads rfl fun _ h ↦ .inl h
    | booking ht => exact (ih ⟨th, hth, hrel⟩).booking hb ht
    | call ht _ hm => exact salesGone_call hb ht hm ih ⟨th, hth, hrel⟩
    | @visit j hj =>
      have none : releasesFor b j = false ∧ sellsFor b j = false := by
        cases j <;> first | exact ⟨rfl, rfl⟩ | cases hj
      rcases List.mem_append.mp hth with old | new
      · refine (ih ⟨th, old, hrel⟩).threads rfl ?_
        intro th' hth'
        rcases List.mem_append.mp hth' with old' | new'
        · exact .inl old'
        · rw [List.mem_singleton.mp new']
          exact .inr none.2
      · rw [List.mem_singleton.mp new, none.1] at hrel
        cases hrel
    | @inventory t j x o k ht =>
      rcases List.mem_or_eq_of_mem_set hth with old | rfl
      · exact ((ih ⟨th, old, hrel⟩).inventory ht).2
      · exact ((ih ⟨_, List.mem_of_getElem? ht, hrel⟩).inventory ht).2

/-- In every run of late refunds, no seats of a booking are sold after they were released. -/
theorem sold_before_released (h : Reach (lateRefunds provider) seats s) :
    s.inventory.conf.log.Pairwise fun later earlier ↦
      ¬ (soldBy b later = true ∧ releasedBy b earlier = true) := by
  induction h with
  | refl => exact .nil
  | @tail s s' hrun hs ih =>
    cases hs with
    | @inventory t j x o k ht =>
      refine List.pairwise_cons.mpr ⟨?_, ih⟩
      rintro ev hev ⟨hsold, hrel⟩
      simp only [soldBy, releasedBy, Bool.and_eq_true] at hsold hrel
      obtain ⟨q, hq⟩ := (reach_inventory hrun).event_at hev
      have gone := salesGone_of_reach hrun ⟨_, List.mem_of_getElem? hq, hrel.1⟩
      rw [(gone.inventory ht (x := x)).1] at hsold
      exact absurd hsold.1 Bool.false_ne_true
    | @call t j i r k ht hn hm =>
      rw [send_inventory_conf]
      exact ih
    | _ => exact ih

end Platform

end Ticketing.System
