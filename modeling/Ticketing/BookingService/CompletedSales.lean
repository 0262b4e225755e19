import Ticketing.BookingService.Emissions

/-!
# Completed sales were acknowledged

Library `BookingService`. The outbox row that orders a sale is completed only after the seat
inventory has answered that it sold the seats.
-/

namespace Ticketing.BookingService

open Async

/-- The sale that the seat inventory acknowledged: its booking and what was ordered. -/
def Op.sale? : (o : Op) → sig.Answer o → Option (Id × OutboxEvent)
  | .rpc (some b) (.markSeatsAsSold e ids u), .ok (.success true) =>
    some (b, .seatsMarkSold e u ids)
  | _, _ => none

/-- A sale of a booking's seats is a call that the seat inventory answered. -/
theorem Op.eq_of_sale {ev : Event service} {b : Id} {event : OutboxEvent}
    (h : ev.op.sale? ev.answer = some (b, event)) :
    ∃ t j e ids u, event = .seatsMarkSold e u ids ∧
      ev = ⟨t, j, .rpc (some b) (.markSeatsAsSold e ids u), .ok (.success true)⟩ := by
  obtain ⟨t, j, o, a⟩ := ev
  dsimp only at h
  unfold Op.sale? at h
  split at h
  · cases h
    exact ⟨t, j, _, _, _, rfl, rfl⟩
  · cases h

/-- The sale of an outbox row is among these. -/
def Outbox.Sold (entry : Outbox) (sales : List (Id × OutboxEvent)) : Prop :=
  entry.event.isSeatsMarkSold = true → (entry.aggregateId, entry.event) ∈ sales

/-- A row that orders a sale is completed after the sale; new rows are pending. -/
def maySell (sales : List (Id × OutboxEvent)) : Op → Prop
  | .saveEntry entry => entry.status = .completed → entry.Sold sales
  | .commit writes => writes.all Write.inserts = true
  | _ => True

/-- The sales that were acknowledged to each thread. -/
def selling : Monitor service (List (Id × OutboxEvent)) where
  init := []
  next sales o a := (o.sale? a).toList ++ sales
  may _ := maySell

variable {j : Job} {L : Type}

private theorem selling_of_scope {α : Type} {c : Code sig L α} {scope : Op → Bool}
    (h : c.Awaits fun o : Op ↦ scope o = true)
    (apart : ∀ (o : Op) (sales : List (Id × OutboxEvent)), scope o = true → maySell sales o) :
    selling.Keeps j (fun _ _ ↦ True) c :=
  Monitor.Holds.inside (h.mono fun o ho sales _ ↦ ⟨apart o sales ho, fun _ ↦ trivial⟩)

private theorem handleSeatsSold_selling (b : Id) (e u : String) (ids : List String) :
    selling.Holds j (fun _ _ ↦ True) (handleSeatsSold b e u ids)
      (fun _ _ sales ↦ (b, .seatsMarkSold e u ids) ∈ sales) fun _ _ _ ↦ True := by
  unfold handleSeatsSold
  apply Monitor.Holds.bind
    (I := fun success _ sales ↦ success = true → (b, .seatsMarkSold e u ids) ∈ sales)
  · unfold grpc
    apply Monitor.Holds.bind
      (I := fun reply _ sales ↦ reply = .success true → (b, .seatsMarkSold e u ids) ∈ sales)
    · apply Monitor.Holds.await
      · exact fun _ _ _ ↦ trivial
      · rintro reply l sales - - rfl
        exact List.mem_cons_self
      · exact fun _ _ _ _ _ ↦ trivial
    intro reply
    split
    · next success found =>
      apply Monitor.Holds.ret
      rintro l sales known rfl
      apply known
      cases reply <;> cases found
      rfl
    · exact Monitor.Holds.raise _ fun _ _ _ ↦ trivial
  intro success
  split
  · next done => exact Monitor.Holds.ret _ fun _ _ known ↦ known done
  · exact Monitor.Holds.raise _ fun _ _ _ ↦ trivial

private theorem processEntry_selling (entry : Outbox) :
    selling.Holds j (fun _ _ ↦ True) (processEntry entry) (fun _ _ ↦ entry.Sold)
      fun _ _ _ ↦ True := by
  cases event : entry.event with
  | seatsMarkSold e u ids =>
    unfold processEntry
    rw [event]
    apply (handleSeatsSold_selling entry.aggregateId e u ids).post
    · intro _ _ sales sold _
      rwa [event]
    · exact fun _ _ _ h ↦ h
  | _ =>
    have dispatches : ∀ (o : Op) (sales : List (Id × OutboxEvent)), o.dispatches = true →
        maySell sales o := by
      intro o sales h
      cases o <;> trivial
    apply (selling_of_scope (processEntry_awaits entry) dispatches).post
    · intro _ _ sales _ sale
      rw [event] at sale
      cases sale
    · exact fun _ _ _ h ↦ h

private theorem rounds_selling :
    Rounds selling j (fun _ ↦ True) (fun _ ↦ True) Outbox.Sold where
  dispatch entry _ := (processEntry_selling entry).post (fun _ _ _ sold ↦ ⟨trivial, sold⟩)
    fun _ _ _ _ ↦ trivial
  may _ _ _ _ sold := sold
  saved _ _ _ _ := trivial
  now _ := ⟨trivial, fun _ ↦ rfl⟩
  row_congr _ _ _ _ _ := trivial
  done_congr l l' s event aggregate sold := by
    unfold Outbox.Sold
    rwa [event, aggregate]

/-- Every job completes a sale after it was acknowledged. -/
theorem job_selling (j : Job) :
    selling.Obeys j (service.code j) (fun _ _ ↦ True) selling.init := by
  have creates : ∀ (o : Op) (sales : List (Id × OutboxEvent)), o.creates = true →
      maySell sales o := by
    intro o sales h
    cases o <;> trivial
  have refunds : ∀ (o : Op) (sales : List (Id × OutboxEvent)), o.refunds = true →
      maySell sales o := by
    intro o sales h
    cases o <;> trivial
  have keeps : selling.Keeps j (fun (_ : Unit) _ ↦ True) j.run := by
    cases j with
    | processOutbox =>
      apply Monitor.Holds.bind (I := fun _ _ _ ↦ True)
      · unfold processOutbox
        apply Monitor.Holds.bind (I := fun _ _ _ ↦ True)
        · exact Monitor.Holds.await (fun _ _ _ ↦ trivial) (fun _ _ _ _ _ ↦ trivial)
            fun _ _ _ _ _ ↦ trivial
        exact fun entries ↦ rounds_selling.processEach fun _ _ ↦ trivial
      · exact fun _ ↦ Monitor.Holds.ret _ fun _ _ _ ↦ trivial
    | createBooking dto =>
      exact selling_of_scope (job_awaits (.createBooking dto)) creates
    | cancelBooking b userId key reason =>
      exact selling_of_scope (job_awaits (.cancelBooking b userId key reason)) refunds
    | recoveryStuckRefunds =>
      exact selling_of_scope (job_awaits .recoveryStuckRefunds) refunds
  exact Monitor.obeys_prog.mpr (keeps () selling.init trivial)

/-! ### What was acknowledged -/

/-- The seat inventory has acknowledged the sale. -/
def SaleAcknowledged (log : List (Event service)) (sale : Id × OutboxEvent) : Prop :=
  ∃ ev ∈ log, ev.op.sale? ev.answer = some sale

/-- What holds of the sales. -/
private structure Acknowledging (c : Conf service) : Prop where
  known : ∀ t, ∀ sale ∈ selling.state t c.log, SaleAcknowledged c.log sale
  completed : ∀ e ∈ c.state.outbox.rows, e.status = .completed →
    e.event.isSeatsMarkSold = true → SaleAcknowledged c.log (e.aggregateId, e.event)

namespace Acknowledging

variable {c : Conf service} {t : Nat} {x : Choice} {o : Op}

private theorem cons {log : List (Event service)} {ev : Event service} {sale : Id × OutboxEvent}
    (h : SaleAcknowledged log sale) : SaleAcknowledged (ev :: log) sale := by
  obtain ⟨earlier, mem, sold⟩ := h
  exact ⟨earlier, List.mem_cons_of_mem _ mem, sold⟩

private theorem step (h : Acknowledging c) (may : maySell (selling.state t c.log) o) :
    Acknowledging (c.after t j x o) := by
  constructor
  · intro u sale known
    by_cases hu : u = t
    · subst hu
      have self : selling.state u (c.after u j x o).log =
          (o.sale? (c.answer x o)).toList ++ selling.state u c.log := Monitor.state_self _ _ _ _ _ _
      rw [self] at known
      rcases List.mem_append.mp known with now | before
      · exact ⟨_, List.mem_cons_self, Option.mem_toList.mp now⟩
      · exact cons (h.known u sale before)
    · have other : selling.state u (c.after t j x o).log = selling.state u c.log :=
        Monitor.state_other _ (Ne.symm hu)
      rw [other] at known
      exact cons (h.known u sale known)
  · intro e he completed sale
    rcases exec_cases x o c.state with ⟨-, error, failed⟩ | done
    · rw [show (c.after t j x o).state = c.state from congrArg Prod.snd failed] at he
      exact cons (h.completed e he completed sale)
    · rw [show (c.after t j x o).state = (perform x o c.state).2 from congrArg Prod.snd done] at he
      rcases mem_outbox_perform he with old | rfl | ⟨writes, e₀, rfl, hw, -, -, status⟩
      · exact cons (h.completed e old completed sale)
      · exact cons (h.known t _ (may completed sale))
      · have pending : e₀.status = .pending := of_decide_eq_true (List.all_eq_true.mp may _ hw)
        rw [status, pending] at completed
        cases completed

end Acknowledging

variable {G : Regime service} {p : Pool service}

private theorem acknowledging_of_reach (hp : Reach G p) : Acknowledging p.conf := by
  induction hp with
  | start hs =>
    subst hs
    constructor
    · intro t sale known
      cases known
    · intro e he
      cases he
  | spawn _ _ ih => exact ih
  | run hp ht _ ih =>
    have watched := Monitor.watches_of_reach (Q := fun _ _ _ ↦ True) job_selling hp
    exact ih.step (watched.may ht)

/-- Whatever fails and however the jobs interleave, an outbox row that orders a sale is completed
only after the seat inventory has answered that it sold exactly these seats for the booking. -/
theorem completed_acknowledged (hp : Reach G p) {e : Outbox}
    (he : e ∈ p.conf.state.outbox.rows) (completed : e.status = .completed)
    (sale : e.event.isSeatsMarkSold = true) :
    SaleAcknowledged p.conf.log (e.aggregateId, e.event) :=
  (acknowledging_of_reach hp).completed e he completed sale

end Ticketing.BookingService
