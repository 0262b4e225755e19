import Ticketing.Async.Monitor
import Ticketing.Async.Play
import Ticketing.BookingService.Store

/-!
# Check-in

Library `TicketService`. Follows `checkIn` and `cancelByBooking` of `ticket/ticket.service.ts`, as
the jobs of a service of their own. `checkIn` reads the ticket and later saves all its columns;
`cancelByBooking` is one conditional update. A ticket is used once in the runs in which each
`checkIn` saves its ticket while the row is still `ACTIVE`.
-/

namespace Ticketing.TicketService

open Async Store
open BookingService (Ticket TicketStatus cancelTicket)

/-- `ticket/entities/ticket.entity.ts`, with the column that `checkIn` sets. -/
structure ScannedTicket extends Ticket where
  checkedInAt : Option Nat
  deriving DecidableEq, Repr

/-- The table of tickets. -/
abbrev Db : Type := Table fun t : ScannedTicket ↦ t.id

/-- What the service awaits. -/
inductive Op where
  | findByCode (ticketCode : String)
  | save (ticket : ScannedTicket)
  | cancelActive (bookingId : Id)
  | now
  deriving DecidableEq, Repr

/-- The replies. -/
abbrev Res : Op → Type
  | .findByCode _ => Option ScannedTicket
  | .save _ => ScannedTicket
  | .cancelActive _ => Unit
  | .now => Nat

/-- The operations of the ticket service. -/
abbrev sig : Sig := ⟨Op, Res, Exception⟩

/-- A ticket after the update of `cancelByBooking`. -/
def cancelScanned (bookingId : Id) (t : ScannedTicket) : ScannedTicket :=
  { t with toTicket := cancelTicket bookingId t.toTicket }

/-- The effect of an operation that does not fail. -/
def perform (x : Choice) : (o : Op) → Db → sig.Answer o × Db
  | .findByCode code, s => (.ok (s.rows.find? fun t ↦ t.ticketCode = code), s)
  | .save t, s => (.ok t, s.put t)
  | .cancelActive b, s => (.ok (), s.putAll (s.rows.map (cancelScanned b)))
  | .now, s => (.ok x.now, s)

/-- The clock cannot fail. -/
def Op.fallible : Op → Bool
  | .now => false
  | _ => true

/-- One awaited operation: it fails without effect, or has its effect. -/
def exec (x : Choice) : (o : Op) → Db → sig.Answer o × Db :=
  sig.attempt Op.fallible x.fault (perform x)

/-- An operation fails without effect, or has its effect. -/
theorem exec_cases (x : Choice) (o : Op) (s : Db) :
    (o.fallible = true ∧ ∃ e, exec x o s = (.error e, s)) ∨ exec x o s = perform x o s :=
  Sig.attempt_cases (S := sig) o s

/-- `TicketService.checkIn` (`ticket.service.ts:97–119`). -/
def checkIn (ticketCode : String) : Code sig Unit ScannedTicket := do
  match ← Code.await (S := sig) (.findByCode ticketCode) with
  | none => throw (.notFound ("Ticket with code " ++ ticketCode ++ " not found"))
  | some ticket =>
    if ticket.status = .used then
      throw (.badRequest ("Ticket with code " ++ ticketCode ++ " has already been used"))
    else if ticket.status = .cancelled then
      throw (.badRequest ("Ticket with code " ++ ticketCode ++ " has been cancelled"))
    else
      let now ← Code.await (S := sig) .now
      let used : Ticket := { ticket.toTicket with status := .used }
      Code.await (S := sig) (.save { ticket with toTicket := used, checkedInAt := some now })

/-- `TicketService.cancelByBooking` (`ticket.service.ts:121–133`). -/
def cancelByBooking (bookingId : Id) : Code sig Unit Unit :=
  Code.await (S := sig) (.cancelActive bookingId)

/-- What runs in the service. -/
inductive Job where
  | checkIn (ticketCode : String)
  | cancelByBooking (bookingId : Id)
  deriving DecidableEq

/-- The code of a job; a check-in returns the saved ticket. -/
def Job.run : Job → Code sig Unit (Option ScannedTicket)
  | .checkIn code => do
    let ticket ← TicketService.checkIn code
    pure (some ticket)
  | .cancelByBooking b => do
    TicketService.cancelByBooking b
    pure none

/-- The ticket service. -/
abbrev service : Service where
  toSig := sig
  State := Db
  Choice := Choice
  exec := exec
  Job := Job
  Reply := Option ScannedTicket
  code j := j.run.prog

/-- The stored status of a ticket. -/
def statusOf (s : Db) (id : Id) : Option TicketStatus := (s.find id).map fun t ↦ t.status

/-- The status stays, or goes from `ACTIVE` to `USED` or to `CANCELLED`. -/
def Once (a b : Option TicketStatus) : Prop :=
  a = b ∨ (a = some .active ∧ (b = some .used ∨ b = some .cancelled))

/-- From `p` to a later `q` the status of each ticket changes at most once, and at most one check-in
of a ticket has returned. -/
structure UsedOnce (p q : Pool service) : Prop where
  status : ∀ id, Once (statusOf p.conf.state id) (statusOf q.conf.state id)
  sole : ∀ t u i j ticket ticket', q.At t i (.ret (.ok (some ticket))) →
    q.At u j (.ret (.ok (some ticket'))) → ticket.id = ticket'.id → t = u

/-- The runs in which a ticket that is saved is stored as `ACTIVE`. -/
def stillActive : Regime service where
  may c
    | ⟨_, _, .save ticket, .ok _⟩ => statusOf c.state ticket.id = some .active
    | _ => True
  excl _ _ := False

instance (c : Conf service) (ev : Event service) : Decidable (stillActive.may c ev) := by
  unfold stillActive
  dsimp only
  split <;> infer_instance

instance (i j : Job) : Decidable (stillActive.excl i j) := inferInstanceAs (Decidable False)

/-- What a check-in does: it saves tickets as `USED`, and remembers the one it has saved. -/
def scan : Monitor service (Option Id) where
  init := none
  next
    | _, .save ticket, .ok _ => some ticket.id
    | s, _, _ => s
  may
    | _, _, .save ticket => ticket.status = .used
    | _, _, _ => True

/-- The operation saves a ticket. -/
def Op.saves : Op → Bool
  | .save _ => true
  | _ => false

/-- The event saved the ticket. -/
def savedBy (ev : Event service) : Option Id := scan.next none ev.op ev.answer

variable {p q : Pool service} {c : Conf service} {t : Nat} {j : Job} {x : Choice} {o : Op} {s : Db}

/-- A status that has changed once stays. -/
theorem Once.trans {a b d : Option TicketStatus} (h : Once a b) (h' : Once b d) : Once a d := by
  rcases h with rfl | ⟨ha, hb⟩
  · exact h'
  · rcases h' with rfl | ⟨hb', -⟩
    · exact .inr ⟨ha, hb⟩
    · rcases hb with hb | hb <;> rw [hb] at hb' <;> cases hb'

/-- Each job obeys: a check-in that returns a ticket has saved it. -/
theorem job_scan (j : Job) : scan.Obeys j (service.code j)
    (fun r s ↦ ∀ ticket, r = .ok (some ticket) → s = some ticket.id) none := by
  have quiet : ∀ {o : Op} {I : Option Id → Prop}, o.saves = false →
      scan.Keeps j (fun (_ : Unit) ↦ I) (Code.await (S := sig) o) := by
    intro o I ho
    apply Monitor.Holds.quiet
    intro s
    cases o with
    | save ticket => cases ho
    | _ => exact ⟨trivial, fun _ ↦ rfl⟩
  have job : scan.Holds j (fun (_ : Unit) _ ↦ True) j.run
      (fun a _ s ↦ ∀ ticket, a = some ticket → s = some ticket.id) fun _ _ _ ↦ True := by
    cases j with
    | cancelByBooking b =>
      apply Monitor.Holds.bind (I := fun _ _ _ ↦ True) (quiet rfl)
      intro _
      apply Monitor.Holds.ret
      intro l s _ ticket h
      cases h
    | checkIn code =>
      apply Monitor.Holds.bind (I := fun ticket _ s ↦ s = some ticket.id)
      · apply Monitor.Holds.bind (I := fun _ _ _ ↦ True) (quiet rfl)
        intro found
        cases found with
        | none => exact Monitor.Holds.raise _ fun _ _ _ ↦ trivial
        | some ticket =>
          dsimp only
          split
          · exact Monitor.Holds.raise _ fun _ _ _ ↦ trivial
          · split
            · exact Monitor.Holds.raise _ fun _ _ _ ↦ trivial
            · apply Monitor.Holds.bind (I := fun _ _ _ ↦ True) (quiet rfl)
              intro now
              apply Monitor.Holds.await
              · exact fun _ _ _ ↦ rfl
              · rintro saved l s ⟨x, s', hr⟩ -
                change (exec x (.save _) s').1 = .ok saved at hr
                rcases exec_cases x (.save _) s' with ⟨-, e, he⟩ | he
                · rw [he] at hr
                  cases hr
                · rw [he] at hr
                  cases hr
                  rfl
              · exact fun _ _ _ _ _ ↦ trivial
      · intro ticket
        apply Monitor.Holds.ret
        intro l s hs ticket' h
        cases h
        exact hs
  refine Monitor.obeys_prog.mpr ((job () none trivial).post ?_ ?_)
  · intro a l s h ticket ha
    exact h ticket (Except.ok.inj ha)
  · intro e l s _ ticket ha
    cases ha

/-! ### Steps -/

/-- The update of `cancelByBooking` keeps the identifier, and changes a status at most from `ACTIVE`
to `CANCELLED`. -/
theorem cancelScanned_once (b : Id) (ticket : ScannedTicket) :
    (cancelScanned b ticket).id = ticket.id ∧
    Once (some ticket.status) (some (cancelScanned b ticket).status) := by
  unfold cancelScanned cancelTicket
  by_cases h : ticket.bookingId = b ∧ ticket.status = .active
  · simp [h, Once]
  · simp [h, Once]

/-- A step changes a status at most once, if it saves only tickets that are stored as `ACTIVE`. -/
theorem once_after (ha : scan.may j (scan.state t c.log) o)
    (hm : stillActive.may c ⟨t, j, o, c.answer x o⟩) (id : Id) :
    Once (statusOf c.state id) (statusOf (c.after t j x o).state id) := by
  show Once _ (statusOf (exec x o c.state).2 id)
  change stillActive.may c ⟨t, j, o, (exec x o c.state).1⟩ at hm
  rcases exec_cases x o c.state with ⟨-, e, he⟩ | he
  · rw [he]
    exact .inl rfl
  · rw [he] at hm ⊢
    cases o with
    | save ticket =>
      have active : statusOf c.state ticket.id = some .active := hm
      have used : ticket.status = .used := ha
      by_cases hid : ticket.id = id
      · subst hid
        right
        refine ⟨active, .inl ?_⟩
        show ((c.state.put ticket).find ticket.id).map _ = _
        simp [used]
      · left
        show _ = ((c.state.put ticket).find id).map _
        rw [Table.find_put, if_neg hid]
        rfl
    | cancelActive b =>
      show Once _ (((c.state.putAll (c.state.rows.map (cancelScanned b))).find id).map _)
      rw [Table.find_putAll_map _ _ fun ticket ↦ (cancelScanned_once b ticket).1]
      unfold statusOf
      cases hf : c.state.find id with
      | none => exact .inl rfl
      | some ticket => exact (cancelScanned_once b ticket).2
    | findByCode code => exact .inl rfl
    | now => exact .inl rfl

/-- A save is remembered; other operations tell nothing. -/
theorem next_eq (s : Option Id) (ev : Event service) :
    scan.next s ev.op ev.answer = (savedBy ev).or s := by
  obtain ⟨t, j, o, a⟩ := ev
  cases o with
  | save ticket => cases a <;> rfl
  | _ => rfl

/-- A thread that remembers a ticket has saved it. -/
theorem saved_of_state {id : Id} {log : List (Event service)} (h : scan.state t log = some id) :
    ∃ ev ∈ log, ev.tid = t ∧ savedBy ev = some id := by
  induction log with
  | nil => cases h
  | cons ev log ih =>
    have old : scan.state t log = some id →
        ∃ ev' ∈ ev :: log, ev'.tid = t ∧ savedBy ev' = some id := by
      intro h
      obtain ⟨ev', hm, hev⟩ := ih h
      exact ⟨ev', List.mem_cons_of_mem _ hm, hev⟩
    by_cases ht : ev.tid = t
    · have own : scan.state t (ev :: log) = scan.next (scan.state t log) ev.op ev.answer :=
        if_pos ht
      rw [own, next_eq] at h
      cases hs : savedBy ev with
      | some id' =>
        rw [hs] at h
        exact ⟨ev, List.mem_cons_self, ht, hs.trans h⟩
      | none =>
        rw [hs] at h
        exact old h
    · rw [Monitor.state_other _ ht] at h
      exact old h

/-- Tickets that have been saved are `USED`, each saved by one thread. -/
structure Saved (c : Conf service) : Prop where
  used : ∀ ev ∈ c.log, ∀ id, savedBy ev = some id → statusOf c.state id = some .used
  sole : ∀ ev ∈ c.log, ∀ ev' ∈ c.log, ∀ id, savedBy ev = some id → savedBy ev' = some id →
    ev.tid = ev'.tid

/-- An event that saves a ticket finds it `ACTIVE` and leaves it `USED`. -/
theorem saved_now (ha : scan.may j (scan.state t c.log) o)
    (hm : stillActive.may c ⟨t, j, o, c.answer x o⟩) {id : Id}
    (hs : savedBy ⟨t, j, o, c.answer x o⟩ = some id) :
    statusOf c.state id = some .active ∧ statusOf (c.after t j x o).state id = some .used := by
  cases o with
  | save ticket =>
    have used : ticket.status = .used := ha
    rcases exec_cases x (.save ticket) c.state with ⟨-, e, he⟩ | he
    · have failed : c.answer x (.save ticket) = .error e := congrArg Prod.fst he
      rw [failed] at hs
      cases hs
    · have saved : c.answer x (.save ticket) = .ok ticket := congrArg Prod.fst he
      have state : (c.after t j x (.save ticket)).state = c.state.put ticket := congrArg Prod.snd he
      rw [saved] at hs hm
      have same : ticket.id = id := Option.some.inj hs
      subst same
      refine ⟨hm, ?_⟩
      rw [state]
      show ((c.state.put ticket).find ticket.id).map _ = _
      simp [used]
  | _ => cases hs

/-- Each step keeps the saved tickets `USED`. -/
theorem Saved.step (h : Saved c) (ha : scan.may j (scan.state t c.log) o)
    (hm : stillActive.may c ⟨t, j, o, c.answer x o⟩) : Saved (c.after t j x o) := by
  have kept : ∀ ev ∈ c.log, ∀ id, savedBy ev = some id →
      statusOf (c.after t j x o).state id = some .used := by
    intro ev hev id hs
    rcases once_after ha hm id with same | ⟨active, -⟩
    · rw [← same]
      exact h.used ev hev id hs
    · rw [h.used ev hev id hs] at active
      cases active
  -- what is saved now was `ACTIVE`, so it had not been saved
  have fresh : ∀ ev ∈ c.log, ∀ id, savedBy ev = some id →
      savedBy ⟨t, j, o, c.answer x o⟩ ≠ some id := by
    intro ev hev id hs now
    have active := (saved_now ha hm now).1
    rw [h.used ev hev id hs] at active
    cases active
  constructor
  · intro ev hev id hs
    rcases List.mem_cons.mp hev with rfl | hev
    · exact (saved_now ha hm hs).2
    · exact kept ev hev id hs
  · intro ev hev ev' hev' id hs hs'
    rcases List.mem_cons.mp hev with rfl | hev
    · rcases List.mem_cons.mp hev' with rfl | hev'
      · rfl
      · exact absurd hs (fresh ev' hev' id hs')
    · rcases List.mem_cons.mp hev' with rfl | hev'
      · exact absurd hs' (fresh ev hev id hs)
      · exact h.sole ev hev ev' hev' id hs hs'

/-! ### Runs -/

/-- The runs from any tickets. -/
abbrev Reach (G : Regime service) (s : Db) : Pool service → Prop := Pool.Reach G fun s' ↦ s' = s

/-- In every such run the saved tickets are `USED`. -/
theorem saved_of_reach (hp : Reach stillActive s p) : Saved p.conf := by
  induction hp with
  | start _ => exact ⟨fun _ h ↦ (List.not_mem_nil h).elim, fun _ h ↦ (List.not_mem_nil h).elim⟩
  | spawn _ _ ih => exact ih
  | run hp ht hm ih =>
    exact ih.step ((Monitor.watches_of_reach job_scan hp).may ht) hm

/-- In the runs in which a ticket is saved only while it is stored as `ACTIVE`, it is used once. -/
theorem ticket_used_once (hp : Reach stillActive s p) (hq : Pool.Later stillActive p q) :
    UsedOnce p q := by
  have reached := hp.later hq
  constructor
  · intro id
    refine Pool.Later.induct (K := fun a b ↦ Once (statusOf a id) (statusOf b id))
      (fun _ ↦ .inl rfl) (fun _ _ _ ↦ Once.trans) ?_ hp hq
    intro p t j x o k hp ht hm
    exact once_after ((Monitor.watches_of_reach job_scan hp).may ht) hm id
  · intro t u i j ticket ticket' ht hu hid
    have watched := Monitor.watches_of_reach job_scan reached
    obtain ⟨ev, hev, rfl, hs⟩ := saved_of_state (watched.ended ht ticket rfl)
    obtain ⟨ev', hev', rfl, hs'⟩ := saved_of_state (watched.ended hu ticket' rfl)
    rw [← hid] at hs'
    exact (saved_of_reach reached).sole ev hev ev' hev' ticket.id hs hs'

/-- A ticket that can be used. -/
def sampleTicket : ScannedTicket where
  id := 0
  bookingId := 0
  seatId := "A"
  bookingItemId := 0
  ticketCode := "TK"
  qrCodeData := ""
  status := .active
  sectionName := "main"
  row := "1"
  seatNumber := "1"
  attendeeName := none
  attendeeEmail := none
  checkedInAt := none

/-- A scanner finds and saves the ticket; another one scans it too, when the first has read it if
`early`, otherwise when the first has saved it. -/
def twoScanners (early : Bool) : List (Label service) :=
  [.spawn (.checkIn "TK"), .spawn (.checkIn "TK"), .run 0 {}] ++
    (if early then [.run 1 {}, .run 0 {}, .run 0 {}, .run 1 {}, .run 1 {}]
      else [.run 0 {}, .run 0 {}, .run 1 {}])

/-- If the second scanner reads the ticket after it was saved, it is used once. -/
theorem ticket_used_once_late :
    ∃ q, Pool.play stillActive (twoScanners false)
        (.start (Table.empty.put sampleTicket)) = some q ∧
      statusOf q.conf.state 0 = some .used ∧
        UsedOnce (.start (Table.empty.put sampleTicket)) q := by
  have played : (Pool.play stillActive (twoScanners false)
      (.start (Table.empty.put sampleTicket))).any fun q ↦
        statusOf q.conf.state 0 = some .used := by
    decide +kernel
  simp only [Option.any_eq_true, decide_eq_true_eq] at played
  obtain ⟨q, hq, used⟩ := played
  exact ⟨q, hq, used, ticket_used_once (.start rfl) (Pool.later_of_play hq)⟩

/-- Two scanners that read the ticket before either saves it both return. -/
theorem ticket_used_twice :
    ¬ ∀ s p q, Reach (.free service) s p → Pool.Later (.free service) p q → UsedOnce p q := by
  have played : (Pool.play (.free service) (twoScanners true)
      (.start (Table.empty.put sampleTicket))).any fun q ↦
        ((q.reply? 0).any fun r ↦ r.any fun ticket ↦ ticket.id = 0) &&
          (q.reply? 1).any fun r ↦ r.any fun ticket ↦ ticket.id = 0 := by
    decide +kernel
  simp only [Option.any_eq_true, Bool.and_eq_true, decide_eq_true_eq] at played
  obtain ⟨q, hq, ⟨r, hr, ticket, rfl, hid⟩, r', hr', ticket', rfl, hid'⟩ := played
  obtain ⟨i, hi⟩ := Pool.exists_at_of_reply hr
  obtain ⟨j, hj⟩ := Pool.exists_at_of_reply hr'
  intro once
  have same := (once _ _ _ (.start rfl) (Pool.later_of_play hq)).sole 0 1 i j ticket ticket' hi hj
    (hid.trans hid'.symm)
  cases same

end Ticketing.TicketService
