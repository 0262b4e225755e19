import Ticketing.Async.Stopping
import Ticketing.BookingService.Dispatches
import Ticketing.BookingService.TransactionalOutbox

/-!
# Lost outbox entries

Library `BookingService`. No tick selects an entry that is stored as `PROCESSING`. Such an entry is
in the hands of a running tick, unless the process stopped in the middle of a dispatch, or the
`catch` block could not store how it ended.
-/

namespace Ticketing.BookingService

open Async Store

/-- A new process starts with a new recovery worker. -/
def restart (s : Db) : Db := { s with isProcessing := false }

/-- A running thread other than those of `except` dispatches the entry. -/
def HeldBy (p : Process service) (n : Id) (except : Nat → Bool) : Prop :=
  ∃ t ∈ List.range p.pool.threads.length, p.since ≤ t ∧ except t = false ∧
    ∃ e ∈ dispatched t p.pool.conf.log, e.id = n

/-- Entries that are not done with, and that no running tick dispatches, are `PENDING`. -/
def NoneLost (p : Process service) : Prop :=
  ∀ e ∈ p.pool.conf.state.outbox.rows, e.status ≠ .completed → e.status ≠ .failed →
    ¬ HeldBy p e.id (fun _ ↦ false) → e.status = .pending

/-- The runs in which the process does not stop while a running tick dispatches an entry that is
stored as `PROCESSING`, and in which the `catch` block of its only dispatch stores how it ended. -/
def storedEnds : Process.Regime service where
  may p
    | ⟨t, _, .saveEntry e, .error _⟩ =>
      e.status = .pending ∨ e.status = .failed →
        ∀ row ∈ p.pool.conf.state.outbox.find e.id, row.status = .processing →
          HeldBy p e.id fun u ↦ u = t
    | _ => True
  mayStop p := ∀ row ∈ p.pool.conf.state.outbox.rows, row.status = .processing →
    ¬ HeldBy p row.id fun _ ↦ false
  restart := restart

instance (p : Process service) (n : Id) (except : Nat → Bool) : Decidable (HeldBy p n except) := by
  unfold HeldBy
  infer_instance

/-- The entry that the operation failed to save. -/
def Op.unsaved? : (o : Op) → sig.Answer o → Option Outbox
  | .saveEntry e, .error _ => some e
  | _, _ => none

instance (p : Process service) (ev : Event service) : Decidable (storedEnds.may p ev) :=
  decidable_of_iff (∀ e ∈ ev.op.unsaved? ev.answer, e.status = .pending ∨ e.status = .failed →
      ∀ row ∈ p.pool.conf.state.outbox.find e.id, row.status = .processing →
        HeldBy p e.id fun u ↦ u = ev.tid) (by
    obtain ⟨t, j, o, a⟩ := ev
    simp only [storedEnds, Op.unsaved?]
    split
    · simp
    · next other =>
      split
      · next same =>
        cases same
        exact absurd HEq.rfl (other _ _ rfl)
      · simp)

instance (p : Process service) : Decidable (storedEnds.mayStop p) := by
  unfold storedEnds
  infer_instance

/-- The process may stop at any time. -/
def anyStop : Process.Regime service := .free restart

/-- The runs that start without rows. -/
abbrev ProcessReach (G : Process.Regime service) : Process service → Prop :=
  Process.Reach G fun s ↦ s = Db.empty

/-! ### What is stored as `PROCESSING` -/

variable {p : Process service} {x : Choice} {o : Op} {s : Db} {t : Nat} {j : Job} {n : Id}

/-- Other operations store no entry as `PROCESSING`. -/
theorem processing_exec {w : Work} (ho : o.savesEntry = false) (ha : w.Allows o) {e : Outbox}
    (h : e ∈ (exec x o s).2.outbox.rows) (hst : e.status = .processing) : e ∈ s.outbox.rows := by
  have writes : ∀ (writes : List Write) (s : Db), writes.all Write.inserts = true →
      e ∈ (writes.foldl Db.write s).outbox.rows → e ∈ s.outbox.rows := by
    intro writes
    induction writes with
    | nil => exact fun s _ h ↦ h
    | cons write writes ih =>
      intro s hall h
      rw [List.all_cons, Bool.and_eq_true] at hall
      have h := ih _ hall.2 h
      cases write with
      | outbox new =>
        rcases Table.mem_put.mp h with rfl | ⟨h, -⟩
        · have hnew : new.status = .pending := of_decide_eq_true hall.1
          have hst : new.status = .processing := hst
          rw [hnew] at hst
          cases hst
        · exact h
      | _ => exact h
  rcases exec_cases x o s with ⟨-, error, he⟩ | he
  · rw [he] at h
    exact h
  · rw [he] at h
    cases o with
    | saveEntry e => cases ho
    | commit ws => exact writes ws s ha h
    | _ => exact h

/-- What is stored as `PROCESSING` is in the hands of a running tick. -/
def Held (p : Process service) : Prop :=
  ∀ e ∈ p.pool.conf.state.outbox.rows, e.status = .processing → HeldBy p e.id fun _ ↦ false

/-- An entry stays in the hands of those who go on dispatching it. -/
theorem HeldBy.mono {q : Process service} {except except' : Nat → Bool} (h : HeldBy p n except)
    (hs : q.since = p.since) (hl : p.pool.threads.length ≤ q.pool.threads.length)
    (hd : ∀ u e, except u = false → dispatched u p.pool.conf.log = some e →
      except' u = false ∧ dispatched u q.pool.conf.log = some e) : HeldBy q n except' := by
  obtain ⟨u, hu, hr, hx, e, he, hid⟩ := h
  obtain ⟨hx', he'⟩ := hd u e hx he
  have hlt := List.mem_range.mp hu
  exact ⟨u, List.mem_range.mpr (by omega), hs ▸ hr, hx', e, he', hid⟩

/-- A thread that runs and dispatches an entry. -/
theorem heldBy_of_at {q : service.Program} (ht : p.pool.At t j q) (hr : p.since ≤ t) {e : Outbox}
    (he : dispatched t p.pool.conf.log = some e) : HeldBy p e.id fun _ ↦ false :=
  ⟨t, List.mem_range.mpr (List.getElem?_eq_some_iff.mp ht).1, hr, rfl, e, he, rfl⟩

namespace Held

variable {k : sig.Answer o → service.Program}

/-- An operation that stores no entry keeps the entries held. -/
theorem other (h : Held p) (ho : o.savesEntry = false)
    (ha : (work.state t p.pool.conf.log).Allows o) : Held (p.advance t j x o k) := by
  intro e he hst
  apply HeldBy.mono (q := p.advance t j x o k) (h e (processing_exec ho ha he hst) hst) rfl
  · exact Nat.le_of_eq (List.length_set ..).symm
  · intro u e' _ hu
    refine ⟨rfl, ?_⟩
    show dispatched u (⟨t, j, o, p.pool.conf.answer x o⟩ :: p.pool.conf.log) = some e'
    by_cases hut : u = t
    · rw [hut] at hu ⊢
      rw [dispatched_self]
      exact (entry_next ho _).trans hu
    · rw [dispatched_other (Ne.symm hut)]
      exact hu

/-- Other threads go on with their entries. -/
theorem others (h : HeldBy p n fun u ↦ u = t) :
    HeldBy (p.advance t j x o k) n fun _ ↦ false := by
  apply HeldBy.mono (q := p.advance t j x o k) h rfl
  · exact Nat.le_of_eq (List.length_set ..).symm
  · intro u e hu he
    refine ⟨rfl, ?_⟩
    have hne : u ≠ t := of_decide_eq_false hu
    exact (dispatched_other (Ne.symm hne) _).trans he

/-- An entry that the thread of the step does not dispatch is in the hands of another. -/
theorem except_self (h : HeldBy p n fun _ ↦ false)
    (hn : ∀ e, dispatched t p.pool.conf.log = some e → e.id ≠ n) :
    HeldBy p n fun u ↦ u = t := by
  obtain ⟨u, hu, hr, -, e, he, hid⟩ := h
  refine ⟨u, hu, hr, ?_, e, he, hid⟩
  rw [decide_eq_false_iff_not]
  rintro rfl
  exact hn e he hid

/-- A thread that stores an entry while it dispatches one stores how the dispatch of that entry
ended. -/
theorem ends_dispatched {e e' : Outbox} (ha : (work.state t p.pool.conf.log).Allows (.saveEntry e))
    (he' : dispatched t p.pool.conf.log = some e') : e.status ≠ .processing ∧ e'.id = e.id := by
  unfold dispatched at he'
  have ends : e.status ≠ .processing := by
    intro hp
    rw [idle_of_mark ha hp] at he'
    cases he'
  obtain ⟨e'', he'', hid⟩ := entry_of_end ha ends
  rw [he'] at he''
  cases he''
  exact ⟨ends, hid⟩

/-- A save of an entry that fails keeps the entries held. -/
theorem unsaved (h : Held p) {e : Outbox} {error : Exception}
    {k : sig.Answer (.saveEntry e) → service.Program}
    (ht : p.pool.At t j (.op (.saveEntry e) k)) (hr : p.since ≤ t)
    (ha : (work.state t p.pool.conf.log).Allows (.saveEntry e))
    (he : exec x (.saveEntry e) p.pool.conf.state = (.error error, p.pool.conf.state))
    (hm : storedEnds.may p ⟨t, j, .saveEntry e, .error error⟩) :
    Held (p.advance t j x (.saveEntry e) k) := by
  have hstate : (p.advance t j x (.saveEntry e) k).pool.conf.state = p.pool.conf.state :=
    congrArg Prod.snd he
  have hlog : (p.advance t j x (.saveEntry e) k).pool.conf.log =
      ⟨t, j, .saveEntry e, .error error⟩ :: p.pool.conf.log := by
    show (⟨t, j, .saveEntry e, (exec x (.saveEntry e) p.pool.conf.state).1⟩ :
      Event service) :: p.pool.conf.log = _
    rw [he]
  intro row hrow hst
  rw [hstate] at hrow
  by_cases hd : ∃ e' ∈ dispatched t p.pool.conf.log, e'.id = row.id
  · obtain ⟨e', he', hid⟩ := hd
    by_cases hc : e.status = .completed
    · -- the thread goes on to the `catch` block
      rw [← hid]
      apply heldBy_of_at (p := p.advance t j x (.saveEntry e) k)
        ((Pool.at_advance ht).mpr (.inl ⟨rfl, rfl, rfl⟩)) hr
      rw [hlog, dispatched_self, next_unsaved, if_pos hc]
      exact he'
    · obtain ⟨hp, hid'⟩ := ends_dispatched ha he'
      have hfind : p.pool.conf.state.outbox.find e.id = some row := by
        rw [← hid', hid]
        exact Table.find_of_mem hrow
      have ends : e.status = .pending ∨ e.status = .failed := by
        cases hs : e.status <;> simp [hs] at hc hp ⊢
      have other := hm ends row hfind hst
      rw [← hid', hid] at other
      exact others other
  · refine others (except_self (h row hrow hst) ?_)
    intro e' he' hid
    exact hd ⟨e', he', hid⟩

/-- A save of an entry that succeeds keeps the entries held. -/
theorem saved (h : Held p) {e : Outbox} {k : sig.Answer (.saveEntry e) → service.Program}
    (ht : p.pool.At t j (.op (.saveEntry e) k)) (hr : p.since ≤ t)
    (ha : (work.state t p.pool.conf.log).Allows (.saveEntry e))
    (he : exec x (.saveEntry e) p.pool.conf.state = perform x (.saveEntry e) p.pool.conf.state) :
    Held (p.advance t j x (.saveEntry e) k) := by
  have hlog : (p.advance t j x (.saveEntry e) k).pool.conf.log =
      ⟨t, j, .saveEntry e, .ok ()⟩ :: p.pool.conf.log := by
    show (⟨t, j, .saveEntry e, (exec x (.saveEntry e) p.pool.conf.state).1⟩ :
      Event service) :: p.pool.conf.log = _
    rw [he]
    rfl
  intro row hrow hst
  have hrow : row ∈ (exec x (.saveEntry e) p.pool.conf.state).2.outbox.rows := hrow
  rw [he] at hrow
  rcases Table.mem_put.mp hrow with rfl | ⟨old, hne⟩
  · apply heldBy_of_at (p := p.advance t j x (.saveEntry row) k)
      ((Pool.at_advance ht).mpr (.inl ⟨rfl, rfl, rfl⟩)) hr
    rw [hlog, dispatched_self]
    exact congrArg Work.entry (if_pos hst)
  · refine others (except_self (h row old hst) ?_)
    intro e' he' hid
    exact hne (hid ▸ (ends_dispatched ha he').2)

end Held

/-! ### Runs -/

/-- Every run in which the ends of dispatches are stored keeps entries in hand. -/
theorem held_of_reach (hp : ProcessReach storedEnds p) : Held p := by
  induction hp with
  | start hs =>
    subst hs
    intro e he
    cases he
  | @spawn p j _ ih =>
    intro e he hst
    apply HeldBy.mono (q := p.spawn j) (ih e he hst) rfl
    · simp [Process.spawn, Pool.spawn]
    · exact fun _ _ _ h ↦ ⟨rfl, h⟩
  | @run p t j x o k hp hr ht hm ih =>
    have ha := (Process.watches_of_reach job_work hp).may ht
    by_cases ho : o.savesEntry = true
    · cases o with
      | saveEntry e =>
        rcases exec_cases x (.saveEntry e) p.pool.conf.state with ⟨-, error, he⟩ | he
        · apply ih.unsaved ht hr ha he
          have hm : storedEnds.may p
              ⟨t, j, .saveEntry e, (exec x (.saveEntry e) p.pool.conf.state).1⟩ := hm
          rw [he] at hm
          exact hm
        · exact ih.saved ht hr ha he
      | _ => cases ho
    · exact ih.other (Bool.eq_false_iff.mpr ho) ha
  | stop _ hm ih =>
    intro e he hst
    exact absurd (ih e he hst) (hm e he hst)

/-- While the ends of dispatches are stored, no entry is lost. -/
theorem none_lost_when_stored (hp : ProcessReach storedEnds p) : NoneLost p := by
  intro e he hc hf hn
  cases hst : e.status with
  | pending => rfl
  | processing => exact absurd (held_of_reach hp e he hst) hn
  | completed => exact absurd hst hc
  | failed => exact absurd hst hf

/-- A tick has read the entries of a booking. -/
def readEntries : List (Label service) :=
  sampleBooking 0 0 "A" ++ [.spawn .processOutbox, .run 1 {}]

instance (p : Process service) (ev : Event service) : Decidable (anyStop.may p ev) :=
  inferInstanceAs (Decidable True)

instance (p : Process service) : Decidable (anyStop.mayStop p) := inferInstanceAs (Decidable True)

/-- The process stops when an entry has been marked: it stays `PROCESSING`. -/
theorem stopped_dispatch_loses_entry :
    ¬ ∀ p, ProcessReach anyStop p → NoneLost p := by
  have played : (Process.play anyStop (readEntries.map .of ++ [.run 1 {}, .stop])
      ⟨.start Db.empty, 0⟩).any fun p ↦
        p.pool.conf.state.outbox.rows.any fun e ↦
          e.status = .processing && decide (¬ HeldBy p e.id fun _ ↦ false) := by
    decide +kernel
  simp only [Option.any_eq_true, List.any_eq_true, Bool.and_eq_true, decide_eq_true_eq] at played
  obtain ⟨p, hp, e, he, hst, hn⟩ := played
  intro none
  have pending := none p (Process.reach_of_play (.start rfl) hp) e he (by simp [hst])
    (by simp [hst]) hn
  rw [hst] at pending
  cases pending

/-- The process stops before a tick that it had started marked anything; nothing is lost. -/
theorem none_lost_when_stored_stopped :
    ∃ p, Process.play storedEnds (readEntries.map .of ++ [.stop]) ⟨.start Db.empty, 0⟩ = some p ∧
      (∃ e ∈ p.pool.conf.state.outbox.rows, e.status = .pending) ∧ NoneLost p := by
  have played : (Process.play storedEnds (readEntries.map .of ++ [.stop])
      ⟨.start Db.empty, 0⟩).any fun p ↦
        p.pool.conf.state.outbox.rows.any fun e ↦ e.status = .pending := by
    decide +kernel
  simp only [Option.any_eq_true, List.any_eq_true, decide_eq_true_eq] at played
  obtain ⟨p, hp, he⟩ := played
  exact ⟨p, hp, he, none_lost_when_stored (Process.reach_of_play (.start rfl) hp)⟩

end Ticketing.BookingService
