import Ticketing.Async.Monitor
import Ticketing.BookingService.Service

/-!
# What a monitor sees of the outbox worker

Library `BookingService`. The worker saves a row before and after its dispatch. A monitor has to say
only what the dispatch of one row does, and the rest of the loop follows.
-/

namespace Ticketing.BookingService

open Async

variable {σ : Type} {j : Job}

/-- The worker knows `known` and dispatches rows that satisfy `row`; after a dispatch there is what
`done` says of the row, which then may be saved as completed. -/
structure Rounds (m : Monitor service σ) (j : Job) (known : σ → Prop) (row : Outbox → Prop)
    (done : Outbox → σ → Prop) : Prop where
  dispatch : ∀ entry, row entry → m.Holds j (fun (_ : Unit) ↦ known) (processEntry entry)
    (fun _ _ s ↦ known s ∧ done entry s) fun _ _ ↦ known
  may : ∀ entry s, row entry → known s → (entry.status = .completed → done entry s) →
    m.may j s (.saveEntry entry)
  saved : ∀ entry s a, known s → known (m.next s (.saveEntry entry) a)
  now : m.Quiet j .now
  /-- What is known of a row is about its event and its booking. -/
  row_congr : ∀ l l' : Outbox, l'.event = l.event → l'.aggregateId = l.aggregateId →
    row l → row l'
  done_congr : ∀ (l l' : Outbox) s, l'.event = l.event → l'.aggregateId = l.aggregateId →
    done l s → done l' s

namespace Rounds

variable {m : Monitor service σ} {known : σ → Prop} {row : Outbox → Prop}
  {done : Outbox → σ → Prop}

private theorem saveEntry (h : Rounds m j known row done) :
    m.Holds j (fun l s ↦ (row l ∧ known s) ∧ (l.status = .completed → done l s))
      (do await (.saveEntry (← entity)) : Code sig Outbox Unit)
      (fun _ l s ↦ row l ∧ known s) fun _ l s ↦ row l ∧ known s := by
  apply Monitor.Holds.read
  intro base
  apply Monitor.Holds.await
  · rintro l s ⟨rfl, ⟨hr, hk⟩, hd⟩
    exact h.may l s hr hk hd
  · rintro a l s - ⟨rfl, ⟨hr, hk⟩, -⟩
    exact ⟨hr, h.saved l s _ hk⟩
  · rintro e l s - ⟨rfl, ⟨hr, hk⟩, -⟩
    exact ⟨hr, h.saved l s _ hk⟩

private theorem completeEntry (h : Rounds m j known row done) :
    m.Keeps j (fun l s ↦ row l ∧ known s) BookingService.completeEntry := by
  unfold BookingService.completeEntry
  apply Monitor.Holds.read
  intro entry
  apply Monitor.Holds.bind (I := fun _ l s ↦ (row l ∧ known s) ∧ done l s)
  · rintro l s ⟨rfl, hr, hk⟩
    apply (Monitor.runs_on _ _).mpr
    exact (h.dispatch l hr () s hk).post (fun _ _ _ h ↦ ⟨⟨hr, h.1⟩, h.2⟩) fun _ _ _ h ↦ ⟨hr, h⟩
  intro _
  apply Monitor.Holds.bind (I := fun _ l s ↦ (row l ∧ known s) ∧ done l s)
  · apply Monitor.Holds.assign
    rintro l s ⟨⟨hr, hk⟩, hd⟩
    exact ⟨⟨h.row_congr l _ rfl rfl hr, hk⟩, h.done_congr l _ s rfl rfl hd⟩
  intro _
  apply Monitor.Holds.bind (I := fun _ l s ↦ (row l ∧ known s) ∧ done l s)
  · exact (Monitor.Holds.quiet h.now).post (fun _ _ _ h ↦ h) fun _ _ _ h ↦ h.1
  intro now
  apply Monitor.Holds.bind (I := fun _ l s ↦ (row l ∧ known s) ∧ done l s)
  · apply Monitor.Holds.assign
    rintro l s ⟨⟨hr, hk⟩, hd⟩
    exact ⟨⟨h.row_congr l _ rfl rfl hr, hk⟩, h.done_congr l _ s rfl rfl hd⟩
  intro _
  exact h.saveEntry.pre fun _ _ h ↦ ⟨h.1, fun _ ↦ h.2⟩

private theorem retryEntry (h : Rounds m j known row done) (error : Exception) :
    m.Keeps j (fun l s ↦ row l ∧ known s) (BookingService.retryEntry error) := by
  unfold BookingService.retryEntry
  apply Monitor.Holds.bind (I := fun _ l s ↦ row l ∧ known s)
  · apply Monitor.Holds.assign
    rintro l s ⟨hr, hk⟩
    exact ⟨h.row_congr l _ rfl rfl hr, hk⟩
  intro _
  apply Monitor.Holds.bind
    (I := fun _ l s ↦ (row l ∧ known s) ∧ (l.status = .completed → done l s))
  · apply Monitor.Holds.assign
    rintro l s ⟨hr, hk⟩
    refine ⟨⟨h.row_congr l _ rfl rfl hr, hk⟩, fun completed ↦ ?_⟩
    dsimp only at completed
    split at completed <;> cases completed
  intro _
  exact h.saveEntry

private theorem processPending (h : Rounds m j known row done) :
    m.Keeps j (fun l s ↦ row l ∧ known s) BookingService.processPending := by
  unfold BookingService.processPending
  apply Monitor.Holds.bind
    (I := fun _ l s ↦ (row l ∧ known s) ∧ (l.status = .completed → done l s))
  · apply Monitor.Holds.assign
    rintro l s ⟨hr, hk⟩
    exact ⟨⟨h.row_congr l _ rfl rfl hr, hk⟩, fun completed ↦ by cases completed⟩
  intro _
  apply Monitor.Holds.bind h.saveEntry
  exact fun _ ↦ Monitor.Holds.tryCatch h.completeEntry h.retryEntry

/-- The loop over the pending entries keeps what every round keeps. -/
theorem processEach (h : Rounds m j known row done) {entries : List Outbox}
    (hr : ∀ e ∈ entries, row e) :
    m.Keeps j (fun (_ : Unit) ↦ known) (BookingService.processEach entries) := by
  induction entries with
  | nil => exact Monitor.Holds.ret _ fun _ _ h ↦ h
  | cons e rest ih =>
    apply Monitor.Holds.bind (I := fun _ _ ↦ known)
    · apply Monitor.Holds.on
      intro _
      apply (h.processPending.pre _).post
      · exact fun _ _ _ h ↦ h.2
      · exact fun _ _ _ h ↦ h.2
      · rintro l s ⟨rfl, hk⟩
        exact ⟨hr l List.mem_cons_self, hk⟩
    · exact fun _ ↦ ih fun e he ↦ hr e (List.mem_cons_of_mem _ he)

end Rounds

end Ticketing.BookingService
