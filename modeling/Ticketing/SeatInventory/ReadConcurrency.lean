import Ticketing.Async.Play
import Ticketing.Async.Translation
import Ticketing.SeatInventory.Lookups
import Ticketing.SeatInventory.ReadRefinement

/-!
# Writers and rebuilds that interleave

Library `SeatInventory`. Each command of a pipeline is a step of its own, so commands of other
clients come in between. A call asks for rows, saves and commits them or reads their status, and
writes the status of every row that it has saved or deleted.
-/

namespace Ticketing.SeatInventory

open Async Store

/-- The operations of the writers, of the read service, and the commands of pipelines. -/
inductive Move where
  | base (o : Op)
  | read (o : ReadOp)
  | command (c : Command)
  deriving DecidableEq, Repr

/-- The replies. -/
abbrev MoveRes : Move → Type
  | .base o => Res o
  | .read o => ReadRes o
  | .command _ => Unit

/-- The operations of calls that interleave. -/
abbrev moveSig : Sig := ⟨Move, MoveRes, Exception⟩

/-- The effect of an operation; none fails. -/
def performMove (x : Choice) : (o : Move) → ReadStores → moveSig.Answer o × ReadStores
  | .base o, s => ((perform x o s.db).1, s.withDb (perform x o s.db).2)
  | .read o, s => performRead o s
  | .command c, s => (.ok (), c.run s)

/-- `pipeline.exec()`: one command after another. -/
def pipeline : List Command → Prog moveSig (Except Exception Unit)
  | [] => .ret (.ok ())
  | c :: rest => .op (.command c) fun _ ↦ pipeline rest

/-- The operations of the writers: an HSET for each update. -/
def spread : (o : Op) → Prog moveSig (sig.Answer o)
  | .hset e updates => pipeline (updates.map fun u ↦ .hsetStatus e u.1 u.2)
  | o => .op (.base o) .ret

/-- The operations of the read service. -/
def spreadRead : (o : ReadOp) → Prog moveSig (readSig.Answer o)
  | .exec commands => pipeline commands
  | o => .op (.read o) .ret

/-- The calls that interleave. -/
inductive SyncJob where
  | write (c : WriteCall)
  | rebuild (eventId : String)
  deriving DecidableEq

/-- The program of a call. -/
def SyncJob.run : SyncJob → Prog moveSig (Except Exception Unit)
  | .write c => c.code.prog.translate spread
  | .rebuild e => (rebuildCache e : Code readSig Unit Unit).prog.translate spreadRead

/-- The writers and the read service over their stores. -/
abbrev syncService : Service where
  toSig := moveSig
  State := ReadStores
  Choice := Choice
  exec := performMove
  Job := SyncJob
  Reply := Unit
  code := SyncJob.run

/-! ### What one call does -/

/-- What a call has asked for and found, which rows its `save()` updates, whether it has committed,
and which seats it still has to write. -/
structure Round where
  asked : String × String → Bool
  found : List Seat
  updated : Option (List Seat)
  committed : Bool
  pending : List (String × String)

namespace Round

/-- A call that has done nothing. -/
def start : Round := ⟨fun _ ↦ false, [], none, false, []⟩

/-- The call has found rows. -/
def find (s : Round) (asked : String × String → Bool) (found : List Seat) : Round :=
  { s with asked := asked, found := found, updated := none }

/-- The call has saved the rows that it has found. -/
def save (s : Round) (updated : List Seat) : Round := { s with updated := some updated }

/-- The call has to write all rows that it has found. -/
def owe (s : Round) : Round := { s with pending := s.found.map Seat.place }

/-- The call has committed the rows that it has found. -/
def commit (s : Round) : Round := { s.owe with committed := true }

/-- A command was executed. -/
def command (s : Round) : Command → Round
  | .delStatus _ => s.owe
  | .hsetStatus e id _ => { s with pending := s.pending.filter (· ≠ (e, id)) }
  | _ => s

/-- The rows that the call has found, with a status. -/
def marked (s : Round) (status : SeatStatus) : List Seat :=
  s.found.map fun inv ↦ { inv with status := status }

end Round

/-- The seats of a list. -/
def listing (eventId : String) (seatIds : List String) (place : String × String) : Bool :=
  place.1 = eventId && seatIds.contains place.2

/-- The seats of an event. -/
def ofEvent (eventId : String) (place : String × String) : Bool := place.1 = eventId

/-- A writer writes the seats that it has asked for with its status, once it has committed; a
rebuild writes the rows that it has found. -/
def SyncJob.Writes (s : Round) (place : String × String) (status : SeatStatus) : SyncJob → Prop
  | .write c => s.committed = true ∧ s.asked place = true ∧ status = c.status
  | .rebuild _ => ∃ r ∈ s.found, r.place = place ∧ r.status = status

/-- What a call awaits. -/
def syncMonitor : Monitor syncService Round where
  init := .start
  next s
    | .base (.findBySeatIds e ids), .ok rows => s.find (listing e ids) rows
    | .base (.statement (.seats _)), .ok updated => s.save updated.seatRows
    | .base (.commit _), .ok _ | .base (.saveSeats _), .ok _ => s.commit
    | .read (.find e), .ok rows => s.find (ofEvent e) rows
    | .command c, .ok _ => s.command c
    | _, _ => s
  may j s
    | .base (.findBySeatIds _ _) => s.committed = false ∧ ∃ c, j = .write c
    | .base (.statement (.seats rows)) =>
      s.committed = false ∧ ∃ c, j = .write c ∧ rows = s.marked c.status
    | .base (.commit writes) => s.pending = [] ∧ ∃ c updated, j = .write c ∧
      s.updated = some updated ∧ updated.Sublist (s.marked c.status) ∧
        Op.storedSeats (.commit writes) (.ok ()) = updated
    | .base (.saveSeats rows) => s.pending = [] ∧ ∃ c, j = .write c ∧ rows = s.marked c.status
    | .base (.hset _ _) | .read (.exec _) => False
    | .read (.find _) => ∃ e, j = .rebuild e
    | .command (.delStatus e) => s.pending = [] ∧ j = .rebuild e ∧ s.asked = ofEvent e
    | .command (.hsetStatus e id status) => j.Writes s (e, id) status
    | _ => True

/-! ### Whole pipelines -/

/-- The calls of the writers, with their pipelines whole. -/
abbrev writeService : Service where
  toSig := sig
  State := Db
  Choice := Choice
  exec := perform
  Job := WriteCall
  Reply := Unit
  code c := c.code.prog

/-- What a writer awaits. -/
def writeMonitor : Monitor writeService Round where
  init := .start
  next s
    | .findBySeatIds e ids, .ok rows => s.find (listing e ids) rows
    | .statement (.seats _), .ok updated => s.save updated.seatRows
    | .commit _, .ok _ | .saveSeats _, .ok _ => s.commit
    | .hset e updates, .ok _ =>
      (updates.map fun u ↦ Command.hsetStatus e u.1 u.2).foldl Round.command s
    | _, _ => s
  may c s
    | .findBySeatIds _ _ => s.committed = false
    | .statement (.seats rows) => s.committed = false ∧ rows = s.marked c.status
    | .commit writes => s.pending = [] ∧ ∃ updated, s.updated = some updated ∧
      updated.Sublist (s.marked c.status) ∧ Op.storedSeats (.commit writes) (.ok ()) = updated
    | .saveSeats rows => s.pending = [] ∧ rows = s.marked c.status
    | .hset e updates => s.committed = true ∧
      ∀ u ∈ updates, s.asked (e, u.1) = true ∧ u.2 = c.status
    | _ => True

/-- The calls of `rebuildCache`, with their pipelines whole. -/
abbrev rebuildService : Service where
  toSig := readSig
  State := ReadStores
  Choice := Unit
  exec _ := performRead
  Job := String
  Reply := Unit
  code e := (rebuildCache e : Code readSig Unit Unit).prog

/-- What a rebuild awaits. -/
def rebuildMonitor : Monitor rebuildService Round where
  init := .start
  next s
    | .find e, .ok rows => s.find (ofEvent e) rows
    | .exec commands, .ok _ => commands.foldl Round.command s
    | _, _ => s
  may e s
    | .exec commands => s.pending = [] ∧ commands = rebuildPipeline e s.found ∧
      s.asked = ofEvent e ∧ ∀ r ∈ s.found, r.eventId = e
    | _ => True

namespace Round

variable {s : Round}

/-- Commands change only what is to be written. -/
theorem command_rest (s : Round) (c : Command) :
    (s.command c).asked = s.asked ∧ (s.command c).found = s.found ∧
      (s.command c).committed = s.committed := by
  cases c <;> exact ⟨rfl, rfl, rfl⟩

/-- What is still to be written after a pipeline without DEL. -/
theorem mem_pending {commands : List Command} (hd : ∀ e, .delStatus e ∉ commands)
    {place : String × String} (h : place ∈ (commands.foldl command s).pending) :
    place ∈ s.pending ∧ ∀ st, .hsetStatus place.1 place.2 st ∉ commands := by
  induction commands generalizing s with
  | nil => exact ⟨h, fun _ hm ↦ by cases hm⟩
  | cons c rest ih =>
    obtain ⟨hp, hn⟩ := ih (fun e hm ↦ hd e (List.mem_cons_of_mem _ hm)) h
    cases c with
    | delStatus e => exact absurd List.mem_cons_self (hd e)
    | hsetStatus e id status =>
      obtain ⟨hm, hne⟩ := List.mem_filter.mp hp
      refine ⟨hm, ?_⟩
      intro st hst
      rcases List.mem_cons.mp hst with hst | hst
      · cases hst
        simp at hne
      · exact hn st hst
    | delDetail e =>
      refine ⟨hp, fun st hst ↦ ?_⟩
      rcases List.mem_cons.mp hst with hst | hst
      · cases hst
      · exact hn st hst
    | hsetDetail e id value =>
      refine ⟨hp, fun st hst ↦ ?_⟩
      rcases List.mem_cons.mp hst with hst | hst
      · cases hst
      · exact hn st hst

end Round

/-- A pipeline runs command by command. -/
theorem pipeline_obeys {j : SyncJob} {commands : List Command} {s : Round}
    (h : ∀ c ∈ commands, ∀ s' : Round, s'.asked = s.asked → s'.found = s.found →
      s'.committed = s.committed → syncMonitor.may j s' (.command c)) :
    syncMonitor.Obeys j (pipeline commands)
      (fun r s' ↦ r = .ok () ∧ s' = commands.foldl Round.command s) s := by
  induction commands generalizing s with
  | nil => exact ⟨rfl, rfl⟩
  | cons c rest ih =>
    refine ⟨h c List.mem_cons_self s rfl rfl rfl, ?_⟩
    rintro r ⟨x, t, hr⟩
    have hr : r = .ok () := hr.symm
    subst hr
    apply ih
    intro c' hc' s' ha hf hc
    obtain ⟨ha', hf', hc''⟩ := s.command_rest c
    exact h c' (List.mem_cons_of_mem _ hc') s' (ha.trans ha') (hf.trans hf') (hc.trans hc'')

/-- The operations of a writer, command by command. -/
theorem spread_obeys {c : WriteCall} (s : Round) (o : Op) (h : writeMonitor.may c s o) :
    syncMonitor.Obeys (.write c) (spread o)
      (fun r s' ↦ writeService.Gives o r ∧ s' = writeMonitor.next s o r) s := by
  have single : ∀ o : Op, syncMonitor.may (.write c) s (.base o) →
      (∀ r, syncMonitor.next s (.base o) r = writeMonitor.next s o r) →
      syncMonitor.Obeys (.write c) (.op (.base o) .ret)
        (fun r s' ↦ writeService.Gives o r ∧ s' = writeMonitor.next s o r) s := by
    intro o hm hn
    refine ⟨hm, ?_⟩
    rintro r ⟨x, t, hr⟩
    exact ⟨⟨x, t.db, hr⟩, hn r⟩
  cases o with
  | hset e updates =>
    apply (pipeline_obeys ?_).post
    · rintro r s' ⟨rfl, rfl⟩
      exact ⟨⟨{}, .stocked .empty, rfl⟩, rfl⟩
    · intro command hm s' ha _ hc
      obtain ⟨u, hu, rfl⟩ := List.mem_map.mp hm
      obtain ⟨asked, status⟩ := h.2 u hu
      exact ⟨hc.trans h.1, by rw [ha]; exact asked, status⟩
  | findBySeatIds e ids => exact single _ ⟨h, c, rfl⟩ fun r ↦ by cases r <;> rfl
  | statement w =>
    cases w with
    | seats rows => exact single _ ⟨h.1, c, rfl, h.2⟩ fun r ↦ by cases r <;> rfl
    | holds rows => exact single _ trivial fun r ↦ by cases r <;> rfl
  | commit writes =>
    obtain ⟨hp, updated, hu⟩ := h
    exact single _ ⟨hp, c, updated, rfl, hu⟩ fun r ↦ by cases r <;> rfl
  | saveSeats rows => exact single _ ⟨h.1, c, rfl, h.2⟩ fun r ↦ by cases r <;> rfl
  | _ => exact single _ trivial fun r ↦ by cases r <;> rfl

/-- The operations of a rebuild, command by command. -/
theorem spreadRead_obeys {e : String} (s : Round) (o : ReadOp) (h : rebuildMonitor.may e s o) :
    syncMonitor.Obeys (.rebuild e) (spreadRead o)
      (fun r s' ↦ rebuildService.Gives o r ∧ s' = rebuildMonitor.next s o r) s := by
  have single : ∀ o : ReadOp, syncMonitor.may (.rebuild e) s (.read o) →
      (∀ r, syncMonitor.next s (.read o) r = rebuildMonitor.next s o r) →
      syncMonitor.Obeys (.rebuild e) (.op (.read o) .ret)
        (fun r s' ↦ rebuildService.Gives o r ∧ s' = rebuildMonitor.next s o r) s := by
    intro o hm hn
    refine ⟨hm, ?_⟩
    rintro r ⟨x, t, hr⟩
    exact ⟨⟨(), t, hr⟩, hn r⟩
  cases o with
  | exec commands =>
    obtain ⟨pending, rfl, asked, event⟩ := h
    -- The first command deletes the hash; it comes before anything is to be written.
    refine ⟨⟨pending, rfl, asked⟩, ?_⟩
    rintro r ⟨x, t, hr⟩
    have hr : r = .ok () := hr.symm
    subst hr
    apply (pipeline_obeys (s := s.owe) ?_).post
    · rintro r s' ⟨rfl, rfl⟩
      exact ⟨⟨(), ⟨.stocked .empty, .empty⟩, rfl⟩, rfl⟩
    · intro command hm s' ha hf _
      rcases List.mem_cons.mp hm with rfl | hm
      · trivial
      obtain ⟨r, hr, hm⟩ := List.mem_flatMap.mp hm
      rcases List.mem_cons.mp hm with rfl | hm
      · refine ⟨r, by rw [hf]; exact hr, ?_, rfl⟩
        rw [← event r hr]
        rfl
      · rw [List.mem_singleton.mp hm]
        trivial
  | find e' => exact single _ ⟨e, rfl⟩ fun r ↦ by cases r <;> rfl
  | _ => exact single _ trivial fun r ↦ by cases r <;> rfl

/-! ### The writers -/

section Writers

variable {c : WriteCall} {L α : Type} {e : String} {ids : List String}

/-- Operations that tell a writer nothing about the seats that it writes. -/
def Op.plain : Op → Bool
  | .findBySeatIds _ _ | .statement (.seats _) | .commit _ | .saveSeats _ | .hset _ _ => false
  | _ => true

/-- A plain operation is always allowed, and the monitor ignores it. -/
theorem quiet_of_plain {o : Op} (h : o.plain = true) : writeMonitor.Quiet c o := by
  intro s
  cases o with
  | statement w =>
    cases w with
    | seats rows => cases h
    | holds rows => exact ⟨trivial, fun r ↦ by cases r <;> rfl⟩
  | findBySeatIds e ids => cases h
  | commit writes => cases h
  | saveSeats rows => cases h
  | hset e updates => cases h
  | _ => exact ⟨trivial, fun r ↦ by cases r <;> rfl⟩

/-- Commands on lock keys are always allowed. -/
theorem quiet_of_onLocks (o : Op) (h : o.onLocks = true) : writeMonitor.Quiet c o :=
  quiet_of_plain (by cases o <;> first | rfl | cases h)

/-- No operation of the service fails. -/
theorem not_gives_error {o : Op} {err : Exception} : ¬ writeService.Gives o (.error err) := by
  rintro ⟨x, s, h⟩
  exact not_error_of_perform h

/-- An awaited operation returns, since none fails. -/
theorem await_write {o : Op} {P : L → Round → Prop} {Q : Res o → L → Round → Prop}
    {E : Exception → L → Round → Prop} (may : ∀ l s, P l s → writeMonitor.may c s o)
    (ok : ∀ a l s, writeService.Gives o (.ok a) → P l s → Q a l (writeMonitor.next s o (.ok a))) :
    writeMonitor.Holds c P (await o) Q E :=
  Monitor.Holds.await may ok fun _ _ _ h ↦ absurd h not_gives_error

/-- Nothing is committed and nothing is to be written. -/
def Round.Idle (s : Round) : Prop := s.committed = false ∧ s.pending = []

/-- The call has found rows of its list. -/
structure Round.Chosen (e : String) (ids : List String) (rows : List Seat) (s : Round) : Prop where
  asked : s.asked = listing e ids
  found : s.found = rows
  listed : ∀ r ∈ rows, listing e ids r.place = true
  committed : s.committed = false
  pending : s.pending = []

/-- The call has saved the rows that it has found, and updates some of them. -/
def Round.Saved (e : String) (ids : List String) (rows updated : List Seat) (s : Round) : Prop :=
  s.Chosen e ids rows ∧ s.updated = some updated

/-- The call has committed and has to write seats of its list. -/
structure Round.Owing (e : String) (ids : List String) (s : Round) : Prop where
  asked : s.asked = listing e ids
  committed : s.committed = true
  pending : ∀ place ∈ s.pending, listing e ids place = true

/-- A plain operation keeps every fact of the round. -/
theorem plain_holds {o : Op} (h : o.plain = true) {I : L → Round → Prop} :
    writeMonitor.Keeps c I (await o) :=
  Monitor.Holds.quiet (quiet_of_plain h)

/-- Looking up the listed rows chooses the rows of the call. -/
theorem findListed_holds :
    writeMonitor.Holds c (fun (_ : L) ↦ Round.Idle) (await (.findBySeatIds e ids))
      (fun found _ ↦ Round.Chosen e ids found) fun _ _ s ↦ s.pending = [] := by
  apply await_write
  · exact fun _ _ h ↦ h.1
  · rintro found l s ⟨x, db, hg⟩ h
    cases hg
    refine ⟨rfl, rfl, ?_, h.1, h.2⟩
    intro r hr
    exact (List.mem_filter.mp hr).2

/-- A committed call has to write the rows that it has found. -/
theorem Round.Chosen.owing {rows : List Seat} {s : Round} (h : s.Chosen e ids rows) :
    s.commit.Owing e ids := by
  refine ⟨h.asked, rfl, ?_⟩
  intro place hp
  have hp : place ∈ s.found.map Seat.place := hp
  rw [h.found] at hp
  obtain ⟨r, hr, rfl⟩ := List.mem_map.mp hp
  exact h.listed r hr

/-- A `save()` stages the changes against some state of the database. -/
theorem changes_of_gives {w w' : Write} (h : writeService.Gives (.statement w) (.ok w')) :
    ∃ s : Db, w' = s.changes w := by
  obtain ⟨x, s, h⟩ := h
  exact ⟨s, (Except.ok.inj h).symm⟩

/-- Saving the rows that were found. -/
theorem saveFound_holds {found : List Seat} {E : Exception → L → Round → Prop} :
    writeMonitor.Holds c (fun (_ : L) ↦ Round.Chosen e ids found)
      (await (.statement (.seats (found.map fun inv ↦ { inv with status := c.status }))))
      (fun w _ s ↦ w.seatRows.Sublist (found.map fun inv ↦ { inv with status := c.status }) ∧
        s.Saved e ids found w.seatRows) E := by
  apply await_write
  · intro l s h
    refine ⟨h.committed, ?_⟩
    rw [Round.marked, h.found]
  · intro w l s hg h
    obtain ⟨db, rfl⟩ := changes_of_gives hg
    exact ⟨db.seatRows_changes _, ⟨h.asked, h.found, h.listed, h.committed, h.pending⟩, rfl⟩

/-- Committing what was saved makes the changed rows pending. -/
theorem commitFound_holds {found updated : List Seat} {writes : List Write}
    (hu : updated.Sublist (found.map fun inv ↦ { inv with status := c.status }))
    (hw : Op.storedSeats (.commit writes) (.ok ()) = updated) :
    writeMonitor.Holds c (fun _ ↦ Round.Saved e ids found updated)
      (commitTransaction writes) (fun _ _ ↦ Round.Owing e ids) fun _ _ s ↦ s.pending = [] := by
  apply Monitor.Holds.bind (I := fun _ _ ↦ Round.Owing e ids)
  · apply await_write
    · rintro l s ⟨h, saved⟩
      refine ⟨h.pending, updated, saved, ?_, hw⟩
      rw [Round.marked, h.found]
      exact hu
    · exact fun _ _ _ _ h ↦ h.1.owing
  · exact fun _ ↦ Monitor.Holds.assign _ fun _ _ h ↦ h

/-- Writing the status of the listed seats. -/
theorem hsetListed_holds {E : Exception → L → Round → Prop} :
    writeMonitor.Holds c (fun (_ : L) ↦ Round.Owing e ids)
      (await (.hset e (ids.map fun seatId ↦ (seatId, c.status))))
      (fun _ _ s ↦ s.pending = []) E := by
  apply await_write
  · intro l s h
    refine ⟨h.committed, ?_⟩
    intro u hu
    obtain ⟨seatId, hid, rfl⟩ := List.mem_map.mp hu
    refine ⟨?_, rfl⟩
    rw [h.asked]
    simp [listing, hid]
  · intro a l s _ h
    rw [List.eq_nil_iff_forall_not_mem]
    intro place hp
    have noDel : ∀ e', Command.delStatus e' ∉
        (ids.map fun seatId ↦ (seatId, c.status)).map fun u ↦ Command.hsetStatus e u.1 u.2 := by
      intro e' hm
      obtain ⟨u, -, hu⟩ := List.mem_map.mp hm
      cases hu
    obtain ⟨old, unwritten⟩ := Round.mem_pending noDel hp
    have listed := h.pending place old
    simp only [listing, Bool.and_eq_true, decide_eq_true_eq, List.contains_iff_mem] at listed
    apply unwritten c.status
    rw [listed.1, List.map_map]
    exact List.mem_map.mpr ⟨place.2, listed.2, rfl⟩

/-- A transaction with its `catch` block: it throws before it has committed. -/
theorem writing_holds {d : Code sig Bool α} {undo : Exception → Code sig Bool α}
    (hd : writeMonitor.Holds c (fun _ ↦ Round.Idle) d (fun _ _ s ↦ s.pending = [])
      fun _ _ s ↦ s.pending = [])
    (hu : ∀ error, writeMonitor.Keeps c (fun _ s ↦ s.pending = []) (undo error)) :
    writeMonitor.Holds c (fun (_ : L) ↦ Round.Idle)
      (do
        await .connect
        Code.on true (tryCatch d undo) : Code sig L α)
      (fun _ _ s ↦ s.pending = []) fun _ _ s ↦ s.pending = [] := by
  apply Monitor.Holds.bind (I := fun _ _ ↦ Round.Idle)
  · apply await_write
    · exact fun _ _ _ ↦ trivial
    · exact fun _ _ _ _ h ↦ h
  intro _
  apply Monitor.Holds.on
  intro l
  apply Monitor.Holds.pre (P := fun _ ↦ Round.Idle) _ fun _ _ h ↦ h.2
  exact Monitor.Holds.tryCatch hd hu

/-- Rolling back and throwing on leaves no row pending. -/
theorem undo_holds (error : Exception) :
    writeMonitor.Keeps c (fun _ s ↦ s.pending = [])
      (do
        rollbackTransaction
        throw error : Code sig Bool α) := by
  apply Monitor.Holds.bind (I := fun _ _ s ↦ s.pending = [])
  · apply Monitor.Holds.skip
    intro opened
    split
    · exact plain_holds rfl
    · exact Monitor.Holds.raise _ fun _ _ h ↦ h
  · exact fun _ ↦ Monitor.Holds.raise _ fun _ _ h ↦ h

/-- A part of the transaction between the `save()` of the seats and the commit. -/
theorem before_holds {d : Code sig Bool α} {found updated : List Seat}
    (h : d.Awaits (writeMonitor.Quiet c)) :
    writeMonitor.Holds c (fun _ ↦ Round.Saved e ids found updated) d
      (fun _ _ ↦ Round.Saved e ids found updated) fun _ _ s ↦ s.pending = [] :=
  (Monitor.Holds.quietly h).post (fun _ _ _ h ↦ h) fun _ _ _ h ↦ h.1.pending

/-- The `try` block of `holdSeats`. -/
theorem holdTransaction_writes (a : HoldCall) :
    writeMonitor.Holds (.holdSeats a) (fun _ ↦ Round.Idle)
      (holdTransaction a.eventId a.seatIds a.userId a.sessionId) (fun _ _ s ↦ s.pending = [])
      fun _ _ s ↦ s.pending = [] := by
  unfold holdTransaction
  apply Monitor.Holds.bind findListed_holds
  intro found
  dsimp only
  split
  · exact Monitor.Holds.raise _ fun _ _ h ↦ h.pending
  · apply Monitor.Holds.bind saveFound_holds
    intro updated
    apply Monitor.Holds.assume
    intro fewer
    apply Monitor.Holds.bind (before_holds (Code.Awaits.await (quiet_of_plain rfl)))
    intro now
    apply Monitor.Holds.bind (before_holds (newHolds_awaits _ _ _ _ _ _))
    intro holds
    apply Monitor.Holds.bind (before_holds (Code.Awaits.await (quiet_of_plain rfl)))
    intro saved
    apply Monitor.Holds.bind (commitFound_holds fewer (by simp [Op.storedSeats]))
    intro _
    apply Monitor.Holds.bind hsetListed_holds
    exact fun _ ↦ Monitor.Holds.ret _ fun _ _ h ↦ h

/-- A plain operation does not fail. -/
theorem plain_returns {o : Op} (h : o.plain = true) {I : L → Round → Prop}
    {E : Exception → L → Round → Prop} :
    writeMonitor.Holds c I (await o) (fun _ ↦ I) E := by
  apply await_write
  · exact fun _ s _ ↦ (quiet_of_plain h s).1
  · intro a l s _ hi
    rw [(quiet_of_plain (c := c) h s).2]
    exact hi

/-- A `save()` of holds updates no seats. -/
theorem saveHolds_returns {rows : List SeatHold} {I : L → Round → Prop}
    {E : Exception → L → Round → Prop} :
    writeMonitor.Holds c I (await (.statement (.holds rows)))
      (fun w l s ↦ w.seatRows = [] ∧ I l s) E := by
  apply await_write
  · exact fun _ _ _ ↦ trivial
  · intro w l s hg h
    obtain ⟨db, rfl⟩ := changes_of_gives hg
    exact ⟨rfl, h⟩

/-- Releasing locks keeps every fact of the round, and returns. -/
theorem releaseLocks_returns (u : String) (seatIds : List String) (released : Nat)
    {I : L → Round → Prop} {E : Exception → L → Round → Prop} :
    writeMonitor.Holds c I (releaseLocks e u seatIds released) (fun _ ↦ I) E := by
  induction seatIds generalizing released with
  | nil => exact Monitor.Holds.ret _ fun _ _ h ↦ h
  | cons seatId rest ih =>
    apply Monitor.Holds.bind (I := fun _ ↦ I) (plain_returns rfl)
    intro found
    cases found with
    | none => exact ih released
    | some lock =>
      dsimp only
      split
      · apply Monitor.Holds.bind (I := fun _ ↦ I) (plain_returns rfl)
        exact fun _ ↦ ih _
      · exact ih released

/-- What is left to do after the commit of a writer. -/
theorem after_holds {u : String} {E : Exception → Bool → Round → Prop} :
    writeMonitor.Holds c (fun _ ↦ Round.Owing e ids)
      (do
        let _ ← releaseLocks e u ids 0
        await (.hset e (ids.map fun seatId ↦ (seatId, c.status))) : Code sig Bool Unit)
      (fun _ _ s ↦ s.pending = []) E := by
  apply Monitor.Holds.bind (releaseLocks_returns u ids 0)
  exact fun _ ↦ hsetListed_holds

/-- The `try` block of `releaseSeats`. -/
theorem releaseTransaction_writes {u : String} {reason : SeatLockReleaseReason} :
    writeMonitor.Holds (.releaseSeats e ids u reason) (fun _ ↦ Round.Idle)
      (releaseTransaction e ids u reason) (fun _ _ s ↦ s.pending = [])
      fun _ _ s ↦ s.pending = [] := by
  unfold releaseTransaction
  apply Monitor.Holds.bind (I := fun _ _ ↦ Round.Idle) (plain_returns rfl)
  intro holds
  apply Monitor.Holds.bind (I := fun _ _ ↦ Round.Idle) (plain_returns rfl)
  intro now
  apply Monitor.Holds.bind saveHolds_returns
  intro updatedHolds
  apply Monitor.Holds.assume
  intro noSeats
  apply Monitor.Holds.bind findListed_holds
  intro found
  apply Monitor.Holds.bind saveFound_holds
  intro updated
  apply Monitor.Holds.assume
  intro fewer
  apply Monitor.Holds.bind (commitFound_holds fewer (by simp [Op.storedSeats, noSeats]))
  exact fun _ ↦ after_holds

/-- The `try` block of `markAsSold`. -/
theorem soldTransaction_writes {u : String} :
    writeMonitor.Holds (.markAsSold e ids u) (fun _ ↦ Round.Idle)
      (soldTransaction e ids u) (fun _ _ s ↦ s.pending = []) fun _ _ s ↦ s.pending = [] := by
  unfold soldTransaction
  apply Monitor.Holds.bind findListed_holds
  intro found
  apply Monitor.Holds.bind saveFound_holds
  intro updated
  apply Monitor.Holds.assume
  intro fewer
  apply Monitor.Holds.bind (plain_returns rfl)
  intro holds
  apply Monitor.Holds.bind (plain_returns rfl)
  intro now
  apply Monitor.Holds.bind saveHolds_returns
  intro updatedHolds
  apply Monitor.Holds.assume
  intro noSeats
  apply Monitor.Holds.bind (commitFound_holds fewer (by simp [Op.storedSeats, noSeats]))
  exact fun _ ↦ after_holds

/-- `relaseSoldSeats` writes the rows that it commits to the read model. -/
theorem relaseSoldSeats_writes :
    writeMonitor.Holds (.relaseSoldSeats e ids) (fun _ ↦ Round.Idle) (relaseSoldSeats e ids)
      (fun _ _ s ↦ s.pending = []) fun _ _ s ↦ s.pending = [] := by
  unfold relaseSoldSeats
  apply Monitor.Holds.bind findListed_holds
  intro found
  apply Monitor.Holds.bind (I := fun _ _ ↦ Round.Owing e ids)
  · apply await_write
    · intro l s h
      refine ⟨h.pending, ?_⟩
      rw [Round.marked, h.found]
      rfl
    · exact fun _ _ _ _ h ↦ h.owing
  · exact fun _ ↦ hsetListed_holds

/-- `holdSeats` writes the rows that it commits to the read model. -/
theorem holdSeats_writes (a : HoldCall) :
    writeMonitor.Holds (.holdSeats a) (fun _ ↦ Round.Idle) a.code (fun _ _ s ↦ s.pending = [])
      fun _ _ s ↦ s.pending = [] := by
  unfold HoldCall.code holdSeats
  apply Monitor.Holds.bind (I := fun _ _ ↦ Round.Idle)
  · apply (Monitor.Holds.quietly (lockSeats_awaits quiet_of_onLocks _ _ _ _)).post
    · exact fun _ _ _ h ↦ h
    · exact fun _ _ _ h ↦ h.2
  intro failed
  split
  · exact Monitor.Holds.raise _ fun _ _ h ↦ h.2
  · apply writing_holds (holdTransaction_writes a)
    intro error
    apply Monitor.Holds.bind (I := fun _ _ s ↦ s.pending = [])
    · apply Monitor.Holds.skip
      intro opened
      split
      · exact plain_holds rfl
      · exact Monitor.Holds.raise _ fun _ _ h ↦ h
    intro _
    apply Monitor.Holds.bind (releaseLocks_returns _ _ _)
    exact fun _ ↦ Monitor.Holds.raise _ fun _ _ h ↦ h

end Writers

/-- Every call of a writer has written what it has committed when it ends. -/
theorem write_obeys (c : WriteCall) :
    syncMonitor.Obeys (.write c) (SyncJob.run (.write c)) (fun _ s ↦ s.pending = []) .start := by
  have whole : writeMonitor.Holds c (fun _ ↦ Round.Idle) c.code (fun _ _ s ↦ s.pending = [])
      fun _ _ s ↦ s.pending = [] := by
    cases c with
    | holdSeats a =>
      apply Monitor.Holds.bind (holdSeats_writes a)
      exact fun _ ↦ Monitor.Holds.ret _ fun _ _ h ↦ h
    | releaseSeats e ids u reason => exact writing_holds releaseTransaction_writes undo_holds
    | markAsSold e ids u => exact writing_holds soldTransaction_writes undo_holds
    | relaseSoldSeats e ids => exact relaseSoldSeats_writes
  show syncMonitor.Obeys (.write c) (c.code.prog.translate spread) _ _
  apply Monitor.obeys_translate (V := writeService) (W := syncService) (m := writeMonitor)
    (f := spread) fun s o h ↦ spread_obeys s o h
  apply Monitor.obeys_prog.mpr
  exact whole () .start ⟨rfl, rfl⟩

/-- Every call of `rebuildCache` has written what it has deleted when it ends. -/
theorem rebuild_obeys (e : String) :
    syncMonitor.Obeys (.rebuild e) (SyncJob.run (.rebuild e)) (fun _ s ↦ s.pending = [])
      .start := by
  have whole : rebuildMonitor.Holds e (fun (_ : Unit) s ↦ s.pending = []) (rebuildCache e)
      (fun _ _ s ↦ s.pending = []) fun _ _ s ↦ s.pending = [] := by
    apply Monitor.Holds.bind (I := fun found _ s ↦ s.pending = [] ∧ s.found = found ∧
      s.asked = ofEvent e ∧ ∀ r ∈ s.found, r.eventId = e)
    · apply Monitor.Holds.await
      · exact fun _ _ _ ↦ trivial
      · rintro found l s ⟨x, t, hg⟩ h
        cases hg
        refine ⟨h, rfl, rfl, ?_⟩
        intro r hr
        exact of_decide_eq_true (List.mem_filter.mp hr).2
      · rintro err l s ⟨x, t, hg⟩
        cases hg
    intro found
    split
    · exact Monitor.Holds.ret _ fun _ _ h ↦ h.1
    · apply Monitor.Holds.await
      · rintro l s ⟨pending, rfl, asked, event⟩
        exact ⟨pending, rfl, asked, event⟩
      · rintro a l s - ⟨-, rfl, -, event⟩
        rw [List.eq_nil_iff_forall_not_mem]
        intro place hp
        have noDel : ∀ e', Command.delStatus e' ∉ s.found.flatMap fun seat ↦
            [.hsetStatus e seat.seatId seat.status, .hsetDetail e seat.seatId seat.detail] := by
          intro e' hm
          obtain ⟨r, -, hm⟩ := List.mem_flatMap.mp hm
          simp at hm
        obtain ⟨old, unwritten⟩ := Round.mem_pending (s := s.owe) noDel hp
        obtain ⟨r, hr, rfl⟩ := List.mem_map.mp old
        apply unwritten r.status
        rw [List.mem_flatMap]
        refine ⟨r, hr, ?_⟩
        rw [← event r hr]
        exact List.mem_cons_self
      · rintro err l s ⟨x, t, hg⟩
        cases hg
  show syncMonitor.Obeys (.rebuild e)
    ((rebuildCache e : Code readSig Unit Unit).prog.translate spreadRead) _ _
  apply Monitor.obeys_translate (V := rebuildService) (W := syncService) (m := rebuildMonitor)
    (f := spreadRead) fun s o h ↦ spreadRead_obeys s o h
  apply Monitor.obeys_prog.mpr
  exact whole () .start rfl

/-- Every call obeys the monitor of its writes. -/
theorem syncJob_obeys (j : SyncJob) :
    syncMonitor.Obeys j (syncService.code j) (fun _ s ↦ s.pending = []) syncMonitor.init := by
  cases j with
  | write c => exact write_obeys c
  | rebuild e => exact rebuild_obeys e

end Ticketing.SeatInventory
