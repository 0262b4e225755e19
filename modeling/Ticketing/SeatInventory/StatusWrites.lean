import Ticketing.SeatInventory.Lookups
import Ticketing.SeatInventory.SoldSeats

/-!
# Who gives a seat its status

Library `SeatInventory`. A call looks up the seats that it names and saves all of them with one
status. Its `save()` updates those that have another status then, its commit stores them later, and
other calls may have stored them in between. Still the table of seats is what it was at the start
with the status that the last call gave each seat.
-/

namespace Ticketing.SeatInventory

open Async Store

/-! ### Jobs and the seats that they name -/

/-- The seat with another status. -/
def Seat.become (st : SeatStatus) (seat : Seat) : Seat := { seat with status := st }

/-- The seat is one of these seats of the event. -/
def Seat.isNamed (named : String × List String) (seat : Seat) : Bool :=
  seat.eventId = named.1 && named.2.contains seat.seatId

/-- The status that a job gives to seats. -/
def Job.status : Job → SeatStatus
  | .holdSeats _ _ _ _ => .held
  | .serve _ (.markSeatsAsSold _ _ _) => .sold
  | _ => .available

/-- The seats that a call is to change. The expiry worker finds its own. -/
def Job.seats? : Job → Option (String × List String)
  | .holdSeats e ids _ _ | .releaseSeats e ids _ | .serve _ (.releaseSeats e ids _ _)
  | .serve _ (.markSeatsAsSold e ids _) | .serve _ (.releaseSoldSeats e ids) => some (e, ids)
  | _ => none

/-- The caller is told that its seats were changed. -/
def Job.acknowledges (j : Job) : Except Exception Reply → Bool
  | .ok .done | .ok (.success true) => j.seats?.isSome
  | _ => false

/-- Only a sale gives seats the status `SOLD`. -/
theorem Job.eq_of_sold {j : Job} (h : j.status = .sold) :
    ∃ i e ids u, j = .serve i (.markSeatsAsSold e ids u) := by
  cases j with
  | serve i r =>
    cases r with
    | markSeatsAsSold e ids u => exact ⟨i, e, ids, u, rfl⟩
    | _ => cases h
  | _ => cases h

/-- Jobs that name no seats acknowledge nothing. -/
theorem Job.acknowledges_of_unnamed {j : Job} (h : j.seats? = none) (r : Except Exception Reply) :
    j.acknowledges r = false := by
  unfold Job.acknowledges
  split
  · rw [h]
    rfl
  · rw [h]
    rfl
  · rfl

/-- An operation that stored seats. -/
def Op.stores : (o : Op) → sig.Answer o → Bool
  | .saveSeats _, .ok _ | .commit _, .ok _ => true
  | _, _ => false

/-- The seat rows that a `save()` updates. -/
def Op.updates? : (o : Op) → sig.Answer o → Option (List Seat)
  | .statement (.seats _), .ok updated => some updated.seatRows
  | .saveSeats _, .ok updated => some updated
  | _, _ => none

/-- The status that the last call to store the seat gave it. -/
def lastStatus (log : List (Event service)) (seat : Seat) : SeatStatus :=
  ((log.find? (Stores seat.place)).map fun ev ↦ ev.job.status).getD seat.status

/-- Changing the status of a seat keeps its place. -/
@[simp] theorem Seat.become_place (st : SeatStatus) (seat : Seat) :
    (seat.become st).place = seat.place := rfl

/-- Changing the status of a seat keeps whether a call names it. -/
@[simp] theorem Seat.isNamed_become (named : String × List String) (st : SeatStatus)
    (seat : Seat) : (seat.become st).isNamed named = seat.isNamed named := rfl

/-- Which seats are named is a matter of their places. -/
theorem Seat.isNamed_of_place {named : String × List String} {seat seat' : Seat}
    (h : seat.place = seat'.place) : seat.isNamed named = seat'.isNamed named := by
  simp only [Seat.place, Prod.mk.injEq] at h
  simp [Seat.isNamed, h]

/-! ### What a thread may store -/

/-- The seats that a thread has found, those that its `save()` updates, and whether it has stored
these. -/
structure Rewrite where
  found : Option (List Seat) := none
  updated : Option (List Seat) := none
  stored : Bool := false

namespace Rewrite

/-- What an operation tells a thread about seats. -/
def next : Rewrite → (o : Op) → sig.Answer o → Rewrite
  | _, .findBySeatIds _ _, .ok rows => { found := some rows }
  | s, .statement (.seats _), .ok updated =>
    { s with updated := some updated.seatRows, stored := false }
  | s, .saveSeats _, .ok updated => { s with updated := some updated, stored := true }
  | s, .commit _, .ok _ => { s with stored := true }
  | s, _, _ => s

/-- The rows are all seats that were found, with the status of the job. -/
def Rewrites (j : Job) (s : Rewrite) (rows : List Seat) : Prop :=
  ∃ found, s.found = some found ∧ rows = found.map (Seat.become j.status)

/-- A call looks up the seats that it names, saves what it found, and stores what this updates. -/
def may (j : Job) (s : Rewrite) : Op → Prop
  | .findBySeatIds e ids => ∀ named ∈ j.seats?, named = (e, ids)
  | .statement (.seats rows) | .saveSeats rows => s.Rewrites j rows
  | .commit writes => s.updated = some (Op.storedSeats (.commit writes) (.ok ()))
  | _ => True

end Rewrite

/-- What each thread has found and stored. -/
def rewrites : Monitor service Rewrite where
  init := {}
  next := Rewrite.next
  may := Rewrite.may

variable {j : Job} {L : Type}

/-- Operations that tell nothing of this. -/
def Op.reads : Op → Bool
  | .statement (.seats _) => false
  | o => o.aside

private theorem rewrites_quiet {o : Op} (h : o.reads = true) : rewrites.Quiet j o := by
  intro s
  cases o with
  | statement w =>
    cases w with
    | seats rows => cases h
    | holds rows => exact ⟨trivial, fun _ ↦ rfl⟩
  | findBySeatIds e ids => cases h
  | saveSeats rows => cases h
  | commit writes => cases h
  | _ => exact ⟨trivial, fun _ ↦ rfl⟩

private theorem rewrites_aside {α : Type} {c : Code sig L α}
    (h : c.Awaits fun o : Op ↦ o.reads = true) {I : Rewrite → Prop} :
    rewrites.Keeps j (fun _ ↦ I) c :=
  Monitor.Holds.quietly (h.mono fun _ ↦ rewrites_quiet)

private theorem aside_await {o : Op} (h : o.reads = true) :
    (await o : Code sig L (Res o)).Awaits fun o : Op ↦ o.reads = true :=
  Code.Awaits.await h

private theorem aside_onLocks (o : Op) (h : o.onLocks = true) : o.reads = true := by
  cases o <;> first | rfl | cases h

/-! ### Transactions -/

/-- The thread has stored seats. -/
private abbrev Stored (s : Rewrite) : Prop := s.stored = true

/-- The thread has found these seats. -/
private abbrev HasFound (rows : List Seat) (s : Rewrite) : Prop := s.found = some rows

/-- The thread has saved its seats, and updates these. -/
private abbrev Updates (rows : List Seat) (s : Rewrite) : Prop := s.updated = some rows

/-- Nothing is known. -/
private abbrev Unknown (_ : Rewrite) : Prop := True

private theorem pass_rewrites {α : Type} {c : Code sig L α} {I : Rewrite → Prop}
    (h : c.Awaits fun o : Op ↦ o.reads = true) :
    rewrites.Holds j (fun _ ↦ I) c (fun _ _ ↦ I) fun _ _ ↦ Unknown :=
  (rewrites_aside h).post (fun _ _ _ h ↦ h) fun _ _ _ _ ↦ trivial

private theorem find_rewrites {e : String} {ids : List String}
    (hj : ∀ named ∈ j.seats?, named = (e, ids)) :
    rewrites.Holds j (fun (_ : L) ↦ Unknown) (await (.findBySeatIds e ids) : Code sig L (List Seat))
      (fun rows _ ↦ HasFound rows) fun _ _ ↦ Unknown :=
  Monitor.Holds.await (fun _ _ _ ↦ hj) (fun _ _ _ _ _ ↦ rfl) fun _ _ _ _ _ ↦ trivial

private theorem save_rewrites {found rows : List Seat}
    (h : rows = found.map (Seat.become j.status)) :
    rewrites.Holds j (fun (_ : L) ↦ HasFound found) (await (.statement (.seats rows)))
      (fun w _ ↦ Updates w.seatRows) fun _ _ ↦ Unknown :=
  Monitor.Holds.await (fun _ _ known ↦ ⟨found, known, h⟩) (fun _ _ _ _ _ ↦ rfl)
    fun _ _ _ _ _ ↦ trivial

private theorem saveHolds_rewrites {rows : List SeatHold} {I : Rewrite → Prop} :
    rewrites.Holds j (fun (_ : L) ↦ I) (await (.statement (.holds rows)))
      (fun w _ s ↦ w.seatRows = [] ∧ I s) fun _ _ ↦ Unknown := by
  apply (Monitor.Holds.gives (rewrites_quiet rfl)).post
  · exact fun _ _ _ h ↦ ⟨List.sublist_nil.mp (seatRows_of_gives h.1), h.2⟩
  · exact fun _ _ _ _ ↦ trivial

private theorem commit_rewrites {updated : List Seat} {writes : List Write}
    (h : Op.storedSeats (.commit writes) (.ok ()) = updated) :
    rewrites.Holds j (fun _ ↦ Updates updated) (commitTransaction writes) (fun _ _ ↦ Stored)
      fun _ _ ↦ Unknown := by
  unfold commitTransaction
  apply Monitor.Holds.bind (I := fun _ _ ↦ Stored)
  · apply Monitor.Holds.await
    · exact fun _ _ known ↦ known.trans (congrArg some h.symm)
    · exact fun _ _ _ _ _ ↦ rfl
    · exact fun _ _ _ _ _ ↦ trivial
  · exact fun _ ↦ Monitor.Holds.assign _ fun _ _ h ↦ h

private theorem holdTransaction_rewrites {e : String} {ids : List String}
    (hj : ∀ named ∈ j.seats?, named = (e, ids)) (hs : j.status = .held) (u n : String) :
    rewrites.Holds j (fun _ ↦ Unknown) (holdTransaction e ids u n) (fun _ _ ↦ Stored)
      fun _ _ ↦ Unknown := by
  unfold holdTransaction
  apply Monitor.Holds.bind (find_rewrites hj)
  intro found
  dsimp only
  split
  · exact Monitor.Holds.raise _ fun _ _ _ ↦ trivial
  · apply Monitor.Holds.bind (save_rewrites (by rw [hs]; rfl))
    intro updated
    apply Monitor.Holds.bind (pass_rewrites (aside_await rfl))
    intro now
    apply Monitor.Holds.bind (pass_rewrites (newHolds_awaits _ _ _ _ _ _))
    intro holds
    apply Monitor.Holds.bind (pass_rewrites (aside_await rfl))
    intro saved
    apply Monitor.Holds.bind (commit_rewrites (by simp [Op.storedSeats]))
    intro _
    apply Monitor.Holds.bind (pass_rewrites (aside_await rfl))
    exact fun _ ↦ Monitor.Holds.ret _ fun _ _ h ↦ h

private theorem releaseTransaction_rewrites {e : String} {ids : List String}
    (hj : ∀ named ∈ j.seats?, named = (e, ids)) (hs : j.status = .available) (u : String)
    (reason : SeatLockReleaseReason) :
    rewrites.Holds j (fun _ ↦ Unknown) (releaseTransaction e ids u reason) (fun _ _ ↦ Stored)
      fun _ _ ↦ Unknown := by
  unfold releaseTransaction
  apply Monitor.Holds.bind (pass_rewrites (aside_await rfl))
  intro holds
  apply Monitor.Holds.bind (pass_rewrites (aside_await rfl))
  intro now
  apply Monitor.Holds.bind saveHolds_rewrites
  intro updatedHolds
  apply Monitor.Holds.assume
  intro noSeats
  apply Monitor.Holds.bind (find_rewrites hj)
  intro found
  apply Monitor.Holds.bind (save_rewrites (by rw [hs]; rfl))
  intro updated
  apply Monitor.Holds.bind (commit_rewrites (by simp [Op.storedSeats, noSeats]))
  intro _
  apply Monitor.Holds.bind (pass_rewrites (releaseLocks_awaits aside_onLocks _ _ _ _))
  exact fun _ ↦ pass_rewrites (aside_await rfl)

private theorem soldTransaction_rewrites {e : String} {ids : List String}
    (hj : ∀ named ∈ j.seats?, named = (e, ids)) (hs : j.status = .sold) (u : String) :
    rewrites.Holds j (fun _ ↦ Unknown) (soldTransaction e ids u) (fun _ _ ↦ Stored)
      fun _ _ ↦ Unknown := by
  unfold soldTransaction
  apply Monitor.Holds.bind (find_rewrites hj)
  intro found
  apply Monitor.Holds.bind (save_rewrites (by rw [hs]; rfl))
  intro updated
  apply Monitor.Holds.bind (pass_rewrites (aside_await rfl))
  intro holds
  apply Monitor.Holds.bind (pass_rewrites (aside_await rfl))
  intro now
  apply Monitor.Holds.bind saveHolds_rewrites
  intro updatedHolds
  apply Monitor.Holds.assume
  intro noSeats
  apply Monitor.Holds.bind (commit_rewrites (by simp [Op.storedSeats, noSeats]))
  intro _
  apply Monitor.Holds.bind (pass_rewrites (releaseLocks_awaits aside_onLocks _ _ _ _))
  exact fun _ ↦ pass_rewrites (aside_await rfl)

private theorem transaction_rewrites {α : Type} {c : Code sig Bool α}
    {undo : Exception → Code sig Bool Unit}
    (hc : rewrites.Holds j (fun _ ↦ Unknown) c (fun _ _ ↦ Stored) fun _ _ ↦ Unknown)
    (hu : ∀ error, (undo error).Awaits fun o : Op ↦ o.reads = true) :
    rewrites.Holds j (fun (_ : L) ↦ Unknown)
      (do
        await .connect
        Code.on true <| tryCatch c fun error ↦ do
          undo error
          throw error)
      (fun _ _ ↦ Stored) fun _ _ ↦ Unknown := by
  apply Monitor.Holds.bind (pass_rewrites (aside_await rfl))
  intro _
  apply Monitor.Holds.on
  intro _
  apply Monitor.Holds.pre (P := fun _ ↦ Unknown) _ fun _ _ _ ↦ trivial
  apply Monitor.Holds.tryCatch hc
  intro error
  apply Monitor.Holds.bind (pass_rewrites (hu error))
  exact fun _ ↦ Monitor.Holds.raise _ fun _ _ h ↦ h

private theorem rollback_awaits : rollbackTransaction.Awaits fun o : Op ↦ o.reads = true := by
  unfold rollbackTransaction
  apply Code.Awaits.bind Code.Awaits.entity
  intro active
  split
  · exact aside_await rfl
  · exact Code.Awaits.raise _

private theorem holdSeats_rewrites {e : String} {ids : List String}
    (hj : ∀ named ∈ j.seats?, named = (e, ids)) (hs : j.status = .held) (u n : String) :
    rewrites.Holds j (fun _ ↦ Unknown) (holdSeats e ids u n) (fun _ _ ↦ Stored)
      fun _ _ ↦ Unknown := by
  unfold holdSeats
  apply Monitor.Holds.bind (pass_rewrites (lockSeats_awaits aside_onLocks e ids u n))
  intro failed
  split
  · exact Monitor.Holds.raise _ fun _ _ h ↦ h
  · apply Monitor.Holds.bind (pass_rewrites (aside_await rfl))
    intro _
    apply Monitor.Holds.on
    intro _
    apply Monitor.Holds.pre (P := fun _ ↦ Unknown) _ fun _ _ _ ↦ trivial
    apply Monitor.Holds.tryCatch (holdTransaction_rewrites hj hs u n)
    intro error
    apply Monitor.Holds.bind (pass_rewrites rollback_awaits)
    intro _
    apply Monitor.Holds.bind (pass_rewrites (releaseLocks_awaits aside_onLocks _ _ _ _))
    exact fun _ ↦ Monitor.Holds.raise _ fun _ _ h ↦ h

private theorem releaseSeats_rewrites {e : String} {ids : List String}
    (hj : ∀ named ∈ j.seats?, named = (e, ids)) (hs : j.status = .available) (u : String)
    (reason : SeatLockReleaseReason) :
    rewrites.Holds j (fun _ ↦ Unknown) (releaseSeats e ids u reason) (fun _ _ ↦ Stored)
      fun _ _ ↦ Unknown :=
  transaction_rewrites (releaseTransaction_rewrites hj hs u reason) fun _ ↦ rollback_awaits

private theorem markAsSold_rewrites {e : String} {ids : List String}
    (hj : ∀ named ∈ j.seats?, named = (e, ids)) (hs : j.status = .sold) (u : String) :
    rewrites.Holds j (fun _ ↦ Unknown) (markAsSold e ids u) (fun _ _ ↦ Stored)
      fun _ _ ↦ Unknown :=
  transaction_rewrites (soldTransaction_rewrites hj hs u) fun _ ↦ rollback_awaits

private theorem relaseSoldSeats_rewrites {e : String} {ids : List String}
    (hj : ∀ named ∈ j.seats?, named = (e, ids)) (hs : j.status = .available) :
    rewrites.Holds j (fun (_ : Unit) ↦ Unknown) (relaseSoldSeats e ids) (fun _ _ ↦ Stored)
      fun _ _ ↦ Unknown := by
  unfold relaseSoldSeats
  apply Monitor.Holds.bind (find_rewrites hj)
  intro found
  apply Monitor.Holds.bind (I := fun _ _ ↦ Stored)
  · apply Monitor.Holds.await
    · exact fun _ _ known ↦ ⟨found, known, by rw [hs]; rfl⟩
    · exact fun _ _ _ _ _ ↦ rfl
    · exact fun _ _ _ _ _ ↦ trivial
  · exact fun _ ↦ pass_rewrites (aside_await rfl)

private theorem processExpiredHolds_rewrites (hj : j.seats? = none) (hs : j.status = .available) :
    rewrites.Keeps j (fun _ ↦ Unknown) processExpiredHolds := by
  have groups : ∀ groups, rewrites.Keeps j (fun _ ↦ Unknown) (releaseGroups groups) := by
    intro groups
    induction groups with
    | nil => exact Monitor.Holds.ret _ fun _ _ h ↦ h
    | cons group rest ih =>
      obtain ⟨key, holds⟩ := group
      unfold releaseGroups
      cases holds with
      | nil => exact ih
      | cons hold others =>
        apply Monitor.Holds.bind (I := fun _ _ ↦ Unknown)
        · apply Monitor.Holds.tryCatch (F := fun _ _ ↦ Unknown)
          · apply (releaseSeats_rewrites (by simp [hj]) hs _ _).post
            · exact fun _ _ _ _ ↦ trivial
            · exact fun _ _ _ h ↦ h
          · exact fun _ ↦ Monitor.Holds.ret _ fun _ _ h ↦ h
        · exact fun _ ↦ ih
  unfold processExpiredHolds
  apply Monitor.Holds.bind (pass_rewrites (aside_await rfl))
  intro entered
  split
  · apply Monitor.Holds.bind (I := fun _ _ ↦ Unknown)
    · apply Monitor.Holds.tryCatch (F := fun _ _ ↦ Unknown)
      · unfold releaseExpired
        apply Monitor.Holds.bind (pass_rewrites (aside_await rfl))
        intro now
        apply Monitor.Holds.bind (pass_rewrites (aside_await rfl))
        exact fun holds ↦ groups _
      · intro error
        apply Monitor.Holds.bind (pass_rewrites (aside_await rfl))
        exact fun _ ↦ Monitor.Holds.raise _ fun _ _ h ↦ h
    · exact fun _ ↦ pass_rewrites (aside_await rfl)
  · exact Monitor.Holds.ret _ fun _ _ h ↦ h

/-! ### Jobs -/

/-- A call that is acknowledged has stored its seats. -/
def Acknowledged (j : Job) (r : Except Exception Reply) (s : Rewrite) : Prop :=
  j.acknowledges r = true → s.stored = true

private theorem verifyHold_aside (e u : String) (ids : List String) :
    (grpcVerifyHold e u ids).Awaits fun o : Op ↦ o.reads = true := by
  induction ids with
  | nil => exact Code.Awaits.ret _
  | cons id rest ih =>
    unfold grpcVerifyHold
    apply Code.Awaits.bind (aside_await rfl)
    intro found
    cases found with
    | none => exact Code.Awaits.ret _
    | some lock =>
      dsimp only
      split
      · exact ih
      · exact Code.Awaits.ret _

/-- Every job stores the seats that it names. -/
theorem job_rewrites (j : Job) : rewrites.Obeys j (service.code j) (Acknowledged j) {} := by
  -- a call of the HTTP API returns, or throws
  have returned : ∀ {α : Type} {c : Code sig Unit α},
      rewrites.Holds j (fun _ ↦ Unknown) c (fun _ _ ↦ Stored) (fun _ _ ↦ Unknown) →
      rewrites.Holds j (fun _ ↦ Unknown) (do let _ ← c; pure .done : Code sig Unit Reply)
        (fun a _ ↦ Acknowledged j (.ok a)) fun e _ ↦ Acknowledged j (.error e) := by
    intro α c hc
    apply Monitor.Holds.bind (hc.post (fun _ _ _ h ↦ h) fun _ _ _ _ told ↦ by cases told)
    exact fun _ ↦ Monitor.Holds.ret _ fun _ _ h _ ↦ h
  -- a call over gRPC answers whether it succeeded
  have success : ∀ {c : Code sig Unit Unit},
      rewrites.Holds j (fun _ ↦ Unknown) c (fun _ _ ↦ Stored) (fun _ _ ↦ Unknown) →
      rewrites.Holds j (fun _ ↦ Unknown) (answerSuccess c)
        (fun a _ ↦ Acknowledged j (.ok a)) fun e _ ↦ Acknowledged j (.error e) := by
    intro c hc
    apply Monitor.Holds.tryCatch
    · apply Monitor.Holds.bind hc
      exact fun _ ↦ Monitor.Holds.ret _ fun _ _ h _ ↦ h
    · exact fun _ ↦ Monitor.Holds.ret _ fun _ _ _ told ↦ by cases told
  suffices h : rewrites.Holds j (fun (_ : Unit) ↦ Unknown) j.run
      (fun a _ ↦ Acknowledged j (.ok a)) (fun e _ ↦ Acknowledged j (.error e)) from
    Monitor.obeys_prog.mpr (h () {} trivial)
  -- the other jobs name no seats
  have unnamed : ∀ {c : Code sig Unit Reply}, j.seats? = none →
      rewrites.Keeps j (fun _ ↦ Unknown) c →
      rewrites.Holds j (fun _ ↦ Unknown) c (fun a _ ↦ Acknowledged j (.ok a))
        fun e _ ↦ Acknowledged j (.error e) := by
    intro c hj hc
    apply hc.post
    · intro a _ s _ told
      rw [Job.acknowledges_of_unnamed hj] at told
      cases told
    · intro e _ s _ told
      rw [Job.acknowledges_of_unnamed hj] at told
      cases told
  cases j with
  | holdSeats e ids u n => exact returned (holdSeats_rewrites (by simp [Job.seats?]) rfl u n)
  | releaseSeats e ids u =>
    exact returned (releaseSeats_rewrites (by simp [Job.seats?]) rfl u _)
  | processExpiredHolds =>
    apply unnamed rfl
    apply Monitor.Holds.bind (processExpiredHolds_rewrites rfl rfl)
    exact fun _ ↦ Monitor.Holds.ret _ fun _ _ h ↦ h
  | expireLock e id =>
    apply unnamed rfl
    apply Monitor.Holds.bind (pass_rewrites (aside_await rfl))
    exact fun _ ↦ Monitor.Holds.ret _ fun _ _ h ↦ h
  | serve i r =>
    cases r with
    | releaseSeats e ids u reason =>
      exact success (releaseSeats_rewrites (by simp [Job.seats?]) rfl u reason)
    | markSeatsAsSold e ids u =>
      exact success (markAsSold_rewrites (by simp [Job.seats?]) rfl u)
    | releaseSoldSeats e ids =>
      exact success (relaseSoldSeats_rewrites (by simp [Job.seats?]) rfl)
    | getSeatsByEvent e =>
      apply unnamed rfl
      apply Monitor.Holds.bind (pass_rewrites (aside_await rfl))
      exact fun _ ↦ Monitor.Holds.ret _ fun _ _ h ↦ h
    | verifyHold e ids u => exact unnamed rfl (rewrites_aside (verifyHold_aside e u ids))
    | _ => exact Monitor.Holds.raise _ fun _ _ _ told ↦ by cases told

/-! ### What the seats are -/

/-- What a thread has found and stored after a history. -/
private abbrev rewrite (t : Nat) (log : List (Event service)) : Rewrite := rewrites.state t log

/-- The named seats that have another status, with this one. -/
def restated (seats : List Seat) (named : String × List String) (st : SeatStatus) : List Seat :=
  (seats.filter fun seat ↦ seat.isNamed named && seat.status ≠ st).map (Seat.become st)

/-- The seats that a history leaves. -/
def seatsAfter (seats : List Seat) (log : List (Event service)) : List Seat :=
  seats.map fun seat ↦ seat.become (lastStatus log seat)

/-- The rows are those that a job updates when these are the seats: exactly the seats that it
names and that have not its status yet. -/
def UpdatesNamed (seats : List Seat) (j : Job) (rows : List Seat) : Prop :=
  ∃ named, (∀ named' ∈ j.seats?, named' = named) ∧ rows = restated seats named j.status

/-- In the history a thread has saved its seats, which updated these rows. -/
def HasSaved (log : List (Event service)) (t : Nat) (j : Job) (rows : List Seat) : Prop :=
  ∃ ev earlier, ev :: earlier <:+ log ∧ ev.tid = t ∧ ev.job = j ∧
    ev.op.updates? ev.answer = some rows

/-- Seats that were found are those of a history, with the status that they had then. -/
private def FoundNamed (seats : List Seat) (j : Job) (found : List Seat) : Prop :=
  ∃ named, (∀ named' ∈ j.seats?, named' = named) ∧
    found.map Seat.freed = (seats.filter (Seat.isNamed named)).map Seat.freed

/-- What holds of the seats in every run. -/
private structure LastWritten (seats : Table Seat.place) (p : Pool service) : Prop where
  rows : p.conf.state.seats.rows = seatsAfter seats.rows p.conf.log
  saves : ∀ ev earlier, ev :: earlier <:+ p.conf.log → ∀ rows ∈ ev.op.updates? ev.answer,
    UpdatesNamed (seatsAfter seats.rows earlier) ev.job rows
  stores : ∀ ev earlier, ev :: earlier <:+ p.conf.log → ev.op.stores ev.answer = true →
    HasSaved (ev :: earlier) ev.tid ev.job (ev.op.storedSeats ev.answer)
  found : ∀ t j q found, p.At t j q → (rewrite t p.conf.log).found = some found →
    FoundNamed seats.rows j found
  updated : ∀ t j q rows, p.At t j q → (rewrite t p.conf.log).updated = some rows →
    HasSaved p.conf.log t j rows
  stored : ∀ t, (rewrite t p.conf.log).stored = true →
    ∃ ev earlier, ev :: earlier <:+ p.conf.log ∧ ev.tid = t ∧ ev.op.stores ev.answer = true

private theorem HasSaved.mono {log log' : List (Event service)} {t : Nat} {j : Job}
    {rows : List Seat} (hs : log <:+ log') (h : HasSaved log t j rows) :
    HasSaved log' t j rows := by
  obtain ⟨ev, earlier, suffix, rest⟩ := h
  exact ⟨ev, earlier, suffix.trans hs, rest⟩

private theorem seats_commit (writes : List Write) (s : Db) :
    (writes.foldl Db.write s).seats =
      s.seats.putAll (Op.storedSeats (.commit writes) (.ok ())) := by
  induction writes generalizing s with
  | nil => rfl
  | cons w writes ih =>
    rw [List.foldl_cons, ih]
    cases w with
    | seats rows =>
      show (s.seats.putAll rows).putAll _ = s.seats.putAll (rows ++ _)
      simp [Table.putAll]
      rfl
    | holds rows => rfl

/-- An operation saves the seats that it stores. -/
theorem seats_exec (x : Choice) (o : Op) (s : Db) :
    (exec x o s).2.seats = s.seats.putAll (o.storedSeats (exec x o s).1) := by
  rcases exec_cases x o s with ⟨-, e, he⟩ | he
  · rw [he]
    cases o <;> rfl
  · rw [he]
    cases o with
    | commit writes => exact seats_commit writes s
    | setNx l =>
      simp only [perform]
      split <;> rfl
    | _ => rfl

/-- An operation that stores no seats stores no rows. -/
theorem Op.storedSeats_of_not_stores {o : Op} {a : sig.Answer o} (h : o.stores a = false) :
    o.storedSeats a = [] := by
  unfold Op.storedSeats
  split <;> first | rfl | cases h

/-- An operation gives the seats that it stored the status of its job. -/
theorem lastStatus_cons (ev : Event service) (log : List (Event service)) (seat : Seat) :
    lastStatus (ev :: log) seat =
      if Stores seat.place ev then ev.job.status else lastStatus log seat := by
  unfold lastStatus
  rw [List.find?_cons]
  cases Stores seat.place ev <;> rfl

/-- Seats keep everything but their status. -/
theorem filter_seatsAfter (seats : List Seat) (log : List (Event service))
    (named : String × List String) (st : SeatStatus) :
    ((seatsAfter seats log).filter (Seat.isNamed named)).map (Seat.become st) =
      (seats.filter (Seat.isNamed named)).map (Seat.become st) := by
  unfold seatsAfter
  rw [List.filter_map, List.map_map]
  rfl

/-- What a job updates are seats that it names, with its status. -/
theorem restated_sublist (seats : List Seat) (log : List (Event service))
    (named : String × List String) (st : SeatStatus) :
    (restated (seatsAfter seats log) named st).Sublist
      ((seats.filter (Seat.isNamed named)).map (Seat.become st)) := by
  rw [← filter_seatsAfter seats log]
  apply List.Sublist.map
  exact List.monotone_filter_right _ fun seat h ↦ (Bool.and_eq_true_iff.mp h).1

private theorem changed_named (seats : Table Seat.place) (named : String × List String)
    (st : SeatStatus) :
    seats.changed ((seats.rows.filter (Seat.isNamed named)).map (Seat.become st)) =
      restated seats.rows named st := by
  rw [Table.changed_filter _ _ _ (Seat.become_place st)]
  unfold restated
  congr 2
  funext seat
  congr 1
  rw [decide_eq_decide, not_iff_not]
  exact ⟨fun h ↦ congrArg Seat.status h, fun h ↦ by rw [← h]; rfl⟩

private theorem stores_iff (ev : Event service) (place : String × String) :
    Stores place ev = true ↔ place ∈ (ev.op.storedSeats ev.answer).map Seat.place := by
  simp [Stores, List.any_eq_true, List.mem_map]

namespace LastWritten

variable {seats : Table Seat.place} {p : Pool service} {t : Nat} {x : Choice} {o : Op}
  {k : sig.Answer o → service.Program}

private theorem updates_named (h : LastWritten seats p) (ht : p.At t j (.op o k))
    (hm : (rewrite t p.conf.log).may j o) {rows : List Seat}
    (hu : o.updates? (p.conf.answer x o) = some rows) :
    UpdatesNamed p.conf.state.seats.rows j rows := by
  have of_rewrites : ∀ {saved}, (rewrite t p.conf.log).Rewrites j saved →
      UpdatesNamed p.conf.state.seats.rows j (p.conf.state.seats.changed saved) := by
    rintro saved ⟨found, hf, rfl⟩
    obtain ⟨named, names, same⟩ := h.found t j _ found ht hf
    refine ⟨named, names, ?_⟩
    have become := congrArg (List.map (Seat.become j.status)) same
    rw [List.map_map, List.map_map] at become
    have all : found.map (Seat.become j.status) =
        (p.conf.state.seats.rows.filter (Seat.isNamed named)).map (Seat.become j.status) := by
      rw [h.rows, filter_seatsAfter]
      exact become
    rw [all, changed_named]
  rcases exec_cases x o p.conf.state with ⟨-, e, he⟩ | he
  · have ha : p.conf.answer x o = .error e := congrArg Prod.fst he
    rw [ha] at hu
    cases o with
    | statement w => cases w <;> cases hu
    | _ => cases hu
  · have ha : p.conf.answer x o = (perform x o p.conf.state).1 := congrArg Prod.fst he
    rw [ha] at hu
    cases o with
    | statement w =>
      cases w with
      | seats saved =>
        cases hu
        exact of_rewrites hm
      | holds saved => cases hu
    | saveSeats saved =>
      cases hu
      exact of_rewrites hm
    | _ => cases hu

private theorem stores_saved (h : LastWritten seats p) (ht : p.At t j (.op o k))
    (hm : (rewrite t p.conf.log).may j o) (hs : o.stores (p.conf.answer x o) = true) :
    HasSaved (p.conf.after t j x o).log t j (o.storedSeats (p.conf.answer x o)) := by
  have new : o.updates? (p.conf.answer x o) = some (o.storedSeats (p.conf.answer x o)) →
      HasSaved (p.conf.after t j x o).log t j (o.storedSeats (p.conf.answer x o)) :=
    fun hu ↦ ⟨⟨t, j, o, p.conf.answer x o⟩, _, List.suffix_rfl, rfl, rfl, hu⟩
  generalize p.conf.answer x o = a at hs new
  cases o with
  | saveSeats rows =>
    cases a with
    | ok updated => exact new rfl
    | error e => cases hs
  | commit writes =>
    cases a with
    | ok done => exact (h.updated t j _ _ ht hm).mono (List.suffix_cons _ _)
    | error e => cases hs
  | _ => cases hs

private theorem named_of_saved (h : LastWritten seats p) {log : List (Event service)}
    (hl : log <:+ p.conf.log) {rows : List Seat} (hs : HasSaved log t j rows) :
    ∃ named, (∀ named' ∈ j.seats?, named' = named) ∧
      rows.Sublist ((seats.rows.filter (Seat.isNamed named)).map (Seat.become j.status)) := by
  obtain ⟨ev, earlier, suffix, rfl, rfl, hu⟩ := hs
  obtain ⟨named, names, rfl⟩ := h.saves ev earlier (suffix.trans hl) rows hu
  exact ⟨named, names, restated_sublist _ _ _ _⟩

private theorem sublist_of_stores (h : LastWritten seats p) (ht : p.At t j (.op o k))
    (hm : (rewrite t p.conf.log).may j o) :
    (o.storedSeats (p.conf.answer x o)).Sublist
      (p.conf.state.seats.rows.map (Seat.become j.status)) := by
  generalize ha : p.conf.answer x o = a
  cases o with
  | saveSeats rows =>
    cases a with
    | ok updated =>
      obtain ⟨named, -, rfl⟩ := h.updates_named (x := x) ht hm (by rw [ha]; rfl)
      exact List.filter_sublist.map _
    | error e => exact List.nil_sublist _
  | commit writes =>
    cases a with
    | ok done =>
      obtain ⟨named, -, sub⟩ := h.named_of_saved List.suffix_rfl (h.updated t j _ _ ht hm)
      apply sub.trans
      rw [← filter_seatsAfter seats.rows p.conf.log, ← h.rows]
      exact List.filter_sublist.map _
    | error e => exact List.nil_sublist _
  | _ => cases a <;> exact List.nil_sublist _

private theorem rows_step (h : LastWritten seats p) (ht : p.At t j (.op o k))
    (hm : (rewrite t p.conf.log).may j o) :
    (p.conf.after t j x o).state.seats.rows = seatsAfter seats.rows (p.conf.after t j x o).log := by
  have saved : (p.conf.after t j x o).state.seats =
      p.conf.state.seats.putAll (o.storedSeats (p.conf.answer x o)) := seats_exec x o p.conf.state
  have log : (p.conf.after t j x o).log = ⟨t, j, o, p.conf.answer x o⟩ :: p.conf.log := rfl
  rw [log]
  rw [saved, Table.rows_putAll_sublist _ (Seat.become_place j.status)
    (h.sublist_of_stores ht hm), h.rows]
  unfold seatsAfter
  rw [List.map_map]
  apply List.map_congr_left
  intro seat _
  rw [lastStatus_cons]
  have stored := stores_iff ⟨t, j, o, p.conf.answer x o⟩ seat.place
  by_cases hk : seat.place ∈ (o.storedSeats (p.conf.answer x o)).map Seat.place
  · rw [if_pos (stored.mpr hk)]
    exact if_pos hk
  · rw [if_neg (hk ∘ stored.mp)]
    exact if_neg hk

private theorem found_step (h : LastWritten seats p) (ht : p.At t j (.op o k))
    (hm : (rewrite t p.conf.log).may j o) {found : List Seat}
    (hf : ((rewrite t p.conf.log).next o (p.conf.answer x o)).found = some found) :
    FoundNamed seats.rows j found := by
  have old : (rewrite t p.conf.log).found = some found → FoundNamed seats.rows j found :=
    h.found t j _ found ht
  rcases exec_cases x o p.conf.state with ⟨-, e, he⟩ | he
  · have ha : p.conf.answer x o = .error e := congrArg Prod.fst he
    rw [ha] at hf
    cases o with
    | statement w => cases w <;> exact old hf
    | _ => exact old hf
  · have ha : p.conf.answer x o = (perform x o p.conf.state).1 := congrArg Prod.fst he
    rw [ha] at hf
    cases o with
    | findBySeatIds e ids =>
      have all : p.conf.state.seats.rows.filter (Seat.isNamed (e, ids)) = found :=
        Option.some.inj hf
      refine ⟨(e, ids), hm, ?_⟩
      rw [← all, h.rows]
      exact filter_seatsAfter _ _ _ .available
    | statement w => cases w <;> exact old hf
    | setNx l =>
      simp only [perform] at hf
      split at hf <;> exact old hf
    | _ => exact old hf

private theorem updated_step (h : LastWritten seats p) (ht : p.At t j (.op o k))
    {rows : List Seat}
    (hu : ((rewrite t p.conf.log).next o (p.conf.answer x o)).updated = some rows) :
    HasSaved (p.conf.after t j x o).log t j rows := by
  have old : (rewrite t p.conf.log).updated = some rows →
      HasSaved (p.conf.after t j x o).log t j rows :=
    fun hu ↦ (h.updated t j _ rows ht hu).mono (List.suffix_cons _ _)
  have new : o.updates? (p.conf.answer x o) = some rows →
      HasSaved (p.conf.after t j x o).log t j rows :=
    fun hu ↦ ⟨⟨t, j, o, p.conf.answer x o⟩, _, List.suffix_rfl, rfl, rfl, hu⟩
  generalize p.conf.answer x o = a at hu new
  cases o with
  | statement w => cases w <;> cases a <;> first | exact old hu | exact new hu
  | saveSeats saved => cases a <;> first | exact old hu | exact new hu
  | findBySeatIds e ids => cases a <;> first | exact old hu | cases hu
  | _ => cases a <;> exact old hu

private theorem stored_step (h : LastWritten seats p)
    (hu : ((rewrite t p.conf.log).next o (p.conf.answer x o)).stored = true) :
    ∃ ev earlier, ev :: earlier <:+ (p.conf.after t j x o).log ∧ ev.tid = t ∧
      ev.op.stores ev.answer = true := by
  cases hs : o.stores (p.conf.answer x o) with
  | true => exact ⟨⟨t, j, o, p.conf.answer x o⟩, _, List.suffix_rfl, rfl, hs⟩
  | false =>
    have old : (rewrite t p.conf.log).stored = true := by
      generalize p.conf.answer x o = a at hu hs
      cases o with
      | statement w => cases w <;> cases a <;> first | exact hu | cases hu
      | findBySeatIds e ids => cases a <;> first | exact hu | cases hu
      | _ => cases a <;> first | exact hu | cases hs
    obtain ⟨ev, earlier, suffix, rest⟩ := h.stored t old
    exact ⟨ev, earlier, suffix.trans (List.suffix_cons _ _), rest⟩

private theorem advance (h : LastWritten seats p) (ht : p.At t j (.op o k))
    (hm : (rewrite t p.conf.log).may j o) : LastWritten seats (p.advance t j x o k) := by
  have self : rewrite t (p.advance t j x o k).conf.log =
      (rewrite t p.conf.log).next o (p.conf.answer x o) := Monitor.state_self _ _ _ _ _ _
  have other : ∀ {u}, u ≠ t →
      rewrite u (p.advance t j x o k).conf.log = rewrite u p.conf.log :=
    fun hu ↦ Monitor.state_other _ (Ne.symm hu)
  have log : (p.advance t j x o k).conf.log = ⟨t, j, o, p.conf.answer x o⟩ :: p.conf.log := rfl
  have longer : p.conf.log <:+ (p.advance t j x o k).conf.log := List.suffix_cons _ _
  -- what the operation itself updates
  have updates : ∀ rows, o.updates? (p.conf.answer x o) = some rows →
      UpdatesNamed (seatsAfter seats.rows p.conf.log) j rows :=
    fun rows hu ↦ h.rows ▸ h.updates_named ht hm hu
  constructor
  · exact h.rows_step ht hm
  · intro ev earlier suffix rows hu
    rcases List.suffix_cons_iff.mp suffix with new | old
    · obtain ⟨rfl, rfl⟩ := List.cons.inj new
      exact updates rows hu
    · exact h.saves ev earlier old rows hu
  · intro ev earlier suffix hs
    rcases List.suffix_cons_iff.mp suffix with new | old
    · obtain ⟨rfl, rfl⟩ := List.cons.inj new
      exact h.stores_saved ht hm hs
    · exact h.stores ev earlier old hs
  · intro u i q found hq hu
    rcases (Pool.at_advance ht).mp hq with ⟨rfl, rfl, -⟩ | ⟨hne, hq⟩
    · rw [self] at hu
      exact h.found_step ht hm hu
    · rw [other hne] at hu
      exact h.found u i q found hq hu
  · intro u i q rows hq hu
    rcases (Pool.at_advance ht).mp hq with ⟨rfl, rfl, -⟩ | ⟨hne, hq⟩
    · rw [self] at hu
      exact h.updated_step ht hu
    · rw [other hne] at hu
      exact (h.updated u i q rows hq hu).mono longer
  · intro u hu
    by_cases hut : u = t
    · subst hut
      rw [self] at hu
      exact h.stored_step hu
    · rw [other hut] at hu
      obtain ⟨ev, earlier, suffix, rest⟩ := h.stored u hu
      exact ⟨ev, earlier, suffix.trans longer, rest⟩

end LastWritten


private theorem lastWritten_of_reach {G : Regime service} {seats : Table Seat.place}
    {p : Pool service} (hp : Pool.Reach G (fun db ↦ db = .stocked seats) p) :
    LastWritten seats p := by
  induction hp with
  | start hs =>
    subst hs
    constructor
    · exact (List.map_id _).symm
    · intro ev earlier suffix
      cases List.suffix_nil.mp suffix
    · intro ev earlier suffix
      cases List.suffix_nil.mp suffix
    · intro t j q found hq
      cases hq
    · intro t j q rows hq
      cases hq
    · intro t h
      cases h
  | @spawn p j hp hx ih =>
    have fresh : rewrite p.threads.length p.conf.log = {} :=
      (Monitor.watches_of_reach job_rewrites hp).threads _ (Nat.le_refl _)
    refine ⟨ih.rows, ih.saves, ih.stores, ?_, ?_, ih.stored⟩
    · intro t i q found hq hf
      have hf : (rewrite t p.conf.log).found = some found := hf
      rcases Pool.at_spawn.mp hq with old | ⟨rfl, -, -⟩
      · exact ih.found t i q found old hf
      · rw [fresh] at hf
        cases hf
    · intro t i q rows hq hu
      have hu : (rewrite t p.conf.log).updated = some rows := hu
      rcases Pool.at_spawn.mp hq with old | ⟨rfl, -, -⟩
      · exact ih.updated t i q rows old hu
      · rw [fresh] at hu
        cases hu
  | run hp ht hm ih => exact ih.advance ht ((Monitor.watches_of_reach job_rewrites hp).may ht)

variable {G : Regime service} {seats : Table Seat.place} {p : Pool service}

/-- Whatever fails and however calls, releases and expiry ticks interleave, the seats are those of
the start, each with the status that the last call to store it gave it. Every `save()` updates
exactly those seats that its call names and that have another status then, and every commit stores
exactly the seats that its call has updated so. -/
theorem seats_last_written (hp : Pool.Reach G (fun db ↦ db = .stocked seats) p) :
    p.conf.state.seats.rows = seatsAfter seats.rows p.conf.log ∧
      (∀ ev earlier, ev :: earlier <:+ p.conf.log → ∀ rows ∈ ev.op.updates? ev.answer,
        UpdatesNamed (seatsAfter seats.rows earlier) ev.job rows) ∧
      ∀ ev earlier, ev :: earlier <:+ p.conf.log → ev.op.stores ev.answer = true →
        HasSaved (ev :: earlier) ev.tid ev.job (ev.op.storedSeats ev.answer) :=
  have written := lastWritten_of_reach hp
  ⟨written.rows, written.saves, written.stores⟩

/-- A seat is as it was at the start, or has the status of the call that stored it last, which has
named it. -/
theorem status_given (hp : Pool.Reach G (fun db ↦ db = .stocked seats) p) {seat : Seat}
    (hs : seat ∈ p.conf.state.seats.rows) :
    seat ∈ seats.rows ∨ ∃ ev, p.conf.log.find? (Stores seat.place) = some ev ∧
      ev.job.status = seat.status ∧
        ∃ named, (∀ named' ∈ ev.job.seats?, named' = named) ∧ seat.isNamed named = true := by
  have written := lastWritten_of_reach hp
  rw [written.rows] at hs
  obtain ⟨old, hold, rfl⟩ := List.mem_map.mp hs
  unfold lastStatus
  cases found : p.conf.log.find? (Stores old.place) with
  | none => exact .inl hold
  | some ev =>
    obtain ⟨later, earlier, split⟩ := List.append_of_mem (List.mem_of_find?_eq_some found)
    have suffix : ev :: earlier <:+ p.conf.log := ⟨later, split.symm⟩
    have stored : Stores old.place ev = true := List.find?_some found
    have stores : ev.op.stores ev.answer = true := by
      by_contra h
      simp [Stores, Op.storedSeats_of_not_stores (Bool.not_eq_true _ ▸ h)] at stored
    obtain ⟨named, names, sub⟩ := written.named_of_saved suffix (written.stores ev _ suffix stores)
    obtain ⟨row, hrow, same⟩ := List.mem_map.mp ((stores_iff ev _).mp stored)
    obtain ⟨seat, hseat, rfl⟩ := List.mem_map.mp (sub.subset hrow)
    refine .inr ⟨ev, found, rfl, named, names, ?_⟩
    exact (Seat.isNamed_of_place same).symm.trans (List.mem_filter.mp hseat).2

/-- A call that is told that it succeeded has stored what its `save()` updated. -/
theorem saved_of_acknowledged (hp : Pool.Reach G (fun db ↦ db = .stocked seats) p) {t : Nat}
    {j : Job} {r : Except Exception Reply} (ht : p.At t j (.ret r))
    (told : j.acknowledges r = true) :
    ∃ ev earlier, ev :: earlier <:+ p.conf.log ∧ ev.tid = t ∧ ev.job = j ∧
      ev.op.stores ev.answer = true ∧
      ∃ save before, save :: before <:+ ev :: earlier ∧ save.tid = t ∧
        save.op.updates? save.answer = some (ev.op.storedSeats ev.answer) ∧
        UpdatesNamed (seatsAfter seats.rows before) j (ev.op.storedSeats ev.answer) := by
  have written := lastWritten_of_reach hp
  have stored := (Monitor.watches_of_reach job_rewrites hp).ended ht told
  obtain ⟨ev, earlier, suffix, rfl, hs⟩ := written.stored t stored
  obtain ⟨q, hq⟩ := hp.event_at (suffix.subset List.mem_cons_self)
  obtain rfl := Pool.job_of_at hq ht
  obtain ⟨save, before, first, tid, job, saved⟩ := written.stores ev earlier suffix hs
  have updates := written.saves save before (first.trans suffix) _ saved
  rw [job] at updates
  exact ⟨ev, earlier, suffix, rfl, rfl, hs, save, before, first, tid, saved, updates⟩

/-- A call that is told that it succeeded has saved the seats that it names. This updated exactly
those that had not its status then, and then it has stored exactly these with its status at one
step. -/
theorem acknowledged_stored (hp : Pool.Reach G (fun db ↦ db = .stocked seats) p) {t : Nat} {j : Job}
    {r : Except Exception Reply} (ht : p.At t j (.ret r)) (told : j.acknowledges r = true)
    {named : String × List String} (hn : j.seats? = some named) :
    ∃ ev earlier, ev :: earlier <:+ p.conf.log ∧ ev.tid = t ∧ ev.op.stores ev.answer = true ∧
      ∃ save before, save :: before <:+ ev :: earlier ∧ save.tid = t ∧
        save.op.updates? save.answer = some (ev.op.storedSeats ev.answer) ∧
        ev.op.storedSeats ev.answer = restated (seatsAfter seats.rows before) named j.status := by
  obtain ⟨ev, earlier, suffix, tid, -, hs, save, before, first, tid', saved, named', names, same⟩ :=
    saved_of_acknowledged hp ht told
  obtain rfl : named = named' := names named hn
  exact ⟨ev, earlier, suffix, tid, hs, save, before, first, tid', saved, same⟩

/-- A hold is released while a sale of its seat has read the seats before and stores them after. -/
def overtakenRun : List (Label service) :=
  .spawn (.holdSeats "e" ["A"] "u" "s") :: List.replicate 9 (.run 0 {}) ++
    .spawn (.serve (some 0) (.markSeatsAsSold "e" ["A", "B"] "u")) ::
      List.replicate 2 (.run 1 {}) ++
    .spawn (.releaseSeats "e" ["A"] "u") :: List.replicate 10 (.run 2 {}) ++
    List.replicate 8 (.run 1 {})

/-- The sale is the last to store the seats. -/
theorem seats_last_written_overtaken :
    ∃ p, Pool.play (.free service) overtakenRun (.start saleStock) = some p ∧
      (∀ seat ∈ p.conf.state.seats.rows, seat.status = .sold) ∧
      p.conf.state.seats.rows = seatsAfter saleStock.seats.rows p.conf.log ∧
      (∀ ev earlier, ev :: earlier <:+ p.conf.log → ∀ rows ∈ ev.op.updates? ev.answer,
        UpdatesNamed (seatsAfter saleStock.seats.rows earlier) ev.job rows) ∧
      ∀ ev earlier, ev :: earlier <:+ p.conf.log → ev.op.stores ev.answer = true →
        HasSaved (ev :: earlier) ev.tid ev.job (ev.op.storedSeats ev.answer) := by
  have played : (Pool.play (.free service) overtakenRun (.start saleStock)).any fun p ↦
      p.conf.state.seats.rows.all fun seat ↦ seat.status = .sold := by
    decide +kernel
  simp only [Option.any_eq_true, List.all_eq_true, decide_eq_true_eq] at played
  obtain ⟨p, hp, sold⟩ := played
  exact ⟨p, hp, sold, seats_last_written (Pool.reach_of_play rfl hp)⟩

/-- The sale has succeeded, and has stored the seats that it updates. -/
theorem acknowledged_stored_sale :
    ∃ p, Pool.play (.free service) overtakenRun (.start saleStock) = some p ∧
      ∃ ev earlier, ev :: earlier <:+ p.conf.log ∧ ev.tid = 1 ∧ ev.op.stores ev.answer = true ∧
        ∃ save before, save :: before <:+ ev :: earlier ∧ save.tid = 1 ∧
          save.op.updates? save.answer = some (ev.op.storedSeats ev.answer) ∧
          ev.op.storedSeats ev.answer =
            restated (seatsAfter saleStock.seats.rows before) ("e", ["A", "B"]) .sold := by
  have played : (Pool.play (.free service) overtakenRun (.start saleStock)).any fun p ↦
      p.reply? 1 = some (.success true) ∧ (p.threads[1]?).map Prod.fst =
        some (.serve (some 0) (.markSeatsAsSold "e" ["A", "B"] "u")) := by
    decide +kernel
  simp only [Option.any_eq_true, decide_eq_true_eq] at played
  obtain ⟨p, hp, told, job⟩ := played
  refine ⟨p, hp, ?_⟩
  obtain ⟨j, ht⟩ := Pool.exists_at_of_reply told
  have ended : p.threads[1]? = some (j, .ret (.ok (.success true))) := ht
  rw [ended] at job
  cases job
  exact acknowledged_stored (Pool.reach_of_play rfl hp) ht rfl rfl

end Ticketing.SeatInventory
