import Ticketing.Async.Monitor
import Ticketing.NotificationService.Service
import Ticketing.Store.Receipts

/-!
# Deliveries of messages

Library `NotificationService`. Any number of deliveries are handled at the same time. The row of a
notification tells the truth about its mail, and a delivery that ends has notified everybody that
its message names.
-/

namespace Ticketing.NotificationService

open Async Store

/-! ### What a delivery notifies of -/

/-- The notifications that the handler of a delivery sends, if none fails. -/
def Delivery.notifications (d : Delivery) : List SendNotificationInput :=
  (notifies (fun _ ↦ none) d.handling).state

/-- The notifications that a program sends, if none fails. -/
def planned {α : Type} : Prog sig α → List SendNotificationInput
  | .ret _ => []
  | .op (.send input) k => input :: planned (k (.ok ()))

/-- Running a program that only sends leaves the notifications it plans. -/
theorem run_sending {α : Type} (p : Prog sig α) (n : Nat) (sent : List SendNotificationInput) :
    (p.run (sending fun _ ↦ none) n sent).2.2 = sent ++ planned p := by
  induction p generalizing n sent with
  | ret a => exact (List.append_nil sent).symm
  | op o k ih =>
    obtain ⟨input⟩ := o
    exact (ih (.ok ()) (n + 1) (sent ++ [input])).trans (by simp [planned])

/-- A delivery notifies of what its handler plans. -/
theorem Delivery.notifications_eq (d : Delivery) :
    d.notifications = planned (d.handling ()) := by
  unfold Delivery.notifications notifies Code.exec
  exact (run_sending (d.handling ()) 0 []).trans (List.nil_append _)

/-- A mail of a registered template. -/
def Mailable (input : SendNotificationInput) : Prop :=
  input.channel = .email ∧
    ∃ template, TemplateEngine.templates.lookup input.templateId = some template

/-- An operation that mails. -/
def Op.Mails : Op → Prop
  | .send input => Mailable input

/-- Code that sends mails of registered templates, and catches no error. -/
structure Mails {α : Type} (c : Code sig Unit α) : Prop where
  rethrows : c.Rethrows
  awaits : c.Awaits Op.Mails

namespace Mails

variable {α β : Type}

/-- Reading a value awaits nothing. -/
theorem read (a : Except Exception α) : Mails (read a) := by
  cases a with
  | ok a => exact ⟨.ret a, .ret a⟩
  | error e => exact ⟨Code.Rethrows.raise (S := sig) e, Code.Awaits.raise (S := sig) e⟩

/-- Returning a value sends nothing. -/
theorem ret : Mails (pure ()) := ⟨.ret (), .ret ()⟩

/-- A sequence sends what its parts send. -/
theorem bind {c : Code sig Unit α} {f : α → Code sig Unit β} (hc : Mails c)
    (hf : ∀ a, Mails (f a)) : Mails (c >>= f) :=
  ⟨.bind hc.rethrows fun a ↦ (hf a).rethrows, .bind hc.awaits fun a ↦ (hf a).awaits⟩

/-- Sending a mailable notification mails it. -/
theorem send {input : SendNotificationInput} (h : Mailable input) : Mails (send input) :=
  ⟨.await _, .await h⟩

/-- A loop over items mails what its rounds mail. -/
theorem forEach {body : Value → Handling} (h : ∀ item, Mails (body item)) (items : List Value) :
    Mails (forEach body items) := by
  induction items with
  | nil => exact .ret
  | cons item rest ih => exact .bind (h item) fun _ ↦ ih

end Mails

/-- The handlers send mails of registered templates, and catch no error. -/
theorem handling_mails (d : Delivery) : Mails d.handling := by
  obtain ⟨topic, payload⟩ := d
  have mail : ∀ type link, (∃ template, TemplateEngine.templates.lookup type = some template) →
      Mails (handleMail type link payload) := fun type link registered ↦ by
    refine .bind (.read _) fun data ↦ .bind (.read _) fun _ ↦ .bind (.read _) fun userId ↦ ?_
    refine .bind (.read _) fun recipient ↦ .bind (.read _) fun fullName ↦ ?_
    exact .bind (.read _) fun url ↦ .send ⟨rfl, registered⟩
  cases topic with
  | bookingConfirmed =>
    refine .bind (.read _) fun _ ↦ .bind (.read _) fun items ↦ .bind (.read _) fun items ↦ ?_
    apply Mails.forEach
    intro item
    refine .bind (.read _) fun attendeeEmail ↦ ?_
    dsimp only
    split
    · exact .ret
    · refine .bind (.read _) fun userId ↦ .bind (.read _) fun attendeeName ↦ ?_
      refine .bind (.read _) fun bookingNumber ↦ .bind (.read _) fun eventTitle ↦ ?_
      refine .bind (.read _) fun totalAmount ↦ .bind (.read _) fun currency ↦ ?_
      exact .bind (.read _) fun seats ↦ .send ⟨rfl, _, rfl⟩
  | bookingCancelled =>
    refine .bind (.read _) fun _ ↦ .bind (.read _) fun items ↦ ?_
    dsimp only
    split
    · exact .ret
    · refine .bind (.read _) fun userId ↦ .bind (.read _) fun bookingNumber ↦ ?_
      exact .bind (.read _) fun reason ↦ .send ⟨rfl, _, rfl⟩
  | bookingRefunded =>
    refine .bind (.read _) fun data ↦ .bind (.read _) fun _ ↦ .bind (.read _) fun items ↦ ?_
    dsimp only
    split
    · exact .ret
    · refine .bind (.read _) fun userId ↦ .bind (.read _) fun bookingNumber ↦ ?_
      refine .bind (.read _) fun totalAmount ↦ .bind (.read _) fun currency ↦ ?_
      exact .send ⟨rfl, _, rfl⟩
  | emailVerification => exact mail _ _ ⟨_, rfl⟩
  | passwordReset => exact mail _ _ ⟨_, rfl⟩

/-- What is planned is what is awaited. -/
theorem mailable_of_all {α : Type} {p : Prog sig α} (h : p.All Op.Mails) :
    ∀ input ∈ planned p, Mailable input := by
  induction p with
  | ret a => exact fun input hm ↦ absurd hm List.not_mem_nil
  | op o k ih =>
    obtain ⟨sent⟩ := o
    intro input hm
    rcases List.mem_cons.mp hm with rfl | hm
    · exact h.1
    · exact ih (.ok ()) (h.2 _) input hm

/-- Every notification of a delivery is a mail of a registered template. -/
theorem Delivery.mailable (d : Delivery) : ∀ input ∈ d.notifications, Mailable input := by
  rw [d.notifications_eq]
  exact mailable_of_all ((handling_mails d).awaits ())

/-! ### What a thread does -/

variable {E : Env}

/-- The mail that a notification stands for, if it is rendered. -/
def Env.mail (E : Env) (input : SendNotificationInput) : Option Mail :=
  match TemplateEngine.render E.handlebars input.templateId input.payload with
  | .error _ => none
  | .ok template =>
    if input.channel = .email then
      some { sender := E.fromAddress, recipient := input.recipient, subject := template.subject,
             text := template.body, html := some template.html }
    else none

/-- How far the mail of a notification has come, until its row is saved again. -/
inductive Phase where
  | closed
  | opened
  | refused
  | accepted
  | lost
  deriving DecidableEq

/-- The thread is not sending a notification. -/
def Phase.ended : Phase → Bool
  | .closed | .lost => true
  | _ => false

/-- The notifications that a thread has inserted, newest first, and the phase of the newest. -/
structure Progress where
  rows : List Notification := []
  phase : Phase := .closed

namespace Progress

/-- What an operation changes. -/
def next : Progress → (o : ServiceOp) → serviceSig.Answer o → Progress
  | s, .insert r, .ok saved => ⟨{ r with id := saved.id } :: s.rows, .opened⟩
  | s, .sendMail _, .ok _ => { s with phase := .accepted }
  | s, .sendMail _, .error _ => { s with phase := .refused }
  | s, .save _, .ok _ => { s with phase := .closed }
  | s, .save _, .error _ => { s with phase := .lost }
  | s, _, _ => s

/-- The status that may be saved in a phase. -/
def Settles (E : Env) (phase : Phase) (r : Notification) : Prop :=
  (r.status = .sent ∧ phase = .accepted) ∨
    (r.status = .failed ∧ (phase = .refused ∨
      (phase = .opened ∧ E.mail r.toSendNotificationInput = none)))

/-- The notifications are inserted in their order, each is mailed at most once, and its row is
saved with the outcome. -/
def may (E : Env) (d : Delivery) (s : Progress) : ServiceOp → Prop
  | .insert r => s.phase = .closed ∧ r.status = .queued ∧
    d.notifications[s.rows.length]? = some r.toSendNotificationInput
  | .sendMail mail => s.phase = .opened ∧
    ∃ row ∈ s.rows.head?, E.mail row.toSendNotificationInput = some mail
  | .save r => ∃ row ∈ s.rows.head?, r.id = row.id ∧
    r.toSendNotificationInput = row.toSendNotificationInput ∧ Settles E s.phase r
  | .now => True

end Progress

/-- What each thread of the service has done. -/
def progress (E : Env) : Monitor (service E) Progress where
  init := {}
  next := Progress.next
  may := Progress.may E

/-- A notification that is inserted is numbered. -/
theorem insert_of_gives {r saved : Notification} (h : (service E).Gives (.insert r) (.ok saved)) :
    ∃ n, saved = { r with id := n } := by
  obtain ⟨x, s, h⟩ := h
  rcases exec_cases x (.insert r) s with ⟨-, e, he⟩ | he
  · have answer := congrArg Prod.fst he
    rw [h] at answer
    cases answer
  · have answer := congrArg Prod.fst he
    rw [h] at answer
    exact ⟨s.nextId, Except.ok.inj answer⟩

variable {d : Delivery} {input : SendNotificationInput}

/-- The entity is the inserted row, and the thread is in a phase of its mail. -/
structure Entity (saved : Notification) (rows : List Notification) (l : Notification)
    (s : Progress) : Prop where
  id : l.id = saved.id
  input : l.toSendNotificationInput = saved.toSendNotificationInput
  rows : s.rows = saved :: rows

/-- The mail is sent at most once, and the entity says with what outcome. -/
theorem emailAdapter_progress {saved : Notification} {rows : List Notification}
    {template : EmailTemplate}
    (rendered : TemplateEngine.render E.handlebars input.templateId input.payload = .ok template)
    (channel : input.channel = .email) (hi : saved.toSendNotificationInput = input) :
    (progress E).Holds d (fun l s ↦ Entity saved rows l s ∧ s.phase = .opened)
      (EmailAdapter.send E ⟨input.recipient, some template.subject, template.body,
        some template.html⟩)
      (fun result l s ↦ Entity saved rows l s ∧
        s.phase = if result.success then .accepted else .refused) fun _ _ _ ↦ False := by
  unfold EmailAdapter.send
  apply Monitor.Holds.tryCatch (F := fun _ l s ↦ Entity saved rows l s ∧ s.phase = .refused)
  · apply Monitor.Holds.bind (I := fun _ l s ↦ Entity saved rows l s ∧ s.phase = .accepted)
    · apply Monitor.Holds.await
      · rintro l s ⟨entity, opened⟩
        refine ⟨opened, saved, by rw [entity.rows]; rfl, ?_⟩
        simp only [Env.mail, hi, rendered, channel, if_true]
        rfl
      · rintro messageId l s - ⟨entity, -⟩
        exact ⟨⟨entity.id, entity.input, entity.rows⟩, rfl⟩
      · rintro e l s - ⟨entity, -⟩
        exact ⟨⟨entity.id, entity.input, entity.rows⟩, rfl⟩
    · intro messageId
      exact Monitor.Holds.ret _ fun _ _ h ↦ h
  · intro error
    exact Monitor.Holds.ret _ fun _ _ h ↦ h

/-- After the `try` and `catch` blocks the entity has a status that may be saved. -/
theorem settle_progress {saved : Notification} {rows : List Notification}
    (hi : saved.toSendNotificationInput = input) :
    (progress E).Holds d (fun l s ↦ Entity saved rows l s ∧ s.phase = .opened)
      (tryCatch (NotificationService.trySend E input) NotificationService.failed)
      (fun _ l s ↦ Entity saved rows l s ∧ Progress.Settles E s.phase l) fun _ _ _ ↦ False := by
  apply Monitor.Holds.tryCatch (F := fun _ l s ↦ (Entity saved rows l s ∧ s.phase = .opened) ∧
    E.mail input = none)
  · unfold NotificationService.trySend
    cases rendered : TemplateEngine.render E.handlebars input.templateId input.payload with
    | error e =>
      apply Monitor.Holds.bind (I := fun _ _ _ ↦ False)
      · apply Monitor.Holds.raise
        exact fun l s h ↦ ⟨h, by simp only [Env.mail, rendered]⟩
      · exact fun _ _ _ h ↦ h.elim
    | ok template =>
      apply Monitor.Holds.bind (I := fun t l s ↦ t = template ∧ Entity saved rows l s ∧
        s.phase = .opened)
      · exact Monitor.Holds.ret _ fun l s h ↦ ⟨rfl, h⟩
      intro t
      split
      · next channel =>
        apply Monitor.Holds.bind (I := fun result l s ↦ Entity saved rows l s ∧
          s.phase = if result.success then .accepted else .refused)
        · rintro l s ⟨rfl, h⟩
          exact (emailAdapter_progress rendered channel hi l s h).post (fun _ _ _ h ↦ h)
            fun _ _ _ h ↦ h.elim
        · intro result
          dsimp only
          split
          · rintro l s ⟨entity, phase⟩
            simp only [Monitor.runs_bind, Monitor.runs_assign, Monitor.runs_await]
            exact ⟨trivial, fun now _ ↦ ⟨⟨entity.id, entity.input, entity.rows⟩, .inl ⟨rfl, phase⟩⟩,
              fun e he ↦ by obtain ⟨x, s, he⟩ := he; cases he⟩
          · apply Monitor.Holds.assign
            rintro l s ⟨entity, phase⟩
            exact ⟨⟨entity.id, entity.input, entity.rows⟩, .inr ⟨rfl, .inl phase⟩⟩
      · next channel =>
        apply Monitor.Holds.raise
        rintro l s ⟨-, h⟩
        exact ⟨h, by simp only [Env.mail, rendered, channel, if_false]⟩
  · intro error
    apply Monitor.Holds.assign
    rintro l s ⟨⟨entity, opened⟩, unmailed⟩
    refine ⟨⟨entity.id, entity.input, entity.rows⟩, .inr ⟨rfl, .inr ⟨opened, ?_⟩⟩⟩
    rw [show _ = saved.toSendNotificationInput from entity.input, hi]
    exact unmailed

/-- A notification that is sent is the next one planned, and its row is saved again. -/
theorem send_progress {rows : List Notification}
    (planned : d.notifications[rows.length]? = some input) :
    (progress E).Holds d (fun (_ : Unit) s ↦ s.rows = rows ∧ s.phase = .closed)
      (NotificationService.send E input)
      (fun _ _ s ↦ s.phase = .closed ∧
        ∃ row, s.rows = row :: rows ∧ row.toSendNotificationInput = input)
      fun _ _ s ↦ s.phase.ended = true := by
  unfold NotificationService.send
  apply Monitor.Holds.bind (I := fun saved _ s ↦ saved.toSendNotificationInput = input ∧
    s.rows = saved :: rows ∧ s.phase = .opened)
  · apply Monitor.Holds.await
    · rintro l s ⟨rfl, closed⟩
      exact ⟨closed, rfl, planned⟩
    · rintro saved l s hg ⟨rfl, closed⟩
      obtain ⟨n, rfl⟩ := insert_of_gives hg
      exact ⟨rfl, rfl, rfl⟩
    · rintro e l s - ⟨-, closed⟩
      show s.phase.ended = true
      rw [closed]
      rfl
  intro saved
  apply Monitor.Holds.on
  intro _ l s h
  obtain ⟨rfl, hi, hrows, opened⟩ := h
  have settled := settle_progress (E := E) (d := d) hi l s
    ⟨⟨rfl, rfl, hrows⟩, opened⟩
  apply (Monitor.runs_bind _ _).mpr
  apply settled.post _ fun _ _ _ h ↦ h.elim
  rintro - l' s' ⟨entity, settles⟩
  simp only [Monitor.runs_bind, Monitor.runs_entity, Monitor.runs_await]
  refine ⟨⟨l, by rw [entity.rows]; rfl, entity.id, entity.input, settles⟩, ?_, ?_⟩
  · exact fun _ _ ↦ ⟨rfl, l, entity.rows, hi⟩
  · exact fun e _ ↦ rfl

/-- What a thread has notified of, in order. -/
def Progress.inputs (s : Progress) : List SendNotificationInput :=
  (s.rows.map Notification.toSendNotificationInput).reverse

/-- When a delivery ends, it is not sending, and if it returns, it has notified of everything. -/
def Ended (d : Delivery) (r : Except Exception Unit) (s : Progress) : Prop :=
  s.phase.ended = true ∧ (r = .ok () → s.phase = .closed ∧ s.inputs = d.notifications)

/-- The rest of a handler, with its notifications sent by the service. -/
theorem rest_obeys {p : Prog sig (Except Exception Unit × Unit)} (hp : p.Rethrows) {s : Progress}
    (closed : s.phase = .closed) (hs : s.inputs ++ planned p = d.notifications) :
    (progress E).Obeys d ((p.bind fun r ↦ .ret r.1).translate (serve E)) (Ended d) s := by
  induction p generalizing s with
  | ret r =>
    rw [planned, List.append_nil] at hs
    refine ⟨?_, fun _ ↦ ⟨closed, hs⟩⟩
    rw [closed]
    rfl
  | op o k ih =>
    obtain ⟨input⟩ := o
    have next : d.notifications[s.rows.length]? = some input := by
      rw [← hs, planned, List.getElem?_append_right (by simp [Progress.inputs])]
      simp [Progress.inputs]
    refine Monitor.obeys_bind.mpr (Monitor.obeys_prog.mpr ((Monitor.runs_bind _ _).mpr ?_))
    apply (send_progress next () s ⟨rfl, closed⟩).post
    · rintro row l s' ⟨closed', row', hrows, hinput⟩
      apply ih (.ok ()) (hp.2 ()) closed'
      rw [← hs, planned, Progress.inputs, hrows, List.map_cons, List.reverse_cons, hinput,
        List.append_assoc]
      rfl
    · intro e l s' closed'
      obtain ⟨l', hl⟩ := hp.1 e
      dsimp only
      rw [hl]
      exact ⟨closed', fun he ↦ by cases he⟩

/-- Every delivery obeys the monitor of its progress. -/
theorem delivery_obeys (d : Delivery) :
    (progress E).Obeys d ((service E).code d) (Ended d) (progress E).init := by
  apply rest_obeys ((handling_mails d).rethrows ()) rfl
  rw [Delivery.notifications_eq]
  rfl

/-! ### Rows and mails -/

/-- A notification says that its mail was accepted, or that it was not. -/
def Env.account (E : Env) : Account Notification (Option Mail) where
  effect r := E.mail r.toSendNotificationInput
  claims r := r.status = .sent
  denies r := r.status = .failed

/-- The mails that the SMTP server accepted, newest first. -/
def accepted : List (Event (service E)) → List Mail
  | [] => []
  | ⟨_, _, .sendMail mail, .ok _⟩ :: log => mail :: accepted log
  | _ :: log => accepted log

/-- The notifications that some of the threads inserted, in order. -/
def inserted (who : Nat → Bool) : List (Event (service E)) → List SendNotificationInput
  | [] => []
  | ⟨t, _, .insert r, .ok _⟩ :: log =>
    if who t then inserted who log ++ [r.toSendNotificationInput] else inserted who log
  | _ :: log => inserted who log

/-- The row of a notification was not saved. -/
def SaveFailed (n : Id) (log : List (Event (service E))) : Prop :=
  ∃ t d r e, (⟨t, d, .save r, .error e⟩ : Event (service E)) ∈ log ∧ r.id = n

/-- The SMTP server did not accept some mail. -/
def Refused (log : List (Event (service E))) : Prop :=
  ∃ t d mail e, (⟨t, d, .sendMail mail, .error e⟩ : Event (service E)) ∈ log

/-- What thread `t` has done. -/
abbrev done (t : Nat) (log : List (Event (service E))) : Progress := (progress E).state t log

/-- The row that a thread holds, and whether its mail was accepted. -/
def holds (log : List (Event (service E))) : Holders Notification := fun t ↦
  if (done t log).phase.ended then none
  else (done t log).rows.head?.map fun row ↦ (row, decide ((done t log).phase = .accepted))

/-- The accepted mails with the notification that the thread was sending. -/
def posted : List (Event (service E)) → List (Id × Option Mail)
  | [] => []
  | ⟨t, _, .sendMail mail, .ok _⟩ :: log =>
    ((done t log).rows.head?.map fun row ↦ (row.id, some mail)).toList ++ posted log
  | _ :: log => posted log

/-- What holds of the stored notifications and of the mails. -/
structure Sound (c : Conf (service E)) : Prop where
  held : Held E.account c.state.notifications (posted c.log) (holds c.log)
  waiting : ∀ t r b, holds c.log t = some (r, b) → r.status = .queued
  mails : (posted c.log).map Prod.snd = (accepted c.log).map some
  rows : c.state.notifications.rows.map Notification.toSendNotificationInput =
    inserted (fun _ ↦ true) c.log
  fresh : ∀ r ∈ c.state.notifications.rows, r.id < c.state.nextId
  queued : ∀ r ∈ c.state.notifications.rows, r.status = .queued →
    (∃ t b, holds c.log t = some (r, b)) ∨ SaveFailed r.id c.log
  known : ∀ r ∈ c.state.notifications.rows,
    r.status = .queued ∨ r.status = .sent ∨ r.status = .failed
  failed : ∀ r ∈ c.state.notifications.rows, r.status = .failed →
    E.mail r.toSendNotificationInput = none ∨ Refused c.log

/-- A thread that holds a row is sending the newest that it inserted. -/
theorem newest_of_holds {t : Nat} {log : List (Event (service E))} {row : Notification} {b : Bool}
    (h : holds log t = some (row, b)) :
    row ∈ (done t log).rows.head? ∧ (done t log).phase.ended = false ∧
      b = decide ((done t log).phase = .accepted) := by
  unfold holds at h
  split at h
  · cases h
  · next live =>
    obtain ⟨newest, hn, heq⟩ := Option.map_eq_some_iff.mp h
    cases heq
    exact ⟨hn, Bool.eq_false_iff.mpr live, rfl⟩

/-- A thread whose phase has not ended holds the newest that it inserted. -/
theorem holds_of_newest {t : Nat} {log : List (Event (service E))} {row : Notification}
    (h : row ∈ (done t log).rows.head?) (live : (done t log).phase.ended = false) :
    holds log t = some (row, decide ((done t log).phase = .accepted)) := by
  unfold holds
  rw [if_neg (by rw [live]; simp), Option.mem_def.mp h]
  rfl

namespace Sound

variable {c : Conf (service E)} {t : Nat} {d : Delivery}

/-- The empty database is sound. -/
theorem start : Sound (⟨Db.empty, []⟩ : Conf (service E)) where
  held := .empty
  waiting t r b h := by cases h
  mails := rfl
  rows := rfl
  fresh r h := by cases h
  queued r h := by cases h
  known r h := by cases h
  failed r h := by cases h

/-- A failure to save stays in the history. -/
theorem saveFailed_cons {n : Id} {ev : Event (service E)} {log : List (Event (service E))}
    (h : SaveFailed n log) : SaveFailed n (ev :: log) := by
  obtain ⟨t, d, r, e, hm, hr⟩ := h
  exact ⟨t, d, r, e, List.mem_cons_of_mem _ hm, hr⟩

/-- A refused mail stays in the history. -/
theorem refused_cons {ev : Event (service E)} {log : List (Event (service E))}
    (h : Refused log) : Refused (ev :: log) := by
  obtain ⟨t, d, mail, e, hm⟩ := h
  exact ⟨t, d, mail, e, List.mem_cons_of_mem _ hm⟩

/-- A thread in the phase has had its mail refused. -/
theorem refused_of_phase {log : List (Event (service E))} (h : (done t log).phase = .refused) :
    Refused log := by
  induction log with
  | nil => cases h
  | cons ev log ih =>
    obtain ⟨u, d, o, a⟩ := ev
    by_cases hu : u = t
    · subst hu
      rw [show done u (⟨u, d, o, a⟩ :: log : List (Event (service E))) = (done u log).next o a from
        Monitor.state_self (progress E) u d o a log] at h
      cases o with
      | insert r =>
        cases a with
        | ok saved => cases h
        | error e => exact refused_cons (ih h)
      | sendMail mail =>
        cases a with
        | ok messageId => cases h
        | error e => exact ⟨u, d, mail, e, List.mem_cons_self⟩
      | save r => cases a <;> cases h
      | now => exact refused_cons (ih h)
    · rw [show done t (⟨u, d, o, a⟩ :: log : List (Event (service E))) = done t log from
        Monitor.state_other (progress E) hu] at h
      exact refused_cons (ih h)

/-- A failed notification stays explained. -/
theorem failed_cons (h : Sound c) (ev : Event (service E)) :
    ∀ r ∈ c.state.notifications.rows, r.status = .failed →
      E.mail r.toSendNotificationInput = none ∨ Refused (ev :: c.log) :=
  fun r hm hs ↦ (h.failed r hm hs).imp id refused_cons

/-- The step of another thread leaves what a thread holds. -/
theorem holds_other {u : Nat} {ev : Event (service E)} {log : List (Event (service E))}
    (h : ev.tid ≠ u) : holds (ev :: log) u = holds log u := by
  unfold holds
  rw [show done u (ev :: log) = done u log from Monitor.state_other (progress E) h]

/-- A step that leaves the rows and what the threads hold. -/
theorem idle (h : Sound c) {ev : Event (service E)}
    (same : ∀ u, holds (ev :: c.log) u = holds c.log u)
    (mails : accepted (ev :: c.log) = accepted c.log) (posts : posted (ev :: c.log) = posted c.log)
    (rows : inserted (fun _ ↦ true) (ev :: c.log) = inserted (fun _ ↦ true) c.log) :
    Sound (⟨c.state, ev :: c.log⟩ : Conf (service E)) where
  held := by
    rw [posts, show holds (ev :: c.log) = holds c.log from funext same]
    exact h.held
  waiting u r b hr := h.waiting u r b ((same u).symm.trans hr)
  mails := by
    rw [posts, mails]
    exact h.mails
  rows := by
    rw [rows]
    exact h.rows
  fresh := h.fresh
  queued r hr hq := by
    rcases h.queued r hr hq with ⟨u, b, holder⟩ | lost
    · exact .inl ⟨u, b, (same u).trans holder⟩
    · exact .inr (saveFailed_cons lost)
  known := h.known
  failed := h.failed_cons ev

/-- Inserting a queued notification keeps the service sound. -/
theorem insert (h : Sound c) {r saved : Notification} (closed : (done t c.log).phase = .closed)
    (hq : r.status = .queued) (hs : saved = { r with id := c.state.nextId }) :
    Sound (⟨⟨c.state.notifications.put saved, c.state.nextId + 1⟩,
      ⟨t, d, .insert r, .ok saved⟩ :: c.log⟩ : Conf (service E)) := by
  have number : saved.id = c.state.nextId := by rw [hs]
  have queued : saved.status = .queued := by rw [hs, hq]
  have self : holds (⟨t, d, .insert r, .ok saved⟩ :: c.log) t = some (saved, false) := by
    have next : done t (⟨t, d, .insert r, .ok saved⟩ :: c.log : List (Event (service E))) =
        ⟨saved :: (done t c.log).rows, .opened⟩ := by
      subst hs
      exact Monitor.state_self (progress E) t d _ _ c.log
    unfold holds
    rw [next]
    rfl
  have absent : c.state.notifications.find saved.id = none := by
    cases hf : c.state.notifications.find saved.id with
    | none => rfl
    | some q =>
      obtain ⟨hm, hk⟩ := Table.find_eq_some_iff.mp hf
      exact absurd (hk.trans number) (Nat.ne_of_lt (h.fresh q hm))
  constructor
  · apply h.held.insert absent (by simp [Env.account, queued])
    · exact fun v hv ↦ holds_other (Ne.symm hv)
    · exact fun x hx ↦ Option.some.inj (hx.symm.trans self)
  · intro u q b hq
    by_cases hu : u = t
    · rw [hu, self] at hq
      cases hq
      exact queued
    · rw [holds_other (Ne.symm hu)] at hq
      exact h.waiting u q b hq
  · exact h.mails
  · show ((c.state.notifications.put saved).rows.map _) = _
    rw [Table.rows_put_of_none absent, List.map_append, h.rows, hs]
    rfl
  · intro q hm
    rcases Table.mem_put.mp hm with rfl | ⟨hm, -⟩
    · rw [number]
      exact Nat.lt_succ_self _
    · exact Nat.lt_succ_of_lt (h.fresh q hm)
  · intro q hm hstatus
    rcases Table.mem_put.mp hm with rfl | ⟨hm, -⟩
    · exact .inl ⟨t, false, self⟩
    · rcases h.queued q hm hstatus with ⟨u, b, holder⟩ | lost
      · refine .inl ⟨u, b, ?_⟩
        rw [holds_other]
        · exact holder
        · rintro rfl
          have live := (newest_of_holds holder).2.1
          rw [closed] at live
          cases live
      · exact .inr (saveFailed_cons lost)
  · intro q hm
    rcases Table.mem_put.mp hm with rfl | ⟨hm, -⟩
    · exact .inl queued
    · exact h.known q hm
  · intro q hm hstatus
    rcases Table.mem_put.mp hm with rfl | ⟨hm, -⟩
    · rw [queued] at hstatus
      cases hstatus
    · exact h.failed_cons _ q hm hstatus

/-- A thread asks for the mail of its notification to be sent. -/
theorem mail (h : Sound c) {mail : Mail} {a : serviceSig.Answer (.sendMail mail)}
    (may : Progress.may E d (done t c.log) (.sendMail mail)) :
    Sound (⟨c.state, ⟨t, d, .sendMail mail, a⟩ :: c.log⟩ : Conf (service E)) := by
  obtain ⟨opened, row, hrow, hmail⟩ := may
  have holder : holds c.log t = some (row, false) := by
    rw [holds_of_newest hrow (by rw [opened]; rfl), opened]
    rfl
  have next : done t (⟨t, d, .sendMail mail, a⟩ :: c.log : List (Event (service E))) =
      (done t c.log).next (.sendMail mail) a := Monitor.state_self (progress E) t d _ a c.log
  cases a with
  | error e =>
    refine h.idle (fun u ↦ ?_) rfl rfl rfl
    by_cases hu : u = t
    · rw [hu, holder]
      unfold holds
      rw [next]
      simp only [Progress.next, Option.mem_def.mp hrow]
      rfl
    · exact holds_other (Ne.symm hu)
  | ok messageId =>
    have self : holds (⟨t, d, .sendMail mail, .ok messageId⟩ :: c.log) t = some (row, true) := by
      unfold holds
      rw [next]
      simp only [Progress.next, Option.mem_def.mp hrow]
      rfl
    have posts : posted (⟨t, d, .sendMail mail, .ok messageId⟩ :: c.log :
        List (Event (service E))) = (row.id, E.account.effect row) :: posted c.log := by
      have effect : E.account.effect row = some mail := hmail
      simp only [posted, Option.mem_def.mp hrow, effect]
      rfl
    constructor
    · rw [posts]
      apply h.held.post holder (by simp [Env.account, h.waiting t row false holder])
      · exact fun v hv ↦ holds_other (Ne.symm hv)
      · exact fun x hx ↦ Option.some.inj (hx.symm.trans self)
    · intro u q b hq
      by_cases hu : u = t
      · rw [hu, self] at hq
        cases hq
        exact h.waiting t row false holder
      · rw [holds_other (Ne.symm hu)] at hq
        exact h.waiting u q b hq
    · rw [posts, List.map_cons, h.mails, show E.account.effect row = some mail from hmail]
      rfl
    · exact h.rows
    · exact h.fresh
    · intro q hm hs
      rcases h.queued q hm hs with ⟨u, b, other⟩ | lost
      · by_cases hu : u = t
        · subst hu
          rw [holder] at other
          cases other
          exact .inl ⟨u, true, self⟩
        · exact .inl ⟨u, b, (holds_other (Ne.symm hu)).trans other⟩
      · exact .inr (saveFailed_cons lost)
    · exact h.known
    · exact h.failed_cons _

private theorem released {ev : Event (service E)} (tid : ev.tid = t)
    (gone : holds (ev :: c.log) t = none) :
    ∀ u x, holds (ev :: c.log) u = some x → u ≠ t ∧ holds c.log u = some x := by
  intro u x hx
  by_cases hu : u = t
  · rw [hu, gone] at hx
    cases hx
  · rw [holds_other (by rw [tid]; exact Ne.symm hu)] at hx
    exact ⟨hu, hx⟩

/-- A thread in an ended phase holds nothing. -/
theorem holds_of_ended {log : List (Event (service E))} (h : (done t log).phase.ended = true) :
    holds log t = none := if_pos h

/-- A save of a row that fails keeps the service sound. -/
theorem saveFailed (h : Sound c) {r : Notification} {e : Exception}
    (may : Progress.may E d (done t c.log) (.save r)) :
    Sound (⟨c.state, ⟨t, d, .save r, .error e⟩ :: c.log⟩ : Conf (service E)) := by
  obtain ⟨row, hrow, hid, -, -⟩ := may
  have gone : holds (⟨t, d, .save r, .error e⟩ :: c.log : List (Event (service E))) t = none := by
    apply holds_of_ended
    rw [show done t (_ :: c.log : List (Event (service E))) = (done t c.log).next _ _ from
      Monitor.state_self (progress E) t d _ _ c.log]
    rfl
  have kept := released rfl gone
  constructor
  · exact h.held.release fun u x hx ↦ (kept u x hx).2
  · exact fun u q b hq ↦ h.waiting u q b (kept u _ hq).2
  · exact h.mails
  · exact h.rows
  · exact h.fresh
  · intro q hm hs
    rcases h.queued q hm hs with ⟨u, b, holder⟩ | lost
    · by_cases hu : u = t
      · subst hu
        have newest := (newest_of_holds holder).1
        rw [Option.mem_def.mp hrow] at newest
        cases newest
        exact .inr ⟨u, d, r, e, List.mem_cons_self, hid⟩
      · exact .inl ⟨u, b, (holds_other (Ne.symm hu)).trans holder⟩
    · exact .inr (saveFailed_cons lost)
  · exact h.known
  · exact h.failed_cons _

/-- A row is saved with the outcome of its mail. -/
theorem save (h : Sound c) {r : Notification}
    (may : Progress.may E d (done t c.log) (.save r)) :
    Sound (⟨⟨c.state.notifications.put r, c.state.nextId⟩, ⟨t, d, .save r, .ok ()⟩ :: c.log⟩ :
      Conf (service E)) := by
  obtain ⟨row, hrow, hid, input, settles⟩ := may
  have live : (done t c.log).phase.ended = false := by
    rcases settles with ⟨-, hp⟩ | ⟨-, hp | ⟨hp, -⟩⟩ <;> rw [hp] <;> rfl
  have holder := holds_of_newest hrow live
  have found := h.held.stored t row _ holder
  have gone : holds (⟨t, d, .save r, .ok ()⟩ :: c.log : List (Event (service E))) t = none := by
    apply holds_of_ended
    rw [show done t (_ :: c.log : List (Event (service E))) = (done t c.log).next _ _ from
      Monitor.state_self (progress E) t d _ _ c.log]
    rfl
  have kept := released rfl gone
  constructor
  · apply h.held.save holder hid (congrArg E.mail input)
    · intro claims
      have sent : r.status = .sent := by simpa [Env.account] using claims
      rcases settles with ⟨-, hp⟩ | ⟨hs, -⟩
      · rw [hp]
        rfl
      · rw [sent] at hs
        cases hs
    · intro denies
      have failed : r.status = .failed := by simpa [Env.account] using denies
      rcases settles with ⟨hs, -⟩ | ⟨-, hp | ⟨hp, -⟩⟩
      · rw [failed] at hs
        cases hs
      all_goals
        rw [hp]
        rfl
    · exact fun v hv ↦ holds_other (Ne.symm hv)
    · exact fun x hx ↦ by rw [gone] at hx; cases hx
  · exact fun u q b hq ↦ h.waiting u q b (kept u _ hq).2
  · exact h.mails
  · show (c.state.notifications.put r).rows.map _ = _
    rw [Table.rows_put_of_some (by rw [hid, found]; rfl), List.map_map]
    refine Eq.trans ?_ h.rows
    apply List.map_congr_left
    intro q hm
    simp only [Function.comp_apply]
    split
    · next hk =>
      have same := Table.find_of_mem hm
      rw [hk, hid, found] at same
      cases same
      exact input
    · rfl
  · intro q hm
    rcases Table.mem_put.mp hm with rfl | ⟨hm, -⟩
    · rw [hid]
      exact h.fresh row (Table.find_eq_some_iff.mp found).1
    · exact h.fresh q hm
  · intro q hm hs
    rcases Table.mem_put.mp hm with rfl | ⟨hm, hk⟩
    · rcases settles with ⟨hs', -⟩ | ⟨hs', -⟩ <;> simp [hs'] at hs
    · rcases h.queued q hm hs with ⟨u, b, other⟩ | lost
      · refine .inl ⟨u, b, ?_⟩
        rw [holds_other]
        · exact other
        · rintro rfl
          have newest := (newest_of_holds other).1
          rw [Option.mem_def.mp hrow] at newest
          cases newest
          exact hk hid.symm
      · exact .inr (saveFailed_cons lost)
  · intro q hm
    rcases Table.mem_put.mp hm with rfl | ⟨hm, -⟩
    · rcases settles with ⟨sent, -⟩ | ⟨failed, -⟩
      · exact .inr (.inl sent)
      · exact .inr (.inr failed)
    · exact h.known q hm
  · intro q hm hs
    rcases Table.mem_put.mp hm with rfl | ⟨hm, -⟩
    · rcases settles with ⟨sent, -⟩ | ⟨-, hp | ⟨-, unmailed⟩⟩
      · rw [sent] at hs
        cases hs
      · exact .inr (refused_cons (refused_of_phase hp))
      · refine .inl ?_
        rw [input]
        exact input ▸ unmailed
    · exact h.failed_cons _ q hm hs

/-- Every step of a thread that obeys keeps what holds. -/
theorem step (h : Sound c) {x : Choice} {o : ServiceOp}
    (may : Progress.may E d (done t c.log) o) : Sound (c.after t d x o) := by
  have unchanged : ∀ a : serviceSig.Answer o, (done t c.log).next o a = done t c.log →
      ∀ u, holds (⟨t, d, o, a⟩ :: c.log : List (Event (service E))) u = holds c.log u := by
    intro a same u
    by_cases hu : u = t
    · subst hu
      unfold holds
      rw [show done u (⟨u, d, o, a⟩ :: c.log : List (Event (service E))) = (done u c.log).next o a
        from Monitor.state_self (progress E) u d o a c.log, same]
    · exact holds_other (Ne.symm hu)
  rcases exec_cases x o c.state with ⟨-, e, he⟩ | he
  · have after : c.after t d x o = ⟨c.state, ⟨t, d, o, .error e⟩ :: c.log⟩ := by
      simp only [Conf.after, Conf.answer, he]
    rw [after]
    cases o with
    | insert r => exact h.idle (unchanged _ rfl) rfl rfl rfl
    | sendMail mail => exact h.mail may
    | save r => exact h.saveFailed may
    | now => exact h.idle (unchanged _ rfl) rfl rfl rfl
  · have after : c.after t d x o = ⟨(perform x o c.state).2,
        ⟨t, d, o, (perform x o c.state).1⟩ :: c.log⟩ := by
      simp only [Conf.after, Conf.answer, he]
    rw [after]
    cases o with
    | insert r => exact h.insert may.1 may.2.1 rfl
    | sendMail mail => exact h.mail may
    | save r => exact h.save may
    | now => exact h.idle (unchanged _ rfl) rfl rfl rfl

end Sound

variable {p : Pool (service E)}

/-- The service is sound in every run. -/
theorem sound_of_reach (hp : Pool.Reach (.free (service E)) (· = Db.empty) p) : Sound p.conf := by
  induction hp with
  | start hs =>
    subst hs
    exact .start
  | spawn _ _ ih => exact ih
  | run hp ht _ ih => exact ih.step ((Monitor.watches_of_reach delivery_obeys hp).may ht)

end Ticketing.NotificationService
