import Ticketing.Async.Play
import Ticketing.NotificationService.Deliveries

/-!
# Outcomes of deliveries

Library `NotificationService`. What the table of notifications says in every run, and what it says
when the deliveries have been handled. Nothing remembers a delivery: a message that is delivered
again is mailed again.
-/

namespace Ticketing.NotificationService

open Async Store

variable {E : Env} {p : Pool (service E)} {log : List (Event (service E))}

/-! ### The threads and the history -/

/-- The notifications of a thread are those that it inserted. -/
theorem inputs_done (t : Nat) (log : List (Event (service E))) :
    (done t log).inputs = inserted (· == t) log := by
  induction log with
  | nil => rfl
  | cons ev log ih =>
    obtain ⟨u, d, o, a⟩ := ev
    by_cases hu : u = t
    · subst hu
      have self : done u (⟨u, d, o, a⟩ :: log : List (Event (service E))) =
          (done u log).next o a := Monitor.state_self (progress E) u d o a log
      rw [self]
      cases o with
      | insert r =>
        cases a with
        | ok saved =>
          rw [inserted, if_pos (beq_self_eq_true u), ← ih]
          simp [Progress.next, Progress.inputs]
        | error e => exact ih
      | sendMail mail => cases a <;> exact ih
      | save r => cases a <;> exact ih
      | now => exact ih
    · rw [show done t (⟨u, d, o, a⟩ :: log : List (Event (service E))) = done t log from
        Monitor.state_other (progress E) hu, ih]
      cases o with
      | insert r =>
        cases a with
        | ok saved => rw [inserted, if_neg (by simpa using hu)]
        | error e => rfl
      | sendMail mail => rfl
      | save r => rfl
      | now => rfl

private theorem concat_prefix {α : Type} {x : α} {part whole : List α} (h : part <+: whole)
    (next : whole[part.length]? = some x) : part ++ [x] <+: whole := by
  obtain ⟨rest, rfl⟩ := h
  rw [List.getElem?_append_right (Nat.le_refl _), Nat.sub_self] at next
  cases rest with
  | nil => cases next
  | cons y rest =>
    obtain rfl : y = x := Option.some.inj next
    exact ⟨rest, by rw [List.append_assoc, List.singleton_append]⟩

private theorem inputs_planned {t : Nat} {d : Delivery} (kept : (progress E).Kept log)
    (job : ∀ ev ∈ log, ev.tid = t → ev.job = d) :
    (done t log).inputs <+: d.notifications := by
  induction log with
  | nil => exact List.nil_prefix
  | cons ev log ih =>
    have earlier := ih kept.2 fun e he ↦ job e (List.mem_cons_of_mem _ he)
    obtain ⟨u, d', o, a⟩ := ev
    by_cases hu : u = t
    · subst hu
      have self : done u (⟨u, d', o, a⟩ :: log : List (Event (service E))) =
          (done u log).next o a := Monitor.state_self (progress E) u d' o a log
      obtain rfl : d' = d := job _ List.mem_cons_self rfl
      rw [self]
      cases o with
      | insert r =>
        cases a with
        | ok saved =>
          obtain ⟨-, -, planned⟩ := kept.1
          have next : ((done u log).next (.insert r) (.ok saved)).inputs =
              (done u log).inputs ++ [r.toSendNotificationInput] := by
            simp [Progress.next, Progress.inputs]
          rw [next]
          apply concat_prefix earlier
          rw [Progress.inputs, List.length_reverse, List.length_map]
          exact planned
        | error e => exact earlier
      | sendMail mail => cases a <;> exact earlier
      | save r => cases a <;> exact earlier
      | now => exact earlier
    · rw [show done t (⟨u, d', o, a⟩ :: log : List (Event (service E))) = done t log from
        Monitor.state_other (progress E) hu]
      exact earlier

private theorem lost_of_saveFailed {n : Id} (kept : (progress E).Kept log)
    (h : SaveFailed n log) : ∃ t, (done t log).phase = .lost := by
  obtain ⟨t, d, r, e, hm, -⟩ := h
  refine ⟨t, ?_⟩
  induction log with
  | nil => cases hm
  | cons ev log ih =>
    rcases List.mem_cons.mp hm with rfl | hm
    · rw [show done t (_ :: log : List (Event (service E))) = (done t log).next _ _ from
        Monitor.state_self (progress E) t d _ _ log]
      rfl
    · have lost := ih kept.2 hm
      obtain ⟨u, d', o, a⟩ := ev
      by_cases hu : u = t
      · subst hu
        have may := kept.1
        rw [show done u (⟨u, d', o, a⟩ :: log : List (Event (service E))) =
          (done u log).next o a from Monitor.state_self (progress E) u d' o a log]
        cases o with
        | insert r => exact absurd (lost.symm.trans may.1) (by simp)
        | sendMail mail => exact absurd (lost.symm.trans may.1) (by simp)
        | save r =>
          obtain ⟨row, -, -, -, settles⟩ := may
          rcases settles with ⟨-, hp⟩ | ⟨-, hp | ⟨hp, -⟩⟩
          all_goals exact absurd (lost.symm.trans hp) (by simp)
        | now => exact lost
      · rw [show done t (⟨u, d', o, a⟩ :: log : List (Event (service E))) = done t log from
          Monitor.state_other (progress E) hu]
        exact lost

private theorem flatMap_range_single {α : Type} (x : α) {u n : Nat} (h : u < n) :
    ((List.range n).flatMap fun t ↦ if u = t then [x] else []) = [x] := by
  induction n with
  | zero => omega
  | succ n ih =>
    rw [List.range_succ, List.flatMap_append, List.flatMap_singleton]
    by_cases hu : u = n
    · have earlier : ((List.range n).flatMap fun t ↦ if u = t then [x] else []) = [] := by
        rw [List.flatMap_eq_nil_iff]
        intro t ht
        rw [if_neg (by have := List.mem_range.mp ht; omega)]
      rw [earlier, if_pos hu, List.nil_append]
    · rw [ih (by omega), if_neg hu, List.append_nil]

private theorem inserted_perm {n : Nat} (h : ∀ ev ∈ log, ev.tid < n) :
    ((List.range n).flatMap fun t ↦ inserted (· == t) log).Perm
      (inserted (fun _ ↦ true) log) := by
  induction log with
  | nil => simp [inserted]
  | cons ev log ih =>
    have earlier := ih fun e he ↦ h e (List.mem_cons_of_mem _ he)
    have below := h ev List.mem_cons_self
    obtain ⟨u, d, o, a⟩ := ev
    cases o with
    | insert r =>
      cases a with
      | ok saved =>
        let x := r.toSendNotificationInput
        have split : ∀ t, inserted (· == t) (⟨u, d, .insert r, .ok saved⟩ :: log :
            List (Event (service E))) =
              inserted (· == t) log ++ if u = t then [x] else [] := by
          intro t
          by_cases hu : u = t <;> simp [inserted, hu, x]
        simp only [split]
        refine (List.flatMap_append_perm _ _ _).symm.trans ?_
        rw [flatMap_range_single x below]
        exact earlier.append_right [x]
      | error e => exact earlier
    | sendMail mail => exact earlier
    | save r => exact earlier
    | now => exact earlier

/-! ### Every run -/

/-- The notifications whose row says that they were sent. -/
def Db.sent (s : Db) : List Notification := s.notifications.rows.filter (·.status = .sent)

/-- The notifications whose row does not say that they failed. -/
def Db.unfailed (s : Db) : List Notification := s.notifications.rows.filter (·.status ≠ .failed)

/-- What the mails of some notifications are. -/
def Env.mails (E : Env) (rows : List Notification) : List (Option Mail) :=
  rows.map fun r ↦ E.mail r.toSendNotificationInput

/-- The table tells the truth about the mails. -/
structure Truthful (E : Env) (p : Pool (service E)) : Prop where
  /-- A notification that is marked as sent has a mail of its own that was accepted. -/
  sent : List.Subperm (E.mails p.conf.state.sent) ((accepted p.conf.log).map some)
  /-- A mail that was accepted has a notification of its own that is not marked as failed. -/
  unfailed : List.Subperm ((accepted p.conf.log).map some) (E.mails p.conf.state.unfailed)
  /-- A notification that is still queued is the newest of a delivery that goes on, or its row
  could not be saved. -/
  queued : ∀ r ∈ p.conf.state.notifications.rows, r.status = .queued →
    SaveFailed r.id p.conf.log ∨ ∃ t d q, p.At t d q ∧ q.ended = false ∧
      ((done t p.conf.log).rows.head?.map Notification.id) = some r.id
  /-- No other status is stored. -/
  known : ∀ r ∈ p.conf.state.notifications.rows,
    r.status = .queued ∨ r.status = .sent ∨ r.status = .failed
  /-- Nothing else is stored. -/
  rows : p.conf.state.notifications.rows.map Notification.toSendNotificationInput =
    inserted (fun _ ↦ true) p.conf.log

private theorem goes_on (hp : Pool.Reach (.free (service E)) (· = Db.empty) p) {t : Nat}
    {row : Notification} {b : Bool} (h : holds p.conf.log t = some (row, b)) :
    ∃ d q, p.At t d q ∧ q.ended = false := by
  obtain ⟨newest, live, -⟩ := newest_of_holds h
  have watched := Monitor.watches_of_reach delivery_obeys hp
  have present : t < p.threads.length := by
    by_contra absent
    rw [show done t p.conf.log = (progress E).init from
      watched.threads t (Nat.le_of_not_lt absent)] at newest
    cases newest
  obtain ⟨⟨d, q⟩, ht⟩ : ∃ thread, p.threads[t]? = some thread :=
    ⟨_, List.getElem?_eq_getElem present⟩
  refine ⟨d, q, ht, ?_⟩
  cases q with
  | ret r => exact absurd (live.symm.trans (watched.ended ht).1) (by simp)
  | op o k => rfl

/-- Accepted mails have notifications of their own that are not marked as failed. -/
theorem accepted_subperm (hp : Pool.Reach (.free (service E)) (· = Db.empty) p) :
    List.Subperm ((accepted p.conf.log).map some) (E.mails p.conf.state.unfailed) := by
  have sound := sound_of_reach hp
  rw [← sound.mails]
  have part := sound.held.receipts.posted_subperm
  simpa [Env.account, Env.mails, Db.unfailed] using part

/-- A delivery has notified of the first of its notifications, in their order, and when it returns,
of all of them. -/
theorem deliveries_notify (hp : Pool.Reach (.free (service E)) (· = Db.empty) p) {t : Nat}
    {d : Delivery} {q : (service E).Program} (ht : p.At t d q) :
    inserted (· == t) p.conf.log <+: d.notifications ∧
      (q = .ret (.ok ()) → inserted (· == t) p.conf.log = d.notifications) := by
  have watched := Monitor.watches_of_reach delivery_obeys hp
  rw [← inputs_done]
  constructor
  · apply inputs_planned watched.kept
    rintro ev he rfl
    obtain ⟨q', hq'⟩ := hp.event_at he
    exact Pool.job_of_at hq' ht
  · rintro rfl
    exact ((watched.ended ht).2 rfl).2

/-- The deliveries that arrived. -/
def deliveries (p : Pool (service E)) : List Delivery := p.threads.map Prod.fst

/-- A thread runs a delivery that arrived. -/
theorem mem_deliveries {t : Nat} {d : Delivery} {q : (service E).Program} (ht : p.At t d q) :
    d ∈ deliveries p :=
  List.mem_map.mpr ⟨_, List.mem_of_getElem? ht, rfl⟩

/-- Every row is a notification of a delivery. -/
theorem rows_named (hp : Pool.Reach (.free (service E)) (· = Db.empty) p) {r : Notification}
    (hr : r ∈ p.conf.state.notifications.rows) :
    ∃ d ∈ deliveries p, r.toSendNotificationInput ∈ d.notifications := by
  have below : ∀ ev ∈ p.conf.log, ev.tid < p.threads.length := by
    intro ev he
    obtain ⟨q, hq⟩ := hp.event_at he
    exact (List.getElem?_eq_some_iff.mp hq).1
  have listed : r.toSendNotificationInput ∈ inserted (fun _ ↦ true) p.conf.log := by
    rw [← (sound_of_reach hp).rows]
    exact List.mem_map_of_mem hr
  obtain ⟨t, ht, mine⟩ := List.mem_flatMap.mp ((inserted_perm below).symm.subset listed)
  obtain ⟨⟨d, q⟩, at'⟩ : ∃ thread, p.threads[t]? = some thread :=
    ⟨_, List.getElem?_eq_getElem (List.mem_range.mp ht)⟩
  exact ⟨d, mem_deliveries at', (deliveries_notify hp at').1.subset mine⟩

/-- What the table says when every delivery was handled. -/
structure Settled (E : Env) (p : Pool (service E)) : Prop where
  /-- Everything that the deliveries name is stored, once for each delivery. -/
  rows : List.Perm (p.conf.state.notifications.rows.map Notification.toSendNotificationInput)
    ((deliveries p).flatMap Delivery.notifications)
  /-- The outcome of each is known. -/
  outcome : ∀ r ∈ p.conf.state.notifications.rows, r.status = .sent ∨ r.status = .failed
  /-- The accepted mails are those of the notifications that are marked as sent. -/
  sent : List.Perm (E.mails p.conf.state.sent) ((accepted p.conf.log).map some)

private theorem at_returned (returned : ∀ thread ∈ p.threads, thread.2 = .ret (.ok ())) {t : Nat}
    (ht : t < p.threads.length) : ∃ d, p.At t d (.ret (.ok ())) := by
  have same := returned _ (List.getElem_mem ht)
  refine ⟨p.threads[t].1, ?_⟩
  unfold Pool.At
  rw [List.getElem?_eq_getElem ht, ← same]

/-- When every delivery has returned, the notifications are those that the deliveries name. -/
theorem rows_of_returned (hp : Pool.Reach (.free (service E)) (· = Db.empty) p)
    (returned : ∀ thread ∈ p.threads, thread.2 = .ret (.ok ())) :
    List.Perm (p.conf.state.notifications.rows.map Notification.toSendNotificationInput)
      ((deliveries p).flatMap Delivery.notifications) := by
  rw [(sound_of_reach hp).rows]
  have below : ∀ ev ∈ p.conf.log, ev.tid < p.threads.length := by
    intro ev he
    obtain ⟨q, hq⟩ := hp.event_at he
    exact (List.getElem?_eq_some_iff.mp hq).1
  refine (inserted_perm below).symm.trans (.of_eq ?_)
  have each : (List.range p.threads.length).map (fun t ↦ inserted (· == t) p.conf.log) =
      (deliveries p).map Delivery.notifications := by
    apply List.ext_getElem
    · simp [deliveries]
    · intro t ht ht'
      rw [List.length_map, List.length_range] at ht
      obtain ⟨d, hd⟩ := at_returned returned ht
      have thread : p.threads[t] = (d, .ret (.ok ())) := by
        have found := List.getElem?_eq_some_iff.mp hd
        exact found.2
      simp only [List.getElem_map, List.getElem_range, deliveries, thread]
      exact (deliveries_notify hp hd).2 rfl
  rw [List.flatMap_def, each, List.flatMap_def]

/-- When every delivery has returned, the outcome of each notification is known. -/
theorem outcome_of_returned (hp : Pool.Reach (.free (service E)) (· = Db.empty) p)
    (returned : ∀ thread ∈ p.threads, thread.2 = .ret (.ok ())) {r : Notification}
    (hm : r ∈ p.conf.state.notifications.rows) : r.status = .sent ∨ r.status = .failed := by
  have watched := Monitor.watches_of_reach delivery_obeys hp
  have sound := sound_of_reach hp
  have closed : ∀ t, (done t p.conf.log).phase = .closed := by
    intro t
    by_cases ht : t < p.threads.length
    · obtain ⟨d, hd⟩ := at_returned returned ht
      exact ((watched.ended hd).2 rfl).1
    · rw [show done t p.conf.log = (progress E).init from
        watched.threads t (Nat.le_of_not_lt ht)]
      rfl
  rcases sound.known r hm with queued | settled
  · exfalso
    rcases sound.queued r hm queued with ⟨t, b, holder⟩ | failed
    · have live := (newest_of_holds holder).2.1
      rw [closed t] at live
      cases live
    · obtain ⟨t, lost⟩ := lost_of_saveFailed watched.kept failed
      exact absurd (lost.symm.trans (closed t)) (by simp)
  · exact settled

/-- When every delivery has returned, the accepted mails are those of the notifications that are
marked as sent. -/
theorem sent_of_returned (hp : Pool.Reach (.free (service E)) (· = Db.empty) p)
    (returned : ∀ thread ∈ p.threads, thread.2 = .ret (.ok ())) :
    List.Perm (E.mails p.conf.state.sent) ((accepted p.conf.log).map some) := by
  have sound := sound_of_reach hp
  rw [← sound.mails]
  apply sound.held.receipts.claimed_perm
  intro r hm
  rcases outcome_of_returned hp returned hm with sent | failed
  · simp [Env.account, sent]
  · simp [Env.account, failed]

/-- A mail of a registered template is rendered. -/
theorem Env.mail_of_mailable (fills : TemplateEngine.FillsAll E.handlebars)
    {input : SendNotificationInput} (h : Mailable input) : E.mail input ≠ none := by
  obtain ⟨channel, template, registered⟩ := h
  obtain ⟨rendered, hr⟩ := fills.render registered input.payload
  simp [Env.mail, hr, channel]

/-- A mail goes to the recipient of its notification. -/
theorem recipient_of_mail {input : SendNotificationInput} {mail : Mail}
    (h : E.mail input = some mail) : mail.recipient = input.recipient := by
  unfold Env.mail at h
  split at h
  · cases h
  · split at h
    · cases h
      rfl
    · cases h

private theorem all_sent (fills : TemplateEngine.FillsAll E.handlebars)
    (hp : Pool.Reach (.free (service E)) (· = Db.empty) p)
    (returned : ∀ thread ∈ p.threads, thread.2 = .ret (.ok ()))
    (accepts : ¬ Refused p.conf.log) :
    p.conf.state.sent = p.conf.state.notifications.rows := by
  apply List.filter_eq_self.mpr
  intro r hm
  rcases outcome_of_returned hp returned hm with sent | failed
  · simpa using sent
  · exfalso
    rcases (sound_of_reach hp).failed r hm failed with unmailed | refused
    · have named := (rows_of_returned hp returned).subset (List.mem_map_of_mem hm)
      obtain ⟨d, -, hd⟩ := List.mem_flatMap.mp named
      exact E.mail_of_mailable fills (d.mailable _ hd) unmailed
    · exact accepts refused

/-- What a delivery names is then mailed. -/
theorem mailed_of_named (fills : TemplateEngine.FillsAll E.handlebars)
    (hp : Pool.Reach (.free (service E)) (· = Db.empty) p)
    (returned : ∀ thread ∈ p.threads, thread.2 = .ret (.ok ()))
    (accepts : ¬ Refused p.conf.log)
    {d : Delivery} (hd : d ∈ deliveries p) {input : SendNotificationInput}
    (named : input ∈ d.notifications) :
    E.mail input ∈ (accepted p.conf.log).map some := by
  apply (sent_of_returned hp returned).subset
  rw [all_sent fills hp returned accepts]
  have stored := (rows_of_returned hp returned).symm.subset (List.mem_flatMap.mpr ⟨d, hd, named⟩)
  obtain ⟨r, hr, rfl⟩ := List.mem_map.mp stored
  exact List.mem_map_of_mem hr

/-- If the templates can be filled in and the SMTP server refused nothing, then everybody whom a
handled delivery names was mailed, once for each delivery. -/
theorem everybody_mailed (fills : TemplateEngine.FillsAll E.handlebars)
    (hp : Pool.Reach (.free (service E)) (· = Db.empty) p)
    (returned : ∀ thread ∈ p.threads, thread.2 = .ret (.ok ()))
    (accepts : ¬ Refused p.conf.log) :
    List.Perm ((accepted p.conf.log).map some)
      (((deliveries p).flatMap Delivery.notifications).map E.mail) := by
  refine (sent_of_returned hp returned).symm.trans ?_
  rw [all_sent fills hp returned accepts]
  have named := (rows_of_returned hp returned).map E.mail
  rwa [List.map_map] at named

/-! ### A run -/

/-- Templates that are filled in with nothing. -/
def plainMail : Env where
  handlebars text _ := .ok text

/-- A confirmation is delivered twice; `refused` decides how the second mail ends. -/
def deliveredTwice (refused : Option Exception) : List (Label (service plainMail)) :=
  [.spawn ⟨.bookingConfirmed, bookingValue payloadOfTwo⟩, .run 0 {},
    .spawn ⟨.bookingConfirmed, bookingValue payloadOfTwo⟩, .run 1 {}, .run 1 { fault := refused },
    .run 0 {}, .run 0 {}, .run 1 {}, .run 0 {}] ++
    match refused with
    | some _ => []
    | none => [.run 1 {}]

/-- The thread has returned. -/
def hasReturned : (service plainMail).Program → Bool
  | .ret (.ok ()) => true
  | _ => false

/-- The mail was refused. -/
def isRefused : Event (service plainMail) → Bool
  | ⟨_, _, .sendMail _, .error _⟩ => true
  | _ => false

/-- A thread that has returned ended with a value. -/
theorem eq_of_hasReturned {q : (service plainMail).Program} (h : hasReturned q = true) :
    q = .ret (.ok ()) := by
  unfold hasReturned at h
  split at h
  · rfl
  · cases h

/-- The mails of both deliveries are accepted: the attendee gets two. -/
theorem mailed_twice :
    ∃ p, Pool.play (.free _) (deliveredTwice none) (.start Db.empty) = some p ∧
      (accepted p.conf.log).length = 2 ∧
      List.Perm ((accepted p.conf.log).map some)
        (((deliveries p).flatMap Delivery.notifications).map plainMail.mail) := by
  have played : (Pool.play (.free _) (deliveredTwice none) (.start Db.empty)).any fun p ↦
      (accepted p.conf.log).length = 2 && (p.threads.all fun thread ↦ hasReturned thread.2) &&
        p.conf.log.all fun ev ↦ !isRefused ev := by
    decide +kernel
  simp only [Option.any_eq_true, Bool.and_eq_true, decide_eq_true_eq, List.all_eq_true] at played
  obtain ⟨p, hp, ⟨two, returned⟩, accepts⟩ := played
  refine ⟨p, hp, two, everybody_mailed ?_ (Pool.reach_of_play rfl hp)
    (fun thread ht ↦ eq_of_hasReturned (returned thread ht)) ?_⟩
  · exact fun template _ ↦ ⟨fun _ ↦ ⟨_, rfl⟩, fun _ ↦ ⟨_, rfl⟩, fun _ ↦ ⟨_, rfl⟩⟩
  · rintro ⟨t, d, mail, e, hm⟩
    have := accepts _ hm
    cases this

end Ticketing.NotificationService
