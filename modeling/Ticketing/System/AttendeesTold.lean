import Ticketing.BookingService.Emissions
import Ticketing.NotificationService.Attendees

/-!
# What attendees are told

Library `System`. The booking service and the notification service, with the broker between them:
a message that was emitted is delivered any number of times, at any later time. Nobody is told what
is not true, and the attendees of a confirmed booking are told.
-/

namespace Ticketing.System

open Async Store BookingService
open NotificationService (Delivery Env Mail SendNotificationInput Topic accepted confirmation
  cancellation bookingValue deliveries hasEmail)

/-- The topic that a handler listens to. -/
def topicName : Topic → String
  | .bookingConfirmed => "booking.confirmed"
  | .bookingCancelled => "booking.cancelled"
  | .bookingRefunded => "booking.refunded"
  | .emailVerification => "auth.email_verification"
  | .passwordReset => "auth.password_reset"

/-- The topic is one of the auth service. -/
def ofAuth : Topic → Bool
  | .emailVerification | .passwordReset => true
  | _ => false

/-- The booking service emitted what is delivered. -/
def Announced (log : List (Event BookingService.service)) (d : Delivery) : Prop :=
  ∃ ev ∈ log, ∃ key payload,
    ev.op = .emit (topicName d.topic) key payload ∧ d.payload = bookingValue payload

variable {E : Env}

/-- The runs of the two services: each takes its own steps, and messages are delivered. -/
inductive Runs (E : Env) : Pool BookingService.service → Pool (NotificationService.service E) → Prop
  | start : Runs E (.start Db.empty) (.start NotificationService.Db.empty)
  | booking {p p' : Pool BookingService.service} {q : Pool (NotificationService.service E)}
      (h : Runs E p q) (step : Pool.Step (.free _) p p') : Runs E p' q
  | deliver {p : Pool BookingService.service} {q : Pool (NotificationService.service E)}
      (h : Runs E p q) {d : Delivery} (announced : ofAuth d.topic = true ∨ Announced p.conf.log d) :
      Runs E p (q.spawn d)
  | notification {p : Pool BookingService.service} {q : Pool (NotificationService.service E)}
      (h : Runs E p q) {t : Nat} {d : Delivery} {x : Choice} {o : NotificationService.ServiceOp}
      {k : NotificationService.serviceSig.Answer o → (NotificationService.service E).Program}
      (ht : q.At t d (.op o k)) : Runs E p (q.advance t d x o k)

namespace Runs

variable {p : Pool BookingService.service} {q : Pool (NotificationService.service E)}

/-- The joint run contains a run of the booking service. -/
theorem bookings (h : Runs E p q) : BookingService.Reach (.free _) p := by
  induction h with
  | start => exact .start rfl
  | booking _ step ih => exact ih.step step
  | deliver _ _ ih => exact ih
  | notification _ _ ih => exact ih

/-- The joint run contains a run of the notification service. -/
theorem notifications (h : Runs E p q) :
    Pool.Reach (.free _) (· = NotificationService.Db.empty) q := by
  induction h with
  | start => exact .start rfl
  | booking _ _ ih => exact ih
  | deliver _ _ ih => exact .spawn ih fun _ _ _ _ _ ↦ ⟨id, id⟩
  | notification _ ht ih => exact .run ih ht trivial

/-- Everything that is delivered was announced. -/
theorem announced (h : Runs E p q) :
    ∀ d ∈ deliveries q, ofAuth d.topic = true ∨ Announced p.conf.log d := by
  induction h with
  | start => exact fun d hd ↦ by cases hd
  | booking _ step ih =>
    intro d hd
    refine (ih d hd).imp id ?_
    rintro ⟨ev, he, rest⟩
    exact ⟨ev, (Pool.log_of_later (.single step)).subset he, rest⟩
  | deliver _ announced ih =>
    intro d hd
    unfold deliveries Pool.spawn at hd
    rw [List.map_append] at hd
    rcases List.mem_append.mp hd with hd | hd
    · exact ih d hd
    · obtain rfl := List.mem_singleton.mp hd
      exact announced
  | @notification p q _ t d x o k ht ih =>
    intro d' hd
    obtain ⟨⟨i, r⟩, hm, rfl⟩ := List.mem_map.mp hd
    obtain ⟨u, hu⟩ := List.mem_iff_getElem?.mp hm
    rcases (Pool.at_advance ht).mp hu with ⟨-, rfl, -⟩ | ⟨-, old⟩
    · exact ih _ (List.mem_map.mpr ⟨_, List.mem_of_getElem? ht, rfl⟩)
    · exact ih _ (List.mem_map.mpr ⟨_, List.mem_of_getElem? old, rfl⟩)

/-- The booking service may run on alone. -/
theorem later {p' : Pool BookingService.service} (h : Runs E p q)
    (hl : Pool.Later (.free _) p p') : Runs E p' q := by
  induction hl with
  | refl => exact h
  | tail _ step ih => exact ih.booking step

/-- The notification service goes on, if no message is delivered. -/
theorem goes_on {q' : Pool (NotificationService.service E)} (h : Runs E p q)
    {steps : List (Nat × Choice)}
    (hq : Pool.play (.free _) (steps.map fun s ↦ .run s.1 s.2) q = some q') :
    Runs E p q' ∧ deliveries q ⊆ deliveries q' := by
  induction steps generalizing q with
  | nil =>
    cases hq
    exact ⟨h, List.Subset.refl _⟩
  | cons s rest ih =>
    rw [List.map_cons, Pool.play, Option.bind_eq_some_iff] at hq
    obtain ⟨q₁, taken, hq⟩ := hq
    simp only [Pool.take] at taken
    split at taken
    · next j o k ht =>
      split at taken
      · cases taken
        obtain ⟨run, kept⟩ := ih (h.notification ht) hq
        refine ⟨run, List.Subset.trans ?_ kept⟩
        intro d hd
        obtain ⟨⟨i, r⟩, hm, rfl⟩ := List.mem_map.mp hd
        obtain ⟨u, hu⟩ := List.mem_iff_getElem?.mp hm
        obtain ⟨r', hr'⟩ := (Pool.extends_advance ht).job u i r hu
        exact NotificationService.mem_deliveries hr'
      · cases taken
    · cases taken

end Runs

/-! ### Nobody is told what is not true -/

/-- A notification about a stored booking that tells the truth, or one about an account. -/
inductive Concerns (c : Conf BookingService.service) : SendNotificationInput → Prop
  | confirmed {r : Booking} {item : BookingItem} (stored : r ∈ c.state.bookings.rows)
      (settled : r.settled = true) (paid : Paid c.log r) (mine : item ∈ c.state.itemsOf r.id) :
      Concerns c (confirmation (confirmedPayload r r.eventId (c.state.itemsOf r.id))
        (seatPayload item))
  | cancelled {r : Booking} {item : BookingItem} (stored : r ∈ c.state.bookings.rows)
      (status : r.status = .cancelled) (mine : item ∈ c.state.itemsOf r.id) :
      Concerns c (cancellation (cancelledPayload r (c.state.itemsOf r.id)) (seatPayload item))
  | account {input : SendNotificationInput}
      (type : input.type = "email_verification" ∨ input.type = "password_reset") :
      Concerns c input

variable {p : Pool BookingService.service} {q : Pool (NotificationService.service E)}
  {c : Conf BookingService.service}

/-- A booking that is found is a stored row. -/
theorem row_of_find {b : Id} {r : Booking} (h : c.state.bookings.find b = some r) :
    r ∈ c.state.bookings.rows := (Inv.mem_of_find h).1

/-- What an announced message notifies of is true. -/
theorem concerns_of_truth {topic : Topic} {key : Id} {payload : BookingPayload}
    (truth : TruthOf c (topicName topic) key payload) :
    ∀ input ∈ (⟨topic, bookingValue payload⟩ : Delivery).notifications, Concerns c input := by
  obtain ⟨r, hr, told⟩ := truth
  intro input hm
  cases topic with
  | bookingConfirmed =>
    rw [NotificationService.notifications_confirmed] at hm
    obtain ⟨seat, hs, rfl⟩ := List.mem_map.mp hm
    rcases told.by_topic with ⟨-, settled, paid, rfl⟩ | ⟨other, -⟩ | ⟨other, -⟩
    · obtain ⟨item, mine, rfl⟩ := List.mem_map.mp (List.mem_filter.mp hs).1
      exact .confirmed (row_of_find hr) settled paid mine
    · exact absurd other (by decide)
    · exact absurd other (by decide)
  | bookingCancelled =>
    rw [NotificationService.notifications_cancelled] at hm
    obtain ⟨seat, hs, rfl⟩ := List.mem_map.mp hm
    rcases told.by_topic with ⟨other, -⟩ | ⟨other, -⟩ | ⟨-, status, rfl⟩
    · exact absurd other (by decide)
    · exact absurd other (by decide)
    · have first := (Option.filter_eq_some_iff.mp (Option.mem_toList.mp hs)).1
      obtain ⟨item, mine, rfl⟩ := List.mem_map.mp (List.mem_of_head? first)
      exact .cancelled (row_of_find hr) status mine
  | bookingRefunded =>
    rw [NotificationService.notifications_refunded] at hm
    cases hm
  | emailVerification =>
    rcases told.by_topic with ⟨other, -⟩ | ⟨other, -⟩ | ⟨other, -⟩
    all_goals exact absurd other (by decide)
  | passwordReset =>
    rcases told.by_topic with ⟨other, -⟩ | ⟨other, -⟩ | ⟨other, -⟩
    all_goals exact absurd other (by decide)

/-- What a delivery about an account notifies of. -/
theorem concerns_of_auth {d : Delivery} (auth : ofAuth d.topic = true) :
    ∀ input ∈ d.notifications, Concerns c input := by
  obtain ⟨topic, payload⟩ := d
  intro input hm
  rw [Delivery.notifications_eq] at hm
  cases topic with
  | emailVerification => exact .account (.inl (NotificationService.type_handleMail _ _ _ _ hm))
  | passwordReset => exact .account (.inr (NotificationService.type_handleMail _ _ _ _ hm))
  | _ => cases auth

/-- In every run of the two services each mail that the SMTP server accepted is about an account,
or tells an attendee the truth about a stored booking: it confirms one for which the payment service
answered `SUCCEEDED`, or says that one was cancelled. -/
theorem mails_true (h : Runs E p q) :
    ∀ mail ∈ accepted q.conf.log, ∃ input, E.mail input = some mail ∧ Concerns p.conf input := by
  intro mail hm
  have unfailed := NotificationService.accepted_subperm h.notifications
  obtain ⟨r, hr, mailed⟩ := List.mem_map.mp (unfailed.subset (List.mem_map_of_mem hm))
  obtain ⟨d, hd, named⟩ :=
    NotificationService.rows_named h.notifications (List.mem_of_mem_filter hr)
  refine ⟨r.toSendNotificationInput, mailed, ?_⟩
  rcases h.announced d hd with auth | ⟨ev, he, key, payload, emits, same⟩
  · exact concerns_of_auth auth _ named
  · obtain ⟨topic, value⟩ := d
    subst same
    have telling := telling_of_reach h.bookings.free
    exact concerns_of_truth (telling.told ev he _ key payload emits) _ named

/-! ### The attendees of a confirmed booking are told -/

/-- When every delivery was handled, nothing was refused and the templates can be filled in, then
every attendee of a confirmed booking was mailed the confirmation, if its outbox row is completed
and what was emitted is delivered. -/
theorem attendees_told (h : Runs E p q)
    (fills : NotificationService.TemplateEngine.FillsAll E.handlebars)
    (returned : ∀ thread ∈ q.threads, thread.2 = .ret (.ok ()))
    (accepts : ¬ NotificationService.Refused q.conf.log)
    (delivered : ∀ ev ∈ p.conf.log, ∀ key payload, ev.op = .emit "booking.confirmed" key payload →
      ⟨.bookingConfirmed, bookingValue payload⟩ ∈ deliveries q)
    {r : Booking} (hr : r ∈ p.conf.state.bookings.rows) {e : Outbox}
    (he : e ∈ p.conf.state.outbox.rows) (own : e.aggregateId = r.id)
    (confirms : e.event.isBookingConfirmed = true) (completed : e.status = .completed)
    {item : BookingItem} (mine : item ∈ p.conf.state.itemsOf r.id)
    (email : hasEmail (seatPayload item) = true) :
    ∃ mail ∈ accepted q.conf.log, mail.recipient = .text item.attendeeEmail ∧
      E.mail (confirmation (confirmedPayload r r.eventId (p.conf.state.itemsOf r.id))
        (seatPayload item)) = some mail := by
  obtain ⟨payload, event⟩ : ∃ payload, e.event = .bookingConfirmed payload := by
    revert confirms
    cases e.event <;> simp [OutboxEvent.isBookingConfirmed]
  have message : e.message = some ("booking.confirmed", r.id, payload) := by
    simp [Outbox.message, event, own]
  have telling := telling_of_reach h.bookings.free
  obtain ⟨ev, hev, emits⟩ := telling.completed e he completed _ message
  obtain ⟨r', hr', told⟩ := telling.told ev hev _ _ _ emits
  rw [Inv.find_of_mem hr] at hr'
  cases hr'
  rcases told.by_topic with ⟨-, -, -, rfl⟩ | ⟨other, -⟩ | ⟨other, -⟩
  · let payload := confirmedPayload r r.eventId (p.conf.state.itemsOf r.id)
    let input := confirmation payload (seatPayload item)
    have named : input ∈ (⟨.bookingConfirmed, bookingValue payload⟩ : Delivery).notifications := by
      rw [NotificationService.notifications_confirmed]
      exact List.mem_map_of_mem (List.mem_filter.mpr ⟨List.mem_map_of_mem mine, email⟩)
    obtain ⟨mail, hmail, same⟩ := List.mem_map.mp
      (NotificationService.mailed_of_named fills h.notifications returned accepts
        (delivered ev hev _ _ emits) named)
    exact ⟨mail, hmail, NotificationService.recipient_of_mail same.symm, same.symm⟩
  · exact absurd other (by decide)
  · exact absurd other (by decide)

/-! ### A run -/

/-- A request for a seat with the address of its attendee. -/
def dtoWithEmail : CreateBookingDto :=
  { sampleDto "A" "k" with items := [⟨"A", none, some "a@x"⟩] }

/-- The seat is booked and paid for, and the worker delivers the outbox rows. -/
def bookedWithEmail : List (Label BookingService.service) :=
  .spawn (.createBooking dtoWithEmail) ::
    steps 0 [{ reply := .seats [sampleSeat "A"] }, { reply := .verified true }] ++
    quietSteps 0 8 ++ steps 0 [{ reply := .payment (some (samplePayment 0 "k")) }] ++
    quietSteps 0 8 ++ .spawn .processOutbox :: quietSteps 1 14

/-- The mail of the confirmation is sent. -/
def mailSteps : List (Nat × Choice) := List.replicate 4 (0, {})

/-- The delivery of a confirmation. -/
def confirmationOf (payload : BookingPayload) : Delivery :=
  ⟨.bookingConfirmed, bookingValue payload⟩

/-- The notification service after the confirmation was delivered. -/
def delivering (payload : BookingPayload) :
    Pool (NotificationService.service NotificationService.plainMail) :=
  (Pool.start NotificationService.Db.empty).spawn (confirmationOf payload)

/-- The booking has an attendee with an address, and its confirmation is completed. -/
def confirmedWithEmail (s : Db) (r : Booking) : Bool :=
  (s.outbox.rows.any fun e ↦
    e.aggregateId = r.id && e.event.isBookingConfirmed && e.status = .completed) &&
  (s.itemsOf r.id).any fun item ↦ hasEmail (seatPayload item)

/-- Everything was handled, and what was emitted is the message with this payload. -/
def handled (p : Pool BookingService.service)
    (q : Pool (NotificationService.service NotificationService.plainMail))
    (payload : BookingPayload) : Bool :=
  (q.threads.all fun thread ↦ NotificationService.hasReturned thread.2) &&
  (q.conf.log.all fun ev ↦ !NotificationService.isRefused ev) &&
  (p.conf.log.all fun ev ↦
    match ev.op with
    | .emit "booking.confirmed" _ payload' => payload' = payload
    | _ => true) &&
  (accepted q.conf.log).length = 1

private theorem confirmed_and_mailed :
    ∃ p payload q, Runs NotificationService.plainMail p q ∧ confirmationOf payload ∈ deliveries q ∧
      handled p q payload = true ∧
      p.conf.state.bookings.rows.any (confirmedWithEmail p.conf.state) = true := by
  have played : (Pool.play (.free _) bookedWithEmail (.start Db.empty)).any fun p ↦
      (p.conf.log.findSome? fun ev ↦ ev.op.confirms 0).any fun payload ↦
        (Pool.play (.free _) (mailSteps.map fun s ↦ .run s.1 s.2) (delivering payload)).any
          fun q ↦ handled p q payload &&
            p.conf.state.bookings.rows.any (confirmedWithEmail p.conf.state) := by
    decide +kernel
  simp only [Option.any_eq_true, Bool.and_eq_true] at played
  obtain ⟨p, hp, payload, emits, q, hq, done, confirmed⟩ := played
  obtain ⟨ev, he, confirms⟩ := List.exists_of_findSome?_eq_some emits
  have booked : Runs NotificationService.plainMail p (.start NotificationService.Db.empty) :=
    Runs.start.later (Pool.later_of_play hp)
  have delivered : Runs NotificationService.plainMail p (delivering payload) :=
    booked.deliver (.inr ⟨ev, he, 0, payload, Op.eq_of_confirms confirms, rfl⟩)
  obtain ⟨run, kept⟩ := delivered.goes_on hq
  exact ⟨p, payload, q, run, kept List.mem_cons_self, done, confirmed⟩

/-- The mail of a confirmed booking is true. -/
theorem mail_true_of_confirmed :
    ∃ p q, Runs NotificationService.plainMail p q ∧ (accepted q.conf.log).length = 1 ∧
      ∀ mail ∈ accepted q.conf.log, ∃ input,
        NotificationService.plainMail.mail input = some mail ∧ Concerns p.conf input := by
  obtain ⟨p, payload, q, run, -, done, -⟩ := confirmed_and_mailed
  simp only [handled, Bool.and_eq_true, decide_eq_true_eq] at done
  exact ⟨p, q, run, done.2, mails_true run⟩

/-- The attendee of the run is told. -/
theorem attendee_told_of_confirmed :
    ∃ p q, Runs NotificationService.plainMail p q ∧ ∃ r ∈ p.conf.state.bookings.rows,
      ∃ item ∈ p.conf.state.itemsOf r.id, ∃ mail ∈ accepted q.conf.log,
        mail.recipient = .text item.attendeeEmail ∧
        NotificationService.plainMail.mail
          (confirmation (confirmedPayload r r.eventId (p.conf.state.itemsOf r.id))
            (seatPayload item)) = some mail := by
  obtain ⟨p, payload, q, run, arrived, done, confirmed⟩ := confirmed_and_mailed
  simp only [handled, confirmedWithEmail, Bool.and_eq_true, decide_eq_true_eq, List.all_eq_true,
    List.any_eq_true] at done confirmed
  obtain ⟨⟨⟨returned, accepts⟩, same⟩, -⟩ := done
  obtain ⟨r, hr, ⟨e, he, ⟨own, confirms⟩, completed⟩, item, mine, email⟩ := confirmed
  refine ⟨p, q, run, r, hr, item, mine, attendees_told run ?_ ?_ ?_ ?_ hr he own confirms completed
    mine email⟩
  · exact fun template _ ↦ ⟨fun _ ↦ ⟨_, rfl⟩, fun _ ↦ ⟨_, rfl⟩, fun _ ↦ ⟨_, rfl⟩⟩
  · exact fun thread ht ↦ NotificationService.eq_of_hasReturned (returned thread ht)
  · rintro ⟨t, d, mail, error, hm⟩
    have := accepts _ hm
    cases this
  · intro ev hev key payload' emits
    have equal := same ev hev
    rw [emits] at equal
    obtain rfl : payload' = payload := of_decide_eq_true equal
    exact arrived

end Ticketing.System
