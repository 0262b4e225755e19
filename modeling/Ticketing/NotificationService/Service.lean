import Ticketing.Async.Service
import Ticketing.Async.Translation
import Ticketing.NotificationService.Consumers
import Ticketing.NotificationService.TemplateEngine
import Ticketing.Store.Table

/-!
# Notification service

Library `NotificationService`. Follows `notification/notification.service.ts` and
`channels/email.adapter.ts`; the job of a thread is one delivery of a message to a consumer. An
operation that fails has no effect.
-/

namespace Ticketing.NotificationService

open Async Store

/-- `notification/enums/notification-status.enum.ts`. -/
inductive NotificationStatus where
  | queued
  | sent
  | failed
  | delivered
  | bounced
  deriving DecidableEq, Repr

/-- The value of the `enum`. -/
def NotificationChannel.value : NotificationChannel → String
  | .email => "email"
  | .sms => "sms"
  | .push => "push"

/-- `notification/entities/notification.entity.ts`. -/
structure Notification extends SendNotificationInput where
  id : Id
  status : NotificationStatus
  failureReason : Option String
  sentAt : Option Nat

/-- A new notification; the store numbers it. -/
def Notification.create (input : SendNotificationInput) : Notification where
  toSendNotificationInput := input
  id := 0
  status := .queued
  failureReason := none
  sentAt := none

/-- The notifications. -/
structure Db where
  notifications : Table Notification.id
  nextId : Id

/-- The database before anything ran. -/
def Db.empty : Db := ⟨.empty, 0⟩

/-- `channels/interfaces/channel.interface.ts`; `recipient` is its `to`. -/
structure ChannelMessage where
  recipient : Value
  subjects : Option String
  body : String
  html : Option String

/-- `channels/interfaces/channel.interface.ts`. -/
structure ChannelResult where
  success : Bool
  providerId : Option String := none
  error : Option String := none

/-- The options of `transporter.sendMail`; `sender` is its `from`, `recipient` its `to`. -/
structure Mail where
  sender : String
  recipient : Value
  subject : String
  text : String
  html : Option String

/-- What the service awaits. -/
inductive ServiceOp where
  | insert (notification : Notification)
  | sendMail (mail : Mail)
  | save (notification : Notification)
  | now

/-- The replies. -/
abbrev ServiceRes : ServiceOp → Type
  | .insert _ => Notification
  | .sendMail _ => String
  | .save _ => Unit
  | .now => Nat

/-- The operations of the service. -/
abbrev serviceSig : Sig := ⟨ServiceOp, ServiceRes, Exception⟩

/-- Await one operation. -/
abbrev await {L : Type} (o : ServiceOp) : Code serviceSig L (ServiceRes o) :=
  Code.await (S := serviceSig) o

/-- The effect of an operation that does not fail; `sendMail` answers with a `messageId`. -/
def perform (x : Choice) : (o : ServiceOp) → Db → serviceSig.Answer o × Db
  | .insert r, s =>
    (.ok { r with id := s.nextId },
      { s with notifications := s.notifications.put { r with id := s.nextId },
               nextId := s.nextId + 1 })
  | .sendMail _, s => (.ok x.text, s)
  | .save r, s => (.ok (), { s with notifications := s.notifications.put r })
  | .now, s => (.ok x.now, s)

/-- The clock cannot fail. -/
def ServiceOp.fallible : ServiceOp → Bool
  | .now => false
  | _ => true

/-- One awaited operation: it fails without effect, or has its effect. -/
def exec (x : Choice) : (o : ServiceOp) → Db → serviceSig.Answer o × Db :=
  serviceSig.attempt ServiceOp.fallible x.fault (perform x)

/-- An operation fails without effect, or has its effect. -/
theorem exec_cases (x : Choice) (o : ServiceOp) (s : Db) :
    (o.fallible = true ∧ ∃ e, exec x o s = (.error e, s)) ∨ exec x o s = perform x o s :=
  Sig.attempt_cases (S := serviceSig) o s

/-- What the service takes from Handlebars and from its configuration. -/
structure Env where
  handlebars : Handlebars
  fromAddress : String := "noreply@example.com"

variable (E : Env)

/-- `EmailAdapter.send` (`email.adapter.ts:34–59`). -/
def EmailAdapter.send {L : Type} (message : ChannelMessage) : Code serviceSig L ChannelResult :=
  tryCatch
    (do
      let messageId ← await (.sendMail
        { sender := E.fromAddress, recipient := message.recipient,
          subject := message.subjects.getD "", text := message.body, html := message.html })
      pure { success := true, providerId := some messageId })
    fun error ↦ pure { success := false, error := some error.message }

set_option linter.dupNamespace false

namespace NotificationService

/-- Read what was rendered, or throw. -/
def rendered {L : Type} : Except Exception EmailTemplate → Code serviceSig L EmailTemplate
  | .ok template => pure template
  | .error e => throw e

/-- `send`, the `try` block (lines 36–63). The `save` at its end is returned without being
awaited, so the `catch` block does not see it fail. -/
def trySend (input : SendNotificationInput) : Code serviceSig Notification Unit := do
  let template ← rendered (TemplateEngine.render E.handlebars input.templateId input.payload)
  if input.channel = .email then
    let result ← EmailAdapter.send E
      { recipient := input.recipient, subjects := some template.subject, body := template.body,
        html := some template.html }
    if result.success then
      Code.assign fun saved ↦ { saved with status := .sent }
      let now ← await .now
      Code.assign fun saved ↦ { saved with sentAt := some now }
    else Code.assign fun saved ↦ { saved with status := .failed, failureReason := result.error }
  else throw (.badRequest ("Unsupported channel: " ++ input.channel.value))

/-- `send`, the `catch` block but for its `save`. -/
def failed (error : Exception) : Code serviceSig Notification Unit :=
  Code.assign fun saved ↦ { saved with status := .failed, failureReason := some error.message }

/-- `send` (`notification.service.ts:23–70`). -/
def send (input : SendNotificationInput) : Code serviceSig Unit Notification := do
  let saved ← await (.insert (.create input))
  Code.on saved do
    tryCatch (trySend E input) failed
    await (.save (← Code.entity))
    Code.entity

/-- `findByUser`. -/
def findByUser (userId : String) (s : Db) : List Notification :=
  s.notifications.rows.filter fun r ↦
    match r.userId with
    | .str id => id = userId
    | _ => false

end NotificationService

/-- A handler awaits `send`, and drops what it returns. -/
def serve : (o : Op) → Prog serviceSig (sig.Answer o)
  | .send input => Code.prog do
    let _ ← NotificationService.send E input
    pure ()

/-- One delivery of a message. -/
structure Delivery where
  topic : Topic
  payload : Value

/-- What handles the delivery. -/
def Delivery.handling (d : Delivery) : Handling := d.topic.handler d.payload

/-- The notification service. -/
abbrev service : Service where
  toSig := serviceSig
  State := Db
  Choice := Choice
  exec := exec
  Job := Delivery
  Reply := Unit
  code d := d.handling.prog.translate (serve E)

end Ticketing.NotificationService
