import Ticketing.Async.Monitor
import Ticketing.BookingService.History
import Ticketing.BookingService.Scopes

/-!
# What follows the reply to a refund

Library `BookingService`. A thread that is told that a payment was refunded saves the booking as
`PAYMENT_REFUNDED` before it awaits anything else.
-/

namespace Ticketing.BookingService

open Async

/-- The booking whose refund the last answer of the payment service confirmed. -/
def toldNext (st : Option Id) : (o : Op) → sig.Answer o → Option Id
  | .rpc (some b) (.refundPayment _ _ _), .ok (.refund true _ _) => some b
  | .saveBooking _, _ => none
  | _, _ => st

/-- A thread that was told of a refund saves its booking. -/
def toldMay (st : Option Id) (o : Op) : Prop :=
  ∀ b ∈ st, ∃ r, o = .saveBooking r ∧ r.id = b ∧ r.refundState = some .paymentRefunded

/-- What each thread was told of a refund and has not saved yet. -/
def told : Monitor service (Option Id) where
  init := none
  next := toldNext
  may _ := toldMay

/-- The call that pays back. -/
def Op.paysBack : Op → Bool
  | .rpc _ (.refundPayment _ _ _) => true
  | _ => false

/-- Other operations tell nothing of a refund. -/
theorem told_idle {j : Job} {o : Op} (h : o.paysBack = false) : told.Idle j none o := by
  constructor
  · intro b hb
    cases hb
  · intro r
    cases o with
    | rpc i request =>
      cases request with
      | refundPayment b key reason => cases h
      | _ => cases i <;> rfl
    | _ => rfl

/-- What settles a refund does not pay back. -/
theorem told_settles {j : Job} {o : Op} (h : o.settles = true) : told.Idle j none o := by
  apply told_idle
  cases o with
  | rpc i request => cases request <;> first | rfl | cases h
  | _ => rfl

/-- Nobody was told of a refund. -/
abbrev Untold (s : Option Id) : Prop := s = none

/-- What a reply tells of the refund of a booking. -/
private def toldBy (b : Id) : Reply → Option Id
  | .refund true _ _ => some b
  | _ => none

private theorem refundPaymentStep_told {j : Job} :
    told.Keeps j (fun _ ↦ Untold) refundPaymentStep := by
  unfold refundPaymentStep
  apply Monitor.Holds.read
  intro booking
  apply Monitor.Holds.bind
    (I := fun answer l s ↦ l = booking ∧ s = if answer.1 then some booking.id else none)
  · unfold grpc
    apply Monitor.Holds.bind
      (I := fun reply l s ↦ l = booking ∧ s = toldBy booking.id reply)
    · apply Monitor.Holds.await
      · rintro l s ⟨-, rfl⟩ b hb
        cases hb
      · rintro reply l s - ⟨rfl, rfl⟩
        refine ⟨rfl, ?_⟩
        cases reply with
        | refund success id why => cases success <;> rfl
        | _ => rfl
      · rintro e l s - ⟨-, rfl⟩
        rfl
    intro reply
    cases reply with
    | refund success id why =>
      apply Monitor.Holds.ret
      rintro l s ⟨rfl, rfl⟩
      cases success <;> exact ⟨rfl, rfl⟩
    | _ => exact Monitor.Holds.raise _ fun _ _ h ↦ h.2
  rintro ⟨success, failureReason⟩
  cases success with
  | true =>
    apply Monitor.Holds.bind
      (I := fun _ l s ↦ (l.id = booking.id ∧ l.refundState = some .paymentRefunded) ∧
        s = some booking.id)
    · apply Monitor.Holds.assign
      rintro l s ⟨rfl, rfl⟩
      exact ⟨⟨rfl, rfl⟩, rfl⟩
    intro _
    apply Monitor.Holds.read
    intro row
    apply Monitor.Holds.bind (I := fun _ _ ↦ Untold)
    · apply Monitor.Holds.await
      · rintro l s ⟨rfl, ⟨hid, hst⟩, rfl⟩ b hb
        cases hb
        exact ⟨l, rfl, hid, hst⟩
      · exact fun _ _ _ _ _ ↦ rfl
      · exact fun _ _ _ _ _ ↦ rfl
    intro _
    exact Monitor.Holds.ret _ fun _ _ h ↦ h
  | false =>
    apply Monitor.Holds.bind (I := fun _ _ ↦ Untold)
    · exact Monitor.Holds.assign _ fun _ _ h ↦ h.2
    intro _
    apply Monitor.Holds.read
    intro row
    apply Monitor.Holds.bind (I := fun _ _ ↦ Untold)
    · apply (Monitor.Holds.stays (Code.Awaits.await (told_settles rfl))).pre
      exact fun _ _ h ↦ h.2
    intro _
    exact Monitor.Holds.raise _ fun _ _ h ↦ h

private theorem processRefund_told {j : Job} (items : List BookingItem) :
    told.Keeps j (fun _ ↦ Untold) (processRefundStateMachine items) := by
  have step : told.Keeps j (fun _ ↦ Untold) (refundStep items) := by
    unfold refundStep
    apply Monitor.Holds.tryCatch (F := fun _ _ ↦ Untold)
    · unfold refundSwitch
      apply Monitor.Holds.skip
      intro booking
      split
      · exact refundPaymentStep_told
      · exact Monitor.Holds.stays ((releaseSeatsStep_awaits _).mono fun _ ↦ told_settles)
      · exact Monitor.Holds.stays ((completeStep_awaits _).mono fun _ ↦ told_settles)
      · exact Monitor.Holds.ret _ fun _ _ h ↦ h
      · exact Monitor.Holds.raise _ fun _ _ h ↦ h
      · exact Monitor.Holds.raise _ fun _ _ h ↦ h
    · exact fun error ↦
        Monitor.Holds.stays ((failRefundStep_awaits error).mono fun _ ↦ told_settles)
  unfold processRefundStateMachine
  generalize maxSteps = n
  induction n with
  | zero => exact Monitor.Holds.ret _ fun _ _ h ↦ h
  | succ n ih =>
    apply Monitor.Holds.bind step
    intro outcome
    cases outcome with
    | again => exact ih
    | done => exact Monitor.Holds.ret _ fun _ _ h ↦ h

private theorem settle_told {j : Job} {L : Type} {o : Op} (h : o.settles = true) :
    told.Keeps j (fun (_ : L) ↦ Untold) (await o : Code sig L (Res o)) :=
  Monitor.Holds.stays (Code.Awaits.await (told_settles h))

private theorem cancelBooking_told {j : Job} (b : Id) (userId key : String)
    (reason : Option String) :
    told.Keeps j (fun _ ↦ Untold) (cancelBooking b userId key reason) := by
  unfold cancelBooking
  apply Monitor.Holds.bind (settle_told rfl)
  intro found
  cases found with
  | none => exact Monitor.Holds.raise _ fun _ _ h ↦ h
  | some view =>
    dsimp only
    split
    · exact Monitor.Holds.raise _ fun _ _ h ↦ h
    · split
      · exact Monitor.Holds.raise _ fun _ _ h ↦ h
      · apply Monitor.Holds.on
        intro _
        apply Monitor.Holds.pre (P := fun _ ↦ Untold) _ fun _ _ h ↦ h.2
        unfold startRefund
        apply Monitor.Holds.skip
        intro booking
        split
        · apply Monitor.Holds.bind (I := fun _ _ ↦ Untold)
          · exact Monitor.Holds.assign _ fun _ _ h ↦ h
          intro _
          apply Monitor.Holds.skip
          intro row
          apply Monitor.Holds.bind (settle_told rfl)
          intro _
          apply Monitor.Holds.bind (processRefund_told _)
          exact fun _ ↦ Monitor.Holds.skip fun x ↦ Monitor.Holds.ret x fun _ _ h ↦ h
        · apply Monitor.Holds.bind (processRefund_told _)
          exact fun _ ↦ Monitor.Holds.skip fun x ↦ Monitor.Holds.ret x fun _ _ h ↦ h

private theorem recoverEach_told {j : Job} (views : List BookingView) :
    told.Keeps j (fun _ ↦ Untold) (recoverEach views) := by
  induction views with
  | nil => exact Monitor.Holds.ret _ fun _ _ h ↦ h
  | cons view rest ih =>
    unfold recoverEach
    split
    · exact ih
    · apply Monitor.Holds.bind (I := fun _ _ ↦ Untold)
      · apply Monitor.Holds.tryCatch (F := fun _ _ ↦ Untold)
        · apply Monitor.Holds.on
          intro _
          apply Monitor.Holds.pre (P := fun _ ↦ Untold) _ fun _ _ h ↦ h.2
          apply Monitor.Holds.bind (processRefund_told _)
          exact fun _ ↦ Monitor.Holds.ret _ fun _ _ h ↦ h
        · exact fun _ ↦ Monitor.Holds.ret _ fun _ _ h ↦ h
      · exact fun _ ↦ ih

private theorem recoveryStuckRefunds_told {j : Job} :
    told.Keeps j (fun _ ↦ Untold) recoveryStuckRefunds := by
  unfold recoveryStuckRefunds
  apply Monitor.Holds.bind (settle_told rfl)
  intro entered
  split
  · apply Monitor.Holds.bind (I := fun _ _ ↦ Untold)
    · apply Monitor.Holds.tryCatch (F := fun _ _ ↦ Untold)
      · unfold recoverStuck
        apply Monitor.Holds.bind (settle_told rfl)
        exact recoverEach_told
      · intro error
        apply Monitor.Holds.bind (settle_told rfl)
        exact fun _ ↦ Monitor.Holds.raise _ fun _ _ h ↦ h
    · exact fun _ ↦ settle_told rfl
  · exact Monitor.Holds.ret _ fun _ _ h ↦ h

/-- Every job saves what it is told. -/
theorem job_told (j : Job) : told.Obeys j (service.code j) (fun _ ↦ Untold) none := by
  have keeps : told.Keeps j (fun (_ : Unit) ↦ Untold) j.run := by
    cases j with
    | createBooking dto =>
      apply Monitor.Holds.stays
      apply (job_awaits (.createBooking dto)).mono
      intro o ho
      apply told_idle
      cases o with
      | rpc i request => cases request <;> first | rfl | cases ho
      | _ => rfl
    | cancelBooking b userId key reason =>
      apply Monitor.Holds.bind (cancelBooking_told b userId key reason)
      exact fun _ ↦ Monitor.Holds.ret _ fun _ _ h ↦ h
    | recoveryStuckRefunds =>
      apply Monitor.Holds.bind recoveryStuckRefunds_told
      exact fun _ ↦ Monitor.Holds.ret _ fun _ _ h ↦ h
    | processOutbox =>
      apply Monitor.Holds.stays
      apply (job_awaits .processOutbox).mono
      intro o ho
      apply told_idle
      cases o with
      | rpc i request => cases request <;> first | rfl | cases ho
      | _ => rfl
  exact Monitor.obeys_prog.mpr (keeps () none rfl)

end Ticketing.BookingService
