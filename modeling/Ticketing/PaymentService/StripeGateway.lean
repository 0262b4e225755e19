import Mathlib.Algebra.GroupWithZero.Nat
import Ticketing.Async.Triples
import Ticketing.Base.Values

/-!
# The Stripe gateway

Library `PaymentService`. Follows `payment/gateways/stripe.gateway.ts`. The calls of the SDK and the
pauses between attempts are operations; an environment fixes the outcome of every call. `doCharge`
and `doRefund` catch what the SDK throws, so that `withRetry` sees a response, and the body of its
loop ends in a `return`.
-/

namespace Ticketing.PaymentService.Stripe

open Async

/-- What the SDK throws: the fields that the gateway reads, and the name of the constructor. -/
structure StripeError where
  type : Option String := none
  constructorName : String
  statusCode : Option Nat := none
  message : String
  deriving DecidableEq, Repr

/-- A payment intent or a refund. -/
structure StripeObject where
  id : String
  status : String
  deriving DecidableEq, Repr

/-- The calls of the SDK. An amount is in hundredths, as `Math.round(amount * 100)` is. -/
inductive Call where
  | paymentIntentsCreate (amount : Money) (currency paymentMethod idempotencyKey : String)
  | refundsCreate (paymentIntent : String) (amount : Money)
  deriving DecidableEq, Repr

/-- What the gateway awaits. -/
inductive Op where
  | sdk (call : Call)
  | sleep (ms : Nat)
  deriving DecidableEq, Repr

/-- The replies. -/
abbrev Res : Op → Type
  | .sdk _ => StripeObject
  | .sleep _ => Unit

/-- The operations of the gateway. -/
abbrev sig : Sig := ⟨Op, Res, StripeError⟩

/-- Code of the gateway. -/
abbrev Gateway : Type → Type := Code sig Unit

/-- Await one operation. -/
abbrev await (o : Op) : Gateway (Res o) := Code.await (S := sig) o

/-- `MAX_RETRIES`. -/
def maxRetries : Nat := 3

/-- `INITIAL_BACKOFF_MS`. -/
def initialBackoffMs : Nat := 500

/-- `RETRYABLE_ERROR_TYPES`. -/
def retryableErrorTypes : List String :=
  ["StripeConnectionError", "StripeAPIError", "StripeRateLimitError"]

/-- A response that reports a failure. -/
def failed (failureReason : String) : PaymentGatewayResponse :=
  { success := false, failureReason := some failureReason }

/-- `StripeGateway.isRetryable`. -/
def isRetryable (error : StripeError) : Bool :=
  let errorType := orElse error.type error.constructorName
  if retryableErrorTypes.contains errorType then true
  else if error.statusCode.any fun code ↦ 500 ≤ code && code < 600 then true
  else if error.type = some "StripeCardError" then false
  else false

/-- What `doCharge` and `doRefund` share: one call of the SDK, whose errors are reported. -/
def attempted (call : Call) (report : StripeObject → PaymentGatewayResponse) :
    Gateway PaymentGatewayResponse :=
  tryCatch
    (do
      let object ← await (.sdk call)
      pure (report object))
    fun error ↦ pure (failed error.message)

/-- The call that a charge makes. -/
def chargeCall (request : PaymentGatewayRequest) : Call :=
  .paymentIntentsCreate request.amount request.currency.toLower request.cardToken
    request.idempotencyKey

/-- What is reported of a payment intent. -/
def chargeReport (paymentIntent : StripeObject) : PaymentGatewayResponse :=
  if paymentIntent.status = "succeeded" then
    { success := true, providerTxId := some paymentIntent.id }
  else failed ("Payment status: " ++ paymentIntent.status)

/-- `StripeGateway.doCharge` (`stripe.gateway.ts:43–83`). -/
def doCharge (request : PaymentGatewayRequest) : Gateway PaymentGatewayResponse :=
  attempted (chargeCall request) chargeReport

/-- What is reported of a refund. -/
def refundReport (refund : StripeObject) : PaymentGatewayResponse :=
  { success := refund.status = "succeeded", providerTxId := some refund.id }

/-- `StripeGateway.doRefund` (`stripe.gateway.ts:95–118`). -/
def doRefund (providerTxId : String) (amount : Money) : Gateway PaymentGatewayResponse :=
  attempted (.refundsCreate providerTxId amount) refundReport

/-- How the body of a loop ends: at its end, by `break` or by `return`. -/
inductive Flow (α : Type) where
  | next
  | left
  | returned (a : α)

/-- The body of the loop in `withRetry`. -/
def retryBody (fn : Gateway PaymentGatewayResponse) (attempt : Nat) :
    Gateway (Flow PaymentGatewayResponse) :=
  tryCatch
    (do
      let response ← fn
      pure (.returned response))
    fun error ↦
      if !isRetryable error then pure (.returned (failed error.message))
      else if attempt = maxRetries then pure .left
      else do
        await (.sleep (initialBackoffMs * 2 ^ (attempt - 1)))
        -- The statement after `catch` is a `return`, and `lastError` is this error.
        pure (.returned (failed (orElse (some error.message) "Payment failed after retries")))

/-- The loop in `withRetry`, over the attempts that are left, and the `return` after it. -/
def retryLoop (fn : Gateway PaymentGatewayResponse) (context : String) :
    List Nat → Gateway PaymentGatewayResponse
  | [] => pure (failed ("Failed to " ++ context ++ " after 3 attempts"))
  | attempt :: rest => do
    match ← retryBody fn attempt with
    | .next => retryLoop fn context rest
    | .left => pure (failed ("Failed to " ++ context ++ " after 3 attempts"))
    | .returned response => pure response

/-- `StripeGateway.withRetry` (`stripe.gateway.ts:120–166`). -/
def withRetry (fn : Gateway PaymentGatewayResponse) (context : String) :
    Gateway PaymentGatewayResponse :=
  retryLoop fn context ((List.range maxRetries).map (· + 1))

/-- `StripeGateway.charge`. -/
def charge (request : PaymentGatewayRequest) : Gateway PaymentGatewayResponse :=
  withRetry (doCharge request) ("charge:" ++ request.idempotencyKey)

/-- `StripeGateway.refund`. -/
def refund (providerTxId : String) (amount : Money) : Gateway PaymentGatewayResponse :=
  withRetry (doRefund providerTxId amount) ("refund:" ++ providerTxId)

/-! ### The outcomes of the SDK -/

/-- What the calls of the SDK return or throw, one after another. -/
abbrev Outcomes : Type := Nat → Except StripeError StripeObject

/-- The SDK, with the calls that were made; a pause ends. -/
def answers (outcomes : Outcomes) : Handler sig (List Call)
  | _, .sdk call, calls => (outcomes calls.length, calls ++ [call])
  | _, .sleep _, calls => (.ok (), calls)

/-- An operation of the gateway, as it is called by the payment service. -/
def respond (outcomes : Outcomes) (code : Gateway PaymentGatewayResponse) :
    Outcome sig Unit PaymentGatewayResponse (List Call) :=
  code.exec (answers outcomes) 0 () []

/-- The outcome is an error after which the call is made again. -/
def retryable : Except StripeError StripeObject → Bool
  | .ok _ => false
  | .error error => isRetryable error

/-- What is reported of an outcome. -/
def reported (report : StripeObject → PaymentGatewayResponse) :
    Except StripeError StripeObject → PaymentGatewayResponse
  | .ok object => report object
  | .error error => failed error.message

/-- The calls of an operation end with the outcome at `last`, as the retries are designed. -/
structure EndsAt (call : Call) (report : StripeObject → PaymentGatewayResponse)
    (outcomes : Outcomes) (out : Outcome sig Unit PaymentGatewayResponse (List Call))
    (last : Nat) : Prop where
  calls : out.state = List.replicate (last + 1) call
  three : last < 3
  again : ∀ i < last, retryable (outcomes i) = true
  settled : retryable (outcomes last) = false →
    out.result = .ok (reported report (outcomes last))
  givenUp : retryable (outcomes last) = true →
    last + 1 = 3 ∧ ∃ response, out.result = .ok response ∧ response.success = false

/-- The call is made again after a retryable error, three times at most; the response reports the
first outcome that is not retryable, or the failure of the third attempt. -/
def AsDesigned (call : Call) (report : StripeObject → PaymentGatewayResponse)
    (outcomes : Outcomes) (code : Gateway PaymentGatewayResponse) : Prop :=
  ∃ last, EndsAt call report outcomes (respond outcomes code) last

/-- The body of the loop does not fall through to the next attempt. -/
theorem retryBody_ends {h : Handler sig (List Call)} (fn : Gateway PaymentGatewayResponse)
    (attempt : Nat) :
    Code.Leaves h (fun _ _ ↦ True) (retryBody fn attempt) (fun flow _ _ ↦ flow ≠ .next)
      fun _ _ _ ↦ True := by
  have anything : ∀ {α : Type} (c : Gateway α),
      Code.Leaves h (fun _ _ ↦ True) c (fun _ _ _ ↦ True) fun _ _ _ ↦ True := by
    intro α c n l s _
    rcases c.exec h n l s with ⟨_ | _, _, _, _⟩ <;> trivial
  have tried : Code.Leaves h (fun _ _ ↦ True)
      (do
        let response ← fn
        pure (Flow.returned response))
      (fun flow _ _ ↦ flow ≠ .next) fun _ _ _ ↦ True := by
    apply Code.Leaves.bind (anything fn)
    exact fun response ↦ Code.Leaves.ret _ fun _ _ _ h ↦ by cases h
  apply Code.Leaves.tryCatch tried
  intro error
  split
  · exact Code.Leaves.ret _ fun _ _ _ h ↦ by cases h
  split
  · exact Code.Leaves.ret _ fun _ _ _ h ↦ by cases h
  · apply Code.Leaves.bind (anything _)
    exact fun _ ↦ Code.Leaves.ret _ fun _ _ _ h ↦ by cases h

/-- The body calls its function once, and pauses where it throws. -/
theorem retryBody_calls (outcomes : Outcomes) (fn : Gateway PaymentGatewayResponse)
    (attempt n : Nat) (calls : List Call) :
    ((retryBody fn attempt).exec (answers outcomes) n () calls).state =
      (fn.exec (answers outcomes) n () calls).state := by
  unfold retryBody
  rw [Code.exec_tryCatch, Code.exec_bind]
  rcases fn.exec (answers outcomes) n () calls with ⟨_ | response, _, _, _⟩
  · dsimp only
    split
    · rfl
    split
    · rfl
    · rfl
  · rfl

/-- `withRetry` calls its function once, whatever it throws. -/
theorem withRetry_calls (outcomes : Outcomes) (fn : Gateway PaymentGatewayResponse)
    (context : String) :
    (respond outcomes (withRetry fn context)).state = (respond outcomes fn).state := by
  have ends := retryBody_ends (h := answers outcomes) fn 1 0 () [] trivial
  have calls := retryBody_calls outcomes fn 1 0 []
  show ((retryLoop fn context (1 :: [2, 3])).exec (answers outcomes) 0 () []).state = _
  unfold respond retryLoop
  rw [Code.exec_bind, ← calls]
  rcases he : (retryBody fn 1).exec (answers outcomes) 0 () [] with ⟨_ | flow, _, _, _⟩
  · rfl
  · rw [he] at ends
    cases flow with
    | next => exact absurd rfl ends
    | left => rfl
    | returned response => rfl

/-- What the SDK throws is reported as a response. -/
theorem attempted_exec (outcomes : Outcomes) (call : Call)
    (report : StripeObject → PaymentGatewayResponse) (n : Nat) (calls : List Call) :
    (attempted call report).exec (answers outcomes) n () calls =
      ⟨.ok (reported report (outcomes calls.length)), (), n + 1, calls ++ [call]⟩ := by
  have answered : answers outcomes n (.sdk call) calls =
      (outcomes calls.length, calls ++ [call]) := rfl
  unfold attempted
  rw [Code.exec_tryCatch, Code.exec_bind, Code.exec_await, answered]
  cases outcomes calls.length with
  | ok object => rfl
  | error error => rfl

/-- Where the function returns, `withRetry` returns its response. -/
theorem withRetry_returns {h : Handler sig (List Call)} {fn : Gateway PaymentGatewayResponse}
    {n m : Nat} {s s' : List Call} {response : PaymentGatewayResponse}
    (hr : fn.exec h n () s = ⟨.ok response, (), m, s'⟩) (context : String) :
    (withRetry fn context).exec h n () s = ⟨.ok response, (), m, s'⟩ := by
  show (retryLoop fn context (1 :: [2, 3])).exec h n () s = _
  unfold retryLoop retryBody
  rw [Code.exec_bind, Code.exec_tryCatch, Code.exec_bind, hr]
  rfl

/-- An operation makes one call and reports its outcome. -/
theorem respond_once (outcomes : Outcomes) (call : Call)
    (report : StripeObject → PaymentGatewayResponse) (context : String) :
    respond outcomes (withRetry (attempted call report) context) =
      ⟨.ok (reported report (outcomes 0)), (), 1, [call]⟩ :=
  withRetry_returns (attempted_exec outcomes call report 0 []) context

/-- The retries are as designed exactly where none is due. -/
theorem asDesigned_iff (outcomes : Outcomes) (call : Call)
    (report : StripeObject → PaymentGatewayResponse) (context : String) :
    AsDesigned call report outcomes (withRetry (attempted call report) context) ↔
      retryable (outcomes 0) = false := by
  unfold AsDesigned
  rw [respond_once]
  constructor
  · rintro ⟨last, ends⟩
    have first : last = 0 := by
      have length := congrArg List.length ends.calls
      simpa using length
    subst first
    cases due : retryable (outcomes 0) with
    | false => rfl
    | true =>
      have three := (ends.givenUp due).1
      omega
  · intro settled
    refine ⟨0, ?_⟩
    constructor
    · rfl
    · omega
    · intro i hi
      omega
    · exact fun _ ↦ rfl
    · intro due
      rw [settled] at due
      cases due

/-- For every charge, every refund and all outcomes of the SDK, the retries are as designed if and
only if the first call does not end with a retryable error. -/
theorem retries_as_designed_iff (outcomes : Outcomes) :
    (∀ request, AsDesigned (chargeCall request) chargeReport outcomes (charge request) ↔
      retryable (outcomes 0) = false) ∧
    ∀ providerTxId amount,
      AsDesigned (.refundsCreate providerTxId amount) refundReport outcomes
        (refund providerTxId amount) ↔ retryable (outcomes 0) = false :=
  ⟨fun _ ↦ asDesigned_iff outcomes _ _ _, fun _ _ ↦ asDesigned_iff outcomes _ _ _⟩

/-- A connection breaks once. -/
def interrupted : Outcomes
  | 0 => .error
    { type := some "StripeConnectionError", constructorName := "StripeConnectionError",
      message := "connection reset" }
  | _ => .ok ⟨"pi_1", "succeeded"⟩

/-- A charge is not made again after its connection broke. -/
theorem charge_not_retried :
    ¬ ∀ (outcomes : Outcomes) (request : PaymentGatewayRequest),
      AsDesigned (chargeCall request) chargeReport outcomes (charge request) := by
  intro designed
  have settled := (asDesigned_iff interrupted _ _ _).mp
    (designed interrupted ⟨100, "USD", "tok", "k"⟩)
  have due : retryable (interrupted 0) = true := by decide
  rw [due] at settled
  cases settled

end Ticketing.PaymentService.Stripe
