import Ticketing.PaymentService.Store

/-!
# Payment service

Library `PaymentService`. Follows `payment/payment.service.ts`, `payment/refund.service.ts`,
`payment/payment.grpc-controller.ts` and `gateways/payment-gateway.factory.ts`. The local
entity of the code is the object that the source keeps assigning.
-/

namespace Ticketing.PaymentService

open Async

/-- `PaymentGatewayFactory.getByProvider`: the registered gateways, by name. -/
def getByProvider {L : Type} (provider : String) : Code sig L String :=
  if provider = "stripe" then pure "stripe"
  else if provider = "iyzico" then pure "iyzico"
  else throw (.failure ("Payment provider " ++ provider ++ " not support"))

/-- `dto.provider ? getByProvider(dto.provider) : getDefault()`. -/
def selectGateway {L : Type} (defaultProvider provider : String) : Code sig L String :=
  if provider = "" then getByProvider defaultProvider else getByProvider provider

/-- `PaymentService.initiatePayment`, the `try` block: charge and store the outcome. -/
def chargePayment (dto : InitiatePaymentRequest) : Code sig Payment Unit := do
  assign fun p ↦ { p with status := .processing }
  await (.save (← entity))
  let response ← await (.charge (← entity).provider
    { amount := dto.amount, currency := dto.currency, cardToken := dto.cardToken,
      idempotencyKey := dto.idempotencyKey })
  if response.success then
    let now ← await .now
    assign fun p ↦
      { p with status := .succeeded, providerTxId := response.providerTxId, paidAt := some now }
    await (.save (← entity))
    await (.emit (.succeeded (← entity)))
  else
    assign fun p ↦ { p with status := .failed, failureReason := response.failureReason }
    await (.save (← entity))
    await (.emit (.failed (← entity) (response.failureReason.getD "")))

/-- `PaymentService.initiatePayment`, the `catch` block. -/
def failPayment (error : Exception) : Code sig Payment Unit := do
  assign fun p ↦ { p with status := .failed, failureReason := some error.message }
  await (.save (← entity))
  await (.emit (.failed (← entity) error.message))
  throw error

/-- `PaymentService.initiatePayment` (`payment.service.ts:32–135`). -/
def initiatePayment (defaultProvider : String) (dto : InitiatePaymentRequest) :
    Code sig Unit Payment := do
  match ← await (.findByKey dto.idempotencyKey) with
  | some existing => pure existing
  | none =>
    let gateway ← selectGateway defaultProvider dto.provider
    let savedPayment ← await (.insert
      { id := 0, bookingId := dto.bookingId, idempotencyKey := dto.idempotencyKey,
        amount := dto.amount, currency := dto.currency, method := dto.method,
        status := .initiated, provider := gateway, providerTxId := none, failureReason := none,
        paidAt := none })
    Code.on savedPayment do
      tryCatch (chargePayment dto) failPayment
      entity

/-- The entities that `refundByBooking` assigns: the refund and its payment. -/
structure Refunding where
  refund : Refund
  payment : Payment

/-- `RefundService.refundByBooking`, the `try` block. -/
def sendRefund : Code sig Refunding Unit := do
  let gateway ← getByProvider (← entity).payment.provider
  let refundResult ← await (.refund gateway ((← entity).payment.providerTxId.getD "")
    (← entity).payment.amount)
  if refundResult.success then
    assign fun l ↦ { l with refund :=
      { l.refund with status := .processed, providerRefundId := refundResult.providerTxId } }
    await (.saveRefund (← entity).refund)
    assign fun l ↦ { l with payment := { l.payment with status := .refunded } }
    await (.save (← entity).payment)
    await (.emit (.refunded (← entity).refund (← entity).payment))
  else
    assign fun l ↦ { l with refund :=
      { l.refund with status := .failed, failureReason := refundResult.failureReason } }
    await (.saveRefund (← entity).refund)

/-- `RefundService.refundByBooking`, the `catch` block. -/
def failRefund (error : Exception) : Code sig Refunding Unit := do
  assign fun l ↦ { l with refund :=
    { l.refund with status := .failed, failureReason := some error.message } }
  await (.saveRefund (← entity).refund)
  throw error

/-- `RefundService.refundByBooking` (`refund.service.ts:33–130`). -/
def refundByBooking (bookingId : Id) (idempotencyKey : String) (reason : Option String) :
    Code sig Unit Refund := do
  match ← await (.findSucceeded bookingId) with
  | none => throw (.badRequest ("No succeeded payment found for booking " ++ toString bookingId))
  | some payment =>
    match ← await (.findRefundByKey idempotencyKey) with
    | some existing => pure existing
    | none =>
      let savedRefund ← await (.insertRefund
        { id := 0, paymentId := payment.id, idempotencyKey, amount := payment.amount, reason,
          status := .pending, providerRefundId := none, failureReason := none })
      Code.on ⟨savedRefund, payment⟩ do
        tryCatch sendRefund failRefund
        pure (← entity).refund

/-- `PaymentGrpcController.toPaymentInfo`. -/
def toPaymentInfo (p : Payment) : PaymentInfo where
  id := p.id
  bookingId := p.bookingId
  idempotencyKey := p.idempotencyKey
  amount := p.amount
  currency := p.currency
  method := p.method
  status := p.status
  provider := p.provider
  providerTxId := p.providerTxId.getD ""
  failureReason := p.failureReason.getD ""
  paidAt := p.paidAt

/-- `PaymentGrpcController.initiatePayment`. -/
def grpcInitiatePayment (defaultProvider : String) (data : InitiatePaymentRequest) :
    Code sig Unit Reply := do
  let payment ← initiatePayment defaultProvider data
  pure (.payment (some (toPaymentInfo payment)))

/-- `PaymentGrpcController.refundPayment`: a thrown error becomes a reply. -/
def grpcRefundPayment (bookingId : Id) (idempotencyKey reason : String) :
    Code sig Unit Reply :=
  tryCatch
    (do
      let refund ← refundByBooking bookingId idempotencyKey (some reason)
      pure (.refund (refund.status = .processed) (some refund.id) (refund.failureReason.getD "")))
    fun error ↦ pure (.refund false none error.message)

/-- A call to the service, for the booking that `issuer` names. -/
structure Job where
  issuer : Option Id
  request : Request

/-- The handler of a request; the service answers only its own. -/
def handler (defaultProvider : String) : Request → Code sig Unit Reply
  | .initiatePayment data => grpcInitiatePayment defaultProvider data
  | .refundPayment b k r => grpcRefundPayment b k r
  | _ => throw (.failure "UNIMPLEMENTED")

/-- The payment service; `PAYMENT_DEFAULT_PROVIDER` is its configuration. -/
abbrev service (defaultProvider : String) : Service where
  toSig := sig
  State := Db
  Choice := Choice
  exec := exec
  Job := Job
  Reply := Reply
  code j := (handler defaultProvider j.request).prog

end Ticketing.PaymentService
