import Ticketing.Async.RelyGuarantee
import Ticketing.Base.Messages
import Ticketing.Store.Table

/-!
# Payment database

Library `PaymentService`. Rows of `payment/entities`, the statements and gateway calls that the
service awaits, and their effect. A failing operation has no effect.
-/

namespace Ticketing.PaymentService

open Async Store

/-- `entities/payment.entity.ts`. -/
structure Payment where
  id : Id
  bookingId : Id
  idempotencyKey : String
  amount : Money
  currency : String
  method : PaymentMethod
  status : PaymentStatus
  provider : String
  providerTxId : Option String
  failureReason : Option String
  paidAt : Option Nat
  deriving DecidableEq, Repr

/-- `enums/refund-status.enum.ts`. -/
inductive RefundStatus where
  | pending
  | processed
  | failed
  deriving DecidableEq, Repr

/-- `entities/refund.entity.ts`. -/
structure Refund where
  id : Id
  paymentId : Id
  idempotencyKey : String
  amount : Money
  reason : Option String
  status : RefundStatus
  providerRefundId : Option String
  failureReason : Option String
  deriving DecidableEq, Repr

/-- Kafka events of the service. -/
inductive Emission where
  | succeeded (payment : Payment)
  | failed (payment : Payment) (reason : String)
  | refunded (refund : Refund) (payment : Payment)
  deriving DecidableEq, Repr

/-- The payment database. -/
structure Db where
  payments : Table Payment.id
  refunds : Table Refund.id
  nextId : Id
  deriving DecidableEq

namespace Db

/-- The database without rows. -/
def empty : Db := ⟨.empty, .empty, 0⟩

/-- The first payment that satisfies a condition. -/
def payment? (s : Db) (p : Payment → Bool) : Option Payment := s.payments.rows.find? p

/-- The first refund that satisfies a condition. -/
def refund? (s : Db) (p : Refund → Bool) : Option Refund := s.refunds.rows.find? p

end Db

/-- What the service awaits. -/
inductive Op where
  | findByKey (idempotencyKey : String)
  | insert (payment : Payment)
  | save (payment : Payment)
  | charge (provider : String) (request : PaymentGatewayRequest)
  | findSucceeded (bookingId : Id)
  | findRefundByKey (idempotencyKey : String)
  | insertRefund (refund : Refund)
  | saveRefund (refund : Refund)
  | refund (provider : String) (providerTxId : String) (amount : Money)
  | emit (event : Emission)
  | now
  deriving DecidableEq, Repr

/-- The replies. -/
abbrev Res : Op → Type
  | .findByKey _ | .findSucceeded _ => Option Payment
  | .insert _ => Payment
  | .findRefundByKey _ => Option Refund
  | .insertRefund _ => Refund
  | .charge _ _ | .refund _ _ _ => PaymentGatewayResponse
  | .save _ | .saveRefund _ | .emit _ => Unit
  | .now => Nat

/-- The operations of the payment service. -/
abbrev sig : Sig := ⟨Op, Res, Exception⟩

/-- Await one operation. -/
abbrev await {L : Type} (o : Op) : Code sig L (Res o) := Code.await (S := sig) o

/-- The entity that the code assigns. -/
abbrev entity {L : Type} : Code sig L L := Code.entity

/-- Assign the entity. -/
abbrev assign {L : Type} (f : L → L) : Code sig L Unit := Code.assign f

/-- The effect of an operation that does not fail. An insert fails on a key that the unique
index of `idempotencyKey` holds already. -/
def perform (x : Choice) : (o : Op) → Db → sig.Answer o × Db
  | .findByKey k, s => (.ok (s.payment? fun p ↦ p.idempotencyKey = k), s)
  | .insert p, s =>
    if s.payments.rows.any fun q ↦ q.idempotencyKey = p.idempotencyKey then
      (.error (.failure "duplicate key value violates unique constraint"), s)
    else
      (.ok { p with id := s.nextId },
        { s with payments := s.payments.put { p with id := s.nextId }, nextId := s.nextId + 1 })
  | .save p, s => (.ok (), { s with payments := s.payments.put p })
  | .charge _ _, s => (.ok x.response, s)
  | .findSucceeded b, s =>
    (.ok (s.payment? fun p ↦ p.bookingId = b && p.status = .succeeded), s)
  | .findRefundByKey k, s => (.ok (s.refund? fun r ↦ r.idempotencyKey = k), s)
  | .insertRefund r, s =>
    (.ok { r with id := s.nextId },
      { s with refunds := s.refunds.put { r with id := s.nextId }, nextId := s.nextId + 1 })
  | .saveRefund r, s => (.ok (), { s with refunds := s.refunds.put r })
  | .refund _ _ _, s => (.ok x.response, s)
  | .emit _, s => (.ok (), s)
  | .now, s => (.ok x.now, s)

/-- The clock cannot fail, and nobody listens to the failure of an emission. -/
def Op.fallible : Op → Bool
  | .now | .emit _ => false
  | _ => true

/-- One awaited operation: it fails without effect, or has its effect. -/
def exec (x : Choice) : (o : Op) → Db → sig.Answer o × Db :=
  sig.attempt Op.fallible x.fault (perform x)

/-- An operation fails without effect, or has its effect. -/
theorem exec_cases (x : Choice) (o : Op) (s : Db) :
    (o.fallible = true ∧ ∃ e, exec x o s = (.error e, s)) ∨ exec x o s = perform x o s :=
  Sig.attempt_cases (S := sig) o s

end Ticketing.PaymentService
