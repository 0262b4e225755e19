/-!
# Values and messages that the services share

Library `Base`. Identifiers, money and exceptions, and the gRPC messages of
`libs/grpc/src/proto/seat-inventory.proto` and `payment.proto`. A request carries the
booking it is sent for beside its fields: that mark is not on the wire, it only tells
whose call a step of another service belongs to.
-/

namespace Ticketing

/-- A generated uuid; every store numbers the rows it creates. -/
abbrev Id : Type := Nat

/-- A `decimal(10, 2)` column, in hundredths. -/
abbrev Money : Type := Int

/-- Places are compared by their event and their seat. -/
instance lawfulBEqPlace : LawfulBEq (String × String) := inferInstance

/-- What the code throws, by class; `failure` is an error of a store, of a connection or
of the runtime. -/
inductive Exception where
  | badRequest (message : String)
  | unauthorized (message : String)
  | notFound (message : String)
  | conflict (message : String)
  | internalServerError (message : String)
  | failure (message : String)
  deriving DecidableEq, Repr

/-- The `message` property. -/
def Exception.message : Exception → String
  | .badRequest m | .unauthorized m | .notFound m | .conflict m | .internalServerError m
  | .failure m => m

/-- `inventory/enums/seat-status.enum.ts`. -/
inductive SeatStatus where
  | available
  | held
  | reserved
  | sold
  deriving DecidableEq, Repr

/-- `hold/enums/seat-lock-release-reason.enum.ts`. -/
inductive SeatLockReleaseReason where
  | timeout
  | userCancel
  | paymentSuccess
  | admin
  | paymentFailed
  deriving DecidableEq, Repr

/-- `payment/enums/payment-status.enum.ts`. -/
inductive PaymentStatus where
  | initiated
  | processing
  | succeeded
  | failed
  | refunded
  deriving DecidableEq, Repr

/-- `payment/enums/payment-method.enum.ts`. -/
inductive PaymentMethod where
  | creditCard
  | debitCard
  | wallet
  | bankTransfer
  deriving DecidableEq, Repr

/-- `message SeatInfo`. -/
structure SeatInfo where
  id : Id
  eventId : String
  seatId : String
  sectionId : String
  sectionName : String
  ticketTypeId : String
  ticketTypeName : String
  price : Money
  currency : String
  row : String
  seatNumber : String
  seatType : String
  status : SeatStatus
  deriving DecidableEq, Repr

/-- `message InitiatePaymentRequest`; `dto/initiate-payment.dto.ts` has the same fields. Its amount
is a whole number of hundredths, as a total of prices is. -/
structure InitiatePaymentRequest where
  bookingId : Id
  idempotencyKey : String
  amount : Money
  currency : String
  method : PaymentMethod
  cardToken : String
  provider : String
  deriving DecidableEq, Repr

/-- `message PaymentInfo`. -/
structure PaymentInfo where
  id : Id
  bookingId : Id
  idempotencyKey : String
  amount : Money
  currency : String
  method : PaymentMethod
  status : PaymentStatus
  provider : String
  providerTxId : String
  failureReason : String
  paidAt : Option Nat
  deriving DecidableEq, Repr

/-- The requests that the booking service sends. -/
inductive Request where
  | getSeatsByEvent (eventId : String)
  | verifyHold (eventId : String) (seatIds : List String) (userId : String)
  | releaseSeats (eventId : String) (seatIds : List String) (userId : String)
      (reason : SeatLockReleaseReason)
  | markSeatsAsSold (eventId : String) (seatIds : List String) (userId : String)
  | releaseSoldSeats (eventId : String) (seatIds : List String)
  | initiatePayment (data : InitiatePaymentRequest)
  | refundPayment (bookingId : Id) (idempotencyKey : String) (reason : String)
  deriving DecidableEq, Repr

/-- The replies to requests, and `done` for jobs that answer nobody. -/
inductive Reply where
  | done
  | seats (seats : List SeatInfo)
  | verified (verified : Bool)
  | success (success : Bool)
  | payment (payment : Option PaymentInfo)
  | refund (success : Bool) (refundId : Option Id) (failureReason : String)
  deriving DecidableEq, Repr

/-- `gateways/payment-gateway.interface.ts`. -/
structure PaymentGatewayRequest where
  amount : Money
  currency : String
  cardToken : String
  idempotencyKey : String
  deriving DecidableEq, Repr

/-- `gateways/payment-gateway.interface.ts`. -/
structure PaymentGatewayResponse where
  success : Bool
  providerTxId : Option String := none
  failureReason : Option String := none
  deriving DecidableEq, Repr

/-- What the environment decides at one operation: whether it fails, the clock, a random
text, the reply of a remote service and the answer of the payment gateway. An operation
uses the parts that concern it. -/
structure Choice where
  fault : Option Exception := none
  now : Nat := 0
  text : String := ""
  reply : Reply := .done
  response : PaymentGatewayResponse := { success := true }
  deriving DecidableEq, Repr

end Ticketing
