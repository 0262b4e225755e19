import Ticketing.Async.Run
import Ticketing.BookingService.TransactionalOutbox
import Ticketing.PaymentService.Service

/-!
# Paid means booked

Library `System`. One call of `createBooking` with the payment service behind it, for every
pattern of failures: the charge and the confirmation are not undone together, so a payment
can succeed whose booking is cancelled.
-/

namespace Ticketing.System

open Async Store

/-- The databases of the booking and the payment service. -/
structure World where
  booking : BookingService.Db
  payment : PaymentService.Db

/-- The answers of the payment database and the gateway. -/
def paymentHandler (charge : Nat → Choice) : Handler PaymentService.sig PaymentService.Db :=
  fun n o s ↦ PaymentService.exec (charge n) o s

/-- The payment service handles `initiatePayment`. -/
def servePayment (provider : String) (charge : Nat → Choice) (data : InitiatePaymentRequest)
    (s : PaymentService.Db) : Outcome PaymentService.sig Unit Reply PaymentService.Db :=
  (PaymentService.handler provider (.initiatePayment data)).exec (paymentHandler charge) 0 () s

/-- The answers that a call of the booking service gets; a failure of `initiatePayment` loses
the reply after the payment service has handled the request. -/
def worldHandler (provider : String) (plan charge : Nat → Choice) :
    Handler BookingService.sig World
  | n, .rpc _ (.initiatePayment data), w =>
    let served := servePayment provider charge data w.payment
    (match (plan n).fault with
      | some e => .error e
      | none => served.result,
      { w with payment := served.state })
  | n, o, w =>
    ((BookingService.exec (plan n) o w.booking).1,
      { w with booking := (BookingService.exec (plan n) o w.booking).2 })

/-- If a payment of the booking succeeded, the booking is not cancelled: it is confirmed or
its refund has been started. -/
def PaidMeansBooked (w : World) (b : Id) : Prop :=
  (∃ p ∈ w.payment.payments.rows, p.bookingId = b ∧ p.status = .succeeded) →
    ∃ r, w.booking.bookings.find b = some r ∧ r.status ≠ .cancelled ∧
      (r.status = .confirmed ∨ r.refundState ≠ none)

/-! ### The payment service -/

/-- The gateways of `PaymentGatewayFactory`. -/
def Registered (name : String) : Prop := name = "stripe" ∨ name = "iyzico"

instance (name : String) : Decidable (Registered name) := inferInstanceAs (Decidable (_ ∨ _))

/-- The gateway that a request asks for, or the default one. -/
def gatewayName (provider : String) (data : InitiatePaymentRequest) : String :=
  if data.provider = "" then provider else data.provider

/-- The payment service stores a payment that succeeded: the key is new, the gateway is
registered and charges, and no statement up to the save of the result fails. -/
def Charges (provider : String) (charge : Nat → Choice) (data : InitiatePaymentRequest)
    (s : PaymentService.Db) : Prop :=
  s.payment? (fun p ↦ p.idempotencyKey = data.idempotencyKey) = none ∧
    Registered (gatewayName provider data) ∧
    (∀ n ∈ [0, 1, 2, 3, 5], (charge n).fault = none) ∧ (charge 3).response.success = true

section Payment

variable {provider : String} {charge : Nat → Choice} {data : InitiatePaymentRequest}
  {s : PaymentService.Db} {n : Nat}

/-- The choice of gateways awaits nothing. -/
theorem exec_selectGateway :
    (PaymentService.selectGateway provider data.provider : Code PaymentService.sig Unit String).exec
        (paymentHandler charge) n () s =
      ⟨if Registered (gatewayName provider data) then .ok (gatewayName provider data)
        else .error (.failure
          ("Payment provider " ++ gatewayName provider data ++ " not support")), (), n, s⟩ := by
  have known : ∀ name : String,
      (PaymentService.getByProvider name : Code PaymentService.sig Unit String).exec
        (paymentHandler charge) n () s =
      ⟨if Registered name then .ok name
        else .error (.failure ("Payment provider " ++ name ++ " not support")), (), n, s⟩ := by
    intro name
    unfold PaymentService.getByProvider Registered
    by_cases hs : name = "stripe"
    · simp [hs]
    · by_cases hi : name = "iyzico"
      · simp [hi]
      · simp [hs, hi]
  unfold PaymentService.selectGateway gatewayName
  by_cases h : data.provider = ""
  · simp only [h, if_true, known]
  · simp only [h, if_false, known]

/-- The row that `initiatePayment` inserts. -/
def newPayment (provider : String) (data : InitiatePaymentRequest) (id : Id) :
    PaymentService.Payment where
  id := id
  bookingId := data.bookingId
  idempotencyKey := data.idempotencyKey
  amount := data.amount
  currency := data.currency
  method := data.method
  status := .initiated
  provider := gatewayName provider data
  providerTxId := none
  failureReason := none
  paidAt := none

/-- No stored payment of the booking succeeded. -/
def Unpaid (payments : Table PaymentService.Payment.id) (b : Id) : Prop :=
  ∀ p ∈ payments.rows, p.bookingId = b → p.status ≠ .succeeded

/-- Saving a payment that did not succeed pays nothing. -/
theorem Unpaid.put {payments : Table PaymentService.Payment.id} {b : Id}
    {p : PaymentService.Payment} (h : Unpaid payments b) (hp : p.status ≠ .succeeded) :
    Unpaid (payments.put p) b := by
  intro q hq hb
  rcases Table.mem_put.mp hq with rfl | ⟨hq, -⟩
  · exact hp
  · exact h q hq hb

/-- A charge that goes through is answered and stored. -/
theorem servePayment_charges (h : Charges provider charge data s) :
    ∃ info, (servePayment provider charge data s).result = .ok (.payment (some info)) ∧
      info.status = .succeeded ∧
      ∃ p ∈ (servePayment provider charge data s).state.payments.rows,
        p.bookingId = data.bookingId ∧ p.status = .succeeded := by
  obtain ⟨hkey, hgate, hfault, hsucc⟩ := h
  have f₀ := hfault 0 (by simp)
  have f₁ := hfault 1 (by simp)
  have f₂ := hfault 2 (by simp)
  have f₃ := hfault 3 (by simp)
  have f₅ := hfault 5 (by simp)
  have unused : (s.payments.rows.any fun q ↦ q.idempotencyKey = data.idempotencyKey) = false := by
    rw [← Bool.not_eq_true, List.any_eq_true]
    rintro ⟨q, hq, hk⟩
    exact absurd hk (by simpa using List.find?_eq_none.mp hkey q hq)
  let p₀ := newPayment provider data s.nextId
  let p₁ := { p₀ with status := PaymentStatus.processing }
  let p₂ := { p₁ with
    status := PaymentStatus.succeeded, providerTxId := (charge 3).response.providerTxId,
    paidAt := some (charge 4).now }
  have served : servePayment provider charge data s =
      ⟨.ok (.payment (some (PaymentService.toPaymentInfo p₂))), (), 7,
        { s with payments := ((s.payments.put p₀).put p₁).put p₂, nextId := s.nextId + 1 }⟩ := by
    simp [servePayment, PaymentService.handler, PaymentService.grpcInitiatePayment,
      PaymentService.initiatePayment, paymentHandler, PaymentService.exec, Sig.attempt,
      PaymentService.Op.fallible, PaymentService.perform, f₀, f₁, f₂, f₃, f₅, hkey,
      exec_selectGateway, hgate, unused, PaymentService.chargePayment, hsucc, p₀, p₁, p₂,
      newPayment]
  rw [served]
  exact ⟨_, rfl, rfl, p₂, Table.mem_put.mpr (.inl rfl), rfl, rfl⟩

/-- The `catch` block stores no success. -/
theorem failPayment_unpaid {e : Exception} {p : PaymentService.Payment} {b : Id}
    (h : Unpaid s.payments b) :
    Unpaid ((PaymentService.failPayment e).exec (paymentHandler charge) n p s).state.payments
      b := by
  cases hf : (charge n).fault with
  | some e' =>
    simpa [PaymentService.failPayment, paymentHandler, PaymentService.exec, Sig.attempt,
      PaymentService.Op.fallible, hf] using h
  | none =>
    simpa [PaymentService.failPayment, paymentHandler, PaymentService.exec, Sig.attempt,
      PaymentService.Op.fallible, PaymentService.perform, hf] using h.put (by simp)

/-- The `try` block stores a success only if its statements and the charge go through. -/
theorem chargePayment_unpaid {p : PaymentService.Payment} {b : Id} (hs : Unpaid s.payments b)
    (h : ¬ ((charge n).fault = none ∧ (charge (n + 1)).fault = none ∧
      (charge (n + 1)).response.success = true ∧ (charge (n + 3)).fault = none)) :
    Unpaid ((tryCatch (PaymentService.chargePayment data) PaymentService.failPayment :
      Code PaymentService.sig PaymentService.Payment Unit).exec (paymentHandler charge) n p
        s).state.payments b := by
  let p₁ := { p with status := PaymentStatus.processing }
  have hput : Unpaid (s.payments.put p₁) b := hs.put (by simp [p₁])
  rw [Code.exec_tryCatch]
  -- The cases follow the order in which the `try` block awaits its operations.
  cases f₀ : (charge n).fault with
  | some e =>
    have hexec : (PaymentService.chargePayment data).exec (paymentHandler charge) n p s =
        ⟨.error e, p₁, n + 1, s⟩ := by
      simp [PaymentService.chargePayment, paymentHandler, PaymentService.exec, Sig.attempt,
        PaymentService.Op.fallible, f₀, p₁]
    rw [hexec]
    exact failPayment_unpaid hs
  | none =>
    cases f₁ : (charge (n + 1)).fault with
    | some e =>
      have hexec : (PaymentService.chargePayment data).exec (paymentHandler charge) n p s =
          ⟨.error e, p₁, n + 2, { s with payments := s.payments.put p₁ }⟩ := by
        simp [PaymentService.chargePayment, paymentHandler, PaymentService.exec, Sig.attempt,
          PaymentService.Op.fallible, PaymentService.perform, f₀, f₁, p₁]
      rw [hexec]
      exact failPayment_unpaid hput
    | none =>
      cases hr : (charge (n + 1)).response.success with
      | true =>
        have hlast : (charge (n + 3)).fault ≠ none := fun f₃ ↦ h ⟨f₀, f₁, hr, f₃⟩
        obtain ⟨e, f₃⟩ := Option.ne_none_iff_exists'.mp hlast
        have hexec : ∃ l, (PaymentService.chargePayment data).exec (paymentHandler charge) n p s =
            ⟨.error e, l, n + 4, { s with payments := s.payments.put p₁ }⟩ := by
          simp [PaymentService.chargePayment, paymentHandler, PaymentService.exec, Sig.attempt,
            PaymentService.Op.fallible, PaymentService.perform, f₀, f₁, hr, f₃, p₁]
        obtain ⟨l, hexec⟩ := hexec
        rw [hexec]
        exact failPayment_unpaid hput
      | false =>
        let p₂ := { p₁ with
          status := PaymentStatus.failed, failureReason := (charge (n + 1)).response.failureReason }
        cases f₂ : (charge (n + 2)).fault with
        | some e =>
          have hexec : (PaymentService.chargePayment data).exec (paymentHandler charge) n p s =
              ⟨.error e, p₂, n + 3, { s with payments := s.payments.put p₁ }⟩ := by
            simp [PaymentService.chargePayment, paymentHandler, PaymentService.exec, Sig.attempt,
              PaymentService.Op.fallible, PaymentService.perform, f₀, f₁, hr, f₂, p₁, p₂]
          rw [hexec]
          exact failPayment_unpaid hput
        | none =>
          have hexec : (PaymentService.chargePayment data).exec (paymentHandler charge) n p s =
              ⟨.ok (), p₂, n + 4, { s with payments := (s.payments.put p₁).put p₂ }⟩ := by
            simp [PaymentService.chargePayment, paymentHandler, PaymentService.exec, Sig.attempt,
              PaymentService.Op.fallible, PaymentService.perform, f₀, f₁, hr, f₂, p₁, p₂]
          rw [hexec]
          exact hput.put (by simp [p₂])

/-- A charge that does not go through stores no success. -/
theorem servePayment_unpaid (h : ¬ Charges provider charge data s)
    (hs : Unpaid s.payments data.bookingId) :
    Unpaid (servePayment provider charge data s).state.payments data.bookingId := by
  have hstate : (servePayment provider charge data s).state =
      ((PaymentService.initiatePayment provider data).exec (paymentHandler charge) 0 ()
        s).state := by
    simp only [servePayment, PaymentService.handler, PaymentService.grpcInitiatePayment,
      Code.exec_bind]
    split
    · next he => rw [he]; rfl
    · next he => rw [he]
  rw [hstate]
  cases f₀ : (charge 0).fault with
  | some e =>
    simpa [PaymentService.initiatePayment, paymentHandler, PaymentService.exec, Sig.attempt,
      PaymentService.Op.fallible, f₀] using hs
  | none =>
    cases hkey : s.payment? fun p ↦ p.idempotencyKey = data.idempotencyKey with
    | some existing =>
      simpa [PaymentService.initiatePayment, paymentHandler, PaymentService.exec, Sig.attempt,
        PaymentService.Op.fallible, PaymentService.perform, f₀, hkey] using hs
    | none =>
      by_cases hgate : Registered (gatewayName provider data)
      · cases f₁ : (charge 1).fault with
        | some e =>
          simpa [PaymentService.initiatePayment, paymentHandler, PaymentService.exec, Sig.attempt,
            PaymentService.Op.fallible, PaymentService.perform, f₀, hkey, exec_selectGateway,
            hgate, f₁] using hs
        | none =>
          let p₀ := newPayment provider data s.nextId
          have unused : (s.payments.rows.any fun q ↦ q.idempotencyKey = data.idempotencyKey) =
              false := by
            rw [← Bool.not_eq_true, List.any_eq_true]
            rintro ⟨q, hq, hk⟩
            exact absurd hk (by simpa using List.find?_eq_none.mp hkey q hq)
          have hinsert : ((PaymentService.initiatePayment provider data).exec
              (paymentHandler charge) 0 () s).state =
                ((tryCatch (PaymentService.chargePayment data) PaymentService.failPayment :
                  Code PaymentService.sig PaymentService.Payment Unit).exec
                  (paymentHandler charge) 2 p₀
                  { s with payments := s.payments.put p₀, nextId := s.nextId + 1 }).state := by
            simp only [PaymentService.initiatePayment, Code.exec_bind, Code.exec_await,
              Code.exec_on, paymentHandler, PaymentService.exec, Sig.attempt,
              PaymentService.Op.fallible, PaymentService.perform, f₀, f₁, hkey,
              exec_selectGateway, hgate, unused, if_true, Bool.false_eq_true, if_false]
            split
            · next he => exact (congrArg Outcome.state he).symm
            · next he => exact (congrArg Outcome.state he).symm
          rw [hinsert]
          have hrest : ¬ ((charge 2).fault = none ∧ (charge 3).fault = none ∧
              (charge 3).response.success = true ∧ (charge 5).fault = none) := by
            rintro ⟨f₂, f₃, hr, f₅⟩
            exact h ⟨hkey, hgate, by simp [f₀, f₁, f₂, f₃, f₅], hr⟩
          exact chargePayment_unpaid (hs.put (by simp [p₀, newPayment])) hrest
      · simpa [PaymentService.initiatePayment, paymentHandler, PaymentService.exec, Sig.attempt,
          PaymentService.Op.fallible, PaymentService.perform, f₀, hkey, exec_selectGateway,
          hgate] using hs

end Payment

/-! ### The booking service up to the persisted row -/

/-- The part of `createBooking` up to the persisted booking: the selected seats and the row. -/
def persisting (dto : BookingService.CreateBookingDto) :
    Code BookingService.sig Unit (List SeatInfo × Option BookingService.BookingView) := do
  let selectedSeats ← BookingService.selectSeats dto
  let savedBooking ←
    BookingService.persistBooking dto selectedSeats (BookingService.totalAmount selectedSeats)
  pure (selectedSeats, savedBooking)

section Booking

variable {provider : String} {plan charge : Nat → Choice} {L : Type} {l l' : L} {n m : Nat}
  {w w' : World}

/-- Operations of the booking database leave the payment service alone. -/
theorem worldHandler_local {o : BookingService.Op} (ho : o.isRpc = false) :
    worldHandler provider plan charge n o w =
      ((BookingService.exec (plan n) o w.booking).1,
        { w with booking := (BookingService.exec (plan n) o w.booking).2 }) := by
  cases o with
  | rpc i request => cases ho
  | _ => rfl

/-- An operation of the booking database that returns has its effect. -/
theorem exec_local_ok {o : BookingService.Op} (ho : o.isRpc = false)
    {a : BookingService.Res o}
    (h : (BookingService.await o : Code BookingService.sig L (BookingService.Res o)).exec
      (worldHandler provider plan charge) n l w = ⟨.ok a, l', m, w'⟩) :
    BookingService.perform (plan n) o w.booking = (.ok a, w'.booking) ∧
      w'.payment = w.payment ∧ l' = l ∧ m = n + 1 := by
  simp only [Code.exec_await, worldHandler_local ho, Outcome.mk.injEq] at h
  obtain ⟨ha, rfl, rfl, rfl⟩ := h
  rcases BookingService.exec_cases (plan n) o w.booking with ⟨-, e, he⟩ | he
  · rw [he] at ha
    cases ha
  · rw [he] at ha ⊢
    exact ⟨Prod.ext ha rfl, rfl, rfl, rfl⟩

/-- A transaction that returns was not rolled back. -/
theorem exec_transaction_ok {α : Type} {c : Code BookingService.sig L α} {a : α}
    (h : (tryCatch c fun e ↦ do
        BookingService.await .rollback
        throw e : Code BookingService.sig L α).exec (worldHandler provider plan charge) n l w =
      ⟨.ok a, l', m, w'⟩) :
    c.exec (worldHandler provider plan charge) n l w = ⟨.ok a, l', m, w'⟩ := by
  rw [Code.exec_tryCatch] at h
  rcases hc : c.exec (worldHandler provider plan charge) n l w with ⟨r, l₁, n₁, w₁⟩
  rw [hc] at h
  cases r with
  | ok b => exact h
  | error e =>
    obtain ⟨b, l₂, n₂, w₂, -, hthrow⟩ := Code.exec_bind_ok h
    cases hthrow

/-- The transaction that creates a booking stores it as pending. -/
theorem persistTransaction_ok {dto : BookingService.CreateBookingDto} {seats : List SeatInfo}
    {amount : Money} {id : Id} {l' : Unit}
    (h : (BookingService.persistTransaction dto seats amount).exec
      (worldHandler provider plan charge) n () w = ⟨.ok id, l', m, w'⟩) :
    seats ≠ [] ∧ ∃ r, w'.booking.bookings.find id = some r ∧ r.id = id ∧ r.status = .pending ∧
      r.refundState = none := by
  obtain ⟨number, _, _, w₁, -, h⟩ := Code.exec_bind_ok h
  obtain ⟨currency, _, _, w₂, hcurrency, h⟩ := Code.exec_bind_ok h
  obtain ⟨now, _, _, w₃, -, h⟩ := Code.exec_bind_ok h
  obtain ⟨saved, _, _, w₄, hinsert, h⟩ := Code.exec_bind_ok h
  have hne : seats ≠ [] := by
    rintro rfl
    cases hcurrency
  obtain ⟨hsaved, -, rfl, rfl⟩ := exec_local_ok rfl hinsert
  cases hitems : BookingService.bookingItems saved.id seats dto.items with
  | error e =>
    rw [hitems] at h
    cases h
  | ok items =>
    rw [hitems] at h
    obtain ⟨_, _, _, w₅, -, h⟩ := Code.exec_bind_ok h
    obtain ⟨_, _, _, w₆, hcommit, h⟩ := Code.exec_bind_ok h
    obtain ⟨hput, -, -, -⟩ := exec_local_ok rfl hcommit
    simp only [Code.exec_pure, Outcome.mk.injEq, Except.ok.injEq] at h
    obtain ⟨rfl, -, -, rfl⟩ := h
    have hid := congrArg Prod.fst hsaved
    have hdb := congrArg Prod.snd hput
    simp only [BookingService.perform, Except.ok.injEq] at hid hdb
    refine ⟨hne, saved, ?_, rfl, ?_, ?_⟩
    · rw [← hdb]
      exact Table.find_put_self _ saved
    · rw [← hid]
      rfl
    · rw [← hid]
      rfl

/-- The persisted booking is the stored row. -/
theorem persistBooking_ok {dto : BookingService.CreateBookingDto} {seats : List SeatInfo}
    {amount : Money} {v : BookingService.BookingView} {l' : Unit}
    (h : (BookingService.persistBooking dto seats amount).exec
      (worldHandler provider plan charge) n () w = ⟨.ok (some v), l', m, w'⟩) :
    seats ≠ [] ∧ w'.booking.bookings.find v.booking.id = some v.booking ∧
      v.booking.status = .pending ∧ v.booking.refundState = none := by
  obtain ⟨_, _, _, w₁, -, h⟩ := Code.exec_bind_ok h
  obtain ⟨id, _, _, w₂, htrans, hfind⟩ := Code.exec_bind_ok h
  obtain ⟨hne, r, hr, rfl, hst, hrs⟩ := persistTransaction_ok (exec_transaction_ok htrans)
  obtain ⟨hview, -, -, -⟩ := exec_local_ok rfl hfind
  simp only [BookingService.perform, hr, Option.map_some, Prod.mk.injEq, Except.ok.injEq,
    Option.some.injEq] at hview
  obtain ⟨rfl, hsame⟩ := hview
  rw [← hsame]
  exact ⟨hne, hr, hst, hrs⟩

/-- The persisted booking is stored as pending. -/
theorem persisting_ok {dto : BookingService.CreateBookingDto} {seats : List SeatInfo}
    {v : BookingService.BookingView} {l' : Unit}
    (h : (persisting dto).exec (worldHandler provider plan charge) n () w =
      ⟨.ok (seats, some v), l', m, w'⟩) :
    seats ≠ [] ∧ w'.booking.bookings.find v.booking.id = some v.booking ∧
      v.booking.status = .pending ∧ v.booking.refundState = none := by
  obtain ⟨seats', l₁, n₁, w₁, -, h⟩ := Code.exec_bind_ok h
  obtain ⟨found, l₂, n₂, w₂, hpersist, h⟩ := Code.exec_bind_ok h
  simp only [Code.exec_pure, Outcome.mk.injEq, Except.ok.injEq, Prod.mk.injEq] at h
  obtain ⟨⟨rfl, rfl⟩, -, rfl, rfl⟩ := h
  exact persistBooking_ok hpersist

/-- After the row is persisted the call settles it. -/
theorem createBooking_state {dto : BookingService.CreateBookingDto} {seats : List SeatInfo}
    {v : BookingService.BookingView} {l' : Unit}
    (h : (persisting dto).exec (worldHandler provider plan charge) n () w =
      ⟨.ok (seats, some v), l', m, w'⟩) :
    ((BookingService.createBooking dto).exec (worldHandler provider plan charge) n () w).state =
      ((BookingService.settleBooking dto (BookingService.totalAmount seats) seats).exec
        (worldHandler provider plan charge) m v.booking w').state := by
  obtain ⟨seats', l₁, n₁, w₁, hselect, h⟩ := Code.exec_bind_ok h
  obtain ⟨found, l₂, n₂, w₂, hpersist, h⟩ := Code.exec_bind_ok h
  simp only [Code.exec_pure, Outcome.mk.injEq, Except.ok.injEq, Prod.mk.injEq] at h
  obtain ⟨⟨rfl, rfl⟩, -, rfl, rfl⟩ := h
  simp only [BookingService.createBooking, Code.exec_bind, hselect, hpersist, Code.exec_on]

/-! ### The booking service from the persisted row on -/

/-- The entity after the assignments of the confirmation. -/
def confirmedEntity (b : BookingService.Booking) (now : Nat) : BookingService.Booking :=
  { b with status := .confirmed, confirmedAt := some now }

/-- A confirmation whose statements go through stores the booking as confirmed. -/
theorem confirmBooking_ok {eventId userId : String} {seatIds : List String}
    {b r : BookingService.Booking} (hr : w.booking.bookings.find b.id = some r)
    (h : ∀ i ∈ [0, 2, 3, 4, 5, 6], (plan (n + i)).fault = none) :
    ∃ w', (BookingService.confirmBookingWithOutbox eventId userId seatIds).exec
        (worldHandler provider plan charge) n b w =
          ⟨.ok (), confirmedEntity b (plan (n + 1)).now, n + 7, w'⟩ ∧
      w'.payment = w.payment ∧
      w'.booking.bookings.find b.id = some (confirmedEntity b (plan (n + 1)).now) := by
  have f₀ : (plan n).fault = none := h 0 (by simp)
  have f₂ := h 2 (by simp)
  have f₃ := h 3 (by simp)
  have f₄ := h 4 (by simp)
  have f₅ := h 5 (by simp)
  have f₆ := h 6 (by simp)
  simp [BookingService.confirmBookingWithOutbox, BookingService.confirmTransaction, worldHandler,
    BookingService.exec, Sig.attempt, BookingService.Op.fallible, BookingService.perform, f₀, f₂,
    f₃, f₄, f₅, f₆, hr, confirmedEntity, BookingService.Db.write]

/-- A failing confirmation stores nothing; its entity is the same booking. -/
theorem confirmTransaction_error {eventId userId : String} {seatIds : List String}
    {b r : BookingService.Booking} (hr : w.booking.bookings.find b.id = some r)
    (h : ¬ ∀ i ∈ [1, 2, 3, 4, 5], (plan (n + i)).fault = none) :
    ∃ e m, (BookingService.confirmTransaction eventId userId seatIds).exec
        (worldHandler provider plan charge) n b w =
          ⟨.error e, confirmedEntity b (plan n).now, m, w⟩ := by
  cases f₁ : (plan (n + 1)).fault with
  | some e =>
    simp [BookingService.confirmTransaction, worldHandler, BookingService.exec, Sig.attempt,
      BookingService.Op.fallible, BookingService.perform, f₁, confirmedEntity]
  | none =>
    cases f₂ : (plan (n + 2)).fault with
    | some e =>
      simp [BookingService.confirmTransaction, worldHandler, BookingService.exec, Sig.attempt,
        BookingService.Op.fallible, BookingService.perform, f₁, f₂, confirmedEntity]
    | none =>
      cases f₃ : (plan (n + 3)).fault with
      | some e =>
        simp [BookingService.confirmTransaction, worldHandler, BookingService.exec, Sig.attempt,
          BookingService.Op.fallible, BookingService.perform, f₁, f₂, f₃, hr, confirmedEntity]
      | none =>
        cases f₄ : (plan (n + 4)).fault with
        | some e =>
          simp [BookingService.confirmTransaction, worldHandler, BookingService.exec, Sig.attempt,
            BookingService.Op.fallible, BookingService.perform, f₁, f₂, f₃, f₄, hr,
            confirmedEntity]
        | none =>
          cases f₅ : (plan (n + 5)).fault with
          | some e =>
            simp [BookingService.confirmTransaction, worldHandler, BookingService.exec, Sig.attempt,
              BookingService.Op.fallible, BookingService.perform, f₁, f₂, f₃, f₄, f₅, hr,
              confirmedEntity]
          | none => simp [f₁, f₂, f₃, f₄, f₅] at h

/-- A failing confirmation is rolled back. -/
theorem confirmBooking_error {eventId userId : String} {seatIds : List String}
    {b r : BookingService.Booking} (hr : w.booking.bookings.find b.id = some r)
    (h : ¬ ∀ i ∈ [0, 2, 3, 4, 5, 6], (plan (n + i)).fault = none) :
    ∃ e l m, (BookingService.confirmBookingWithOutbox eventId userId seatIds).exec
        (worldHandler provider plan charge) n b w = ⟨.error e, l, m, w⟩ ∧ l.id = b.id ∧
      l.refundState = b.refundState := by
  cases f₀ : (plan n).fault with
  | some e =>
    simp [BookingService.confirmBookingWithOutbox, worldHandler, BookingService.exec, Sig.attempt,
      BookingService.Op.fallible, f₀]
  | none =>
    have hrest : ¬ ∀ i ∈ [1, 2, 3, 4, 5], (plan (n + 1 + i)).fault = none := by
      intro hall
      apply h
      simp only [List.mem_cons, List.not_mem_nil, or_false, forall_eq_or_imp, forall_eq] at hall ⊢
      exact ⟨f₀, hall⟩
    have hthrown : ∃ e m, (BookingService.confirmTransaction eventId userId seatIds).exec
        (worldHandler provider plan charge) (n + 1) b w =
          ⟨.error e, confirmedEntity b (plan (n + 1)).now, m, w⟩ :=
      confirmTransaction_error hr hrest
    obtain ⟨e, m, hexec⟩ := hthrown
    cases hb : (plan m).fault with
    | some e' =>
      simp [BookingService.confirmBookingWithOutbox, worldHandler, BookingService.exec, Sig.attempt,
        BookingService.Op.fallible, BookingService.perform, f₀, hexec, hb, confirmedEntity]
    | none =>
      simp [BookingService.confirmBookingWithOutbox, worldHandler, BookingService.exec, Sig.attempt,
        BookingService.Op.fallible, BookingService.perform, f₀, hexec, hb, confirmedEntity]

/-- The stored booking is neither confirmed nor on its way to be refunded. -/
def Unbooked (w : World) (b : Id) : Prop :=
  ∃ r, w.booking.bookings.find b = some r ∧ r.status ≠ .confirmed ∧ r.refundState = none

/-- The `catch` block cancels the booking, or leaves it; it always throws. -/
theorem failBooking_unbooked {e : Exception} {b : BookingService.Booking}
    (hb : b.refundState = none) (h : Unbooked w b.id) :
    ∃ e' l m w', (BookingService.failBooking e).exec (worldHandler provider plan charge) n b w =
        ⟨.error e', l, m, w'⟩ ∧ Unbooked w' b.id := by
  let b' : BookingService.Booking := { b with
    status := .cancelled, cancelledAt := some (plan n).now,
    cancellationReason := some ("Payment error: " ++ e.message) }
  cases hsave : (plan (n + 1)).fault with
  | some e' =>
    refine ⟨e', b', n + 2, w, ?_, h⟩
    simp [BookingService.failBooking, BookingService.cancelEntity, worldHandler,
      BookingService.exec, Sig.attempt, BookingService.Op.fallible, BookingService.perform, hsave,
      b']
  | none =>
    let w' : World := { w with
      booking := { w.booking with bookings := w.booking.bookings.put b' } }
    have stored : w'.booking.bookings.find b.id = some b' :=
      Table.find_put_self w.booking.bookings b'
    have unbooked : Unbooked w' b.id := ⟨b', stored, by simp [b'], hb⟩
    cases hfind : (plan (n + 2)).fault with
    | some e' =>
      refine ⟨e', b', n + 3, w', ?_, unbooked⟩
      simp [BookingService.failBooking, BookingService.cancelEntity, worldHandler,
        BookingService.exec, Sig.attempt, BookingService.Op.fallible, BookingService.perform, hsave,
        hfind, b', w']
    | none =>
      refine ⟨.badRequest ("Payment failed: " ++ e.message), b', n + 4, w', ?_, unbooked⟩
      simp [BookingService.failBooking, BookingService.cancelEntity, worldHandler,
        BookingService.exec, Sig.attempt, BookingService.Op.fallible, BookingService.perform, hsave,
        hfind, stored, b', w']

/-- The request that `createBooking` sends to the payment service. -/
def paymentRequest (dto : BookingService.CreateBookingDto) (id : Id) (seats : List SeatInfo) :
    InitiatePaymentRequest where
  bookingId := id
  idempotencyKey := dto.paymentIdempotencyKey
  amount := BookingService.totalAmount seats
  currency := (seats.head?.map SeatInfo.currency).getD ""
  method := .creditCard
  cardToken := dto.cardToken
  provider := dto.paymentProvider.getD ""

/-- The reply arrives, and every statement of `confirmBookingWithOutbox` goes through. -/
def Confirms (plan : Nat → Choice) (n : Nat) : Prop :=
  ∀ i ∈ [0, 1, 3, 4, 5, 6, 7], (plan (n + i)).fault = none

section Settling

variable {dto : BookingService.CreateBookingDto} {seats : List SeatInfo}
  {b r : BookingService.Booking} {info : PaymentInfo}

/-- The databases after the payment service handled the request of the booking. -/
def afterPayment (provider : String) (charge : Nat → Choice)
    (dto : BookingService.CreateBookingDto) (id : Id) (seats : List SeatInfo) (w : World) : World :=
  { w with
    payment := (servePayment provider charge (paymentRequest dto id seats) w.payment).state }

/-- A lost reply throws after the payment service handled the request. -/
theorem payBooking_lost {e : Exception} (hne : seats ≠ []) (h : (plan n).fault = some e) :
    (BookingService.payBooking dto (BookingService.totalAmount seats) seats).exec
        (worldHandler provider plan charge) n b w =
      ⟨.error e, b, n + 1, afterPayment provider charge dto b.id seats w⟩ := by
  obtain ⟨seat, rest, rfl⟩ := List.exists_cons_of_ne_nil hne
  simp [BookingService.payBooking, BookingService.firstCurrency, BookingService.grpc,
    worldHandler, h, afterPayment, paymentRequest]

/-- After the reply of a charge the call confirms the booking. -/
theorem payBooking_delivered (hne : seats ≠ [])
    (hserved : (servePayment provider charge (paymentRequest dto b.id seats) w.payment).result =
      .ok (.payment (some info))) (hinfo : info.status = .succeeded) (h : (plan n).fault = none) :
    (BookingService.payBooking dto (BookingService.totalAmount seats) seats).exec
        (worldHandler provider plan charge) n b w =
      (BookingService.confirmBookingWithOutbox dto.eventId dto.userId dto.seatIds).exec
        (worldHandler provider plan charge) (n + 1) b
        (afterPayment provider charge dto b.id seats w) := by
  obtain ⟨seat, rest, rfl⟩ := List.exists_cons_of_ne_nil hne
  simp only [paymentRequest, List.head?_cons, Option.map_some, Option.getD_some] at hserved
  simp [BookingService.payBooking, BookingService.firstCurrency, BookingService.grpc,
    worldHandler, h, hserved, BookingService.Reply.payment?, hinfo, afterPayment, paymentRequest]

/-- The operation is no call of `initiatePayment`. -/
def NoPayment : BookingService.Op → Prop
  | .rpc _ (.initiatePayment _) => False
  | _ => True

/-- Without calls of `initiatePayment` the payment service is left alone. -/
theorem payment_of_awaits {L α : Type} {l : L} {c : Code BookingService.sig L α}
    (hc : c.Awaits NoPayment) :
    (c.exec (worldHandler provider plan charge) n l w).state.payment = w.payment := by
  have kept : ∀ m o (w' : World), NoPayment o → w'.payment = w.payment →
      (worldHandler provider plan charge m o w').2.payment = w.payment := by
    intro m o w' ho hw
    cases o with
    | rpc issuer request =>
      cases request with
      | initiatePayment data => exact ho.elim
      | _ => exact hw
    | _ => exact hw
  exact Code.Awaits.exec (K := fun w' : World ↦ w'.payment = w.payment) kept hc rfl

/-- The confirmation calls no other service. -/
theorem confirmBooking_noPayment (eventId userId : String) (seatIds : List String) :
    (BookingService.confirmBookingWithOutbox eventId userId seatIds).Awaits NoPayment := by
  apply Code.Awaits.bind (Code.Awaits.await trivial)
  intro _
  apply Code.Awaits.tryCatch
  · apply Code.Awaits.bind (Code.Awaits.assign _)
    intro _
    apply Code.Awaits.bind (Code.Awaits.await trivial)
    intro now
    apply Code.Awaits.bind (Code.Awaits.assign _)
    intro _
    apply Code.Awaits.bind Code.Awaits.entity
    intro booking
    apply Code.Awaits.bind (Code.Awaits.await trivial)
    intro _
    apply Code.Awaits.bind (Code.Awaits.await trivial)
    intro found
    cases found with
    | none => exact Code.Awaits.raise _
    | some view =>
      apply Code.Awaits.bind (Code.Awaits.await trivial)
      intro _
      apply Code.Awaits.bind (Code.Awaits.await trivial)
      intro _
      exact Code.Awaits.await trivial
  · intro e
    apply Code.Awaits.bind (Code.Awaits.await trivial)
    intro _
    exact Code.Awaits.raise _

/-- The assignments of a cancellation await the clock only. -/
theorem cancelEntity_noPayment (reason : String) :
    (BookingService.cancelEntity reason).Awaits NoPayment := by
  apply Code.Awaits.bind (Code.Awaits.assign _)
  intro _
  apply Code.Awaits.bind (Code.Awaits.await trivial)
  intro now
  exact Code.Awaits.assign _

/-- The `catch` block calls no other service. -/
theorem failBooking_noPayment (e : Exception) :
    (BookingService.failBooking e).Awaits NoPayment := by
  apply Code.Awaits.bind (cancelEntity_noPayment _)
  intro _
  apply Code.Awaits.bind Code.Awaits.entity
  intro booking
  apply Code.Awaits.bind (Code.Awaits.await trivial)
  intro _
  apply Code.Awaits.bind (Code.Awaits.await trivial)
  intro found
  cases found with
  | none => exact Code.Awaits.raise _
  | some view =>
    apply Code.Awaits.bind (Code.Awaits.await trivial)
    intro _
    exact Code.Awaits.raise _

/-- Whatever the reply is, the request is handled once. -/
theorem initiatePayment_state {L : Type} {l : L} {data : InitiatePaymentRequest} {i : Option Id} :
    ∃ r, (BookingService.grpc i (.initiatePayment data) BookingService.Reply.payment? :
        Code BookingService.sig L (Option PaymentInfo)).exec
        (worldHandler provider plan charge) n l w =
      ⟨r, l, n + 1, { w with payment := (servePayment provider charge data w.payment).state }⟩ := by
  cases hf : (plan n).fault with
  | some e => simp [BookingService.grpc, worldHandler, hf]
  | none =>
    cases hr : (servePayment provider charge data w.payment).result with
    | error e => simp [BookingService.grpc, worldHandler, hf, hr]
    | ok reply =>
      cases hp : BookingService.Reply.payment? reply with
      | none => simp [BookingService.grpc, worldHandler, hf, hr, hp]
      | some payment => simp [BookingService.grpc, worldHandler, hf, hr, hp]

/-- The `try` block lets the payment service handle one request. -/
theorem payBooking_payment (hne : seats ≠ []) :
    ((BookingService.payBooking dto (BookingService.totalAmount seats) seats).exec
      (worldHandler provider plan charge) n b w).state.payment =
        (servePayment provider charge (paymentRequest dto b.id seats) w.payment).state := by
  obtain ⟨seat, rest, rfl⟩ := List.exists_cons_of_ne_nil hne
  let data := paymentRequest dto b.id (seat :: rest)
  have hcall : ∃ r, (BookingService.grpc (some b.id) (.initiatePayment data)
      BookingService.Reply.payment? :
        Code BookingService.sig BookingService.Booking (Option PaymentInfo)).exec
        (worldHandler provider plan charge) n b w =
      ⟨r, b, n + 1,
        { w with payment := (servePayment provider charge data w.payment).state }⟩ :=
    initiatePayment_state
  obtain ⟨r, hexec⟩ := hcall
  simp only [data, paymentRequest, List.head?_cons, Option.map_some, Option.getD_some]
    at hexec ⊢
  unfold BookingService.payBooking BookingService.firstCurrency
  rw [Code.exec_bind, Code.exec_pure]
  dsimp only
  rw [Code.exec_bind, Code.exec_entity]
  dsimp only
  rw [Code.exec_bind, hexec]
  cases r with
  | error e => rfl
  | ok payment =>
    cases payment with
    | none => rfl
    | some payment =>
      apply payment_of_awaits
      dsimp only
      split
      · exact confirmBooking_noPayment _ _ _
      · apply Code.Awaits.bind (cancelEntity_noPayment _)
        intro _
        apply Code.Awaits.bind Code.Awaits.entity
        intro booking
        apply Code.Awaits.bind (Code.Awaits.await trivial)
        intro _
        apply Code.Awaits.bind (Code.Awaits.await trivial)
        intro _
        exact Code.Awaits.ret _
/-- The last read calls no other service. -/
theorem lastRead_noPayment :
    (do
      let booking ← BookingService.entity
      BookingService.await (.findBooking booking.id) :
        Code BookingService.sig BookingService.Booking
          (Option BookingService.BookingView)).Awaits NoPayment := by
  apply Code.Awaits.bind Code.Awaits.entity
  intro booking
  exact Code.Awaits.await trivial

/-- The call lets the payment service handle one request. -/
theorem settleBooking_payment (hne : seats ≠ []) :
    ((BookingService.settleBooking dto (BookingService.totalAmount seats) seats).exec
      (worldHandler provider plan charge) n b w).state.payment =
        (servePayment provider charge (paymentRequest dto b.id seats) w.payment).state := by
  unfold BookingService.settleBooking
  rw [Code.exec_bind, Code.exec_tryCatch, ← payBooking_payment hne]
  rcases (BookingService.payBooking dto (BookingService.totalAmount seats) seats).exec
    (worldHandler provider plan charge) n b w with ⟨r, l, m, w'⟩
  cases r with
  | ok u => exact payment_of_awaits lastRead_noPayment
  | error e =>
    dsimp only
    have hkept : ((BookingService.failBooking e).exec (worldHandler provider plan charge) m l
        w').state.payment = w'.payment := payment_of_awaits (failBooking_noPayment e)
    rw [← hkept]
    rcases (BookingService.failBooking e).exec (worldHandler provider plan charge) m l w'
      with ⟨r', l', m', w''⟩
    cases r' with
    | ok u => exact payment_of_awaits lastRead_noPayment
    | error e' => rfl

/-- The last read of the call changes nothing. -/
theorem settleBooking_ok {amount : Money} {l : BookingService.Booking}
    (h : (BookingService.payBooking dto amount seats).exec (worldHandler provider plan charge) n b
      w = ⟨.ok (), l, m, w'⟩) :
    ((BookingService.settleBooking dto amount seats).exec (worldHandler provider plan charge) n b
      w).state = w' := by
  cases hf : (plan m).fault with
  | some e =>
    simp [BookingService.settleBooking, h, worldHandler, BookingService.exec, Sig.attempt,
      BookingService.Op.fallible, hf]
  | none =>
    simp [BookingService.settleBooking, h, worldHandler, BookingService.exec, Sig.attempt,
      BookingService.Op.fallible, BookingService.perform, hf]

/-- An error goes through the `catch` block and leaves the booking unconfirmed. -/
theorem settleBooking_error {amount : Money} {e : Exception} {l : BookingService.Booking}
    (h : (BookingService.payBooking dto amount seats).exec (worldHandler provider plan charge) n b
      w = ⟨.error e, l, m, w'⟩) (hl : l.refundState = none) (hw : Unbooked w' l.id) :
    Unbooked ((BookingService.settleBooking dto amount seats).exec
      (worldHandler provider plan charge) n b w).state l.id := by
  have hfail : ∃ e' l' m' w'', (BookingService.failBooking e).exec
      (worldHandler provider plan charge) m l w' = ⟨.error e', l', m', w''⟩ ∧
        Unbooked w'' l.id := failBooking_unbooked hl hw
  obtain ⟨e', l', m', w'', hexec, hunbooked⟩ := hfail
  simpa [BookingService.settleBooking, h, hexec] using hunbooked

/-- After a charge whose reply arrives and whose confirmation goes through the booking is
confirmed. -/
theorem settleBooking_confirmed (hne : seats ≠ []) (hr : w.booking.bookings.find b.id = some r)
    (hserved : (servePayment provider charge (paymentRequest dto b.id seats) w.payment).result =
      .ok (.payment (some info))) (hinfo : info.status = .succeeded) (h : Confirms plan n) :
    ∃ r', ((BookingService.settleBooking dto (BookingService.totalAmount seats) seats).exec
        (worldHandler provider plan charge) n b w).state.booking.bookings.find b.id = some r' ∧
      r'.status = .confirmed := by
  have hreply : (plan n).fault = none := h 0 (by simp)
  have hstatements : ∀ i ∈ [0, 2, 3, 4, 5, 6], (plan (n + 1 + i)).fault = none := by
    intro i hi
    rw [Nat.add_assoc]
    apply h
    simp only [List.mem_cons, List.not_mem_nil, or_false] at hi ⊢
    omega
  have hconfirm : ∃ w', (BookingService.confirmBookingWithOutbox dto.eventId dto.userId
      dto.seatIds).exec (worldHandler provider plan charge) (n + 1) b
        (afterPayment provider charge dto b.id seats w) =
          ⟨.ok (), confirmedEntity b (plan (n + 1 + 1)).now, n + 1 + 7, w'⟩ ∧
      w'.payment = (afterPayment provider charge dto b.id seats w).payment ∧
      w'.booking.bookings.find b.id = some (confirmedEntity b (plan (n + 1 + 1)).now) :=
    confirmBooking_ok hr hstatements
  obtain ⟨w', hexec, -, hfind⟩ := hconfirm
  rw [← payBooking_delivered hne hserved hinfo hreply] at hexec
  rw [settleBooking_ok hexec]
  exact ⟨_, hfind, rfl⟩

/-- After a charge whose reply is lost or whose confirmation fails the booking is neither
confirmed nor refunded. -/
theorem settleBooking_unbooked (hne : seats ≠ []) (hr : w.booking.bookings.find b.id = some b)
    (hpending : b.status = .pending) (hstate : b.refundState = none)
    (hserved : (servePayment provider charge (paymentRequest dto b.id seats) w.payment).result =
      .ok (.payment (some info))) (hinfo : info.status = .succeeded) (h : ¬ Confirms plan n) :
    Unbooked ((BookingService.settleBooking dto (BookingService.totalAmount seats) seats).exec
      (worldHandler provider plan charge) n b w).state b.id := by
  have hunbooked : Unbooked (afterPayment provider charge dto b.id seats w) b.id :=
    ⟨b, hr, by simp [hpending], hstate⟩
  cases hreply : (plan n).fault with
  | some e => exact settleBooking_error (payBooking_lost hne hreply) hstate hunbooked
  | none =>
    have hstatements : ¬ ∀ i ∈ [0, 2, 3, 4, 5, 6], (plan (n + 1 + i)).fault = none := by
      intro hall
      apply h
      intro i hi
      by_cases hz : i = 0
      · rw [hz]
        exact hreply
      · have hmem : i - 1 ∈ [0, 2, 3, 4, 5, 6] := by
          simp only [List.mem_cons, List.not_mem_nil, or_false] at hi ⊢
          omega
        have hi' := hall (i - 1) hmem
        rwa [show n + 1 + (i - 1) = n + i by omega] at hi'
    have hthrown : ∃ e l m, (BookingService.confirmBookingWithOutbox dto.eventId dto.userId
        dto.seatIds).exec (worldHandler provider plan charge) (n + 1) b
          (afterPayment provider charge dto b.id seats w) =
            ⟨.error e, l, m, afterPayment provider charge dto b.id seats w⟩ ∧ l.id = b.id ∧
        l.refundState = b.refundState := confirmBooking_error hr hstatements
    obtain ⟨e, l, m, hexec, hid, hls⟩ := hthrown
    rw [← payBooking_delivered hne hserved hinfo hreply] at hexec
    rw [← hid] at hunbooked ⊢
    exact settleBooking_error hexec (hls.trans hstate) hunbooked

end Settling

end Booking

/-! ### When paid means booked -/

/-- For every call of `createBooking` that persists its booking, and every pattern of
failures: paid means booked exactly if the charge does not go through, or its reply and all
statements of the confirmation do. -/
theorem paid_means_booked_iff {provider : String} {plan charge : Nat → Choice}
    {dto : BookingService.CreateBookingDto} {seats : List SeatInfo}
    {v : BookingService.BookingView} {n : Nat} {w w' : World}
    (hpersist : (persisting dto).exec (worldHandler provider plan charge) 0 () w =
      ⟨.ok (seats, some v), (), n, w'⟩)
    (hnew : ∀ p ∈ w'.payment.payments.rows, p.bookingId ≠ v.booking.id) :
    PaidMeansBooked
        ((BookingService.createBooking dto).exec (worldHandler provider plan charge) 0 ()
          w).state v.booking.id ↔
      (Charges provider charge (paymentRequest dto v.booking.id seats) w'.payment →
        Confirms plan n) := by
  rw [createBooking_state hpersist]
  obtain ⟨hne, hr, hpending, hstate⟩ := persisting_ok hpersist
  unfold PaidMeansBooked
  rw [settleBooking_payment hne]
  by_cases hcharge : Charges provider charge (paymentRequest dto v.booking.id seats) w'.payment
  · obtain ⟨info, hserved, hinfo, hpaid⟩ := servePayment_charges hcharge
    by_cases hconfirm : Confirms plan n
    · obtain ⟨r, hfind, hst⟩ := settleBooking_confirmed hne hr hserved hinfo hconfirm
      exact iff_of_true (fun _ ↦ ⟨r, hfind, by simp [hst], .inl hst⟩) fun _ ↦ hconfirm
    · obtain ⟨r, hfind, hst, hrs⟩ :=
        settleBooking_unbooked hne hr hpending hstate hserved hinfo hconfirm
      refine iff_of_false ?_ fun h ↦ hconfirm (h hcharge)
      intro h
      obtain ⟨r', hfind', -, hbooked⟩ := h hpaid
      rw [hfind] at hfind'
      cases hfind'
      exact hbooked.elim hst fun hne ↦ hne hrs
  · have hunpaid := servePayment_unpaid hcharge fun p hp hb ↦ absurd hb (hnew p hp)
    refine iff_of_true ?_ fun h ↦ absurd h hcharge
    rintro ⟨p, hp, hb, hst⟩
    exact absurd hst (hunpaid p hp hb)

/-- The choices of a list, one for each position; nothing is decided after its end. -/
def choices (cs : List Choice) (n : Nat) : Choice := cs.getD n {}

/-- The seat is offered and held, and the rest of the call goes as `reply` says. -/
def samplePlan (reply : Choice) : Nat → Choice :=
  choices ([{ reply := .seats [BookingService.sampleSeat "A"] }, { reply := .verified true }] ++
    List.replicate 8 ({} : Choice) ++ [reply])

/-- Nothing is stored. -/
def emptyWorld : World := ⟨.empty, .empty⟩

/-- The booking was persisted, and `f` holds of it. -/
def persistedWith (f : List SeatInfo → BookingView → Nat → World → Bool) :
    Async.Outcome BookingService.sig Unit (List SeatInfo × Option BookingView) World → Bool
  | ⟨.ok (seats, some v), _, n, w⟩ => f seats v n w
  | _ => false

/-- A call that persisted its booking selected seats and ended with a view of it. -/
theorem of_persistedWith {f : List SeatInfo → BookingView → Nat → World → Bool}
    {r : Async.Outcome BookingService.sig Unit (List SeatInfo × Option BookingView) World}
    (h : persistedWith f r = true) :
    ∃ seats v n w, r = ⟨.ok (seats, some v), (), n, w⟩ ∧ f seats v n w = true := by
  unfold persistedWith at h
  split at h
  · exact ⟨_, _, _, _, rfl, h⟩
  · cases h

/-- A call without failures confirms the booking that it charged. -/
theorem paid_means_booked_iff_confirmed :
    ∃ seats v n w', (persisting (BookingService.sampleDto "A" "k")).exec
        (worldHandler "stripe" (samplePlan {}) (choices [])) 0 () emptyWorld =
          ⟨.ok (seats, some v), (), n, w'⟩ ∧
      Charges "stripe" (choices []) (paymentRequest (BookingService.sampleDto "A" "k")
        v.booking.id seats) w'.payment ∧
      PaidMeansBooked ((BookingService.createBooking (BookingService.sampleDto "A" "k")).exec
        (worldHandler "stripe" (samplePlan {}) (choices [])) 0 () emptyWorld).state
        v.booking.id := by
  have played : persistedWith (fun _ _ n w' ↦ decide (w'.payment = .empty) && decide (n = 10))
      ((persisting (BookingService.sampleDto "A" "k")).exec
        (worldHandler "stripe" (samplePlan {}) (choices [])) 0 () emptyWorld) = true := by
    decide +kernel
  obtain ⟨seats, v, n, w', he, played⟩ := of_persistedWith played
  simp only [Bool.and_eq_true, decide_eq_true_eq] at played
  obtain ⟨hpay, rfl⟩ := played
  have hnew : ∀ p ∈ w'.payment.payments.rows, p.bookingId ≠ v.booking.id := by
    rw [hpay]
    exact fun p hp ↦ absurd hp List.not_mem_nil
  have hcharge : Charges "stripe" (choices []) (paymentRequest (BookingService.sampleDto "A" "k")
      v.booking.id seats) w'.payment := by
    rw [hpay]
    exact ⟨rfl, .inl rfl, by simp [choices], rfl⟩
  refine ⟨seats, v, 10, w', he, hcharge, ?_⟩
  rw [paid_means_booked_iff he hnew]
  intro _
  simp [Confirms, samplePlan, choices]

/-- The reply of `initiatePayment` is lost: the payment succeeded, and the booking is
cancelled. -/
theorem lost_reply_cancels_paid_booking :
    ¬ ∀ provider plan charge dto seats v n w w',
      (persisting dto).exec (worldHandler provider plan charge) 0 () w =
        ⟨.ok (seats, some v), (), n, w'⟩ →
      (∀ p ∈ w'.payment.payments.rows, p.bookingId ≠ v.booking.id) →
      PaidMeansBooked
        ((BookingService.createBooking dto).exec (worldHandler provider plan charge) 0 ()
          w).state v.booking.id := by
  have played : persistedWith (fun _ v _ w' ↦
      let w := ((BookingService.createBooking (BookingService.sampleDto "A" "k")).exec
        (worldHandler "stripe" (samplePlan { fault := some (.failure "timeout") }) (choices [])) 0
        () emptyWorld).state
      decide (w'.payment = .empty) &&
        (w.payment.payments.rows.any fun p ↦ p.bookingId = v.booking.id && p.status = .succeeded) &&
        (w.booking.bookings.find v.booking.id).any fun r ↦ r.status = .cancelled)
      ((persisting (BookingService.sampleDto "A" "k")).exec
        (worldHandler "stripe" (samplePlan { fault := some (.failure "timeout") }) (choices [])) 0
        () emptyWorld) = true := by
    decide +kernel
  obtain ⟨seats, v, n, w', he, played⟩ := of_persistedWith played
  simp only [Bool.and_eq_true, decide_eq_true_eq, List.any_eq_true, Option.any_eq_true] at played
  obtain ⟨⟨hpay, p, hp, hb, hst⟩, r, hr, hcancelled⟩ := played
  intro all
  have hnew : ∀ p ∈ w'.payment.payments.rows, p.bookingId ≠ v.booking.id := by
    rw [hpay]
    exact fun p hp ↦ absurd hp List.not_mem_nil
  obtain ⟨r', hr', hne, -⟩ := all _ _ _ _ _ _ _ _ _ he hnew ⟨p, hp, hb, hst⟩
  rw [hr] at hr'
  cases hr'
  exact hne hcancelled

end Ticketing.System
