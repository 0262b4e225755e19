import Ticketing.Async.Triples
import Ticketing.PaymentService.Service

/-!
# What the payment row says of the charge

Library `PaymentService`. The charge and the save of its result share a `try` block whose `catch`
stores `FAILED`. The row denies a charge that went through exactly when the save of the success
fails and the save of the failure does not.
-/

namespace Ticketing.PaymentService

open Async Store

/-- The answers of the environment, by position, with a record of what was executed. -/
def answering (x : Nat → Choice) : Handler sig (Db × List (Done sig)) :=
  Handler.recording fun n o s ↦ exec (x n) o s

/-- Whether a charge was answered with a success; it was not if it threw. -/
def charged : Done sig → Option Bool
  | ⟨.charge _ _, .ok response⟩ => some response.success
  | ⟨.charge _ _, .error _⟩ => some false
  | _ => none

/-- How the charges of a record ended, newest first. -/
def chargeResults (log : List (Done sig)) : List Bool := log.filterMap charged

/-- A payment that was charged is not `FAILED`, and one whose charge failed is not `SUCCEEDED`. -/
def TellsTruth (p : Payment) (log : List (Done sig)) : Prop :=
  (true ∈ chargeResults log → p.status ≠ .failed) ∧
    (false ∈ chargeResults log → p.status ≠ .succeeded)

/-- The stored payment of a key tells the truth. -/
def RowTruthful (key : String) (s : Db × List (Done sig)) : Prop :=
  ∀ p ∈ s.1.payments.rows, p.idempotencyKey = key → TellsTruth p s.2

/-- A gateway is chosen. -/
def SelectsGateway (defaultProvider provider : String) : Prop :=
  ∃ gateway, (selectGateway defaultProvider provider : Code sig Unit String) = pure gateway

/-- The payment is stored and charged, the save of the success fails, and the save of the `catch`
block succeeds. -/
def LosesCharge (x : Nat → Choice) (defaultProvider provider : String) : Prop :=
  SelectsGateway defaultProvider provider ∧ (∀ n ∈ [0, 1, 2, 3], (x n).fault = none) ∧
    (x 3).response.success = true ∧ (x 5).fault ≠ none ∧ (x 6).fault = none

variable {x : Nat → Choice} {s : Db} {log : List (Done sig)}

/-- The answer to an operation that may fail. -/
theorem exec_of_fault {c : Choice} {o : Op} {e : Exception} (ho : o.fallible = true)
    (hf : c.fault = some e) (s : Db) : exec c o s = (.error e, s) := by
  unfold exec
  rw [hf]
  exact Sig.attempt_some (S := sig) ho e s

/-- The answer to an operation that does not fail. -/
theorem exec_of_none {c : Choice} (hf : c.fault = none) (o : Op) (s : Db) :
    exec c o s = perform c o s := by
  unfold exec
  rw [hf]
  exact Sig.attempt_none (S := sig) o s

/-- What is executed at a position is answered and recorded. -/
theorem answering_apply (n : Nat) (o : Op) (s : Db × List (Done sig)) :
    answering x n o s =
      ((exec (x n) o s.1).1, (exec (x n) o s.1).2, ⟨o, (exec (x n) o s.1).1⟩ :: s.2) := rfl

/-- Reading the clock returns the time and changes nothing. -/
theorem exec_now (c : Choice) (s : Db) : exec c .now s = (.ok c.now, s) :=
  Sig.attempt_of_infallible (S := sig) rfl s

/-- Nobody listens to the failure of an emission. -/
theorem exec_emit (c : Choice) (event : Emission) (s : Db) :
    exec c (.emit event) s = (.ok (), s) :=
  Sig.attempt_of_infallible (S := sig) rfl s

/-- What is not a charge does not count. -/
@[simp] theorem chargeResults_cons {d : Done sig} (h : charged d = none) :
    chargeResults (d :: log) = chargeResults log := by
  simp [chargeResults, h]

/-- A charge adds its result to the results. -/
theorem chargeResults_cons_of {d : Done sig} {b : Bool} (h : charged d = some b) :
    chargeResults (d :: log) = b :: chargeResults log := by
  simp [chargeResults, h]

/-! ### The row of a payment -/

/-- The payment is stored, and no other payment has its key. -/
structure Stored (p : Payment) (s : Db) : Prop where
  mem : p ∈ s.payments.rows
  only : ∀ q ∈ s.payments.rows, q.idempotencyKey = p.idempotencyKey → q.id = p.id

/-- The payment is the only one with its key. -/
theorem Stored.eq {p q : Payment} (h : Stored p s) (hq : q ∈ s.payments.rows)
    (hk : q.idempotencyKey = p.idempotencyKey) : q = p := by
  have found := Table.find_of_mem hq
  rw [h.only q hq hk, Table.find_of_mem h.mem] at found
  exact (Option.some.inj found).symm

/-- Saving the payment again replaces its row. -/
theorem Stored.save {p q : Payment} (h : Stored p s) (hid : q.id = p.id)
    (hk : q.idempotencyKey = p.idempotencyKey) :
    Stored q { s with payments := s.payments.put q } := by
  constructor
  · exact Table.mem_put.mpr (.inl rfl)
  · intro r hr hkey
    rcases Table.mem_put.mp hr with rfl | ⟨hr, -⟩
    · rfl
    · rw [hid]
      exact h.only r hr (hkey.trans hk)

/-- A new payment is stored under its key. -/
theorem Stored.insert {p : Payment} (hid : ∀ q ∈ s.payments.rows, q.id ≠ p.id)
    (hk : ∀ q ∈ s.payments.rows, q.idempotencyKey ≠ p.idempotencyKey) (n : Id) :
    Stored p { s with payments := s.payments.put p, nextId := n } := by
  constructor
  · exact Table.mem_put.mpr (.inl rfl)
  · intro r hr hkey
    rcases Table.mem_put.mp hr with rfl | ⟨hr, -⟩
    · rfl
    · exact absurd hkey (hk r hr)

/-- The row of the payment with the given key, in its status, and how the charges ended. -/
def Ends (key : String) (status : PaymentStatus) (ended : List Bool)
    (s : Db × List (Done sig)) : Prop :=
  ∃ p, Stored p s.1 ∧ p.idempotencyKey = key ∧ p.status = status ∧ chargeResults s.2 = ended

/-- Whether the stored payment tells the truth depends on its status and the charges. -/
theorem Ends.truth {key : String} {status : PaymentStatus} {ended : List Bool}
    {s : Db × List (Done sig)} (h : Ends key status ended s) :
    RowTruthful key s ↔
      (true ∈ ended → status ≠ .failed) ∧ (false ∈ ended → status ≠ .succeeded) := by
  obtain ⟨p, stored, rfl, rfl, rfl⟩ := h
  constructor
  · intro all
    exact all p stored.mem rfl
  · intro truth q hq hk
    rw [stored.eq hq hk]
    exact truth

/-! ### The `try` block and its `catch` -/

/-- The `catch` block stores `FAILED`, unless its save fails. -/
theorem failPayment_ends (e : Exception) (n : Nat) {p q : Payment} (stored : Stored p s)
    (hid : q.id = p.id) (hk : q.idempotencyKey = p.idempotencyKey) {status : PaymentStatus}
    {ended : List Bool} (hst : (if (x n).fault = none then .failed else p.status) = status)
    (he : chargeResults log = ended) :
    Ends p.idempotencyKey status ended ((failPayment e).exec (answering x) n q (s, log)).state := by
  subst hst he
  unfold failPayment
  simp only [Code.exec_bind, Code.exec_assign, Code.exec_await, Code.exec_entity, answering_apply]
  cases hs : (x n).fault with
  | some err =>
    rw [exec_of_fault rfl hs]
    refine ⟨p, stored, rfl, ?_, chargeResults_cons rfl⟩
    simp
  | none =>
    simp only [exec_of_none hs, perform, exec_emit, Code.exec_throw]
    refine ⟨_, stored.save hid hk, hk, ?_, (chargeResults_cons rfl).trans (chargeResults_cons rfl)⟩
    simp

/-- The status in which the payment of a call is left, after its insert. -/
def finalStatus (x : Nat → Choice) : PaymentStatus :=
  if (x 2).fault ≠ none then
    if (x 3).fault = none then .failed else .initiated
  else if (x 3).fault ≠ none then
    if (x 4).fault = none then .failed else .processing
  else if (x 3).response.success then
    if (x 5).fault = none then .succeeded
    else if (x 6).fault = none then .failed else .processing
  else
    if (x 4).fault = none then .failed
    else if (x 5).fault = none then .failed else .processing

/-- How the charge of a call ended, after its insert. -/
def finalCharges (x : Nat → Choice) : List Bool :=
  if (x 2).fault ≠ none then []
  else if (x 3).fault ≠ none then [false] else [(x 3).response.success]

/-- Charging a new payment from position 2 on. -/
theorem charge_ends (dto : InitiatePaymentRequest) {p : Payment} (stored : Stored p s)
    (fresh : p.status = .initiated) (quiet : chargeResults log = []) :
    Ends p.idempotencyKey (finalStatus x) (finalCharges x)
      ((do tryCatch (chargePayment dto) failPayment; entity : Code sig Payment Payment).exec
        (answering x) 2 p (s, log)).state := by
  have settled : ∀ (c : Code sig Payment Unit) n (q : Payment) (t : Db × List (Done sig)),
      ((do c; entity : Code sig Payment Payment).exec (answering x) n q t).state =
        (c.exec (answering x) n q t).state := by
    intro c n q t
    rw [Code.exec_bind]
    rcases c.exec (answering x) n q t with ⟨r, q', n', t'⟩
    cases r <;> rfl
  rw [settled, Code.exec_tryCatch]
  unfold chargePayment
  simp only [Code.exec_bind, Code.exec_assign, Code.exec_await, Code.exec_entity, answering_apply]
  cases h₂ : (x 2).fault with
  | some e =>
    simp only [exec_of_fault (o := .save _) rfl h₂]
    apply failPayment_ends e 3 stored rfl rfl
    · simp [finalStatus, h₂, fresh]
    · rw [chargeResults_cons rfl, quiet]
      simp [finalCharges, h₂]
  | none =>
    have processing := stored.save (q := { p with status := .processing }) rfl rfl
    simp only [exec_of_none h₂, perform]
    cases h₃ : (x 3).fault with
    | some e =>
      simp only [exec_of_fault (o := .charge _ _) rfl h₃]
      apply failPayment_ends (p := { p with status := .processing }) e 4 processing
      · rfl
      · rfl
      · simp [finalStatus, h₂, h₃]
      · rw [chargeResults_cons_of rfl, chargeResults_cons rfl, quiet]
        simp [finalCharges, h₂, h₃]
    | none =>
      simp only [exec_of_none h₃, perform]
      have ended : chargeResults (
          ⟨.charge p.provider ⟨dto.amount, dto.currency, dto.cardToken, dto.idempotencyKey⟩,
            .ok (x 3).response⟩ :: ⟨.save { p with status := .processing }, .ok ()⟩ :: log) =
          finalCharges x := by
        rw [chargeResults_cons_of rfl, chargeResults_cons rfl, quiet]
        simp [finalCharges, h₂, h₃]
      cases hr : (x 3).response.success with
      | true =>
        simp only [if_true, Code.exec_bind, Code.exec_assign, Code.exec_await, Code.exec_entity,
          answering_apply, exec_now]
        cases h₅ : (x 5).fault with
        | some e =>
          simp only [exec_of_fault (o := .save _) rfl h₅]
          apply failPayment_ends (p := { p with status := .processing }) e 6 processing
          · rfl
          · rfl
          · simp [finalStatus, h₂, h₃, h₅, hr]
          · rw [chargeResults_cons rfl, chargeResults_cons rfl]
            exact ended
        | none =>
          simp only [exec_of_none h₅, perform, exec_emit]
          refine ⟨_, processing.save rfl rfl, rfl, ?_, ?_⟩
          · simp [finalStatus, h₂, h₃, h₅, hr]
          · rw [chargeResults_cons rfl, chargeResults_cons rfl, chargeResults_cons rfl]
            exact ended
      | false =>
        simp only [Bool.false_eq_true, if_false, Code.exec_bind, Code.exec_assign, Code.exec_await,
          Code.exec_entity, answering_apply]
        cases h₄ : (x 4).fault with
        | some e =>
          simp only [exec_of_fault (o := .save _) rfl h₄]
          apply failPayment_ends (p := { p with status := .processing }) e 5 processing
          · rfl
          · rfl
          · simp [finalStatus, h₂, h₃, h₄, hr]
          · rw [chargeResults_cons rfl]
            exact ended
        | none =>
          simp only [exec_of_none h₄, perform, exec_emit]
          refine ⟨_, processing.save rfl rfl, rfl, ?_, ?_⟩
          · simp [finalStatus, h₂, h₃, h₄, hr]
          · rw [chargeResults_cons rfl, chargeResults_cons rfl]
            exact ended

/-! ### The whole call -/

/-- The lookup of a gateway returns a name or throws. -/
theorem selectGateway_cases (defaultProvider provider : String) :
    SelectsGateway defaultProvider provider ∨
      ∃ e, (selectGateway defaultProvider provider : Code sig Unit String) = throw e := by
  have known : ∀ name, (∃ gateway, (getByProvider name : Code sig Unit String) = pure gateway) ∨
      ∃ e, (getByProvider name : Code sig Unit String) = throw e := by
    intro name
    unfold getByProvider
    split
    · exact .inl ⟨_, rfl⟩
    · split
      · exact .inl ⟨_, rfl⟩
      · exact .inr ⟨_, rfl⟩
  unfold SelectsGateway selectGateway
  split
  · exact known _
  · exact known _

/-- A lookup that throws selects no gateway. -/
theorem not_selectsGateway {defaultProvider provider : String} {e : Exception}
    (h : (selectGateway defaultProvider provider : Code sig Unit String) = throw e) :
    ¬ SelectsGateway defaultProvider provider := by
  rintro ⟨gateway, hg⟩
  rw [hg] at h
  have result := congrArg (fun c : Code sig Unit String ↦
    (c.exec (answering fun _ ↦ {}) 0 () (Db.empty, [])).result) h
  cases result

/-- The stored result says the truth unless the save of a success fails and the save of the failure
does not. -/
theorem finalStatus_truth (x : Nat → Choice) :
    ((true ∈ finalCharges x → finalStatus x ≠ .failed) ∧
        (false ∈ finalCharges x → finalStatus x ≠ .succeeded)) ↔
      ¬ ((x 2).fault = none ∧ (x 3).fault = none ∧ (x 3).response.success = true ∧
        (x 5).fault ≠ none ∧ (x 6).fault = none) := by
  unfold finalCharges finalStatus
  by_cases h₂ : (x 2).fault = none <;> by_cases h₃ : (x 3).fault = none <;>
    simp only [h₂, h₃, ne_eq, not_true_eq_false, not_false_eq_true, if_true, if_false]
  · cases hr : (x 3).response.success <;> by_cases h₅ : (x 5).fault = none <;>
      by_cases h₆ : (x 6).fault = none <;> by_cases h₄ : (x 4).fault = none <;>
      simp [h₄, h₅, h₆]
  · by_cases h₄ : (x 4).fault = none <;> simp [h₄]
  · simp
  · simp

/-- The payment of a call with a new key tells the truth about its charge exactly when the charge is
not lost. -/
theorem payment_truthful_iff (x : Nat → Choice) (defaultProvider : String)
    (dto : InitiatePaymentRequest) {s : Db} (hid : ∀ p ∈ s.payments.rows, p.id ≠ s.nextId)
    (hkey : ∀ p ∈ s.payments.rows, p.idempotencyKey ≠ dto.idempotencyKey) :
    RowTruthful dto.idempotencyKey
        ((initiatePayment defaultProvider dto).exec (answering x) 0 () (s, [])).state ↔
      ¬ LosesCharge x defaultProvider dto.provider := by
  have absent : s.payment? (fun p ↦ p.idempotencyKey = dto.idempotencyKey) = none := by
    apply List.find?_eq_none.mpr
    intro p hp
    simpa using hkey p hp
  have unused : (s.payments.rows.any fun q ↦ q.idempotencyKey = dto.idempotencyKey) = false := by
    simpa using hkey
  -- a call that ends early stores no payment
  have early : ∀ {log : List (Done sig)}, ¬ LosesCharge x defaultProvider dto.provider →
      (RowTruthful dto.idempotencyKey (s, log) ↔ ¬ LosesCharge x defaultProvider dto.provider) := by
    intro log lost
    refine iff_of_true ?_ lost
    intro p hp hk
    exact absurd hk (hkey p hp)
  unfold initiatePayment
  simp only [Code.exec_bind, Code.exec_await, answering_apply]
  cases h₀ : (x 0).fault with
  | some e =>
    rw [exec_of_fault rfl h₀]
    apply early
    rintro ⟨-, faults, -⟩
    rw [faults 0 (by decide)] at h₀
    cases h₀
  | none =>
    simp only [exec_of_none h₀, perform, absent]
    rcases selectGateway_cases defaultProvider dto.provider with selected | ⟨e, he⟩
    · obtain ⟨gateway, hg⟩ := selected
      simp only [hg, Code.exec_bind, Code.exec_pure, Code.exec_await, answering_apply]
      cases h₁ : (x 1).fault with
      | some e =>
        simp only [exec_of_fault (o := .insert _) rfl h₁]
        apply early
        rintro ⟨-, faults, -⟩
        rw [faults 1 (by decide)] at h₁
        cases h₁
      | none =>
        simp only [exec_of_none h₁, perform, unused, Bool.false_eq_true, if_false, Code.exec_on]
        have inserted : ∀ p : Payment, p.id = s.nextId → p.idempotencyKey = dto.idempotencyKey →
            Stored p { s with payments := s.payments.put p, nextId := s.nextId + 1 } := by
          intro p hp hk
          apply Stored.insert
          · exact fun q hq ↦ hp ▸ hid q hq
          · exact fun q hq ↦ hk ▸ hkey q hq
        refine (charge_ends (x := x) dto (inserted _ rfl rfl) rfl rfl).truth.trans ?_
        rw [finalStatus_truth]
        have selected : SelectsGateway defaultProvider dto.provider := ⟨gateway, hg⟩
        simp [LosesCharge, selected, h₀, h₁, and_assoc]
    · simp only [he, Code.exec_bind, Code.exec_throw]
      apply early
      exact fun lost ↦ not_selectsGateway he lost.1

/-- A request to charge a card. -/
def cardRequest : InitiatePaymentRequest := ⟨0, "k", 1000, "TRY", .creditCard, "card", ""⟩

/-- The charge succeeds; `saved` decides how the save of the success ends. -/
def charging (saved : Option Exception) : Nat → Choice
  | 5 => { fault := saved }
  | _ => {}

/-- The payment of the request, by a service without payments. -/
def chargedCard (saved : Option Exception) :
    Async.Outcome sig Unit Payment (Db × List (Done sig)) :=
  (initiatePayment "stripe" cardRequest).exec (answering (charging saved)) 0 () (Db.empty, [])

/-- When every save succeeds the charge is not lost. -/
theorem payment_truthful_iff_saved :
    RowTruthful cardRequest.idempotencyKey (chargedCard none).state ↔
      ¬ LosesCharge (charging none) "stripe" cardRequest.provider :=
  payment_truthful_iff (charging none) "stripe" cardRequest (s := Db.empty)
    (fun _ h ↦ absurd h List.not_mem_nil) fun _ h ↦ absurd h List.not_mem_nil

/-- The save of the success fails: the payment that was charged is stored as `FAILED`. -/
theorem charged_payment_failed :
    ¬ ∀ (x : Nat → Choice) (defaultProvider : String) (dto : InitiatePaymentRequest) (s : Db),
      (∀ p ∈ s.payments.rows, p.id ≠ s.nextId) →
      (∀ p ∈ s.payments.rows, p.idempotencyKey ≠ dto.idempotencyKey) →
      RowTruthful dto.idempotencyKey
        ((initiatePayment defaultProvider dto).exec (answering x) 0 () (s, [])).state := by
  intro all
  have played : (chargedCard (some (.failure "timeout"))).state.1.payments.rows.any fun p ↦
      p.idempotencyKey = cardRequest.idempotencyKey && p.status = .failed &&
        (chargeResults (chargedCard (some (.failure "timeout"))).state.2).contains true := by
    decide +kernel
  simp only [List.any_eq_true, Bool.and_eq_true, decide_eq_true_eq, List.contains_iff_mem] at played
  obtain ⟨p, hp, ⟨hk, failed⟩, success⟩ := played
  have truthful := all (charging (some (.failure "timeout"))) "stripe" cardRequest Db.empty
    (fun _ h ↦ absurd h List.not_mem_nil) (fun _ h ↦ absurd h List.not_mem_nil) p hp hk
  exact truthful.1 success failed

end Ticketing.PaymentService
