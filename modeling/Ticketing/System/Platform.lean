import Ticketing.BookingService.TransactionalOutbox
import Ticketing.PaymentService.Sound
import Ticketing.SeatInventory.Service

/-!
# The platform

Library `System`. The booking service with the two services it calls. A remote call starts a
thread of the called service; the reply is delivered once that thread has ended, and at any
time the call may fail instead, while the thread goes on. Users and cron jobs start the
other threads, so every interleaving of the three services is a run.
-/

namespace Ticketing.System

open Async Store

/-- The services that answer requests. -/
inductive Server where
  | payment
  | inventory
  deriving DecidableEq

/-- The service that answers a request. -/
def server : Request → Server
  | .initiatePayment _ | .refundPayment _ _ _ => .payment
  | _ => .inventory

/-- The jobs that users and the cron start, rather than the booking service. -/
def direct : SeatInventory.Job → Bool
  | .serve _ _ => false
  | _ => true

/-- The three services; `calls` maps a thread of the booking service to the thread that
serves its open call. -/
structure Platform (provider : String) where
  booking : Pool BookingService.service
  payment : Pool (PaymentService.service provider)
  inventory : Pool SeatInventory.service
  calls : Nat → Option Nat

/-- What happens at one step. -/
inductive Action (provider : String) where
  | arrive (job : BookingService.Job)
  | visit (job : SeatInventory.Job)
  | call (issuer : Option Id) (request : Request)
  | booking (ev : Event BookingService.service)
  | payment (ev : Event (PaymentService.service provider))
  | inventory (ev : Event SeatInventory.service)

/-- Which steps the runs under consideration may take. -/
structure Regime (provider : String) where
  may : Platform provider → Action provider → Prop
  /-- Jobs of the booking service that never run at the same time. -/
  excl : BookingService.Job → BookingService.Job → Prop

namespace Regime

/-- Every step is allowed. -/
def free (provider : String) : Regime provider := ⟨fun _ _ ↦ True, fun _ _ ↦ False⟩

/-- What a regime asks of the jobs of the booking service. -/
def jobs {provider : String} (G : Regime provider) : Async.Regime BookingService.service :=
  ⟨fun _ _ ↦ True, G.excl⟩

end Regime

namespace Platform

variable {provider : String}

/-- The platform before anything ran, with these seats. -/
def start (seats : Table SeatInventory.Seat.place) : Platform provider where
  booking := .start .empty
  payment := .start .empty
  inventory := .start (.stocked seats)
  calls _ := none

/-- The reply of a thread that serves a request. -/
def reply? (s : Platform provider) : Server → Nat → Option Reply
  | .payment, u => s.payment.reply? u
  | .inventory, u => s.inventory.reply? u

/-- Thread `t` may get the answer that the environment chose: any call may fail, a reply is
that of the thread that serves the call. -/
def Answers (s : Platform provider) (t : Nat) (x : Choice) : BookingService.Op → Prop
  | .rpc _ r => x.fault ≠ none ∨ ∃ u ∈ s.calls t, s.reply? (server r) u = some x.reply
  | _ => True

/-- The platform after thread `t` sent its request. -/
def send (s : Platform provider) (t : Nat) (i : Option Id) (r : Request) : Platform provider :=
  match server r with
  | .payment =>
    { s with payment := s.payment.spawn ⟨i, r⟩,
             calls := fun v ↦ if v = t then some s.payment.threads.length else s.calls v }
  | .inventory =>
    { s with inventory := s.inventory.spawn (.serve i r),
             calls := fun v ↦ if v = t then some s.inventory.threads.length else s.calls v }

/-- The platform after a thread of the booking service executed `o`; its call is over. -/
def proceed (s : Platform provider) (t : Nat) (j : BookingService.Job) (x : Choice)
    (o : BookingService.Op) (k : BookingService.sig.Answer o → BookingService.service.Program) :
    Platform provider :=
  { s with booking := s.booking.advance t j x o k,
           calls := fun v ↦ if v = t then none else s.calls v }

/-- One step of the platform. -/
inductive Step (G : Regime provider) : Platform provider → Platform provider → Prop where
  | arrive {s : Platform provider} {j : BookingService.Job}
      (hx : ∀ t i q, s.booking.At t i q → q.ended = false → ¬ G.excl i j ∧ ¬ G.excl j i)
      (hm : G.may s (.arrive j)) : Step G s { s with booking := s.booking.spawn j }
  | visit {s : Platform provider} {j : SeatInventory.Job} (hj : direct j = true)
      (hm : G.may s (.visit j)) : Step G s { s with inventory := s.inventory.spawn j }
  | call {s : Platform provider} {t : Nat} {j : BookingService.Job} {i : Option Id} {r : Request}
      {k : BookingService.sig.Answer (.rpc i r) → BookingService.service.Program}
      (ht : s.booking.At t j (.op (.rpc i r) k)) (hn : s.calls t = none)
      (hm : G.may s (.call i r)) : Step G s (s.send t i r)
  | booking {s : Platform provider} {t : Nat} {j : BookingService.Job} {x : Choice}
      {o : BookingService.Op}
      {k : BookingService.sig.Answer o → BookingService.service.Program}
      (ht : s.booking.At t j (.op o k)) (ha : s.Answers t x o)
      (hm : G.may s (.booking ⟨t, j, o, s.booking.conf.answer x o⟩)) :
      Step G s (s.proceed t j x o k)
  | payment {s : Platform provider} {t : Nat} {j : PaymentService.Job} {x : Choice}
      {o : PaymentService.Op}
      {k : PaymentService.sig.Answer o → (PaymentService.service provider).Program}
      (ht : s.payment.At t j (.op o k))
      (hm : G.may s (.payment ⟨t, j, o, s.payment.conf.answer x o⟩)) :
      Step G s { s with payment := s.payment.advance t j x o k }
  | inventory {s : Platform provider} {t : Nat} {j : SeatInventory.Job} {x : Choice}
      {o : SeatInventory.Op}
      {k : SeatInventory.sig.Answer o → SeatInventory.service.Program}
      (ht : s.inventory.At t j (.op o k))
      (hm : G.may s (.inventory ⟨t, j, o, s.inventory.conf.answer x o⟩)) :
      Step G s { s with inventory := s.inventory.advance t j x o k }

/-- The platforms that a run with these seats reaches. -/
abbrev Reach (G : Regime provider) (seats : Table SeatInventory.Seat.place) :
    Platform provider → Prop :=
  Relation.ReflTransGen (Step G) (start seats)

/-- The platforms that a run with these seats goes through, newest first. -/
inductive Run (G : Regime provider) (seats : Table SeatInventory.Seat.place) :
    List (Platform provider) → Prop where
  | start : Run G seats [start seats]
  | step {s s' : Platform provider} {before : List (Platform provider)}
      (h : Run G seats (s :: before)) (hs : Step G s s') : Run G seats (s' :: s :: before)

/-- A run reaches its last platform. -/
theorem Run.reach {G : Regime provider} {seats : Table SeatInventory.Seat.place}
    {s : Platform provider} {before : List (Platform provider)} (h : Run G seats (s :: before)) :
    Reach G seats s := by
  generalize hl : s :: before = run at h
  induction h generalizing s before with
  | start =>
    cases hl
    exact .refl
  | step _ hs ih =>
    cases hl
    exact (ih rfl).tail hs

/-- Every platform that is reached is the last one of a run. -/
theorem run_of_reach {G : Regime provider} {seats : Table SeatInventory.Seat.place}
    {s : Platform provider} (h : Reach G seats s) : ∃ before, Run G seats (s :: before) := by
  induction h with
  | refl => exact ⟨[], .start⟩
  | tail _ hs ih =>
    obtain ⟨before, hrun⟩ := ih
    exact ⟨_, hrun.step hs⟩

/-! ### Executing runs -/

/-- A step, by the thread that takes it. -/
inductive Label where
  | arrive (job : BookingService.Job)
  | visit (job : SeatInventory.Job)
  | call (t : Nat)
  | booking (t : Nat) (x : Choice)
  | payment (t : Nat) (x : Choice)
  | inventory (t : Nat) (x : Choice)

instance (s : Platform provider) (t : Nat) (x : Choice) :
    (o : BookingService.Op) → Decidable (s.Answers t x o)
  | .rpc _ r => inferInstanceAs
    (Decidable (x.fault ≠ none ∨ ∃ u ∈ s.calls t, s.reply? (server r) u = some x.reply))
  | .findBooking _ | .findStuckBookings | .saveBooking _ | .connect | .insertBooking _
  | .statement _ | .commit _ | .rollback | .findPendingEntries | .saveEntry _ | .findTickets _
  | .findBookingItems _ | .saveTickets _ | .cancelTickets _ | .toDataURL _ _ | .emit _ _ _
  | .enter | .leave | .now | .random => inferInstanceAs (Decidable True)

section Play

variable (G : Regime provider) [∀ s a, Decidable (G.may s a)] [∀ i j, Decidable (G.excl i j)]

instance (i j : BookingService.Job) : Decidable (G.jobs.excl i j) :=
  inferInstanceAs (Decidable (G.excl i j))

/-- The step that a label names, if the platform can take it and the regime allows it. -/
def take (s : Platform provider) : Label → Option (Platform provider)
  | .arrive j =>
    if s.booking.idle G.jobs j ∧ G.may s (.arrive j) then
      some { s with booking := s.booking.spawn j }
    else none
  | .visit j =>
    if direct j = true ∧ G.may s (.visit j) then
      some { s with inventory := s.inventory.spawn j }
    else none
  | .call t =>
    match s.booking.threads[t]? with
    | some (_, .op (.rpc i r) _) =>
      if s.calls t = none ∧ G.may s (.call i r) then some (s.send t i r) else none
    | _ => none
  | .booking t x =>
    match s.booking.threads[t]? with
    | some (j, .op o k) =>
      if s.Answers t x o ∧ G.may s (.booking ⟨t, j, o, s.booking.conf.answer x o⟩) then
        some (s.proceed t j x o k)
      else none
    | _ => none
  | .payment t x =>
    match s.payment.threads[t]? with
    | some (j, .op o k) =>
      if G.may s (.payment ⟨t, j, o, s.payment.conf.answer x o⟩) then
        some { s with payment := s.payment.advance t j x o k }
      else none
    | _ => none
  | .inventory t x =>
    match s.inventory.threads[t]? with
    | some (j, .op o k) =>
      if G.may s (.inventory ⟨t, j, o, s.inventory.conf.answer x o⟩) then
        some { s with inventory := s.inventory.advance t j x o k }
      else none
    | _ => none

/-- The platform after the steps that the labels name. -/
def walk : List Label → Platform provider → Option (Platform provider)
  | [], s => some s
  | l :: rest, s => (s.take G l).bind (walk rest)

/-- The next step towards the end of thread `t` of the booking service: a call is served at
once, and nothing fails. -/
def toward (s : Platform provider) (t : Nat) : Option Label :=
  match s.booking.threads[t]? with
  | some (_, .op (.rpc _ r) _) =>
    match s.calls t with
    | none => some (.call t)
    | some u =>
      match s.reply? (server r) u, server r with
      | some a, _ => some (.booking t { reply := a })
      | none, .payment => some (.payment u {})
      | none, .inventory => some (.inventory u {})
  | some (_, .op _ _) => some (.booking t {})
  | _ => none

/-- Take up to `n` steps towards the end of thread `t` of the booking service. -/
def finish : Nat → Nat → Platform provider → Option (Platform provider)
  | 0, _, s => some s
  | n + 1, t, s =>
    match s.toward t with
    | none => some s
    | some l => (s.take G l).bind (finish n t)

/-- Take up to `n` steps of thread `t` of the seat inventory. -/
def finishVisit (x : Choice) : Nat → Nat → Platform provider → Option (Platform provider)
  | 0, _, s => some s
  | n + 1, t, s =>
    if (s.inventory.reply? t).isSome then some s
    else (s.take G (.inventory t x)).bind (finishVisit x n t)

/-- A job that runs alone, from its start to its end. -/
inductive Alone where
  | job (j : BookingService.Job)
  | visit (j : SeatInventory.Job) (x : Choice)

/-- The platform after some jobs that ran one after the other. -/
def play : List Alone → Platform provider → Option (Platform provider)
  | [], s => some s
  | .job j :: rest, s =>
    ((s.take G (.arrive j)).bind (finish G 100 s.booking.threads.length)).bind (play rest)
  | .visit j x :: rest, s =>
    ((s.take G (.visit j)).bind (finishVisit G x 100 s.inventory.threads.length)).bind (play rest)

/-- A part of a run. -/
inductive Part where
  | alone (job : Alone)
  | step (l : Label)
  /-- Up to `n` steps towards the end of thread `t` of the booking service. -/
  | toward (n t : Nat)

/-- The platform after the parts of a run. -/
def stage : List Part → Platform provider → Option (Platform provider)
  | [], s => some s
  | .alone job :: rest, s => (play G [job] s).bind (stage rest)
  | .step l :: rest, s => (s.take G l).bind (stage rest)
  | .toward n t :: rest, s => (finish G n t s).bind (stage rest)

variable {G}

/-- A step that is taken is a step of a run. -/
theorem step_of_take {s s' : Platform provider} {l : Label} (h : s.take G l = some s') :
    Step G s s' := by
  cases l with
  | arrive j =>
    simp only [take] at h
    split at h
    · next hi =>
      cases h
      exact .arrive (Pool.apart_of_idle hi.1) hi.2
    · cases h
  | visit j =>
    simp only [take] at h
    split at h
    · next hi =>
      cases h
      exact .visit hi.1 hi.2
    · cases h
  | call t =>
    simp only [take] at h
    split at h
    · next ht =>
      split at h
      · next hi =>
        cases h
        exact .call ht hi.1 hi.2
      · cases h
    · cases h
  | booking t x =>
    simp only [take] at h
    split at h
    · next ht =>
      split at h
      · next hi =>
        cases h
        exact .booking ht hi.1 hi.2
      · cases h
    · cases h
  | payment t x =>
    simp only [take] at h
    split at h
    · next ht =>
      split at h
      · next hi =>
        cases h
        exact .payment ht hi
      · cases h
    · cases h
  | inventory t x =>
    simp only [take] at h
    split at h
    · next ht =>
      split at h
      · next hi =>
        cases h
        exact .inventory ht hi
      · cases h
    · cases h

/-- A run that can be walked is a run. -/
theorem later_of_walk {s s' : Platform provider} {labels : List Label}
    (h : walk G labels s = some s') : Relation.ReflTransGen (Step G) s s' := by
  induction labels generalizing s with
  | nil =>
    cases h
    exact .refl
  | cons l rest ih =>
    obtain ⟨s₁, h₁, h₂⟩ := Option.bind_eq_some_iff.mp h
    exact .head (step_of_take h₁) (ih h₂)

private theorem later_of_finish {s s' : Platform provider} {n t : Nat}
    (h : finish G n t s = some s') : Relation.ReflTransGen (Step G) s s' := by
  induction n generalizing s with
  | zero =>
    cases h
    exact .refl
  | succ n ih =>
    simp only [finish] at h
    split at h
    · cases h
      exact .refl
    · obtain ⟨s₁, h₁, h₂⟩ := Option.bind_eq_some_iff.mp h
      exact .head (step_of_take h₁) (ih h₂)

private theorem later_of_finishVisit {s s' : Platform provider} {x : Choice} {n t : Nat}
    (h : finishVisit G x n t s = some s') : Relation.ReflTransGen (Step G) s s' := by
  induction n generalizing s with
  | zero =>
    cases h
    exact .refl
  | succ n ih =>
    simp only [finishVisit] at h
    split at h
    · cases h
      exact .refl
    · obtain ⟨s₁, h₁, h₂⟩ := Option.bind_eq_some_iff.mp h
      exact .head (step_of_take h₁) (ih h₂)

/-- Playing jobs one after another is a run. -/
theorem later_of_play {s s' : Platform provider} {jobs : List Alone}
    (h : play G jobs s = some s') : Relation.ReflTransGen (Step G) s s' := by
  induction jobs generalizing s with
  | nil =>
    cases h
    exact .refl
  | cons job jobs ih =>
    cases job with
    | job j =>
      obtain ⟨s₂, h₂, hrest⟩ := Option.bind_eq_some_iff.mp h
      obtain ⟨s₁, h₁, hfinish⟩ := Option.bind_eq_some_iff.mp h₂
      exact .head (step_of_take h₁) ((later_of_finish hfinish).trans (ih hrest))
    | visit j x =>
      obtain ⟨s₂, h₂, hrest⟩ := Option.bind_eq_some_iff.mp h
      obtain ⟨s₁, h₁, hfinish⟩ := Option.bind_eq_some_iff.mp h₂
      exact .head (step_of_take h₁) ((later_of_finishVisit hfinish).trans (ih hrest))

/-- Staging parts of jobs is a run. -/
theorem later_of_stage {s s' : Platform provider} {parts : List Part}
    (h : stage G parts s = some s') : Relation.ReflTransGen (Step G) s s' := by
  induction parts generalizing s with
  | nil =>
    cases h
    exact .refl
  | cons part rest ih =>
    cases part with
    | alone job =>
      obtain ⟨s₁, h₁, h₂⟩ := Option.bind_eq_some_iff.mp h
      exact (later_of_play h₁).trans (ih h₂)
    | step l =>
      obtain ⟨s₁, h₁, h₂⟩ := Option.bind_eq_some_iff.mp h
      exact .head (step_of_take h₁) (ih h₂)
    | toward n t =>
      obtain ⟨s₁, h₁, h₂⟩ := Option.bind_eq_some_iff.mp h
      exact (later_of_finish h₁).trans (ih h₂)

end Play

instance (s : Platform provider) (a : Action provider) :
    Decidable ((Regime.free provider).may s a) :=
  inferInstanceAs (Decidable True)

instance (i j : BookingService.Job) : Decidable ((Regime.free provider).excl i j) :=
  inferInstanceAs (Decidable False)

/-! ### Sample runs -/

/-- A seat of event `"e"` for 100 TRY. -/
def sampleSeat (seatId : String) : SeatInventory.Seat where
  id := 0
  eventId := "e"
  seatId := seatId
  sectionId := "s"
  sectionName := "Floor"
  ticketTypeId := "t"
  ticketTypeName := "Standard"
  price := 10000
  currency := "TRY"
  row := "1"
  seatNumber := "1"
  seatType := "seat"
  status := .available

/-- The seats `"A"` and `"B"`. -/
def sampleSeats : Table SeatInventory.Seat.place :=
  (Table.empty.put (sampleSeat "A")).put (sampleSeat "B")

/-- User `"u"` holds a seat. -/
def holdSeat (seatId : String) : Alone := .visit (.holdSeats "e" [seatId] "u" "n") {}

/-- User `"u"` books a seat, with a payment key. -/
def book (seatId key : String) : Alone :=
  .job (.createBooking (BookingService.sampleDto seatId key))

/-- User `"u"` cancels a booking, with a refund key. -/
def cancel (b : Id) (key : String) : Alone := .job (.cancelBooking b "u" key none)

end Platform

end Ticketing.System
