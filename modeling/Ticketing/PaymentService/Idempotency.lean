import Ticketing.Async.Play
import Ticketing.Async.Translation
import Ticketing.PaymentService.Service

/-!
# The idempotency interceptor

Library `PaymentService`. Follows `payment/idempotency/idempotency.interceptor.ts` in front of
`PaymentController.initiate`. Redis commands and the operations of the handler interleave at every
`await`. The `SET NX` that claims a key succeeds for one request; only that request calls the
handler.
-/

namespace Ticketing.PaymentService.Idempotency

open Async Store

/-- The JSON text that is stored under a key. -/
inductive Cached where
  | processing
  | completed (response : Payment)
  deriving DecidableEq, Repr

/-- Redis, and the payment database. -/
structure State where
  redis : Table (Prod.fst : String × Cached → String)
  db : Db

/-- What a request awaits: Redis commands, the operations of the handler, and two that only say
that the handler is called and how it has ended. -/
inductive Op where
  | get (cacheKey : String)
  | setNX (cacheKey : String)
  | set (cacheKey : String) (value : Cached)
  | handle (idempotencyKey : String)
  | handled (idempotencyKey : String) (result : Except Exception Payment)
  | inner (op : PaymentService.Op)

/-- The replies. -/
abbrev Res : Op → Type
  | .get _ => Option Cached
  | .setNX _ => Bool
  | .set _ _ | .handle _ | .handled _ _ => Unit
  | .inner o => PaymentService.Res o

/-- The operations of the route. -/
abbrev sig : Sig := ⟨Op, Res, Exception⟩

/-- A Redis command. -/
def Op.redis : Op → Bool
  | .get _ | .setNX _ | .set _ _ => true
  | _ => false

/-- The stored value of a key. -/
def State.cached (s : State) (cacheKey : String) : Option Cached :=
  (s.redis.find cacheKey).map Prod.snd

/-- The effect of an operation that does not fail. -/
def perform (x : Choice) : (o : Op) → State → sig.Answer o × State
  | .get k, s => (.ok (s.cached k), s)
  | .setNX k, s =>
    if (s.cached k).isSome then (.ok false, s)
    else (.ok true, { s with redis := s.redis.put (k, .processing) })
  | .set k value, s => (.ok (), { s with redis := s.redis.put (k, value) })
  | .handle _, s | .handled _ _, s => (.ok (), s)
  | .inner o, s => ((exec x o s.db).1, { s with db := (exec x o s.db).2 })

/-- One awaited operation: a Redis command fails without effect, or has its effect. -/
def step (x : Choice) (o : Op) (s : State) : sig.Answer o × State :=
  match o.redis, x.fault with
  | true, some e => (.error e, s)
  | _, _ => perform x o s

/-- A request to `POST /payments`; the header is empty when it is missing. -/
structure HttpRequest where
  idempotencyKey : String
  body : InitiatePaymentRequest
  deriving DecidableEq

/-- `idempotency:payment:${idempotencyKey}`. -/
def cacheKey (idempotencyKey : String) : String := "idempotency:payment:" ++ idempotencyKey

/-- Await one operation. -/
abbrev await {L : Type} (o : Op) : Code sig L (Res o) := Code.await (S := sig) o

/-- The code of the payment service, as a part of a request. -/
def within {α : Type} (c : Code PaymentService.sig Unit α) : Code sig Unit α := fun l ↦
  (c l).translate fun o ↦ .op (.inner o) .ret

/-- `next.handle()`: the handler `PaymentController.initiate`. -/
def nextHandle (defaultProvider : String) (request : HttpRequest) : Code sig Unit Payment := do
  await (.handle request.idempotencyKey)
  let response ← tryCatch (within (initiatePayment defaultProvider request.body)) fun error ↦ do
    await (.handled request.idempotencyKey (.error error))
    throw error
  await (.handled request.idempotencyKey (.ok response))
  pure response

/-- `IdempotencyInterceptor.intercept` (`idempotency.interceptor.ts:23–78`). The request is answered
without waiting for the last `SET`, whose failure nobody sees. -/
def intercept (defaultProvider : String) (request : HttpRequest) : Code sig Unit Payment :=
  if request.idempotencyKey = "" then nextHandle defaultProvider request
  else do
    match ← await (.get (cacheKey request.idempotencyKey)) with
    | some .processing => throw (.conflict "Payment already in progress")
    | some (.completed response) => pure response
    | none =>
      if ← await (.setNX (cacheKey request.idempotencyKey)) then
        let response ← nextHandle defaultProvider request
        tryCatch (await (.set (cacheKey request.idempotencyKey) (.completed response)))
          fun _ ↦ pure ()
        pure response
      else
        throw (.conflict "Request with this idempotency key is already being processed")

/-- The route, with its requests. -/
abbrev route (defaultProvider : String) : Service where
  toSig := sig
  State := State
  Choice := Choice
  exec := step
  Job := HttpRequest
  Reply := Payment
  code request := (intercept defaultProvider request).prog

/-- Nothing is stored in Redis. -/
def Vacant (s : State) : Prop := s.redis = .empty

variable {provider : String}

/-- A Redis command has failed. -/
def redisFails : Event (route provider) → Bool
  | ⟨_, _, .get _, .error _⟩ | ⟨_, _, .setNX _, .error _⟩ | ⟨_, _, .set _ _, .error _⟩ => true
  | _ => false

/-- The runs in which Redis calls succeed. -/
def redisSucceeds (provider : String) : Regime (route provider) where
  may _ ev := redisFails ev = false
  excl _ _ := False

instance (c : Conf (route provider)) (ev : Event (route provider)) :
    Decidable ((redisSucceeds provider).may c ev) :=
  inferInstanceAs (Decidable (_ = false))

instance (i j : HttpRequest) : Decidable ((redisSucceeds provider).excl i j) :=
  inferInstanceAs (Decidable False)

/-- The event calls the handler for the key. -/
def calls (key : String) (ev : Event (route provider)) : Bool :=
  match ev.op with
  | .handle k => k = key
  | _ => false

/-- The handler that thread `t` called for the key has ended with the result. -/
def Handled (log : List (Event (route provider))) (t : Nat) (key : String)
    (r : Except Exception Payment) : Prop :=
  ∃ ev ∈ log, ev.tid = t ∧ ev.op = .handled key r

/-- The handler is called at most once for a key. A request that has ended with the key gives the
result of the handler that it called, the stored response of a handler, or a `ConflictException`. -/
structure ExecutedOnce (p : Pool (route provider)) (key : String) : Prop where
  once : p.conf.log.countP (calls key) ≤ 1
  ends : ∀ t body r, p.At t ⟨key, body⟩ (.ret r) →
    Handled p.conf.log t key r ∨
      (∃ u response, Handled p.conf.log u key (.ok response) ∧ r = .ok response) ∨
      ∃ message, r = .error (.conflict message)

/-! ### What a request has learned -/

/-- How far a request has come. -/
inductive Phase where
  | looking
  | missed (cacheKey : String)
  | claimed (cacheKey : String)
  | found (cacheKey : String) (response : Payment)
  | refused
  | running
  | handled (idempotencyKey : String) (result : Except Exception Payment)
  | broken

namespace Phase

/-- The phase after an operation. -/
def next : Phase → (o : Op) → sig.Answer o → Phase
  | _, .get k, .ok none => .missed k
  | _, .get _, .ok (some .processing) => .refused
  | _, .get k, .ok (some (.completed response)) => .found k response
  | _, .setNX k, .ok true => .claimed k
  | _, .setNX _, .ok false => .refused
  | _, .get _, .error _ | _, .setNX _, .error _ => .broken
  | _, .handle _, _ => .running
  | _, .handled k r, _ => .handled k r
  | s, _, _ => s

/-- A request looks its key up, claims it, calls the handler and stores the response, in this
order. -/
def may (request : HttpRequest) : Phase → Op → Prop
  | s, .get k => s = .looking ∧ request.idempotencyKey ≠ "" ∧ k = cacheKey request.idempotencyKey
  | s, .setNX k => s = .missed k ∧ k = cacheKey request.idempotencyKey
  | s, .handle key => key = request.idempotencyKey ∧
    (key ≠ "" → s = .claimed (cacheKey key)) ∧ (key = "" → s = .looking)
  | s, .handled key _ => key = request.idempotencyKey ∧ s = .running
  | s, .set k value => k = cacheKey request.idempotencyKey ∧
    ∃ response, s = .handled request.idempotencyKey (.ok response) ∧ value = .completed response
  | s, .inner _ => s = .running

/-- The phase says nothing about a response. -/
def silent : Phase → Bool
  | .found _ _ | .handled _ _ | .broken => false
  | _ => true

end Phase

/-- Each request goes through its phases. -/
def phases (provider : String) : Monitor (route provider) Phase where
  init := .looking
  next := Phase.next
  may := Phase.may

/-- A part of a request awaits the operations of the payment service. -/
theorem within_awaits {α : Type} {P : Op → Prop} (hP : ∀ o, P (.inner o))
    (c : Code PaymentService.sig Unit α) : (within c).Awaits P := by
  have all : ∀ q : Prog PaymentService.sig (Except Exception α × Unit),
      (q.translate fun o ↦ (.op (.inner o) .ret : Prog sig _)).All P := by
    intro q
    induction q with
    | ret a => trivial
    | op o k ih => exact ⟨hP o, ih⟩
  exact fun l ↦ all (c l)

/-- Operations that are no Redis commands have their effect. -/
theorem step_of_quiet {o : Op} (ho : o.redis = false) (x : Choice) (s : State) :
    step x o s = perform x o s := by
  unfold step
  rw [ho]

/-- An operation that only tells something about the handler leads to the phase that it tells. -/
theorem told_phases {request : HttpRequest} {o : Op} {s₀ s₁ : Phase}
    {E : Exception → Unit → Phase → Prop} (hmay : Phase.may request s₀ o)
    (hnext : ∀ a, Phase.next s₀ o a = s₁) (hok : ∀ x s e, (step x o s).1 ≠ .error e) :
    (phases provider).Holds request (fun _ s ↦ s = s₀) (await o) (fun _ _ s ↦ s = s₁) E := by
  apply Monitor.Holds.await
  · rintro l s rfl
    exact hmay
  · rintro a l s - rfl
    exact hnext _
  · rintro e l s ⟨x, s', hr⟩ -
    exact absurd hr (hok x s' e)

/-- The handler is called and ends. -/
theorem nextHandle_phases {request : HttpRequest} {s₀ : Phase}
    (h₀ : Phase.may request s₀ (.handle request.idempotencyKey)) :
    (phases provider).Holds request (fun _ s ↦ s = s₀) (nextHandle provider request)
      (fun response _ s ↦ s = .handled request.idempotencyKey (.ok response))
      fun e _ s ↦ s = .handled request.idempotencyKey (.error e) := by
  have ended : ∀ result, (phases provider).Holds request (fun _ s ↦ s = .running)
      (await (.handled request.idempotencyKey result) : Code sig Unit Unit)
      (fun _ _ s ↦ s = .handled request.idempotencyKey result)
      fun e _ s ↦ s = .handled request.idempotencyKey (.error e) := by
    intro result
    have may : Phase.may request .running (.handled request.idempotencyKey result) := ⟨rfl, rfl⟩
    apply told_phases may fun _ ↦ rfl
    intro x s e h
    rw [step_of_quiet rfl] at h
    cases h
  apply Monitor.Holds.bind (I := fun _ _ s ↦ s = .running)
  · apply told_phases h₀ fun _ ↦ rfl
    intro x s e h
    rw [step_of_quiet rfl] at h
    cases h
  intro _
  apply Monitor.Holds.bind (I := fun _ _ s ↦ s = .running)
  · have stays : (phases provider).Keeps request (fun (_ : Unit) s ↦ s = Phase.running)
        (within (initiatePayment provider request.body)) := by
      apply Monitor.Holds.stays
      exact within_awaits (fun _ ↦ ⟨rfl, fun _ ↦ rfl⟩) _
    apply Monitor.Holds.tryCatch stays
    intro e
    apply Monitor.Holds.bind (ended (.error e))
    exact fun _ ↦ Monitor.Holds.raise _ fun _ _ hs ↦ hs
  intro response
  apply Monitor.Holds.bind (ended (.ok response))
  exact fun _ ↦ Monitor.Holds.ret _ fun _ _ hs ↦ hs

/-- What a request that has ended with a key has come to. -/
def Ended (key : String) (r : Except Exception Payment) (s : Phase) : Prop :=
  s = .handled key r ∨ (∃ response, s = .found (cacheKey key) response ∧ r = .ok response) ∨
    (∃ message, r = .error (.conflict message)) ∨ s = .broken

/-- Every request goes through the phases of the interceptor. -/
theorem request_phases (request : HttpRequest) :
    (phases provider).Obeys request ((route provider).code request)
      (fun r s ↦ Ended request.idempotencyKey r s) .looking := by
  have holds : (phases provider).Holds request (fun (_ : Unit) s ↦ s = Phase.looking)
      (intercept provider request)
      (fun response _ s ↦ Ended request.idempotencyKey (.ok response) s)
      fun e _ s ↦ Ended request.idempotencyKey (.error e) s := by
    unfold intercept
    by_cases hkey : request.idempotencyKey = ""
    · rw [if_pos hkey]
      have called := @nextHandle_phases provider request .looking
        ⟨rfl, fun h ↦ absurd hkey h, fun _ ↦ rfl⟩
      exact called.post (fun _ _ _ h ↦ .inl h) fun _ _ _ h ↦ .inl h
    · rw [if_neg hkey]
      apply Monitor.Holds.bind (I := fun cached _ s ↦ match cached with
        | none => s = .missed (cacheKey request.idempotencyKey)
        | some .processing => s = .refused
        | some (.completed response) => s = .found (cacheKey request.idempotencyKey) response)
      · apply Monitor.Holds.await
        · exact fun _ _ hs ↦ ⟨hs, hkey, rfl⟩
        · rintro cached l s - rfl
          rcases cached with _ | _ | response <;> rfl
        · rintro e l s - rfl
          exact .inr (.inr (.inr rfl))
      intro cached
      rcases cached with _ | _ | response
      · apply Monitor.Holds.bind (I := fun claimed _ s ↦
          s = if claimed then .claimed (cacheKey request.idempotencyKey) else .refused)
        · apply Monitor.Holds.await
          · exact fun _ _ hs ↦ ⟨hs, rfl⟩
          · rintro claimed l s - rfl
            cases claimed <;> rfl
          · rintro e l s - rfl
            exact .inr (.inr (.inr rfl))
        intro claimed
        cases claimed with
        | false => exact Monitor.Holds.raise _ fun _ _ _ ↦ .inr (.inr (.inl ⟨_, rfl⟩))
        | true =>
          have called := @nextHandle_phases provider request
            (.claimed (cacheKey request.idempotencyKey))
            ⟨rfl, fun _ ↦ rfl, fun h ↦ absurd h hkey⟩
          apply Monitor.Holds.bind (called.post (fun _ _ _ h ↦ h) fun _ _ _ h ↦ .inl h)
          intro response
          apply Monitor.Holds.bind (I := fun _ _ s ↦
            s = .handled request.idempotencyKey (.ok response))
          · have stored : (phases provider).Holds request
                (fun (_ : Unit) s ↦ s = .handled request.idempotencyKey (.ok response))
                (await (.set (cacheKey request.idempotencyKey) (.completed response)))
                (fun _ _ s ↦ s = .handled request.idempotencyKey (.ok response))
                fun _ _ s ↦ s = .handled request.idempotencyKey (.ok response) := by
              apply Monitor.Holds.await
              · exact fun _ _ hs ↦ ⟨rfl, response, hs, rfl⟩
              · rintro a l s - rfl
                rfl
              · rintro e l s - rfl
                rfl
            exact Monitor.Holds.tryCatch stored fun _ ↦ Monitor.Holds.ret _ fun _ _ hs ↦ hs
          · exact fun _ ↦ Monitor.Holds.ret _ fun _ _ hs ↦ .inl hs
      · exact Monitor.Holds.raise _ fun _ _ _ ↦ .inr (.inr (.inl ⟨_, rfl⟩))
      · exact Monitor.Holds.ret _ fun _ _ hs ↦ .inr (.inl ⟨response, hs, rfl⟩)
  exact Monitor.obeys_prog.mpr (holds () .looking rfl)

/-! ### What the value of a key says -/

/-- The phase of a thread after a history. -/
abbrev reached (log : List (Event (route provider))) (t : Nat) : Phase :=
  (phases provider).state t log

/-- A key has a value from its claim on, and its handler is called after that, by the only thread
that has claimed it. -/
structure Owned (key : String) (c : Conf (route provider)) : Prop where
  fresh : c.state.cached (cacheKey key) = none →
    c.log.countP (calls key) = 0 ∧ ∀ t, reached c.log t ≠ .claimed (cacheKey key)
  lone : ∀ t u, reached c.log t = .claimed (cacheKey key) →
    reached c.log u = .claimed (cacheKey key) → t = u
  uncalled : ∀ t, reached c.log t = .claimed (cacheKey key) → c.log.countP (calls key) = 0
  once : c.log.countP (calls key) ≤ 1

/-- What is stored, and what a thread has been told, is what a handler has returned. -/
structure Told (key : String) (c : Conf (route provider)) : Prop where
  stored : ∀ response, c.state.cached (cacheKey key) = some (.completed response) →
    ∃ u, Handled c.log u key (.ok response)
  found : ∀ t response, reached c.log t = .found (cacheKey key) response →
    ∃ u, Handled c.log u key (.ok response)
  handled : ∀ t r, reached c.log t = .handled key r → Handled c.log t key r
  unbroken : ∀ t, reached c.log t ≠ .broken

/-- Different idempotency keys are stored under different keys. -/
theorem cacheKey_inj {k k' : String} (h : cacheKey k = cacheKey k') : k = k' :=
  (String.append_right_inj _).mp h

/-- A `SET` of a key changes the value of this key. -/
theorem cached_put (s : State) (k k' : String) (value : Cached) :
    State.cached { s with redis := s.redis.put (k', value) } k =
      if k' = k then some value else s.cached k := by
  unfold State.cached
  rw [Table.find_put]
  split
  · rfl
  · rfl

/-- A Redis command that succeeds has its effect. -/
theorem step_of_succeeds {x : Choice} {t : Nat} {j : HttpRequest} {o : Op} {s : State}
    (h : @redisFails provider ⟨t, j, o, (step x o s).1⟩ = false) :
    step x o s = perform x o s := by
  cases ho : o.redis with
  | false => exact step_of_quiet ho x s
  | true =>
    rcases hf : x.fault with _ | e
    · unfold step
      rw [ho, hf]
    · have failed : step x o s = (.error e, s) := by
        unfold step
        rw [ho, hf]
      rw [failed] at h
      cases o <;> cases ho <;> cases h

/-- A request that was handled stays so in a longer history. -/
theorem Handled.cons {log : List (Event (route provider))} {t : Nat} {key : String}
    {r : Except Exception Payment} (h : Handled log t key r) (ev : Event (route provider)) :
    Handled (ev :: log) t key r := by
  obtain ⟨e, he, hr⟩ := h
  exact ⟨e, List.mem_cons_of_mem _ he, hr⟩

section Steps

variable {key : String} {c : Conf (route provider)} {s' : State} {ev : Event (route provider)}

/-- The phase of a thread after one more operation. -/
theorem reached_cons (log : List (Event (route provider))) (u : Nat) :
    reached (ev :: log) u =
      if ev.tid = u then Phase.next (reached log u) ev.op ev.answer else reached log u := rfl

namespace Told

/-- A vacant store tells nothing of the key. -/
theorem start {s : State} (hs : Vacant s) :
    @Told provider key ⟨s, []⟩ where
  stored response h := by
    unfold State.cached at h
    rw [hs] at h
    cases h
  found _ _ h := by cases h
  handled _ _ h := by cases h
  unbroken _ h := by cases h

/-- An operation stores and tells what a handler has returned. -/
theorem after (h : Told key c)
    (stored : ∀ response, s'.cached (cacheKey key) = some (.completed response) →
      ∃ u, Handled c.log u key (.ok response))
    (found : ∀ response,
      Phase.next (reached c.log ev.tid) ev.op ev.answer = .found (cacheKey key) response →
        ∃ u, Handled c.log u key (.ok response))
    (handled : ∀ r, Phase.next (reached c.log ev.tid) ev.op ev.answer = .handled key r →
      Handled (ev :: c.log) ev.tid key r)
    (unbroken : Phase.next (reached c.log ev.tid) ev.op ev.answer ≠ .broken) :
    Told key ⟨s', ev :: c.log⟩ := by
  constructor
  · intro response hr
    obtain ⟨u, hu⟩ := stored response hr
    exact ⟨u, hu.cons ev⟩
  · intro u response hu
    rw [reached_cons] at hu
    split at hu
    · next he =>
      subst he
      obtain ⟨v, hv⟩ := found response hu
      exact ⟨v, hv.cons ev⟩
    · obtain ⟨v, hv⟩ := h.found u response hu
      exact ⟨v, hv.cons ev⟩
  · intro u r hu
    rw [reached_cons] at hu
    split at hu
    · next he =>
      subst he
      exact handled r hu
    · exact (h.handled u r hu).cons ev
  · intro u hu
    rw [reached_cons] at hu
    split at hu
    · next he =>
      subst he
      exact unbroken hu
    · exact h.unbroken u hu

/-- An operation that tells the thread nothing about a response. -/
theorem silent (h : Told key c)
    (stored : ∀ response, s'.cached (cacheKey key) = some (.completed response) →
      ∃ u, Handled c.log u key (.ok response))
    (hs : (Phase.next (reached c.log ev.tid) ev.op ev.answer).silent = true) :
    Told key ⟨s', ev :: c.log⟩ := by
  apply h.after stored
  · intro response he
    rw [he] at hs
    cases hs
  · intro r he
    rw [he] at hs
    cases hs
  · intro he
    rw [he] at hs
    cases hs

end Told

namespace Owned

/-- No thread owns the key at the start. -/
theorem start (s : State) : @Owned provider key ⟨s, []⟩ where
  fresh _ := ⟨rfl, fun _ h ↦ by cases h⟩
  lone _ _ h := by cases h
  uncalled _ h := by cases h
  once := Nat.zero_le 1

/-- An operation that neither claims the key nor calls its handler. -/
theorem keep (h : Owned key c) (uncalled : calls key ev = false)
    (fresh : s'.cached (cacheKey key) = none → c.state.cached (cacheKey key) = none)
    (claimed : Phase.next (reached c.log ev.tid) ev.op ev.answer = .claimed (cacheKey key) →
      reached c.log ev.tid = .claimed (cacheKey key)) :
    Owned key ⟨s', ev :: c.log⟩ := by
  have count : (ev :: c.log).countP (calls key) = c.log.countP (calls key) :=
    List.countP_cons_of_neg (by rw [uncalled]; exact Bool.false_ne_true)
  have before : ∀ u, reached (ev :: c.log) u = .claimed (cacheKey key) →
      reached c.log u = .claimed (cacheKey key) := by
    intro u hu
    rw [reached_cons] at hu
    split at hu
    · next he =>
      subst he
      exact claimed hu
    · exact hu
  constructor
  · intro hn
    have old := h.fresh (fresh hn)
    exact ⟨count.trans old.1, fun u hu ↦ old.2 u (before u hu)⟩
  · exact fun u v hu hv ↦ h.lone u v (before u hu) (before v hv)
  · exact fun u hu ↦ count.trans (h.uncalled u (before u hu))
  · show (ev :: c.log).countP (calls key) ≤ 1
    rw [count]
    exact h.once

/-- The thread that finds no value claims the key. -/
theorem claim (h : Owned key c) (uncalled : calls key ev = false)
    (hn : c.state.cached (cacheKey key) = none) (hs : s'.cached (cacheKey key) ≠ none) :
    Owned key ⟨s', ev :: c.log⟩ := by
  obtain ⟨zero, unclaimed⟩ := h.fresh hn
  have count : (ev :: c.log).countP (calls key) = 0 := by
    rw [List.countP_cons_of_neg (by rw [uncalled]; exact Bool.false_ne_true), zero]
  have sole : ∀ u, reached (ev :: c.log) u = .claimed (cacheKey key) → ev.tid = u := by
    intro u hu
    by_contra hne
    rw [reached_cons, if_neg hne] at hu
    exact unclaimed u hu
  constructor
  · exact fun hn' ↦ absurd hn' hs
  · intro u v hu hv
    rw [← sole u hu, ← sole v hv]
  · exact fun _ _ ↦ count
  · show (ev :: c.log).countP (calls key) ≤ 1
    omega

/-- The thread that has claimed the key calls the handler. -/
theorem call (h : Owned key c) (ht : reached c.log ev.tid = .claimed (cacheKey key))
    (hs : s'.cached (cacheKey key) = c.state.cached (cacheKey key))
    (running : Phase.next (reached c.log ev.tid) ev.op ev.answer ≠ .claimed (cacheKey key)) :
    Owned key ⟨s', ev :: c.log⟩ := by
  have unclaimed : ∀ u, reached (ev :: c.log) u ≠ .claimed (cacheKey key) := by
    intro u hu
    rw [reached_cons] at hu
    split at hu
    · next he =>
      subst he
      exact running hu
    · next hne => exact hne (h.lone _ u ht hu)
  constructor
  · intro hn
    exact absurd ht ((h.fresh (hs ▸ hn)).2 ev.tid)
  · exact fun u _ hu ↦ absurd hu (unclaimed u)
  · exact fun u hu ↦ absurd hu (unclaimed u)
  · have zero := h.uncalled ev.tid ht
    show (ev :: c.log).countP (calls key) ≤ 1
    rw [List.countP_cons, zero]
    split
    · exact Nat.le_refl 1
    · exact Nat.zero_le 1

end Owned

/-- The configuration after an operation that has its effect. -/
theorem after_of_step {x : Choice} {t : Nat} {j : HttpRequest} {o : Op} {r : sig.Answer o}
    (h : step x o c.state = (r, s')) : c.after t j x o = ⟨s', ⟨t, j, o, r⟩ :: c.log⟩ := by
  show (⟨(step x o c.state).2, ⟨t, j, o, (step x o c.state).1⟩ :: c.log⟩ : Conf _) = _
  rw [h]

/-- A lookup tells what is stored. -/
theorem get_step {x : Choice} {t : Nat} {j : HttpRequest} {k : String} (told : Told key c)
    (owned : Owned key c) (hstep : step x (.get k) c.state = perform x (.get k) c.state) :
    Told key (c.after t j x (.get k)) ∧ Owned key (c.after t j x (.get k)) := by
  rw [after_of_step hstep]
  rcases hc : c.state.cached k with _ | _ | response
  · exact ⟨told.silent told.stored rfl, owned.keep rfl id fun h ↦ by cases h⟩
  · exact ⟨told.silent told.stored rfl, owned.keep rfl id fun h ↦ by cases h⟩
  · constructor
    · apply told.after told.stored
      · intro response' h
        cases h
        exact told.stored response hc
      · exact fun r h ↦ by cases h
      · exact fun h ↦ by cases h
    · exact owned.keep rfl id fun h ↦ by cases h

/-- A claim succeeds when nothing is stored. -/
theorem setNX_step {x : Choice} {t : Nat} {j : HttpRequest} {k : String} (told : Told key c)
    (owned : Owned key c) (hstep : step x (.setNX k) c.state = perform x (.setNX k) c.state) :
    Told key (c.after t j x (.setNX k)) ∧ Owned key (c.after t j x (.setNX k)) := by
  by_cases hc : (c.state.cached k).isSome
  · have refused : step x (.setNX k) c.state = (.ok false, c.state) := by
      rw [hstep]
      exact if_pos hc
    rw [after_of_step refused]
    exact ⟨told.silent told.stored rfl, owned.keep rfl id fun h ↦ by cases h⟩
  · have put : step x (.setNX k) c.state =
        (.ok true, { c.state with redis := c.state.redis.put (k, .processing) }) := by
      rw [hstep]
      exact if_neg hc
    rw [after_of_step put]
    constructor
    · apply told.silent
      · intro response hr
        rw [cached_put] at hr
        split at hr
        · cases hr
        · exact told.stored response hr
      · rfl
    · by_cases hk : k = cacheKey key
      · subst hk
        apply owned.claim rfl
        · simpa using hc
        · rw [cached_put, if_pos rfl]
          exact Option.some_ne_none _
      · apply owned.keep rfl
        · intro hn
          rw [cached_put, if_neg hk] at hn
          exact hn
        · intro h
          cases h
          exact absurd rfl hk

/-- The response of the handler is stored. -/
theorem set_step {x : Choice} {t : Nat} {j : HttpRequest} {k : String} {value : Cached}
    (told : Told key c) (owned : Owned key c)
    (hm : Phase.may j (reached c.log t) (.set k value))
    (hstep : step x (.set k value) c.state = perform x (.set k value) c.state) :
    Told key (c.after t j x (.set k value)) ∧ Owned key (c.after t j x (.set k value)) := by
  obtain ⟨rfl, response, hs, rfl⟩ := hm
  rw [after_of_step hstep]
  constructor
  · apply told.after
    · intro response' hr
      rw [cached_put] at hr
      split at hr
      · next hk =>
        cases hr
        exact ⟨t, told.handled t _ (cacheKey_inj hk ▸ hs)⟩
      · exact told.stored response' hr
    · exact told.found t
    · exact fun r h ↦ (told.handled t r h).cons _
    · exact told.unbroken t
  · apply owned.keep rfl
    · intro hn
      rw [cached_put] at hn
      split at hn
      · cases hn
      · exact hn
    · exact id

/-- Calling the handler keeps what is told of the key. -/
theorem handle_step {x : Choice} {t : Nat} {j : HttpRequest} {k : String} (told : Told key c)
    (owned : Owned key c) (hkey : key ≠ "") (hm : Phase.may j (reached c.log t) (.handle k)) :
    Told key (c.after t j x (.handle k)) ∧ Owned key (c.after t j x (.handle k)) := by
  have hstep : step x (.handle k) c.state = (.ok (), c.state) := step_of_quiet rfl x c.state
  rw [after_of_step hstep]
  constructor
  · exact told.silent told.stored rfl
  · by_cases hk : k = key
    · subst hk
      exact owned.call (hm.2.1 hkey) rfl fun h ↦ by cases h
    · exact owned.keep (decide_eq_false hk) id fun h ↦ by cases h

/-- The end of the handler keeps what is told of the key. -/
theorem handled_step {x : Choice} {t : Nat} {j : HttpRequest} {k : String}
    {r : Except Exception Payment} (told : Told key c) (owned : Owned key c) :
    Told key (c.after t j x (.handled k r)) ∧ Owned key (c.after t j x (.handled k r)) := by
  have hstep : step x (.handled k r) c.state = (.ok (), c.state) := step_of_quiet rfl x c.state
  rw [after_of_step hstep]
  constructor
  · apply told.after told.stored
    · exact fun response h ↦ by cases h
    · intro r' h
      cases h
      exact ⟨_, List.mem_cons_self, rfl, rfl⟩
    · exact fun h ↦ by cases h
  · exact owned.keep rfl id fun h ↦ by cases h

/-- An operation of the handler keeps what is told of the key. -/
theorem inner_step {x : Choice} {t : Nat} {j : HttpRequest} {o : PaymentService.Op}
    (told : Told key c) (owned : Owned key c) (hm : Phase.may j (reached c.log t) (.inner o)) :
    Told key (c.after t j x (.inner o)) ∧ Owned key (c.after t j x (.inner o)) := by
  have running : reached c.log t = .running := hm
  have hstep : step x (.inner o) c.state = perform x (.inner o) c.state :=
    step_of_quiet rfl x c.state
  rw [after_of_step hstep]
  constructor
  · apply told.silent
    · exact told.stored
    · show (reached c.log t).silent = true
      rw [running]
      rfl
  · exact owned.keep rfl id id

/-- An operation that a request awaits in its phase. -/
theorem request_step {x : Choice} {t : Nat} {j : HttpRequest} {o : Op} (told : Told key c)
    (owned : Owned key c) (hkey : key ≠ "") (hm : Phase.may j (reached c.log t) o)
    (hr : @redisFails provider ⟨t, j, o, c.answer x o⟩ = false) :
    Told key (c.after t j x o) ∧ Owned key (c.after t j x o) := by
  have hstep : step x o c.state = perform x o c.state := step_of_succeeds hr
  cases o with
  | get k => exact get_step told owned hstep
  | setNX k => exact setNX_step told owned hstep
  | set k value => exact set_step told owned hm hstep
  | handle k => exact handle_step told owned hkey hm
  | handled k r => exact handled_step told owned
  | inner o => exact inner_step told owned hm

end Steps

/-- In every run in which Redis calls succeed, the handler is called at most once for a key, and a
request ends with the result of its handler, a stored response of a handler, or a conflict. -/
theorem executed_once {p : Pool (route provider)}
    (hp : Pool.Reach (redisSucceeds provider) Vacant p) {key : String} (hkey : key ≠ "") :
    ExecutedOnce p key := by
  have watched := Monitor.watches_of_reach request_phases hp
  have known : Told key p.conf ∧ Owned key p.conf := by
    clear watched
    induction hp with
    | start hs => exact ⟨.start hs, .start _⟩
    | spawn _ _ ih => exact ih
    | run hp ht hm ih =>
      have may := (Monitor.watches_of_reach request_phases hp).may ht
      exact request_step ih.1 ih.2 hkey may hm
  constructor
  · exact known.2.once
  · intro t body r ht
    rcases watched.ended ht with h | ⟨response, h, rfl⟩ | h | h
    · exact .inl (known.1.handled t r h)
    · obtain ⟨u, hu⟩ := known.1.found t response h
      exact .inr (.inl ⟨u, response, hu, rfl⟩)
    · exact .inr (.inr h)
    · exact absurd h (known.1.unbroken t)

/-- A request to charge a card once. -/
def onceRequest : HttpRequest := ⟨"k", 0, "k", 1000, "TRY", .creditCard, "card", ""⟩

/-- Two requests look their key up before one claims it; a third one comes after the response is
stored. -/
def threeRequests : List (Label (route "stripe")) :=
  [.spawn onceRequest, .spawn onceRequest, .run 0 {}, .run 1 {}, .run 0 {}, .run 1 {}] ++
    List.replicate 10 (.run 0 {}) ++ [.spawn onceRequest, .run 2 {}]

/-- The third request is answered with the payment of the first one. -/
theorem executed_once_three :
    ∃ p, Pool.play (redisSucceeds "stripe") threeRequests (.start ⟨.empty, Db.empty⟩) = some p ∧
      (∃ r, p.reply? 0 = some r ∧ p.reply? 2 = some r) ∧ ExecutedOnce p "k" := by
  have played : (Pool.play (redisSucceeds "stripe") threeRequests
      (.start ⟨.empty, Db.empty⟩)).any fun p ↦
        (p.reply? 0).any fun r ↦ p.reply? 2 = some r := by
    decide +kernel
  simp only [Option.any_eq_true, decide_eq_true_eq] at played
  obtain ⟨p, hp, r, hr, same⟩ := played
  have vacant : Vacant ⟨.empty, Db.empty⟩ := rfl
  exact ⟨p, hp, ⟨r, hr, same⟩, executed_once (Pool.reach_of_play vacant hp) (by decide)⟩

end Ticketing.PaymentService.Idempotency
