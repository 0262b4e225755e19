import Ticketing.Async.Triples
import Ticketing.PaymentService.Idempotency

/-!
# Keys that are in progress

Library `PaymentService`. The idempotency interceptor with keys that expire in Redis. The marker
that a request sets when it claims its key is replaced when the response of its handler is stored;
where the handler throws, or that write fails, the marker stays and later requests are refused.
-/

namespace Ticketing.PaymentService.Idempotency

open Async Store

/-- Redis after some keys expired. -/
def State.expire (s : State) (cacheKeys : List String) : State :=
  { s with redis := s.redis.remove fun row ↦ cacheKeys.contains row.1 }

/-- The route in an environment where keys expire right before an operation. -/
abbrev expiringRoute (defaultProvider : String) : Service where
  toSig := sig
  State := State
  Choice := Choice × List String
  exec x o s := step x.1 o (s.expire x.2)
  Job := HttpRequest
  Reply := Payment
  code request := (intercept defaultProvider request).prog

variable {provider : String}

/-- The claim of a key succeeded. -/
def claims (ev : Event (expiringRoute provider)) : Bool :=
  match ev with
  | ⟨_, _, .setNX _, .ok true⟩ => true
  | _ => false

/-- A request with the key has claimed it and has not ended: its handler runs, or the write of its
response is pending. -/
def InProgress (p : Pool (expiringRoute provider)) (key : String) : Prop :=
  ∃ t body q, p.At t ⟨key, body⟩ q ∧ q.ended = false ∧
    ∃ ev ∈ p.conf.log, ev.tid = t ∧ claims ev = true

/-- Redis, the database and the gateway throw no `ConflictException` of their own. -/
def ConflictFree (x : Nat → Op → Choice × List String) : Prop :=
  ∀ n o message, (x n o).1.fault ≠ some (.conflict message)

/-- What a request leaves that is served from a state on its own. -/
abbrev served (provider : String) (x : Nat → Op → Choice × List String) (request : HttpRequest)
    (s : State) : Outcome sig Unit Payment State :=
  (intercept provider request).exec (fun n o s ↦ (expiringRoute provider).exec (x n o) o s) 0 () s

/-- A new request with the key may be rejected. -/
def Rejects (provider : String) (s : State) (key : String) : Prop :=
  ∃ body x message, ConflictFree x ∧
    (served provider x ⟨key, body⟩ s).result = .error (.conflict message)

/-- The key is in progress only while something is in progress. -/
def KeyUsable (p : Pool (expiringRoute provider)) (key : String) : Prop :=
  ¬ InProgress p key → ¬ Rejects provider p.conf.state key

/-- The handler of a request with a key threw, or its response was not stored. -/
def leavesMarker : Event (expiringRoute provider) → Bool
  | ⟨_, _, .handled key (.error _), _⟩ => key ≠ ""
  | ⟨_, _, .set _ _, .error _⟩ => true
  | _ => false

/-- The runs in which handlers of requests with keys return and their responses are stored. -/
def handlersReturn (provider : String) : Regime (expiringRoute provider) where
  may _ ev := leavesMarker ev = false
  excl _ _ := False

instance (c : Conf (expiringRoute provider)) (ev : Event (expiringRoute provider)) :
    Decidable ((handlersReturn provider).may c ev) :=
  inferInstanceAs (Decidable (_ = false))

instance (i j : HttpRequest) : Decidable ((handlersReturn provider).excl i j) :=
  inferInstanceAs (Decidable False)

/-! ### The claims of a request -/

/-- Whether the request holds a claim, after an operation. -/
def claimNext : Bool → (o : Op) → sig.Answer o → Bool
  | _, .setNX _, .ok true => true
  | _, .handled _ (.error _), _ | _, .set _ _, _ => false
  | held, _, _ => held

/-- A request claims its own key, and stores a response for it while it holds the claim. -/
def claimMay (request : HttpRequest) : Bool → Op → Prop
  | held, .setNX k =>
    held = false ∧ request.idempotencyKey ≠ "" ∧ k = cacheKey request.idempotencyKey
  | held, .set k value =>
    held = true ∧ k = cacheKey request.idempotencyKey ∧ ∃ response, value = .completed response
  | held, .handled key _ => key = request.idempotencyKey ∧ (held = true → key ≠ "")
  | _, _ => True

/-- Which requests hold a claim. -/
def claim (provider : String) : Monitor (expiringRoute provider) Bool where
  init := false
  next := claimNext
  may := claimMay

/-- What only tells something about the handler does not fail. -/
theorem told_succeeds {x : Choice × List String} {o : Op} {s : State} {e : Exception}
    (ho : o.redis = false) (hp : ∀ x s, (perform x o s).1 ≠ .error e) :
    ((expiringRoute provider).exec x o s).1 ≠ .error e := by
  show (step x.1 o (s.expire x.2)).1 ≠ .error e
  rw [step_of_quiet ho]
  exact hp _ _

/-- The handler is called; where it throws, the request gives its claim up. -/
theorem nextHandle_claim {request : HttpRequest} {held : Bool}
    (hkey : held = true → request.idempotencyKey ≠ "") :
    (claim provider).Holds request (fun _ s ↦ s = held) (nextHandle provider request)
      (fun _ _ s ↦ s = held) fun _ _ s ↦ s = false := by
  have told : ∀ (o : Op) (after : Bool), claimMay request held o →
      (∀ r, claimNext held o r = after) →
      (∀ x s e, ((expiringRoute provider).exec x o s).1 ≠ .error e) →
      (claim provider).Holds request (fun (_ : Unit) s ↦ s = held) (await o)
        (fun _ _ s ↦ s = after) fun _ _ s ↦ s = false := by
    intro o after may next succeeds
    apply Monitor.Holds.await
    · rintro l s rfl
      exact may
    · rintro a l s - rfl
      exact next _
    · rintro e l s ⟨x, s', hr⟩ -
      exact absurd hr (succeeds x s' e)
  apply Monitor.Holds.bind (I := fun _ _ s ↦ s = held)
  · apply told (.handle request.idempotencyKey) held trivial fun _ ↦ rfl
    exact fun x s e ↦ told_succeeds rfl fun _ _ h ↦ by cases h
  intro _
  apply Monitor.Holds.bind (I := fun _ _ s ↦ s = held)
  · have stays : (claim provider).Keeps request (fun (_ : Unit) s ↦ s = held)
        (within (initiatePayment provider request.body)) := by
      apply Monitor.Holds.stays
      exact within_awaits (fun _ ↦ ⟨trivial, fun _ ↦ rfl⟩) _
    apply Monitor.Holds.tryCatch stays
    intro e
    apply Monitor.Holds.bind (I := fun _ _ s ↦ s = false)
    · apply told (.handled request.idempotencyKey (.error e)) false ⟨rfl, hkey⟩ fun _ ↦ rfl
      exact fun x s e ↦ told_succeeds rfl fun _ _ h ↦ by cases h
    · exact fun _ ↦ Monitor.Holds.raise _ fun _ _ hs ↦ hs
  intro response
  apply Monitor.Holds.bind (I := fun _ _ s ↦ s = held)
  · apply told (.handled request.idempotencyKey (.ok response)) held ⟨rfl, hkey⟩ fun _ ↦ rfl
    exact fun x s e ↦ told_succeeds rfl fun _ _ h ↦ by cases h
  · exact fun _ ↦ Monitor.Holds.ret _ fun _ _ hs ↦ hs

/-- A request that has ended holds no claim. -/
theorem request_claim (request : HttpRequest) :
    (claim provider).Obeys request ((expiringRoute provider).code request)
      (fun _ s ↦ s = false) false := by
  suffices holds : (claim provider).Holds request (fun (_ : Unit) s ↦ s = false)
      (intercept provider request) (fun _ _ s ↦ s = false) fun _ _ s ↦ s = false by
    exact Monitor.obeys_prog.mpr (holds () false rfl)
  unfold intercept
  by_cases hkey : request.idempotencyKey = ""
  · rw [if_pos hkey]
    exact nextHandle_claim fun h ↦ by cases h
  rw [if_neg hkey]
  apply Monitor.Holds.bind (I := fun _ _ s ↦ s = false)
  · exact Monitor.Holds.await (fun _ _ _ ↦ trivial) (fun _ _ _ _ hs ↦ hs) fun _ _ _ _ hs ↦ hs
  intro cached
  rcases cached with _ | _ | response
  · apply Monitor.Holds.bind (I := fun claimed _ s ↦ s = claimed)
    · apply Monitor.Holds.await
      · exact fun _ _ hs ↦ ⟨hs, hkey, rfl⟩
      · rintro claimed l s - rfl
        cases claimed <;> rfl
      · rintro e l s - rfl
        rfl
    intro claimed
    cases claimed with
    | false => exact Monitor.Holds.raise _ fun _ _ hs ↦ hs
    | true =>
      apply Monitor.Holds.bind (nextHandle_claim fun _ ↦ hkey)
      intro response
      apply Monitor.Holds.bind (I := fun _ _ s ↦ s = false)
      · have stored : (claim provider).Holds request (fun (_ : Unit) s ↦ s = true)
            (await (.set (cacheKey request.idempotencyKey) (.completed response)))
            (fun _ _ s ↦ s = false) fun _ _ s ↦ s = false := by
          apply Monitor.Holds.await
          · exact fun _ _ hs ↦ ⟨hs, rfl, response, rfl⟩
          · exact fun _ _ _ _ _ ↦ rfl
          · exact fun _ _ _ _ _ ↦ rfl
        exact Monitor.Holds.tryCatch stored fun _ ↦ Monitor.Holds.ret _ fun _ _ hs ↦ hs
      · exact fun _ ↦ Monitor.Holds.ret _ fun _ _ hs ↦ hs
  · exact Monitor.Holds.raise _ fun _ _ hs ↦ hs
  · exact Monitor.Holds.ret _ fun _ _ hs ↦ hs

/-- Who holds a claim has claimed a key. -/
theorem exists_claims {t : Nat} {log : List (Event (expiringRoute provider))}
    (h : (claim provider).state t log = true) : ∃ ev ∈ log, ev.tid = t ∧ claims ev = true := by
  induction log with
  | nil => cases h
  | cons ev log ih =>
    have earlier (held : (claim provider).state t log = true) :
        ∃ e ∈ ev :: log, e.tid = t ∧ claims e = true := by
      obtain ⟨e, he, hc⟩ := ih held
      exact ⟨e, List.mem_cons_of_mem _ he, hc⟩
    by_cases ht : ev.tid = t
    · have last : claimNext ((claim provider).state t log) ev.op ev.answer = true := by
        rw [Monitor.state, if_pos ht] at h
        exact h
      by_cases hc : claims ev = true
      · exact ⟨ev, List.mem_cons_self, ht, hc⟩
      · apply earlier
        obtain ⟨u, j, o, a⟩ := ev
        cases o with
        | setNX k =>
          rcases a with _ | _ | _
          · exact last
          · exact last
          · exact absurd rfl hc
        | handled k r =>
          cases r with
          | error e => cases last
          | ok response => exact last
        | set k value => cases last
        | get k => exact last
        | handle k => exact last
        | inner o => exact last
    · rw [Monitor.state_other _ ht] at h
      exact earlier h

/-! ### The marker -/

/-- What is stored after keys expired was stored before. -/
theorem cached_of_expire {s : State} {gone : List String} {k : String} {value : Cached}
    (h : (s.expire gone).cached k = some value) : s.cached k = some value := by
  unfold State.cached State.expire at h
  rw [Table.find_remove] at h
  obtain ⟨row, hrow, rfl⟩ := Option.map_eq_some_iff.mp h
  have found := (Option.filter_eq_some_iff.mp hrow).1
  rw [State.cached, found]
  rfl

/-- Where Redis fails, nothing is stored. -/
theorem step_of_fault {x : Choice} {o : Op} {s : State} {e : Exception} (ho : o.redis = true)
    (hf : x.fault = some e) : step x o s = (.error e, s) := by
  unfold step
  rw [ho, hf]

/-- Where nothing fails, an operation has its effect. -/
theorem step_of_none {x : Choice} (o : Op) {s : State} (hf : x.fault = none) :
    step x o s = perform x o s := by
  unfold step
  rw [hf]
  split
  · next h => cases h
  · rfl

/-- Only `SET` commands change what is stored. -/
theorem redis_of_step {x : Choice} {o : Op} {s : State} (hn : ∀ k, o ≠ .setNX k)
    (hs : ∀ k value, o ≠ .set k value) : (step x o s).2.redis = s.redis := by
  unfold step
  split
  · rfl
  · cases o with
    | setNX k => exact absurd rfl (hn k)
    | set k value => exact absurd rfl (hs k value)
    | _ => rfl

/-- A marker that is stored was set by this claim, or it was there before, and no response was
stored under its key. -/
theorem processing_of_exec {x : Choice × List String} {t : Nat} {j : HttpRequest} {o : Op}
    {s : State} {k : String} (hv : ∀ k' value, o = .set k' value → value ≠ .processing)
    (h : ((expiringRoute provider).exec x o s).2.cached k = some .processing) :
    (o = .setNX k ∧
      @claims provider ⟨t, j, o, ((expiringRoute provider).exec x o s).1⟩ = true) ∨
    (s.cached k = some .processing ∧ ∀ value, o = .set k value → ∃ e, x.1.fault = some e) := by
  have h : (step x.1 o (s.expire x.2)).2.cached k = some .processing := h
  have same (hr : (step x.1 o (s.expire x.2)).2.redis = (s.expire x.2).redis) :
      s.cached k = some .processing := by
    rw [State.cached, hr] at h
    exact cached_of_expire h
  cases o with
  | setNX k' =>
    cases hf : x.1.fault with
    | some e =>
      rw [step_of_fault rfl hf] at same
      exact .inr ⟨same rfl, fun _ hc ↦ by cases hc⟩
    | none =>
      by_cases hc : ((s.expire x.2).cached k').isSome
      · have refused : step x.1 (.setNX k') (s.expire x.2) = (.ok false, s.expire x.2) := by
          rw [step_of_none _ hf]
          exact if_pos hc
        rw [refused] at same
        exact .inr ⟨same rfl, fun _ hc ↦ by cases hc⟩
      · have put : step x.1 (.setNX k') (s.expire x.2) = (.ok true,
            { s.expire x.2 with redis := (s.expire x.2).redis.put (k', .processing) }) := by
          rw [step_of_none _ hf]
          exact if_neg hc
        rw [put, cached_put] at h
        split at h
        · next hk =>
          left
          refine ⟨by rw [hk], ?_⟩
          show claims (⟨t, j, .setNX k', (step x.1 (.setNX k') (s.expire x.2)).1⟩ :
            Event (expiringRoute provider)) = true
          rw [put]
          rfl
        · exact .inr ⟨cached_of_expire h, fun _ hc ↦ by cases hc⟩
  | set k' value =>
    cases hf : x.1.fault with
    | some e =>
      rw [step_of_fault rfl hf] at same
      exact .inr ⟨same rfl, fun _ _ ↦ ⟨e, rfl⟩⟩
    | none =>
      rw [step_of_none _ hf] at h
      have h : State.cached { s.expire x.2 with redis := (s.expire x.2).redis.put (k', value) } k =
        some .processing := h
      rw [cached_put] at h
      split at h
      · exact absurd (Option.some.inj h) (hv k' value rfl)
      · next hk =>
        refine .inr ⟨cached_of_expire h, ?_⟩
        intro value' he
        cases he
        exact absurd rfl hk
  | _ =>
    refine .inr ⟨same (redis_of_step ?_ ?_), fun _ hc ↦ by cases hc⟩
    · exact fun _ hc ↦ by cases hc
    · exact fun _ _ hc ↦ by cases hc

/-- A marker is stored only while a request with its key holds the claim. -/
def Marked (p : Pool (expiringRoute provider)) (key : String) : Prop :=
  p.conf.state.cached (cacheKey key) = some .processing →
    ∃ t body q, p.At t ⟨key, body⟩ q ∧ (claim provider).state t p.conf.log = true

/-- Who holds a claim goes on to hold it, if the condition holds and the response is not stored. -/
theorem claim_kept {key : String} {body : InitiatePaymentRequest} {t : Nat}
    {c : Conf (expiringRoute provider)} {x : Choice × List String} {o : Op}
    (may : claimMay ⟨key, body⟩ true o)
    (hm : (handlersReturn provider).may c ⟨t, ⟨key, body⟩, o, c.answer x o⟩)
    (unset : ∀ value, o = .set (cacheKey key) value → ∃ e, x.1.fault = some e) :
    claimNext true o (c.answer x o) = true := by
  cases o with
  | setNX k => cases may.1
  | set k value =>
    obtain ⟨-, rfl, -⟩ := may
    obtain ⟨e, hf⟩ := unset value rfl
    have failed : c.answer x (.set (cacheKey key) value) = .error e :=
      congrArg Prod.fst (step_of_fault (o := .set (cacheKey key) value) rfl hf)
    rw [failed] at hm
    cases hm
  | handled k r =>
    cases r with
    | error e =>
      obtain ⟨rfl, named⟩ := may
      exact absurd (of_decide_eq_false hm) fun h ↦ h (named rfl)
    | ok response => rfl
  | get k => rfl
  | handle k => rfl
  | inner o => rfl

/-- A step keeps this, if the condition holds. -/
theorem Marked.advance {p : Pool (expiringRoute provider)} {key : String} (h : Marked p key)
    {t : Nat} {j : HttpRequest} {x : Choice × List String} {o : Op}
    {k : sig.Answer o → (expiringRoute provider).Program} (ht : p.At t j (.op o k))
    (may : claimMay j ((claim provider).state t p.conf.log) o)
    (hm : (handlersReturn provider).may p.conf ⟨t, j, o, p.conf.answer x o⟩) :
    Marked (p.advance t j x o k) key := by
  intro hc
  have completed : ∀ k' value, o = .set k' value → value ≠ .processing := by
    rintro k' value rfl
    obtain ⟨-, -, response, rfl⟩ := may
    exact fun h ↦ by cases h
  have self : (claim provider).state t (p.advance t j x o k).conf.log =
      claimNext ((claim provider).state t p.conf.log) o (p.conf.answer x o) :=
    Monitor.state_self (claim provider) t j o _ _
  have stays : (p.advance t j x o k).At t j (k (p.conf.answer x o)) :=
    (Pool.at_advance ht).mpr (.inl ⟨rfl, rfl, rfl⟩)
  rcases @processing_of_exec provider x t j o _ _ completed hc with ⟨rfl, claimed⟩ | ⟨before, unset⟩
  · -- the thread has claimed the key
    obtain ⟨-, -, hk⟩ := may
    obtain ⟨key', body⟩ := j
    obtain rfl : key = key' := cacheKey_inj hk
    refine ⟨t, body, _, stays, ?_⟩
    rw [self]
    have answered : p.conf.answer x (.setNX (cacheKey key)) = .ok true := by
      show ((expiringRoute provider).exec x (.setNX (cacheKey key)) p.conf.state).1 = _
      revert claimed
      rcases ((expiringRoute provider).exec x (.setNX (cacheKey key)) p.conf.state).1 with _ | _ | _
      · exact fun h ↦ by cases h
      · exact fun h ↦ by cases h
      · exact fun _ ↦ rfl
    rw [answered]
    rfl
  · obtain ⟨u, body, q, hu, held⟩ := h before
    by_cases hut : u = t
    · -- who holds the claim goes on, and has not stored the response
      subst hut
      obtain rfl : j = ⟨key, body⟩ := Pool.job_of_at ht hu
      refine ⟨u, body, _, stays, ?_⟩
      rw [self]
      rw [held] at may ⊢
      exact claim_kept may hm unset
    · refine ⟨u, body, q, (Pool.at_advance ht).mpr (.inr ⟨hut, hu⟩), ?_⟩
      rw [← held]
      exact Monitor.state_other _ (Ne.symm hut)

/-- In every run that meets the condition, a marker is stored only while a request with its key
holds the claim. -/
theorem marked_of_reach {p : Pool (expiringRoute provider)}
    (hp : Pool.Reach (handlersReturn provider) Vacant p) (key : String) : Marked p key := by
  induction hp with
  | @start s hs =>
    intro h
    have h : s.cached (cacheKey key) = some .processing := h
    rw [State.cached, show s.redis = .empty from hs] at h
    cases h
  | spawn _ _ ih =>
    intro h
    obtain ⟨t, body, q, ht, held⟩ := ih h
    exact ⟨t, body, q, Pool.at_spawn.mpr (.inl ht), held⟩
  | run hp ht hm ih =>
    exact ih.advance ht ((Monitor.watches_of_reach request_claim hp).may ht) hm

/-! ### A request that is served on its own -/

/-- An error that is no conflict. -/
def Fine (e : Exception) : Prop := ∀ message, e ≠ .conflict message

/-- A part of a request leaves what the code of the payment service leaves. -/
theorem within_leaves {α : Type} {h : Handler sig State} {h' : Handler PaymentService.sig State}
    (hh : ∀ n o s, h n (.inner o) s = h' n o s) {c : Code PaymentService.sig Unit α}
    {P : Unit → State → Prop} {Q : α → Unit → State → Prop} {E : Exception → Unit → State → Prop}
    (hc : Code.Leaves h' P c Q E) : Code.Leaves h P (within c) Q E := by
  have same : ∀ (q : Prog PaymentService.sig (Except Exception α × Unit)) n s,
      (q.translate fun o ↦ (.op (.inner o) .ret : Prog sig _)).run h n s = q.run h' n s := by
    intro q
    induction q with
    | ret a => exact fun _ _ ↦ rfl
    | op o k ih =>
      intro n s
      show ((k (h n (.inner o) s).1).translate _).run h (n + 1) (h n (.inner o) s).2 = _
      rw [ih, hh]
      rfl
  intro n l s hp
  have left := hc n l s hp
  unfold Code.exec at left ⊢
  unfold within
  rw [same]
  rcases hr : (c l).run h' n s with ⟨⟨r, l'⟩, n', s'⟩
  rw [hr] at left
  cases r with
  | ok a => exact left
  | error e => exact left

section Fine

variable {h : Handler PaymentService.sig State}

/-- An operation that throws no conflict. -/
theorem await_fine (hh : ∀ n o s e, (h n o s).1 = .error e → Fine e) {L : Type}
    (o : PaymentService.Op) : Code.Leaves h (fun (_ : L) _ ↦ True) (PaymentService.await o)
      (fun _ _ _ ↦ True) fun e _ _ ↦ Fine e := by
  apply Code.Leaves.await
  · exact fun _ _ _ _ _ _ _ ↦ trivial
  · exact fun n l s e s' _ he ↦ hh n o s e (congrArg Prod.fst he)

/-- Reading the entity throws nothing. -/
theorem entity_fine : Code.Leaves h (fun (_ : Payment) _ ↦ True) Code.entity (fun _ _ _ ↦ True)
    fun e _ _ ↦ Fine e :=
  Code.Leaves.entity fun _ _ _ ↦ trivial

/-- Assigning the entity throws nothing. -/
theorem assign_fine (f : Payment → Payment) :
    Code.Leaves h (fun (_ : Payment) _ ↦ True) (Code.assign f) (fun _ _ _ ↦ True)
      fun e _ _ ↦ Fine e :=
  Code.Leaves.assign f fun _ _ _ ↦ trivial

/-- The gateways that are registered. -/
theorem getByProvider_fine {L : Type} (name : String) :
    Code.Leaves h (fun (_ : L) _ ↦ True) (getByProvider name) (fun _ _ _ ↦ True)
      fun e _ _ ↦ Fine e := by
  have failure : ∀ message, Fine (.failure message) := fun _ _ he ↦ by cases he
  unfold getByProvider
  split
  · exact Code.Leaves.ret _ fun _ _ _ ↦ trivial
  · split
    · exact Code.Leaves.ret _ fun _ _ _ ↦ trivial
    · exact Code.Leaves.raise _ fun _ _ _ ↦ failure _

/-- Charging throws what an operation threw. -/
theorem chargePayment_fine (hh : ∀ n o s e, (h n o s).1 = .error e → Fine e)
    (dto : InitiatePaymentRequest) : Code.Leaves h (fun _ _ ↦ True) (chargePayment dto)
      (fun _ _ _ ↦ True) fun e _ _ ↦ Fine e := by
  have each := fun o ↦ await_fine hh (L := Payment) o
  apply Code.Leaves.bind (assign_fine _)
  intro _
  apply Code.Leaves.bind entity_fine
  intro _
  apply Code.Leaves.bind (each _)
  intro _
  apply Code.Leaves.bind entity_fine
  intro _
  apply Code.Leaves.bind (each _)
  intro response
  split
  · apply Code.Leaves.bind (each _)
    intro now
    apply Code.Leaves.bind (assign_fine _)
    intro _
    apply Code.Leaves.bind entity_fine
    intro _
    apply Code.Leaves.bind (each _)
    intro _
    apply Code.Leaves.bind entity_fine
    exact fun _ ↦ each _
  · apply Code.Leaves.bind (assign_fine _)
    intro _
    apply Code.Leaves.bind entity_fine
    intro _
    apply Code.Leaves.bind (each _)
    intro _
    apply Code.Leaves.bind entity_fine
    exact fun _ ↦ each _

/-- The `catch` block throws the error again. -/
theorem failPayment_fine (hh : ∀ n o s e, (h n o s).1 = .error e → Fine e) {error : Exception}
    (he : Fine error) : Code.Leaves h (fun _ _ ↦ True) (failPayment error) (fun _ _ _ ↦ True)
      fun e _ _ ↦ Fine e := by
  apply Code.Leaves.bind (assign_fine _)
  intro _
  apply Code.Leaves.bind entity_fine
  intro _
  apply Code.Leaves.bind (await_fine hh _)
  intro _
  apply Code.Leaves.bind entity_fine
  intro _
  apply Code.Leaves.bind (await_fine hh _)
  exact fun _ ↦ Code.Leaves.raise _ fun _ _ _ ↦ he

/-- The payment service throws no conflict of its own. -/
theorem initiatePayment_fine (hh : ∀ n o s e, (h n o s).1 = .error e → Fine e)
    (dto : InitiatePaymentRequest) :
    Code.Leaves h (fun _ _ ↦ True) (initiatePayment provider dto) (fun _ _ _ ↦ True)
      fun e _ _ ↦ Fine e := by
  apply Code.Leaves.bind (await_fine hh _)
  intro found
  cases found with
  | some existing => exact Code.Leaves.ret _ fun _ _ _ ↦ trivial
  | none =>
    dsimp only
    apply Code.Leaves.bind (Q := fun _ _ _ ↦ True)
    · unfold selectGateway
      split
      · exact getByProvider_fine _
      · exact getByProvider_fine _
    intro gateway
    apply Code.Leaves.bind (await_fine hh _)
    intro savedPayment
    apply Code.Leaves.on (P := fun _ _ ↦ True)
    apply Code.Leaves.bind (Q := fun _ _ _ ↦ True)
    · apply Code.Leaves.tryCatch (chargePayment_fine hh dto)
      exact fun e n l s he ↦ failPayment_fine hh he n l s trivial
    · exact fun _ ↦ Code.Leaves.entity fun _ _ _ ↦ trivial

end Fine

section Served

variable {x : Nat → Op → Choice × List String} {request : HttpRequest}

/-- What the environment decides for a request that is served on its own. -/
abbrev answers (provider : String) (x : Nat → Op → Choice × List String) : Handler sig State :=
  fun n o s ↦ (expiringRoute provider).exec (x n o) o s

/-- What an operation of the payment service throws, unless it fails. -/
theorem fault_of_exec {x : Choice} {o : PaymentService.Op} {s : Db} {e : Exception}
    (he : (exec x o s).1 = .error e) : x.fault = some e ∨ Fine e := by
  cases hf : x.fault with
  | some e' =>
    unfold exec at he
    rw [hf] at he
    cases o <;> cases he <;> exact .inl rfl
  | none =>
    right
    have done : exec x o s = PaymentService.perform x o s := by
      unfold exec
      rw [hf]
      exact Sig.attempt_none (S := PaymentService.sig) o s
    rw [done] at he
    cases o with
    | insert p =>
      simp only [PaymentService.perform] at he
      split at he
      · cases he
        exact fun _ h ↦ by cases h
      · cases he
    | _ => cases he

/-- An operation of a request throws no conflict. -/
theorem answers_fine (free : ConflictFree x) {n : Nat} {o : Op} {s : State} {e : Exception}
    (he : (answers provider x n o s).1 = .error e) : Fine e := by
  have fine : ∀ {e'}, (x n o).1.fault = some e' → Fine e' := by
    rintro e' hf message rfl
    exact free n o message hf
  have he : (step (x n o).1 o (s.expire (x n o).2)).1 = .error e := he
  cases ho : o.redis with
  | true =>
    cases hf : (x n o).1.fault with
    | some e' =>
      rw [step_of_fault ho hf] at he
      cases he
      exact fine hf
    | none =>
      rw [step_of_none _ hf] at he
      cases o with
      | setNX k =>
        simp only [perform] at he
        split at he <;> cases he
      | get k => cases he
      | set k value => cases he
      | _ => cases ho
  | false =>
    rw [step_of_quiet ho] at he
    cases o with
    | inner o => exact (fault_of_exec he).elim fine id
    | handle k => cases he
    | handled k r => cases he
    | _ => cases ho

/-- The handler throws no conflict if none of its operations does. -/
theorem nextHandle_fine (free : ConflictFree x) :
    Code.Leaves (answers provider x) (fun _ _ ↦ True) (nextHandle provider request)
      (fun _ _ _ ↦ True) fun e _ _ ↦ Fine e := by
  have told : ∀ (o : Op) (φ : Prop), Code.Leaves (answers provider x) (fun (_ : Unit) _ ↦ φ)
      (await o) (fun _ _ _ ↦ φ) fun e _ _ ↦ Fine e := by
    intro o φ
    apply Code.Leaves.await
    · exact fun _ _ _ _ _ hφ _ ↦ hφ
    · exact fun n l s e s' _ he ↦ answers_fine free (congrArg Prod.fst he)
  have inner : Code.Leaves (answers provider x) (fun _ _ ↦ True)
      (within (initiatePayment provider request.body)) (fun _ _ _ ↦ True) fun e _ _ ↦ Fine e := by
    apply within_leaves (fun _ _ _ ↦ rfl)
    apply initiatePayment_fine
    exact fun n o s e he ↦ answers_fine free he
  apply Code.Leaves.bind (told _ True)
  intro _
  apply Code.Leaves.bind (Q := fun _ _ _ ↦ True)
  · apply Code.Leaves.tryCatch inner
    intro e
    apply Code.Leaves.bind (told _ (Fine e))
    exact fun _ ↦ Code.Leaves.raise _ fun _ _ he ↦ he
  intro response
  apply Code.Leaves.bind (told _ True)
  exact fun _ ↦ Code.Leaves.ret _ fun _ _ _ ↦ trivial

/-- Where no marker is stored, a request is not rejected. -/
theorem intercept_fine (free : ConflictFree x) :
    Code.Leaves (answers provider x)
      (fun _ s ↦ s.cached (cacheKey request.idempotencyKey) ≠ some .processing)
      (intercept provider request) (fun _ _ _ ↦ True) fun e _ _ ↦ Fine e := by
  unfold intercept
  split
  · exact (nextHandle_fine free).pre fun _ _ _ ↦ trivial
  apply Code.Leaves.bind (Q := fun cached _ s ↦ cached ≠ some .processing ∧
    (cached = none → s.cached (cacheKey request.idempotencyKey) = none))
  · apply Code.Leaves.await
    · intro n l s cached s' unmarked hr
      have hr : step (x n (.get _)).1 (.get _) (s.expire (x n (.get _)).2) = (.ok cached, s') := hr
      cases hf : (x n (.get (cacheKey request.idempotencyKey))).1.fault with
      | some e =>
        rw [step_of_fault rfl hf] at hr
        cases hr
      | none =>
        rw [step_of_none _ hf] at hr
        cases hr
        exact ⟨fun h ↦ unmarked (cached_of_expire h), id⟩
    · exact fun n l s e s' _ he ↦ answers_fine free (congrArg Prod.fst he)
  intro cached
  rcases cached with _ | _ | response
  · apply Code.Leaves.bind (Q := fun claimed _ _ ↦ claimed = true)
    · apply Code.Leaves.await
      · intro n l s claimed s' hs hr
        have hr : step (x n (.setNX _)).1 (.setNX _) (s.expire (x n (.setNX _)).2) =
          (.ok claimed, s') := hr
        have absent : ¬ ((s.expire (x n (.setNX (cacheKey request.idempotencyKey))).2).cached
            (cacheKey request.idempotencyKey)).isSome := by
          intro some
          obtain ⟨value, hv⟩ := Option.isSome_iff_exists.mp some
          have stored := cached_of_expire hv
          rw [hs.2 rfl] at stored
          cases stored
        cases hf : (x n (.setNX (cacheKey request.idempotencyKey))).1.fault with
        | some e =>
          rw [step_of_fault rfl hf] at hr
          cases hr
        | none =>
          rw [step_of_none _ hf, perform, if_neg absent] at hr
          cases hr
          rfl
      · exact fun n l s e s' _ he ↦ answers_fine free (congrArg Prod.fst he)
    intro claimed
    cases claimed with
    | false => exact Code.Leaves.raise _ fun _ _ h ↦ by cases h
    | true =>
      apply Code.Leaves.bind ((nextHandle_fine free).pre fun _ _ _ ↦ trivial)
      intro response
      apply Code.Leaves.bind (Q := fun _ _ _ ↦ True)
      · have stored : Code.Leaves (answers provider x) (fun (_ : Unit) _ ↦ True)
            (await (.set (cacheKey request.idempotencyKey) (.completed response)))
            (fun _ _ _ ↦ True) fun _ _ _ ↦ True :=
          Code.Leaves.await (fun _ _ _ _ _ _ _ ↦ trivial) fun _ _ _ _ _ _ _ ↦ trivial
        exact Code.Leaves.tryCatch stored fun _ ↦ Code.Leaves.ret _ fun _ _ _ ↦ trivial
      · exact fun _ ↦ Code.Leaves.ret _ fun _ _ _ ↦ trivial
  · exact Code.Leaves.raise _ fun _ _ h ↦ absurd rfl h.1
  · exact Code.Leaves.ret _ fun _ _ _ ↦ trivial

end Served

/-- A new request may be rejected only if a marker is stored under its key. -/
theorem marked_of_rejects {s : State} {key : String} (h : Rejects provider s key) :
    s.cached (cacheKey key) = some .processing := by
  obtain ⟨body, x, message, free, rejected⟩ := h
  by_contra unmarked
  have left := @intercept_fine provider x ⟨key, body⟩ free 0 () s unmarked
  rcases he : (intercept provider ⟨key, body⟩).exec (answers provider x) 0 () s with ⟨r, l, n, s'⟩
  rw [served, he] at rejected
  rw [he] at left
  have rejected : r = .error (.conflict message) := rejected
  subst rejected
  exact left message rfl

/-- In every run in which handlers of requests with keys return and their responses are stored, a
key is in progress only while something is in progress. -/
theorem key_usable {p : Pool (expiringRoute provider)}
    (hp : Pool.Reach (handlersReturn provider) Vacant p) (key : String) : KeyUsable p key := by
  intro idle rejects
  obtain ⟨t, body, q, ht, held⟩ := marked_of_reach hp key (marked_of_rejects rejects)
  apply idle
  refine ⟨t, body, q, ht, ?_, exists_claims held⟩
  cases q with
  | op o k => rfl
  | ret r =>
    have finished := (Monitor.watches_of_reach request_claim hp).ended ht
    rw [held] at finished
    cases finished

/-- All threads of a pool have ended. -/
theorem idle_of_ended {p : Pool (expiringRoute provider)}
    (h : p.threads.all (fun thread ↦ thread.2.ended) = true) (key : String) :
    ¬ InProgress p key := by
  rintro ⟨t, body, q, ht, running, -⟩
  have finished := List.all_eq_true.mp h _ (List.mem_of_getElem? ht)
  rw [running] at finished
  cases finished

/-- A request is answered, and its response stored. -/
def answered : List (Label (expiringRoute "stripe")) :=
  .spawn onceRequest :: List.replicate 12 (.run 0 ({}, []))

/-- Its key is in use, and not in progress. -/
theorem key_usable_answered :
    ∃ p, Pool.play (handlersReturn "stripe") answered (.start ⟨.empty, Db.empty⟩) = some p ∧
      (p.conf.state.cached (cacheKey "k")).isSome = true ∧ ¬ InProgress p "k" ∧
      KeyUsable p "k" := by
  have played : (Pool.play (handlersReturn "stripe") answered
      (.start ⟨.empty, Db.empty⟩)).any fun p ↦
        (p.conf.state.cached (cacheKey "k")).isSome &&
          p.threads.all fun thread ↦ thread.2.ended := by
    decide +kernel
  simp only [Option.any_eq_true, Bool.and_eq_true] at played
  obtain ⟨p, hp, stored, ended⟩ := played
  have vacant : Vacant ⟨.empty, Db.empty⟩ := rfl
  exact ⟨p, hp, stored, idle_of_ended ended "k", key_usable (Pool.reach_of_play vacant hp) "k"⟩

/-- The payment cannot be stored, and the handler throws. -/
def thrown : List (Label (expiringRoute "stripe")) :=
  .spawn onceRequest :: List.replicate 4 (.run 0 ({}, [])) ++
    [.run 0 ({ fault := some (.failure "connection terminated") }, []), .run 0 ({}, [])]

/-- A key whose handler threw stays in progress. -/
theorem key_stays_in_progress :
    ¬ ∀ (provider : String) (p : Pool (expiringRoute provider)),
      Pool.Reach (.free _) Vacant p → ∀ key, KeyUsable p key := by
  intro usable
  have played : (Pool.play (.free _) thrown (.start ⟨.empty, Db.empty⟩)).any fun p ↦
      p.threads.all (fun thread ↦ thread.2.ended) &&
        decide ((served "stripe" (fun _ _ ↦ ({}, [])) onceRequest p.conf.state).result =
          .error (.conflict "Payment already in progress")) := by
    decide +kernel
  simp only [Option.any_eq_true, Bool.and_eq_true, decide_eq_true_eq] at played
  obtain ⟨p, hp, ended, rejected⟩ := played
  have vacant : Vacant ⟨.empty, Db.empty⟩ := rfl
  apply usable "stripe" p (Pool.reach_of_play vacant hp) "k" (idle_of_ended ended "k")
  have free : ConflictFree fun _ _ ↦ ({}, []) := fun _ _ _ h ↦ by cases h
  exact ⟨onceRequest.body, _, _, free, rejected⟩

end Ticketing.PaymentService.Idempotency
