import Mathlib.Data.List.Perm.Subperm
import Ticketing.ApiGateway.RateLimit
import Ticketing.Async.Monitor
import Ticketing.Store.SlidingWindow

/-!
# Requests that are limited at the same time

Library `ApiGateway`. The interceptor counts a set and adds to it by separate commands, and the key
of the set is the whole URL. What it counts may lack requests that were let through before: those
with another query string, those that have not added their member yet, and those whose member a
request with a later clock reading removed. Where it lacks none, the limit holds in every
interleaving.
-/

namespace Ticketing.ApiGateway.RateLimit

open Async Store SlidingWindow

/-- The gateway, with the limit that is configured for each method and path. -/
abbrev limiter (routes : String → String → Option RateLimitConfig) : Service where
  toSig := sig
  State := SortedSets
  Choice := Choice
  exec := exec
  Job := Request
  Reply := Unit
  code request := (Code.on {} (intercept (routes request.method request.path) request)).prog

/-- One client, one method and one path. -/
structure Endpoint where
  client : String
  method : String
  path : String
  deriving DecidableEq

/-- What a request is limited by. -/
def Request.endpoint (request : Request) : Endpoint :=
  ⟨request.client, request.method, request.path⟩

variable {routes : String → String → Option RateLimitConfig}

/-- What a request has read: the clock, what it counted then, and whether it went on uncounted. -/
structure Track where
  reading : Option Nat := none
  counted : Option (Nat × Nat) := none
  missed : Bool := false

/-- After an operation. -/
def trackNext (s : Track) : (o : Op) → sig.Answer o → Track
  | .now, .ok now => { s with reading := some now }
  | .zcard _, .ok count => { s with counted := s.reading.map (·, count) }
  | .zremrangebyscore _ _ _, .error _ | .zcard _, .error _ | .zrange _ _ _, .error _ =>
    { s with missed := true }
  | _, _ => s

/-- What the requests have read. -/
def track (routes : String → String → Option RateLimitConfig) :
    Monitor (limiter routes) Track where
  init := {}
  next := trackNext
  may _ _ _ := True

/-- The clock reading of a request. -/
def reading (t : Nat) (log : List (Event (limiter routes))) : Nat :=
  ((track routes).state t log).reading.getD 0

/-- The request counted fewer than `max`, so that it is let through. -/
def passAt (endpoint : Endpoint) (config : RateLimitConfig) (log : List (Event (limiter routes))) :
    Event (limiter routes) → Option (Nat × Nat)
  | ⟨t, request, .zcard _, .ok count⟩ =>
    if request.endpoint = endpoint ∧ count < config.max then some (t, reading t log) else none
  | _ => none

/-- The requests that were let through, with their clock readings, newest first. -/
def passes (endpoint : Endpoint) (config : RateLimitConfig) :
    List (Event (limiter routes)) → List (Nat × Nat)
  | [] => []
  | ev :: log =>
    match passAt endpoint config log ev with
    | some pass => pass :: passes endpoint config log
    | none => passes endpoint config log

/-- The thread was a request to the endpoint, and its handler is called. -/
def admitted (p : Pool (limiter routes)) (endpoint : Endpoint) (t : Nat) : Bool :=
  match p.threads[t]? with
  | some (request, .ret (.ok _)) => request.endpoint = endpoint
  | _ => false

/-- The requests to the endpoint that were admitted in the window that ends at `time`. -/
def admittedIn (p : Pool (limiter routes)) (endpoint : Endpoint) (w time : Nat) : Nat :=
  (List.range p.threads.length).countP fun t ↦
    admitted p endpoint t && inWindow w time (reading t p.conf.log)

/-- The limit is enforced for each client, method and path. -/
def Enforced (p : Pool (limiter routes)) : Prop :=
  ∀ endpoint config, routes endpoint.method endpoint.path = some config →
    ∀ time, admittedIn p endpoint config.windowMs time ≤ config.max

/-- A request goes on uncounted, or it counts fewer than `max`, and fewer than were let through
near its clock reading. -/
def stale (log : List (Event (limiter routes))) : Event (limiter routes) → Bool
  | ⟨t, request, .zcard _, .ok count⟩ =>
    (routes request.method request.path).any fun config ↦
      count < config.max && count < crowd config.windowMs (reading t log)
        ((passes request.endpoint config log).map Prod.snd)
  | ⟨_, _, .zremrangebyscore _ _ _, .error _⟩ | ⟨_, _, .zcard _, .error _⟩
  | ⟨_, _, .zrange _ _ _, .error _⟩ => true
  | _ => false

/-- The runs in which the sets lack nothing that counts. -/
def counted (routes : String → String → Option RateLimitConfig) : Regime (limiter routes) where
  may c ev := stale c.log ev = false
  excl _ _ := False

instance (c : Conf (limiter routes)) (ev : Event (limiter routes)) :
    Decidable ((counted routes).may c ev) :=
  inferInstanceAs (Decidable (_ = false))

instance (i j : Request) : Decidable ((counted routes).excl i j) :=
  inferInstanceAs (Decidable False)

/-! ### What a request has read -/

/-- The request counted fewer than `max` after it had read the clock. -/
def Passed (config : RateLimitConfig) (s : Track) : Prop :=
  ∃ a n, s.reading = some a ∧ s.counted = some (a, n) ∧ n < config.max

/-- What a limited request has read when it ends. -/
theorem limit_track {config : RateLimitConfig} {request : Request} {key : String} :
    (track routes).Holds request (fun (_ : Headers) s ↦ s = {}) (limit config key)
      (fun _ _ s ↦ Passed config s)
      fun e _ s ↦ (∃ code message retryAfter, e = .http code message retryAfter) ∨
        s.missed = true ∨ Passed config s := by
  unfold limit
  apply Monitor.Holds.bind (I := fun now _ s ↦ s.reading = some now)
  · apply Monitor.Holds.await
    · exact fun _ _ _ ↦ trivial
    · exact fun _ _ _ _ _ ↦ rfl
    · rintro e headers s ⟨x, s', hr⟩ -
      cases hr
  intro now
  apply Monitor.Holds.bind (I := fun _ _ s ↦ s.reading = some now)
  · apply Monitor.Holds.await
    · exact fun _ _ _ ↦ trivial
    · exact fun _ _ _ _ hs ↦ hs
    · exact fun _ _ _ _ _ ↦ .inr (.inl rfl)
  intro _
  apply Monitor.Holds.bind
    (I := fun count _ s ↦ s.reading = some now ∧ s.counted = some (now, count))
  · apply Monitor.Holds.await
    · exact fun _ _ _ ↦ trivial
    · rintro count headers s - hs
      refine ⟨hs, ?_⟩
      show s.reading.map (·, count) = _
      rw [hs]
      rfl
    · exact fun _ _ _ _ _ ↦ .inr (.inl rfl)
  intro count
  apply Monitor.Holds.bind
    (I := fun _ _ s ↦ s.reading = some now ∧ s.counted = some (now, count))
  · exact Monitor.Holds.assign _ fun _ _ hs ↦ hs
  intro _
  split
  · apply Monitor.Holds.bind (I := fun _ _ _ ↦ True)
    · apply Monitor.Holds.await
      · exact fun _ _ _ ↦ trivial
      · exact fun _ _ _ _ _ ↦ trivial
      · exact fun _ _ _ _ _ ↦ .inr (.inl rfl)
    intro reply
    apply Monitor.Holds.bind (I := fun _ _ _ ↦ True)
    · exact Monitor.Holds.assign _ fun _ _ _ ↦ trivial
    · exact fun _ ↦ Monitor.Holds.raise _ fun _ _ _ ↦ .inl ⟨_, _, _, rfl⟩
  · next room =>
    have passed : ∀ s : Track, s.reading = some now ∧ s.counted = some (now, count) →
        Passed config s :=
      fun s hs ↦ ⟨now, count, hs.1, hs.2, Nat.lt_of_not_le room⟩
    apply Monitor.Holds.bind (I := fun _ _ s ↦ Passed config s)
    · apply Monitor.Holds.await
      · exact fun _ _ _ ↦ trivial
      · exact fun _ _ s _ hs ↦ passed s hs
      · exact fun _ _ s _ hs ↦ .inr (.inr (passed s hs))
    intro random
    apply Monitor.Holds.bind (I := fun _ _ s ↦ Passed config s)
    · apply Monitor.Holds.await
      · exact fun _ _ _ ↦ trivial
      · exact fun _ _ s _ hs ↦ hs
      · exact fun _ _ s _ hs ↦ .inr (.inr hs)
    intro _
    apply Monitor.Holds.await
    · exact fun _ _ _ ↦ trivial
    · exact fun _ _ s _ hs ↦ hs
    · exact fun _ _ s _ hs ↦ .inr (.inr hs)

/-- A request that is let through has counted, or went on uncounted. -/
theorem request_track (request : Request) :
    (track routes).Obeys request ((limiter routes).code request)
      (fun r s ↦ r = .ok () → ∀ config, routes request.method request.path = some config →
        s.missed = true ∨ Passed config s) {} := by
  apply Monitor.obeys_prog.mpr
  rw [Monitor.runs_on]
  cases hr : routes request.method request.path with
  | none => exact fun _ config h ↦ by cases h
  | some config =>
    have tried : (track routes).Holds request (fun (_ : Headers) s ↦ s = {})
        (intercept (some config) request) (fun _ _ s ↦ s.missed = true ∨ Passed config s)
        fun _ _ _ ↦ True := by
      apply Monitor.Holds.tryCatch (limit_track.post (fun _ _ _ h ↦ .inr h) fun _ _ _ h ↦ h)
      intro e
      cases e with
      | http code message retryAfter => exact Monitor.Holds.raise _ fun _ _ _ ↦ trivial
      | failure message =>
        apply Monitor.Holds.ret
        rintro headers s (⟨_, _, _, h⟩ | through)
        · cases h
        · exact through
    apply (tried {} {} rfl).post
    · rintro _ headers s through - config' hc
      cases hc
      exact through
    · rintro e headers s - h
      cases h

/-- Who has counted fewer than `max` is among those that were let through. -/
theorem mem_passes {t a n : Nat} {endpoint : Endpoint} {config : RateLimitConfig}
    {log : List (Event (limiter routes))}
    (counted : ((track routes).state t log).counted = some (a, n)) (few : n < config.max)
    (job : ∀ ev ∈ log, ev.tid = t → ev.job.endpoint = endpoint) :
    (t, a) ∈ passes endpoint config log := by
  induction log with
  | nil => cases counted
  | cons ev log ih =>
    have earlier (h : ((track routes).state t log).counted = some (a, n)) :
        (t, a) ∈ passes endpoint config (ev :: log) := by
      have old := ih h fun e he ↦ job e (List.mem_cons_of_mem _ he)
      unfold passes
      split
      · exact List.mem_cons_of_mem _ old
      · exact old
    by_cases ht : ev.tid = t
    · obtain ⟨u, request, o, r⟩ := ev
      have ht : u = t := ht
      subst ht
      rw [Monitor.state_self] at counted
      cases o with
      | zcard key =>
        cases r with
        | error e => exact earlier counted
        | ok count =>
          have counted : ((track routes).state u log).reading.map (·, count) = some (a, n) :=
            counted
          obtain ⟨now, hnow, same⟩ := Option.map_eq_some_iff.mp counted
          cases same
          have here : passAt endpoint config log ⟨u, request, .zcard key, .ok n⟩ = some (u, a) := by
            have mine := job _ List.mem_cons_self rfl
            simp only [passAt]
            rw [if_pos ⟨mine, few⟩, reading, hnow]
            rfl
          unfold passes
          rw [here]
          exact List.mem_cons_self
      | now =>
        cases r <;> exact earlier counted
      | zremrangebyscore key min max => cases r <;> exact earlier counted
      | zrange key start stop => cases r <;> exact earlier counted
      | _ => exact earlier counted
    · rw [Monitor.state_other _ ht] at counted
      exact earlier counted

/-! ### Runs in which the sets lack nothing -/

/-- No window near an admission was full. -/
def Room (p : Pool (limiter routes)) : Prop :=
  ∀ endpoint config, routes endpoint.method endpoint.path = some config →
    Spaced config.windowMs config.max ((passes endpoint config p.conf.log).map Prod.snd)

/-- Who is let through finds room. -/
theorem Room.advance {p : Pool (limiter routes)} (h : Room p) {t : Nat} {request : Request}
    {x : Choice} {o : Op} {k : sig.Answer o → (limiter routes).Program}
    (hm : (counted routes).may p.conf ⟨t, request, o, p.conf.answer x o⟩) :
    Room (p.advance t request x o k) := by
  intro endpoint config hc
  show Spaced _ _ ((passes endpoint config (⟨t, request, o, p.conf.answer x o⟩ :: p.conf.log)).map
    Prod.snd)
  have hm : stale p.conf.log ⟨t, request, o, p.conf.answer x o⟩ = false := hm
  unfold passes
  cases hp : passAt endpoint config p.conf.log ⟨t, request, o, p.conf.answer x o⟩ with
  | none => exact h endpoint config hc
  | some pass =>
    refine ⟨?_, h endpoint config hc⟩
    revert hm hp
    generalize p.conf.answer x o = r
    intro hm hp
    cases o with
    | zcard key =>
      cases r with
      | error e => cases hp
      | ok count =>
        simp only [passAt] at hp
        split at hp
        · next mine =>
          cases hp
          obtain ⟨rfl, few⟩ := mine
          have hc : routes request.method request.path = some config := hc
          simp only [stale, hc, Option.any_some, Bool.and_eq_false_iff,
            decide_eq_false_iff_not] at hm
          rcases hm with full | all
          · exact absurd few full
          · exact Nat.lt_of_le_of_lt (Nat.le_of_not_lt all) few
        · cases hp
    | _ => cases hp

/-- No request went on uncounted. -/
theorem missed_of_reach {p : Pool (limiter routes)} {init : SortedSets → Prop}
    (hp : Pool.Reach (counted routes) init p) (t : Nat) :
    ((track routes).state t p.conf.log).missed = false := by
  induction hp with
  | start hs => rfl
  | spawn hp hx ih => exact ih
  | @run p u request x o k hp ht hm ih =>
    show ((track routes).state t (⟨u, request, o, p.conf.answer x o⟩ :: p.conf.log)).missed = false
    by_cases hu : u = t
    · subst hu
      rw [Monitor.state_self]
      have hm : stale p.conf.log ⟨u, request, o, p.conf.answer x o⟩ = false := hm
      revert hm
      generalize p.conf.answer x o = r
      intro hm
      cases o <;> cases r <;> first | exact ih | cases hm
    · rw [Monitor.state_other]
      · exact ih
      · exact hu

/-- Who was admitted is among those that were let through. -/
theorem mem_passes_of_admitted {p : Pool (limiter routes)} {init : SortedSets → Prop}
    (hp : Pool.Reach (counted routes) init p) {t : Nat} {endpoint : Endpoint}
    {config : RateLimitConfig} (hc : routes endpoint.method endpoint.path = some config)
    (h : admitted p endpoint t = true) :
    (t, reading t p.conf.log) ∈ passes endpoint config p.conf.log := by
  unfold admitted at h
  split at h
  · next request reply ht =>
    have same : request.endpoint = endpoint := by simpa using h
    have hc : routes request.method request.path = some config := by
      rw [← same] at hc
      exact hc
    have outcome := (Monitor.watches_of_reach request_track hp).ended ht rfl config hc
    rw [missed_of_reach hp t] at outcome
    obtain ⟨a, n, now, counted, few⟩ := outcome.resolve_left fun h ↦ by cases h
    rw [reading, now]
    apply mem_passes counted few
    rintro ev he rfl
    obtain ⟨q, hq⟩ := hp.event_at he
    rw [Pool.job_of_at hq ht]
    exact same
  · cases h

/-- In every run in which the sets lack nothing that counts, the limit is enforced. -/
theorem limit_enforced {p : Pool (limiter routes)}
    (hp : Pool.Reach (counted routes) (fun _ ↦ True) p) : Enforced p := by
  intro endpoint config hc time
  have room : Room p := by
    induction hp with
    | start hs => exact fun _ _ _ ↦ trivial
    | spawn hp hx ih => exact ih
    | run hp ht hm ih => exact ih.advance hm
  let inside (t : Nat) : Bool :=
    admitted p endpoint t && inWindow config.windowMs time (reading t p.conf.log)
  let found := ((List.range p.threads.length).filter inside).map fun t ↦ (t, reading t p.conf.log)
  have different : found.Nodup := by
    apply (List.nodup_range.filter _).map
    intro t u h
    exact congrArg Prod.fst h
  have among : found ⊆ (passes endpoint config p.conf.log).filter fun pass ↦
      inWindow config.windowMs time pass.2 := by
    intro pass hpass
    obtain ⟨t, ht, rfl⟩ := List.mem_map.mp hpass
    have inside_t := (List.mem_filter.mp ht).2
    rw [Bool.and_eq_true] at inside_t
    exact List.mem_filter.mpr ⟨mem_passes_of_admitted hp hc inside_t.1, inside_t.2⟩
  have fewer := (List.subperm_of_subset different among).length_le
  have bound := load_le (room endpoint config hc) time
  rw [load, List.countP_map, List.countP_eq_length_filter] at bound
  rw [admittedIn, List.countP_eq_length_filter]
  rw [List.length_map] at fewer
  exact fewer.trans bound

/-- The bookings, as they are limited for tests: one request in ten milliseconds. -/
def tightRoutes (_ path : String) : Option RateLimitConfig :=
  if path = "/api/bookings/" then some ⟨10, 1⟩ else none

/-- A request for bookings. -/
def bookings (query : String) : Request :=
  { ip := some "1.1.1.1", method := "GET", path := "/api/bookings/", query }

/-- Two requests, one after the other. -/
def oneAfterAnother : List (Label (limiter tightRoutes)) :=
  .spawn (bookings "") :: List.replicate 6 (.run 0 { now := 5 }) ++
    .spawn (bookings "") :: List.replicate 4 (.run 1 { now := 7 })

/-- One request after another, both with the same query string: the second one is rejected. -/
theorem limit_enforced_bookings :
    ∃ p, Pool.play (counted tightRoutes) oneAfterAnother (.start .empty) = some p ∧
      admittedIn p ⟨"1.1.1.1", "GET", "/api/bookings/"⟩ 10 9 = 1 ∧ Enforced p := by
  have played : (Pool.play (counted tightRoutes) oneAfterAnother (.start .empty)).any fun p ↦
      admittedIn p ⟨"1.1.1.1", "GET", "/api/bookings/"⟩ 10 9 == 1 := by
    decide +kernel
  rw [Option.any_eq_true] at played
  obtain ⟨p, hp, one⟩ := played
  have empty : (fun _ : SortedSets ↦ True) .empty := trivial
  exact ⟨p, hp, beq_iff_eq.mp one, limit_enforced (Pool.reach_of_play empty hp)⟩

/-- Two requests with different query strings. -/
def otherQuery : List (Label (limiter tightRoutes)) :=
  .spawn (bookings "?page=1") :: List.replicate 6 (.run 0 { now := 5 }) ++
    .spawn (bookings "?page=2") :: List.replicate 6 (.run 1 { now := 7 })

/-- Two requests that arrive together are both admitted where one request is the maximum. -/
theorem limit_exceeded :
    ¬ ∀ (routes : String → String → Option RateLimitConfig) (p : Pool (limiter routes)),
      Pool.Reach (.free _) (fun s : SortedSets ↦ s = .empty) p → Enforced p := by
  intro enforced
  have played : (Pool.play (.free _) otherQuery (.start .empty)).any fun p ↦
      admittedIn p ⟨"1.1.1.1", "GET", "/api/bookings/"⟩ 10 9 == 2 := by
    decide +kernel
  rw [Option.any_eq_true] at played
  obtain ⟨p, hp, two⟩ := played
  have kept := enforced tightRoutes p (Pool.reach_of_play rfl hp)
    ⟨"1.1.1.1", "GET", "/api/bookings/"⟩ ⟨10, 1⟩ rfl 9
  rw [beq_iff_eq.mp two] at kept
  exact absurd kept (by decide)

/-- Two requests that both count before either is added. -/
def together : List (Label (limiter tightRoutes)) :=
  [.spawn (bookings ""), .spawn (bookings "")] ++ List.replicate 3 (.run 0 { now := 5 }) ++
    List.replicate 6 (.run 1 { now := 5, random := "b" }) ++
    List.replicate 3 (.run 0 { now := 5, random := "a" })

/-- Both are admitted too, although they have one key. -/
example : (Pool.play (.free _) together (.start .empty)).any fun p ↦
    admittedIn p ⟨"1.1.1.1", "GET", "/api/bookings/"⟩ 10 5 == 2 := by
  decide +kernel

end Ticketing.ApiGateway.RateLimit
