import Mathlib.Order.Bounds.Basic
import Ticketing.ApiGateway.RateLimit
import Ticketing.Store.SlidingWindow

/-!
# Requests that are limited one at a time

Library `ApiGateway`. The requests with one key, each handled at one clock value, in the order of
time. The set of the key is pruned by each request and expires as a whole; still it always counts
what the sliding window holds, so that the interceptor decides as the limiter of
`SlidingWindow` does. The reset time that it advertises is another matter.
-/

namespace Ticketing.ApiGateway.RateLimit

open Async Store SlidingWindow

/-- A request with the key, at a clock value. A key whose time has come is gone before the
operations that `expires` names. -/
structure Visit (key : String) where
  request : Request
  hasKey : request.key = key
  time : Nat
  random : String
  expires : Nat → Bool

namespace Visit

variable {key : String}

/-- The member that the request adds if it is admitted. -/
def member (v : Visit key) : String := memberOf v.time v.random

/-- The clock and Redis, while the request is handled. -/
def answers (v : Visit key) : Handler sig SortedSets := fun n o s ↦
  exec { now := v.time, random := v.random, expires := v.expires n } o s

/-- What Redis holds at an operation. -/
def seen (v : Visit key) (n : Nat) (s : SortedSets) : SortedSets :=
  if v.expires n then s.expire v.time else s

end Visit

variable {key : String}

/-- The request is handled. -/
def handle (config : RateLimitConfig) (s : SortedSets) (v : Visit key) :
    Outcome sig Headers Unit SortedSets :=
  (intercept (some config) v.request).exec v.answers 0 {} s

/-- Redis, and the times of the requests that were admitted, newest first. -/
structure Ledger where
  sets : SortedSets
  admitted : List Nat

/-- One request is handled. -/
def serve (config : RateLimitConfig) (c : Ledger) (v : Visit key) : Ledger :=
  let out := handle config c.sets v
  ⟨out.state, if out.throws then c.admitted else v.time :: c.admitted⟩

/-- Requests are handled one after another. -/
def serveAll (config : RateLimitConfig) (c : Ledger) (vs : List (Visit key)) : Ledger :=
  vs.foldl (serve config) c

/-- The requests come in the order of time and have members of their own. -/
structure Serial (vs : List (Visit key)) : Prop where
  ordered : (vs.map Visit.time).Pairwise (· ≤ ·)
  distinct : (vs.map Visit.member).Nodup

/-! ### The set of the key -/

/-- From `t` on, the set of the key counts what the windows hold. -/
structure Counts (w : Nat) (key : String) (s : SortedSets) (times : List Nat)
    (members : List String) (t : Nat) : Prop where
  counted : ∀ u, t ≤ u → (s.entries key).countP (fun e ↦ u < e.score + w) = load w u times
  scores : ∀ e ∈ s.entries key, e.score ≤ t
  known : ∀ e ∈ s.entries key, e.member ∈ members
  latest : ∀ a ∈ times, a ≤ t

/-- The set stays until its members have left the window. -/
def Lasts (w : Nat) (key : String) (s : SortedSets) : Prop :=
  ∀ d, s.deadline key = some d → ∀ e ∈ s.entries key, e.score + w ≤ d

/-- The set does not expire before `t` is over. -/
def Alive (key : String) (s : SortedSets) (t : Nat) : Prop :=
  ∀ d, s.deadline key = some d → t < d

variable {w t u : Nat} {s : SortedSets} {times : List Nat} {members : List String}

/-- Counts at one time are counts at any later time. -/
theorem Counts.later (h : Counts w key s times members t) (htu : t ≤ u) :
    Counts w key s times members u where
  counted v hv := h.counted v (by omega)
  scores e he := (h.scores e he).trans htu
  known := h.known
  latest a ha := (h.latest a ha).trans htu

/-- Counts depend on the members of the key alone. -/
theorem Counts.congr (h : Counts w key s times members t) {s' : SortedSets}
    (same : s'.entries key = s.entries key) : Counts w key s' times members t where
  counted := by
    rw [same]
    exact h.counted
  scores := by
    rw [same]
    exact h.scores
  known := by
    rw [same]
    exact h.known
  latest := h.latest

/-- A set that is not over is kept. -/
theorem entries_of_alive (h : Alive key s t) :
    (s.expire t).entries key = s.entries key ∧ (s.expire t).deadline key = s.deadline key := by
  have stays : (s.deadline key).any (· ≤ t) = false := by
    cases hd : s.deadline key with
    | none => rfl
    | some d =>
      have beyond := h d hd
      simp
      omega
  rw [SortedSets.entries_expire, SortedSets.deadline_expire, stays]
  exact ⟨rfl, rfl⟩

/-- A set that expires has nothing left that counts. -/
theorem Counts.expire (h : Counts w key s times members t) (hl : Lasts w key s) :
    Counts w key (s.expire t) times members t ∧ Lasts w key (s.expire t) := by
  by_cases alive : Alive key s t
  · have same := entries_of_alive alive
    refine ⟨h.congr same.1, ?_⟩
    unfold Lasts
    rw [same.1, same.2]
    exact hl
  · unfold Alive at alive
    push Not at alive
    obtain ⟨d, hd, beyond⟩ := alive
    have gone : (s.expire t).entries key = [] ∧ (s.expire t).deadline key = none := by
      rw [SortedSets.entries_expire, SortedSets.deadline_expire, hd]
      simp [beyond]
    constructor
    · constructor
      · intro u hu
        rw [gone.1, ← h.counted u hu, List.countP_nil, eq_comm, List.countP_eq_zero]
        intro e he
        have left := hl d hd e he
        simp
        omega
      · rw [gone.1]
        exact fun e he ↦ by cases he
      · rw [gone.1]
        exact fun e he ↦ by cases he
      · exact h.latest
    · intro d' hd'
      rw [gone.2] at hd'
      cases hd'

/-- What an operation sees counts right. -/
theorem Counts.seen {v : Visit key} (h : Counts w key s times members v.time) (hl : Lasts w key s)
    (n : Nat) : Counts w key (v.seen n s) times members v.time ∧ Lasts w key (v.seen n s) := by
  unfold Visit.seen
  split
  · exact h.expire hl
  · exact ⟨h, hl⟩

/-- What an operation sees of a set that is not over. -/
theorem seen_of_alive {v : Visit key} (h : Alive key s v.time) (n : Nat) :
    (v.seen n s).entries key = s.entries key ∧ (v.seen n s).deadline key = s.deadline key := by
  unfold Visit.seen
  split
  · exact entries_of_alive h
  · exact ⟨rfl, rfl⟩

/-- The set after the request has removed what the window does not hold any more. -/
structure Pruned (w : Nat) (key : String) (s : SortedSets) (times : List Nat)
    (members : List String) (t : Nat) : Prop extends Counts w key s times members t where
  size : (s.entries key).length = load w t times
  lasts : Lasts w key s
  alive : Alive key s t

/-- `ZREMRANGEBYSCORE` leaves what the window holds. -/
theorem Counts.prune (h : Counts w key s times members t) (hl : Lasts w key s) :
    Pruned w key (s.zremrangebyscore key 0 ((t : Int) - w)) times members t := by
  have kept : (s.zremrangebyscore key 0 ((t : Int) - w)).entries key =
      (s.entries key).filter fun e ↦ t < e.score + w := by
    rw [SortedSets.entries_zremrangebyscore]
    apply List.filter_congr
    intro e _
    rw [Bool.eq_iff_iff]
    simp
    omega
  have lasts : Lasts w key (s.zremrangebyscore key 0 ((t : Int) - w)) := by
    intro d hd e he
    rw [SortedSets.deadline_zremrangebyscore] at hd
    split at hd
    · cases hd
    · rw [kept, List.mem_filter] at he
      exact hl d hd e he.1
  constructor
  · constructor
    · intro u hu
      rw [kept, List.countP_filter, ← h.counted u hu]
      apply List.countP_congr
      intro e _
      simp
      omega
    · intro e he
      rw [kept, List.mem_filter] at he
      exact h.scores e he.1
    · intro e he
      rw [kept, List.mem_filter] at he
      exact h.known e he.1
    · exact h.latest
  · rw [kept, ← List.countP_eq_length_filter]
    exact h.counted t (Nat.le_refl t)
  · exact lasts
  · intro d hd
    have some : (s.zremrangebyscore key 0 ((t : Int) - w)).entries key ≠ [] := by
      intro none
      rw [SortedSets.deadline_zremrangebyscore, if_pos none] at hd
      cases hd
    obtain ⟨e, he⟩ := List.exists_mem_of_ne_nil _ some
    have last := lasts d hd e he
    rw [kept, List.mem_filter] at he
    have inside := he.2
    simp at inside
    omega

/-- Pruning at a visit leaves a pruned set unchanged. -/
theorem Pruned.seen {v : Visit key} (h : Pruned w key s times members v.time) (n : Nat) :
    Pruned w key (v.seen n s) times members v.time := by
  have same := seen_of_alive h.alive n
  constructor
  · exact (h.toCounts.seen h.lasts n).1
  · rw [same.1]
    exact h.size
  · exact (h.toCounts.seen h.lasts n).2
  · unfold Alive
    rw [same.2]
    exact h.alive

/-- The set after the request has added its member. -/
structure Added (w : Nat) (key : String) (s : SortedSets) (times : List Nat)
    (members : List String) (t : Nat) : Prop extends Counts w key s times members t where
  some : s.entries key ≠ []
  alive : Alive key s t

/-- `ZADD` of a new member adds the request. -/
theorem Pruned.add (h : Pruned w key s times members t) {member : String}
    (new : member ∉ members) :
    Added w key (s.zadd key t member) (t :: times) (member :: members) t := by
  have other : ∀ e ∈ s.entries key, e.member ≠ member := by
    intro e he same
    rw [← same] at new
    exact new (h.known e he)
  have added := SortedSets.entries_zadd t other
  constructor
  · constructor
    · intro u hu
      rw [added, List.countP_append, h.counted u hu, load, load]
      simp [List.countP_cons, inWindow, hu]
    · rw [added]
      intro e he
      rcases List.mem_append.mp he with old | last
      · exact h.scores e old
      · rw [List.mem_singleton.mp last]
    · rw [added]
      intro e he
      rcases List.mem_append.mp he with old | last
      · exact List.mem_cons_of_mem _ (h.known e old)
      · rw [List.mem_singleton.mp last]
        exact List.mem_cons_self
    · exact List.forall_mem_cons.mpr ⟨Nat.le_refl t, h.latest⟩
  · rw [added]
    exact List.append_ne_nil_of_right_ne_nil _ (List.cons_ne_nil _ _)
  · unfold Alive
    rw [SortedSets.deadline_zadd]
    exact h.alive

/-- A set with a new member is seen as it is. -/
theorem Added.seen {v : Visit key} (h : Added w key s times members v.time) (n : Nat) :
    Added w key (v.seen n s) times members v.time := by
  have same := seen_of_alive h.alive n
  constructor
  · exact h.toCounts.congr same.1
  · rw [same.1]
    exact h.some
  · unfold Alive
    rw [same.2]
    exact h.alive

/-- `PEXPIRE` lets the set last as long as its members count. -/
theorem Added.renew (h : Added w key s times members t) :
    Counts w key (s.pexpire key t w) times members t ∧ Lasts w key (s.pexpire key t w) := by
  refine ⟨h.toCounts.congr (SortedSets.entries_pexpire t w), ?_⟩
  intro d hd e he
  rw [SortedSets.deadline_pexpire _ _ h.some] at hd
  rw [SortedSets.entries_pexpire] at he
  cases hd
  have score := h.scores e he
  omega

/-! ### One request -/

variable {config : RateLimitConfig} {v : Visit key}

/-- `ZRANGE` by one rank replies with one member at most, and no score. -/
theorem resetTime_of_zrange (now : Nat) :
    resetTime config now (s.zrange key 0 0) = some (now + config.windowMs) := by
  have short : (s.zrange key 0 0).length ≤ 1 := by
    simp [SortedSets.zrange]
  rcases hr : s.zrange key 0 0 with _ | ⟨member, _ | ⟨score, rest⟩⟩
  · rfl
  · rfl
  · rw [hr] at short
    simp at short

/-- The headers of a request that is admitted. -/
def admittedHeaders (config : RateLimitConfig) (count : Nat) : Headers :=
  { limit := some config.max, remaining := some (config.max - count - 1) }

/-- The headers of a request that is rejected. -/
def rejectedHeaders (config : RateLimitConfig) (count now : Nat) : Headers :=
  { admittedHeaders config count with reset := some (some (now + config.windowMs)) }

/-- While a request is handled, no operation fails. -/
theorem await_leaves {o : Op} {P : Headers → SortedSets → Prop}
    {Q : Res o → Headers → SortedSets → Prop} {E : Error → Headers → SortedSets → Prop}
    (hq : ∀ n headers s a s', P headers s → v.answers n o s = (.ok a, s') → Q a headers s') :
    Code.Leaves v.answers P (await o) Q E := by
  apply Code.Leaves.await hq
  intro n headers s e s' _ hr
  cases o <;> cases hr

/-- What follows the counting of a request that finds the window full. -/
theorem reject_leaves (times : List Nat) (members : List String)
    (full : config.max ≤ load config.windowMs v.time times) :
    Code.Leaves v.answers
      (fun headers s ↦ headers = admittedHeaders config (load config.windowMs v.time times) ∧
        Pruned config.windowMs key s times members v.time)
      (do
        let oldestEntry ← await (.zrange key 0 0)
        let reset := resetTime config v.time oldestEntry
        Code.assign fun headers ↦ { headers with reset := some reset }
        throw (tooManyRequests reset v.time) : Code sig Headers Unit)
      (fun _ _ _ ↦ False)
      fun e headers s ↦
        headers = rejectedHeaders config (load config.windowMs v.time times) v.time ∧
          admits config.windowMs config.max times v.time = false ∧
          e = tooManyRequests (some (v.time + config.windowMs)) v.time ∧
          Counts config.windowMs key s times members v.time ∧ Lasts config.windowMs key s := by
  apply Code.Leaves.bind (Q := fun reply headers s ↦
    (headers = admittedHeaders config (load config.windowMs v.time times) ∧
      Pruned config.windowMs key s times members v.time) ∧
      resetTime config v.time reply = some (v.time + config.windowMs))
  · apply await_leaves
    intro n headers s reply s' hp hr
    cases hr
    exact ⟨⟨hp.1, hp.2.seen n⟩, resetTime_of_zrange v.time⟩
  intro reply
  apply Code.Leaves.assume
  intro reset
  dsimp only
  rw [reset]
  apply Code.Leaves.bind (Q := fun _ headers s ↦
    headers = rejectedHeaders config (load config.windowMs v.time times) v.time ∧
      Pruned config.windowMs key s times members v.time)
  · apply Code.Leaves.assign
    rintro headers s ⟨rfl, pruned⟩
    exact ⟨rfl, pruned⟩
  intro _
  apply Code.Leaves.raise
  rintro headers s ⟨rfl, pruned⟩
  refine ⟨rfl, ?_, rfl, pruned.toCounts, pruned.lasts⟩
  simpa [admits] using full

/-- What follows the counting of a request that finds room in the window. -/
theorem admit_leaves (times : List Nat) (members : List String)
    (room : ¬ config.max ≤ load config.windowMs v.time times) :
    Code.Leaves v.answers
      (fun headers s ↦ headers = admittedHeaders config (load config.windowMs v.time times) ∧
        Pruned config.windowMs key s times members v.time)
      (do
        let random ← await .random
        await (.zadd key v.time (memberOf v.time random))
        await (.pexpire key config.windowMs))
      (fun _ headers s ↦
        headers = admittedHeaders config (load config.windowMs v.time times) ∧
          admits config.windowMs config.max times v.time = true ∧
          (v.member ∉ members →
            Counts config.windowMs key s (v.time :: times) (v.member :: members) v.time ∧
              Lasts config.windowMs key s))
      fun _ _ _ ↦ False := by
  have room : admits config.windowMs config.max times v.time = true := by
    simpa [admits] using room
  apply Code.Leaves.bind (Q := fun random headers s ↦
    (headers = admittedHeaders config (load config.windowMs v.time times) ∧
      Pruned config.windowMs key s times members v.time) ∧ random = v.random)
  · apply await_leaves
    intro n headers s random s' hp hr
    cases hr
    exact ⟨hp, rfl⟩
  intro random
  apply Code.Leaves.assume
  rintro rfl
  apply Code.Leaves.bind (Q := fun _ headers s ↦
    headers = admittedHeaders config (load config.windowMs v.time times) ∧
      (v.member ∉ members →
        Added config.windowMs key s (v.time :: times) (v.member :: members) v.time))
  · apply await_leaves
    intro n headers s _ s' hp hr
    cases hr
    exact ⟨hp.1, fun new ↦ (hp.2.seen n).add new⟩
  intro _
  apply await_leaves
  intro n headers s _ s' hp hr
  cases hr
  exact ⟨hp.1, room, fun new ↦ ((hp.2 new).seen n).renew⟩

/-- A request is admitted if the window has room; then it is added to the set. -/
theorem limit_leaves (times : List Nat) (members : List String) :
    Code.Leaves v.answers
      (fun headers s ↦ headers = {} ∧
        Counts config.windowMs key s times members v.time ∧ Lasts config.windowMs key s)
      (limit config key)
      (fun _ headers s ↦
        headers = admittedHeaders config (load config.windowMs v.time times) ∧
          admits config.windowMs config.max times v.time = true ∧
          (v.member ∉ members →
            Counts config.windowMs key s (v.time :: times) (v.member :: members) v.time ∧
              Lasts config.windowMs key s))
      fun e headers s ↦
        headers = rejectedHeaders config (load config.windowMs v.time times) v.time ∧
          admits config.windowMs config.max times v.time = false ∧
          e = tooManyRequests (some (v.time + config.windowMs)) v.time ∧
          Counts config.windowMs key s times members v.time ∧ Lasts config.windowMs key s := by
  unfold limit
  apply Code.Leaves.bind (Q := fun now headers s ↦ (headers = {} ∧
    Counts config.windowMs key s times members v.time ∧ Lasts config.windowMs key s) ∧
      now = v.time)
  · apply await_leaves
    intro n headers s now s' hp hr
    cases hr
    exact ⟨hp, rfl⟩
  intro now
  apply Code.Leaves.assume
  rintro rfl
  apply Code.Leaves.bind (Q := fun _ headers s ↦
    headers = {} ∧ Pruned config.windowMs key s times members v.time)
  · apply await_leaves
    intro n headers s _ s' hp hr
    cases hr
    have seen := hp.2.1.seen hp.2.2 n
    exact ⟨hp.1, seen.1.prune seen.2⟩
  intro _
  apply Code.Leaves.bind (Q := fun count headers s ↦
    (headers = {} ∧ Pruned config.windowMs key s times members v.time) ∧
      count = load config.windowMs v.time times)
  · apply await_leaves
    intro n headers s count s' hp hr
    cases hr
    have seen := hp.2.seen n
    exact ⟨⟨hp.1, seen⟩, seen.size⟩
  intro count
  apply Code.Leaves.assume
  rintro rfl
  apply Code.Leaves.bind (Q := fun _ headers s ↦
    headers = admittedHeaders config (load config.windowMs v.time times) ∧
      Pruned config.windowMs key s times members v.time)
  · apply Code.Leaves.assign
    rintro headers s ⟨rfl, pruned⟩
    exact ⟨rfl, pruned⟩
  intro _
  split
  · next full =>
    exact (reject_leaves times members full).post (fun _ _ _ h ↦ h.elim) fun _ _ _ h ↦ h
  · next room =>
    exact (admit_leaves times members room).post (fun _ _ _ h ↦ h) fun _ _ _ h ↦ h.elim

/-- The interceptor throws what the limit throws. -/
theorem intercept_leaves (times : List Nat) (members : List String) :
    Code.Leaves v.answers
      (fun headers s ↦ headers = {} ∧
        Counts config.windowMs key s times members v.time ∧ Lasts config.windowMs key s)
      (intercept (some config) v.request)
      (fun _ headers s ↦
        headers = admittedHeaders config (load config.windowMs v.time times) ∧
          admits config.windowMs config.max times v.time = true ∧
          (v.member ∉ members →
            Counts config.windowMs key s (v.time :: times) (v.member :: members) v.time ∧
              Lasts config.windowMs key s))
      fun _ headers s ↦
        headers = rejectedHeaders config (load config.windowMs v.time times) v.time ∧
          admits config.windowMs config.max times v.time = false ∧
          Counts config.windowMs key s times members v.time ∧ Lasts config.windowMs key s := by
  unfold intercept
  dsimp only
  rw [v.hasKey]
  apply Code.Leaves.tryCatch (limit_leaves times members)
  intro e
  cases e with
  | http statusCode message retryAfter =>
    apply Code.Leaves.raise
    rintro headers s ⟨rejected, full, -, tracks⟩
    exact ⟨rejected, full, tracks⟩
  | failure message =>
    apply Code.Leaves.ret
    rintro headers s ⟨-, -, thrown, -⟩
    cases thrown

/-! ### Requests one after another -/

/-- The ledger follows the requests that were handled until `t`, with these members. -/
structure Follows (config : RateLimitConfig) (key : String) (c : Ledger) (members : List String)
    (t : Nat) : Prop where
  counts : Counts config.windowMs key c.sets c.admitted members t
  lasts : Lasts config.windowMs key c.sets
  spaced : Spaced config.windowMs config.max c.admitted

variable {c : Ledger}

/-- How a request ends, and what it leaves. -/
structure Ends (config : RateLimitConfig) (members : List String) (c : Ledger) (v : Visit key) :
    Prop where
  admitted : (handle config c.sets v).throws = !admits config.windowMs config.max c.admitted v.time
  headers : (handle config c.sets v).entity =
    if admits config.windowMs config.max c.admitted v.time then
      admittedHeaders config (load config.windowMs v.time c.admitted)
    else rejectedHeaders config (load config.windowMs v.time c.admitted) v.time
  ledger : (serve config c v).admitted = offer config.windowMs config.max c.admitted v.time
  follows : v.member ∉ members → Follows config key (serve config c v) (v.member :: members) v.time

/-- A request is admitted as the limiter of the sliding window admits it. -/
theorem Follows.ends (h : Follows config key c members t) (hw : 0 < config.windowMs)
    (ht : t ≤ v.time) : Ends config members c v := by
  have later := h.counts.later ht
  have spaced := h.spaced.offer hw later.latest
  have left := intercept_leaves c.admitted members 0 {} c.sets ⟨rfl, later, h.lasts⟩
  have handled : handle config c.sets v =
    (intercept (some config) v.request).exec v.answers 0 {} c.sets := rfl
  rcases he : (intercept (some config) v.request).exec v.answers 0 {} c.sets with
    ⟨e | _, headers, n, s⟩
  · rw [he] at left handled
    obtain ⟨rejected, full, counts, lasts⟩ := left
    have kept : (serve config c v) = ⟨s, c.admitted⟩ := by
      unfold serve
      rw [handled]
      rfl
    constructor
    · rw [handled, full]
      rfl
    · rw [handled, full]
      exact rejected
    · rw [kept, offer, full]
      rfl
    · intro _
      rw [kept]
      rw [offer, full] at spaced
      exact ⟨{ counts with known := fun e he ↦ List.mem_cons_of_mem _ (counts.known e he) },
        lasts, spaced⟩
  · rw [he] at left handled
    obtain ⟨admitted, room, tracks⟩ := left
    have added : (serve config c v) = ⟨s, v.time :: c.admitted⟩ := by
      unfold serve
      rw [handled]
      rfl
    constructor
    · rw [handled, room]
      rfl
    · rw [handled, room]
      exact admitted
    · rw [added, offer, room]
      rfl
    · intro new
      rw [added]
      rw [offer, room] at spaced
      exact ⟨(tracks new).1, (tracks new).2, spaced⟩

/-- The requests come after `t`, and their members are new. -/
def Continues (t : Nat) (members : List String) : List (Visit key) → Prop
  | [] => True
  | v :: vs => t ≤ v.time ∧ v.member ∉ members ∧ Continues v.time (v.member :: members) vs

/-- Requests in order, after others, continue them. -/
theorem continues_of_serial {vs : List (Visit key)} (serial : Serial vs)
    (after : ∀ v ∈ vs, t ≤ v.time) (new : ∀ v ∈ vs, v.member ∉ members) :
    Continues t members vs := by
  induction vs generalizing t members with
  | nil => trivial
  | cons v vs ih =>
    obtain ⟨ordered, distinct⟩ := serial
    rw [List.map_cons, List.pairwise_cons] at ordered
    rw [List.map_cons, List.nodup_cons] at distinct
    refine ⟨after v List.mem_cons_self, new v List.mem_cons_self, ?_⟩
    apply ih ⟨ordered.2, distinct.2⟩
    · exact fun x hx ↦ ordered.1 _ (List.mem_map_of_mem hx)
    · intro x hx known
      rcases List.mem_cons.mp known with same | old
      · exact distinct.1 (same ▸ List.mem_map_of_mem hx)
      · exact new x (List.mem_cons_of_mem _ hx) old

/-- Requests that continue a ledger are admitted as the limiter admits them. -/
theorem Follows.serveAll (h : Follows config key c members t) (hw : 0 < config.windowMs)
    {vs rest : List (Visit key)} (continues : Continues t members (vs ++ rest)) :
    (serveAll config c vs).admitted =
        offerAll config.windowMs config.max c.admitted (vs.map Visit.time) ∧
      ∃ t' members', Follows config key (serveAll config c vs) members' t' ∧
        Continues t' members' rest := by
  induction vs generalizing c t members with
  | nil => exact ⟨rfl, t, members, h, continues⟩
  | cons v vs ih =>
    obtain ⟨ht, new, continues⟩ := continues
    have ends := h.ends hw ht
    obtain ⟨admitted, followed⟩ := ih (ends.follows new) continues
    refine ⟨?_, followed⟩
    rw [ends.ledger] at admitted
    exact admitted

/-- A key without a set follows the empty history. -/
theorem follows_new (new : s.find key = none) : Follows config key ⟨s, []⟩ [] 0 := by
  have none : s.entries key = [] := by
    unfold SortedSets.entries
    rw [new]
    rfl
  have counts : Counts config.windowMs key s [] [] 0 := by
    constructor
    · intro u _
      rw [none]
      rfl
    · rw [none]
      exact fun e he ↦ by cases he
    · rw [none]
      exact fun e he ↦ by cases he
    · exact fun a ha ↦ by cases ha
  have lasts : Lasts config.windowMs key s := by
    intro d _ e he
    rw [none] at he
    cases he
  exact ⟨counts, lasts, trivial⟩

/-- The ledger after some of the requests. -/
theorem follows_serial (hw : 0 < config.windowMs) (new : s.find key = none)
    {vs rest : List (Visit key)} (serial : Serial (vs ++ rest)) :
    (serveAll config ⟨s, []⟩ vs).admitted =
        offerAll config.windowMs config.max [] (vs.map Visit.time) ∧
      ∃ t members, Follows config key (serveAll config ⟨s, []⟩ vs) members t ∧
        Continues t members rest :=
  (follows_new new).serveAll hw
    (continues_of_serial serial (fun _ _ ↦ Nat.zero_le _) fun _ _ h ↦ by cases h)

/-- What the requests with a key see, when they are handled one at a time: `v` comes after `vs`. -/
structure Exact (config : RateLimitConfig) (s : SortedSets) (vs : List (Visit key))
    (v : Visit key) : Prop where
  /-- Whether keys expired early or late does not matter. -/
  limiter : (serveAll config ⟨s, []⟩ vs).admitted =
    offerAll config.windowMs config.max [] (vs.map Visit.time)
  admitted : (handle config (serveAll config ⟨s, []⟩ vs).sets v).throws = false ↔
    load config.windowMs v.time (serveAll config ⟨s, []⟩ vs).admitted < config.max
  remaining : ∃ k,
    (handle config (serveAll config ⟨s, []⟩ vs).sets v).entity.remaining = some k ∧
    ∀ further : List (Visit key), (∀ x ∈ further, x.time = v.time) →
      Serial (vs ++ v :: further) →
      (serveAll config ⟨s, []⟩ (vs ++ v :: further)).admitted.length =
        (serveAll config ⟨s, []⟩ (vs ++ [v])).admitted.length + min further.length k
  windows : ∀ t, load config.windowMs t (serveAll config ⟨s, []⟩ (vs ++ [v])).admitted ≤ config.max

private theorem serveAll_append (c : Ledger) (vs rest : List (Visit key)) :
    serveAll config c (vs ++ rest) = serveAll config (serveAll config c vs) rest :=
  List.foldl_append

/-- A request is admitted if and only if the window that ends at its time holds fewer than `max`
admissions, and the number it reports is how many more would be admitted at its time. -/
theorem sliding_window_exact (hw : 0 < config.windowMs) (new : s.find key = none)
    {vs : List (Visit key)} (serial : Serial (vs ++ [v])) : Exact config s vs v := by
  obtain ⟨limiter, t, members, follows, ht, fresh, -⟩ := follows_serial hw new serial
  have ends := follows.ends hw ht
  constructor
  · exact limiter
  · rw [ends.admitted]
    simp [admits]
  · refine ⟨config.max - load config.windowMs v.time (serveAll config ⟨s, []⟩ vs).admitted - 1,
      ?_, ?_⟩
    · rw [ends.headers]
      split <;> rfl
    intro further same serial'
    obtain ⟨-, t', members', follows', ht', fresh', continues⟩ := follows_serial hw new serial'
    have next' := (follows'.ends hw ht').follows fresh'
    rw [← List.append_nil further] at continues
    have times : further.map Visit.time = List.replicate further.length v.time := by
      rw [List.eq_replicate_iff]
      simpa using same
    have admitted := (next'.serveAll hw continues).1
    rw [times] at admitted
    rw [serveAll_append, serveAll_append]
    show (serveAll config (serve config (serveAll config ⟨s, []⟩ vs) v) further).admitted.length =
      (serve config (serveAll config ⟨s, []⟩ vs) v).admitted.length + _
    rw [admitted, length_offerAll hw, ends.ledger, load_offer hw]
    split <;> omega
  · intro u
    rw [serveAll_append]
    exact load_le (ends.follows fresh).spaced u

/-- A request to the bookings of one user. -/
def bookingRequest : Request := { ip := some "1.1.1.1", method := "POST", path := "/api/bookings/" }

/-- A visit that handles the request at a clock value. -/
def bookingVisit (time : Nat) (random : String) : Visit bookingRequest.key where
  request := bookingRequest
  hasKey := rfl
  time := time
  random := random
  expires _ := true

/-- Two requests in one window. -/
theorem sliding_window_exact_bookings :
    Serial ([bookingVisit 5 "a"] ++ [bookingVisit 7 "b"]) ∧
      Exact ⟨10, 1⟩ .empty [bookingVisit 5 "a"] (bookingVisit 7 "b") := by
  have serial : Serial ([bookingVisit 5 "a"] ++ [bookingVisit 7 "b"]) := by
    constructor
    · decide
    · decide +kernel
  exact ⟨serial, sliding_window_exact (by decide) (Table.find_empty _) serial⟩

/-! ### The reset time -/

/-- After `v`, the next request with the key would be admitted at `u`. -/
def AdmittedNext (config : RateLimitConfig) (s : SortedSets) (vs : List (Visit key))
    (v : Visit key) (u : Nat) : Prop :=
  ∀ x : Visit key, x.time = u →
    (handle config (serveAll config ⟨s, []⟩ (vs ++ [v])).sets x).throws = false

/-- The reset time that `v` is told is the least time after its own at which a request with the key
would be admitted. -/
def ResetRight (config : RateLimitConfig) (s : SortedSets) (vs : List (Visit key))
    (v : Visit key) : Prop :=
  ∃ reset, (handle config (serveAll config ⟨s, []⟩ vs).sets v).entity.reset = some (some reset) ∧
    IsLeast {u | v.time < u ∧ AdmittedNext config s vs v u} reset

/-- After a rejection, the next request is admitted when the oldest admission leaves the window. -/
theorem exists_least_next (hw : 0 < config.windowMs) (hm : 1 ≤ config.max)
    (new : s.find key = none) {vs : List (Visit key)} (serial : Serial (vs ++ [v]))
    (rejected : (handle config (serveAll config ⟨s, []⟩ vs).sets v).throws = true) :
    ∃ oldest, Oldest config.windowMs v.time (serveAll config ⟨s, []⟩ vs).admitted oldest ∧
      IsLeast {u | v.time < u ∧ AdmittedNext config s vs v u} (oldest + config.windowMs) := by
  obtain ⟨-, t, members, follows, ht, fresh, -⟩ := follows_serial hw new serial
  have ends := follows.ends hw ht
  have next := ends.follows fresh
  have full : admits config.windowMs config.max (serveAll config ⟨s, []⟩ vs).admitted v.time =
      false := by
    rw [ends.admitted] at rejected
    simpa using rejected
  have kept : (serve config (serveAll config ⟨s, []⟩ vs) v).admitted =
      (serveAll config ⟨s, []⟩ vs).admitted := by
    rw [ends.ledger, offer, full]
    rfl
  have some : 0 < load config.windowMs v.time (serveAll config ⟨s, []⟩ vs).admitted := by
    simp only [admits, decide_eq_false_iff_not] at full
    omega
  obtain ⟨oldest, first⟩ := exists_oldest some
  refine ⟨oldest, first, ?_⟩
  have least := next_admission follows.spaced (follows.counts.later ht).latest full first
  have same : {u | v.time < u ∧ AdmittedNext config s vs v u} =
      {u | v.time < u ∧
        admits config.windowMs config.max (serveAll config ⟨s, []⟩ vs).admitted u = true} := by
    ext u
    rw [Set.mem_ofPred_eq, Set.mem_ofPred_eq, and_congr_right_iff]
    intro later
    unfold AdmittedNext
    rw [serveAll_append]
    have decided : ∀ x : Visit key, x.time = u →
        (handle config (serve config (serveAll config ⟨s, []⟩ vs) v).sets x).throws =
          !admits config.windowMs config.max (serveAll config ⟨s, []⟩ vs).admitted u := by
      rintro x rfl
      rw [(next.ends hw later.le).admitted, kept]
    constructor
    · intro admitted
      have passed := (decided { v with time := u } rfl).symm.trans (admitted _ rfl)
      simpa using passed
    · intro room x hx
      exact (decided x hx).trans (by rw [room]; rfl)
  rw [same]
  exact least

/-- What a rejected request is told. -/
theorem reset_of_rejected (hw : 0 < config.windowMs) (new : s.find key = none)
    {vs : List (Visit key)} (serial : Serial (vs ++ [v]))
    (rejected : (handle config (serveAll config ⟨s, []⟩ vs).sets v).throws = true) :
    (handle config (serveAll config ⟨s, []⟩ vs).sets v).entity.reset =
      some (some (v.time + config.windowMs)) := by
  obtain ⟨-, t, members, follows, ht, -⟩ := follows_serial hw new serial
  have ends := follows.ends hw ht
  rw [ends.admitted] at rejected
  rw [ends.headers, if_neg (by simpa using rejected)]
  rfl

/-- The reset time that a rejected request is told is right if and only if every admission in its
window has its own clock value. -/
theorem reset_right_iff (hw : 0 < config.windowMs) (hm : 1 ≤ config.max)
    (new : s.find key = none) {vs : List (Visit key)} (serial : Serial (vs ++ [v]))
    (rejected : (handle config (serveAll config ⟨s, []⟩ vs).sets v).throws = true) :
    ResetRight config s vs v ↔ ∀ a ∈ (serveAll config ⟨s, []⟩ vs).admitted,
      inWindow config.windowMs v.time a = true → a = v.time := by
  obtain ⟨oldest, first, least⟩ := exists_least_next hw hm new serial rejected
  have told := reset_of_rejected hw new serial rejected
  constructor
  · rintro ⟨reset, header, right⟩ a ha inside
    rw [told] at header
    have same := right.unique least
    cases header
    have before := first.first a ha inside
    have beyond := (inWindow_iff.mp inside).1
    omega
  · intro now
    rw [now oldest first.mem first.inside] at least
    exact ⟨v.time + config.windowMs, told, least⟩

/-- Two requests at one clock value. -/
theorem reset_right_at_once :
    ResetRight ⟨10, 1⟩ .empty [bookingVisit 5 "a"] (bookingVisit 5 "b") := by
  have serial : Serial ([bookingVisit 5 "a"] ++ [bookingVisit 5 "b"]) := by
    constructor
    · decide
    · decide +kernel
  have rejected : (handle ⟨10, 1⟩ (serveAll ⟨10, 1⟩ ⟨.empty, []⟩ [bookingVisit 5 "a"]).sets
      (bookingVisit 5 "b")).throws = true := by
    decide +kernel
  have admitted : (serveAll ⟨10, 1⟩ ⟨.empty, []⟩ [bookingVisit 5 "a"]).admitted = [5] := by
    decide +kernel
  apply (reset_right_iff (by decide) (by decide) (Table.find_empty _) serial rejected).mpr
  rw [admitted]
  decide

/-- A request that is rejected later is told to wait too long. -/
theorem reset_too_late :
    ¬ ∀ (config : RateLimitConfig) (key : String) (s : SortedSets) (vs : List (Visit key))
      (v : Visit key), 0 < config.windowMs → 1 ≤ config.max → s.find key = none →
      Serial (vs ++ [v]) → (handle config (serveAll config ⟨s, []⟩ vs).sets v).throws = true →
      ResetRight config s vs v := by
  intro right
  have serial : Serial ([bookingVisit 5 "a"] ++ [bookingVisit 7 "b"]) := by
    constructor
    · decide
    · decide +kernel
  have rejected : (handle ⟨10, 1⟩ (serveAll ⟨10, 1⟩ ⟨.empty, []⟩ [bookingVisit 5 "a"]).sets
      (bookingVisit 7 "b")).throws = true := by
    decide +kernel
  have admitted : (serveAll ⟨10, 1⟩ ⟨.empty, []⟩ [bookingVisit 5 "a"]).admitted = [5] := by
    decide +kernel
  have new : (Table.empty : SortedSets).find bookingRequest.key = none := Table.find_empty _
  obtain ⟨reset, header, least⟩ := right ⟨10, 1⟩ _ .empty [bookingVisit 5 "a"] (bookingVisit 7 "b")
    (by decide) (by decide) new serial rejected
  obtain ⟨oldest, first, next⟩ := exists_least_next (by decide) (by decide) new serial rejected
  rw [reset_of_rejected (by decide) new serial rejected] at header
  cases header
  have told := least.unique next
  have oldest_eq := first.mem
  rw [admitted, List.mem_singleton] at oldest_eq
  subst oldest_eq
  revert told
  decide

end Ticketing.ApiGateway.RateLimit
