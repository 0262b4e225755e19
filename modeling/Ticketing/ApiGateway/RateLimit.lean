import Ticketing.Async.Play
import Ticketing.Async.Triples
import Ticketing.Base.Values
import Ticketing.Store.SortedSets

/-!
# The rate limiter of the gateway

Library `ApiGateway`. Follows `rate-limit/rate-limit.interceptor.ts`. The reading of the clock and
the Redis commands of a request are operations, in the order of the source; other requests may run
between them. A key is gone some time after the moment at which it expires.
-/

namespace Ticketing.ApiGateway.RateLimit

open Async Store

/-- `RateLimitConfig`. -/
structure RateLimitConfig where
  windowMs : Nat
  max : Nat
  deriving DecidableEq, Repr

/-- The parts of a request that the limiter reads; `request.url` is the path with the query. -/
structure Request where
  ip : Option String := none
  forwardedFor : Option String := none
  method : String
  path : String
  query : String := ""
  deriving DecidableEq, Repr

/-- What the limiter awaits: Redis commands, and the clock and the random numbers. -/
inductive Op where
  | now
  | random
  | zremrangebyscore (key : String) (min max : Int)
  | zcard (key : String)
  | zrange (key : String) (start stop : Nat)
  | zadd (key : String) (score : Nat) (member : String)
  | pexpire (key : String) (ms : Nat)
  deriving DecidableEq

/-- The replies. -/
abbrev Res : Op → Type
  | .now | .zcard _ => Nat
  | .random => String
  | .zrange _ _ _ => List String
  | .zremrangebyscore _ _ _ | .zadd _ _ _ | .pexpire _ _ => Unit

/-- What is thrown: an `HttpException`, with its status, or another error. -/
inductive Error where
  | http (statusCode : Nat) (message : String) (retryAfter : Option Int)
  | failure (message : String)
  deriving DecidableEq, Repr

/-- The operations of the limiter. -/
abbrev sig : Sig := ⟨Op, Res, Error⟩

/-- What the environment decides at one operation: whether it fails, the time, a random number as
text, and whether the keys whose time has come are gone. -/
structure Choice where
  now : Nat := 0
  random : String := ""
  expires : Bool := false
  fault : Option String := none

/-- The effect of an operation that does not fail. -/
def perform (x : Choice) : (o : Op) → SortedSets → sig.Answer o × SortedSets
  | .now, s => (.ok x.now, s)
  | .random, s => (.ok x.random, s)
  | .zremrangebyscore key min max, s => (.ok (), s.zremrangebyscore key min max)
  | .zcard key, s => (.ok (s.zcard key), s)
  | .zrange key start stop, s => (.ok (s.zrange key start stop), s)
  | .zadd key score member, s => (.ok (), s.zadd key score member)
  | .pexpire key ms, s => (.ok (), s.pexpire key x.now ms)

/-- A Redis command. -/
def Op.redis : Op → Bool
  | .now | .random => false
  | _ => true

/-- One operation: a Redis command fails without effect, or has its effect. -/
def exec (x : Choice) (o : Op) (s : SortedSets) : sig.Answer o × SortedSets :=
  if o.redis then
    let s := if x.expires then s.expire x.now else s
    match x.fault with
    | some message => (.error (.failure message), s)
    | none => perform x o s
  else perform x o s

/-- The headers that the limiter sets on the response; the reset time may be `NaN`. -/
structure Headers where
  limit : Option Nat := none
  remaining : Option Nat := none
  reset : Option (Option Nat) := none
  deriving DecidableEq, Repr

/-- Await one operation. -/
abbrev await (o : Op) : Code sig Headers (Res o) := Code.await (S := sig) o

/-- `request.ip || request.headers['x-forwarded-for'] || 'unknown'`. -/
def Request.client (request : Request) : String :=
  orElse request.ip (orElse request.forwardedFor "unknown")

/-- `rate-limit:${ip}:${request.method}:${request.url}`. -/
def Request.key (request : Request) : String :=
  "rate-limit:" ++ request.client ++ ":" ++ request.method ++ ":" ++ (request.path ++ request.query)

/-- `parseInt` on the text of a score, which has neither a sign nor a radix; `none` is `NaN`. -/
def parseInt (text : String) : Option Nat :=
  match text.toList.takeWhile Char.isDigit with
  | [] => none
  | digits => some (digits.foldl (fun n c ↦ 10 * n + (c.toNat - '0'.toNat)) 0)

/-- The reset time of a rejected request, from the reply to `ZRANGE`. -/
def resetTime (config : RateLimitConfig) (now : Nat) (oldestEntry : List String) : Option Nat :=
  match oldestEntry with
  | _ :: score :: _ => (parseInt score).map (· + config.windowMs)
  | _ => some (now + config.windowMs)

/-- The answer to a request that is rejected: status 429, and the seconds that are left. -/
def tooManyRequests (resetTime : Option Nat) (now : Nat) : Error :=
  .http 429 "Too many requests, please try again later"
    (resetTime.map fun time ↦ -((-((time : Int) - now)) / 1000))

/-- The member of a request in its set: `${now}:${Math.random()}`. -/
def memberOf (now : Nat) (random : String) : String := toString now ++ ":" ++ random

/-- The commands of a request that is limited. It returns where the handler is called. -/
def limit (config : RateLimitConfig) (key : String) : Code sig Headers Unit := do
  let now ← await .now
  await (.zremrangebyscore key 0 ((now : Int) - config.windowMs))
  let count ← await (.zcard key)
  -- Subtraction ends at zero, as `Math.max(0, …)` does.
  Code.assign fun headers ↦
    { headers with limit := some config.max, remaining := some (config.max - count - 1) }
  if config.max ≤ count then
    let oldestEntry ← await (.zrange key 0 0)
    let reset := resetTime config now oldestEntry
    Code.assign fun headers ↦ { headers with reset := some reset }
    throw (tooManyRequests reset now)
  else
    let random ← await .random
    await (.zadd key now (memberOf now random))
    await (.pexpire key config.windowMs)

/-- `RateLimitInterceptor.intercept` (`rate-limit.interceptor.ts:33–93`). A request goes on to its
handler where no limit is configured, where it is admitted, and where Redis fails. -/
def intercept (config : Option RateLimitConfig) (request : Request) : Code sig Headers Unit :=
  match config with
  | none => pure ()
  | some config =>
    tryCatch (limit config request.key) fun error ↦
      match error with
      | .http _ _ _ => throw error
      | .failure _ => pure ()

end Ticketing.ApiGateway.RateLimit
