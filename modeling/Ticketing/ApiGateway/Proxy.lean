import Ticketing.AuthGuard.JwtAuthGuard
import Ticketing.Store.Table

/-!
# The proxy of the gateway

Library `ApiGateway`. Follows `proxy/proxy.service.ts` behind `JwtAuthGuard`. The names of inbound
headers are in lower case, as Node has them; a header whose value is `undefined` is not sent. The
service that a request is forwarded to is a parameter, and so is the verification of tokens.
-/

namespace Ticketing.ApiGateway.Proxy

open AuthGuard Store

/-- `req.headers`. -/
abbrev HeaderMap : Type := Table (Prod.fst : String × String → String)

/-- `req.headers[name]`. -/
def HeaderMap.value (headers : HeaderMap) (name : String) : Option String :=
  (headers.find name).map Prod.snd

/-- A request to the gateway. -/
structure Inbound where
  method : String
  originalUrl : String
  headers : HeaderMap
  body : String

/-- The headers of the request to a service, with values that may be `undefined`. -/
abbrev OutboundHeaders : Type := Table (Prod.fst : String × Option String → String)

/-- The request to a service. -/
structure Outbound where
  method : String
  url : String
  headers : OutboundHeaders
  data : String

/-- The value of a header that is sent. -/
def OutboundHeaders.value (headers : OutboundHeaders) (name : String) : Option String :=
  (headers.find name).bind Prod.snd

/-- The response of a service. -/
structure Upstream where
  status : Nat
  headers : List (String × String)
  data : String

/-- What the gateway answers with. -/
inductive Body where
  | data (text : String)
  | json (statusCode : Nat) (message : String)

/-- The answer of the gateway. -/
structure Reply where
  status : Nat
  headers : List (String × String) := []
  body : Body

/-- `skipHeaders`. -/
def skipHeaders : List String := ["host", "connection", "content-length"]

/-- The loop over `req.headers`. -/
def copyHeaders (headers : HeaderMap) : OutboundHeaders :=
  headers.rows.foldl
    (fun copied (key, value) ↦
      if !skipHeaders.contains key then copied.put (key, some value) else copied) .empty

/-- The headers that are set for a user. -/
def setUser (headers : OutboundHeaders) (user : Payload) : Except Exception OutboundHeaders :=
  let headers := headers.put ("x-user-id", user.lookup "id")
  let headers := headers.put ("x-user-email", user.lookup "email")
  let headers := headers.put ("x-user-role", user.lookup "role")
  match user.lookup "emailVerified" with
  | none => .error (.failure "Cannot read properties of undefined (reading 'toString')")
  | some emailVerified => .ok (headers.put ("x-user-email-verified", some emailVerified))

/-- The headers that are sent. -/
def outboundHeaders (request : Inbound) (user : Option Payload) :
    Except Exception OutboundHeaders :=
  match user with
  | none => .ok (copyHeaders request.headers)
  | some user => setUser (copyHeaders request.headers) user

/-- The answer to a response, or to a failure. -/
def answer (target : String) : Except String Upstream → Reply
  | .ok response =>
    { status := response.status
      headers := response.headers.filter fun (key, value) ↦
        value ≠ "" && key ≠ "transfer-encoding"
      body := .data response.data }
  | .error _ =>
    { status := 502, body := .json 502 ("Service " ++ target ++ " is not available") }

/-- `ProxyService.forward` (`proxy.service.ts:12–59`): the request that is sent and the answer. -/
def forward (http : Outbound → Except String Upstream) (target : String) (request : Inbound)
    (user : Option Payload) : Except Exception (Outbound × Reply) := do
  let headers ← outboundHeaders request user
  let sent : Outbound :=
    { method := request.method
      url := target ++ request.originalUrl
      headers
      data := request.body }
  pure (sent, answer target (http sent))

/-- A route of the gateway: the guard and the proxy. -/
structure Route where
  /-- The handler or its controller is `@Public()`. -/
  isPublic : Bool
  target : String
  verify : String → Option Payload
  http : Outbound → Except String Upstream

/-- What the guard sees of a request that has come in. -/
def Inbound.guarded (request : Inbound) : HttpRequest := ⟨request.headers.rows, none⟩

/-- A request is guarded and forwarded. -/
def Route.handle (route : Route) (request : Inbound) : Except Exception (Outbound × Reply) := do
  let accepted ← canActivate route.verify route.isPublic request.guarded
  forward route.http route.target request accepted.user

/-! ### The identity that is forwarded -/

/-- The headers that tell a service who the user is, and the claims that they stand for. -/
def identityHeaders : List (String × String) :=
  [("x-user-id", "sub"), ("x-user-email", "email"), ("x-user-role", "role"),
    ("x-user-email-verified", "emailVerified")]

/-- The payload of the token that the guard verified. -/
def Route.verified (route : Route) (request : Inbound) : Option Payload :=
  match canActivate route.verify route.isPublic request.guarded with
  | .ok accepted => accepted.user
  | .error _ => none

/-- The identity that is forwarded is that of the verified token. -/
def IdentityVerified (route : Route) (request : Inbound) : Prop :=
  ∀ sent reply, route.handle request = .ok (sent, reply) →
    ∀ header ∈ identityHeaders, sent.headers.value header.1 =
      (route.verified request).bind (·.lookup header.2)

/-- The identity headers of the request that is sent, or what is thrown instead. -/
def Route.identity (route : Route) (request : Inbound) :
    Except Exception (List (Option String)) :=
  (route.handle request).map fun out ↦
    identityHeaders.map fun header ↦ out.1.headers.value header.1

/-- A header that a client could use to name a user. -/
def isUserHeader (name : String) : Bool := "x-user-".toList.isPrefixOf name.toList

/-- The requests differ only in such headers. -/
structure SameButUser (request other : Inbound) : Prop where
  method : request.method = other.method
  originalUrl : request.originalUrl = other.originalUrl
  body : request.body = other.body
  headers : ∀ name, isUserHeader name = false →
    request.headers.value name = other.headers.value name

/-- A header is copied unless the gateway skips it. -/
theorem find_copyHeaders (headers : HeaderMap) (name : String) :
    (copyHeaders headers).find name =
      if skipHeaders.contains name then none
      else (headers.find name).map fun header ↦ (header.1, some header.2) := by
  let kept := headers.rows.filter fun header ↦ !skipHeaders.contains header.1
  have copied : copyHeaders headers =
      Table.empty.putAll (kept.map fun header ↦ (header.1, some header.2)) := by
    unfold copyHeaders Table.putAll
    rw [List.foldl_map, List.foldl_filter]
  have keys : (kept.map fun header ↦ (header.1, some header.2)).map Prod.fst =
      kept.map Prod.fst := by
    simp
  have nodup : (kept.map Prod.fst).Nodup := headers.nodup.sublist (List.filter_sublist.map _)
  rw [copied, Table.find_putAll _ _ (keys ▸ nodup), Table.find_empty, Option.or_none,
    List.find?_map, List.find?_filter]
  have same : (fun header : String × String ↦ decide ((!skipHeaders.contains header.1) = true ∧
      ((fun r : String × Option String ↦ decide (r.1 = name)) ∘
        fun header : String × String ↦ (header.1, some header.2)) header = true)) =
      fun header ↦ !skipHeaders.contains name && decide (header.1 = name) := by
    funext header
    by_cases h : header.1 = name
    · simp [h]
    · simp [h]
  rw [same]
  split
  · next skipped =>
    rw [skipped]
    simp
  · next copied =>
    rw [Bool.not_eq_true] at copied
    simp only [copied, Bool.not_false, Bool.true_and, Table.find]

/-- The identity that is copied from the client. -/
theorem value_copyHeaders (headers : HeaderMap) {header : String × String}
    (h : header ∈ identityHeaders) :
    (copyHeaders headers).value header.1 = headers.value header.1 := by
  have sent : skipHeaders.contains header.1 = false := by
    revert header
    decide
  rw [OutboundHeaders.value, HeaderMap.value, find_copyHeaders, sent]
  cases headers.find header.1 <;> rfl

/-- The identity in headers that are sent. -/
def OutboundHeaders.identity (headers : OutboundHeaders) : List (Option String) :=
  identityHeaders.map fun header ↦ headers.value header.1

/-- The identity that is set for a user, unless it does not say whether its e-mail is verified. -/
theorem setUser_identity (headers : OutboundHeaders) (user : Payload) :
    (setUser headers user).map OutboundHeaders.identity =
      if user.lookup "emailVerified" = none then
        .error (.failure "Cannot read properties of undefined (reading 'toString')")
      else .ok (["id", "email", "role", "emailVerified"].map fun claim ↦ user.lookup claim) := by
  unfold setUser
  dsimp only
  split
  · next missing =>
    rw [if_pos missing]
    rfl
  · next emailVerified told =>
    rw [if_neg (by rw [told]; simp)]
    simp [Except.map, OutboundHeaders.identity, OutboundHeaders.value, identityHeaders,
      Table.find_put, told]

/-- The user that the guard lets through. -/
def Route.user (route : Route) (request : Inbound) : Except Exception (Option Payload) :=
  (canActivate route.verify route.isPublic request.guarded).map HttpRequest.user

/-- What is forwarded is what the guard lets through, with its user. -/
theorem handle_headers (route : Route) (request : Inbound) :
    (route.handle request).map (fun out ↦ out.1.headers) =
      (route.user request).bind (outboundHeaders request) := by
  unfold Route.handle Route.user forward
  cases canActivate route.verify route.isPublic request.guarded with
  | error e => rfl
  | ok accepted =>
    simp only [bind, Except.bind, Except.map]
    cases outboundHeaders request accepted.user <;> rfl

/-- The identity that is forwarded. -/
theorem identity_eq (route : Route) (request : Inbound) :
    route.identity request =
      (route.user request).bind fun user ↦
        (outboundHeaders request user).map OutboundHeaders.identity := by
  have headers := handle_headers route request
  have composed : route.identity request =
      ((route.handle request).map fun out ↦ out.1.headers).map OutboundHeaders.identity := by
    unfold Route.identity
    cases route.handle request <;> rfl
  rw [composed, headers]
  cases route.user request <;> rfl

/-- The identity is verified where what is forwarded are the claims of the token. -/
theorem identityVerified_iff {route : Route} {request : Inbound} :
    IdentityVerified route request ↔ ∀ identity, route.identity request = .ok identity →
      identity = identityHeaders.map fun header ↦
        (route.verified request).bind (·.lookup header.2) := by
  unfold IdentityVerified Route.identity
  constructor
  · intro h identity hi
    cases hh : route.handle request with
    | error e =>
      rw [hh] at hi
      cases hi
    | ok out =>
      rw [hh] at hi
      cases hi
      exact List.map_congr_left fun header hm ↦ h out.1 out.2 hh header hm
  · intro h sent reply hh header hm
    have same := h _ (by rw [hh]; rfl)
    exact List.map_inj_left.mp same header hm

/-- A public route verifies nobody. -/
theorem user_of_public {route : Route} (h : route.isPublic = true) (request : Inbound) :
    route.user request = .ok none := by
  unfold Route.user canActivate
  rw [h]
  rfl

/-- A protected route lets only users through. -/
theorem user_of_protected {route : Route} (h : route.isPublic = false) {request : Inbound}
    {user : Option Payload} (hu : route.user request = .ok user) :
    ∃ payload, user = some payload := by
  unfold Route.user at hu
  cases hg : canActivate route.verify route.isPublic request.guarded with
  | error e =>
    rw [hg] at hu
    cases hu
  | ok accepted =>
    rw [hg] at hu
    cases hu
    rw [h] at hg
    obtain ⟨token, payload, -, -, rfl⟩ := verified_of_canActivate hg
    exact ⟨payload, rfl⟩

/-- The verified token is that of the user who is let through. -/
theorem verified_eq {route : Route} {request : Inbound} {user : Option Payload}
    (h : route.user request = .ok user) : route.verified request = user := by
  unfold Route.user at h
  unfold Route.verified
  cases hg : canActivate route.verify route.isPublic request.guarded with
  | error e =>
    rw [hg] at h
    cases h
  | ok accepted =>
    rw [hg] at h
    cases h
    rfl

/-- Where nobody is let through, no token was verified. -/
theorem verified_of_error {route : Route} {request : Inbound} {e : Exception}
    (h : route.user request = .error e) : route.verified request = none := by
  unfold Route.user at h
  unfold Route.verified
  cases hg : canActivate route.verify route.isPublic request.guarded with
  | error e => rfl
  | ok accepted =>
    rw [hg] at h
    cases h

/-- What the guard reads of a header. -/
theorem header_guarded (request : Inbound) (name : String) :
    request.guarded.header name = request.headers.value name := by
  show request.headers.rows.lookup name =
    (request.headers.rows.find? fun header ↦ header.1 = name).map Prod.snd
  induction request.headers.rows with
  | nil => rfl
  | cons header rows ih =>
    obtain ⟨key, value⟩ := header
    rw [List.lookup_cons, List.find?_cons]
    by_cases h : key = name
    · simp [h]
    · have other : (name == key) = false := by simpa using Ne.symm h
      simp only [other, h, decide_false]
      exact ih

/-- The guard reads no header that could name a user. -/
theorem user_congr (route : Route) {request other : Inbound} (same : SameButUser request other) :
    route.user request = route.user other := by
  have header : request.guarded.header "authorization" = other.guarded.header "authorization" := by
    rw [header_guarded, header_guarded]
    exact same.headers _ (by decide)
  unfold Route.user canActivate
  rw [header]
  split
  · rfl
  split
  · rfl
  · rfl
  split
  · split
    · rfl
    split
    · rfl
    · rfl
  · rfl

/-- On a public route the client names no user; on a protected one the `id` claim of the token is
its `sub` claim, unless the claim is missing that `forward` needs. -/
structure Unforged (route : Route) (request : Inbound) : Prop where
  unnamed : route.isPublic = true →
    ∀ header ∈ identityHeaders, request.headers.value header.1 = none
  same : ∀ payload, route.verified request = some payload →
    payload.lookup "emailVerified" ≠ none → payload.lookup "id" = payload.lookup "sub"

/-- The identity on a public route is what the client sent. -/
theorem identity_of_public {route : Route} (h : route.isPublic = true) (request : Inbound) :
    route.identity request = .ok (identityHeaders.map fun header ↦
      request.headers.value header.1) := by
  rw [identity_eq, user_of_public h]
  show Except.ok (copyHeaders request.headers).identity = _
  apply congrArg
  exact List.map_congr_left fun header hm ↦ value_copyHeaders request.headers hm

/-- The identity on a protected route is that of the user. -/
theorem identity_of_user {route : Route} {request : Inbound} {payload : Payload}
    (h : route.user request = .ok (some payload)) :
    route.identity request =
      if payload.lookup "emailVerified" = none then
        .error (.failure "Cannot read properties of undefined (reading 'toString')")
      else .ok (["id", "email", "role", "emailVerified"].map fun claim ↦ payload.lookup claim) := by
  rw [identity_eq, h]
  exact setUser_identity _ payload

/-- On a public route the identity is verified if the client sends none. -/
theorem identityVerified_of_public {route : Route} (h : route.isPublic = true)
    (request : Inbound) : IdentityVerified route request ↔
      ∀ header ∈ identityHeaders, request.headers.value header.1 = none := by
  rw [identityVerified_iff, identity_of_public h, verified_eq (user_of_public h request)]
  constructor
  · intro told
    exact List.map_inj_left.mp (told _ rfl)
  · intro unnamed identity hi
    cases hi
    exact List.map_congr_left unnamed

/-- On a protected route it is, if `id` and `sub` are the same. -/
theorem identityVerified_of_protected {route : Route} (h : route.isPublic = false)
    (request : Inbound) : IdentityVerified route request ↔
      ∀ payload, route.verified request = some payload →
        payload.lookup "emailVerified" ≠ none → payload.lookup "id" = payload.lookup "sub" := by
  rw [identityVerified_iff]
  cases hu : route.user request with
  | error e =>
    rw [verified_of_error hu, identity_eq, hu]
    constructor
    · intro _ payload hv
      cases hv
    · intro _ identity hi
      cases hi
  | ok user =>
    obtain ⟨payload, rfl⟩ := user_of_protected h hu
    rw [identity_of_user hu, verified_eq hu]
    constructor
    · intro told payload' hv some
      cases hv
      rw [if_neg some] at told
      have same := told _ rfl
      simp only [identityHeaders, List.map_cons, List.cons.injEq] at same
      exact same.1
    · intro same identity hi
      split at hi
      · cases hi
      · next some =>
        cases hi
        simp [identityHeaders, same payload rfl some]

/-- Where the guard lets a user through, the client cannot change the identity. -/
theorem identity_congr_of_protected {route : Route} (h : route.isPublic = false)
    {request other : Inbound} (like : SameButUser request other) :
    route.identity request = route.identity other := by
  have users := user_congr route like
  cases hu : route.user request with
  | error e =>
    rw [identity_eq, identity_eq, ← users, hu]
    rfl
  | ok user =>
    obtain ⟨payload, rfl⟩ := user_of_protected h hu
    rw [identity_of_user hu, identity_of_user (users ▸ hu)]

/-- The identity that is forwarded is that of the verified token if and only if it is not forged;
requests that differ only in headers that could name a user have the same identity if and only if
the route is protected or the identity headers are the same. -/
theorem identity_verified_iff (route : Route) :
    (∀ request, IdentityVerified route request ↔ Unforged route request) ∧
    ∀ request other, SameButUser request other →
      (route.identity request = route.identity other ↔ route.isPublic = false ∨
        ∀ header ∈ identityHeaders,
          request.headers.value header.1 = other.headers.value header.1) := by
  cases hp : route.isPublic with
  | true =>
    constructor
    · intro request
      rw [identityVerified_of_public hp]
      constructor
      · intro unnamed
        refine ⟨fun _ ↦ unnamed, ?_⟩
        intro payload hv
        rw [verified_eq (user_of_public hp request)] at hv
        cases hv
      · exact fun unforged ↦ unforged.unnamed hp
    · intro request other _
      rw [identity_of_public hp, identity_of_public hp, Except.ok.injEq, List.map_inj_left]
      simp
  | false =>
    constructor
    · intro request
      rw [identityVerified_of_protected hp]
      constructor
      · intro same
        refine ⟨?_, same⟩
        intro opened
        rw [hp] at opened
        cases opened
      · exact fun unforged ↦ unforged.same
    · exact fun request other like ↦
        iff_of_true (identity_congr_of_protected hp like) (.inl rfl)

/-- The holds route, in front of a service that answers. -/
def holds : Route where
  isPublic := true
  target := "http://inventory"
  verify _ := none
  http _ := .ok ⟨200, [], ""⟩

/-- A client names a user itself. -/
def forged : Inbound where
  method := "POST"
  originalUrl := "/api/holds"
  headers := ⟨[("x-user-id", "victim")], by decide⟩
  body := ""

/-- A service is told an identity that nobody verified. -/
theorem identity_forged :
    ¬ ∀ (route : Route) (request : Inbound), IdentityVerified route request := by
  intro verified
  have told := identityVerified_iff.mp (verified holds forged) _ (identity_of_public rfl forged)
  revert told
  decide

end Ticketing.ApiGateway.Proxy
