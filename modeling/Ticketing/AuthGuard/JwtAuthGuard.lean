import Ticketing.Base.Messages

/-!
# The guard of the routes

Library `AuthGuard`. Follows `libs/auth-guard/src/jwt-auth.guard.ts` and
`current-user.decorator.ts`. Verifying a token is a parameter.
-/

namespace Ticketing.AuthGuard

/-- The payload of a token, a JSON object; a value stands for its text. -/
abbrev Payload : Type := List (String × String)

/-- What the guard and the decorator see of a request. -/
structure HttpRequest where
  headers : List (String × String)
  user : Option Payload
  deriving DecidableEq, Repr

/-- `request.headers[name]`. -/
def HttpRequest.header (request : HttpRequest) (name : String) : Option String :=
  request.headers.lookup name

/-- `text.split(' ')`. -/
def splitSpaces (text : String) : List String := (text.toList.splitOn ' ').map String.ofList

/-- `JwtAuthGuard.canActivate` (`jwt-auth.guard.ts:30–65`): the request with its user, or what is
thrown. The `catch` block assigns `error.name` instead of comparing it, so that its first branch
is always taken. -/
def canActivate (verify : String → Option Payload) (isPublic : Bool) (request : HttpRequest) :
    Except Exception HttpRequest :=
  if isPublic then .ok request
  else
    match request.header "authorization" with
    | none | some "" => .error (.unauthorized "Authorization header is not provided")
    | some authorizationHeader =>
      match splitSpaces authorizationHeader with
      | authorizationType :: accessToken :: _ =>
        if authorizationType.toLower ≠ "bearer" then
          .error (.unauthorized "Invalid authorization type")
        else
          match verify accessToken with
          | some payload => .ok { request with user := some payload }
          | none => .error (.unauthorized "Token has expired")
      | _ => .error (.unauthorized "Invalid authorization header format")

/-- The token that the `authorization` header carries. -/
def HttpRequest.accessToken (request : HttpRequest) : Option String :=
  (request.header "authorization").bind fun text ↦ (splitSpaces text)[1]?

/-- `CurrentUser(data)`: a property of the user, `undefined` if it is missing. -/
def currentUser (data : String) (request : HttpRequest) : Option String :=
  request.user.bind fun user ↦ user.lookup data

/-- A request that passes on a protected route carries a token that was verified. -/
theorem verified_of_canActivate {verify : String → Option Payload} {request accepted : HttpRequest}
    (h : canActivate verify false request = .ok accepted) :
    ∃ token payload, request.accessToken = some token ∧ verify token = some payload ∧
      accepted = { request with user := some payload } := by
  unfold canActivate at h
  rw [if_neg (by simp)] at h
  split at h
  · cases h
  · cases h
  · next text hne hheader =>
    split at h
    · next type token rest hfields =>
      split at h
      · cases h
      · split at h
        · next payload hverify =>
          refine ⟨token, payload, ?_, hverify, (Except.ok.inj h).symm⟩
          simp [HttpRequest.accessToken, hheader, hfields]
        · cases h
    · cases h

/-- A header of the usual form has two parts. -/
theorem splitSpaces_bearer {token : String} (h : ' ' ∉ token.toList) :
    splitSpaces ("Bearer " ++ token) = ["Bearer", token] := by
  have words :
      ("Bearer " ++ token).toList = [' '].intercalate ["Bearer".toList, token.toList] := by
    simp [List.intercalate]
  have apart : ∀ word ∈ ["Bearer".toList, token.toList], ' ' ∉ word := by
    intro word hw
    simp only [List.mem_cons, List.not_mem_nil, or_false] at hw
    rcases hw with rfl | rfl
    · decide
    · exact h
  rw [splitSpaces, words, List.splitOn_intercalate _ apart (by simp)]
  simp

/-- A bearer header with a token of one word yields that token. -/
theorem accessToken_bearer {request : HttpRequest} {token : String} (h : ' ' ∉ token.toList)
    (hr : request.header "authorization" = some ("Bearer " ++ token)) :
    request.accessToken = some token := by
  rw [HttpRequest.accessToken, hr, Option.bind_some, splitSpaces_bearer h]
  rfl

/-- With a token that is verified, such a request passes. -/
theorem canActivate_bearer {verify : String → Option Payload} {request : HttpRequest}
    {token : String} {payload : Payload} (h : ' ' ∉ token.toList)
    (hr : request.header "authorization" = some ("Bearer " ++ token))
    (hv : verify token = some payload) :
    canActivate verify false request = .ok { request with user := some payload } := by
  have nonempty : "Bearer " ++ token ≠ "" := by simp
  have bearer : "Bearer".toLower = "bearer" := by decide +kernel
  unfold canActivate
  rw [if_neg (by simp), hr]
  split
  · next he => cases he
  · next he => exact absurd (Option.some.inj he) nonempty
  · next text _ he =>
    cases he
    simp [splitSpaces_bearer h, bearer, hv]

end Ticketing.AuthGuard
