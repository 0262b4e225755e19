import Ticketing.AuthService.OneTimeTokens
import Ticketing.BookingService.Controller

/-!
# The identity of the user is lost

Library `System`. `generateTokens` signs the user's identifier as `sub`, and the routes of the
booking service read `id`: they work for a user who is `undefined`.
-/

namespace Ticketing.System

open Async AuthGuard

/-- The text of a uuid. -/
def uuidText (id : Id) : String := toString id

/-- The payload that `generateTokens` signs, as an object. -/
def properties (payload : AuthService.JwtPayload) : Payload :=
  [("sub", uuidText payload.sub), ("email", payload.email), ("role", payload.role.value),
    ("emailVerified", toString payload.emailVerified)]

/-- `jwt.verify` returns the payload that was signed, with the claims that `sign` adds. -/
def VerifiesSigned (E : AuthService.Env) (verify : String → Option Payload) : Prop :=
  ∀ payload expiresIn issuedAt object, verify (E.sign payload expiresIn issuedAt) = some object →
    ∃ added, object = properties payload ++ added ∧ ∀ p ∈ added, p.1 = "iat" ∨ p.1 = "exp"

/-- The routes work for the user: the identifier is the user's, bookings that are created belong
to the user, who may cancel exactly the own ones and is shown exactly these. -/
structure IdentityPreserved (u : AuthService.User) (accepted : HttpRequest)
    (s : BookingService.Db) : Prop where
  passed : currentUser "id" accepted = some (uuidText u.id)
  created : ∀ dto x, ∀ b ∈ ((BookingService.BookingController.create accepted dto).exec
    (BookingService.deciding x) 0 () s).state.bookings.rows,
      s.bookings.find b.id = none → b.userId = uuidText u.id
  cancelled : ∀ b ∈ s.bookings.rows,
    b.notOwnedBy (currentUser "id" accepted) = false ↔ b.userId = uuidText u.id
  mine : BookingService.BookingController.findMyBookings accepted s =
    ((s.bookings.rows.filter fun b ↦ b.userId = uuidText u.id).reverse).map s.view

/-- What the routes do instead: no booking is created or cancelled, and everybody's bookings are
shown. -/
structure IdentityLost (accepted : HttpRequest) (s : BookingService.Db) : Prop where
  passed : currentUser "id" accepted = none
  created : ∀ dto x, ((BookingService.BookingController.create accepted dto).exec
    (BookingService.deciding x) 0 () s).state = s
  cancelled : ∀ id key reason x, ∃ e,
    ((BookingService.BookingController.cancel accepted id key reason).exec
      (BookingService.deciding x) 0 () s).result = .error e
  mine : BookingService.BookingController.findMyBookings accepted s =
    s.bookings.rows.reverse.map s.view

/-- The routes for a user who is `undefined`. -/
theorem IdentityLost.of_undefined {accepted : HttpRequest}
    (h : currentUser "id" accepted = none) (s : BookingService.Db) : IdentityLost accepted s where
  passed := h
  created dto x := by
    unfold BookingService.BookingController.create
    rw [h]
    exact BookingService.createBookingOf_none x s dto
  cancelled id key reason x := by
    unfold BookingService.BookingController.cancel
    rw [h]
    exact BookingService.cancelBookingOf_none x s id key reason
  mine := by
    unfold BookingService.BookingController.findMyBookings
    rw [h]
    exact BookingService.findByUserId_none s

variable {E : AuthService.Env} {σ : Type} {h : Handler AuthService.sig σ}

/-- The access token is the signed payload of the user. -/
theorem generateTokens_signs (userId : Id) (email : String) (role : AuthService.UserRole)
    (emailVerified : Bool) :
    Code.Leaves h (fun _ _ ↦ True) (AuthService.generateTokens E userId email role emailVerified)
      (fun tokens _ _ ↦ ∃ issuedAt, tokens.accessToken =
        E.sign ⟨userId, email, role, emailVerified⟩ E.jwtAccessExpiry issuedAt)
      fun _ _ _ ↦ True := by
  have anything : ∀ o : AuthService.Op, Code.Leaves (L := Unit) h (fun _ _ ↦ True)
      (AuthService.await o) (fun _ _ _ ↦ True) fun _ _ _ ↦ True :=
    fun _ ↦ .await (fun _ _ _ _ _ _ _ ↦ trivial) fun _ _ _ _ _ _ _ ↦ trivial
  unfold AuthService.generateTokens
  refine .bind (anything _) fun issuedAt ↦ .bind (anything _) fun refreshToken ↦ ?_
  refine .bind (anything _) fun now ↦ .bind (anything _) fun row ↦ ?_
  exact .ret _ fun _ _ _ ↦ ⟨issuedAt, rfl⟩

/-- The signed payload has no `id`. -/
theorem lookup_id {p : AuthService.JwtPayload} {added : Payload}
    (h : ∀ q ∈ added, q.1 = "iat" ∨ q.1 = "exp") :
    (properties p ++ added).lookup "id" = none := by
  rw [List.lookup_eq_none_iff]
  intro q hq
  rcases List.mem_append.mp hq with hq | hq
  · simp only [properties, List.mem_cons, List.not_mem_nil, or_false] at hq
    rcases hq with rfl | rfl | rfl | rfl <;> simp
  · rcases h q hq with hk | hk <;> simp [hk]

/-- Whatever the content of the bookings table, the routes do not work for a user whose access
token the guard has accepted: the identifier that they pass on is `undefined`. -/
theorem identity_lost {verify : String → Option Payload} (verifies : VerifiesSigned E verify)
    (u : AuthService.User) {n : Nat} {d : σ} {tokens : AuthService.Tokens}
    (generated : ((AuthService.generateTokens E u.id u.email u.role u.emailVerified).exec h n ()
      d).result = .ok tokens)
    {request accepted : HttpRequest} (carries : request.accessToken = some tokens.accessToken)
    (accepts : canActivate verify false request = .ok accepted) (s : BookingService.Db) :
    IdentityLost accepted s ∧ ¬ IdentityPreserved u accepted s := by
  have signed : ∃ issuedAt, tokens.accessToken =
      E.sign ⟨u.id, u.email, u.role, u.emailVerified⟩ E.jwtAccessExpiry issuedAt := by
    have left := generateTokens_signs (E := E) (h := h) u.id u.email u.role u.emailVerified n () d
      trivial
    split at left
    · next a l m d' hr =>
      rw [hr] at generated
      cases generated
      exact left
    · next e l m d' hr =>
      rw [hr] at generated
      cases generated
  obtain ⟨issuedAt, hsign⟩ := signed
  obtain ⟨token, payload, htoken, hverify, rfl⟩ := verified_of_canActivate accepts
  rw [carries] at htoken
  cases htoken
  rw [hsign] at hverify
  obtain ⟨added, rfl, hadded⟩ := verifies _ _ _ _ hverify
  have missing := lookup_id (p := ⟨u.id, u.email, u.role, u.emailVerified⟩) hadded
  have undefined : currentUser "id" { request with user := some (properties ⟨u.id, u.email, u.role,
      u.emailVerified⟩ ++ added) } = none := missing
  refine ⟨.of_undefined undefined s, ?_⟩
  intro preserved
  have passed := preserved.passed
  rw [undefined] at passed
  cases passed

/-! ### A user with a booking -/

/-- The user who has registered. -/
def sampleUser : AuthService.User :=
  { AuthService.User.create "a@example.com" "" "A" none .user with id := 0 }

/-- The access token of the user. -/
def sampleToken : String :=
  AuthService.sampleEnv.sign ⟨0, "a@example.com", .user, false⟩ "15m" AuthService.sampleTime

/-- The payload of the token. -/
def sampleVerify (token : String) : Option Payload :=
  if token = sampleToken then
    some (properties ⟨0, "a@example.com", .user, false⟩ ++
      [("iat", "1700000000"), ("exp", "1700000900")])
  else none

/-- A request with the token. -/
def sampleRequest : HttpRequest := ⟨[("authorization", "Bearer " ++ sampleToken)], none⟩

/-- The request that the guard passes on. -/
def sampleAccepted : HttpRequest := { sampleRequest with user := sampleVerify sampleToken }

/-- The sample token is one word. -/
theorem sampleToken_spaceless : ' ' ∉ sampleToken.toList := by
  unfold sampleToken AuthService.sampleEnv
  dsimp only
  rw [if_pos ⟨rfl, rfl, rfl⟩]
  simp only [String.toList_append, List.mem_append, not_or]
  decide +kernel

/-- The sample token is not empty. -/
theorem sampleToken_ne : "" ≠ sampleToken := by
  unfold sampleToken AuthService.sampleEnv
  dsimp only
  rw [if_pos ⟨rfl, rfl, rfl⟩]
  simp

/-- The token is the one that is verified. -/
theorem sampleVerify_token :
    sampleVerify sampleToken = some (properties ⟨0, "a@example.com", .user, false⟩ ++
      [("iat", "1700000000"), ("exp", "1700000900")]) :=
  if_pos rfl

/-- The sample verifies what it signed. -/
theorem sampleVerify_signed : VerifiesSigned AuthService.sampleEnv sampleVerify := by
  intro payload expiresIn issuedAt object hv
  by_cases signs : payload = ⟨0, "a@example.com", .user, false⟩ ∧ expiresIn = "15m" ∧
      issuedAt = 1700000000000
  · have token : AuthService.sampleEnv.sign payload expiresIn issuedAt = sampleToken := by
      obtain ⟨rfl, rfl, rfl⟩ := signs
      rfl
    rw [token, sampleVerify, if_pos rfl] at hv
    rw [signs.1]
    exact ⟨_, (Option.some.inj hv).symm, by simp⟩
  · have token : AuthService.sampleEnv.sign payload expiresIn issuedAt = "" := if_neg signs
    rw [token, sampleVerify, if_neg sampleToken_ne] at hv
    cases hv

/-- The tokens that the user is given. -/
theorem generateTokens_sample : ((AuthService.generateTokens AuthService.sampleEnv sampleUser.id
    sampleUser.email sampleUser.role sampleUser.emailVerified).exec (AuthService.deciding
      (AuthService.given AuthService.verificationToken AuthService.sampleTime)) 0 ()
        AuthService.registered).result = .ok ⟨sampleToken, AuthService.verificationToken⟩ :=
  rfl

/-- The sample request carries the sample token. -/
theorem sampleRequest_token : sampleRequest.accessToken = some sampleToken :=
  accessToken_bearer sampleToken_spaceless rfl

/-- The guard accepts the sample request. -/
theorem canActivate_sample : canActivate sampleVerify false sampleRequest = .ok sampleAccepted := by
  rw [canActivate_bearer sampleToken_spaceless rfl sampleVerify_token, sampleAccepted,
    sampleVerify_token]

/-- The identifier of the registered user does not arrive. -/
theorem identity_lost_sample :
    IdentityLost sampleAccepted BookingService.Db.empty ∧
      ¬ IdentityPreserved sampleUser sampleAccepted BookingService.Db.empty := by
  exact identity_lost sampleVerify_signed sampleUser generateTokens_sample sampleRequest_token
    canActivate_sample BookingService.Db.empty

/-- The user's own booking, and one of somebody else. -/
def twoBookings : BookingService.Db :=
  let own := BookingService.newBooking ⟨"0", "e", "s", "c", "p", none, []⟩ "BK-1" 5000 "TRY" 0
  let other := BookingService.newBooking ⟨"1", "e", "s", "c", "p", none, []⟩ "BK-2" 5000 "TRY" 0
  { BookingService.Db.empty with
    bookings := (Store.Table.empty.put { own with id := 1 }).put { other with id := 2 } }

/-- A user is shown the booking of somebody else and cannot cancel the own one. -/
theorem identity_drifts :
    ¬ ∀ (E : AuthService.Env) (verify : String → Option Payload), VerifiesSigned E verify →
      ∀ (u : AuthService.User) (x : Nat → AuthService.Op → Choice) (d : AuthService.Db) tokens,
        ((AuthService.generateTokens E u.id u.email u.role u.emailVerified).exec
          (AuthService.deciding x) 0 () d).result = .ok tokens →
        ∀ request accepted : HttpRequest, request.accessToken = some tokens.accessToken →
          canActivate verify false request = .ok accepted →
          ∀ s : BookingService.Db, IdentityPreserved u accepted s := by
  intro claim
  have preserved := claim AuthService.sampleEnv sampleVerify sampleVerify_signed sampleUser _ _ _
    generateTokens_sample sampleRequest sampleAccepted sampleRequest_token canActivate_sample
      twoBookings
  have shown : (BookingService.BookingController.findMyBookings sampleAccepted twoBookings).length
      = 2 := by
    decide +kernel
  rw [preserved.mine] at shown
  revert shown
  decide +kernel

end Ticketing.System
