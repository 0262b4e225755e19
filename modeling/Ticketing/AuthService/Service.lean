import Ticketing.AuthService.Store

/-!
# Auth service

Library `AuthService`. Follows `user/user.service.ts` and `auth/auth.service.ts`. Hashing,
signing, the calendar and the configuration are an environment.
-/

namespace Ticketing.AuthService

open Async

/-- `interfaces/jwt-payload.interface.ts`. -/
structure JwtPayload where
  sub : Id
  email : String
  role : UserRole
  emailVerified : Bool
  deriving DecidableEq, Repr

/-- What the service takes from `crypto`, `bcrypt` and `@nestjs/jwt`, from the local calendar
(`setHours` and `setDate`) and from its configuration. -/
structure Env where
  sha256 : String → String
  bcryptHash : String → Nat → String → String
  bcryptCompare : String → String → Bool
  sign : JwtPayload → String → Nat → String
  afterHours : Nat → Nat → Nat
  afterDays : Nat → Nat → Nat
  jwtAccessExpiry : String := "15m"
  refreshTokenExpiryDays : Nat := 1
  appUrl : String := "http://localhost:8080"

/-- The pair that `generateTokens` returns. -/
structure Tokens where
  accessToken : String
  refreshToken : String
  deriving DecidableEq, Repr

/-- The `user` that `login` returns. -/
structure LoginUser where
  id : Id
  email : String
  role : UserRole
  fullName : String
  emailVerified : Bool
  deriving DecidableEq, Repr

variable (E : Env)

/-- `bcrypt.hash`. -/
def bcryptHash (data : String) (rounds : Nat) : Code sig Unit String := do
  let salt ← await .genSalt
  pure (E.bcryptHash data rounds salt)

/-! ### `UserService` -/

namespace UserService

/-- `findByEmail`. -/
def findByEmail (email : String) : Code sig Unit (Option User) := await (.findUser (.email email))

/-- `findById`. -/
def findById (id : Id) : Code sig Unit (Option User) := await (.findUser (.id id))

/-- `findByEmailVerificationToken`. -/
def findByEmailVerificationToken (tokenHash : String) : Code sig Unit (Option User) :=
  await (.findUser (.emailVerificationToken tokenHash))

/-- `findByPasswordResetToken`. -/
def findByPasswordResetToken (tokenHash : String) : Code sig Unit (Option User) :=
  await (.findUser (.passwordResetToken tokenHash))

/-- `create` (`user.service.ts:19–38`). -/
def create (email password fullName : String) (phone : Option String) :
    Code sig Unit UserWithoutPassword := do
  match ← findByEmail email with
  | some _ => throw (.conflict "User with this email already exists")
  | none =>
    let passwordHash ← bcryptHash E password 12
    let saved ← await (.insertUser (User.create email passwordHash fullName phone .user))
    pure saved.toUserWithoutPassword

/-- `markEmailVerified`. -/
def markEmailVerified (userId : Id) : Code sig Unit Unit :=
  await (.updateUser userId .emailVerified)

/-- `setPasswordResetToken`. -/
def setPasswordResetToken (userId : Id) (tokenHash : String) (expires : Nat) :
    Code sig Unit Unit :=
  await (.updateUser userId (.passwordResetToken tokenHash expires))

/-- `setEmailVerificationToken`. -/
def setEmailVerificationToken (userId : Id) (tokenHash : String) (expires : Nat) :
    Code sig Unit Unit :=
  await (.updateUser userId (.emailVerificationToken tokenHash expires))

/-- `updatePassword` (`user.service.ts:91–98`). -/
def updatePassword (userId : Id) (newPassword : String) : Code sig Unit Unit := do
  let passwordHash ← bcryptHash E newPassword 12
  await (.updateUser userId (.password passwordHash))

/-- `validatePassword`. -/
def validatePassword (user : User) (password : String) : Bool :=
  E.bcryptCompare password user.passwordHash

end UserService

/-! ### `AuthService` -/

/-- `hashToken`. -/
def hashToken (token : String) : String := E.sha256 token

/-- `generateTokens` (`auth.service.ts:307–336`). Signing takes the time of issue from the
clock. -/
def generateTokens (userId : Id) (email : String) (role : UserRole) (emailVerified : Bool) :
    Code sig Unit Tokens := do
  let payload : JwtPayload := ⟨userId, email, role, emailVerified⟩
  let issuedAt ← await .now
  let accessToken := E.sign payload E.jwtAccessExpiry issuedAt
  let refreshToken ← await .randomUUID
  let refreshTokenHash := hashToken E refreshToken
  let expiresAt ← await .now
  let _ ← await (.insertRefreshToken
    (.create userId refreshTokenHash (E.afterDays expiresAt E.refreshTokenExpiryDays)))
  pure ⟨accessToken, refreshToken⟩

/-- The link that a mail carries. -/
def link : Purpose → String → String
  | .emailVerification, token => E.appUrl ++ "/auth/verify-email?token=" ++ token
  | .passwordReset, token => E.appUrl ++ "/reset-password?token=" ++ token

/-- The lines that `register`, `resendVerification` and `requestEmailVerification` share: a
new verification token is stored and mailed. -/
def sendVerification (userId : Id) (email fullName : String) : Code sig Unit Unit := do
  let token ← await .randomUUID
  let tokenHash := hashToken E token
  let now ← await .now
  let expires := E.afterHours now 24
  UserService.setEmailVerificationToken userId tokenHash expires
  await (.emit .emailVerification userId
    ⟨userId, email, fullName, link E .emailVerification token, expires⟩)

/-- `register` (`auth.service.ts:44–76`). -/
def register (email password fullName : String) : Code sig Unit UserWithoutPassword := do
  let user ← UserService.create E email password fullName none
  sendVerification E user.id user.email user.fullName
  pure user

/-- `login` (`auth.service.ts:78–113`). -/
def login (email password : String) : Code sig Unit (LoginUser × Tokens) := do
  match ← UserService.findByEmail email with
  | none => throw (.unauthorized "Invalid credentials")
  | some user =>
    let isPasswordValid := UserService.validatePassword E user password
    if ¬ isPasswordValid then throw (.unauthorized "Invalid credentials")
    else
      let tokens ← generateTokens E user.id user.email user.role user.emailVerified
      pure (⟨user.id, user.email, user.role, user.fullName, user.emailVerified⟩, tokens)

/-- `refresh` (`auth.service.ts:115–150`). -/
def refresh (refreshToken : String) : Code sig Unit Tokens := do
  let tokenHash ← bcryptHash E refreshToken 10
  match ← await (.findRefreshToken tokenHash .null) with
  | none => throw (.unauthorized "Invalid refresh token")
  | some storedToken =>
    let now ← await .now
    if storedToken.expiresAt < now then throw (.unauthorized "Refresh token expired")
    else
      let revokedAt ← await .now
      await (.saveRefreshToken { storedToken with revokedAt := some revokedAt })
      match ← UserService.findById storedToken.userId with
      | none => throw (.unauthorized "User not found")
      | some user => generateTokens E user.id user.email user.role user.emailVerified

/-- `logout` (`auth.service.ts:152–166`). -/
def logout (refreshToken : String) : Code sig Unit Unit := do
  let tokenHash := hashToken E refreshToken
  match ← await (.findRefreshToken tokenHash .isNull) with
  | some storedToken =>
    let revokedAt ← await .now
    await (.saveRefreshToken { storedToken with revokedAt := some revokedAt })
  | none => pure ()

/-- `resendVerification` (`auth.service.ts:168–199`). -/
def resendVerification (userId : Id) : Code sig Unit String := do
  match ← UserService.findById userId with
  | none => throw (.unauthorized "User not found")
  | some user =>
    if user.emailVerified then pure "Email already verified"
    else
      sendVerification E userId user.email user.fullName
      pure "Email verification email resent"

/-- `requestEmailVerification` (`auth.service.ts:201–229`). -/
def requestEmailVerification (userId : Id) : Code sig Unit String := do
  match ← UserService.findById userId with
  | none => throw (.unauthorized "User not found")
  | some user =>
    sendVerification E userId user.email user.fullName
    pure "Email verification email sent"

/-- `expires && expires < new Date()`. -/
def expired : Option Nat → Code sig Unit Bool
  | none => pure false
  | some expires => do
    let now ← await .now
    pure (decide (expires < now))

/-- `verifyEmail` (`auth.service.ts:231–247`). -/
def verifyEmail (token : String) : Code sig Unit String := do
  let tokenHash := hashToken E token
  match ← UserService.findByEmailVerificationToken tokenHash with
  | none => throw (.unauthorized "Invalid or expired token")
  | some user =>
    if ← expired user.emailVerificationExpires then
      throw (.unauthorized "Invalid or expired token")
    else
      UserService.markEmailVerified user.id
      pure "Email verified successfully"

/-- `requestPasswordReset` (`auth.service.ts:249–276`). -/
def requestPasswordReset (email : String) : Code sig Unit String := do
  match ← UserService.findByEmail email with
  | none => pure "If themail exists, a reset link has been sent"
  | some user =>
    let token ← await .randomUUID
    let tokenHash := hashToken E token
    let now ← await .now
    let expires := E.afterHours now 1
    UserService.setPasswordResetToken user.id tokenHash expires
    await (.emit .passwordReset user.id
      ⟨user.id, user.email, user.fullName, link E .passwordReset token, expires⟩)
    pure "If the email exists, a reset link has been sent"

/-- `resetPassword` (`auth.service.ts:278–305`). -/
def resetPassword (token newPassword : String) : Code sig Unit String := do
  let tokenHash := hashToken E token
  match ← UserService.findByPasswordResetToken tokenHash with
  | none => throw (.unauthorized "Invalid or expired token")
  | some user =>
    if ← expired user.passwordResetExpires then
      throw (.unauthorized "Invalid or expired token")
    else
      UserService.updatePassword E user.id newPassword
      let revokedAt ← await .now
      await (.revokeRefreshTokens user.id revokedAt)
      pure "Password reset successfully"

/-- The requests of `auth/auth.controller.ts`, and the two of `AuthService` that no route
reaches. -/
inductive Job where
  | register (email password fullName : String)
  | login (email password : String)
  | refresh (refreshToken : String)
  | logout (refreshToken : String)
  | resendVerification (userId : Id)
  | requestEmailVerification (userId : Id)
  | verifyEmail (token : String)
  | requestPasswordReset (email : String)
  | resetPassword (token newPassword : String)
  deriving DecidableEq, Repr

/-- What a request returns. -/
inductive Returned where
  | registered (user : UserWithoutPassword)
  | loggedIn (user : LoginUser) (tokens : Tokens)
  | refreshed (tokens : Tokens)
  | message (text : String)
  | done
  deriving DecidableEq, Repr

/-- The code of a request. -/
def Job.run : Job → Code sig Unit Returned
  | .register email password fullName => do
    let user ← AuthService.register E email password fullName
    pure (.registered user)
  | .login email password => do
    let (user, tokens) ← AuthService.login E email password
    pure (.loggedIn user tokens)
  | .refresh refreshToken => do
    let tokens ← AuthService.refresh E refreshToken
    pure (.refreshed tokens)
  | .logout refreshToken => do
    AuthService.logout E refreshToken
    pure .done
  | .resendVerification userId => do
    let text ← AuthService.resendVerification E userId
    pure (.message text)
  | .requestEmailVerification userId => do
    let text ← AuthService.requestEmailVerification E userId
    pure (.message text)
  | .verifyEmail token => do
    let text ← AuthService.verifyEmail E token
    pure (.message text)
  | .requestPasswordReset email => do
    let text ← AuthService.requestPasswordReset E email
    pure (.message text)
  | .resetPassword token newPassword => do
    let text ← AuthService.resetPassword E token newPassword
    pure (.message text)

end Ticketing.AuthService
