import Ticketing.Async.Triples
import Ticketing.Base.Messages
import Ticketing.Store.Table

/-!
# Auth database

Library `AuthService`. Rows of `user/entities`, what the service awaits, and its effect. A
failing operation has no effect.
-/

namespace Ticketing.AuthService

open Async Store

/-- `user/enums/user-role.enum.ts`. -/
inductive UserRole where
  | user
  | admin
  | organizer
  deriving DecidableEq, Repr

/-- The value of the `enum`. -/
def UserRole.value : UserRole → String
  | .user => "user"
  | .admin => "admin"
  | .organizer => "organizer"

/-- The columns of a user that `userWithoutPassword` keeps. -/
structure UserWithoutPassword where
  id : Id
  email : String
  fullName : String
  phone : Option String
  role : UserRole
  emailVerified : Bool
  emailVerificationToken : Option String
  emailVerificationExpires : Option Nat
  passwordResetToken : Option String
  passwordResetExpires : Option Nat
  deriving DecidableEq, Repr

/-- `user/entities/user.entity.ts`. -/
structure User extends UserWithoutPassword where
  passwordHash : String
  deriving DecidableEq, Repr

/-- A user's key, the generated identifier. -/
abbrev User.key (u : User) : Id := u.id

/-- A new user with the column defaults; the store numbers it. -/
def User.create (email passwordHash fullName : String) (phone : Option String) (role : UserRole) :
    User where
  id := 0
  email := email
  fullName := fullName
  phone := phone
  role := role
  emailVerified := false
  emailVerificationToken := none
  emailVerificationExpires := none
  passwordResetToken := none
  passwordResetExpires := none
  passwordHash := passwordHash

/-- `user/entities/refresh-token.entity.ts`. -/
structure RefreshToken where
  id : Id
  userId : Id
  tokenHash : String
  expiresAt : Nat
  revokedAt : Option Nat
  deriving DecidableEq, Repr

/-- A new refresh token; the store numbers it. -/
def RefreshToken.create (userId : Id) (tokenHash : String) (expiresAt : Nat) : RefreshToken where
  id := 0
  userId := userId
  tokenHash := tokenHash
  expiresAt := expiresAt
  revokedAt := none

/-- The auth database. -/
structure Db where
  users : Table User.key
  refreshTokens : Table RefreshToken.id
  nextId : Id
  deriving DecidableEq

/-- The database before anything ran. -/
def Db.empty : Db := ⟨.empty, .empty, 0⟩

/-- The row of a new user. -/
def Db.newUser (s : Db) (u : User) : User := { u with id := s.nextId }

/-- The database after a new user is inserted. -/
def Db.insertUser (s : Db) (u : User) : Db :=
  { s with users := s.users.put (s.newUser u), nextId := s.nextId + 1 }

/-- The row of a new refresh token. -/
def Db.newRefreshToken (s : Db) (r : RefreshToken) : RefreshToken := { r with id := s.nextId }

/-- The database after a new refresh token is inserted. -/
def Db.insertRefreshToken (s : Db) (r : RefreshToken) : Db :=
  { s with refreshTokens := s.refreshTokens.put (s.newRefreshToken r), nextId := s.nextId + 1 }

/-- The `where` of a `findOne` over the users. -/
inductive UserWhere where
  | email (value : String)
  | id (value : Id)
  | emailVerificationToken (tokenHash : String)
  | passwordResetToken (tokenHash : String)
  deriving DecidableEq, Repr

/-- The rows that a `where` selects. -/
def UserWhere.selects : UserWhere → User → Bool
  | .email value, u => u.email = value
  | .id value, u => u.id = value
  | .emailVerificationToken tokenHash, u => u.emailVerificationToken = some tokenHash
  | .passwordResetToken tokenHash, u => u.passwordResetToken = some tokenHash

/-- What an `update` of a user sets. -/
inductive UserUpdate where
  | emailVerificationToken (tokenHash : String) (expires : Nat)
  | emailVerified
  | passwordResetToken (tokenHash : String) (expires : Nat)
  | password (passwordHash : String)
  deriving DecidableEq, Repr

/-- A user after an `update`. -/
def UserUpdate.apply : UserUpdate → User → User
  | .emailVerificationToken tokenHash expires, u =>
    { u with emailVerificationToken := some tokenHash, emailVerificationExpires := some expires }
  | .emailVerified, u =>
    { u with emailVerified := true, emailVerificationToken := none,
             emailVerificationExpires := none }
  | .passwordResetToken tokenHash expires, u =>
    { u with passwordResetToken := some tokenHash, passwordResetExpires := some expires }
  | .password passwordHash, u =>
    { u with passwordHash := passwordHash, passwordResetToken := none,
             passwordResetExpires := none }

/-- An `update` keeps the identifier. -/
@[simp] theorem UserUpdate.apply_id (d : UserUpdate) (u : User) : (d.apply u).id = u.id := by
  cases d <;> rfl

/-- The rows after an `update` of the user with an identifier. -/
def UserUpdate.on (d : UserUpdate) (id : Id) (u : User) : User := if u.id = id then d.apply u else u

/-- An `update` keeps the identifiers. -/
@[simp] theorem UserUpdate.on_id (d : UserUpdate) (id : Id) (u : User) : (d.on id u).id = u.id := by
  unfold UserUpdate.on
  split <;> simp

/-- The database after an `update` of the user with an identifier. -/
def Db.updateUser (s : Db) (id : Id) (d : UserUpdate) : Db :=
  { s with users := s.users.putAll (s.users.rows.map (d.on id)) }

/-- An `update` changes the rows with the identifier. -/
@[simp] theorem Db.rows_updateUser (s : Db) (id : Id) (d : UserUpdate) :
    (s.updateUser id d).users.rows = s.users.rows.map (d.on id) :=
  Table.rows_putAll_map s.users (d.on id) (UserUpdate.on_id d id)

/-- A value given for a nullable column in a `where`: `IsNull()`, or `null`, which TypeORM
leaves out of the query. -/
inductive NullCondition where
  | isNull
  | null
  deriving DecidableEq, Repr

/-- The values that the condition selects. -/
def NullCondition.selects : NullCondition → Option Nat → Bool
  | .isNull, value => value.isNone
  | .null, _ => true

/-- A refresh token of a user after all of them are revoked. -/
def RefreshToken.revoke (userId : Id) (revokedAt : Nat) (r : RefreshToken) : RefreshToken :=
  if r.userId = userId ∧ r.revokedAt = none then { r with revokedAt := some revokedAt } else r

/-- Revoking a token keeps its identifier. -/
@[simp] theorem RefreshToken.revoke_id (userId : Id) (revokedAt : Nat) (r : RefreshToken) :
    (r.revoke userId revokedAt).id = r.id := by
  unfold RefreshToken.revoke
  split <;> rfl

/-- The database after the refresh tokens of a user are revoked. -/
def Db.revokeRefreshTokens (s : Db) (userId : Id) (revokedAt : Nat) : Db :=
  { s with refreshTokens := s.refreshTokens.putAll
             (s.refreshTokens.rows.map (RefreshToken.revoke userId revokedAt)) }

/-- Revoking changes the rows that are not revoked. -/
@[simp] theorem Db.rows_revokeRefreshTokens (s : Db) (userId : Id) (revokedAt : Nat) :
    (s.revokeRefreshTokens userId revokedAt).refreshTokens.rows =
      s.refreshTokens.rows.map (RefreshToken.revoke userId revokedAt) :=
  Table.rows_putAll_map s.refreshTokens _ (RefreshToken.revoke_id userId revokedAt)

/-- What a token that is mailed as a link is for, with the Kafka topic of the mail:
`auth.email_verification` and `auth.password_reset`. -/
inductive Purpose where
  | emailVerification
  | passwordReset
  deriving DecidableEq, Repr

/-- The `value` of the Kafka message; `url` is its `verificationUrl` or `resetUrl`. -/
structure Mail where
  userId : Id
  email : String
  fullName : String
  url : String
  expiresAt : Nat
  deriving DecidableEq, Repr

/-- What the service awaits. `genSalt` stands for the random part of `bcrypt.hash`. -/
inductive Op where
  | findUser (condition : UserWhere)
  | insertUser (user : User)
  | updateUser (id : Id) (update : UserUpdate)
  | findRefreshToken (tokenHash : String) (revokedAt : NullCondition)
  | insertRefreshToken (row : RefreshToken)
  | saveRefreshToken (row : RefreshToken)
  | revokeRefreshTokens (userId : Id) (revokedAt : Nat)
  | emit (purpose : Purpose) (key : Id) (value : Mail)
  | genSalt
  | randomUUID
  | now
  deriving DecidableEq, Repr

/-- The replies. -/
abbrev Res : Op → Type
  | .findUser _ => Option User
  | .insertUser _ => User
  | .findRefreshToken _ _ => Option RefreshToken
  | .insertRefreshToken _ => RefreshToken
  | .genSalt | .randomUUID => String
  | .now => Nat
  | _ => Unit

/-- The operations of the auth service. -/
abbrev sig : Sig := ⟨Op, Res, Exception⟩

/-- Await one operation. -/
abbrev await {L : Type} (o : Op) : Code sig L (Res o) := Code.await (S := sig) o

/-- What PostgreSQL answers to a second row with a unique value. -/
def duplicateKey : Exception := .failure "duplicate key value violates unique constraint"

/-- The effect of an operation that does not fail. An email address is unique. -/
def perform (x : Choice) : (o : Op) → Db → sig.Answer o × Db
  | .findUser condition, s => (.ok (s.users.rows.find? condition.selects), s)
  | .insertUser u, s =>
    if s.users.rows.any fun v ↦ v.email = u.email then (.error duplicateKey, s)
    else (.ok (s.newUser u), s.insertUser u)
  | .updateUser id d, s => (.ok (), s.updateUser id d)
  | .findRefreshToken tokenHash revokedAt, s =>
    (.ok (s.refreshTokens.rows.find? fun r ↦
      r.tokenHash = tokenHash && revokedAt.selects r.revokedAt), s)
  | .insertRefreshToken r, s => (.ok (s.newRefreshToken r), s.insertRefreshToken r)
  | .saveRefreshToken r, s => (.ok (), { s with refreshTokens := s.refreshTokens.put r })
  | .revokeRefreshTokens userId revokedAt, s => (.ok (), s.revokeRefreshTokens userId revokedAt)
  | .emit _ _ _, s => (.ok (), s)
  | .genSalt, s | .randomUUID, s => (.ok x.text, s)
  | .now, s => (.ok x.now, s)

/-- The clock and random texts cannot fail, and nobody listens to the failure of an emission. -/
def Op.fallible : Op → Bool
  | .now | .randomUUID | .emit _ _ _ => false
  | _ => true

/-- One awaited operation: it fails without effect, or has its effect. -/
def exec (x : Choice) : (o : Op) → Db → sig.Answer o × Db :=
  sig.attempt Op.fallible x.fault (perform x)

/-- The answers of the database when `x` is decided. -/
def deciding (x : Nat → Op → Choice) : Handler sig Db := fun n o s ↦ exec (x n o) o s

/-- No operation fails. -/
def Faultless (x : Nat → Op → Choice) : Prop := ∀ n o, (x n o).fault = none

/-- Without failing operation, every operation has its effect. -/
theorem Faultless.apply {x : Nat → Op → Choice} (hx : Faultless x) (n : Nat) (o : Op) (s : Db) :
    deciding x n o s = perform (x n o) o s := by
  unfold deciding exec
  rw [hx n o]
  exact Sig.attempt_none (S := sig) o s

end Ticketing.AuthService
