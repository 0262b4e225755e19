import Ticketing.Async.Since
import Ticketing.AuthService.Service

/-!
# Histories of requests

Library `AuthService`. Requests that run one after another, from what their operations did. A
mailed token is outstanding until it is redeemed or another one is mailed; a refresh token
until it is revoked.
-/

namespace Ticketing.AuthService

open Async Store

/-- A request that has ended: its operations, newest first, and its result. -/
structure Call where
  job : Job
  done : List (Done sig)
  result : Except Exception Returned

variable (E : Env)

/-- A request alone, with its operations recorded. -/
def Job.outcome (j : Job) (x : Nat → Op → Choice) (s : Db) :
    Outcome sig Unit Returned (Db × List (Done sig)) :=
  (j.run E).exec (deciding x).recording 0 () (s, [])

/-- The database after a request alone. -/
def Job.after (j : Job) (x : Nat → Op → Choice) (s : Db) : Db := (j.outcome E x s).state.1

/-- The request, once it has ended. -/
def Job.call (j : Job) (x : Nat → Op → Choice) (s : Db) : Call :=
  ⟨j, (j.outcome E x s).state.2, (j.outcome E x s).result⟩

/-- The database and the history after requests that ran one after another, under choices that
are `allowed`. -/
inductive Run (allowed : (Nat → Op → Choice) → Prop) (s₀ : Db) : Db → List Call → Prop
  | start : Run allowed s₀ s₀ []
  | call {s : Db} {h : List Call} (j : Job) (x : Nat → Op → Choice) :
    Run allowed s₀ s h → allowed x → Run allowed s₀ (j.after E x s) (j.call E x s :: h)

/-- The request returned. -/
def Call.returned (c : Call) : Bool :=
  match c.result with
  | .ok _ => true
  | .error _ => false

/-- The `randomUUID()` that an operation was. -/
def uuidOf : Done sig → Option String
  | ⟨.randomUUID, .ok token⟩ => some token
  | _ => none

/-- The tokens that the request took from `randomUUID`. -/
def Call.uuids (c : Call) : List String := c.done.filterMap uuidOf

/-- No `randomUUID` was given twice. -/
def Fresh (h : List Call) : Prop := (h.flatMap Call.uuids).Nodup

/-! ### Mailed tokens -/

/-- The request did an operation, which did not fail. -/
def Call.did (c : Call) (o : Op) : Prop := ∃ d ∈ c.done, d.op = o ∧ d.failed = false

instance (c : Call) (o : Op) : Decidable (c.did o) :=
  inferInstanceAs (Decidable (∃ d ∈ c.done, _))

/-- The request mailed the link with a token to a user. -/
def Call.sends (c : Call) (p : Purpose) (userId : Id) (token : String) (expires : Nat) : Prop :=
  ∃ email fullName, c.did (.emit p userId ⟨userId, email, fullName, link E p token, expires⟩)

/-- The updates that redeem a token. -/
def Purpose.Redeemed : Purpose → UserUpdate → Prop
  | .emailVerification, d => d = .emailVerified
  | .passwordReset, d => ∃ passwordHash, d = .password passwordHash

/-- The request verified the email address, or reset the password, of a user. -/
def Call.redeems (c : Call) (p : Purpose) (userId : Id) : Prop :=
  ∃ d, p.Redeemed d ∧ c.did (.updateUser userId d)

/-- A token was mailed to a user. -/
def Mailed (h : List Call) (p : Purpose) (userId : Id) (token : String) : Prop :=
  ∃ c ∈ h, ∃ expires, c.sends E p userId token expires

/-- A token is the last one that was mailed to a user, and the user has not redeemed one since. -/
def Outstanding (h : List Call) (p : Purpose) (userId : Id) (token : String) (expires : Nat) :
    Prop :=
  Stands (fun c ↦ c.sends E p userId token expires)
    (fun c ↦ c.redeems p userId ∨ ∃ t e, c.sends E p userId t e) h

/-! ### What a request does -/

/-- The columns of a mailed token. -/
def User.token (u : User) : Purpose → Option String
  | .emailVerification => u.emailVerificationToken
  | .passwordReset => u.passwordResetToken

/-- The columns of its expiry. -/
def User.expires (u : User) : Purpose → Option Nat
  | .emailVerification => u.emailVerificationExpires
  | .passwordReset => u.passwordResetExpires

/-- The update that stores a token. -/
def Purpose.store : Purpose → String → Nat → UserUpdate
  | .emailVerification => .emailVerificationToken
  | .passwordReset => .passwordResetToken

/-- What a request did to the users, beside the tokens it mailed or redeemed. -/
inductive Effect (s : Db) (c : Call) (s' : Db) : Prop
  | aside (users : s'.users.rows = s.users.rows) (sends : ∀ p u t e, ¬ c.sends E p u t e)
      (redeems : ∀ p u, ¬ c.redeems p u)
  | sent (p : Purpose) (userId : Id) (token : String) (expires : Nat) (rows : List User)
      (before : rows = s.users.rows ∨ ∃ r : User, rows = s.users.rows ++ [r] ∧ r.id = s.nextId ∧
        (∀ p, r.token p = none) ∧ s.nextId < s'.nextId)
      (known : ∃ r ∈ rows, r.id = userId)
      (users : s'.users.rows = rows.map ((p.store (E.sha256 token) expires).on userId))
      (uuids : c.uuids = [token])
      (sends : ∀ q u t e, c.sends E q u t e ↔ q = p ∧ u = userId ∧ t = token ∧ e = expires)
      (redeems : ∀ q u, ¬ c.redeems q u)
  | redeemed (p : Purpose) (userId : Id) (d : UserUpdate) (isRedeemed : p.Redeemed d)
      (users : s'.users.rows = s.users.rows.map (d.on userId))
      (sends : ∀ q u t e, ¬ c.sends E q u t e)
      (redeems : ∀ q u, c.redeems q u ↔ q = p ∧ u = userId)

variable {E}

/-- Links with different tokens differ. -/
theorem link_inj {p : Purpose} {t t' : String} (h : link E p t = link E p t') : t = t' := by
  cases p with
  | emailVerification => simpa [link] using h
  | passwordReset => simpa [link] using h

variable {x : Nat → Op → Choice} {n : Nat} {s : Db} {l : List (Done sig)}

/-- Without failing operation, every operation has its effect and is recorded. -/
theorem Faultless.recording (hx : Faultless x) (o : Op) :
    (deciding x).recording n o (s, l) =
      ((perform (x n o) o s).1, (perform (x n o) o s).2, ⟨o, (perform (x n o) o s).1⟩ :: l) := by
  unfold Handler.recording
  rw [hx.apply]

/-- Operations that neither change a user nor mail anything. -/
def Op.aside : Op → Bool
  | .insertUser _ | .updateUser _ _ | .emit _ _ _ => false
  | _ => true

/-- A request that awaits only such operations. -/
theorem Effect.of_aside {c : Call} {s' : Db} (users : s'.users.rows = s.users.rows)
    (h : ∀ d ∈ c.done, d.op.aside = true) : Effect E s c s' := by
  have undone : ∀ o, c.did o → o.aside = true := by
    rintro o ⟨d, hd, rfl, -⟩
    exact h d hd
  apply Effect.aside users
  · rintro p u t e ⟨email, fullName, hdid⟩
    cases undone _ hdid
  · rintro p u ⟨d, -, hdid⟩
    cases undone _ hdid

/-- Operations aside keep the users. -/
theorem perform_aside {y : Choice} {o : Op} (h : o.aside = true) :
    (perform y o s).2.users = s.users := by
  cases o with
  | insertUser u => cases h
  | updateUser id d => cases h
  | _ => rfl

/-- What code does that awaits only operations aside. -/
theorem aside_of_awaits {α : Type} {c : Code sig Unit α} (hx : Faultless x)
    (hc : c.Awaits fun o : Op ↦ o.aside = true) (hl : ∀ d ∈ l, d.op.aside = true) :
    let out := c.exec (deciding x).recording n () (s, l)
    out.state.1.users = s.users ∧ ∀ d ∈ out.state.2, d.op.aside = true := by
  let K : Db × List (Done sig) → Prop := fun r ↦
    r.1.users = s.users ∧ ∀ d ∈ r.2, d.op.aside = true
  have step : ∀ m (o : Op) (r : Db × List (Done sig)), o.aside = true → K r →
      K ((deciding x).recording m o r).2 := by
    rintro m o ⟨r, ds⟩ ho ⟨users, hds⟩
    rw [hx.recording]
    constructor
    · exact (perform_aside ho).trans users
    · intro d hd
      rcases List.mem_cons.mp hd with rfl | hd
      · exact ho
      · exact hds d hd
  exact hc.exec step (K := K) ⟨rfl, hl⟩

end Ticketing.AuthService
