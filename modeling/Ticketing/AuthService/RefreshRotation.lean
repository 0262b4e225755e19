import Ticketing.AuthService.OneTimeTokens

/-!
# Refresh tokens are not rotated

Library `AuthService`. `generateTokens` stores the SHA-256 digest of a refresh token, and
`refresh` looks for a bcrypt hash of it: it refuses every token.
-/

namespace Ticketing.AuthService

open Async Store

variable {E : Env} {x : Nat → Op → Choice} {s s₀ : Db} {h : List Call} {l : List (Done sig)}

/-! ### The life of a refresh token -/

/-- The pair that a request returned. -/
def Call.tokens (c : Call) : Option Tokens :=
  match c.result with
  | .ok (.loggedIn _ tokens) | .ok (.refreshed tokens) => some tokens
  | _ => none

/-- The request returned a new refresh token of a user. -/
def Call.issues (c : Call) (userId : Id) (token : String) (expiresAt : Nat) : Prop :=
  (∃ accessToken, c.tokens = some ⟨accessToken, token⟩) ∧
    ∃ tokenHash, c.did (.insertRefreshToken (.create userId tokenHash expiresAt))

/-- The request revoked a refresh token: it exchanged it, logged it out, or reset the password of
its owner. -/
def Call.revokes (c : Call) (userId : Id) (token : String) : Prop :=
  c.returned = true ∧ (c.job = .refresh token ∨ c.job = .logout token ∨
    ∃ t p, c.job = .resetPassword t p ∧ c.redeems .passwordReset userId)

/-- A refresh token was returned and has not been revoked since. -/
def Active (h : List Call) (userId : Id) (token : String) (expiresAt : Nat) : Prop :=
  Stands (fun c ↦ c.issues userId token expiresAt) (fun c ↦ c.revokes userId token) h

/-- A refresh token is active and has not expired at a time. -/
def Presentable (h : List Call) (token : String) (now : Nat) : Prop :=
  ∃ u e, Active h u token e ∧ now ≤ e

/-- `refresh` exchanges exactly the active refresh tokens that have not expired, once each, for a
new pair of the same user. The clock is read after the row. -/
structure Rotates (E : Env) (x : Nat → Op → Choice) (s : Db) (h : List Call) (token : String) :
    Prop where
  accepted : ((Job.refresh token).call E x s).returned = true ↔
    Presentable h token (x 2 .now).now
  revoked : ((Job.refresh token).call E x s).returned = true →
    ∀ r ∈ ((Job.refresh token).after E x s).refreshTokens.rows,
      r.tokenHash = E.sha256 token → r.revokedAt ≠ none
  renewed : ((Job.refresh token).call E x s).returned = true →
    ∀ u e, Active h u token e → ∃ t e', ((Job.refresh token).call E x s).issues u t e'
  once : ((Job.refresh token).call E x s).returned = true →
    ∀ c ∈ h, c.job = .refresh token → c.returned = false

/-! ### The stored hashes -/

/-- Every stored refresh token is hashed with SHA-256. -/
def Hashed (E : Env) (s : Db) : Prop := ∀ r ∈ s.refreshTokens.rows, ∃ t, r.tokenHash = E.sha256 t

/-- Operations that keep the hashes, whatever has been answered before. -/
def Op.keepsHashes (E : Env) : Op → Prop
  | .insertRefreshToken r => ∃ t, r.tokenHash = E.sha256 t
  | .saveRefreshToken _ => False
  | _ => True

/-- An operation fails without effect, or has its effect. -/
theorem exec_cases (y : Choice) (o : Op) (s : Db) :
    (∃ e, exec y o s = (.error e, s)) ∨ exec y o s = perform y o s :=
  (Sig.attempt_cases (S := sig) o s).imp_left And.right

/-- What a recorded operation answered. -/
theorem recorded {n : Nat} {o : Op} {a : sig.Answer o} {r : Db × List (Done sig)}
    (ha : (deciding x).recording n o (s, l) = (a, r)) :
    ((∃ e, a = .error e) ∧ r.1 = s) ∨ perform (x n o) o s = (a, r.1) := by
  obtain ⟨rfl, rfl⟩ := Prod.mk.inj ha
  rcases exec_cases (x n o) o s with ⟨e, he⟩ | he
  · left
    simp only [deciding, he]
    exact ⟨⟨e, rfl⟩, trivial⟩
  · right
    simp only [deciding, he]

/-- Saving a row that stores the hash of a token keeps every stored value a hash. -/
theorem Hashed.put (hs : Hashed E s) {r : RefreshToken} (hr : ∃ t, r.tokenHash = E.sha256 t)
    (next : Id) : Hashed E { s with refreshTokens := s.refreshTokens.put r, nextId := next } := by
  intro r' hm
  rcases Table.mem_put.mp hm with rfl | ⟨hm, -⟩
  · exact hr
  · exact hs r' hm

/-- An operation that stores hashes alone keeps every stored value a hash. -/
theorem Hashed.exec (hs : Hashed E s) {y : Choice} {o : Op} (ho : o.keepsHashes E) :
    Hashed E (exec y o s).2 := by
  rcases exec_cases y o s with ⟨e, he⟩ | he
  · rw [he]
    exact hs
  · rw [he]
    cases o with
    | insertUser u =>
      simp only [perform]
      split <;> exact hs
    | insertRefreshToken r => exact hs.put (r := s.newRefreshToken r) ho _
    | saveRefreshToken r => exact ho.elim
    | revokeRefreshTokens userId revokedAt =>
      intro r hr
      have revoked : r ∈ (s.revokeRefreshTokens userId revokedAt).refreshTokens.rows := hr
      rw [Db.rows_revokeRefreshTokens] at revoked
      obtain ⟨old, hm, rfl⟩ := List.mem_map.mp revoked
      unfold RefreshToken.revoke
      split <;> exact hs old hm
    | _ => exact hs

/-- Code that awaits such operations keeps the hashes. -/
theorem Hashed.of_awaits {α : Type} {c : Code sig Unit α} (hs : Hashed E s)
    (hc : c.Awaits (Op.keepsHashes E)) {n : Nat} :
    Hashed E (c.exec (deciding x).recording n () (s, l)).state.1 := by
  let K : Db × List (Done sig) → Prop := fun r ↦ Hashed E r.1
  exact hc.exec (fun n o r ho hr ↦ hr.exec ho) (K := K) hs

/-- Tokens are generated with a hash. -/
theorem generateTokens_keeps (userId : Id) (email : String) (role : UserRole)
    (emailVerified : Bool) :
    (generateTokens E userId email role emailVerified).Awaits (Op.keepsHashes E) := by
  unfold generateTokens
  refine .bind (.await trivial) fun _ ↦ .bind (.await trivial) fun token ↦ ?_
  refine .bind (.await trivial) fun _ ↦ .bind (.await ?_) fun _ ↦ .ret _
  exact ⟨token, rfl⟩

/-- A verification token is mailed. -/
theorem sendVerification_keeps (userId : Id) (email fullName : String) :
    (sendVerification E userId email fullName).Awaits (Op.keepsHashes E) := by
  unfold sendVerification
  refine .bind (.await trivial) fun _ ↦ .bind (.await trivial) fun _ ↦ ?_
  exact .bind (.await trivial) fun _ ↦ .await trivial

/-- Checking a mailed token stores hashes alone if redeeming it does. -/
theorem checked_keeps (p : Purpose) (tokenHash : String) {redeem : User → Code sig Unit String}
    (hr : ∀ user, (redeem user).Awaits (Op.keepsHashes E)) :
    (checked p tokenHash redeem).Awaits (Op.keepsHashes E) := by
  unfold checked
  refine .bind (.await trivial) fun user ↦ ?_
  cases user with
  | none => exact .raise _
  | some user =>
    apply Code.Awaits.bind
    · cases user.expires p with
      | none => exact .ret _
      | some e => exact .bind (.await trivial) fun _ ↦ .ret _
    · intro passed
      cases passed with
      | true => exact .raise _
      | false => exact hr user

/-- A request other than `refresh` and `logout`. -/
theorem job_keeps (j : Job) (hr : ∀ t, j ≠ .refresh t) (hl : ∀ t, j ≠ .logout t) :
    (j.run E).Awaits (Op.keepsHashes E) := by
  cases j with
  | register email password fullName =>
    refine .bind (.bind ?_ fun user ↦ .bind (sendVerification_keeps _ _ _) fun _ ↦ .ret _)
      fun _ ↦ .ret _
    refine .bind (.await trivial) fun user ↦ ?_
    cases user with
    | some user => exact .raise _
    | none =>
      refine .bind (.bind (.await trivial) fun _ ↦ .ret _) fun _ ↦ ?_
      exact .bind (.await trivial) fun _ ↦ .ret _
  | login email password =>
    refine .bind (.bind (.await trivial) fun user ↦ ?_) fun _ ↦ .ret _
    cases user with
    | none => exact .raise _
    | some user =>
      dsimp only
      split
      · exact .raise _
      · exact .bind (generateTokens_keeps _ _ _ _) fun _ ↦ .ret _
  | refresh t => exact absurd rfl (hr t)
  | logout t => exact absurd rfl (hl t)
  | resendVerification userId =>
    refine .bind (.bind (.await trivial) fun user ↦ ?_) fun _ ↦ .ret _
    cases user with
    | none => exact .raise _
    | some user =>
      dsimp only
      split
      · exact .ret _
      · exact .bind (sendVerification_keeps _ _ _) fun _ ↦ .ret _
  | requestEmailVerification userId =>
    refine .bind (.bind (.await trivial) fun user ↦ ?_) fun _ ↦ .ret _
    cases user with
    | none => exact .raise _
    | some user => exact .bind (sendVerification_keeps _ _ _) fun _ ↦ .ret _
  | verifyEmail token =>
    refine .bind ?_ fun _ ↦ .ret _
    rw [verifyEmail_eq]
    exact checked_keeps _ _ fun user ↦ .bind (.await trivial) fun _ ↦ .ret _
  | requestPasswordReset email =>
    refine .bind (.bind (.await trivial) fun user ↦ ?_) fun _ ↦ .ret _
    cases user with
    | none => exact .ret _
    | some user =>
      refine .bind (.await trivial) fun _ ↦ .bind (.await trivial) fun _ ↦ ?_
      exact .bind (.await trivial) fun _ ↦ .bind (.await trivial) fun _ ↦ .ret _
  | resetPassword token newPassword =>
    refine .bind ?_ fun _ ↦ .ret _
    rw [resetPassword_eq]
    refine checked_keeps _ _ fun user ↦ ?_
    refine .bind (.bind (.bind (.await trivial) fun _ ↦ .ret _) fun _ ↦ .await trivial) fun _ ↦ ?_
    exact .bind (.await trivial) fun _ ↦ .bind (.await trivial) fun _ ↦ .ret _

/-- `logout` saves a row that it has found. -/
theorem Hashed.logout (hs : Hashed E s) (token : String) :
    Hashed E ((Job.logout token).after E x s) := by
  have keeps : Code.Leaves (deciding x).recording (fun _ r ↦ Hashed E r.1)
      (AuthService.logout E token) (fun _ _ r ↦ Hashed E r.1) (fun _ _ r ↦ Hashed E r.1) := by
    unfold AuthService.logout
    apply Code.Leaves.bind (Q := fun found _ r ↦
      Hashed E r.1 ∧ ∀ row ∈ found, ∃ t, row.tokenHash = E.sha256 t)
    · apply Code.Leaves.await
      · rintro m _ ⟨s, l⟩ found r hs hr
        rcases recorded hr with ⟨⟨e, he⟩, -⟩ | hp
        · cases he
        · obtain ⟨ha, hs'⟩ := Prod.mk.inj hp
          rw [← hs']
          refine ⟨hs, fun row hrow ↦ ?_⟩
          cases Except.ok.inj ha
          exact hs row (List.mem_of_find?_eq_some hrow)
      · rintro m _ ⟨s, l⟩ e r hs hr
        rcases recorded hr with ⟨-, same⟩ | hp
        · rw [same]
          exact hs
        · cases hp
    · intro found
      cases found with
      | none => exact .ret _ fun _ _ hr ↦ hr.1
      | some row =>
        apply Code.Leaves.bind (Q := fun _ _ r ↦
          Hashed E r.1 ∧ ∃ t, row.tokenHash = E.sha256 t)
        · apply Code.Leaves.await
          · rintro m _ ⟨s, l⟩ now r ⟨hs, hrow⟩ hr
            have kept := hs.exec (y := x m .now) (o := .now) trivial
            obtain ⟨-, rfl⟩ := Prod.mk.inj hr
            exact ⟨kept, hrow row rfl⟩
          · rintro m _ ⟨s, l⟩ e r ⟨hs, -⟩ hr
            have kept := hs.exec (y := x m .now) (o := .now) trivial
            obtain ⟨-, rfl⟩ := Prod.mk.inj hr
            exact kept
        · intro revokedAt
          apply Code.Leaves.await
          · rintro m _ ⟨s, l⟩ _ r ⟨hs, hrow⟩ hr
            rcases recorded hr with ⟨⟨e, he⟩, -⟩ | hp
            · cases he
            · obtain ⟨-, hs'⟩ := Prod.mk.inj hp
              rw [← hs']
              exact hs.put (r := { row with revokedAt := some revokedAt }) hrow _
          · rintro m _ ⟨s, l⟩ e r ⟨hs, -⟩ hr
            rcases recorded hr with ⟨-, same⟩ | hp
            · rw [same]
              exact hs
            · cases hp
  have job : Code.Leaves (deciding x).recording (fun _ r ↦ Hashed E r.1)
      ((Job.logout token).run E) (fun _ _ r ↦ Hashed E r.1) (fun _ _ r ↦ Hashed E r.1) :=
    .bind keeps fun _ ↦ .ret _ fun _ _ hr ↦ hr
  have left := job.outcome (n := 0) (l := ()) (s := (s, []))
    (Q := fun r ↦ Hashed E r.1) (E := fun r ↦ Hashed E r.1) hs
  rcases left with ⟨-, hashed⟩ | ⟨-, hashed⟩
  · exact hashed
  · exact hashed

/-- `refresh` finds no row under a bcrypt hash: it throws and leaves the database as it is. -/
theorem refresh_throws (hash : ∀ d r salt t, E.bcryptHash d r salt ≠ E.sha256 t)
    (hs : Hashed E s) (token : String) :
    ((Job.refresh token).call E x s).returned = false ∧ (Job.refresh token).after E x s = s := by
  have throws : Code.Leaves (deciding x).recording (fun _ r ↦ r.1 = s)
      ((Job.refresh token).run E) (fun _ _ _ ↦ False) (fun _ _ r ↦ r.1 = s) := by
    apply Code.Leaves.bind (Q := fun _ _ _ ↦ False)
    · apply Code.Leaves.bind (Q := fun tokenHash _ r ↦ r.1 = s ∧ ∀ t, tokenHash ≠ E.sha256 t)
      · apply Code.Leaves.bind (Q := fun _ _ r ↦ r.1 = s)
        · apply Code.Leaves.await
          · rintro m _ ⟨s', l⟩ salt r rfl hr
            rcases recorded hr with ⟨⟨e, he⟩, -⟩ | hp
            · cases he
            · exact (Prod.mk.inj hp).2.symm
          · rintro m _ ⟨s', l⟩ e r rfl hr
            rcases recorded hr with ⟨-, same⟩ | hp
            · exact same
            · cases hp
        · exact fun salt ↦ .ret _ fun _ r hr ↦ ⟨hr, hash token 10 salt⟩
      · intro tokenHash
        apply Code.Leaves.bind (Q := fun found _ r ↦ r.1 = s ∧ found = none)
        · apply Code.Leaves.await
          · rintro m _ ⟨s', l⟩ found r ⟨rfl, hne⟩ hr
            rcases recorded hr with ⟨⟨e, he⟩, -⟩ | hp
            · cases he
            · obtain ⟨ha, same⟩ := Prod.mk.inj hp
              refine ⟨same.symm, ?_⟩
              rw [← Except.ok.inj ha, List.find?_eq_none]
              intro row hm
              obtain ⟨t, ht⟩ := hs row hm
              simp [NullCondition.selects, ht, Ne.symm (hne t)]
          · rintro m _ ⟨s', l⟩ e r ⟨rfl, -⟩ hr
            rcases recorded hr with ⟨-, same⟩ | hp
            · exact same
            · cases hp
        · intro found
          cases found with
          | none => exact .raise _ fun _ _ hr ↦ hr.1
          | some row =>
            intro n l r hr
            cases hr.2
    · exact fun _ n l r hr ↦ hr.elim
  have left := throws.outcome (n := 0) (l := ()) (s := (s, [])) (Q := fun _ ↦ False)
    (E := fun r ↦ r.1 = s) rfl
  rcases left with ⟨-, impossible⟩ | ⟨thrown, same⟩
  · exact impossible.elim
  · refine ⟨?_, same⟩
    unfold Call.returned Job.call Job.outcome
    unfold Outcome.throws at thrown
    split at thrown <;> simp_all

/-- Every stored refresh token is hashed after any requests. -/
theorem hashed_of_run {allowed : (Nat → Op → Choice) → Prop}
    (hash : ∀ d r salt t, E.bcryptHash d r salt ≠ E.sha256 t)
    (hs : s₀.refreshTokens.rows = []) (run : Run E allowed s₀ s h) : Hashed E s := by
  induction run with
  | start =>
    intro r hr
    rw [hs] at hr
    cases hr
  | call j x run hx ih =>
    by_cases hr : ∃ t, j = .refresh t
    · obtain ⟨t, rfl⟩ := hr
      rw [(refresh_throws hash ih t).2]
      exact ih
    · by_cases hl : ∃ t, j = .logout t
      · obtain ⟨t, rfl⟩ := hl
        exact ih.logout t
      · exact ih.of_awaits (job_keeps j (fun t ht ↦ hr ⟨t, ht⟩) fun t ht ↦ hl ⟨t, ht⟩)

/-- `refresh` exchanges the active tokens exactly if the one presented is not active or has
expired: it refuses every token. -/
theorem refresh_rotates_iff {allowed : (Nat → Op → Choice) → Prop}
    (hash : ∀ d r salt t, E.bcryptHash d r salt ≠ E.sha256 t)
    (hs : s₀.refreshTokens.rows = []) (run : Run E allowed s₀ s h) (x : Nat → Op → Choice)
    (token : String) :
    Rotates E x s h token ↔ ¬ Presentable h token (x 2 .now).now := by
  have refused := (refresh_throws (x := x) hash (hashed_of_run hash hs run) token).1
  constructor
  · intro hr hp
    rw [hr.accepted.mpr hp] at refused
    cases refused
  · intro hp
    constructor
    · rw [refused]
      simp [hp]
    all_goals
      intro returned
      rw [refused] at returned
      cases returned

/-! ### A fresh token is refused -/

/-- The hashes of the sample differ from its digests. -/
theorem sampleEnv_hash (d : String) (r : Nat) (salt t : String) :
    sampleEnv.bcryptHash d r salt ≠ sampleEnv.sha256 t := by
  simp only [sampleEnv]
  split_ifs <;> decide

/-- The user logs in. -/
def loggingIn : Job := .login "a@example.com" "Password123!"

/-- The refresh token that the login returns. -/
def freshToken : String := "3f2504e0-4f89-41d3-9a0c-0305e82c3301"

/-- The login, once it has ended. -/
def firstLogin : Call := loggingIn.call sampleEnv (given freshToken sampleTime) registered

/-- The database after the login. -/
def loggedIn : Db := loggingIn.after sampleEnv (given freshToken sampleTime) registered

/-- The logout with the token of the login. -/
def firstLogout : Call := (Job.logout freshToken).call sampleEnv (given "" sampleTime) loggedIn

/-- A token that was logged out is refused, as it should be. -/
theorem refresh_rotates_iff_loggedOut :
    firstLogout.returned = true ∧
      Rotates sampleEnv (given "" sampleTime)
        ((Job.logout freshToken).after sampleEnv (given "" sampleTime) loggedIn)
        [firstLogout, firstLogin] freshToken := by
  have rows : registered.refreshTokens.rows = [] := by decide +kernel
  have run : Run sampleEnv (fun _ ↦ True) registered
      ((Job.logout freshToken).after sampleEnv (given "" sampleTime) loggedIn)
      [firstLogout, firstLogin] :=
    (Run.start.call loggingIn _ trivial).call (.logout freshToken) _ trivial
  have returned : firstLogout.returned = true := by decide +kernel
  have silent : firstLogout.tokens = none := by decide +kernel
  refine ⟨returned, (refresh_rotates_iff sampleEnv_hash rows run _ _).mpr ?_⟩
  rintro ⟨u, e, active, -⟩
  rcases stands_cons.mp active with ⟨⟨_, issued⟩, -⟩ | ⟨kept, -⟩
  · rw [silent] at issued
    cases issued
  · exact kept ⟨returned, .inr (.inl rfl)⟩

/-- A refresh token is refused right after the login that returned it. -/
theorem fresh_token_refused :
    ¬ ∀ E : Env, (∀ d r salt t, E.bcryptHash d r salt ≠ E.sha256 t) →
      ∀ s₀ s h, s₀.refreshTokens.rows = [] → Run E Faultless s₀ s h → Fresh h →
        ∀ token, Set.InjOn E.sha256 (used h token) →
          ∀ x, Faultless x → Rotates E x s h token := by
  intro claim
  have rows : registered.refreshTokens.rows = [] := by decide +kernel
  have run : Run sampleEnv Faultless registered loggedIn [firstLogin] :=
    Run.start.call loggingIn _ (given_faultless _ _)
  have uuids : [firstLogin].flatMap Call.uuids = [freshToken] := by decide +kernel
  have fresh : Fresh [firstLogin] := by
    rw [Fresh, uuids]
    exact List.nodup_singleton _
  have inj : Set.InjOn sampleEnv.sha256 (used [firstLogin] freshToken) := by
    have one : ∀ t ∈ used [firstLogin] freshToken, t = freshToken := by
      intro t ht
      simpa [used, uuids] using ht
    intro t ht t' ht' _
    rw [one t ht, one t' ht']
  have issued : firstLogin.issues 0 freshToken (sampleTime + 86400000) := by
    constructor
    · exact ⟨sampleEnv.sign ⟨0, "a@example.com", .user, false⟩ "15m" sampleTime, by decide +kernel⟩
    · exact ⟨sampleEnv.sha256 freshToken, by decide +kernel⟩
  have active : Active [firstLogin] 0 freshToken (sampleTime + 86400000) :=
    ⟨[], firstLogin, [], rfl, issued, by simp⟩
  have rotates := claim sampleEnv sampleEnv_hash registered _ _ rows run fresh freshToken inj
    (given "" sampleTime) (given_faultless _ _)
  have returned := rotates.accepted.mpr ⟨0, _, active, Nat.le_add_right _ _⟩
  have refused := (refresh_throws (x := given "" sampleTime) sampleEnv_hash
    (hashed_of_run sampleEnv_hash rows run) freshToken).1
  rw [returned] at refused
  cases refused

end Ticketing.AuthService
