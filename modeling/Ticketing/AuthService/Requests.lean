import Ticketing.AuthService.History

/-!
# What each request does

Library `AuthService`. The requests, computed without failing operation: each of them leaves
the users as they are, stores and mails a token, or redeems one.
-/

namespace Ticketing.AuthService

open Async Store

variable {E : Env} {x : Nat → Op → Choice} {n : Nat} {s : Db} {l : List (Done sig)}

/-! ### Mailing a token -/

/-- The operations that store and mail a token, newest first. -/
def mailing (p : Purpose) (userId : Id) (email fullName token : String) (now expires : Nat) :
    List (Done sig) :=
  [⟨.emit p userId ⟨userId, email, fullName, link E p token, expires⟩, .ok ()⟩,
    ⟨.updateUser userId (p.store (E.sha256 token) expires), .ok ()⟩,
    ⟨.now, .ok now⟩, ⟨.randomUUID, .ok token⟩]

/-- Storing a token redeems none. -/
theorem not_redeemed_store {p q : Purpose} {tokenHash : String} {expires : Nat} :
    ¬ q.Redeemed (p.store tokenHash expires) := by
  cases p <;> cases q <;> simp [Purpose.Redeemed, Purpose.store]

/-- A request that stores and mails a token after operations that only read or insert. -/
theorem Effect.of_mailing {c : Call} {s' : Db} {p : Purpose} {userId : Id}
    {email fullName token : String} {now expires : Nat} {before : List (Done sig)}
    {rows : List User}
    (done : c.done = mailing (E := E) p userId email fullName token now expires ++ before)
    (reads : ∀ d ∈ before, uuidOf d = none ∧ (∀ q u m, d.op ≠ .emit q u m) ∧
      ∀ u d', d.op ≠ .updateUser u d')
    (base : rows = s.users.rows ∨ ∃ r : User, rows = s.users.rows ++ [r] ∧ r.id = s.nextId ∧
      (∀ p, r.token p = none) ∧ s.nextId < s'.nextId)
    (known : ∃ r ∈ rows, r.id = userId)
    (users : s'.users.rows = rows.map ((p.store (E.sha256 token) expires).on userId)) :
    Effect E s c s' := by
  have mailed : ∀ q u m, c.did (.emit q u m) ↔
      q = p ∧ u = userId ∧ m = ⟨userId, email, fullName, link E p token, expires⟩ := by
    intro q u m
    constructor
    · rintro ⟨d, hd, hop, -⟩
      rw [done] at hd
      rcases List.mem_append.mp hd with hd | hd
      · simp only [mailing, List.mem_cons, List.not_mem_nil, or_false] at hd
        rcases hd with rfl | rfl | rfl | rfl
        · cases hop
          exact ⟨rfl, rfl, rfl⟩
        all_goals cases hop
      · exact absurd hop ((reads d hd).2.1 q u m)
    · rintro ⟨rfl, rfl, rfl⟩
      have first : c.done = ⟨.emit q u ⟨u, email, fullName, link E q token, expires⟩, .ok ()⟩ ::
          ((mailing (E := E) q u email fullName token now expires).tail ++ before) := done
      exact ⟨_, by rw [first]; exact List.mem_cons_self, rfl, rfl⟩
  apply Effect.sent p userId token expires rows base known users
  · have none : before.filterMap uuidOf = [] := by
      rw [List.filterMap_eq_nil_iff]
      exact fun d hd ↦ (reads d hd).1
    have own : (mailing (E := E) p userId email fullName token now expires).filterMap uuidOf =
        [token] := rfl
    rw [Call.uuids, done, List.filterMap_append, own, none, List.append_nil]
  · intro q u t e
    constructor
    · rintro ⟨email', fullName', hdid⟩
      obtain ⟨rfl, rfl, hm⟩ := (mailed _ _ _).mp hdid
      simp only [Mail.mk.injEq, true_and] at hm
      exact ⟨rfl, rfl, link_inj hm.2.2.1, hm.2.2.2⟩
    · rintro ⟨rfl, rfl, rfl, rfl⟩
      exact ⟨email, fullName, (mailed _ _ _).mpr ⟨rfl, rfl, rfl⟩⟩
  · rintro q u ⟨d', hr, d, hd, hop, -⟩
    rw [done] at hd
    rcases List.mem_append.mp hd with hd | hd
    · simp only [mailing, List.mem_cons, List.not_mem_nil, or_false] at hd
      rcases hd with rfl | rfl | rfl | rfl
      · cases hop
      · cases hop
        exact not_redeemed_store hr
      all_goals cases hop
    · exact (reads d hd).2.2 u d' hop

/-- `sendVerification` stores and mails a token. -/
theorem sendVerification_exec (hx : Faultless x) (userId : Id) (email fullName : String) :
    ∃ token now, (sendVerification E userId email fullName).exec (deciding x).recording n ()
      (s, l) = ⟨.ok (), (), n + 4,
        s.updateUser userId
          (Purpose.emailVerification.store (E.sha256 token) (E.afterHours now 24)),
        mailing (E := E) .emailVerification userId email fullName token now
          (E.afterHours now 24) ++ l⟩ := by
  refine ⟨(x n .randomUUID).text, (x (n + 1) .now).now, ?_⟩
  simp [sendVerification, UserService.setEmailVerificationToken, hx.recording, perform, hashToken,
    mailing, Purpose.store]

/-- Generating tokens changes no user. -/
theorem generateTokens_aside (userId : Id) (email : String) (role : UserRole)
    (emailVerified : Bool) :
    (generateTokens E userId email role emailVerified).Awaits fun o : Op ↦ o.aside = true := by
  unfold generateTokens
  refine .bind (.await rfl) fun _ ↦ .bind (.await rfl) fun _ ↦ .bind (.await rfl) fun _ ↦ ?_
  exact .bind (.await rfl) fun _ ↦ .ret _

/-- `login` changes no user. -/
theorem login_aside (email password : String) :
    (login E email password).Awaits fun o : Op ↦ o.aside = true := by
  unfold login
  apply Code.Awaits.bind
  · exact .await rfl
  · intro user
    cases user with
    | none => exact .raise _
    | some user =>
      dsimp only
      split
      · exact .raise _
      · exact .bind (generateTokens_aside _ _ _ _) fun _ ↦ .ret _

/-- `refresh` changes no user. -/
theorem refresh_aside (token : String) :
    (refresh E token).Awaits fun o : Op ↦ o.aside = true := by
  unfold refresh
  apply Code.Awaits.bind
  · exact .bind (.await rfl) fun _ ↦ .ret _
  · intro tokenHash
    refine .bind (.await rfl) fun stored ↦ ?_
    cases stored with
    | none => exact .raise _
    | some stored =>
      refine .bind (.await rfl) fun now ↦ ?_
      dsimp only
      split
      · exact .raise _
      · refine .bind (.await rfl) fun _ ↦ .bind (.await rfl) fun _ ↦ ?_
        refine .bind (.await rfl) fun user ↦ ?_
        cases user with
        | none => exact .raise _
        | some user => exact generateTokens_aside _ _ _ _

/-- `logout` changes no user. -/
theorem logout_aside (token : String) :
    (logout E token).Awaits fun o : Op ↦ o.aside = true := by
  unfold logout
  refine .bind (.await rfl) fun stored ↦ ?_
  cases stored with
  | none => exact .ret _
  | some stored => exact .bind (.await rfl) fun _ ↦ .await rfl

/-- A request that awaits only operations aside. -/
theorem Effect.of_awaits (hx : Faultless x) {j : Job}
    (hj : (j.run E).Awaits fun o : Op ↦ o.aside = true) :
    Effect E s (j.call E x s) (j.after E x s) := by
  obtain ⟨users, done⟩ := aside_of_awaits (n := 0) (s := s) (l := []) hx hj (by simp)
  exact .of_aside (congrArg Table.rows users) done

/-- The operations before a mail read, or insert the user. -/
def reads : Op → Bool
  | .findUser _ | .insertUser _ | .genSalt => true
  | _ => false

/-- The operations before a mail generate no token, send nothing and update no user. -/
theorem reads_spec {ds : List (Done sig)} (h : ∀ d ∈ ds, reads d.op = true) :
    ∀ d ∈ ds, uuidOf d = none ∧ (∀ q u m, d.op ≠ .emit q u m) ∧
      ∀ u d', d.op ≠ .updateUser u d' := by
  rintro ⟨o, a⟩ hd
  have := h _ hd
  cases o <;> simp_all [reads, uuidOf]

/-- `UserService.create` inserts a user under an address that is not stored. -/
theorem create_exec (hx : Faultless x) {email : String}
    (hf : s.users.rows.find? (UserWhere.email email).selects = none) (password fullName : String) :
    ∃ passwordHash before, (∀ d ∈ before, reads d.op = true) ∧
      (UserService.create E email password fullName none).exec (deciding x).recording n () (s, l) =
        ⟨.ok (s.newUser (.create email passwordHash fullName none .user)).toUserWithoutPassword, (),
          n + 3, s.insertUser (.create email passwordHash fullName none .user), before ++ l⟩ := by
  let u :=
    User.create email (E.bcryptHash password 12 (x (n + 1) .genSalt).text) fullName none .user
  refine ⟨E.bcryptHash password 12 (x (n + 1) .genSalt).text, [⟨.insertUser u, .ok (s.newUser u)⟩,
    ⟨.genSalt, .ok (x (n + 1) .genSalt).text⟩, ⟨.findUser (.email email), .ok none⟩], ?_, ?_⟩
  · simp [reads]
  · have found : ∀ y, perform y (.findUser (.email email)) s = (.ok none, s) := by
      intro y
      simp only [perform, hf]
    have salt : ∀ y, perform y .genSalt s = (.ok y.text, s) := fun _ ↦ rfl
    have inserted : ∀ y, perform y (.insertUser u) s = (.ok (s.newUser u), s.insertUser u) := by
      intro y
      apply if_neg
      rw [List.any_eq_true]
      rintro ⟨v, hv, he⟩
      exact List.find?_eq_none.mp hf v hv he
    simp only [UserService.create, UserService.findByEmail, bcryptHash, Code.exec_bind,
      Code.exec_await, Code.exec_pure, hx.recording, found, salt]
    rw [inserted]
    rfl

/-- `register` stores a user and mails a token, or finds the address in use. -/
theorem register_effect (hx : Faultless x) (hn : ∀ r ∈ s.users.rows, r.id < s.nextId)
    (email password fullName : String) :
    Effect E s ((Job.register email password fullName).call E x s)
      ((Job.register email password fullName).after E x s) := by
  cases hf : s.users.rows.find? (UserWhere.email email).selects with
  | some u =>
    have out : (Job.register email password fullName).outcome E x s =
        ⟨.error (.conflict "User with this email already exists"), (), 1,
          s, [⟨.findUser (.email email), .ok (some u)⟩]⟩ := by
      simp [Job.outcome, Job.run, register, UserService.create, UserService.findByEmail,
        hx.recording, perform, hf]
    apply Effect.of_aside
    · simp [Job.after, out]
    · simp [Job.call, out, Op.aside]
  | none =>
    obtain ⟨passwordHash, before, hb, hc⟩ := create_exec (E := E) (n := 0) (l := []) hx hf
      password fullName
    let u := User.create email passwordHash fullName none .user
    have absent : s.users.find (User.key (s.newUser u)) = none := by
      cases hr : s.users.find (User.key (s.newUser u)) with
      | none => rfl
      | some r =>
        obtain ⟨hm, hk⟩ := Table.find_eq_some_iff.mp hr
        exact absurd hk (Nat.ne_of_lt (hn r hm))
    obtain ⟨token, now, he⟩ := sendVerification_exec (E := E) (n := 3) (s := s.insertUser u)
      (l := before) hx s.nextId email fullName
    have out : (Job.register email password fullName).outcome E x s =
        ⟨.ok (.registered (s.newUser u).toUserWithoutPassword), (), 7,
          (s.insertUser u).updateUser s.nextId
            (Purpose.emailVerification.store (E.sha256 token) (E.afterHours now 24)),
          mailing (E := E) .emailVerification s.nextId email fullName token now
            (E.afterHours now 24) ++ before⟩ := by
      simp only [List.append_nil] at hc
      simp only [Job.outcome, Job.run, register, Code.exec_bind, hc]
      simp only [u] at he
      rw [show (s.newUser (.create email passwordHash fullName none .user)).id = s.nextId from rfl]
      erw [he]
      rfl
    have done : ((Job.register email password fullName).call E x s).done =
        mailing (E := E) .emailVerification s.nextId email fullName token now
            (E.afterHours now 24) ++ before := by
      simp only [Job.call, out]
    apply Effect.of_mailing done (reads_spec hb)
    · exact .inr ⟨s.newUser u, Table.rows_put_of_none absent, rfl, fun p ↦ by cases p <;> rfl,
        by simp [Job.after, out, Db.insertUser, Db.updateUser]⟩
    · exact ⟨s.newUser u, Table.mem_put.mpr (.inl rfl), rfl⟩
    · simp only [Job.after, out, Db.rows_updateUser]
      rfl

/-- Who is found by identifier is stored. -/
theorem found_by_id {userId : Id} {user : User}
    (hf : s.users.rows.find? (UserWhere.id userId).selects = some user) :
    ∃ r ∈ s.users.rows, r.id = userId :=
  ⟨user, List.mem_of_find?_eq_some hf, by simpa [UserWhere.selects] using List.find?_some hf⟩

/-- What `sendVerification` does to a stored user. -/
theorem Effect.of_verification (hx : Faultless x) {j : Job} {userId : Id} {email fullName : String}
    {before : List (Done sig)} {m : Nat} (known : ∃ r ∈ s.users.rows, r.id = userId)
    (hb : ∀ d ∈ before, reads d.op = true)
    (state : (j.outcome E x s).state = ((sendVerification E userId email fullName).exec
      (deciding x).recording m () (s, before)).state) :
    Effect E s (j.call E x s) (j.after E x s) := by
  obtain ⟨token, now, he⟩ := sendVerification_exec (E := E) (n := m) (s := s) (l := before) hx
    userId email fullName
  rw [he] at state
  have done : (j.call E x s).done = mailing (E := E) .emailVerification userId email fullName token
      now (E.afterHours now 24) ++ before := congrArg Prod.snd state
  have after : j.after E x s = s.updateUser userId
      (Purpose.emailVerification.store (E.sha256 token) (E.afterHours now 24)) :=
    congrArg Prod.fst state
  apply Effect.of_mailing done (reads_spec hb) (.inl rfl) known
  rw [after, Db.rows_updateUser]

/-- `resendVerification` mails a token to an unverified user. -/
theorem resendVerification_effect (hx : Faultless x) (userId : Id) :
    Effect E s ((Job.resendVerification userId).call E x s)
      ((Job.resendVerification userId).after E x s) := by
  cases hf : s.users.rows.find? (UserWhere.id userId).selects with
  | none =>
    apply Effect.of_aside <;>
      simp [Job.after, Job.call, Job.outcome, Job.run, resendVerification, UserService.findById,
        hx.recording, perform, hf, Op.aside]
  | some user =>
    cases hv : user.emailVerified with
    | true =>
      apply Effect.of_aside <;>
        simp [Job.after, Job.call, Job.outcome, Job.run, resendVerification, UserService.findById,
          hx.recording, perform, hf, hv, Op.aside]
    | false =>
      have state : ((Job.resendVerification userId).outcome E x s).state =
          ((sendVerification E userId user.email user.fullName).exec (deciding x).recording 1 ()
            (s, [⟨.findUser (.id userId), .ok (some user)⟩])).state := by
        obtain ⟨token, now, he⟩ := sendVerification_exec (E := E) (n := 1) (s := s)
          (l := [⟨.findUser (.id userId), .ok (some user)⟩]) hx userId user.email user.fullName
        simp [Job.outcome, Job.run, resendVerification, UserService.findById,
          hx.recording, perform, hf, hv, he]
      exact .of_verification hx (found_by_id hf) (by simp [reads]) state

/-- `requestEmailVerification` mails a token to a stored user. -/
theorem requestEmailVerification_effect (hx : Faultless x) (userId : Id) :
    Effect E s ((Job.requestEmailVerification userId).call E x s)
      ((Job.requestEmailVerification userId).after E x s) := by
  cases hf : s.users.rows.find? (UserWhere.id userId).selects with
  | none =>
    apply Effect.of_aside <;>
      simp [Job.after, Job.call, Job.outcome, Job.run, requestEmailVerification,
        UserService.findById, hx.recording, perform, hf, Op.aside]
  | some user =>
    have state : ((Job.requestEmailVerification userId).outcome E x s).state =
        ((sendVerification E userId user.email user.fullName).exec (deciding x).recording 1 ()
          (s, [⟨.findUser (.id userId), .ok (some user)⟩])).state := by
      obtain ⟨token, now, he⟩ := sendVerification_exec (E := E) (n := 1) (s := s)
        (l := [⟨.findUser (.id userId), .ok (some user)⟩]) hx userId user.email user.fullName
      simp [Job.outcome, Job.run, requestEmailVerification, UserService.findById,
        hx.recording, perform, hf, he]
    exact .of_verification hx (found_by_id hf) (by simp [reads]) state

/-- `requestPasswordReset` mails a token to the user with the address. -/
theorem requestPasswordReset_effect (hx : Faultless x) (email : String) :
    Effect E s ((Job.requestPasswordReset email).call E x s)
      ((Job.requestPasswordReset email).after E x s) := by
  cases hf : s.users.rows.find? (UserWhere.email email).selects with
  | none =>
    apply Effect.of_aside <;>
      simp [Job.after, Job.call, Job.outcome, Job.run, requestPasswordReset,
        UserService.findByEmail, hx.recording, perform, hf, Op.aside]
  | some user =>
    have state : ((Job.requestPasswordReset email).outcome E x s).state =
        (s.updateUser user.id (Purpose.passwordReset.store (E.sha256 (x 1 .randomUUID).text)
            (E.afterHours (x 2 .now).now 1)),
          mailing (E := E) .passwordReset user.id user.email user.fullName (x 1 .randomUUID).text
            (x 2 .now).now (E.afterHours (x 2 .now).now 1) ++
              [⟨.findUser (.email email), .ok (some user)⟩]) := by
      simp [Job.outcome, Job.run, requestPasswordReset, UserService.findByEmail,
        UserService.setPasswordResetToken, hx.recording, perform, hf, hashToken, mailing,
        Purpose.store]
    have done : ((Job.requestPasswordReset email).call E x s).done = _ := congrArg Prod.snd state
    apply Effect.of_mailing done (reads_spec (by simp [reads])) (.inl rfl)
      ⟨user, List.mem_of_find?_eq_some hf, rfl⟩
    have after : (Job.requestPasswordReset email).after E x s = _ := congrArg Prod.fst state
    rw [after, Db.rows_updateUser]

/-! ### Redeeming a token -/

/-- A request that redeems a token between operations that neither change a user nor mail. -/
theorem Effect.of_redeeming {c : Call} {s' : Db} {p : Purpose} {userId : Id} {d : UserUpdate}
    {after before : List (Done sig)} (isRedeemed : p.Redeemed d)
    (done : c.done = after ++ ⟨.updateUser userId d, .ok ()⟩ :: before)
    (hafter : ∀ e ∈ after, e.op.aside = true) (hbefore : ∀ e ∈ before, e.op.aside = true)
    (users : s'.users.rows = s.users.rows.map (d.on userId)) : Effect E s c s' := by
  have did : ∀ o, c.did o → o.aside = true ∨ o = .updateUser userId d := by
    rintro o ⟨e, he, rfl, -⟩
    rw [done] at he
    rcases List.mem_append.mp he with he | he
    · exact .inl (hafter e he)
    · rcases List.mem_cons.mp he with rfl | he
      · exact .inr rfl
      · exact .inl (hbefore e he)
  apply Effect.redeemed p userId d isRedeemed users
  · rintro q u t e ⟨email, fullName, hdid⟩
    rcases did _ hdid with haside | hop
    · cases haside
    · cases hop
  · intro q u
    constructor
    · rintro ⟨d', hr, hdid⟩
      rcases did _ hdid with haside | hop
      · cases haside
      · cases hop
        refine ⟨?_, rfl⟩
        cases p <;> cases q <;> simp_all [Purpose.Redeemed]
    · rintro ⟨rfl, rfl⟩
      exact ⟨d, isRedeemed, ⟨.updateUser u d, .ok ()⟩, by simp [done], rfl, rfl⟩

/-- The clock is read if there is an expiry. -/
theorem expired_exec (hx : Faultless x) (expires : Option Nat) :
    ∃ m before, (∀ d ∈ before, d.op.aside = true) ∧
      (expired expires).exec (deciding x).recording n () (s, l) =
        ⟨.ok (expires.any fun e ↦ e < (x n .now).now), (), m, s, before ++ l⟩ := by
  cases expires with
  | none => exact ⟨n, [], by simp, rfl⟩
  | some e =>
    refine ⟨n + 1, [⟨.now, .ok (x n .now).now⟩], by simp [Op.aside], ?_⟩
    simp [expired, hx.recording, perform]

/-- The `where` that finds the user of a token. -/
def Purpose.condition : Purpose → String → UserWhere
  | .emailVerification => .emailVerificationToken
  | .passwordReset => .passwordResetToken

/-- The check that `verifyEmail` and `resetPassword` make passes for a user. -/
structure Accepts (s : Db) (p : Purpose) (tokenHash : String) (now : Nat) (user : User) : Prop where
  found : s.users.rows.find? (p.condition tokenHash).selects = some user
  unexpired : (user.expires p).any (fun e ↦ e < now) = false

/-- The check fails: the token is not stored, or it has expired. -/
def Refuses (s : Db) (p : Purpose) (tokenHash : String) (now : Nat) : Prop :=
  ∀ user, s.users.rows.find? (p.condition tokenHash).selects = some user →
    (user.expires p).any (fun e ↦ e < now) = true

/-- The check passes for somebody or fails. -/
theorem accepts_or_refuses (s : Db) (p : Purpose) (tokenHash : String) (now : Nat) :
    (∃ user, Accepts s p tokenHash now user) ∨ Refuses s p tokenHash now := by
  cases hf : s.users.rows.find? (p.condition tokenHash).selects with
  | none =>
    right
    intro user hu
    rw [hf] at hu
    cases hu
  | some user =>
    cases he : (user.expires p).any (fun e ↦ e < now) with
    | false => exact .inl ⟨user, hf, he⟩
    | true =>
      right
      intro other hu
      rw [hf] at hu
      cases hu
      exact he

/-- The lines that `verifyEmail` and `resetPassword` share: who holds an unexpired token goes on. -/
def checked (p : Purpose) (tokenHash : String) (redeem : User → Code sig Unit String) :
    Code sig Unit String := do
  match ← await (.findUser (p.condition tokenHash)) with
  | none => throw (.unauthorized "Invalid or expired token")
  | some user =>
    if ← expired (user.expires p) then throw (.unauthorized "Invalid or expired token")
    else redeem user

/-- What `verifyEmail` does with the user. -/
def verifying (user : User) : Code sig Unit String := do
  UserService.markEmailVerified user.id
  pure "Email verified successfully"

/-- What `resetPassword` does with the user. -/
def resetting (E : Env) (newPassword : String) (user : User) : Code sig Unit String := do
  UserService.updatePassword E user.id newPassword
  let revokedAt ← await .now
  await (.revokeRefreshTokens user.id revokedAt)
  pure "Password reset successfully"

/-- `verifyEmail` checks the token, then verifies. -/
theorem verifyEmail_eq (token : String) :
    verifyEmail E token = checked .emailVerification (E.sha256 token) verifying := by
  unfold verifyEmail checked UserService.findByEmailVerificationToken hashToken
  show (await _ >>= _) = (await _ >>= _)
  congr 1
  funext user
  cases user with
  | none => rfl
  | some user => rfl

/-- `resetPassword` checks the token, then resets. -/
theorem resetPassword_eq (token newPassword : String) :
    resetPassword E token newPassword =
      checked .passwordReset (E.sha256 token) (resetting E newPassword) := by
  unfold resetPassword checked UserService.findByPasswordResetToken hashToken
  show (await _ >>= _) = (await _ >>= _)
  congr 1
  funext user
  cases user with
  | none => rfl
  | some user => rfl

/-- A refused token ends the request without effect. -/
theorem checked_refused (hx : Faultless x) {p : Purpose} {tokenHash : String}
    (h : Refuses s p tokenHash (x 1 .now).now) (redeem : User → Code sig Unit String) :
    ∃ m done, (∀ d ∈ done, d.op.aside = true) ∧
      (checked p tokenHash redeem).exec (deciding x).recording 0 () (s, []) =
        ⟨.error (.unauthorized "Invalid or expired token"), (), m, s, done⟩ := by
  cases hf : s.users.rows.find? (p.condition tokenHash).selects with
  | none =>
    refine ⟨1, [⟨.findUser (p.condition tokenHash), .ok none⟩], by simp [Op.aside], ?_⟩
    simp [checked, hx.recording, perform, hf]
  | some user =>
    obtain ⟨m, before, hb, he⟩ := expired_exec (n := 1) (s := s)
      (l := [⟨.findUser (p.condition tokenHash), .ok (some user)⟩]) hx (user.expires p)
    rw [h user hf] at he
    refine ⟨m, before ++ [⟨.findUser (p.condition tokenHash), .ok (some user)⟩], ?_, ?_⟩
    · intro d hd
      rcases List.mem_append.mp hd with hd | hd
      · exact hb d hd
      · rw [List.mem_singleton.mp hd]
        rfl
    · simp [checked, hx.recording, perform, hf, he]

/-- An accepted token is redeemed for its user. -/
theorem checked_accepted (hx : Faultless x) {p : Purpose} {tokenHash : String} {user : User}
    (h : Accepts s p tokenHash (x 1 .now).now user) (redeem : User → Code sig Unit String) :
    ∃ m done, (∀ d ∈ done, d.op.aside = true) ∧
      (checked p tokenHash redeem).exec (deciding x).recording 0 () (s, []) =
        (redeem user).exec (deciding x).recording m () (s, done) := by
  obtain ⟨m, before, hb, he⟩ := expired_exec (n := 1) (s := s)
    (l := [⟨.findUser (p.condition tokenHash), .ok (some user)⟩]) hx (user.expires p)
  rw [h.unexpired] at he
  refine ⟨m, before ++ [⟨.findUser (p.condition tokenHash), .ok (some user)⟩], ?_, ?_⟩
  · intro d hd
    rcases List.mem_append.mp hd with hd | hd
    · exact hb d hd
    · rw [List.mem_singleton.mp hd]
      rfl
  · simp [checked, hx.recording, perform, h.found, he]

/-- A request that ends without effect on the users. -/
structure Fails (E : Env) (j : Job) (x : Nat → Op → Choice) (s : Db) (e : Exception) : Prop where
  result : (j.outcome E x s).result = .error e
  after : j.after E x s = s
  done : ∀ d ∈ (j.outcome E x s).state.2, d.op.aside = true

/-- `verifyEmail` refuses a token that it does not find or that has expired. -/
theorem verifyEmail_refused (hx : Faultless x) (token : String)
    (h : Refuses s .emailVerification (E.sha256 token) (x 1 .now).now) :
    Fails E (.verifyEmail token) x s (.unauthorized "Invalid or expired token") := by
  obtain ⟨m, done, hd, he⟩ := checked_refused hx h verifying
  have out : (Job.verifyEmail token).outcome E x s =
      ⟨.error (.unauthorized "Invalid or expired token"), (), m, s, done⟩ := by
    simp [Job.outcome, Job.run, verifyEmail_eq, he]
  exact ⟨by rw [out], by rw [Job.after, out], by rw [out]; exact hd⟩

/-- `verifyEmail` verifies the user who is found. -/
theorem verifyEmail_accepted (hx : Faultless x) {token : String} {user : User}
    (h : Accepts s .emailVerification (E.sha256 token) (x 1 .now).now user) :
    ∃ before, (∀ d ∈ before, d.op.aside = true) ∧
      ((Job.verifyEmail token).outcome E x s).result =
        .ok (.message "Email verified successfully") ∧
      ((Job.verifyEmail token).outcome E x s).state =
        (s.updateUser user.id .emailVerified,
          ⟨.updateUser user.id .emailVerified, .ok ()⟩ :: before) := by
  obtain ⟨m, done, hd, he⟩ := checked_accepted hx h verifying
  have out : (Job.verifyEmail token).outcome E x s =
      ⟨.ok (.message "Email verified successfully"), (), m + 1,
        s.updateUser user.id .emailVerified,
        ⟨.updateUser user.id .emailVerified, .ok ()⟩ :: done⟩ := by
    simp [Job.outcome, Job.run, verifyEmail_eq, he, verifying, UserService.markEmailVerified,
      hx.recording, perform]
  exact ⟨done, hd, by rw [out], by rw [out]⟩

/-- `resetPassword` refuses a token that it does not find or that has expired. -/
theorem resetPassword_refused (hx : Faultless x) (token newPassword : String)
    (h : Refuses s .passwordReset (E.sha256 token) (x 1 .now).now) :
    Fails E (.resetPassword token newPassword) x s (.unauthorized "Invalid or expired token") := by
  obtain ⟨m, done, hd, he⟩ := checked_refused hx h (resetting E newPassword)
  have out : (Job.resetPassword token newPassword).outcome E x s =
      ⟨.error (.unauthorized "Invalid or expired token"), (), m, s, done⟩ := by
    simp [Job.outcome, Job.run, resetPassword_eq, he]
  exact ⟨by rw [out], by rw [Job.after, out], by rw [out]; exact hd⟩

/-- `resetPassword` changes the password of the user who is found and revokes the refresh tokens
of that user. -/
theorem resetPassword_accepted (hx : Faultless x) {token : String} {user : User}
    (h : Accepts s .passwordReset (E.sha256 token) (x 1 .now).now user) (newPassword : String) :
    ∃ salt revokedAt after before, (∀ d ∈ after, d.op.aside = true) ∧
      (∀ d ∈ before, d.op.aside = true) ∧
      ((Job.resetPassword token newPassword).outcome E x s).result =
        .ok (.message "Password reset successfully") ∧
      ((Job.resetPassword token newPassword).outcome E x s).state =
        ((s.updateUser user.id (.password (E.bcryptHash newPassword 12 salt))).revokeRefreshTokens
            user.id revokedAt,
          after ++ ⟨.updateUser user.id (.password (E.bcryptHash newPassword 12 salt)), .ok ()⟩ ::
            before) := by
  obtain ⟨m, done, hd, he⟩ := checked_accepted hx h (resetting E newPassword)
  let salt := (x m .genSalt).text
  let revokedAt := (x (m + 2) .now).now
  have out : (Job.resetPassword token newPassword).outcome E x s =
      ⟨.ok (.message "Password reset successfully"), (), m + 4,
        (s.updateUser user.id (.password (E.bcryptHash newPassword 12 salt))).revokeRefreshTokens
          user.id revokedAt,
        [⟨.revokeRefreshTokens user.id revokedAt, .ok ()⟩, ⟨.now, .ok revokedAt⟩] ++
          ⟨.updateUser user.id (.password (E.bcryptHash newPassword 12 salt)), .ok ()⟩ ::
            ⟨.genSalt, .ok salt⟩ :: done⟩ := by
    simp [Job.outcome, Job.run, resetPassword_eq, he, resetting, UserService.updatePassword,
      bcryptHash, hx.recording, perform, salt, revokedAt]
  refine ⟨salt, revokedAt, [⟨.revokeRefreshTokens user.id revokedAt, .ok ()⟩,
    ⟨.now, .ok revokedAt⟩], ⟨.genSalt, .ok salt⟩ :: done, by simp [Op.aside], ?_, ?_, ?_⟩
  · intro d hd'
    rcases List.mem_cons.mp hd' with rfl | hd'
    · rfl
    · exact hd d hd'
  · rw [out]
  · rw [out]

/-! ### All requests -/

/-- A request that fails does nothing to the users. -/
theorem Fails.effect {j : Job} {e : Exception} (h : Fails E j x s e) :
    Effect E s (j.call E x s) (j.after E x s) :=
  .of_aside (by rw [h.after]) h.done

/-- Every request has its effect on the users, and no other. -/
theorem Job.effect (hx : Faultless x) (hn : ∀ r ∈ s.users.rows, r.id < s.nextId) (j : Job) :
    Effect E s (j.call E x s) (j.after E x s) := by
  cases j with
  | register email password fullName => exact register_effect hx hn email password fullName
  | login email password =>
    exact .of_awaits hx (.bind (login_aside email password) fun _ ↦ .ret _)
  | refresh token => exact .of_awaits hx (.bind (refresh_aside token) fun _ ↦ .ret _)
  | logout token => exact .of_awaits hx (.bind (logout_aside token) fun _ ↦ .ret _)
  | resendVerification userId => exact resendVerification_effect hx userId
  | requestEmailVerification userId => exact requestEmailVerification_effect hx userId
  | requestPasswordReset email => exact requestPasswordReset_effect hx email
  | verifyEmail token =>
    rcases accepts_or_refuses s .emailVerification (E.sha256 token) (x 1 .now).now with
      ⟨user, h⟩ | h
    · obtain ⟨before, hb, -, state⟩ := verifyEmail_accepted hx h
      have done : ((Job.verifyEmail token).call E x s).done =
          [] ++ ⟨.updateUser user.id .emailVerified, .ok ()⟩ :: before := congrArg Prod.snd state
      apply Effect.of_redeeming (p := .emailVerification) rfl done (by simp) hb
      have after : (Job.verifyEmail token).after E x s = _ := congrArg Prod.fst state
      rw [after, Db.rows_updateUser]
    · exact (verifyEmail_refused hx token h).effect
  | resetPassword token newPassword =>
    rcases accepts_or_refuses s .passwordReset (E.sha256 token) (x 1 .now).now with
      ⟨user, h⟩ | h
    · obtain ⟨salt, revokedAt, after, before, ha, hb, -, state⟩ :=
        resetPassword_accepted hx h newPassword
      have done : ((Job.resetPassword token newPassword).call E x s).done =
          after ++ ⟨.updateUser user.id (.password (E.bcryptHash newPassword 12 salt)), .ok ()⟩ ::
            before := congrArg Prod.snd state
      apply Effect.of_redeeming (p := .passwordReset) ⟨_, rfl⟩ done ha hb
      have after : (Job.resetPassword token newPassword).after E x s = _ :=
        congrArg Prod.fst state
      rw [after]
      exact Db.rows_updateUser s user.id _
    · exact (resetPassword_refused hx token newPassword h).effect

end Ticketing.AuthService
