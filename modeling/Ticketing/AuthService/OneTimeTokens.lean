import Mathlib.Data.Set.Function
import Ticketing.AuthService.Requests

/-!
# Mailed tokens are accepted once

Library `AuthService`. After any requests, `verifyEmail` and `resetPassword` accept exactly the
outstanding tokens of their kind that have not expired, and then change one user only.
-/

namespace Ticketing.AuthService

open Async Store

variable {E : Env} {x : Nat → Op → Choice} {s s' s₀ : Db} {h : List Call} {c : Call}

/-! ### The columns of a token -/

/-- The `where` finds the token in its column. -/
theorem Purpose.condition_selects (p : Purpose) (tokenHash : String) (r : User) :
    (p.condition tokenHash).selects r = true ↔ r.token p = some tokenHash := by
  cases p <;> simp [Purpose.condition, UserWhere.selects, User.token]

/-- A stored token fills the columns of its user and its kind. -/
theorem token_store (p q : Purpose) (tokenHash : String) (expires : Nat) (userId : Id) (r : User) :
    (((p.store tokenHash expires).on userId r).token q =
      if q = p ∧ r.id = userId then some tokenHash else r.token q) ∧
    ((p.store tokenHash expires).on userId r).expires q =
      if q = p ∧ r.id = userId then some expires else r.expires q := by
  by_cases hr : r.id = userId
  · cases p <;> cases q <;>
      simp [UserUpdate.on, hr, Purpose.store, UserUpdate.apply, User.token, User.expires]
  · simp [UserUpdate.on, hr]

/-- A redeemed token leaves the columns of its user and its kind empty. -/
theorem token_redeemed {p q : Purpose} {d : UserUpdate} (hd : p.Redeemed d) (userId : Id)
    (r : User) :
    ((d.on userId r).token q = if q = p ∧ r.id = userId then none else r.token q) ∧
    ((d.on userId r).expires q = if q = p ∧ r.id = userId then none else r.expires q) := by
  by_cases hr : r.id = userId
  · cases p with
    | emailVerification =>
      cases hd
      cases q <;> simp [UserUpdate.on, hr, UserUpdate.apply, User.token, User.expires]
    | passwordReset =>
      obtain ⟨passwordHash, rfl⟩ := hd
      cases q <;> simp [UserUpdate.on, hr, UserUpdate.apply, User.token, User.expires]
  · simp [UserUpdate.on, hr]

/-! ### What the rows know of the history -/

/-- Nobody has been mailed a token, and every user has an identifier that was given. -/
structure Unmailed (s : Db) : Prop where
  token : ∀ r ∈ s.users.rows, ∀ p, r.token p = none
  numbered : ∀ r ∈ s.users.rows, r.id < s.nextId

/-- The rows hold exactly the outstanding tokens, hashed. -/
structure Accounts (E : Env) (s : Db) (h : List Call) : Prop where
  numbered : ∀ r ∈ s.users.rows, r.id < s.nextId
  issued : ∀ {p u t}, Mailed E h p u t → t ∈ h.flatMap Call.uuids
  unique : ∀ {p q u v t}, Mailed E h p u t → Mailed E h q v t → p = q ∧ u = v
  known : ∀ {p u t e}, Outstanding E h p u t e → ∃ r ∈ s.users.rows, r.id = u
  held : ∀ {r p t e}, r ∈ s.users.rows → Outstanding E h p r.id t e →
    r.token p = some (E.sha256 t) ∧ r.expires p = some e
  stored : ∀ {r p k}, r ∈ s.users.rows → r.token p = some k →
    ∃ t e, Outstanding E h p r.id t e

/-- An outstanding token was mailed. -/
theorem Outstanding.mailed {p : Purpose} {u : Id} {t : String} {e : Nat}
    (ho : Outstanding E h p u t e) : Mailed E h p u t := by
  obtain ⟨c, hc, hs⟩ := Stands.was_made ho
  exact ⟨c, hc, e, hs⟩

/-- Nobody holds a token before the first request. -/
theorem Unmailed.accounts (hs : Unmailed s) : Accounts E s [] where
  numbered := hs.numbered
  issued := by
    rintro p u t ⟨c, hc, -⟩
    cases hc
  unique := by
    rintro p q u v t ⟨c, hc, -⟩
    cases hc
  known ho := absurd ho not_stands_nil
  held _ ho := absurd ho not_stands_nil
  stored hr hk := by
    rw [hs.token _ hr] at hk
    cases hk

/-- What is outstanding after one more request. -/
theorem outstanding_cons {p : Purpose} {u : Id} {t : String} {e : Nat} :
    Outstanding E (c :: h) p u t e ↔ c.sends E p u t e ∨
      (¬ (c.redeems p u ∨ ∃ t e, c.sends E p u t e) ∧ Outstanding E h p u t e) :=
  stands_cons

/-- What was mailed after one more request. -/
theorem mailed_cons {p : Purpose} {u : Id} {t : String} :
    Mailed E (c :: h) p u t ↔ (∃ e, c.sends E p u t e) ∨ Mailed E h p u t := by
  simp [Mailed]

/-- A request that mails nothing mails no token anew. -/
theorem mailed_silent (sends : ∀ p u t e, ¬ c.sends E p u t e) {p : Purpose} {u : Id} {t : String} :
    Mailed E (c :: h) p u t ↔ Mailed E h p u t := by
  simp [mailed_cons, sends]

/-- Tokens that were given remain given. -/
theorem mem_uuids_cons {t : String} (ht : t ∈ h.flatMap Call.uuids) :
    t ∈ (c :: h).flatMap Call.uuids := by
  rw [List.flatMap_cons]
  exact List.mem_append_right _ ht

/-- The earlier tokens were given once. -/
theorem Fresh.tail (fresh : Fresh (c :: h)) : Fresh h := by
  unfold Fresh at fresh
  rw [List.flatMap_cons] at fresh
  exact (List.nodup_append.mp fresh).2.1

/-- A request that touches no user keeps the accounts. -/
theorem Accounts.aside (acc : Accounts E s h) (next : s.nextId ≤ s'.nextId)
    (users : s'.users.rows = s.users.rows) (sends : ∀ p u t e, ¬ c.sends E p u t e)
    (redeems : ∀ p u, ¬ c.redeems p u) : Accounts E s' (c :: h) := by
  have same : ∀ {p u t e}, Outstanding E (c :: h) p u t e ↔ Outstanding E h p u t e := by
    intro p u t e
    simp [outstanding_cons, sends, redeems]
  constructor
  · intro r hr
    rw [users] at hr
    exact Nat.lt_of_lt_of_le (acc.numbered r hr) next
  · exact fun hm ↦ mem_uuids_cons (acc.issued ((mailed_silent sends).mp hm))
  · exact fun hm hm' ↦ acc.unique ((mailed_silent sends).mp hm) ((mailed_silent sends).mp hm')
  · intro p u t e ho
    rw [users]
    exact acc.known (same.mp ho)
  · intro r p t e hr ho
    rw [users] at hr
    exact acc.held hr (same.mp ho)
  · intro r p k hr hk
    rw [users] at hr
    obtain ⟨t, e, ho⟩ := acc.stored hr hk
    exact ⟨t, e, same.mpr ho⟩

/-- A request that redeems a token. -/
theorem Accounts.redeemed (acc : Accounts E s h) (next : s.nextId ≤ s'.nextId) {p : Purpose}
    {userId : Id} {d : UserUpdate} (hd : p.Redeemed d)
    (users : s'.users.rows = s.users.rows.map (d.on userId))
    (sends : ∀ q u t e, ¬ c.sends E q u t e)
    (redeems : ∀ q u, c.redeems q u ↔ q = p ∧ u = userId) : Accounts E s' (c :: h) := by
  have left : ∀ {q u t e}, Outstanding E (c :: h) q u t e ↔
      ¬ (q = p ∧ u = userId) ∧ Outstanding E h q u t e := by
    intro q u t e
    simp [outstanding_cons, sends, redeems]
  have row : ∀ {r'}, r' ∈ s'.users.rows → ∃ r ∈ s.users.rows, d.on userId r = r' := by
    intro r' hr
    rw [users] at hr
    exact List.mem_map.mp hr
  constructor
  · intro r' hr
    obtain ⟨r, hm, rfl⟩ := row hr
    rw [UserUpdate.on_id]
    exact Nat.lt_of_lt_of_le (acc.numbered r hm) next
  · exact fun hm ↦ mem_uuids_cons (acc.issued ((mailed_silent sends).mp hm))
  · exact fun hm hm' ↦ acc.unique ((mailed_silent sends).mp hm) ((mailed_silent sends).mp hm')
  · intro q u t e ho
    obtain ⟨r, hm, hu⟩ := acc.known (left.mp ho).2
    exact ⟨d.on userId r, users ▸ List.mem_map_of_mem hm, by simpa using hu⟩
  · intro r' q t e hr ho
    obtain ⟨r, hm, rfl⟩ := row hr
    rw [UserUpdate.on_id] at ho
    obtain ⟨other, old⟩ := left.mp ho
    obtain ⟨token, expires⟩ := token_redeemed hd (q := q) userId r
    rw [token, expires, if_neg other, if_neg other]
    exact acc.held hm old
  · intro r' q k hr hk
    obtain ⟨r, hm, rfl⟩ := row hr
    rw [(token_redeemed hd userId r).1] at hk
    by_cases hq : q = p ∧ r.id = userId
    · rw [if_pos hq] at hk
      cases hk
    · rw [if_neg hq] at hk
      obtain ⟨t, e, ho⟩ := acc.stored hm hk
      rw [UserUpdate.on_id]
      exact ⟨t, e, left.mpr ⟨hq, ho⟩⟩

/-- A user who is there before the mail is an old one, or a new one without a token. -/
theorem Accounts.base (acc : Accounts E s h) {next : Id} (hn : s.nextId ≤ next) {rows : List User}
    (before : rows = s.users.rows ∨ ∃ r : User, rows = s.users.rows ++ [r] ∧ r.id = s.nextId ∧
      (∀ p, r.token p = none) ∧ s.nextId < next)
    {r : User} (hr : r ∈ rows) : r.id < next ∧ (r ∈ s.users.rows ∨
      ((∀ q, r.token q = none) ∧ ∀ q t e, ¬ Outstanding E h q r.id t e)) := by
  rcases before with rfl | ⟨new, rfl, hid, hnone, hlt⟩
  · exact ⟨Nat.lt_of_lt_of_le (acc.numbered r hr) hn, .inl hr⟩
  rcases List.mem_append.mp hr with hr | hr
  · exact ⟨Nat.lt_of_lt_of_le (acc.numbered r hr) hn, .inl hr⟩
  cases List.mem_singleton.mp hr
  constructor
  · rw [hid]
    exact hlt
  · refine .inr ⟨hnone, ?_⟩
    intro q t e ho
    obtain ⟨r', hm, hu⟩ := acc.known ho
    have below := acc.numbered r' hm
    rw [hu, hid] at below
    exact Nat.lt_irrefl _ below

/-- A request that mails a token, perhaps to a new user. -/
theorem Accounts.sent (acc : Accounts E s h) (next : s.nextId ≤ s'.nextId)
    (fresh : Fresh (c :: h)) {p : Purpose} {userId : Id} {token : String} {expires : Nat}
    {rows : List User}
    (before : rows = s.users.rows ∨ ∃ r : User, rows = s.users.rows ++ [r] ∧ r.id = s.nextId ∧
      (∀ p, r.token p = none) ∧ s.nextId < s'.nextId)
    (known : ∃ r ∈ rows, r.id = userId)
    (users : s'.users.rows = rows.map ((p.store (E.sha256 token) expires).on userId))
    (uuids : c.uuids = [token])
    (sends : ∀ q u t e, c.sends E q u t e ↔ q = p ∧ u = userId ∧ t = token ∧ e = expires)
    (redeems : ∀ q u, ¬ c.redeems q u) : Accounts E s' (c :: h) := by
  have mailed : ∀ {q u t}, Mailed E (c :: h) q u t ↔
      (q = p ∧ u = userId ∧ t = token) ∨ Mailed E h q u t := by
    intro q u t
    simp [mailed_cons, sends]
  have out : ∀ {q u t e}, Outstanding E (c :: h) q u t e ↔
      (q = p ∧ u = userId ∧ t = token ∧ e = expires) ∨
        (¬ (q = p ∧ u = userId) ∧ Outstanding E h q u t e) := by
    intro q u t e
    simp [outstanding_cons, sends, redeems]
  have unused : token ∉ h.flatMap Call.uuids := by
    unfold Fresh at fresh
    rw [List.flatMap_cons, uuids] at fresh
    exact (List.nodup_cons.mp fresh).1
  have old : ∀ {r}, r ∈ s.users.rows → r ∈ rows := by
    intro r hr
    rcases before with rfl | ⟨new, rfl, -⟩
    · exact hr
    · exact List.mem_append_left _ hr
  have row : ∀ {r'}, r' ∈ s'.users.rows →
      ∃ r ∈ rows, (p.store (E.sha256 token) expires).on userId r = r' := by
    intro r' hr
    rw [users] at hr
    exact List.mem_map.mp hr
  constructor
  · intro r' hr
    obtain ⟨r, hm, rfl⟩ := row hr
    rw [UserUpdate.on_id]
    exact (acc.base next before hm).1
  · intro q u t hm
    rcases mailed.mp hm with ⟨-, -, rfl⟩ | hm
    · rw [List.flatMap_cons, uuids]
      exact List.mem_cons_self
    · exact mem_uuids_cons (acc.issued hm)
  · intro q q' u u' t hm hm'
    rcases mailed.mp hm with ⟨rfl, rfl, rfl⟩ | hm
    · rcases mailed.mp hm' with ⟨rfl, rfl, -⟩ | hm'
      · exact ⟨rfl, rfl⟩
      · exact absurd (acc.issued hm') unused
    · rcases mailed.mp hm' with ⟨rfl, rfl, rfl⟩ | hm'
      · exact absurd (acc.issued hm) unused
      · exact acc.unique hm hm'
  · intro q u t e ho
    have stored : ∃ r ∈ rows, r.id = u := by
      rcases out.mp ho with ⟨-, rfl, -⟩ | ⟨-, ho⟩
      · exact known
      · obtain ⟨r, hm, hu⟩ := acc.known ho
        exact ⟨r, old hm, hu⟩
    obtain ⟨r, hm, hu⟩ := stored
    exact ⟨_, users ▸ List.mem_map_of_mem hm, by simpa using hu⟩
  · intro r' q t e hr ho
    obtain ⟨r, hm, rfl⟩ := row hr
    rw [UserUpdate.on_id] at ho
    rw [(token_store p q (E.sha256 token) expires userId r).1,
      (token_store p q (E.sha256 token) expires userId r).2]
    rcases out.mp ho with ⟨rfl, hu, rfl, rfl⟩ | ⟨other, ho⟩
    · simp [hu]
    · rw [if_neg other, if_neg other]
      rcases (acc.base next before hm).2 with hm | ⟨-, none⟩
      · exact acc.held hm ho
      · exact absurd ho (none q t e)
  · intro r' q k hr hk
    obtain ⟨r, hm, rfl⟩ := row hr
    rw [(token_store p q (E.sha256 token) expires userId r).1] at hk
    rw [UserUpdate.on_id]
    by_cases hq : q = p ∧ r.id = userId
    · exact ⟨token, expires, out.mpr (.inl ⟨hq.1, hq.2, rfl, rfl⟩)⟩
    · rw [if_neg hq] at hk
      rcases (acc.base next before hm).2 with hm | ⟨none, -⟩
      · obtain ⟨t, e, ho⟩ := acc.stored hm hk
        exact ⟨t, e, out.mpr (.inr ⟨hq, ho⟩)⟩
      · rw [none q] at hk
        cases hk

/-- Identifiers are not taken back. -/
theorem nextId_after (E : Env) (hx : Faultless x) (s : Db) (j : Job) :
    s.nextId ≤ (j.after E x s).nextId := by
  have step : ∀ n (o : Op) (r : Db × List (Done sig)), s.nextId ≤ r.1.nextId →
      s.nextId ≤ ((deciding x).recording n o r).2.1.nextId := by
    rintro n o ⟨r, l⟩ hr
    rw [hx.recording]
    refine Nat.le_trans hr ?_
    cases o with
    | insertUser u =>
      simp only [perform]
      split
      · exact Nat.le_refl _
      · exact Nat.le_succ _
    | insertRefreshToken r => exact Nat.le_succ _
    | _ => exact Nat.le_refl _
  let K : Db × List (Done sig) → Prop := fun r ↦ s.nextId ≤ r.1.nextId
  exact Code.exec_keeps (K := K) step (j.run E) (Nat.le_refl s.nextId)

/-- What one request does to the accounts. -/
theorem Accounts.step (acc : Accounts E s h) (hx : Faultless x) (j : Job)
    (fresh : Fresh (j.call E x s :: h)) : Accounts E (j.after E x s) (j.call E x s :: h) := by
  have next := nextId_after E hx s j
  rcases j.effect (E := E) hx acc.numbered with ⟨users, sends, redeems⟩ |
    ⟨p, u, t, e, rows, before, known, users, uuids, sends, redeems⟩ |
    ⟨p, u, d, hd, users, sends, redeems⟩
  · exact acc.aside next users sends redeems
  · exact acc.sent next fresh before known users uuids sends redeems
  · exact acc.redeemed next hd users sends redeems

/-- After any requests, the rows hold exactly the outstanding tokens. -/
theorem accounts_of_run (hs : Unmailed s₀) (run : Run E Faultless s₀ s h) (fresh : Fresh h) :
    Accounts E s h := by
  induction run with
  | start => exact hs.accounts
  | call j x run hx ih => exact (ih fresh.tail).step hx j fresh

/-! ### Accepted tokens -/

/-- The tokens that are used: those that were given, and the one that is presented. -/
def used (h : List Call) (token : String) : Set String :=
  {t | t = token ∨ t ∈ h.flatMap Call.uuids}

/-- The check passes only for the holder of the outstanding token, in time. -/
theorem Accounts.of_accepts (acc : Accounts E s h) {p : Purpose} {token : String} {now : Nat}
    (inj : Set.InjOn E.sha256 (used h token)) {user : User}
    (ha : Accepts s p (E.sha256 token) now user) :
    ∃ e, Outstanding E h p user.id token e ∧ now ≤ e := by
  have stored : user ∈ s.users.rows := List.mem_of_find?_eq_some ha.found
  have holds : user.token p = some (E.sha256 token) :=
    (p.condition_selects _ user).mp (List.find?_some ha.found)
  obtain ⟨t, e, ho⟩ := acc.stored stored holds
  obtain ⟨same, expires⟩ := acc.held stored ho
  have hash : E.sha256 t = E.sha256 token := Option.some.inj (same.symm.trans holds)
  have ht : t = token := inj (.inr (acc.issued ho.mailed)) (.inl rfl) hash
  have ahead := ha.unexpired
  rw [expires] at ahead
  refine ⟨e, ht ▸ ho, ?_⟩
  simpa using ahead

/-- The check passes for the holder of an outstanding token, in time. -/
theorem Accounts.accepts (acc : Accounts E s h) {p : Purpose} {token : String} {now : Nat}
    (inj : Set.InjOn E.sha256 (used h token)) {u : Id} {e : Nat}
    (ho : Outstanding E h p u token e) (he : now ≤ e) :
    ∃ user, user.id = u ∧ Accepts s p (E.sha256 token) now user := by
  obtain ⟨r, hr, hu⟩ := acc.known ho
  have holds := (acc.held hr (hu.symm ▸ ho)).1
  have some := List.find?_isSome.mpr ⟨r, hr, (p.condition_selects _ r).mpr holds⟩
  obtain ⟨user, hf⟩ := Option.isSome_iff_exists.mp some
  have stored : user ∈ s.users.rows := List.mem_of_find?_eq_some hf
  have found : user.token p = _ := (p.condition_selects _ user).mp (List.find?_some hf)
  obtain ⟨t, e', ho'⟩ := acc.stored stored found
  obtain ⟨same, -⟩ := acc.held stored ho'
  have ht : t = token := inj (.inr (acc.issued ho'.mailed)) (.inl rfl)
    (Option.some.inj (same.symm.trans found))
  subst ht
  have hid : user.id = u := (acc.unique ho'.mailed ho.mailed).2
  refine ⟨user, hid, hf, ?_⟩
  rw [(acc.held stored (hid.symm ▸ ho)).2]
  simpa using he

/-- A request redeems exactly the outstanding tokens of one kind that have not expired, each for
its user with the effect given. The clock is read after the row. -/
structure Redeems (E : Env) (x : Nat → Op → Choice) (s : Db) (h : List Call) (p : Purpose)
    (token : String) (j : Job) (effect : Id → Db → Prop) : Prop where
  accepted : (j.call E x s).returned = true ↔
    ∃ u e, Outstanding E h p u token e ∧ (x 1 .now).now ≤ e
  redeemed : ∀ u e, Outstanding E h p u token e → (x 1 .now).now ≤ e → effect u (j.after E x s)
  refused : (j.call E x s).returned = false → j.after E x s = s
  other : ∀ q u, q ≠ p → Mailed E h q u token → (j.call E x s).returned = false

/-- A request redeems tokens, if it returns exactly when the check passes. -/
theorem Accounts.redeems (acc : Accounts E s h) {p : Purpose} {token : String} {j : Job}
    {effect : Id → Db → Prop} (inj : Set.InjOn E.sha256 (used h token))
    (accepts : ∀ user, Accepts s p (E.sha256 token) (x 1 .now).now user →
      (j.call E x s).returned = true ∧ effect user.id (j.after E x s))
    (refuses : Refuses s p (E.sha256 token) (x 1 .now).now →
      Fails E j x s (.unauthorized "Invalid or expired token")) :
    Redeems E x s h p token j effect := by
  have only : (j.call E x s).returned = true →
      ∃ user, Accepts s p (E.sha256 token) (x 1 .now).now user := by
    intro hr
    rcases accepts_or_refuses s p (E.sha256 token) (x 1 .now).now with ha | hf
    · exact ha
    · rw [Call.returned, Job.call, (refuses hf).result] at hr
      cases hr
  constructor
  · constructor
    · intro hr
      obtain ⟨user, ha⟩ := only hr
      obtain ⟨e, ho, he⟩ := acc.of_accepts inj ha
      exact ⟨user.id, e, ho, he⟩
    · rintro ⟨u, e, ho, he⟩
      obtain ⟨user, -, ha⟩ := acc.accepts inj ho he
      exact (accepts user ha).1
  · intro u e ho he
    obtain ⟨user, rfl, ha⟩ := acc.accepts inj ho he
    exact (accepts user ha).2
  · intro hr
    rcases accepts_or_refuses s p (E.sha256 token) (x 1 .now).now with ⟨user, ha⟩ | hf
    · rw [(accepts user ha).1] at hr
      cases hr
    · exact (refuses hf).after
  · intro q u hq hm
    by_contra hr
    obtain ⟨user, ha⟩ := only (by simpa using hr)
    obtain ⟨e, ho, -⟩ := acc.of_accepts inj ha
    exact hq (acc.unique hm ho.mailed).1

/-- The password of one user changes, which uses up the token, and the unrevoked refresh tokens of
that user are revoked. -/
def PasswordReset (E : Env) (newPassword : String) (s : Db) (userId : Id) (s' : Db) : Prop :=
  ∃ salt revokedAt,
    s'.users.rows = s.users.rows.map
      ((UserUpdate.password (E.bcryptHash newPassword 12 salt)).on userId) ∧
    s'.refreshTokens.rows = s.refreshTokens.rows.map (RefreshToken.revoke userId revokedAt)

/-- One user becomes verified, which uses up the token. -/
def EmailVerified (s : Db) (userId : Id) (s' : Db) : Prop :=
  s'.users.rows = s.users.rows.map (UserUpdate.emailVerified.on userId) ∧
    s'.refreshTokens = s.refreshTokens

/-- After any requests, a token of a mail is accepted exactly if it is the last one of its kind
that was mailed to a user, who has not redeemed one since, and it has not expired. Then it is
redeemed for that user only. -/
theorem mailed_tokens_once (hs : Unmailed s₀) (run : Run E Faultless s₀ s h) (fresh : Fresh h)
    {token : String} (inj : Set.InjOn E.sha256 (used h token)) (hx : Faultless x)
    (newPassword : String) :
    Redeems E x s h .passwordReset token (.resetPassword token newPassword)
      (PasswordReset E newPassword s) ∧
    Redeems E x s h .emailVerification token (.verifyEmail token) (EmailVerified s) := by
  have acc := accounts_of_run hs run fresh
  constructor
  · apply acc.redeems inj
    · intro user ha
      obtain ⟨salt, revokedAt, after, before, -, -, result, state⟩ :=
        resetPassword_accepted hx ha newPassword
      have left : (Job.resetPassword token newPassword).after E x s = _ := congrArg Prod.fst state
      refine ⟨by rw [Call.returned, Job.call, result], salt, revokedAt, ?_, ?_⟩
      · rw [left]
        exact Db.rows_updateUser s user.id _
      · rw [left]
        exact Db.rows_revokeRefreshTokens _ user.id revokedAt
    · exact resetPassword_refused hx token newPassword
  · apply acc.redeems inj
    · intro user ha
      obtain ⟨before, -, result, state⟩ := verifyEmail_accepted hx ha
      have left : (Job.verifyEmail token).after E x s = _ := congrArg Prod.fst state
      refine ⟨by rw [Call.returned, Job.call, result], ?_, ?_⟩
      · rw [left]
        exact Db.rows_updateUser s user.id _
      · rw [left]
        rfl
    · exact verifyEmail_refused hx token

/-! ### A mailed token -/

/-- SHA-256, bcrypt and a signature on a few texts; the calendar of UTC. -/
def sampleEnv : Env where
  sha256 token :=
    if token = "7c9e6679-7425-40de-944b-e07fc1f90ae7" then
      "6316e01c9e1d33dec091e5469b8fe3f63ae270f7471846f380d926c3454b4027"
    else if token = "550e8400-e29b-41d4-a716-446655440000" then
      "a3a9e1ed9732cab28868127be00f1ce921acaefdd5c3b23a6e9e0072bd9c1a34"
    else if token = "3f2504e0-4f89-41d3-9a0c-0305e82c3301" then
      "16362f566387b3cf5a6e92fb0a986c76ca20eb3a0c12cbdfbd0b29501e0c18df"
    else "e3b0c44298fc1c149afbf4c8996fb92427ae41e4649b934ca495991b7852b855"
  bcryptHash data rounds _ :=
    if data = "Password123!" ∧ rounds = 12 then
      "$2b$12$abcdefghijklmnopqrstuuenXp7ACOcjF5R/AHqKMae3jaLsnChY6"
    else if data = "Password456!" ∧ rounds = 12 then
      "$2b$12$abcdefghijklmnopqrstuuGtYGQmk3j.LpsZC.JFYXcr8Tfe5qk76"
    else "$2b$10$abcdefghijklmnopqrstuuKjjLUT6SREh7uYeeC5OWqvixrD6hZ5C"
  bcryptCompare data hash :=
    data = "Password123!" && hash = "$2b$12$abcdefghijklmnopqrstuuenXp7ACOcjF5R/AHqKMae3jaLsnChY6"
  sign payload expiresIn issuedAt :=
    if payload = ⟨0, "a@example.com", .user, false⟩ ∧ expiresIn = "15m" ∧
        issuedAt = 1700000000000 then
      "eyJhbGciOiJIUzI1NiIsInR5cCI6IkpXVCJ9.eyJzdWIiOiIwIiwiZW1haWwiOiJhQGV4YW1wbGUuY29" ++
        "tIiwicm9sZSI6InVzZXIiLCJlbWFpbFZlcmlmaWVkIjpmYWxzZSwiaWF0IjoxNzAwMDAwMDAwLCJleHA" ++
        "iOjE3MDAwMDA5MDB9.5YMHxyQ49QlBcmGWrNGOuo_aqZR_BSTC0PCxuqGZUAg"
    else ""
  afterHours now hours := now + hours * 3600000
  afterDays now days := now + days * 86400000

/-- The choices of a request that is given a token at a time. -/
def given (token : String) (now : Nat) : Nat → Op → Choice := fun _ o ↦
  match o with
  | .genSalt => { text := "abcdefghijklmnopqrstuu" }
  | .randomUUID => { text := token }
  | _ => { now := now }

/-- Somebody registers. -/
def registering : Job := .register "a@example.com" "Password123!" "A"

/-- The token that is mailed then. -/
def verificationToken : String := "7c9e6679-7425-40de-944b-e07fc1f90ae7"

/-- The time of the requests. -/
def sampleTime : Nat := 1700000000000

/-- The database after that. -/
def registered : Db := registering.after sampleEnv (given verificationToken sampleTime) .empty

/-- The same user asks for a reset. -/
def asking : Job := .requestPasswordReset "a@example.com"

/-- The token that is mailed then. -/
def resetToken : String := "550e8400-e29b-41d4-a716-446655440000"

/-- Both requests, newest first. -/
def mailedTwice : List Call :=
  [asking.call sampleEnv (given resetToken sampleTime) registered,
    registering.call sampleEnv (given verificationToken sampleTime) .empty]

/-- The choices of a request do not fail. -/
theorem given_faultless (token : String) (now : Nat) : Faultless (given token now) := by
  intro n o
  cases o <;> rfl

/-- A reset token is accepted after a verification token was mailed too. -/
theorem mailed_tokens_once_reset :
    ((Job.resetPassword resetToken "Password456!").call sampleEnv (given "" sampleTime)
      (asking.after sampleEnv (given resetToken sampleTime) registered)).returned = true ∧
    ((Job.verifyEmail resetToken).call sampleEnv (given "" sampleTime)
      (asking.after sampleEnv (given resetToken sampleTime) registered)).returned = false := by
  have start : Unmailed .empty :=
    ⟨fun _ h ↦ absurd h List.not_mem_nil, fun _ h ↦ absurd h List.not_mem_nil⟩
  have run : Run sampleEnv Faultless .empty
      (asking.after sampleEnv (given resetToken sampleTime) registered) mailedTwice :=
    (Run.start.call registering _ (given_faultless _ _)).call asking _ (given_faultless _ _)
  have uuids : mailedTwice.flatMap Call.uuids = [resetToken, verificationToken] := by
    decide +kernel
  have fresh : Fresh mailedTwice := by
    rw [Fresh, uuids]
    decide +kernel
  have inj : Set.InjOn sampleEnv.sha256 (used mailedTwice resetToken) := by
    have differ : sampleEnv.sha256 resetToken ≠ sampleEnv.sha256 verificationToken := by
      decide +kernel
    have two : ∀ t ∈ used mailedTwice resetToken, t = resetToken ∨ t = verificationToken := by
      intro t ht
      simpa [used, uuids] using ht
    intro t ht t' ht' he
    rcases two t ht with rfl | rfl <;> rcases two t' ht' with rfl | rfl
    · rfl
    · exact absurd he differ
    · exact absurd he.symm differ
    · rfl
  have sends : (asking.call sampleEnv (given resetToken sampleTime) registered).sends sampleEnv
      .passwordReset 0 resetToken (sampleTime + 3600000) :=
    ⟨"a@example.com", "A", by decide +kernel⟩
  have outstanding : Outstanding sampleEnv mailedTwice .passwordReset 0 resetToken
      (sampleTime + 3600000) :=
    ⟨[], _, _, rfl, sends, by simp⟩
  obtain ⟨reset, verify⟩ := mailed_tokens_once start run fresh inj
    (given_faultless "" sampleTime) "Password456!"
  refine ⟨reset.accepted.mpr ⟨0, _, outstanding, ?_⟩,
    verify.other .passwordReset 0 (by simp) outstanding.mailed⟩
  exact Nat.le_add_right _ _

end Ticketing.AuthService
