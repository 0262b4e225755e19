import Ticketing.PaymentService.RefundStages

/-!
# Repeating a refund request

Library `PaymentService`. `refundByBooking` looks for a payment that succeeded before it looks
up the key. A repeated request gets the stored refund as long as both lookups still find what the
first request left.
-/

namespace Ticketing.PaymentService

open Async Store

variable {provider : String}

/-- The refund that a request for booking `b` under `key` stores as processed. -/
def processedBy (b : Id) (key : String) (ev : Event (service provider)) : Option Refund :=
  match ev.job.request, ev.op, ev.answer with
  | .refundPayment b' key' _, .saveRefund r, .ok _ =>
    if b' = b ∧ key' = key ∧ r.status = .processed then some r else none
  | _, _, _ => none

/-- The refunds that requests for booking `b` under `key` have stored as processed. -/
def processed (b : Id) (key : String) (log : List (Event (service provider))) : List Refund :=
  log.filterMap (processedBy b key)

/-- The processed refunds of its request that were stored when thread `t` began. -/
def owed (t : Nat) : List (Event (service provider)) → List Refund
  | [] => []
  | ev :: log =>
    if ev.tid = t then
      match ev.job.request, ev.op with
      | .refundPayment b key _, .findSucceeded _ => processed b key log
      | _, _ => owed t log
    else owed t log

/-- A repeated request finds a payment that succeeded. -/
def FindsPaid (c : Conf (service provider)) (ev : Event (service provider)) : Prop :=
  match ev.job.request, ev.op with
  | .refundPayment b key _, .findSucceeded _ =>
    processed b key c.log ≠ [] → (Op.finds ev.op ev.answer).isSome = true
  | _, _ => True

/-- A repeated request finds the refund that is stored as processed. -/
def FindsProcessed (c : Conf (service provider)) (ev : Event (service provider)) : Prop :=
  match ev.op with
  | .findRefundByKey _ =>
    ∀ r ∈ owed ev.tid c.log, (Op.findsRefund ev.op ev.answer).any fun r' ↦
      r'.id = r.id && r'.status = .processed
  | _ => True

/-- The runs in which repeated requests find what the first one left. -/
def findsRetries (provider : String) : Regime (service provider) where
  may c ev := FindsPaid c ev ∧ FindsProcessed c ev
  excl _ _ := False

instance (c : Conf (service provider)) (ev : Event (service provider)) :
    Decidable ((findsRetries provider).may c ev) := by
  unfold findsRetries FindsPaid FindsProcessed
  refine @instDecidableAnd _ _ ?_ ?_ <;> dsimp only <;> split <;> infer_instance

instance (i j : Job) : Decidable ((findsRetries provider).excl i j) :=
  inferInstanceAs (Decidable False)

/-- A call of the gateway for a refund. -/
def Op.sends : Op → Bool
  | .refund _ _ _ => true
  | _ => false

/-- Thread `t` has not called the gateway, and its reply is refund `r`, with success. -/
def RepeatsRefund (p : Pool (service provider)) (t : Nat) (r : Refund) : Prop :=
  (∀ ev ∈ p.conf.log, ev.tid = t → ev.op.sends = false) ∧
    ∀ j a, p.At t j (.ret a) → ∃ why, a = .ok (.refund true (some r.id) why)

/-! ### Stages of a repeated request -/

namespace Stage

/-- The gateway has not been called. -/
def unsent : Stage → Bool
  | .start | .found _ | .existing _ _ => true
  | _ => false

/-- The request is on its way to refund `r`. -/
def Repeats (r : Refund) : Stage → Prop
  | .found _ => True
  | .existing _ r' => r'.id = r.id ∧ r'.status = .processed
  | _ => False

/-- A thread that has not called the gateway had not called it before. -/
theorem unsent_of_next {st : Stage} {o : Op} {a : sig.Answer o}
    (h : (st.next o a).unsent = true) : st.unsent = true := by
  unfold next at h
  split at h
  case h_7 => split at h <;> cases h
  all_goals first | rfl | exact h

/-- A request that repeats a refund has not called the gateway. -/
theorem unsent_of_repeats {r : Refund} {st : Stage} (h : st.Repeats r) : st.unsent = true := by
  cases st <;> first | rfl | cases h

end Stage

/-- A thread that has not got past its lookups has called no gateway. -/
theorem sends_nothing {log : List (Event (service provider))} (hk : (stages provider).Kept log)
    {t : Nat} (hs : ((stages provider).state t log).unsent = true) :
    ∀ ev ∈ log, ev.tid = t → ev.op.sends = false := by
  induction log with
  | nil => intro ev hev; cases hev
  | cons ev log ih =>
    obtain ⟨u, j, o, a⟩ := ev
    have before : ((stages provider).state t log).unsent = true := by
      by_cases hu : u = t
      · subst hu
        rw [Monitor.state_self] at hs
        exact Stage.unsent_of_next hs
      · rw [Monitor.state_other _ hu] at hs
        exact hs
    intro e he ht
    rcases List.mem_cons.mp he with rfl | he
    · cases o with
      | refund name txId amount =>
        obtain ⟨p, hp, -⟩ := hk.1
        have ht : u = t := ht
        subst ht
        rw [hp] at before
        cases before
      | _ => rfl
    · exact ih hk.2 before e he ht

/-! ### Steps of a repeated request -/

variable {c : Conf (service provider)} {t : Nat} {j : Job} {x : Choice} {o : Op} {r : Refund}

/-- What another thread does leaves a thread what it is owed. -/
theorem owed_other {u : Nat} (hu : u ≠ t) : owed u (c.after t j x o).log = owed u c.log :=
  if_neg (Ne.symm hu)

/-- A lookup by booking that finds a payment answers it. -/
theorem answer_of_finds {b : Id} {a : sig.Answer (.findSucceeded b)}
    (h : (Op.finds (.findSucceeded b) a).isSome = true) : ∃ p, a = .ok (some p) := by
  rcases a with e | found
  · cases h
  · cases found with
    | none => cases h
    | some p => exact ⟨p, rfl⟩

/-- A lookup by key that finds a refund answers it. -/
theorem answer_of_findsRefund {key : String} {a : sig.Answer (.findRefundByKey key)}
    {q : Refund → Bool} (h : (Op.findsRefund (.findRefundByKey key) a).any q = true) :
    ∃ r, a = .ok (some r) ∧ q r = true := by
  rcases a with e | found
  · cases h
  · cases found with
    | none => cases h
    | some r => exact ⟨r, rfl, h⟩

/-- A thread goes on repeating what it is owed. -/
theorem repeats_step (may : ((stages provider).state t c.log).may j o)
    (hm : (findsRetries provider).may c ⟨t, j, o, c.answer x o⟩)
    (h : ∀ r ∈ owed t c.log, ((stages provider).state t c.log).Repeats r) :
    ∀ r ∈ owed t (c.after t j x o).log,
      ((stages provider).state t (c.after t j x o).log).Repeats r := by
  intro r hr
  show ((stages provider).state t (⟨t, j, o, c.answer x o⟩ :: c.log)).Repeats r
  rw [Monitor.state_self]
  cases o with
  | findSucceeded b =>
    obtain ⟨hs, key, reason, hj⟩ := may
    have hr : r ∈ processed b key c.log := by
      simpa only [Conf.after, owed, if_pos, hj] using hr
    have paid := hm.1
    simp only [FindsPaid, hj] at paid
    obtain ⟨p, hp⟩ := answer_of_finds (paid (List.ne_nil_of_mem hr))
    rw [hs, hp]
    trivial
  | findRefundByKey key =>
    obtain ⟨⟨p, hs⟩, b, reason, hj⟩ := may
    have hr : r ∈ owed t c.log := by
      simpa only [Conf.after, owed, if_pos, hj] using hr
    obtain ⟨r', ha, hr'⟩ := answer_of_findsRefund (hm.2 r hr)
    have ha : c.answer x (.findRefundByKey key) = .ok (some r') := ha
    rw [hs, ha]
    show r'.id = r.id ∧ r'.status = .processed
    simpa using hr'
  | _ =>
    have hr : r ∈ owed t c.log := by
      simp only [Conf.after, owed, if_pos] at hr
      split at hr
      · next heq => cases heq
      · exact hr
    have hs := h r hr
    generalize (stages provider).state t c.log = st at hs
    cases st <;> first | exact hs | cases hs

/-- Every thread repeats what it is owed. -/
theorem repeats_of_reach {p : Pool (service provider)} (hp : Reach (findsRetries provider) p)
    (t : Nat) : ∀ r ∈ owed t p.conf.log, ((stages provider).state t p.conf.log).Repeats r := by
  induction hp with
  | start hs => intro r hr; cases hr
  | spawn _ _ ih => exact ih
  | @run p u j x o k hp hu hm ih =>
    by_cases ht : t = u
    · subst ht
      exact repeats_step ((Monitor.watches_of_reach (Q := Replies) request_obeys hp).may hu) hm ih
    · show ∀ r ∈ owed t (p.conf.after u j x o).log, _
      rw [owed_other ht]
      show ∀ r ∈ _,
        ((stages provider).state t (⟨u, j, o, p.conf.answer x o⟩ :: p.conf.log)).Repeats r
      rw [Monitor.state_other _ (Ne.symm ht)]
      exact ih

/-! ### Later requests -/

/-- A thread of a later request has not begun yet, or it is owed the refund. -/
theorem owed_of_later {p q : Pool (service provider)} (hp : Reach (findsRetries provider) p)
    (h : Pool.Later (findsRetries provider) p q) {b : Id} {key reason : String} {i : Option Id}
    (hr : r ∈ processed b key p.conf.log) (hn : ∀ ev ∈ p.conf.log, ev.tid ≠ t)
    {w : (service provider).Program} (ht : q.At t ⟨i, .refundPayment b key reason⟩ w) :
    (stages provider).state t q.conf.log = .start ∨ r ∈ owed t q.conf.log := by
  induction h generalizing w with
  | refl => exact .inl (Monitor.state_absent _ hn)
  | @tail q q' hl hs ih =>
    have watched := Monitor.watches_of_reach (Q := Replies) request_obeys (hp.later hl)
    have stored : r ∈ processed b key q.conf.log :=
      ((Pool.log_of_later hl).sublist.filterMap _).mem hr
    cases hs with
    | spawn _ =>
      rcases Pool.at_spawn.mp ht with old | ⟨rfl, -, -⟩
      · exact ih old
      · exact .inl (watched.threads _ (Nat.le_refl _))
    | @run u j x o k hu hm =>
      rcases (Pool.at_advance hu).mp ht with ⟨rfl, rfl, -⟩ | ⟨hne, old⟩
      · have before := ih hu
        show (stages provider).state t (⟨t, _, o, q.conf.answer x o⟩ :: q.conf.log) = .start ∨
          r ∈ owed t (⟨t, _, o, q.conf.answer x o⟩ :: q.conf.log)
        rw [Monitor.state_self]
        cases o with
        | findSucceeded b' =>
          right
          simpa only [owed, if_pos] using stored
        | _ =>
          rcases before with hst | hr
          · left
            rw [hst]
            rfl
          · right
            simpa only [owed, if_pos] using hr
      · have before := ih old
        show (stages provider).state t (⟨u, j, o, q.conf.answer x o⟩ :: q.conf.log) = .start ∨
          r ∈ owed t (⟨u, j, o, q.conf.answer x o⟩ :: q.conf.log)
        rw [Monitor.state_other _ (Ne.symm hne), owed, if_neg (Ne.symm hne)]
        exact before

/-- A later request under the key repeats the refund. -/
theorem repeats_when_found {p q : Pool (service provider)} (hp : Reach (findsRetries provider) p)
    (h : Pool.Later (findsRetries provider) p q) {b : Id} {key reason : String} {i : Option Id}
    (hr : r ∈ processed b key p.conf.log) (hn : ∀ ev ∈ p.conf.log, ev.tid ≠ t)
    {w : (service provider).Program} (ht : q.At t ⟨i, .refundPayment b key reason⟩ w) :
    RepeatsRefund q t r := by
  have hq := hp.later h
  have watched := Monitor.watches_of_reach (Q := Replies) request_obeys hq
  rcases owed_of_later hp h hr hn ht with hst | howed
  · constructor
    · exact sends_nothing watched.kept (by rw [hst]; rfl)
    · intro j a ha
      cases Pool.job_of_at ha ht
      rcases watched.ended ha b key reason rfl with hover | ⟨p', r', hex, -⟩
      · rw [hst] at hover
        cases hover
      · rw [hst] at hex
        cases hex
  · have hs := repeats_of_reach hq t r howed
    constructor
    · exact sends_nothing watched.kept (Stage.unsent_of_repeats hs)
    · intro j a ha
      cases Pool.job_of_at ha ht
      rcases watched.ended ha b key reason rfl with hover | ⟨p', r', hex, hreply⟩
      · rw [hover] at hs
        cases hs
      · rw [hex] at hs
        obtain ⟨hid, hst⟩ := hs
        exact ⟨_, by rw [hreply, hid, hst]; rfl⟩

end Ticketing.PaymentService
