import Ticketing.Async.Relabel
import Ticketing.PaymentService.Balance
import Ticketing.PaymentService.RefundStages

/-!
# What gateways are asked to pay back

Library `PaymentService`. A gateway is asked for a refund by a call of `refundByBooking` alone, for
the payment that this call has found, and for all of it.
-/

namespace Ticketing.PaymentService

open Async Store

variable {provider : String}

/-- The service among all requests that it may get: here they come by gRPC. -/
def requests (p : Pool (service provider)) : Pool (controllers provider) :=
  p.relabel Inbound.grpc Answered.reply

/-- The runs of the service are runs of its controllers. -/
theorem reach_requests {p : Pool (service provider)} (hp : Reach (.free (service provider)) p) :
    Pool.Reach (.free (controllers provider)) (· = Db.empty) (requests p) := by
  have grpc : ∀ j, (controllers provider).code (.grpc j) =
      ((service provider).code j).map (Except.map Answered.reply) :=
    fun _ ↦ Code.prog_bind_pure _ _
  exact Pool.reach_relabel grpc hp

/-- A payment that is found is of the booking that was asked for. -/
theorem booking_of_finds {o : Op} {a : sig.Answer o} {q : Payment}
    (given : (service provider).Gives o a) (h : Op.finds o a = some q) :
    o = .findSucceeded q.bookingId := by
  cases o with
  | findSucceeded b =>
    obtain ⟨x, s, rfl⟩ := given
    change Op.finds _ (exec x (.findSucceeded b) s).1 = some q at h
    rcases exec_cases x (.findSucceeded b) s with ⟨-, e, he⟩ | he
    · rw [he] at h
      cases h
    · rw [he] at h
      have found := List.find?_some (show s.payment? _ = some q from h)
      simp only [Bool.and_eq_true, decide_eq_true_eq] at found
      rw [found.1]
  | _ => cases h

namespace Books

variable {s : Books} {o : Op} {a : sig.Answer o} {q : Payment}

/-- What a thread has found, it found before or finds now. -/
theorem found_of_next (h : (s.next o a).found = some q) :
    s.found = some q ∨ Op.finds o a = some q := by
  cases o with
  | findSucceeded b =>
    rcases a with e | _ | p
    · exact .inl h
    · exact .inl h
    · exact .inr h
  | save p =>
    cases a with
    | error e => exact .inl h
    | ok _ =>
      simp only [next] at h
      split at h
      · exact .inl h
      · exact .inl h
  | _ => cases a <;> exact .inl h

/-- A thread that found a payment keeps it. -/
theorem found_next (may : s.may o) (h : s.found = some q) : (s.next o a).found = some q := by
  cases o with
  | findSucceeded b =>
    rw [show s = {} from may] at h
    cases h
  | save p =>
    cases a with
    | error e => exact h
    | ok _ =>
      simp only [next]
      split
      · exact h
      · exact h
  | _ => cases a <;> exact h

end Books

private theorem finds_of_found {log : List (Event (controllers provider))} {t : Nat} {q : Payment}
    (h : (book log t).found = some q) :
    ∃ ev ∈ log, ev.tid = t ∧ Op.finds ev.op ev.answer = some q := by
  induction log with
  | nil => cases h
  | cons ev log ih =>
    have before : (book log t).found = some q →
        ∃ e ∈ ev :: log, e.tid = t ∧ Op.finds e.op e.answer = some q := by
      intro hf
      obtain ⟨e, mem, ht, finds⟩ := ih hf
      exact ⟨e, List.mem_cons_of_mem _ mem, ht, finds⟩
    by_cases ht : ev.tid = t
    · subst ht
      rw [book, Monitor.state_self] at h
      rcases Books.found_of_next h with hf | finds
      · exact before hf
      · exact ⟨ev, List.mem_cons_self, rfl, finds⟩
    · rw [book, Monitor.state_other _ ht] at h
      exact before h

private theorem found_of_sent {log : List (Event (controllers provider))}
    (kept : (books provider).Kept log) {t : Nat} {j : Inbound} {gateway providerTxId : String}
    {amount : Money} {a : sig.Answer (.refund gateway providerTxId amount)}
    (mem : (⟨t, j, .refund gateway providerTxId amount, a⟩ : Event (controllers provider)) ∈ log) :
    ∃ q, (book log t).found = some q ∧ gateway = q.provider ∧
      providerTxId = q.providerTxId.getD "" ∧ amount = q.amount := by
  induction log with
  | nil => cases mem
  | cons ev log ih =>
    rcases List.mem_cons.mp mem with rfl | old
    · obtain ⟨-, q, r, found, -, -, name, txId, all⟩ := kept.1
      refine ⟨q, ?_, name, txId, all⟩
      rw [book, Monitor.state_self]
      exact Books.found_next (s := book log t) (o := .refund _ _ _) kept.1 found
    · obtain ⟨q, found, order⟩ := ih kept.2 old
      refine ⟨q, ?_, order⟩
      by_cases ht : ev.tid = t
      · subst ht
        rw [book, Monitor.state_self]
        exact Books.found_next kept.1 found
      · rw [book, Monitor.state_other _ ht]
        exact found

/-- Whatever fails and however the requests interleave, a gateway is asked to pay back all of a
settled payment that it charged, for the booking that the request names. -/
theorem refund_ordered {p : Pool (service provider)} (hp : Reach (.free (service provider)) p)
    {t : Nat} {j : Job} {gateway providerTxId : String} {amount : Money}
    {a : sig.Answer (.refund gateway providerTxId amount)}
    (mem : (⟨t, j, .refund gateway providerTxId amount, a⟩ : Event (service provider)) ∈
      p.conf.log) :
    ∃ r ∈ p.conf.state.payments.rows, r.settled = true ∧ r.provider = gateway ∧
      r.providerTxId.getD "" = providerTxId ∧ r.amount = amount ∧
        ∃ key reason, j.request = .refundPayment r.bookingId key reason := by
  have calls := reach_requests hp
  have sent : (⟨t, .grpc j, .refund gateway providerTxId amount, a⟩ :
      Event (controllers provider)) ∈ (requests p).conf.log :=
    List.mem_map.mpr ⟨_, mem, rfl⟩
  obtain ⟨q, found, rfl, rfl, rfl⟩ :=
    found_of_sent (Monitor.watches_of_reach books_obeys calls).kept sent
  obtain ⟨r, hr, settled, record⟩ := (kept_of_reach calls).1.found t q found
  obtain ⟨stored, -⟩ := Table.find_eq_some_iff.mp hr
  have booking : r.bookingId = q.bookingId := congrArg (fun c ↦ c.1.1.2.1) record
  refine ⟨r, stored, settled, congrArg (fun c ↦ c.1.2) record, ?_, ?_, ?_⟩
  · exact congrArg (fun c ↦ c.2.getD "") record
  · exact congrArg (fun c ↦ c.1.1.2.2.2.1) record
  · -- The thread has looked for the booking of its request.
    obtain ⟨_, hm, ht, finds⟩ := finds_of_found found
    obtain ⟨ev, looked, rfl⟩ := List.mem_map.mp hm
    have lookup := booking_of_finds (hp.gives looked) finds
    obtain ⟨s, allowed⟩ := (Monitor.watches_of_reach request_obeys hp).kept.mem looked
    rw [lookup] at allowed
    obtain ⟨-, key, reason, asks⟩ := allowed
    obtain ⟨u, hu⟩ := hp.event_at mem
    obtain ⟨v, hv⟩ := hp.event_at looked
    have same : ev.job = j := by
      rw [show ev.tid = t from ht] at hv
      exact Pool.job_of_at hv hu
    exact ⟨key, reason, by rw [← same, asks, booking]⟩

end Ticketing.PaymentService
