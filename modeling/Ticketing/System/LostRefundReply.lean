import Ticketing.BookingService.RefundReplies
import Ticketing.PaymentService.RetriedRefund
import Ticketing.System.Links

/-!
# A refund whose reply was lost

Library `System`. The saga repeats its request under the same key. It is answered with the stored
refund as long as the payment service still finds the payment and the refund that the first request
left; a refunded payment is not found any more.
-/

namespace Ticketing.System

open Async Store

namespace Platform

variable {provider : String} {s s₁ : Platform provider} {seats : Table SeatInventory.Seat.place}

/-- The requests to refund booking `b`. -/
def RefundsBooking (b : Id) (i : Option Id) (r : Request) : Prop :=
  i = some b ∧ ∃ key reason, r = .refundPayment b key reason

/-- After refund `r` was stored as processed for booking `b` under `key`: later requests repeat it,
and a saga whose reply was lost goes on to `PAYMENT_REFUNDED`. -/
structure SafeRetry (s₁ s : Platform provider) (b : Id) (key : String)
    (r : PaymentService.Refund) : Prop where
  repeats : ∀ t i reason w, s.payment.At t ⟨i, .refundPayment b key reason⟩ w →
    (∀ ev ∈ s₁.payment.conf.log, ev.tid ≠ t) → PaymentService.RepeatsRefund s.payment t r
  told : Since.Closed s₁ (RefundsBooking b) → ∀ t j reason a,
    (⟨t, j, .rpc (some b) (.refundPayment b key reason), .ok a⟩ : Event BookingService.service) ∈
      s.booking.conf.log →
    (⟨t, j, .rpc (some b) (.refundPayment b key reason), .ok a⟩ : Event BookingService.service) ∈
      s₁.booking.conf.log ∨ ∃ why, a = .refund true (some r.id) why
  proceeds : ∀ ev log, ev :: log <:+ s.booking.conf.log →
    BookingService.told.state ev.tid log = some b →
    ∃ row, ev.op = .saveBooking row ∧ row.id = b ∧ row.refundState = some .paymentRefunded
  unfailed : Since.Closed s₁ (RefundsBooking b) → ¬ BookingService.Refused s₁.booking.conf.log b →
    ∀ row ∈ s.booking.conf.state.bookings.rows, row.id = b → row.refundState = some .failed →
    ∃ t j key' reason id why, key' ≠ key ∧
      (⟨t, j, .rpc (some b) (.refundPayment b key' reason), .ok (.refund false id why)⟩ :
        Event BookingService.service) ∈ s.booking.conf.log

/-- The runs in which repeated refund requests find what the first one left. -/
def findsRetries (provider : String) : Regime provider where
  may s
    | .payment ev => (PaymentService.findsRetries provider).may s.payment.conf ev
    | _ => True
  excl _ _ := False

instance (s : Platform provider) :
    (a : Action provider) → Decidable ((findsRetries provider).may s a)
  | .payment ev => inferInstanceAs
    (Decidable ((PaymentService.findsRetries provider).may s.payment.conf ev))
  | .arrive _ | .visit _ | .call _ _ | .booking _ | .inventory _ => inferInstanceAs (Decidable True)

instance (i j : BookingService.Job) : Decidable ((findsRetries provider).excl i j) :=
  inferInstanceAs (Decidable False)

/-- A thread that was started later has executed nothing. -/
theorem absent_of_started (h : Reach (findsRetries provider) seats s₁) {t : Nat}
    (ht : s₁.started .payment ≤ t) : ∀ ev ∈ s₁.payment.conf.log, ev.tid ≠ t := by
  intro ev hev he
  have hp : PaymentService.Reach (PaymentService.findsRetries provider) s₁.payment :=
    reach_payment (fun _ _ hm ↦ hm) (fun _ _ hx ↦ hx) h
  obtain ⟨q, hq⟩ := hp.event_at hev
  have hlt : ev.tid < s₁.payment.threads.length := (List.getElem?_eq_some_iff.mp hq).1
  have hle : s₁.payment.threads.length ≤ t := ht
  omega

/-- While repeated requests find what the first one left, retrying a refund is safe. -/
theorem safe_retry_when_found (h₁ : Reach (findsRetries provider) seats s₁)
    (h : Relation.ReflTransGen (Step (findsRetries provider)) s₁ s) {b : Id} {key : String}
    {r : PaymentService.Refund}
    (hr : r ∈ PaymentService.processed b key s₁.payment.conf.log) : SafeRetry s₁ s b key r := by
  have hs := h₁.trans h
  have repeats : ∀ t i reason w, s.payment.At t ⟨i, .refundPayment b key reason⟩ w →
      (∀ ev ∈ s₁.payment.conf.log, ev.tid ≠ t) → PaymentService.RepeatsRefund s.payment t r := by
    intro t i reason w ht hn
    exact PaymentService.repeats_when_found
      (reach_payment (fun _ _ hm ↦ hm) (fun _ _ hx ↦ hx) h₁)
      (later_payment (fun _ _ hm ↦ hm) (fun _ _ hx ↦ hx) h) hr hn ht
  have told : Since.Closed s₁ (RefundsBooking b) → ∀ t j reason a,
      (⟨t, j, .rpc (some b) (.refundPayment b key reason), .ok a⟩ :
        Event BookingService.service) ∈ s.booking.conf.log →
      (⟨t, j, .rpc (some b) (.refundPayment b key reason), .ok a⟩ :
        Event BookingService.service) ∈ s₁.booking.conf.log ∨
        ∃ why, a = .refund true (some r.id) why := by
    intro hc t j reason a hm
    rcases (since_of_later h₁ hc h).replies t j _ _ a hm ⟨rfl, key, reason, rfl⟩ with
      old | ⟨u, hu, hserved⟩
    · exact .inl old
    · obtain ⟨-, replied⟩ := repeats u _ reason _ hserved (absent_of_started h₁ hu)
      obtain ⟨why, ha⟩ := replied _ _ hserved
      exact .inr ⟨why, Except.ok.inj ha⟩
  refine ⟨repeats, told, ?_, ?_⟩
  · intro ev log hlog htold
    have watched := Monitor.watches_of_reach BookingService.job_told (reach_booking hs)
    exact (watched.kept.suffix hlog).1 b htold
  · intro hc hn row hrow hid hst
    obtain ⟨owner, hi⟩ := BookingService.reach_inv (reach_booking hs).free
    obtain ⟨t, j, key', reason, id, why, hm⟩ := (hi.rows row hrow).failed hst
    rw [hid] at hm
    refine ⟨t, j, key', reason, id, why, ?_, hm⟩
    rintro rfl
    rcases told hc t j reason _ hm with old | ⟨why', ha⟩
    · exact hn ⟨t, j, key', reason, id, why, old⟩
    · cases ha

/-- A cancellation of booking 0 whose refund request runs `n` operations before its reply is
lost. -/
def loseReply (n : Nat) : List Label :=
  [.arrive (.cancelBooking 0 "u" "r" none), .booking 1 {}, .booking 1 {}, .call 1] ++
    List.replicate n (.payment 1 {}) ++
    [.booking 1 { fault := some (.failure "deadline exceeded") }, .booking 1 {}]

/-- User `"u"` books a seat, cancels the booking, and the reply to the refund is lost. -/
def replyLost (G : Regime provider) [∀ s a, Decidable (G.may s a)]
    [∀ i j, Decidable (G.excl i j)] (n : Nat) : Option (Platform provider) :=
  (play G [holdSeat "A", book "A" "k"] (start sampleSeats)).bind (walk G (loseReply n))

/-- What leads to a lost reply is a run. -/
theorem reach_of_replyLost {G : Regime provider} [∀ s a, Decidable (G.may s a)]
    [∀ i j, Decidable (G.excl i j)] {n : Nat} (h : replyLost G n = some s) :
    Reach G sampleSeats s := by
  obtain ⟨s₀, h₀, h₁⟩ := Option.bind_eq_some_iff.mp h
  exact (later_of_play h₀).trans (later_of_walk h₁)

/-- The refund was saved, but not its payment, when the reply was lost: the repeated request gets
the refund, and the booking is refunded. -/
theorem safe_retry_when_found_between :
    ∃ s₁ s r, replyLost (findsRetries "stripe") 5 = some s₁ ∧
      play (findsRetries "stripe") [cancel 0 "r"] s₁ = some s ∧
      (∃ row ∈ s.booking.conf.state.bookings.rows, row.refundState = some .completed) ∧
      SafeRetry s₁ s 0 "r" r := by
  have played : (replyLost (findsRetries "stripe") 5).any fun s₁ ↦
      (play (findsRetries "stripe") [cancel 0 "r"] s₁).any fun s ↦
        (PaymentService.processed 0 "r" s₁.payment.conf.log).any (fun _ ↦ true) &&
          s.booking.conf.state.bookings.rows.any fun row ↦ row.refundState = some .completed := by
    decide +kernel
  simp only [Option.any_eq_true, List.any_eq_true, Bool.and_eq_true, decide_eq_true_eq] at played
  obtain ⟨s₁, h₁, s, h, ⟨r, hr, -⟩, hrow⟩ := played
  exact ⟨s₁, s, r, h₁, h, hrow,
    safe_retry_when_found (reach_of_replyLost h₁) (later_of_play h) hr⟩

/-- The reply says that nothing was refunded. -/
def refused : Reply → Bool
  | .refund success _ _ => !success
  | _ => false

/-- The refund went through before the reply was lost: the repeated request finds no payment, and
the refund of the booking fails. -/
theorem lost_reply_fails_refund :
    ∃ s₁ s r, replyLost (.free "stripe") 7 = some s₁ ∧
      play (.free "stripe") [cancel 0 "r"] s₁ = some s ∧
      r ∈ PaymentService.processed 0 "r" s₁.payment.conf.log ∧
      (∃ row ∈ s.booking.conf.state.bookings.rows, row.id = 0 ∧ row.refundState = some .failed) ∧
      ¬ SafeRetry s₁ s 0 "r" r := by
  have played : (replyLost (.free "stripe") 7).any fun s₁ ↦
      (play (.free "stripe") [cancel 0 "r"] s₁).any fun s ↦
        (PaymentService.processed 0 "r" s₁.payment.conf.log).any (fun _ ↦ true) &&
        (s.booking.conf.state.bookings.rows.any fun row ↦
          row.id = 0 && row.refundState = some .failed) &&
        s₁.payment.conf.log.all (fun ev ↦ ev.tid ≠ 2) &&
        ((s.payment.threads[2]?).any fun thread ↦
          thread.1.request = .refundPayment 0 "r" "User cancellation") &&
        (s.payment.reply? 2).any refused := by
    decide +kernel
  simp only [Option.any_eq_true, List.any_eq_true, List.all_eq_true, Bool.and_eq_true,
    decide_eq_true_eq] at played
  obtain ⟨s₁, h₁, s, h, ⟨⟨⟨⟨r, hr, -⟩, hrow⟩, hnew⟩, ⟨⟨i, request⟩, w⟩, ht, hj⟩, reply, hreply,
    hfalse⟩ := played
  refine ⟨s₁, s, r, h₁, h, hr, hrow, ?_⟩
  intro safe
  have hj : request = .refundPayment 0 "r" "User cancellation" := hj
  subst hj
  have ended := Pool.at_of_reply hreply ht
  subst ended
  obtain ⟨why, ha⟩ := (safe.repeats 2 _ _ _ ht hnew).2 _ _ ht
  cases ha
  cases hfalse

end Platform

end Ticketing.System
