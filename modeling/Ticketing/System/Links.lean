import Ticketing.System.Platform

/-!
# What the services of the platform know about each other

Library `System`. Every run of the platform is a run of each of its services, and every
reply that the booking service got is one that a thread of the called service has ended
with, for the request that was sent.
-/

namespace Ticketing.System

open Async Store

/-- The job releases sold seats of the booking. -/
def releasesFor (b : Id) : SeatInventory.Job → Bool
  | .serve i (.releaseSoldSeats _ _) => i = some b
  | _ => false

namespace Platform

variable {provider : String} {s s' : Platform provider}

/-- A thread of the called service runs, or has run, for this request. -/
def Serves (s : Platform provider) (i : Option Id) (r : Request) (u : Nat) : Prop :=
  match server r with
  | .payment => ∃ q, s.payment.At u ⟨i, r⟩ q
  | .inventory => ∃ q, s.inventory.At u (.serve i r) q

/-- A thread of the called service has ended with this reply to the request. -/
def Served (s : Platform provider) (i : Option Id) (r : Request) (a : Reply) : Prop :=
  match server r with
  | .payment => ∃ u, s.payment.At u ⟨i, r⟩ (.ret (.ok a))
  | .inventory => ∃ u, s.inventory.At u (.serve i r) (.ret (.ok a))

/-- Thread `u` of the called service has ended with this reply to the request. -/
def ServedBy (s : Platform provider) (u : Nat) (i : Option Id) (r : Request) (a : Reply) : Prop :=
  match server r with
  | .payment => s.payment.At u ⟨i, r⟩ (.ret (.ok a))
  | .inventory => s.inventory.At u (.serve i r) (.ret (.ok a))

/-- A reply by one thread is a reply. -/
theorem ServedBy.served {u : Nat} {i : Option Id} {r : Request} {a : Reply}
    (h : s.ServedBy u i r a) : s.Served i r a := by
  unfold ServedBy at h
  unfold Served
  cases hr : server r with
  | payment =>
    simp only [hr] at h ⊢
    exact ⟨u, h⟩
  | inventory =>
    simp only [hr] at h ⊢
    exact ⟨u, h⟩

/-- Calls and replies belong together. -/
structure Linked (s : Platform provider) : Prop where
  calls : ∀ t u, s.calls t = some u →
    ∃ j i r k, s.booking.At t j (.op (.rpc i r) k) ∧ s.Serves i r u
  replies : ∀ t j i r a,
    (⟨t, j, .rpc i r, .ok a⟩ : Event BookingService.service) ∈ s.booking.conf.log → s.Served i r a

/-- The called services keep what they have done. -/
structure Grows (s s' : Platform provider) : Prop where
  payment : Pool.Extends s.payment s'.payment
  inventory : Pool.Extends s.inventory s'.inventory

namespace Grows

/-- A call that is being served stays so when the platform grows. -/
theorem serves (h : Grows s s') {i : Option Id} {r : Request} {u : Nat} (hs : s.Serves i r u) :
    s'.Serves i r u := by
  unfold Serves at hs ⊢
  cases hr : server r with
  | payment =>
    simp only [hr] at hs ⊢
    obtain ⟨q, hq⟩ := hs
    exact h.payment.job _ _ q hq
  | inventory =>
    simp only [hr] at hs ⊢
    obtain ⟨q, hq⟩ := hs
    exact h.inventory.job _ _ q hq

/-- A thread that has replied keeps its reply. -/
theorem servedBy (h : Grows s s') {u : Nat} {i : Option Id} {r : Request} {a : Reply}
    (hs : s.ServedBy u i r a) : s'.ServedBy u i r a := by
  unfold ServedBy at hs ⊢
  cases hr : server r with
  | payment =>
    simp only [hr] at hs ⊢
    exact h.payment.ended _ _ _ hs
  | inventory =>
    simp only [hr] at hs ⊢
    exact h.inventory.ended _ _ _ hs

/-- A reply stays when the platform grows. -/
theorem served (h : Grows s s') {i : Option Id} {r : Request} {a : Reply} (hs : s.Served i r a) :
    s'.Served i r a := by
  unfold Served at hs ⊢
  cases hr : server r with
  | payment =>
    simp only [hr] at hs ⊢
    obtain ⟨u, hu⟩ := hs
    exact ⟨u, h.payment.ended _ _ _ hu⟩
  | inventory =>
    simp only [hr] at hs ⊢
    obtain ⟨u, hu⟩ := hs
    exact ⟨u, h.inventory.ended _ _ _ hu⟩

end Grows

/-- A step of the platform is at most one step of each called service. -/
theorem grows_of_step {G : Regime provider} (h : Step G s s') : Grows s s' := by
  cases h with
  | arrive => exact ⟨.refl _, .refl _⟩
  | visit => exact ⟨.refl _, Pool.extends_spawn _ _⟩
  | @call t j i r k ht hn hm =>
    unfold send
    cases server r with
    | payment => exact ⟨Pool.extends_spawn _ _, .refl _⟩
    | inventory => exact ⟨.refl _, Pool.extends_spawn _ _⟩
  | booking => exact ⟨.refl _, .refl _⟩
  | payment ht => exact ⟨Pool.extends_advance ht, .refl _⟩
  | inventory ht => exact ⟨.refl _, Pool.extends_advance ht⟩

/-- A thread that serves a request has ended with the reply it gives. -/
theorem servedBy_of_reply {i : Option Id} {r : Request} {u : Nat} {a : Reply} (hs : s.Serves i r u)
    (ha : s.reply? (server r) u = some a) : s.ServedBy u i r a := by
  unfold Serves at hs
  unfold ServedBy
  cases hr : server r with
  | payment =>
    simp only [hr, reply?] at hs ha ⊢
    obtain ⟨q, hq⟩ := hs
    exact Pool.at_of_reply ha hq ▸ hq
  | inventory =>
    simp only [hr, reply?] at hs ha ⊢
    obtain ⟨q, hq⟩ := hs
    exact Pool.at_of_reply ha hq ▸ hq

/-- The thread that a call starts serves its request. -/
theorem serves_send (t : Nat) (i : Option Id) (r : Request) :
    ∃ u, (s.send t i r).Serves i r u ∧
      ∀ v, (s.send t i r).calls v = if v = t then some u else s.calls v := by
  unfold send Serves
  cases hr : server r with
  | payment =>
    refine ⟨s.payment.threads.length, ⟨_, Pool.at_spawn.mpr (.inr ⟨rfl, rfl, rfl⟩)⟩, fun _ ↦ rfl⟩
  | inventory =>
    refine ⟨s.inventory.threads.length, ⟨_, Pool.at_spawn.mpr (.inr ⟨rfl, rfl, rfl⟩)⟩, fun _ ↦ rfl⟩

/-- A call leaves the booking service as it is. -/
@[simp] theorem send_booking (t : Nat) (i : Option Id) (r : Request) :
    (s.send t i r).booking = s.booking := by
  unfold send
  cases server r <;> rfl

/-- A call leaves the database of the seat inventory as it is. -/
@[simp] theorem send_inventory_conf (t : Nat) (i : Option Id) (r : Request) :
    (s.send t i r).inventory.conf = s.inventory.conf := by
  unfold send
  cases server r <;> rfl

/-- The platform is linked before any call. -/
theorem linked_start (seats : Table SeatInventory.Seat.place) :
    (start seats : Platform provider).Linked where
  calls t u h := by cases h
  replies t j i r a h := by cases h

/-- A step that leaves the booking service and its calls as they are. -/
theorem Linked.grow (h : s.Linked) (hg : Grows s s') (hb : s'.booking = s.booking)
    (hc : s'.calls = s.calls) : s'.Linked where
  calls t u hu := by
    obtain ⟨j, i, r, k, ht, hs⟩ := h.calls t u (hc ▸ hu)
    exact ⟨j, i, r, k, hb ▸ ht, hg.serves hs⟩
  replies t j i r a hm := hg.served (h.replies t j i r a (hb ▸ hm))

/-- An executed call that has a reply was answered with it. -/
theorem reply_of_answer {c : Conf BookingService.service} {x : Choice} {i : Option Id}
    {r : Request} {a : Reply} (h : c.answer x (.rpc i r) = .ok a) :
    x.fault = none ∧ x.reply = a := by
  have h : (BookingService.exec x (.rpc i r) c.state).1 = .ok a := h
  unfold BookingService.exec at h
  cases hx : x.fault with
  | none =>
    rw [hx] at h
    exact ⟨rfl, Except.ok.inj h⟩
  | some e =>
    rw [hx] at h
    cases h

/-- A call that is answered with a reply was served by the thread that it opened. -/
theorem Linked.delivered (hl : s.Linked) {t : Nat} {j : BookingService.Job} {x : Choice}
    {i : Option Id} {r : Request} {a : Reply}
    {k : BookingService.sig.Answer (.rpc i r) → BookingService.service.Program}
    (ht : s.booking.At t j (.op (.rpc i r) k)) (ha : s.Answers t x (.rpc i r))
    (hok : s.booking.conf.answer x (.rpc i r) = .ok a) :
    ∃ u, s.calls t = some u ∧ s.ServedBy u i r a := by
  obtain ⟨hfault, hreply⟩ := reply_of_answer hok
  rcases ha with hf | ⟨u, hu, hr⟩
  · exact absurd hfault hf
  · obtain ⟨j₀, i₀, r₀, k₀, ht₀, hs₀⟩ := hl.calls t u hu
    have same : (j₀, (Prog.op (.rpc i₀ r₀) k₀ : BookingService.service.Program)) =
        (j, .op (.rpc i r) k) := Option.some.inj (ht₀.symm.trans ht)
    injection same with _ same
    injection same with hop _
    injection hop with hi hr₀
    subst hi hr₀
    exact ⟨u, hu, servedBy_of_reply hs₀ (hreply ▸ hr)⟩

/-- Every step keeps calls and replies together. -/
theorem Linked.step {G : Regime provider} (hl : s.Linked) (h : Step G s s') : s'.Linked := by
  have hg := grows_of_step h
  cases h with
  | arrive =>
    constructor
    · intro t u hu
      obtain ⟨j, i, r, k, ht, hs⟩ := hl.calls t u hu
      exact ⟨j, i, r, k, Pool.at_spawn.mpr (.inl ht), hs⟩
    · exact hl.replies
  | visit => exact hl.grow hg rfl rfl
  | @call t j i r k ht hn hm =>
    obtain ⟨u, hu, hcalls⟩ := serves_send (s := s) t i r
    constructor
    · intro v w hw
      rw [hcalls] at hw
      by_cases hv : v = t
      · rw [if_pos hv] at hw
        cases hw
        exact ⟨j, i, r, k, by rw [send_booking, hv]; exact ht, hu⟩
      · rw [if_neg hv] at hw
        obtain ⟨j', i', r', k', ht', hs'⟩ := hl.calls v w hw
        exact ⟨j', i', r', k', by rw [send_booking]; exact ht', hg.serves hs'⟩
    · intro t' j' i' r' a hmem
      rw [send_booking] at hmem
      exact hg.served (hl.replies t' j' i' r' a hmem)
  | @booking t j x o k ht ha hm =>
    constructor
    · intro v w hw
      have hw : (if v = t then none else s.calls v) = some w := hw
      by_cases hv : v = t
      · rw [if_pos hv] at hw
        cases hw
      · rw [if_neg hv] at hw
        obtain ⟨j', i', r', k', ht', hs'⟩ := hl.calls v w hw
        exact ⟨j', i', r', k', (Pool.at_advance ht).mpr (.inr ⟨hv, ht'⟩), hs'⟩
    · intro t' j' i r a hmem
      rcases List.mem_cons.mp hmem with he | hmem
      · injection he with h₁ h₂ h₃ h₄
        subst h₃
        obtain ⟨u, -, hs⟩ := hl.delivered ht ha (eq_of_heq h₄).symm
        exact hs.served
      · exact hl.replies t' j' i r a hmem
  | payment => exact hl.grow hg rfl rfl
  | inventory => exact hl.grow hg rfl rfl

/-! ### Requests since an earlier state -/

/-- How many threads a called service has started. -/
def started (s : Platform provider) : Server → Nat
  | .payment => s.payment.threads.length
  | .inventory => s.inventory.threads.length

/-- Calls of these requests, and the replies to them, since an earlier state of the platform. -/
structure Since (s₁ : Platform provider) (C : Option Id → Request → Prop) (s : Platform provider) :
    Prop where
  grown : ∀ v, s₁.started v ≤ s.started v
  calls : ∀ t u j i r k, s.calls t = some u → s.booking.At t j (.op (.rpc i r) k) → C i r →
    s₁.started (server r) ≤ u
  replies : ∀ t j i r a,
    (⟨t, j, .rpc i r, .ok a⟩ : Event BookingService.service) ∈ s.booking.conf.log → C i r →
    (⟨t, j, .rpc i r, .ok a⟩ : Event BookingService.service) ∈ s₁.booking.conf.log ∨
      ∃ u, s₁.started (server r) ≤ u ∧ s.ServedBy u i r a

namespace Since

variable {s₁ : Platform provider} {C : Option Id → Request → Prop}

/-- None of these requests is open. -/
def Closed (s : Platform provider) (C : Option Id → Request → Prop) : Prop :=
  ∀ t u j i r k, s.calls t = some u → s.booking.At t j (.op (.rpc i r) k) → ¬ C i r

/-- A closed record holds since the present state. -/
theorem refl (h : Closed s C) : Since s C s where
  grown _ := Nat.le_refl _
  calls t u j i r k hu ht hc := absurd hc (h t u j i r k hu ht)
  replies _ _ _ _ _ hm _ := .inl hm

/-- A step that leaves the booking service and its calls as they are. -/
theorem grow (h : Since s₁ C s) (hg : Grows s s') (hn : ∀ v, s.started v ≤ s'.started v)
    (hb : s'.booking = s.booking) (hc : s'.calls = s.calls) : Since s₁ C s' where
  grown v := (h.grown v).trans (hn v)
  calls t u j i r k hu ht := h.calls t u j i r k (hc ▸ hu) (hb ▸ ht)
  replies t j i r a hm hr := by
    rcases h.replies t j i r a (hb ▸ hm) hr with old | ⟨u, hu, hs⟩
    · exact .inl old
    · exact .inr ⟨u, hu, hg.servedBy hs⟩

/-- Every step keeps a closed record. -/
theorem step {G : Regime provider} (h : Since s₁ C s) (hl : s.Linked) (hs : Step G s s') :
    Since s₁ C s' := by
  have hg := grows_of_step hs
  cases hs with
  | arrive =>
    refine ⟨h.grown, ?_, h.replies⟩
    intro t u j i r k hu ht
    rcases Pool.at_spawn.mp ht with old | ⟨rfl, -, -⟩
    · exact h.calls t u j i r k hu old
    · obtain ⟨j', i', r', k', ht', -⟩ := hl.calls _ u hu
      exact absurd (List.getElem?_eq_some_iff.mp ht').1 (Nat.lt_irrefl _)
  | visit =>
    apply h.grow hg _ rfl rfl
    intro v
    cases v <;> simp [started, Pool.spawn]
  | payment =>
    apply h.grow hg _ rfl rfl
    intro v
    cases v <;> simp [started, Pool.advance]
  | inventory =>
    apply h.grow hg _ rfl rfl
    intro v
    cases v <;> simp [started, Pool.advance]
  | @call t j i r k ht hn hm =>
    have grown : ∀ v, s.started v ≤ (s.send t i r).started v := by
      intro v
      unfold send
      cases server r <;> cases v <;> simp [started, Pool.spawn]
    have opened : ∀ v u, (s.send t i r).calls v = some u →
        v = t ∧ u = s.started (server r) ∨ v ≠ t ∧ s.calls v = some u := by
      intro v u hu
      unfold send at hu
      by_cases hv : v = t
      · left
        refine ⟨hv, ?_⟩
        cases hr : server r <;> simpa [hr, hv, started, eq_comm] using hu
      · right
        refine ⟨hv, ?_⟩
        cases hr : server r <;> simpa [hr, hv] using hu
    refine ⟨fun v ↦ (h.grown v).trans (grown v), ?_, ?_⟩
    · intro v u j' i' r' k' hu hv hc
      rw [send_booking] at hv
      rcases opened v u hu with ⟨rfl, rfl⟩ | ⟨-, old⟩
      · have same : (j', (Prog.op (.rpc i' r') k' : BookingService.service.Program)) =
            (j, .op (.rpc i r) k) := Option.some.inj (hv.symm.trans ht)
        injection same with _ same
        injection same with hop _
        injection hop with _ hr
        rw [hr]
        exact h.grown _
      · exact h.calls v u j' i' r' k' old hv hc
    · intro t' j' i' r' a hmem hc
      rw [send_booking] at hmem
      rcases h.replies t' j' i' r' a hmem hc with old | ⟨u, hu, hs⟩
      · exact .inl old
      · exact .inr ⟨u, hu, hg.servedBy hs⟩
  | @booking t j x o k ht ha hm =>
    refine ⟨h.grown, ?_, ?_⟩
    · intro v u j' i' r' k' hu hv hc
      have hu : (if v = t then none else s.calls v) = some u := hu
      by_cases hvt : v = t
      · rw [if_pos hvt] at hu
        cases hu
      · rw [if_neg hvt] at hu
        rcases (Pool.at_advance ht).mp hv with ⟨same, -⟩ | ⟨-, old⟩
        · exact absurd same hvt
        · exact h.calls v u j' i' r' k' hu old hc
    · intro t' j' i r a hmem hc
      rcases List.mem_cons.mp hmem with he | hmem
      · injection he with h₁ h₂ h₃ h₄
        subst h₃
        obtain ⟨u, hu, hs⟩ := hl.delivered ht ha (eq_of_heq h₄).symm
        exact .inr ⟨u, h.calls t u j i r k hu ht hc, hs⟩
      · exact h.replies t' j' i r a hmem hc

end Since

variable {G : Regime provider} {seats : Table SeatInventory.Seat.place}

/-- Every reply that the booking service got was given to the request. -/
theorem reach_linked (h : Reach G seats s) : s.Linked := by
  induction h with
  | refl => exact linked_start seats
  | tail _ hs ih => exact ih.step hs

/-- A run keeps the record of the requests since an earlier state. -/
theorem since_of_later {s₁ : Platform provider} {C : Option Id → Request → Prop}
    (h₁ : Reach G seats s₁) (hc : Since.Closed s₁ C) (h : Relation.ReflTransGen (Step G) s₁ s) :
    Since s₁ C s := by
  induction h with
  | refl => exact .refl hc
  | tail hl hs ih => exact ih.step (reach_linked (h₁.trans hl)) hs

/-! ### The runs of each service -/

/-- A run of the platform is a run of the booking service. -/
theorem reach_booking (h : Reach G seats s) : BookingService.Reach G.jobs s.booking := by
  induction h with
  | refl => exact .start rfl
  | tail _ hs ih =>
    cases hs with
    | arrive hx => exact ih.spawn hx
    | visit => exact ih
    | call => 
      rw [send_booking]
      exact ih
    | booking ht => exact ih.run ht trivial
    | payment => exact ih
    | inventory => exact ih

/-- A request that is served after a step was served before it, or has just been called. -/
theorem serves_cases (h : Step G s s') {i : Option Id} {r : Request} {u : Nat}
    (hs : s'.Serves i r u) :
    s.Serves i r u ∨ s'.booking = s.booking ∧
      ∃ t j k, s.booking.At t j (.op (.rpc i r) k) := by
  unfold Serves at hs ⊢
  cases h with
  | arrive | booking => exact .inl hs
  | visit hj =>
    split at hs
    · exact .inl hs
    · obtain ⟨q, hq⟩ := hs
      rcases Pool.at_spawn.mp hq with old | ⟨-, job, -⟩
      · exact .inl ⟨q, old⟩
      · rw [← job] at hj
        cases hj
  | call ht =>
    unfold send at hs
    rw [send_booking]
    split at hs
    · obtain ⟨q, hq⟩ := hs
      split at hq
      · rcases Pool.at_spawn.mp hq with old | ⟨-, job, -⟩
        · exact .inl ⟨q, old⟩
        · cases job
          exact .inr ⟨rfl, _, _, _, ht⟩
      · exact .inl ⟨q, hq⟩
    · obtain ⟨q, hq⟩ := hs
      split at hq
      · exact .inl ⟨q, hq⟩
      · rcases Pool.at_spawn.mp hq with old | ⟨-, job, -⟩
        · exact .inl ⟨q, old⟩
        · cases job
          exact .inr ⟨rfl, _, _, _, ht⟩
  | payment ht =>
    split at hs
    · obtain ⟨q, hq⟩ := hs
      rcases (Pool.at_advance ht).mp hq with ⟨rfl, rfl, -⟩ | ⟨-, old⟩
      · exact .inl ⟨_, ht⟩
      · exact .inl ⟨q, old⟩
    · exact .inl hs
  | inventory ht =>
    split at hs
    · exact .inl hs
    · obtain ⟨q, hq⟩ := hs
      rcases (Pool.at_advance ht).mp hq with ⟨rfl, rfl, -⟩ | ⟨-, old⟩
      · exact .inl ⟨_, ht⟩
      · exact .inl ⟨q, old⟩

/-- What holds of a call when it is made, and goes on holding while the booking service runs, holds
of every request that is served. -/
theorem of_serves {C : Pool BookingService.service → Option Id → Request → Prop}
    (asked : ∀ {p : Pool BookingService.service} {t : Nat} {j : BookingService.Job} {i : Option Id}
      {r : Request} {k : BookingService.sig.Answer (.rpc i r) → BookingService.service.Program},
      BookingService.Reach G.jobs p → p.At t j (.op (.rpc i r) k) → C p i r)
    (spawn : ∀ {p : Pool BookingService.service} {i : Option Id} {r : Request}
      (j : BookingService.Job), C p i r → C (p.spawn j) i r)
    (advance : ∀ {p : Pool BookingService.service} {t : Nat} {j : BookingService.Job} {x : Choice}
      {o : BookingService.Op} {k : BookingService.sig.Answer o → BookingService.service.Program}
      {i : Option Id} {r : Request}, BookingService.Reach G.jobs p → p.At t j (.op o k) →
      C p i r → C (p.advance t j x o k) i r)
    (h : Reach G seats s) {i : Option Id} {r : Request} {u : Nat} (hs : s.Serves i r u) :
    C s.booking i r := by
  induction h generalizing i r u with
  | refl =>
    unfold Serves at hs
    split at hs
    · obtain ⟨q, hq⟩ := hs
      cases hq
    · obtain ⟨q, hq⟩ := hs
      cases hq
  | tail hr step ih =>
    rcases serves_cases step hs with served | ⟨same, t, j, k, ht⟩
    · have before := ih served
      cases step with
      | arrive => exact spawn _ before
      | call =>
        rw [send_booking]
        exact before
      | booking ht => exact advance (reach_booking hr) ht before
      | visit | payment | inventory => exact before
    · rw [same]
      exact asked (reach_booking hr) ht

/-- A run of the platform is a run of the payment service. -/
theorem reach_payment {H : Async.Regime (PaymentService.service provider)}
    (hH : ∀ s ev, G.may s (.payment ev) → H.may s.payment.conf ev) (hx : ∀ i j, ¬ H.excl i j)
    (h : Reach G seats s) : PaymentService.Reach H s.payment := by
  induction h with
  | refl => exact .start rfl
  | @tail s₁ s₂ _ hs ih =>
    cases hs with
    | arrive => exact ih
    | visit => exact ih
    | @call t j i r k ht hn hm =>
      unfold send
      cases server r with
      | payment => exact ih.spawn fun t i q _ _ ↦ ⟨hx _ _, hx _ _⟩
      | inventory => exact ih
    | booking => exact ih
    | payment ht hm => exact ih.run ht (hH _ _ hm)
    | inventory => exact ih

/-- A run of the platform goes on as one of the payment service. -/
theorem later_payment {H : Async.Regime (PaymentService.service provider)}
    (hH : ∀ s ev, G.may s (.payment ev) → H.may s.payment.conf ev) (hx : ∀ i j, ¬ H.excl i j)
    {s₁ : Platform provider} (h : Relation.ReflTransGen (Step G) s₁ s) :
    Pool.Later H s₁.payment s.payment := by
  induction h with
  | refl => exact .refl
  | @tail s₂ s₃ _ hs ih =>
    cases hs with
    | arrive => exact ih
    | visit => exact ih
    | @call t j i r k ht hn hm =>
      unfold send
      cases server r with
      | payment => exact ih.tail (.spawn fun t i q _ _ ↦ ⟨hx _ _, hx _ _⟩)
      | inventory => exact ih
    | booking => exact ih
    | payment ht hm => exact ih.tail (.run ht (hH _ _ hm))
    | inventory => exact ih

/-- A run of the platform is a run of the seat inventory. -/
theorem reach_inventory (h : Reach G seats s) :
    Pool.Reach (.free SeatInventory.service) (fun db ↦ db = .stocked seats) s.inventory := by
  have spawned : ∀ {p : Pool SeatInventory.service} {j : SeatInventory.Job},
      Pool.Reach (.free SeatInventory.service) (fun db ↦ db = .stocked seats) p →
      Pool.Reach (.free SeatInventory.service) (fun db ↦ db = .stocked seats) (p.spawn j) :=
    fun hp ↦ hp.spawn fun _ _ _ _ _ ↦ ⟨id, id⟩
  induction h with
  | refl => exact .start rfl
  | tail _ hs ih =>
    cases hs with
    | arrive => exact ih
    | visit => exact spawned ih
    | @call t j i r k ht hn hm =>
      unfold send
      cases server r with
      | payment => exact ih
      | inventory => exact spawned ih
    | booking => exact ih
    | payment => exact ih
    | inventory ht => exact ih.run ht trivial

end Platform

end Ticketing.System
