import Ticketing.BookingService.Creating

/-!
# `cancelBooking` and the recovery worker keep the rules

Library `BookingService`. Several threads may work on copies of one row. What a thread
knows for certain is what no other copy can undo; what it knows of the stored row itself
holds as long as nobody else has stored it.
-/

namespace Ticketing.BookingService

open Async Store

variable {M : Mode} {t : Nat} {j : Job}

/-- The entity `l` of a confirmed booking with these items, on which thread `t` works;
`base` is the row that the thread loaded or stored last. -/
structure Refunding (M : Mode) (t : Nat) (items : List BookingItem) (base l : Booking)
    (c : Conf service) : Prop where
  settled : l.settled = true
  current : ∃ r, c.state.bookings.find l.id = some r ∧ r.settled = true ∧ r.order = l.order
  items : c.state.itemsOf l.id = items
  last : seen t l.id c.log = some base
  alone : M.refunds = true → c.state.bookings.find l.id = some base
  forward : Forward base l
  ok : RowOk c.log l

namespace Refunding

variable {items : List BookingItem} {base l : Booking} {c : Conf service}

/-- The other threads keep what is known. -/
theorem stable (hj : j.refunds = true) :
    M.rules.Stable t j fun c _ ↦ Refunding M t items base l c := by
  intro u i c g c' g' hu hx _ _ hm h
  obtain ⟨o, a, hm⟩ := hm
  obtain ⟨r, hr, hrs, hro⟩ := h.current
  obtain ⟨r', hr', hrs', hro'⟩ := hm.settled hr hrs
  constructor
  · exact h.settled
  · exact ⟨r', hr', hrs', hro'.trans hro⟩
  · exact (hm.items l.id r hr).trans h.items
  · rw [hm.log, seen_other hu]
    exact h.last
  · intro hM
    have hr := h.alone hM
    have hi : i.refunds = false := by
      cases hi : i.refunds with
      | false => rfl
      | true => exact absurd (.inr ⟨hM, hj, hi⟩) hx
    apply hm.settled_eq hi hr
    obtain ⟨q, hq, hqs, -⟩ := h.current
    rw [hr] at hq
    cases hq
    exact hqs
  · exact h.forward
  · rw [hm.log]
    exact h.ok.cons

/-- An operation of the thread without a row of the booking keeps what is known. -/
theorem event (h : Refunding M t items base l c) {ev : Event service}
    (hn : ev.op.row l.id ev.answer = none) {s' : Db}
    (hb : s'.bookings.find l.id = c.state.bookings.find l.id) (hi : s'.items = c.state.items) :
    Refunding M t items base l ⟨s', ev :: c.log⟩ := by
  obtain ⟨r, hr, hrs⟩ := h.current
  constructor
  · exact h.settled
  · exact ⟨r, hb.trans hr, hrs⟩
  · have hit := h.items
    simp only [Db.itemsOf, ← hi] at hit
    exact hit
  · exact (seen_skip hn).trans h.last
  · exact fun hM ↦ hb.trans (h.alone hM)
  · exact h.forward
  · exact h.ok.cons

/-- The entity after an assignment that the history bears out. -/
theorem assign (h : Refunding M t items base l c) {l' : Booking} (ho : l'.order = l.order)
    (hs : l'.settled = true) (hf : Forward base l') (hok : RowOk c.log l') :
    Refunding M t items base l' c := by
  have hi : l'.id = l.id := Booking.id_of_order ho
  constructor
  · exact hs
  · rw [hi, ho]
    exact h.current
  · rw [hi]
    exact h.items
  · rw [hi]
    exact h.last
  · rw [hi]
    exact h.alone
  · exact hf
  · exact hok

/-- The entity after the thread stored it. -/
theorem saved (h : Refunding M t items base l c) {ev : Event service} {s' : Db}
    (ht : ev.tid = t) (hr : ev.op.row l.id ev.answer = some l)
    (hb : s'.bookings.find l.id = some l) (hi : s'.items = c.state.items) :
    Refunding M t items l l ⟨s', ev :: c.log⟩ := by
  constructor
  · exact h.settled
  · exact ⟨l, hb, h.settled, rfl⟩
  · have hit := h.items
    simp only [Db.itemsOf, ← hi] at hit
    exact hit
  · exact seen_row ht hr
  · exact fun _ ↦ hb
  · exact Forward.refl l
  · exact h.ok.cons

/-- The move of a thread that stores the entity. -/
theorem move (h : Refunding M t items base l c) {o : Op} {a : sig.Answer o}
    {owner : Id → Option Nat} (hj : j.refunds = true) (hn : l.refundState ≠ none) :
    BookingMove M ⟨t, j, o, a⟩ c owner l.id l := by
  obtain ⟨r, hr, hrs, hro⟩ := h.current
  refine .refund hj hr hrs h.settled hro.symm hn h.last ?_ h.forward
  intro hM
  rw [h.alone hM] at hr
  exact Option.some.inj hr

end Refunding

/-- What a thread knows of the copies it has still to work on. -/
def Copies (M : Mode) (t : Nat) (rest : List BookingView) (c : Conf service) : Prop :=
  ∀ v ∈ rest, v.booking.refundState ≠ none ∧ Refunding M t v.items v.booking v.booking c

private theorem copies_stable (hj : j.refunds = true) (rest : List BookingView) :
    M.rules.Stable t j fun c _ ↦ Copies M t rest c :=
  Rules.Stable.all fun _ ↦ Rules.Stable.imp fun _ ↦
    (Rules.Stable.const _).and (Refunding.stable hj)

/-- What a thread knows while it works on one booking, with others to follow. -/
structure Working (M : Mode) (t : Nat) (items : List BookingItem) (rest : List BookingView)
    (base l : Booking) (c : Conf service) : Prop where
  mine : Refunding M t items base l c
  started : l.refundState ≠ none
  apart : ∀ v ∈ rest, v.booking.id ≠ l.id
  copies : Copies M t rest c

variable {items : List BookingItem} {rest : List BookingView}

namespace Working

variable {base l : Booking} {c : Conf service}

/-- The other threads keep a refund under way, and the copies that wait for theirs. -/
theorem stable (hj : j.refunds = true) (base l : Booking) :
    M.rules.Stable t j fun c _ ↦ Working M t items rest base l c := by
  intro u i c g c' g' hu hx hi hi' hm h
  exact ⟨Refunding.stable hj u i c g c' g' hu hx hi hi' hm h.mine, h.started, h.apart,
    copies_stable hj rest u i c g c' g' hu hx hi hi' hm h.copies⟩

/-- An operation without a row of any booking. -/
theorem event (h : Working M t items rest base l c) {ev : Event service}
    (hq : ∀ b, ev.op.row b ev.answer = none) {s' : Db}
    (hb : s'.bookings = c.state.bookings) (hi : s'.items = c.state.items) :
    Working M t items rest base l ⟨s', ev :: c.log⟩ where
  mine := h.mine.event (hq _) (by rw [hb]) hi
  started := h.started
  apart := h.apart
  copies v hv := ⟨(h.copies v hv).1, (h.copies v hv).2.event (hq _) (by rw [hb]) hi⟩

/-- The entity after an assignment that the history bears out. -/
theorem assign (h : Working M t items rest base l c) {l' : Booking} (ho : l'.order = l.order)
    (hs : l'.settled = true) (hn : l'.refundState ≠ none) (hf : Forward base l')
    (hok : RowOk c.log l') : Working M t items rest base l' c where
  mine := h.mine.assign ho hs hf hok
  started := hn
  apart := by
    rw [Booking.id_of_order ho]
    exact h.apart
  copies := h.copies

/-- After the thread stored the entity the other copies are what they were. -/
theorem saved (h : Working M t items rest base l c) {ev : Event service} {s' : Db}
    (hb : s'.bookings = c.state.bookings.put l) (hi : s'.items = c.state.items)
    (ht : ev.tid = t) (hr : ∀ b, ev.op.row b ev.answer = if l.id = b then some l else none) :
    Working M t items rest l l ⟨s', ev :: c.log⟩ where
  mine := by
    apply h.mine.saved ht ((hr _).trans (if_pos rfl)) _ hi
    rw [hb]
    exact Table.find_put_self _ l
  started := h.started
  apart := h.apart
  copies v hv := by
    obtain ⟨hn, hc⟩ := h.copies v hv
    refine ⟨hn, hc.event ((hr _).trans (if_neg (h.apart v hv).symm)) ?_ hi⟩
    rw [hb]
    exact Table.find_put_of_ne _ (h.apart v hv).symm

/-- After the thread stored the entity it still knows the copies to follow. -/
theorem left (h : Working M t items rest base l c) {ev : Event service} {s' : Db}
    (hb : s'.bookings = c.state.bookings.put l) (hi : s'.items = c.state.items)
    (ht : ev.tid = t) (hr : ∀ b, ev.op.row b ev.answer = if l.id = b then some l else none) :
    Copies M t rest ⟨s', ev :: c.log⟩ :=
  (h.saved hb hi ht hr).copies

end Working

/-- The entity that a failed step leaves. -/
def Failing (M : Mode) (t : Nat) (items : List BookingItem) (rest : List BookingView)
    (l : Booking) (c : Conf service) : Prop :=
  ∃ base, Working M t items rest base l c

private theorem failing_stable (hj : j.refunds = true) (l : Booking) :
    M.rules.Stable t j fun c _ ↦ Failing M t items rest l c :=
  Rules.Stable.ex fun base ↦ Working.stable hj base l

/-- The entity at the head of the loop: it is the row that the thread loaded or stored
last. -/
def AtHead (M : Mode) (t : Nat) (items : List BookingItem) (rest : List BookingView)
    (l : Booking) (c : Conf service) : Prop :=
  Working M t items rest l l c

/-! ### Storing the entity -/

private theorem saveRefund_holds (hj : j.refunds = true) (base b : Booking) :
    M.rules.Holds t j (BookingService.await (.saveBooking b) : Code sig Booking Unit)
      (fun l c _ ↦ l = b ∧ Working M t items rest base b c)
      (fun _ l c _ ↦ AtHead M t items rest l c) (fun _ l c _ ↦ Failing M t items rest l c) := by
  apply Rules.Holds.await
  intro l
  apply step
  · intro a
    cases a with
    | ok a => exact Working.stable hj l l
    | error e => exact failing_stable hj l
  · exact fun _ _ _ _ ↦ trivial
  · rintro _ c g e ⟨rfl, h⟩
    exact ⟨base, h.event (fun _ ↦ rfl) rfl rfl⟩
  · rintro c g x hi ⟨rfl, h⟩
    obtain ⟨r, hr, hrs, hro⟩ := h.mine.current
    refine ⟨g, (hi.save hr hro.symm ?_ h.mine.ok).event _, Moves.save ?_, ?_⟩
    · rw [h.mine.settled, hrs]
    · exact h.mine.move hj h.started
    · refine h.saved rfl rfl rfl ?_
      intro b
      simp only [Op.row, Op.stored, Op.loaded, perform, Option.or_none]

private theorem saveThen_holds {α : Type} (hj : j.refunds = true) {k : Unit → Code sig Booking α}
    {Q : α → Booking → M.rules.Fact}
    (h : ∀ u, M.rules.Holds t j (k u) (fun l c _ ↦ AtHead M t items rest l c) Q
      fun _ l c _ ↦ Failing M t items rest l c) :
    M.rules.Holds t j
      ((Code.entity : Code sig Booking Booking) >>= fun b ↦
        BookingService.await (.saveBooking b) >>= k)
      (fun l c _ ↦ Failing M t items rest l c) Q (fun _ l c _ ↦ Failing M t items rest l c) := by
  apply Rules.Holds.ex
  intro base
  apply Rules.Holds.read
  intro b
  apply Rules.Holds.bind (saveRefund_holds hj base b)
  exact h

/-! ### The steps of the state machine -/

/-- The row after an assignment of a refund state other than `COMPLETED`. -/
theorem RowOk.advance {log : List (Event service)} {b l : Booking} {st : RefundState}
    (h : RowOk log b) (hb : b.settled = true) (hc : b.refundState ≠ some .completed)
    (ho : l.order = b.order) (hs : l.status = b.status) (hst : l.refundState = some st)
    (hn : st ≠ .completed) (hp : st = .paymentRefunded ∨ st = .seatsReleased → Refunded log b.id)
    (hr : st = .seatsReleased → Released log b.id) (hf : st = .failed → Refused log b.id) :
    RowOk log l := by
  have hl : l.settled = true := by
    unfold Booking.settled at hb ⊢
    rw [hs]
    exact hb
  have hi : l.id = b.id := Booking.id_of_order ho
  have hnc : l.refundState ≠ some .completed := by
    rw [hst]
    exact fun he ↦ hn (Option.some.inj he)
  constructor
  · exact fun _ ↦ hl
  · rw [hs, h.refunded]
    exact ⟨fun he ↦ absurd he hc, fun he ↦ absurd he hnc⟩
  · exact fun _ ↦ (h.paid hb).of_order ho
  · rw [hi, hst]
    rintro (he | he | he)
    · exact hp (.inl (Option.some.inj he))
    · exact hp (.inr (Option.some.inj he))
    · exact absurd (Option.some.inj he) hn
  · rw [hi, hst]
    rintro (he | he)
    · exact hr (Option.some.inj he)
    · exact absurd (Option.some.inj he) hn
  · exact fun he ↦ absurd he hnc
  · rw [hi, hst]
    exact fun he ↦ hf (Option.some.inj he)

/-- How a round of the loop leaves what is known. -/
def Rounded (M : Mode) (t : Nat) (items : List BookingItem) (rest : List BookingView) :
    Outcome → Booking → M.rules.Fact
  | .again, l => fun c _ ↦ AtHead M t items rest l c
  | .done, _ => fun c _ ↦ Copies M t rest c

private theorem refundPayment_holds (hj : j.refunds = true) {b : Booking} (reason : String)
    (hs : b.refundState = some .refundInitiated) :
    M.rules.Holds t j
      (BookingService.grpc (some b.id)
        (.refundPayment b.id (b.refundIdempotencyKey.getD "") reason) Reply.refund? :
        Code sig Booking (Bool × String))
      (fun l c _ ↦ l = b ∧ AtHead M t items rest b c)
      (fun p l c _ ↦ l = b ∧ Working M t items rest b b c ∧
        RefundAnswered p.1 c.log b.id)
      (fun _ l c _ ↦ Failing M t items rest l c) := by
  apply Holds.grpc
  · intro p l
    apply (Rules.Stable.const _).and
    apply (Working.stable hj b b).and
    exact stable_log (K := fun log ↦ RefundAnswered p.1 log b.id) fun _ _ h ↦ h.cons
  · exact failing_stable hj
  · rintro l c g _ ⟨rfl, h⟩
    obtain ⟨r, hr, -, -⟩ := h.mine.current
    refine ⟨rfl, r, hr, ?_⟩
    intro hM
    rw [h.mine.alone hM] at hr
    cases hr
    exact ⟨hs, rfl⟩
  · rintro l c g a ⟨rfl, h⟩
    exact ⟨l, h.event (fun _ ↦ rfl) rfl rfl⟩
  · rintro l c g reply p _ ⟨rfl, h⟩ ha
    refine ⟨rfl, h.event (fun _ ↦ rfl) rfl rfl, ?_⟩
    cases reply with
    | refund success id why =>
      cases ha
      exact ⟨t, j, _, _, id, why, List.mem_cons_self⟩
    | _ => cases ha

private theorem refundPaymentStep_holds (hj : j.refunds = true) {b : Booking}
    (hs : b.refundState = some .refundInitiated) :
    M.rules.Holds t j refundPaymentStep (fun l c _ ↦ l = b ∧ AtHead M t items rest b c)
      (Rounded M t items rest) (fun _ l c _ ↦ Failing M t items rest l c) := by
  have hc : b.refundState ≠ some .completed := by rw [hs]; decide
  apply Rules.Holds.readAs
  apply Rules.Holds.bind (refundPayment_holds hj _ hs)
  rintro ⟨success, failureReason⟩
  dsimp only
  split
  · next hsucc =>
    apply Rules.Holds.bind (I := fun _ l c _ ↦ Failing M t items rest l c)
    · apply Rules.Holds.assign
      rintro l c g _ ⟨rfl, h, hp⟩
      refine ⟨l, h.assign rfl h.mine.settled (by simp) ⟨.inr ?_, fun _ ↦ rfl⟩ ?_⟩
      · rw [hs]
        exact .pay
      · exact h.mine.ok.advance h.mine.settled hc rfl rfl rfl (by decide)
          (fun _ ↦ by rwa [show success = true from hsucc] at hp) (by simp) (by simp)
    intro _
    apply saveThen_holds hj
    intro _
    exact Rules.Holds.ret _ fun _ _ _ _ h ↦ h
  · next hfail =>
    apply Rules.Holds.bind (I := fun _ l c _ ↦ Failing M t items rest l c)
    · apply Rules.Holds.assign
      rintro l c g _ ⟨rfl, h, hp⟩
      refine ⟨l, h.assign rfl h.mine.settled (by simp) ⟨.inr ?_, fun _ ↦ rfl⟩ ?_⟩
      · rw [hs]
        exact .fail
      · exact h.mine.ok.advance h.mine.settled hc rfl rfl rfl (by decide) (by simp) (by simp)
          fun _ ↦ by rwa [show success = false from Bool.eq_false_iff.mpr hfail] at hp
    intro _
    apply saveThen_holds hj
    intro _
    apply Rules.Holds.raise
    exact fun l _ _ _ h ↦ ⟨l, h⟩

private theorem releaseSeatsStep_holds (hj : j.refunds = true) {b : Booking}
    (hs : b.refundState = some .paymentRefunded) :
    M.rules.Holds t j (releaseSeatsStep (items.map BookingItem.seatId))
      (fun l c _ ↦ l = b ∧ AtHead M t items rest b c)
      (Rounded M t items rest) (fun _ l c _ ↦ Failing M t items rest l c) := by
  have hc : b.refundState ≠ some .completed := by rw [hs]; decide
  apply Rules.Holds.readAs
  apply Rules.Holds.bind (I := fun _ l c _ ↦
    l = b ∧ Working M t items rest b b c ∧ Released c.log b.id)
  · apply Holds.observe rfl
    · intro _ l
      apply (Rules.Stable.const _).and
      apply (Working.stable hj b b).and
      exact stable_log (K := fun log ↦ Released log b.id) fun _ _ h ↦ h.cons
    · exact failing_stable hj
    · rintro l c g _ ⟨rfl, h⟩
      obtain ⟨r, hr, hrs, hro⟩ := h.mine.current
      have ho := hro
      simp only [Booking.order, Prod.mk.injEq] at ho
      refine ⟨l.id, r, rfl, hr, hrs, ho.2.2.2.1.symm, ?_, ?_, ?_⟩
      · rw [h.mine.items]
      · exact h.mine.ok.paymentRefunded (.inl hs)
      · intro hM
        rw [h.mine.alone hM] at hr
        cases hr
        exact hs
    · rintro _ l c g e ⟨rfl, h⟩
      exact ⟨l, h.event (fun _ ↦ rfl) rfl rfl⟩
    · rintro l c g x reply _ ⟨rfl, h⟩ _
      exact ⟨rfl, h.event (fun _ ↦ rfl) rfl rfl, t, j, _, _, reply, List.mem_cons_self⟩
  intro _
  apply Rules.Holds.bind (I := fun _ l c _ ↦ Failing M t items rest l c)
  · apply Rules.Holds.assign
    rintro l c g _ ⟨rfl, h, hrel⟩
    refine ⟨l, h.assign rfl h.mine.settled (by simp) ⟨.inr ?_, fun _ ↦ rfl⟩ ?_⟩
    · rw [hs]
      exact .release
    · exact h.mine.ok.advance h.mine.settled hc rfl rfl rfl (by decide)
        (fun _ ↦ h.mine.ok.paymentRefunded (.inl hs)) (fun _ ↦ hrel) (by simp)
  intro _
  apply saveThen_holds hj
  intro _
  exact Rules.Holds.ret _ fun _ _ _ _ h ↦ h

private theorem cancelTickets_holds (hj : j.refunds = true) {b : Booking}
    (hs : b.refundState = some .seatsReleased) :
    M.rules.Holds t j (BookingService.await (.cancelTickets b.id) : Code sig Booking Unit)
      (fun l c _ ↦ l = b ∧ AtHead M t items rest b c)
      (fun _ l c _ ↦ l = b ∧ Working M t items rest b b c ∧ TicketsCancelled c.log b.id)
      (fun _ l c _ ↦ Failing M t items rest l c) := by
  apply Rules.Holds.await
  intro l
  apply step
  · intro a
    cases a with
    | ok a =>
      apply (Rules.Stable.const _).and
      apply (Working.stable hj b b).and
      exact stable_log (K := fun log ↦ TicketsCancelled log b.id) fun _ _ h ↦ h.cons
    | error e => exact failing_stable hj l
  · rintro c g _ ⟨rfl, h⟩
    obtain ⟨r, hr, -, -⟩ := h.mine.current
    refine ⟨h.mine.ok.seatsReleased (.inl hs), r, hr, ?_⟩
    intro hM
    rw [h.mine.alone hM] at hr
    cases hr
    exact hs
  · rintro _ c g e ⟨rfl, h⟩
    exact ⟨l, h.event (fun _ ↦ rfl) rfl rfl⟩
  · rintro c g x hi ⟨rfl, h⟩
    refine ⟨g, Inv.event ?_ _, ?_, rfl, ?_, ?_⟩
    · exact hi.congr rfl rfl rfl (Nat.le_refl _)
    · refine Moves.congr ?_ rfl rfl rfl fun _ _ hb ↦ hb
      obtain ⟨r, hr, -, -⟩ := h.mine.current
      refine ⟨h.mine.ok.seatsReleased (.inl hs), r, hr, ?_⟩
      intro hM
      rw [h.mine.alone hM] at hr
      cases hr
      exact hs
    · exact h.event (fun _ ↦ rfl) rfl rfl
    · exact ⟨t, j, List.mem_cons_self⟩

private theorem commitRefunded_holds (hj : j.refunds = true) {base b : Booking} :
    M.rules.Holds t j
      (BookingService.await (.commit [.booking b,
        .outbox (Outbox.create b.id (.bookingRefunded (refundedPayload b items)))]) :
        Code sig Booking Unit)
      (fun l c _ ↦ l = b ∧ Working M t items rest base b c)
      (fun _ _ c _ ↦ Copies M t rest c) (fun _ l c _ ↦ Failing M t items rest l c) := by
  apply Rules.Holds.await
  intro l
  apply step
  · intro a
    cases a with
    | ok a => exact copies_stable hj rest
    | error e => exact failing_stable hj l
  · exact fun _ _ _ _ ↦ trivial
  · rintro _ c g e ⟨rfl, h⟩
    exact ⟨base, h.event (fun _ ↦ rfl) rfl rfl⟩
  · rintro c g x hi ⟨rfl, h⟩
    obtain ⟨r, hr, hrs, hro⟩ := h.mine.current
    have stored : Inv (c.state.write (.booking l)) c.log g :=
      hi.save hr hro.symm (by rw [h.mine.settled, hrs]) h.mine.ok
    have found : (c.state.write (.booking l)).bookings.find l.id = some l :=
      Table.find_put_self _ l
    refine ⟨g, ?_, ?_, ?_⟩
    · apply Inv.event
      refine stored.insertEntry found h.mine.settled rfl rfl ?_
      show refundedPayload l items = refundedPayload l (c.state.itemsOf l.id)
      rw [h.mine.items]
    · refine Moves.commit [Outbox.create l.id _] rfl ?_ ?_ ?_
      · exact h.mine.move hj h.started
      · exact fun n hn ↦ hi.find_unused hn
      · intro e he
        rw [List.mem_singleton.mp he]
        exact ⟨rfl, fun _ _ _ ↦ rfl⟩
    · refine h.left rfl rfl rfl ?_
      intro i
      by_cases hid : l.id = i <;> simp [Op.row, Op.stored, Op.loaded, perform, Write.stored, hid]

private theorem pass_holds (hj : j.refunds = true) (o : Op) (ho : o.silent = true)
    (acts : ∀ c, Acts M c o) (quiet : ∀ b a, o.row b a = none)
    (base b : Booking) :
    M.rules.Holds t j (BookingService.await o : Code sig Booking (Res o))
      (fun l c _ ↦ l = b ∧ Working M t items rest base b c)
      (fun _ l c _ ↦ l = b ∧ Working M t items rest base b c)
      (fun _ l c _ ↦ Failing M t items rest l c) := by
  apply Holds.pass ho
  · exact fun _ ↦ (Rules.Stable.const _).and (Working.stable hj base b)
  · exact failing_stable hj
  · exact acts
  · exact fun _ _ _ a h ↦ ⟨h.1, h.2.event (fun i ↦ quiet i a) rfl rfl⟩
  · rintro _ l c g ⟨rfl, h⟩
    exact ⟨base, h⟩

private theorem completeTransaction_holds (hj : j.refunds = true) {b : Booking}
    (hs : b.refundState = some .seatsReleased) :
    M.rules.Holds t j (completeTransaction items)
      (fun l c _ ↦ l = b ∧ AtHead M t items rest b c)
      (fun _ _ c _ ↦ Copies M t rest c) (fun _ l c _ ↦ Failing M t items rest l c) := by
  apply Rules.Holds.readAs
  apply Rules.Holds.bind (cancelTickets_holds hj hs)
  intro _
  apply Rules.Holds.bind (I := fun _ l c _ ↦ l = { b with status := .refunded } ∧
    Working M t items rest b b c ∧ TicketsCancelled c.log b.id)
  · apply Rules.Holds.assign
    rintro l c g _ ⟨rfl, h⟩
    exact ⟨rfl, h⟩
  intro _
  apply Rules.Holds.bind (I := fun _ l c _ ↦ l = { b with status := .refunded } ∧
    Working M t items rest b b c ∧ TicketsCancelled c.log b.id)
  · -- the entity is between two states here, but the clock cannot fail
    apply Holds.pass rfl
    · intro l
      apply (Rules.Stable.const _).and
      apply (Working.stable hj b b).and
      exact stable_log (K := fun log ↦ TicketsCancelled log b.id) fun _ _ h ↦ h.cons
    · exact failing_stable hj
    · exact fun _ ↦ trivial
    · exact fun _ _ _ _ h ↦ ⟨h.1, h.2.1.event (fun _ ↦ rfl) rfl rfl, h.2.2.cons⟩
    · exact fun hf ↦ absurd hf (by decide)
  intro now
  apply Rules.Holds.bind (I := fun _ l c _ ↦ Working M t items rest b l c)
  · apply Rules.Holds.assign
    rintro l c g _ ⟨rfl, h, htc⟩
    refine h.assign rfl rfl (by simp) ⟨.inr ?_, fun _ ↦ rfl⟩ ?_
    · rw [hs]
      exact .complete
    · have hpaid : Paid c.log b := h.mine.ok.paid h.mine.settled
      have hrefunded := h.mine.ok.paymentRefunded (.inr (.inl hs))
      have hreleased := h.mine.ok.seatsReleased (.inl hs)
      exact ⟨fun _ ↦ rfl, ⟨fun _ ↦ rfl, fun _ ↦ rfl⟩, fun _ ↦ hpaid.of_order rfl,
        fun _ ↦ hrefunded, fun _ ↦ hreleased, fun _ ↦ htc, by simp⟩
  intro _
  apply Rules.Holds.read
  intro b'
  apply Rules.Holds.bind
    (pass_holds hj (.statement _) rfl (fun _ ↦ trivial) (fun _ _ ↦ rfl) b b')
  intro _
  apply Rules.Holds.bind
    (pass_holds hj (.statement _) rfl (fun _ ↦ trivial) (fun _ _ ↦ rfl) b b')
  intro _
  exact commitRefunded_holds hj

private theorem completeStep_holds (hj : j.refunds = true) {b : Booking}
    (hs : b.refundState = some .seatsReleased) :
    M.rules.Holds t j (completeStep items) (fun l c _ ↦ l = b ∧ AtHead M t items rest b c)
      (Rounded M t items rest) (fun _ l c _ ↦ Failing M t items rest l c) := by
  apply Rules.Holds.bind
    (pass_holds hj .connect rfl (fun _ ↦ trivial) (fun _ _ ↦ rfl) b b)
  intro _
  apply Rules.Holds.bind (I := fun _ _ c _ ↦ Copies M t rest c)
  · apply Rules.Holds.tryCatch (completeTransaction_holds hj hs)
    intro e
    apply Rules.Holds.bind (I := fun _ l c _ ↦ Failing M t items rest l c)
    · apply Holds.pass rfl
      · exact failing_stable hj
      · exact failing_stable hj
      · exact fun _ ↦ trivial
      · exact fun _ _ _ _ ⟨base, h⟩ ↦ ⟨base, h.event (fun _ ↦ rfl) rfl rfl⟩
      · exact fun _ _ _ _ h ↦ h
    intro _
    apply Rules.Holds.raise
    exact fun _ _ _ _ h ↦ h
  intro _
  exact Rules.Holds.ret _ fun _ _ _ _ h ↦ h

private theorem refundSwitch_holds (hj : j.refunds = true) :
    M.rules.Holds t j (refundSwitch items) (fun l c _ ↦ AtHead M t items rest l c)
      (Rounded M t items rest) (fun _ l c _ ↦ Failing M t items rest l c) := by
  apply Rules.Holds.read
  intro b
  have failing : ∀ l c, l = b ∧ AtHead M t items rest b c → Failing M t items rest l c := by
    rintro l c ⟨rfl, h⟩
    exact ⟨l, h⟩
  dsimp only
  cases hs : b.refundState with
  | none =>
    apply Rules.Holds.raise
    exact fun l c _ _ h ↦ failing l c h
  | some st =>
    cases st with
    | refundInitiated => exact refundPaymentStep_holds hj hs
    | paymentRefunded => exact releaseSeatsStep_holds hj hs
    | seatsReleased => exact completeStep_holds hj hs
    | completed =>
      apply Rules.Holds.ret
      exact fun _ _ _ _ h ↦ h.2.copies
    | failed =>
      apply Rules.Holds.raise
      exact fun l c _ _ h ↦ failing l c h

private theorem failRefundStep_holds (hj : j.refunds = true) (e : Exception) :
    M.rules.Holds t j (failRefundStep e) (fun l c _ ↦ Failing M t items rest l c)
      (Rounded M t items rest) (fun _ l c _ ↦ Failing M t items rest l c) := by
  apply Rules.Holds.bind (I := fun _ l c _ ↦ Failing M t items rest l c)
  · apply Rules.Holds.assign
    rintro l c g _ ⟨base, h⟩
    refine ⟨base, h.assign rfl h.mine.settled h.started ?_ ?_⟩
    · exact ⟨h.mine.forward.state, h.mine.forward.key⟩
    · exact ⟨h.mine.ok.started, h.mine.ok.refunded, fun hp ↦ (h.mine.ok.paid hp).of_order rfl,
        h.mine.ok.paymentRefunded, h.mine.ok.seatsReleased, h.mine.ok.completed,
        h.mine.ok.failed⟩
  intro _
  apply saveThen_holds hj
  intro _
  apply Rules.Holds.raise
  exact fun l _ _ _ h ↦ ⟨l, h⟩

private theorem refundLoop_holds (hj : j.refunds = true) (steps : Nat) :
    M.rules.Holds t j (refundLoop items steps) (fun l c _ ↦ AtHead M t items rest l c)
      (fun _ _ c _ ↦ Copies M t rest c) (fun _ _ c _ ↦ Copies M t rest c) := by
  induction steps with
  | zero => exact Rules.Holds.ret _ fun _ _ _ _ h ↦ h.copies
  | succ steps ih =>
    have round : M.rules.Holds t j (refundStep items) (fun l c _ ↦ AtHead M t items rest l c)
        (Rounded M t items rest) (fun _ _ c _ ↦ Copies M t rest c) := by
      apply Rules.Holds.post (Rules.Holds.tryCatch (refundSwitch_holds hj)
        fun e ↦ failRefundStep_holds hj e)
      · exact fun _ _ _ _ _ h ↦ h
      · exact fun _ _ _ _ _ ⟨base, h⟩ ↦ h.copies
    apply Rules.Holds.bind round
    intro o
    cases o with
    | again => exact ih
    | done => exact Rules.Holds.ret _ fun _ _ _ _ h ↦ h

/-! ### `cancelBooking` and `recoveryStuckRefunds` -/

/-- A copy that was just loaded is a refund under way. -/
theorem Refunding.loaded {c : Conf service} {owner : Id → Option Nat} {r : Booking}
    (hi : Inv c.state c.log owner) (hr : c.state.bookings.find r.id = some r)
    (hs : r.settled = true) {ev : Event service} (ht : ev.tid = t)
    (hl : ev.op.row r.id ev.answer = some r) :
    Refunding M t (c.state.itemsOf r.id) r r ⟨c.state, ev :: c.log⟩ :=
  ⟨hs, ⟨r, hr, hs, rfl⟩, rfl, seen_row ht hl, fun _ ↦ hr, Forward.refl r,
    (hi.rows r (Inv.mem_of_find hr).1).cons⟩

private theorem startRefund_holds (hj : j.refunds = true) {b : Booking} (key : String)
    (reason : Option String) (hs : b.status = .confirmed) :
    M.rules.Holds t j (startRefund items key reason)
      (fun l c _ ↦ l = b ∧ Refunding M t items b b c) (fun _ _ _ _ ↦ True)
      (fun _ _ _ _ ↦ True) := by
  have run : M.rules.Holds t j
      (do let _ ← processRefundStateMachine items; entity : Code sig Booking Booking)
      (fun l c _ ↦ AtHead M t items [] l c) (fun _ _ _ _ ↦ True) (fun _ _ _ _ ↦ True) := by
    apply Rules.Holds.bind ((refundLoop_holds hj maxSteps).post (fun _ _ _ _ _ h ↦ h)
      fun _ _ _ _ _ _ ↦ trivial)
    intro _
    apply Rules.Holds.entity
    exact fun _ _ _ _ _ ↦ trivial
  apply Rules.Holds.readAs
  dsimp only
  split
  · next hn =>
    apply Rules.Holds.bind (I := fun _ l c _ ↦ Failing M t items [] l c)
    · apply Rules.Holds.assign
      rintro l c g _ ⟨rfl, h⟩
      refine ⟨l, h.assign rfl h.settled ⟨.inr ?_, fun hne ↦ absurd hn hne⟩ ?_, by simp,
        by simp, by simp [Copies]⟩
      · rw [hn]
        exact .start
      · exact h.ok.advance h.settled (by simp [hn]) rfl rfl rfl (by decide) (by simp) (by simp)
          (by simp)
    intro _
    apply Rules.Holds.ex
    intro base
    apply Rules.Holds.read
    intro b'
    apply Rules.Holds.bind ((saveRefund_holds hj base b').post (fun _ _ _ _ _ h ↦ h)
      fun _ _ _ _ _ _ ↦ trivial)
    exact fun _ ↦ run
  · next hn =>
    apply run.pre
    rintro l c g _ ⟨rfl, h⟩
    exact ⟨h, hn, by simp, by simp [Copies]⟩

/-- `cancelBooking` keeps the rules of the service. -/
theorem cancelBooking_holds (hj : j.refunds = true) (b : Id) (userId key : String)
    (reason : Option String) :
    M.rules.Holds t j (cancelBooking b userId key reason) (fun _ _ _ ↦ True)
      (fun _ _ _ _ ↦ True) (fun _ _ _ _ ↦ True) := by
  have found : M.rules.Holds t j
      (BookingService.await (.findBooking b) : Code sig Unit (Option BookingView))
      (fun _ _ _ ↦ True)
      (fun found _ c _ ↦ True ∧ ∀ v, found = some v → v.booking.settled = true →
        Refunding M t v.items v.booking v.booking c) (fun _ _ _ _ ↦ True) := by
    apply findBooking_holds
    · exact fun _ ↦ Rules.Stable.const True
    · exact fun _ ↦ Rules.Stable.const True
    · exact fun _ _ _ _ _ ↦ trivial
    · exact fun _ _ _ _ ↦ trivial
    · exact fun _ _ ↦ Rules.Stable.imp fun _ ↦ Refunding.stable hj
    · intro v _ c g hi _ hf hv hs
      have hid : v.booking.id = b := (Inv.mem_of_find hf).2
      subst hid
      rw [hv]
      exact Refunding.loaded hi hf hs rfl (by simp [Op.row, Op.stored, Op.loaded])
  apply Rules.Holds.bind found
  intro found
  cases found with
  | none =>
    apply Rules.Holds.raise
    exact fun _ _ _ _ _ ↦ trivial
  | some v =>
    dsimp only
    split
    · apply Rules.Holds.raise
      exact fun _ _ _ _ _ ↦ trivial
    · split
      · apply Rules.Holds.raise
        exact fun _ _ _ _ _ ↦ trivial
      · next hs =>
        have hc : v.booking.status = .confirmed := not_not.mp hs
        apply Rules.Holds.pre (P := fun _ c _ ↦ Refunding M t v.items v.booking v.booking c)
        · apply Rules.Holds.on
          exact fun _ ↦ startRefund_holds hj key reason hc
        · intro _ c g _ h
          exact h.2 v rfl (by simp [Booking.settled, hc])

private theorem recoverEach_holds (hj : j.refunds = true) (vs : List BookingView)
    (hn : (vs.map fun v ↦ v.booking.id).Nodup) :
    M.rules.Holds t j (recoverEach vs) (fun _ c _ ↦ Copies M t vs c) (fun _ _ _ _ ↦ True)
      (fun _ _ _ _ ↦ True) := by
  induction vs with
  | nil => exact Rules.Holds.ret _ fun _ _ _ _ _ ↦ trivial
  | cons v vs ih =>
    rw [List.map_cons, List.nodup_cons] at hn
    have rest := ih hn.2
    have apart : ∀ w ∈ vs, w.booking.id ≠ v.booking.id := by
      intro w hw he
      exact hn.1 (he ▸ List.mem_map_of_mem hw)
    rw [recoverEach]
    split
    · apply rest.pre
      exact fun _ _ _ _ h w hw ↦ h w (List.mem_cons_of_mem _ hw)
    · have run : M.rules.Holds t j
          (do let _ ← processRefundStateMachine v.items; pure () : Code sig Booking Unit)
          (fun l c _ ↦ l = v.booking ∧ AtHead M t v.items vs v.booking c)
          (fun _ _ c _ ↦ Copies M t vs c) (fun _ _ c _ ↦ Copies M t vs c) := by
        apply Rules.Holds.bind (I := fun _ _ c _ ↦ Copies M t vs c)
        · apply (refundLoop_holds hj maxSteps).pre
          rintro l c g _ ⟨rfl, h⟩
          exact h
        · exact fun _ ↦ Rules.Holds.ret _ fun _ _ _ _ h ↦ h
      apply Rules.Holds.bind (I := fun _ _ c _ ↦ Copies M t vs c)
      · apply Rules.Holds.tryCatch ((Rules.Holds.on fun _ ↦ run).pre ?_)
        · exact fun _ ↦ Rules.Holds.ret _ fun _ _ _ _ h ↦ h
        · intro _ c g _ h
          obtain ⟨hs, hv⟩ := h v List.mem_cons_self
          exact ⟨hv, hs, apart, fun w hw ↦ h w (List.mem_cons_of_mem _ hw)⟩
      · exact fun _ ↦ rest

private theorem findStuck_holds (hj : j.refunds = true) :
    M.rules.Holds t j (BookingService.await .findStuckBookings : Code sig Unit (List BookingView))
      (fun _ _ _ ↦ True)
      (fun vs _ c _ ↦ (vs.map fun v ↦ v.booking.id).Nodup ∧ Copies M t vs c)
      (fun _ _ _ _ ↦ True) := by
  apply Holds.observe rfl
  · exact fun vs _ ↦ (Rules.Stable.const _).and (copies_stable hj vs)
  · exact fun _ ↦ Rules.Stable.const True
  · exact fun _ _ _ _ _ ↦ trivial
  · exact fun _ _ _ _ _ _ ↦ trivial
  · intro _ c g x vs hi _ ha
    have hvs : (c.state.bookings.rows.filter Booking.stuck).map c.state.view = vs :=
      Except.ok.inj ha
    subst hvs
    refine ⟨?_, ?_⟩
    · rw [List.map_map]
      exact c.state.bookings.nodup.sublist (List.filter_sublist.map _)
    · intro v hv
      obtain ⟨r, hr, rfl⟩ := List.mem_map.mp hv
      obtain ⟨hm, hst⟩ := List.mem_filter.mp hr
      have hn : r.refundState ≠ none := by
        intro he
        simp [Booking.stuck, he] at hst
      refine ⟨hn, Refunding.loaded hi (Inv.find_of_mem hm) ((hi.rows r hm).started hn) rfl ?_⟩
      have hrows : (c.state.bookings.rows.filter Booking.stuck).map
          (BookingView.booking ∘ c.state.view) = c.state.bookings.rows.filter Booking.stuck :=
        List.map_id' _
      have hu : ((c.state.bookings.rows.filter Booking.stuck).map Booking.id).Nodup :=
        c.state.bookings.nodup.sublist (List.filter_sublist.map _)
      simp only [Op.row, Op.stored, Op.loaded, Option.none_or, List.map_map, hrows]
      exact Table.find_of_mem (t := ⟨_, hu⟩) hr

/-- Setting the flag of the worker tells nothing. -/
theorem flag_holds (o : Op) {L : Type} (acts : ∀ c, Acts M c o)
    (hb : ∀ x s, (perform x o s).2.bookings = s.bookings)
    (hi : ∀ x s, (perform x o s).2.items = s.items)
    (ho : ∀ x s, (perform x o s).2.outbox = s.outbox)
    (hn : ∀ x s, s.nextId ≤ (perform x o s).2.nextId) :
    M.rules.Holds t j (BookingService.await o : Code sig L (Res o)) (fun _ _ _ ↦ True)
      (fun _ _ _ _ ↦ True) (fun _ _ _ _ ↦ True) := by
  apply Rules.Holds.await
  intro l
  apply step
  · intro a
    cases a <;> exact Rules.Stable.const True
  · exact fun c _ _ _ ↦ acts c
  · exact fun _ _ _ _ _ ↦ trivial
  · intro c g x hinv _
    refine ⟨g, (hinv.congr (hb x _) (hi x _) (ho x _) (hn x _)).event _,
      Moves.congr (acts c) (hb x _) (hi x _) (ho x _) fun _ _ h ↦ h, ?_⟩
    cases (perform x o c.state).1 <;> trivial

/-- `recoveryStuckRefunds` keeps the rules of the service. -/
theorem recoveryStuckRefunds_holds (hj : j.refunds = true) :
    M.rules.Holds t j recoveryStuckRefunds (fun _ _ _ ↦ True) (fun _ _ _ _ ↦ True)
      (fun _ _ _ _ ↦ True) := by
  have leave : M.rules.Holds t j (BookingService.await .leave : Code sig Unit Unit)
      (fun _ _ _ ↦ True) (fun _ _ _ _ ↦ True) (fun _ _ _ _ ↦ True) :=
    flag_holds .leave (fun _ ↦ trivial) (fun _ _ ↦ rfl) (fun _ _ ↦ rfl) (fun _ _ ↦ rfl)
      fun _ _ ↦ Nat.le_refl _
  have recover : M.rules.Holds t j recoverStuck (fun _ _ _ ↦ True) (fun _ _ _ _ ↦ True)
      (fun _ _ _ _ ↦ True) := by
    apply Rules.Holds.bind (findStuck_holds hj)
    intro vs
    apply Rules.Holds.assume
    exact recoverEach_holds hj vs
  apply Rules.Holds.bind (flag_holds .enter (fun _ ↦ trivial) (fun _ _ ↦ rfl) (fun _ _ ↦ rfl)
    (fun _ _ ↦ rfl) fun _ _ ↦ Nat.le_refl _)
  intro entered
  dsimp only
  split
  · apply Rules.Holds.bind (I := fun _ _ _ _ ↦ True)
    · apply Rules.Holds.tryCatch recover
      intro e
      apply Rules.Holds.bind leave
      intro _
      apply Rules.Holds.raise
      exact fun _ _ _ _ _ ↦ trivial
    · exact fun _ ↦ leave
  · exact Rules.Holds.ret _ fun _ _ _ _ _ ↦ trivial

end Ticketing.BookingService
