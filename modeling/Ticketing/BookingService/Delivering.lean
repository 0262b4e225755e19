import Ticketing.BookingService.Refunding

/-!
# `processOutbox` keeps the rules

Library `BookingService`. A tick works on copies of the pending outbox rows. Where ticks do
not overlap, the stored row is the one that the tick stored last.
-/

namespace Ticketing.BookingService

open Async Store

variable {M : Mode} {t : Nat}

/-- A copy `e` of an outbox row; `base` is the row that the tick loaded or stored last. -/
structure Entry (M : Mode) (base e : Outbox) (c : Conf service) : Prop where
  known : ∃ q, c.state.outbox.find e.id = some q ∧ e.event = q.event ∧
    e.aggregateId = q.aggregateId
  stored : M.outbox = true → c.state.outbox.find e.id = some base

private theorem entry_stable (base e : Outbox) :
    M.rules.Stable t .processOutbox fun c _ ↦ Entry M base e c := by
  intro u i c g c' g' _ hx _ _ hm h
  obtain ⟨o, a, hm⟩ := hm
  obtain ⟨q, hq, hv, ha⟩ := h.known
  obtain ⟨q', hq', hv', ha'⟩ := hm.entry hq
  refine ⟨⟨q', hq', hv.trans hv'.symm, ha.trans ha'.symm⟩, ?_⟩
  intro hM
  apply hm.entry_eq _ (h.stored hM)
  intro hi
  exact hx (.inl ⟨hM, rfl, hi⟩)

/-- The entry of a delivery depends on its stored row alone. -/
theorem Entry.frame {base e : Outbox} {c c' : Conf service} (h : Entry M base e c)
    (hf : c'.state.outbox.find e.id = c.state.outbox.find e.id) : Entry M base e c' := by
  constructor
  · rw [hf]
    exact h.known
  · rw [hf]
    exact h.stored

/-- The copies that the tick has still to work on. -/
def Pending (M : Mode) (rest : List Outbox) (c : Conf service) : Prop :=
  ∀ e ∈ rest, e.status = .pending ∧ Entry M e e c

private theorem pending_stable (rest : List Outbox) :
    M.rules.Stable t .processOutbox fun c _ ↦ Pending M rest c :=
  Rules.Stable.all fun _ ↦ Rules.Stable.imp fun _ ↦ (Rules.Stable.const _).and (entry_stable _ _)

/-- What the tick knows while it works on the copy `e`, with others to follow. -/
structure Delivering (M : Mode) (rest : List Outbox) (base e : Outbox) (c : Conf service) :
    Prop where
  mine : Entry M base e c
  apart : ∀ r ∈ rest, r.id ≠ e.id
  pending : Pending M rest c

variable {rest : List Outbox}

private theorem delivering_stable (base e : Outbox) :
    M.rules.Stable t .processOutbox fun c _ ↦ Delivering M rest base e c := by
  intro u i c g c' g' hu hx hi hi' hm h
  exact ⟨entry_stable base e u i c g c' g' hu hx hi hi' hm h.mine, h.apart,
    pending_stable rest u i c g c' g' hu hx hi hi' hm h.pending⟩

/-- A delivery depends on the outbox rows alone. -/
theorem Delivering.frame {base e : Outbox} {c c' : Conf service}
    (h : Delivering M rest base e c) (ho : c'.state.outbox = c.state.outbox) :
    Delivering M rest base e c' :=
  ⟨h.mine.frame (by rw [ho]), h.apart, fun r hr ↦
    ⟨(h.pending r hr).1, (h.pending r hr).2.frame (by rw [ho])⟩⟩

/-- Assigning a column other than the event and its booking. -/
theorem Delivering.assign {base e e' : Outbox} {c : Conf service}
    (h : Delivering M rest base e c) (hi : e'.id = e.id) (hv : e'.event = e.event)
    (ha : e'.aggregateId = e.aggregateId) : Delivering M rest base e' c := by
  constructor
  · refine ⟨?_, ?_⟩
    · rw [hi, hv, ha]
      exact h.mine.known
    · rw [hi]
      exact h.mine.stored
  · rw [hi]
    exact h.apart
  · exact h.pending

/-- The row as the tick stored it, while it delivers the event. -/
theorem Delivering.processing {base e : Outbox} {c : Conf service}
    (h : Delivering M rest base e c) (hb : base.status = .processing) :
    ∃ entry ∈ c.state.outbox.rows, e.event = entry.event ∧ e.aggregateId = entry.aggregateId ∧
      (M.outbox = true → entry.status = .processing) := by
  obtain ⟨q, hq, hv, ha⟩ := h.mine.known
  refine ⟨q, (Table.find_eq_some_iff.mp hq).1, hv, ha, ?_⟩
  intro hM
  rw [h.mine.stored hM] at hq
  cases hq
  exact hb

private theorem saveEntry_holds (base b : Outbox)
    (hn : OutboxStatus.Next base.status b.status) :
    M.rules.Holds t .processOutbox (BookingService.await (.saveEntry b) : Code sig Outbox Unit)
      (fun l c _ ↦ l = b ∧ Delivering M rest base b c)
      (fun _ l c _ ↦ l = b ∧ Delivering M rest b b c)
      (fun _ l c _ ↦ l = b ∧ Delivering M rest base b c) := by
  apply Rules.Holds.await
  intro l
  apply step
  · intro a
    cases a with
    | ok a => exact (Rules.Stable.const _).and (delivering_stable b b)
    | error e => exact (Rules.Stable.const _).and (delivering_stable base b)
  · exact fun _ _ _ _ ↦ trivial
  · exact fun _ _ _ _ h ↦ ⟨h.1, h.2.frame rfl⟩
  · rintro c g x hi ⟨rfl, h⟩
    obtain ⟨q, hq, hv, ha⟩ := h.mine.known
    refine ⟨g, (hi.saveEntry hq ha hv).event _, Moves.entrySave rfl hq hv ha ?_, rfl, ?_⟩
    · intro hM
      rw [h.mine.stored hM] at hq
      cases hq
      exact hn
    · have found : (c.state.outbox.put l).find l.id = some l := Table.find_put_self _ l
      refine ⟨⟨⟨l, found, rfl, rfl⟩, fun _ ↦ found⟩, h.apart, ?_⟩
      intro r hr
      obtain ⟨hs, he⟩ := h.pending r hr
      exact ⟨hs, he.frame (Table.find_put_of_ne _ (h.apart r hr).symm)⟩

/-! ### Delivering one event -/

private theorem silent_holds {L : Type} {base e : Outbox} (o : Op) (ho : o.silent = true)
    (acts : ∀ c, Acts M c o) :
    M.rules.Holds t .processOutbox (BookingService.await o : Code sig L (Res o))
      (fun _ c _ ↦ Delivering M rest base e c) (fun _ _ c _ ↦ Delivering M rest base e c)
      (fun _ _ c _ ↦ Delivering M rest base e c) :=
  Holds.pass ho (fun _ ↦ delivering_stable base e) (fun _ ↦ delivering_stable base e) acts
    (fun _ _ _ _ h ↦ h.frame rfl) fun _ _ _ _ h ↦ h

private theorem newTickets_holds {base e : Outbox} (b : Id) (items : List BookingItem) :
    M.rules.Holds t .processOutbox (newTickets b items)
      (fun _ c _ ↦ Delivering M rest base e c)
      (fun tickets _ c _ ↦ (∀ ticket ∈ tickets, ticket.bookingId = b) ∧
        Delivering M rest base e c)
      (fun _ _ c _ ↦ Delivering M rest base e c) := by
  induction items with
  | nil =>
    apply Rules.Holds.ret
    exact fun _ _ _ _ h ↦ ⟨fun _ hm ↦ (List.not_mem_nil hm).elim, h⟩
  | cons item items ih =>
    apply Rules.Holds.bind (I := fun _ _ c _ ↦ Delivering M rest base e c)
    · apply Rules.Holds.bind (silent_holds .now rfl fun _ ↦ trivial)
      intro timestamp
      apply Rules.Holds.bind (silent_holds .random rfl fun _ ↦ trivial)
      intro random
      exact Rules.Holds.ret _ fun _ _ _ _ h ↦ h
    intro ticketCode
    apply Rules.Holds.bind (silent_holds (.toDataURL ticketCode item) rfl fun _ ↦ trivial)
    intro qrCodeData
    apply Rules.Holds.bind ih
    intro tickets
    apply Rules.Holds.assume
    intro hb
    apply Rules.Holds.ret
    intro _ _ _ _ h
    refine ⟨?_, h⟩
    intro ticket hm
    rcases List.mem_cons.mp hm with rfl | hm
    · rfl
    · exact hb ticket hm

private theorem saveTickets_holds {base e : Outbox} (hb : base.status = .processing)
    (hv : e.event.isBookingConfirmed = true) {tickets : List Ticket}
    (ht : ∀ ticket ∈ tickets, ticket.bookingId = e.aggregateId) :
    M.rules.Holds t .processOutbox
      (BookingService.await (.saveTickets tickets) : Code sig Unit (List Ticket))
      (fun _ c _ ↦ Delivering M rest base e c) (fun _ _ c _ ↦ Delivering M rest base e c)
      (fun _ _ c _ ↦ Delivering M rest base e c) := by
  have acts : ∀ c : Conf service, Delivering M rest base e c →
      Acts M c (.saveTickets tickets) := by
    intro c h
    obtain ⟨entry, hm, hev, hag, hst⟩ := h.processing hb
    exact ⟨e.aggregateId, ht, fun hM ↦ ⟨entry, hm, hag.symm, by rw [← hev]; exact hv, hst hM⟩⟩
  apply Rules.Holds.await
  intro l
  apply step
  · intro a
    cases a <;> exact delivering_stable base e
  · exact fun c _ _ h ↦ acts c h
  · exact fun _ _ _ _ h ↦ h.frame rfl
  · intro c g x hi h
    refine ⟨g, Inv.event ?_ _, ?_, h.frame rfl⟩
    · exact hi.congr rfl rfl rfl (Nat.le_add_right _ _)
    · exact Moves.congr (acts c h) rfl rfl rfl fun _ _ ho ↦ ho

private theorem generateTicket_holds {base e : Outbox} (hb : base.status = .processing)
    (hv : e.event.isBookingConfirmed = true) :
    M.rules.Holds t .processOutbox (generateTicket e.aggregateId)
      (fun _ c _ ↦ Delivering M rest base e c) (fun _ _ c _ ↦ Delivering M rest base e c)
      (fun _ _ c _ ↦ Delivering M rest base e c) := by
  apply Rules.Holds.bind (silent_holds (.findTickets e.aggregateId) rfl fun _ ↦ trivial)
  intro existing
  dsimp only
  split
  · exact Rules.Holds.ret _ fun _ _ _ _ h ↦ h
  · apply Rules.Holds.bind (silent_holds (.findBookingItems e.aggregateId) rfl fun _ ↦ trivial)
    intro bookingItems
    dsimp only
    split
    · exact Rules.Holds.ret _ fun _ _ _ _ h ↦ h
    · apply Rules.Holds.bind (newTickets_holds e.aggregateId bookingItems)
      intro tickets
      apply Rules.Holds.assume
      exact saveTickets_holds hb hv

private theorem markSold_holds {base e : Outbox} (hb : base.status = .processing)
    {eventId userId : String} {seatIds : List String}
    (hv : e.event = .seatsMarkSold eventId userId seatIds) :
    M.rules.Holds t .processOutbox
      (handleSeatsSold e.aggregateId eventId userId seatIds)
      (fun _ c _ ↦ Delivering M rest base e c) (fun _ _ c _ ↦ Delivering M rest base e c)
      (fun _ _ c _ ↦ Delivering M rest base e c) := by
  apply Rules.Holds.bind (I := fun _ _ c _ ↦ Delivering M rest base e c)
  · apply Holds.grpc
    · exact fun _ _ ↦ delivering_stable base e
    · exact fun _ ↦ delivering_stable base e
    · intro _ c g _ h
      obtain ⟨entry, hm, hev, hag, hst⟩ := h.processing hb
      exact ⟨entry, hm, by rw [hag], by rw [← hev]; exact hv, hst⟩
    · exact fun _ _ _ _ h ↦ h.frame rfl
    · exact fun _ _ _ _ _ _ h _ ↦ h.frame rfl
  intro success
  dsimp only
  split
  · exact Rules.Holds.ret _ fun _ _ _ _ h ↦ h
  · apply Rules.Holds.raise
    exact fun _ _ _ _ h ↦ h

private theorem processEntry_holds {base e : Outbox} (hb : base.status = .processing) :
    M.rules.Holds t .processOutbox (processEntry e)
      (fun _ c _ ↦ Delivering M rest base e c) (fun _ _ c _ ↦ Delivering M rest base e c)
      (fun _ _ c _ ↦ Delivering M rest base e c) := by
  unfold processEntry
  split
  · next eventId userId seatIds hv => exact markSold_holds hb hv
  · next payload hv =>
    apply Rules.Holds.bind (generateTicket_holds hb (by rw [hv]; rfl))
    exact fun _ ↦ silent_holds (.emit _ _ _) rfl fun _ ↦ trivial
  · exact silent_holds (.emit _ _ _) rfl fun _ ↦ trivial
  · exact Rules.Holds.ret _ fun _ _ _ _ h ↦ h

/-! ### The loop -/

/-- The copy after a failed delivery: its stored row is the one that was stored before. -/
def Retrying (M : Mode) (rest : List Outbox) (e : Outbox) (c : Conf service) : Prop :=
  ∃ base, base.status = .processing ∧ Delivering M rest base e c

private theorem retrying_stable (e : Outbox) :
    M.rules.Stable t .processOutbox fun c _ ↦ Retrying M rest e c :=
  Rules.Stable.ex fun base ↦ (Rules.Stable.const _).and (delivering_stable base e)

private theorem completeEntry_holds :
    M.rules.Holds t .processOutbox completeEntry (fun l c _ ↦ Retrying M rest l c)
      (fun _ _ c _ ↦ Pending M rest c) (fun _ l c _ ↦ Retrying M rest l c) := by
  apply Rules.Holds.ex
  intro base
  apply Rules.Holds.assume
  intro hb
  apply Rules.Holds.read
  intro e
  apply Rules.Holds.bind (I := fun _ l c _ ↦ l = e ∧ Delivering M rest base e c)
  · apply Rules.Holds.on
    intro l
    apply Rules.Holds.pre (P := fun _ c _ ↦ l = e ∧ Delivering M rest base e c)
    · apply Rules.Holds.assume
      rintro rfl
      apply (processEntry_holds hb).post
      · exact fun _ _ _ _ _ h ↦ ⟨rfl, h⟩
      · exact fun _ _ _ _ _ h ↦ ⟨base, hb, h⟩
    · exact fun _ _ _ _ h ↦ h.2
  intro _
  apply Rules.Holds.bind (I := fun _ l c _ ↦ l = { e with status := .completed } ∧
    Delivering M rest base { e with status := .completed } c)
  · apply Rules.Holds.assign
    rintro l c g _ ⟨rfl, h⟩
    exact ⟨rfl, h.assign rfl rfl rfl⟩
  intro _
  apply Rules.Holds.bind (I := fun _ l c _ ↦ l = { e with status := .completed } ∧
    Delivering M rest base { e with status := .completed } c)
  · apply Holds.pass rfl
    · exact fun _ ↦ (Rules.Stable.const _).and (delivering_stable _ _)
    · exact retrying_stable
    · exact fun _ ↦ trivial
    · exact fun _ _ _ _ h ↦ ⟨h.1, h.2.frame rfl⟩
    · exact fun hf ↦ absurd hf (by decide)
  intro now
  apply Rules.Holds.bind (I := fun _ l c _ ↦ l.status = .completed ∧ Delivering M rest base l c)
  · apply Rules.Holds.assign
    rintro l c g _ ⟨rfl, h⟩
    exact ⟨rfl, h.assign rfl rfl rfl⟩
  intro _
  apply Rules.Holds.read
  intro b
  apply Rules.Holds.pre (P := fun l c _ ↦ b.status = .completed ∧
    l = b ∧ Delivering M rest base b c)
  swap
  · exact fun _ _ _ _ h ↦ ⟨h.2.1, h.1, h.2.2⟩
  apply Rules.Holds.assume
  intro hc
  apply (saveEntry_holds base b (by rw [hb, hc]; exact .complete)).post
  · exact fun _ _ _ _ _ h ↦ h.2.pending
  · rintro _ l c g _ ⟨rfl, h⟩
    exact ⟨base, hb, h⟩

private theorem retryEntry_holds (e : Exception) :
    M.rules.Holds t .processOutbox (retryEntry e) (fun l c _ ↦ Retrying M rest l c)
      (fun _ _ c _ ↦ Pending M rest c) (fun _ _ _ _ ↦ True) := by
  apply Rules.Holds.ex
  intro base
  apply Rules.Holds.assume
  intro hb
  apply Rules.Holds.bind (I := fun _ l c _ ↦ Delivering M rest base l c)
  · apply Rules.Holds.assign
    exact fun _ _ _ _ h ↦ h.assign rfl rfl rfl
  intro _
  apply Rules.Holds.bind (I := fun _ l c _ ↦
    (l.status = .failed ∨ l.status = .pending) ∧ Delivering M rest base l c)
  · apply Rules.Holds.assign
    intro l c g _ h
    refine ⟨?_, h.assign rfl rfl rfl⟩
    dsimp only
    split
    · exact .inl rfl
    · exact .inr rfl
  intro _
  apply Rules.Holds.read
  intro b
  apply Rules.Holds.pre (P := fun l c _ ↦ (b.status = .failed ∨ b.status = .pending) ∧
    l = b ∧ Delivering M rest base b c)
  swap
  · exact fun _ _ _ _ h ↦ ⟨h.2.1, h.1, h.2.2⟩
  apply Rules.Holds.assume
  intro hs
  have next : OutboxStatus.Next base.status b.status := by
    rw [hb]
    rcases hs with hs | hs
    · rw [hs]
      exact .fail
    · rw [hs]
      exact .retry
  apply (saveEntry_holds base b next).post
  · exact fun _ _ _ _ _ h ↦ h.2.pending
  · exact fun _ _ _ _ _ _ ↦ trivial

private theorem processPending_holds {e : Outbox} (hp : e.status = .pending) :
    M.rules.Holds t .processOutbox processPending
      (fun l c _ ↦ l = e ∧ Delivering M rest e e c) (fun _ _ c _ ↦ Pending M rest c)
      (fun _ _ _ _ ↦ True) := by
  apply Rules.Holds.bind (I := fun _ l c _ ↦ l = { e with status := .processing } ∧
    Delivering M rest e { e with status := .processing } c)
  · apply Rules.Holds.assign
    rintro l c g _ ⟨rfl, h⟩
    exact ⟨rfl, h.assign rfl rfl rfl⟩
  intro _
  apply Rules.Holds.readAs
  apply Rules.Holds.bind ((saveEntry_holds e { e with status := .processing }
    (by rw [hp]; exact .start)).post (fun _ _ _ _ _ h ↦ h) fun _ _ _ _ _ _ ↦ trivial)
  intro _
  apply Rules.Holds.tryCatch (completeEntry_holds.pre ?_) retryEntry_holds
  rintro l c g _ ⟨rfl, h⟩
  exact ⟨_, rfl, h⟩

private theorem processEach_holds (es : List Outbox) (hn : (es.map Outbox.id).Nodup) :
    M.rules.Holds t .processOutbox (processEach es) (fun _ c _ ↦ Pending M es c)
      (fun _ _ _ _ ↦ True) (fun _ _ _ _ ↦ True) := by
  induction es with
  | nil => exact Rules.Holds.ret _ fun _ _ _ _ _ ↦ trivial
  | cons e es ih =>
    rw [List.map_cons, List.nodup_cons] at hn
    apply Rules.Holds.bind (I := fun _ _ c _ ↦ Pending M es c)
    · apply Rules.Holds.on
      intro _
      apply Rules.Holds.pre (P := fun l c _ ↦ e.status = .pending ∧ l = e ∧
        Delivering M es e e c)
      · apply Rules.Holds.assume
        exact processPending_holds
      · rintro l c g _ ⟨rfl, h⟩
        obtain ⟨hp, he⟩ := h l List.mem_cons_self
        refine ⟨hp, rfl, he, ?_, fun r hr ↦ h r (List.mem_cons_of_mem _ hr)⟩
        intro r hr hid
        exact hn.1 (hid ▸ List.mem_map_of_mem hr)
    · exact fun _ ↦ ih hn.2

/-- `processOutbox` keeps the rules of the service. -/
theorem processOutbox_holds :
    M.rules.Holds t .processOutbox processOutbox (fun _ _ _ ↦ True) (fun _ _ _ _ ↦ True)
      (fun _ _ _ _ ↦ True) := by
  apply Rules.Holds.bind (I := fun es _ c _ ↦ (es.map Outbox.id).Nodup ∧ Pending M es c)
  · apply Holds.observe rfl
    · exact fun es _ ↦ (Rules.Stable.const _).and (pending_stable es)
    · exact fun _ ↦ Rules.Stable.const True
    · exact fun _ _ _ _ _ ↦ trivial
    · exact fun _ _ _ _ _ _ ↦ trivial
    · intro _ c g x es hi _ ha
      have hes : (c.state.outbox.rows.filter fun e ↦ e.status = .pending).take 10 = es :=
        Except.ok.inj ha
      subst hes
      refine ⟨?_, ?_⟩
      · have sub := (List.take_sublist 10 _).trans
          (List.filter_sublist (p := fun e : Outbox ↦ e.status = .pending)
            (l := c.state.outbox.rows))
        exact c.state.outbox.nodup.sublist (sub.map Outbox.id)
      · intro e he
        obtain ⟨hm, hp⟩ := List.mem_filter.mp (List.mem_of_mem_take he)
        have hf : c.state.outbox.find e.id = some e := Table.find_of_mem hm
        exact ⟨of_decide_eq_true hp, ⟨e, hf, rfl, rfl⟩, fun _ ↦ hf⟩
  intro es
  apply Rules.Holds.assume
  exact processEach_holds es

end Ticketing.BookingService
