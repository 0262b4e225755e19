import Ticketing.BookingService.Moves

/-!
# One rule for each kind of operation

Library `BookingService`. An operation that fails changes nothing but the history; these
rules say what is left to show for one that has its effect.
-/

namespace Ticketing.BookingService

open Async Store

namespace Moves

variable {M : Mode} {t : Nat} {j : Job} {o : Op} {a : sig.Answer o} {c : Conf service}
  {owner owner' : Id → Option Nat}

/-- An operation that stores neither bookings, items nor outbox rows. -/
theorem congr {s' : Db} (acts : Acts M c o) (hb : s'.bookings = c.state.bookings)
    (hi : s'.items = c.state.items) (ho : s'.outbox = c.state.outbox)
    (owners : ∀ b u, owner b = some u → owner' b = some u) :
    Moves M ⟨t, j, o, a⟩ c owner ⟨s', ⟨t, j, o, a⟩ :: c.log⟩ owner' where
  log := rfl
  owners := owners
  bookings b := .inl (by rw [hb])
  items b r _ := by simp only [Db.itemsOf, hi]
  outbox n := .inl (by rw [ho])
  acts := acts

/-- An operation that stores nothing. -/
theorem silent (acts : Acts M c o) :
    Moves M ⟨t, j, o, a⟩ c owner ⟨c.state, ⟨t, j, o, a⟩ :: c.log⟩ owner :=
  congr acts rfl rfl rfl fun _ _ h ↦ h

/-- Saving a booking outside a transaction. -/
theorem save {r : Booking}
    (move : BookingMove M ⟨t, j, .saveBooking r, .ok ()⟩ c owner r.id r) :
    Moves M ⟨t, j, .saveBooking r, .ok ()⟩ c owner
      ⟨{ c.state with bookings := c.state.bookings.put r },
        ⟨t, j, .saveBooking r, .ok ()⟩ :: c.log⟩ owner where
  log := rfl
  owners _ _ h := h
  bookings b := by
    by_cases hb : r.id = b
    · subst hb
      exact .inr ⟨r, Table.find_put_self _ r, if_pos rfl, move⟩
    · exact .inl (Table.find_put_of_ne _ hb)
  items _ _ _ := rfl
  outbox _ := .inl rfl
  acts := trivial

/-- The commit of a new booking is a move. -/
theorem persist {r : Booking} {items : List BookingItem}
    (absent : c.state.bookings.find r.id = none) (own : owner r.id = some t)
    (pending : r.status = .pending) (state : r.refundState = none)
    (hi : ∀ i ∈ items, i.bookingId = r.id) :
    Moves M ⟨t, j, .commit [.booking r, .items items], .ok ()⟩ c owner
      ⟨[.booking r, .items items].foldl Db.write c.state,
        ⟨t, j, .commit [.booking r, .items items], .ok ()⟩ :: c.log⟩ owner where
  log := rfl
  owners _ _ h := h
  bookings b := by
    by_cases hb : r.id = b
    · subst hb
      refine .inr ⟨r, Table.find_put_self _ r, ?_, .persisted rfl absent own pending state⟩
      simp [Op.stored, Write.stored]
    · exact .inl (Table.find_put_of_ne _ hb)
  items b q hq := by
    have hne : b ≠ r.id := by
      intro he
      rw [he, absent] at hq
      cases hq
    have hnil : (numberedItems c.state.items.length items).filter (fun i ↦ i.bookingId = b) =
        [] := by
      rw [List.filter_eq_nil_iff]
      intro i him he
      exact hne ((decide_eq_true_eq.mp he).symm.trans (bookingId_numbered hi i him))
    simp only [Db.itemsOf, List.foldl_cons, List.foldl_nil, Db.write, List.filter_append, hnil,
      List.append_nil]
  outbox _ := .inl rfl
  acts := trivial

/-- The commit of a stored booking with new outbox rows. -/
theorem commit {r : Booking} (es : List Outbox) {s' : Db}
    (hs' : s' = (.booking r :: es.map Write.outbox).foldl Db.write c.state)
    (move : BookingMove M ⟨t, j, .commit (.booking r :: es.map Write.outbox), .ok ()⟩ c owner
      r.id r)
    (fresh : ∀ n, c.state.nextId ≤ n → c.state.outbox.find n = none)
    (news : ∀ e ∈ es, e.status = .pending ∧ ∀ q,
      c.state.bookings.find e.aggregateId = some q → q.settled = true →
        e.event.isBookingRefunded = true) :
    Moves M ⟨t, j, .commit (.booking r :: es.map Write.outbox), .ok ()⟩ c owner
      ⟨s', ⟨t, j, .commit (.booking r :: es.map Write.outbox), .ok ()⟩ :: c.log⟩ owner := by
  have inserts : ∀ (es : List Outbox) (s : Db),
      ((es.map Write.outbox).foldl Db.write s).bookings = s.bookings ∧
      ((es.map Write.outbox).foldl Db.write s).items = s.items ∧
      ∀ n, ((es.map Write.outbox).foldl Db.write s).outbox.find n = s.outbox.find n ∨
        s.nextId ≤ n ∧ ∃ e ∈ es,
          ((es.map Write.outbox).foldl Db.write s).outbox.find n = some { e with id := n } := by
    intro es
    induction es with
    | nil => exact fun s ↦ ⟨rfl, rfl, fun n ↦ .inl rfl⟩
    | cons e es ih =>
      intro s
      obtain ⟨hb, hi, ho⟩ := ih (s.write (.outbox e))
      refine ⟨hb, hi, ?_⟩
      intro n
      rcases ho n with he | ⟨hn, e', hm, he⟩
      · by_cases hn : s.nextId = n
        · subst hn
          exact .inr ⟨Nat.le_refl _, e, List.mem_cons_self, he.trans (Table.find_put_self _ _)⟩
        · exact .inl (he.trans (Table.find_put_of_ne _ hn))
      · have hn' : s.nextId + 1 ≤ n := hn
        exact .inr ⟨Nat.le_of_succ_le hn', e', List.mem_cons_of_mem _ hm, he⟩
  subst hs'
  obtain ⟨hb, hi, ho⟩ := inserts es (c.state.write (.booking r))
  constructor
  · rfl
  · exact fun _ _ h ↦ h
  · intro b
    show (((es.map Write.outbox).foldl Db.write (c.state.write (.booking r))).bookings.find b =
      c.state.bookings.find b) ∨ _
    rw [hb]
    by_cases he : r.id = b
    · subst he
      refine .inr ⟨r, (congrArg (·.find r.id) hb).trans (Table.find_put_self _ r), ?_, move⟩
      simp [Op.stored, Write.stored]
    · exact .inl (Table.find_put_of_ne _ he)
  · intro b q hq
    show ((es.map Write.outbox).foldl Db.write (c.state.write (.booking r))).itemsOf b = _
    simp only [Db.itemsOf, hi]
    rfl
  · intro n
    rcases ho n with he | ⟨hn, e, hm, he⟩
    · exact .inl he
    · obtain ⟨hst, hnew⟩ := news e hm
      exact .inr ⟨{ e with id := n }, he, .created (fresh n hn) hst hnew⟩
  · trivial

/-- Saving an outbox row is a move if its status may follow the stored one. -/
theorem entrySave {e e' : Outbox} (hj : j = .processOutbox)
    (hf : c.state.outbox.find e'.id = some e) (hv : e'.event = e.event)
    (ha : e'.aggregateId = e.aggregateId)
    (hn : M.outbox = true → OutboxStatus.Next e.status e'.status) :
    Moves M ⟨t, j, .saveEntry e', .ok ()⟩ c owner
      ⟨{ c.state with outbox := c.state.outbox.put e' },
        ⟨t, j, .saveEntry e', .ok ()⟩ :: c.log⟩ owner where
  log := rfl
  owners _ _ h := h
  bookings _ := .inl rfl
  items _ _ _ := rfl
  outbox n := by
    by_cases he : e'.id = n
    · subst he
      exact .inr ⟨e', Table.find_put_self _ e', .saved hj hf hv ha hn⟩
    · exact .inl (Table.find_put_of_ne _ he)
  acts := trivial

end Moves

/-! ### Rules -/

variable {M : Mode} {t : Nat} {j : Job} {L : Type}

/-- An operation holds by what is known where it fails and by its effect where it does not. -/
theorem step {o : Op} {P : M.rules.Fact} {post : sig.Answer o → M.rules.Fact}
    (stable : ∀ r, M.rules.Stable t j (post r))
    (acts : ∀ c g, Inv c.state c.log g → P c g → Acts M c o)
    (fail : o.fallible = true → ∀ c g e, P c g →
      post (.error e) ⟨c.state, ⟨t, j, o, .error e⟩ :: c.log⟩ g)
    (done : ∀ c g x, Inv c.state c.log g → P c g →
      ∃ g', Inv (perform x o c.state).2 (⟨t, j, o, (perform x o c.state).1⟩ :: c.log) g' ∧
        Moves M ⟨t, j, o, (perform x o c.state).1⟩ c g
          ⟨(perform x o c.state).2, ⟨t, j, o, (perform x o c.state).1⟩ :: c.log⟩ g' ∧
        post (perform x o c.state).1
          ⟨(perform x o c.state).2, ⟨t, j, o, (perform x o c.state).1⟩ :: c.log⟩ g') :
    M.rules.Step t j o P post where
  stable := stable
  exec c g x hi hp _ := by
    rcases exec_cases x o c.state with ⟨hf, e, he⟩ | he
    · refine ⟨g, ?_⟩
      simp only [Conf.after, Conf.answer, he]
      exact ⟨hi.event _, ⟨o, _, Moves.silent (acts c g hi hp)⟩, fail hf c g e hp⟩
    · obtain ⟨g', hi', hm, hq⟩ := done c g x hi hp
      refine ⟨g', ?_⟩
      simp only [Conf.after, Conf.answer, he]
      exact ⟨hi', ⟨o, _, hm⟩, hq⟩

/-- Operations that store nothing. -/
def Op.silent : Op → Bool
  | .findBooking _ | .findStuckBookings | .connect | .statement _ | .rollback
  | .findPendingEntries | .findTickets _ | .findBookingItems _ | .toDataURL _ _ | .emit _ _ _
  | .rpc _ _ | .now | .random => true
  | _ => false

/-- A silent operation leaves the database as it is. -/
theorem perform_silent {o : Op} (h : o.silent = true) (x : Choice) (s : Db) :
    (perform x o s).2 = s := by
  cases o <;> first | rfl | cases h

/-- Every operation that has its effect gives a reply. -/
theorem perform_ok (x : Choice) (o : Op) (s : Db) : ∃ a, (perform x o s).1 = .ok a := by
  cases o <;> exact ⟨_, rfl⟩

/-- Await a silent operation: what its answer tells is known afterwards. -/
theorem Holds.observe {o : Op} (ho : o.silent = true) {P E : L → M.rules.Fact}
    {Q : Res o → L → M.rules.Fact} (stable : ∀ a l, M.rules.Stable t j (Q a l))
    (stable' : ∀ l, M.rules.Stable t j (E l))
    (acts : ∀ l c g, Inv c.state c.log g → P l c g → Acts M c o)
    (fail : o.fallible = true → ∀ l c g e, P l c g →
      E l ⟨c.state, ⟨t, j, o, .error e⟩ :: c.log⟩ g)
    (done : ∀ l c g x a, Inv c.state c.log g → P l c g → (perform x o c.state).1 = .ok a →
      Q a l ⟨c.state, ⟨t, j, o, .ok a⟩ :: c.log⟩ g) :
    M.rules.Holds t j (BookingService.await o : Code sig L (Res o)) P Q (fun _ ↦ E) := by
  apply Rules.Holds.await
  intro l
  apply step
  · intro r
    cases r with
    | ok a => exact stable a l
    | error e => exact stable' l
  · exact acts l
  · exact fun hf c g e hp ↦ fail hf l c g e hp
  · intro c g x hi hp
    refine ⟨g, ?_⟩
    rw [perform_silent ho]
    refine ⟨hi.event _, Moves.silent (acts l c g hi hp), ?_⟩
    obtain ⟨a, ha⟩ := perform_ok x o c.state
    have hd := done l c g x a hi hp ha
    rw [ha]
    exact hd

/-- Await a silent operation that tells nothing: what is known stays known. -/
theorem Holds.pass {o : Op} (ho : o.silent = true) {P E : L → M.rules.Fact}
    (stable : ∀ l, M.rules.Stable t j (P l)) (stable' : ∀ l, M.rules.Stable t j (E l))
    (acts : ∀ c, Acts M c o)
    (own : ∀ l c g a, P l c g → P l ⟨c.state, ⟨t, j, o, a⟩ :: c.log⟩ g)
    (fail : o.fallible = true → ∀ l c g, P l c g → E l c g) :
    M.rules.Holds t j (BookingService.await o : Code sig L (Res o)) P (fun _ ↦ P) (fun _ ↦ E) :=
  Holds.observe ho (fun _ ↦ stable) stable' (fun _ c _ _ _ ↦ acts c)
    (fun hf l c g _ hp ↦ fail hf l _ g (own l c g _ hp))
    fun l c g _ a _ hp _ ↦ own l c g (.ok a) hp

/-- A gRPC call holds by what its reply tells and what its failure leaves. -/
theorem Holds.grpc {α : Type} {issuer : Option Id} {request : Request}
    {answer : Reply → Option α} {P E : L → M.rules.Fact} {Q : α → L → M.rules.Fact}
    (stable : ∀ a l, M.rules.Stable t j (Q a l)) (stable' : ∀ l, M.rules.Stable t j (E l))
    (acts : ∀ l c g, Inv c.state c.log g → P l c g → Acts M c (.rpc issuer request))
    (fail : ∀ l c g a, P l c g → E l ⟨c.state, ⟨t, j, .rpc issuer request, a⟩ :: c.log⟩ g)
    (done : ∀ l c g reply a, Inv c.state c.log g → P l c g → answer reply = some a →
      Q a l ⟨c.state, ⟨t, j, .rpc issuer request, .ok reply⟩ :: c.log⟩ g) :
    M.rules.Holds t j (BookingService.grpc issuer request answer) P Q (fun _ ↦ E) := by
  have told : M.rules.Holds t j
      (BookingService.await (.rpc issuer request) : Code sig L Reply) P
      (fun reply l ↦ (answer reply).elim (E l) fun a ↦ Q a l) (fun _ ↦ E) := by
    apply Holds.observe rfl
    · intro reply l
      cases answer reply with
      | some a => exact stable a l
      | none => exact stable' l
    · exact stable'
    · exact acts
    · exact fun _ l c g e hp ↦ fail l c g (.error e) hp
    · intro l c g x reply hi hp _
      cases ha : answer reply with
      | some a => exact done l c g reply a hi hp ha
      | none => exact fail l c g (.ok reply) hp
  apply Rules.Holds.bind told
  intro reply
  dsimp only
  cases answer reply with
  | some a => exact Rules.Holds.ret a fun _ _ _ _ h ↦ h
  | none => exact Rules.Holds.raise _ fun _ _ _ _ h ↦ h

/-- A fact about the history that later operations keep is stable. -/
theorem stable_log {K : List (Event service) → Prop} (h : ∀ ev log, K log → K (ev :: log)) :
    M.rules.Stable t j fun c _ ↦ K c.log := by
  intro u i c g c' g' _ _ _ _ hm hk
  obtain ⟨o, a, hm⟩ := hm
  rw [hm.log]
  exact h _ _ hk

end Ticketing.BookingService
