import Ticketing.EventService.Service

/-!
# What the event service emits

Library `EventService`. Any number of requests run at the same time. Documents are only added, so
a message is that of a stored event and of the stored venue that the event names.
-/

namespace Ticketing.EventService

open Async Store

namespace Db

/-- The documents are those the service makes, and each message is that of a stored event. -/
structure Sound (cast : String → Option Id) (s : Db) : Prop where
  venue : ∀ v ∈ s.venues.rows, ∃ dto n,
    dto.valid = true ∧ v = (VenueService.document dto).numbered n ∧ v.id < s.nextId
  event : ∀ e ∈ s.events.rows, ∃ dto n, e = Event.document n dto ∧ e.id < s.nextId
  message : ∀ m ∈ s.emitted, ∃ v ∈ s.venues.rows, ∃ e ∈ s.events.rows,
    cast e.venueId = some v.id ∧ m = EventService.message v e

/-- Documents are only added. -/
structure Grows (s s' : Db) : Prop where
  venue : ∀ v ∈ s.venues.rows, v ∈ s'.venues.rows
  event : ∀ e ∈ s.events.rows, e ∈ s'.events.rows

/-- Every database grows from itself. -/
theorem Grows.refl (s : Db) : s.Grows s := ⟨fun _ h ↦ h, fun _ h ↦ h⟩

/-- The empty database is sound. -/
theorem sound_empty (cast : String → Option Id) : empty.Sound cast :=
  ⟨nofun, nofun, nofun⟩

end Db

variable {cast : String → Option Id} {s : Db} {x : Choice} {o : Op}

/-- The capacity that `VenueService.create` computes is the number of seats. -/
theorem capacityOf_eq (rows : List Row) :
    VenueService.capacityOf rows = (rows.map fun row ↦ row.seats.length).sum := by
  unfold VenueService.capacityOf
  rw [← List.foldl_map (f := fun row : Row ↦ row.seats.length) (g := (· + ·))]
  rw [List.sum_eq_foldl]

/-- The stored capacity of a section is the number of its seats. -/
theorem Db.Sound.capacity (h : s.Sound cast) {v : Venue} (hv : v ∈ s.venues.rows) :
    ∀ a ∈ v.sections, a.capacity = (a.rows.map fun row ↦ row.seats.length).sum := by
  obtain ⟨dto, n, -, rfl, -⟩ := h.venue v hv
  intro a ha
  obtain ⟨i, hi, rfl⟩ := List.mem_mapIdx.mp ha
  rw [← capacityOf_eq]
  simp [VenueService.document]

/-- What a request passes to an operation. -/
def Op.Right (cast : String → Option Id) (s : Db) : Op → Prop
  | .saveVenue v => ∃ dto, dto.valid = true ∧ v = VenueService.document dto
  | .emit m => ∃ v ∈ s.venues.rows, ∃ e ∈ s.events.rows,
    cast e.venueId = some v.id ∧ m = message v e
  | _ => True

/-- A key that no document has yet is free. -/
theorem find_fresh {α : Type} {key : α → Id} {t : Table key} {n : Id}
    (h : ∀ r ∈ t.rows, key r < n) : t.find n = none := by
  rw [Table.find, List.find?_eq_none]
  intro r hr
  have := h r hr
  rw [decide_eq_true_eq]
  exact Nat.ne_of_lt this

/-- An old ObjectId is still smaller than the next one. -/
theorem lt_later {n next : Nat} (h : n < next) (k : Nat) : n < next + 1 + k := by
  omega

/-- A new ObjectId is smaller than the next one. -/
theorem lt_next (n k : Nat) : n < n + 1 + k := by
  omega

/-- The rows of a table to which a document with a free key is added. -/
theorem mem_put_fresh {α : Type} {key : α → Id} {t : Table key} {r r' : α}
    (h : t.find (key r) = none) : r' ∈ (t.put r).rows ↔ r' ∈ t.rows ∨ r' = r := by
  rw [Table.rows_put_of_none h, List.mem_append, List.mem_singleton]

/-- An operation keeps the database sound and only adds documents. -/
theorem sound_exec (h : s.Sound cast) (ho : o.Right cast s) :
    (exec cast x o s).2.Sound cast ∧ s.Grows (exec cast x o s).2 := by
  unfold exec
  split
  · exact ⟨h, .refl s⟩
  · cases o with
    | findVenue text =>
      simp only [perform]
      split
      · exact ⟨h, .refl s⟩
      · exact ⟨h, .refl s⟩
    | emit m =>
      refine ⟨⟨h.venue, h.event, ?_⟩, ⟨fun _ hv ↦ hv, fun _ he ↦ he⟩⟩
      intro m' hm
      rcases List.mem_cons.mp hm with rfl | hm
      · exact ho
      · exact h.message m' hm
    | saveVenue v =>
      simp only [perform]
      split
      · obtain ⟨dto, valid, rfl⟩ := ho
        have free : s.venues.find ((VenueService.document dto).numbered s.nextId).id = none := by
          apply find_fresh
          intro v hv
          obtain ⟨_, _, -, -, old⟩ := h.venue v hv
          exact old
        refine ⟨⟨?_, ?_, ?_⟩, ⟨fun v hv ↦ (mem_put_fresh free).mpr (.inl hv), fun _ he ↦ he⟩⟩
        · intro v hv
          rcases (mem_put_fresh free).mp hv with hv | rfl
          · obtain ⟨dto', n, hd, hv', old⟩ := h.venue v hv
            exact ⟨dto', n, hd, hv', lt_later old _⟩
          · exact ⟨dto, s.nextId, valid, rfl, lt_next _ _⟩
        · intro e he
          obtain ⟨dto', n, he', old⟩ := h.event e he
          exact ⟨dto', n, he', lt_later old _⟩
        · intro m hm
          obtain ⟨v, hv, e, he, hm⟩ := h.message m hm
          exact ⟨v, (mem_put_fresh free).mpr (.inl hv), e, he, hm⟩
      · exact ⟨h, .refl s⟩
    | saveEvent dto =>
      simp only [perform]
      split
      · have free : s.events.find (Event.document s.nextId dto).id = none := by
          apply find_fresh
          intro e he
          obtain ⟨_, _, -, old⟩ := h.event e he
          exact old
        refine ⟨⟨?_, ?_, ?_⟩, ⟨fun _ hv ↦ hv, fun e he ↦ (mem_put_fresh free).mpr (.inl he)⟩⟩
        · intro v hv
          obtain ⟨dto', n, hd, hv', old⟩ := h.venue v hv
          exact ⟨dto', n, hd, hv', lt_later old _⟩
        · intro e he
          rcases (mem_put_fresh free).mp he with he | rfl
          · obtain ⟨dto', n, he', old⟩ := h.event e he
            exact ⟨dto', n, he', lt_later old _⟩
          · exact ⟨dto, s.nextId, rfl, lt_next _ _⟩
        · intro m hm
          obtain ⟨v, hv, e, he, hm⟩ := h.message m hm
          exact ⟨v, hv, e, (mem_put_fresh free).mpr (.inl he), hm⟩
      · exact ⟨h, .refl s⟩

/-- The runs of the service: any requests at the same time, under any faults. -/
def rules (cast : String → Option Id) : Rules (service cast) where
  regime := Regime.free _
  Ghost := Unit
  inv c _ := c.state.Sound cast
  guar _ _ c _ c' _ := c.state.Grows c'.state

variable {t : Nat} {j : Job} {L : Type}

private theorem await_safe {P : Db → Prop} {Q : Res o → Db → Prop}
    (right : ∀ s, P s → o.Right cast s)
    (reply : ∀ x s a, s.Sound cast → P s → (exec cast x o s).1 = .ok a → Q a (exec cast x o s).2)
    (stable : ∀ a s s', s.Grows s' → Q a s → Q a s') :
    (rules cast).Holds t j (await o : Code sig L (Res o)) (fun _ c _ ↦ P c.state)
      (fun a _ c _ ↦ Q a c.state) fun _ _ _ _ ↦ True := by
  apply Rules.Holds.await
  intro l
  constructor
  · intro r u i c g c' g' _ _ _ _ grows hq
    cases r with
    | ok a => exact stable a _ _ grows hq
    | error e => trivial
  · intro c g x hs hp _
    have sound := sound_exec (x := x) hs (right _ hp)
    refine ⟨(), sound.1, sound.2, ?_⟩
    have known := fun a ↦ reply x c.state a hs hp
    cases ha : c.answer x o with
    | ok a => exact known a ha
    | error e => trivial

private theorem checkTicketTypes_safe (venue : Venue) (ticketTypes : List CreateTicketTypeDto)
    {P : Db → Prop} :
    (rules cast).Holds t j (checkTicketTypes venue ticketTypes) (fun _ c _ ↦ P c.state)
      (fun _ _ c _ ↦ P c.state) fun _ _ _ _ ↦ True := by
  induction ticketTypes with
  | nil => exact Rules.Holds.ret _ fun _ _ _ _ h ↦ h
  | cons ticketType rest ih =>
    unfold checkTicketTypes
    split
    · exact ih
    · exact Rules.Holds.raise _ fun _ _ _ _ _ ↦ trivial

private theorem findById_safe (text : String) :
    (rules cast).Holds t j (VenueService.findById text) (fun _ _ _ ↦ True)
      (fun v _ c _ ↦ v ∈ c.state.venues.rows ∧ cast text = some v.id) fun _ _ _ _ ↦ True := by
  apply Rules.Holds.bind (I := fun found _ (c : Conf (service cast)) _ ↦ ∀ v, found = some v →
    v ∈ c.state.venues.rows ∧ cast text = some v.id)
  · apply await_safe (o := .findVenue text) (P := fun _ ↦ True)
      (Q := fun (found : Option Venue) s ↦ ∀ v, found = some v →
        v ∈ s.venues.rows ∧ cast text = some v.id)
    · exact fun _ _ ↦ trivial
    · intro x s found _ _ hr v hv
      unfold exec at hr ⊢
      split at hr
      · cases hr
      · simp only [perform] at hr ⊢
        split at hr
        · cases hr
        · next id hid =>
          rw [hv, Except.ok.injEq] at hr
          have row := Table.find_eq_some_iff.mp hr
          simp only [hid]
          exact ⟨row.1, congrArg some row.2.symm⟩
    · exact fun _ _ _ grows h v hv ↦ ⟨grows.venue v (h v hv).1, (h v hv).2⟩
  · intro found
    cases found with
    | none => exact Rules.Holds.raise _ fun _ _ _ _ _ ↦ trivial
    | some v => exact Rules.Holds.ret _ fun _ _ _ _ h ↦ h v rfl

private theorem saveEvent_safe (dto : CreateEventDto) (v : Venue) :
    (rules cast).Holds t j (await (.saveEvent dto) : Code sig L Event)
      (fun _ c _ ↦ v ∈ c.state.venues.rows ∧ cast dto.venueId = some v.id)
      (fun e _ c _ ↦ v ∈ c.state.venues.rows ∧ e ∈ c.state.events.rows ∧ cast e.venueId = some v.id)
      fun _ _ _ _ ↦ True := by
  apply await_safe (o := .saveEvent dto)
    (P := fun s ↦ v ∈ s.venues.rows ∧ cast dto.venueId = some v.id)
    (Q := fun (e : Event) s ↦ v ∈ s.venues.rows ∧ e ∈ s.events.rows ∧ cast e.venueId = some v.id)
  · exact fun _ _ ↦ trivial
  · intro x s e hs h hr
    have grows := (sound_exec (x := x) (o := .saveEvent dto) hs trivial).2
    refine ⟨grows.venue v h.1, ?_⟩
    unfold exec at hr ⊢
    split at hr
    · cases hr
    · simp only [perform] at hr ⊢
      split at hr
      · next valid =>
        cases hr
        rw [if_pos valid]
        exact ⟨Table.mem_put.mpr (.inl rfl), h.2⟩
      · cases hr
  · exact fun _ _ _ grows h ↦ ⟨grows.venue v h.1, grows.event _ h.2.1, h.2.2⟩

private theorem create_safe (dto : CreateEventDto) :
    (rules cast).Holds t j (create dto) (fun _ _ _ ↦ True) (fun _ _ _ _ ↦ True)
      fun _ _ _ _ ↦ True := by
  apply Rules.Holds.bind (findById_safe dto.venueId)
  intro v
  apply Rules.Holds.bind (checkTicketTypes_safe v dto.ticketTypes
    (P := fun s ↦ v ∈ s.venues.rows ∧ cast dto.venueId = some v.id))
  intro _
  apply Rules.Holds.bind (saveEvent_safe dto v)
  intro e
  apply Rules.Holds.bind (I := fun _ _ _ _ ↦ True)
  · apply await_safe (P := fun s ↦ v ∈ s.venues.rows ∧ e ∈ s.events.rows ∧
      cast e.venueId = some v.id) (Q := fun _ _ ↦ True)
    · exact fun _ h ↦ ⟨v, h.1, e, h.2.1, h.2.2, rfl⟩
    · exact fun _ _ _ _ _ _ ↦ trivial
    · exact fun _ _ _ _ _ ↦ trivial
  · exact fun _ ↦ Rules.Holds.ret _ fun _ _ _ _ _ ↦ trivial

private theorem handler_safe (j : Job) :
    (rules cast).Holds t j (handler j) (fun _ _ _ ↦ True) (fun _ _ _ _ ↦ True)
      fun _ _ _ _ ↦ True := by
  cases j with
  | createVenue dto =>
    by_cases valid : dto.valid = true
    · simp only [handler, if_pos valid]
      apply Rules.Holds.bind (I := fun _ _ _ _ ↦ True)
      · apply await_safe (P := fun _ ↦ True) (Q := fun _ _ ↦ True)
        · exact fun _ _ ↦ ⟨dto, valid, rfl⟩
        · exact fun _ _ _ _ _ _ ↦ trivial
        · exact fun _ _ _ _ _ ↦ trivial
      · exact fun _ ↦ Rules.Holds.ret _ fun _ _ _ _ _ ↦ trivial
    · simp only [handler, if_neg valid]
      exact Rules.Holds.raise _ fun _ _ _ _ _ ↦ trivial
  | createEvent dto =>
    apply Rules.Holds.bind (create_safe dto)
    exact fun _ ↦ Rules.Holds.ret _ fun _ _ _ _ _ ↦ trivial

/-- Every reachable database is sound. -/
theorem sound_of_reach {p : Pool (service cast)}
    (hp : Pool.Reach (Regime.free _) (fun s ↦ s = Db.empty) p) : p.conf.state.Sound cast := by
  have sound : (rules cast).Sound (fun s ↦ s = Db.empty) fun _ _ _ _ _ ↦ True := by
    constructor
    · rintro s rfl
      exact ⟨(), Db.sound_empty cast⟩
    · intro t j
      exact Rules.Holds.prog (handler_safe j)
  obtain ⟨_, h⟩ := sound.inv hp
  exact h

end Ticketing.EventService
