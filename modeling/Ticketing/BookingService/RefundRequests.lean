import Ticketing.BookingService.Emissions
import Ticketing.BookingService.RefundFinality

/-!
# Refunds are asked for

Library `BookingService`. The columns of a refund are assigned by `cancelBooking` alone, after it
has compared the user; every other writer copies the row that it has read. So a refund that is
stored, or that the payment service is asked for, was asked for by the owner of the booking.
-/

namespace Ticketing.BookingService

open Async Store

/-- Who asked for the refund of which booking, and under which key. -/
structure Ask where
  bookingId : Id
  userId : String
  key : Option String
  deriving DecidableEq, Repr

/-- What the refund of a booking says that it was asked with. -/
def Booking.ask (b : Booking) : Option Ask :=
  b.refundState.map fun _ ↦ ⟨b.id, b.userId, b.refundIdempotencyKey⟩

/-- Where a thread has an ask from: a row that it has found, or its own job, if the row that it has
found is of the user of the job. -/
inductive Reason (j : Job) (found : List Booking) (a : Ask) : Prop
  | row {b : Booking} (mem : b ∈ found) (states : b.ask = some a)
  | job {b : Booking} {key : String} {reason : Option String} (mem : b ∈ found)
      (id : b.id = a.bookingId) (owner : b.userId = a.userId)
      (asks : j = .cancelBooking a.bookingId a.userId key reason) (under : a.key = some key)

/-- A thread has a reason for the refund of a row, if the row has one. -/
def Justified (j : Job) (found : List Booking) (b : Booking) : Prop :=
  ∀ a, b.ask = some a → Reason j found a

namespace Ask

/-- The rows that a thread has found. -/
def next : List Booking → (o : Op) → sig.Answer o → List Booking
  | found, .findBooking _, .ok (some view) => view.booking :: found
  | found, .findStuckBookings, .ok views => views.map BookingView.booking ++ found
  | found, _, _ => found

/-- Rows are stored, and refunds sent, with a reason. -/
def may (j : Job) (found : List Booking) : Op → Prop
  | .saveBooking b => Justified j found b
  | .commit writes => ∀ b, .booking b ∈ writes → Justified j found b
  | .rpc _ (.refundPayment b key _) =>
    ∃ a, Reason j found a ∧ a.bookingId = b ∧ key = a.key.getD ""
  | _ => True

end Ask

/-- What each thread has found of the refunds. -/
def asking : Monitor service (List Booking) where
  init := []
  next := Ask.next
  may := Ask.may

variable {j : Job} {L : Type} {found : List Booking}

/-- A found row stays found after any operation. -/
theorem Ask.subset_next (o : Op) (a : sig.Answer o) : found ⊆ Ask.next found o a := by
  cases o with
  | findBooking b =>
    rcases a with e | _ | view
    · exact List.Subset.refl _
    · exact List.Subset.refl _
    · exact List.subset_cons_self _ _
  | findStuckBookings =>
    cases a with
    | error e => exact List.Subset.refl _
    | ok views => exact List.subset_append_right _ _
  | _ => exact List.Subset.refl _

/-- A reason stands when more rows are found. -/
theorem Reason.mono {found' : List Booking} {a : Ask} (h : Reason j found a)
    (hs : found ⊆ found') : Reason j found' a := by
  cases h with
  | row mem states => exact .row (hs mem) states
  | job mem id owner asks under => exact .job (hs mem) id owner asks under

namespace Justified

variable {b b' : Booking}

/-- A justified row stays justified when more rows are found. -/
theorem mono {found' : List Booking} (h : Justified j found b) (hs : found ⊆ found') :
    Justified j found' b :=
  fun a ha ↦ (h a ha).mono hs

/-- A row that was found is justified. -/
theorem of_found (h : b ∈ found) : Justified j found b := fun _ ↦ .row h

/-- A row without a refund is justified. -/
theorem of_none (h : b.refundState = none) : Justified j found b := by
  intro a ha
  rw [Booking.ask, h] at ha
  cases ha

/-- Only the columns of the refund count. -/
theorem congr (h : Justified j found b) (hb : b'.ask = b.ask) : Justified j found b' :=
  fun a ha ↦ h a (hb ▸ ha)

/-- The owner of a row that was found may start its refund. -/
theorem of_owner {userId key : String} {reason : Option String} {id : Id} (mem : b ∈ found)
    (hb : b.id = id) (hu : b.userId = userId) (hj : j = .cancelBooking id userId key reason)
    (same : b'.id = id ∧ b'.userId = userId ∧ b'.refundIdempotencyKey = some key) :
    Justified j found b' := by
  intro a ha
  obtain ⟨-, -, rfl⟩ := Option.map_eq_some_iff.mp ha
  obtain ⟨rfl, rfl, under⟩ := same
  exact .job mem hb hu hj under

end Justified

/-! ### What the code does -/

/-- The operation needs no reason. -/
def Op.plain : Op → Bool
  | .saveBooking _ | .commit _ | .rpc _ (.refundPayment _ _ _) => false
  | _ => true

/-- A plain operation needs no reason. -/
theorem may_of_plain {o : Op} (h : o.plain = true) : asking.may j found o := by
  cases o with
  | rpc i r => cases r <;> trivial
  | _ => trivial

/-- Facts that more rows do not spoil. -/
def Growing (P : L → List Booking → Prop) : Prop :=
  ∀ l found found', found ⊆ found' → P l found → P l found'

/-- A plain operation keeps what more rows do not spoil. -/
theorem keeps_of_plain {o : Op} (ho : o.plain = true) {P : L → List Booking → Prop}
    (grow : Growing P) : asking.Keeps j P (await o : Code sig L (Res o)) :=
  Monitor.Holds.await (fun _ _ _ ↦ may_of_plain ho)
    (fun _ l s _ h ↦ grow l s _ (Ask.subset_next _ _) h)
    fun _ l s _ h ↦ grow l s _ (Ask.subset_next _ _) h

/-- Code that awaits plain operations alone needs no reason. -/
theorem true_of_plain {α : Type} {c : Code sig L α} (h : c.Awaits fun o : Op ↦ o.plain = true) :
    asking.Keeps j (fun _ _ ↦ True) c :=
  Monitor.Holds.inside (h.mono fun _ ho _ _ ↦ ⟨may_of_plain ho, fun _ ↦ trivial⟩)

/-- The local row is justified. -/
abbrev Local (j : Job) (l : Booking) (found : List Booking) : Prop := Justified j found l

/-- A justified local row stays justified when more rows are found. -/
theorem growing_local : Growing (Local j) := fun _ _ _ hs h ↦ h.mono hs

/-- The local row is the one that was read, and justified. -/
abbrev Copied (j : Job) (b l : Booking) (found : List Booking) : Prop := l = b ∧ Justified j found b

/-- A justified copy stays justified when more rows are found. -/
theorem growing_copied (b : Booking) : Growing (Copied j b) := fun _ _ _ hs h ↦ ⟨h.1, h.2.mono hs⟩

/-- A plain call keeps every fact that stands when more rows are found. -/
theorem grpc_keeps {α : Type} {i : Option Id} {r : Request} {answer : Reply → Option α}
    (hr : (Op.rpc i r).plain = true) {P : L → List Booking → Prop} (grow : Growing P) :
    asking.Keeps j P (grpc i r answer : Code sig L α) := by
  unfold grpc
  apply Monitor.Holds.bind (keeps_of_plain hr grow)
  intro reply
  split
  · exact Monitor.Holds.ret _ fun _ _ h ↦ h
  · exact Monitor.Holds.raise _ fun _ _ h ↦ h

/-- Read the local row and save it. -/
theorem save_keeps :
    asking.Keeps j (Local j) (do await (.saveBooking (← entity)) : Code sig Booking Unit) := by
  apply Monitor.Holds.read
  intro b
  apply Monitor.Holds.await
  · rintro l s ⟨rfl, h⟩
    exact h
  · exact fun _ _ _ _ h ↦ h.2
  · exact fun _ _ _ _ h ↦ h.2

/-- Assigning columns outside the refund. -/
theorem assign_keeps {f : Booking → Booking} (hf : ∀ b, (f b).ask = b.ask) :
    asking.Keeps j (Local j) (assign f : Code sig Booking Unit) :=
  Monitor.Holds.assign f fun b _ h ↦ h.congr (hf b)

/-! ### `createBooking` -/

/-- Inserting a booking keeps its refund state. -/
theorem refundState_of_insert {b saved : Booking}
    (h : service.Gives (.insertBooking b) (.ok saved)) : saved.refundState = b.refundState := by
  obtain ⟨x, s, h⟩ := h
  rcases exec_cases x (.insertBooking b) s with ⟨-, e, he⟩ | he
  · have := congrArg Prod.fst he
    rw [h] at this
    cases this
  · have := congrArg Prod.fst he
    rw [h] at this
    cases this
    rfl

/-- A row that is found is known from then on. -/
theorem findBooking_asking (b : Id) {P : L → List Booking → Prop} :
    asking.Holds j P (await (.findBooking b) : Code sig L (Option BookingView))
      (fun view _ s ↦ ∀ v, view = some v → v.booking ∈ s) fun _ _ _ ↦ True := by
  apply Monitor.Holds.await
  · exact fun _ _ _ ↦ trivial
  · rintro view l s - - v rfl
    exact List.mem_cons_self
  · exact fun _ _ _ _ _ ↦ trivial

private theorem persistBooking_asking (dto : CreateBookingDto) (seats : List SeatInfo)
    (amount : Money) :
    asking.Holds j (fun (_ : Unit) _ ↦ True) (persistBooking dto seats amount)
      (fun view _ s ↦ ∀ v, view = some v → v.booking ∈ s) fun _ _ _ ↦ True := by
  have plain : ∀ {o : Op}, o.plain = true →
      asking.Keeps j (fun _ _ ↦ True) (await o : Code sig Unit (Res o)) :=
    fun ho ↦ keeps_of_plain ho fun _ _ _ _ h ↦ h
  unfold persistBooking
  apply Monitor.Holds.bind (plain rfl)
  intro _
  apply Monitor.Holds.bind (I := fun _ _ _ ↦ True)
  · apply Monitor.Holds.tryCatch (F := fun _ _ _ ↦ True)
    · unfold persistTransaction
      apply Monitor.Holds.bind (I := fun _ _ _ ↦ True)
      · unfold generateBookingNumber
        apply Monitor.Holds.bind (plain rfl)
        intro timestamp
        apply Monitor.Holds.bind (plain rfl)
        exact fun random ↦ Monitor.Holds.ret _ fun _ _ h ↦ h
      intro bookingNumber
      apply Monitor.Holds.bind (true_of_plain (firstCurrency_awaits seats))
      intro currency
      apply Monitor.Holds.bind (plain rfl)
      intro now
      apply Monitor.Holds.bind (I := fun (saved : Booking) _ _ ↦ saved.refundState = none)
      · apply Monitor.Holds.await
        · exact fun _ _ _ ↦ trivial
        · exact fun saved _ _ given _ ↦ refundState_of_insert given
        · exact fun _ _ _ _ _ ↦ trivial
      intro saved
      split
      · exact Monitor.Holds.raise _ fun _ _ _ ↦ trivial
      · apply Monitor.Holds.bind (I := fun _ _ _ ↦ saved.refundState = none)
        · exact (keeps_of_plain rfl fun _ _ _ _ h ↦ h).post (fun _ _ _ h ↦ h)
            fun _ _ _ _ ↦ trivial
        intro _
        apply Monitor.Holds.bind (I := fun _ _ _ ↦ True)
        · apply Monitor.Holds.await
          · intro _ s fresh b hb
            have same : b = saved := by simpa using hb
            exact same ▸ .of_none fresh
          · exact fun _ _ _ _ _ ↦ trivial
          · exact fun _ _ _ _ _ ↦ trivial
        · exact fun _ ↦ Monitor.Holds.ret _ fun _ _ _ ↦ trivial
    · intro error
      apply Monitor.Holds.bind (plain rfl)
      exact fun _ ↦ Monitor.Holds.raise _ fun _ _ _ ↦ trivial
  · exact fun id ↦ findBooking_asking id

private theorem confirmBooking_asking (eventId userId : String) (seatIds : List String) :
    asking.Keeps j (Local j) (confirmBookingWithOutbox eventId userId seatIds) := by
  unfold confirmBookingWithOutbox
  apply Monitor.Holds.bind (keeps_of_plain rfl growing_local)
  intro _
  apply Monitor.Holds.tryCatch (F := fun _ ↦ Local j)
  · unfold confirmTransaction
    apply Monitor.Holds.bind (assign_keeps fun _ ↦ by rfl)
    intro _
    apply Monitor.Holds.bind (keeps_of_plain rfl growing_local)
    intro now
    apply Monitor.Holds.bind (assign_keeps fun _ ↦ by rfl)
    intro _
    apply Monitor.Holds.read
    intro booking
    apply Monitor.Holds.pre (P := Copied j booking)
    · have done : ∀ l s, Copied j booking l s → Local j l s := by
        rintro _ _ ⟨rfl, h⟩
        exact h
      have plain : ∀ {o : Op}, o.plain = true → asking.Holds j (Copied j booking)
          (await o : Code sig Booking (Res o)) (fun _ ↦ Copied j booking) fun _ ↦ Local j :=
        fun ho ↦ (keeps_of_plain ho (growing_copied booking)).post (fun _ _ _ h ↦ h) fun _ ↦ done
      apply Monitor.Holds.bind (plain rfl)
      intro _
      apply Monitor.Holds.bind (plain rfl)
      intro view
      cases view with
      | none => exact Monitor.Holds.raise _ done
      | some view =>
        apply Monitor.Holds.bind (plain rfl)
        intro _
        apply Monitor.Holds.bind (plain rfl)
        intro _
        apply Monitor.Holds.await
        · intro l s h b hb
          have same : b = booking := by simpa using hb
          exact same ▸ h.2
        · exact fun _ l s _ h ↦ done l s h
        · exact fun _ l s _ h ↦ done l s h
    · rintro l s ⟨rfl, h⟩
      exact ⟨rfl, h⟩
  · intro error
    apply Monitor.Holds.bind (keeps_of_plain rfl growing_local)
    exact fun _ ↦ Monitor.Holds.raise _ fun _ _ h ↦ h

private theorem cancelEntity_asking (reason : String) :
    asking.Keeps j (Local j) (cancelEntity reason) := by
  unfold cancelEntity
  apply Monitor.Holds.bind (assign_keeps fun _ ↦ by rfl)
  intro _
  apply Monitor.Holds.bind (keeps_of_plain rfl growing_local)
  exact fun now ↦ assign_keeps fun _ ↦ by rfl

private theorem payBooking_asking (dto : CreateBookingDto) (amount : Money)
    (seats : List SeatInfo) : asking.Keeps j (Local j) (payBooking dto amount seats) := by
  unfold payBooking
  apply Monitor.Holds.bind (I := fun _ ↦ Local j)
  · cases seats with
    | nil => exact Monitor.Holds.raise _ fun _ _ h ↦ h
    | cons seat rest => exact Monitor.Holds.ret _ fun _ _ h ↦ h
  intro currency
  apply Monitor.Holds.skip
  intro booking
  apply Monitor.Holds.bind (grpc_keeps rfl growing_local)
  intro payment
  cases payment with
  | none => exact Monitor.Holds.raise _ fun _ _ h ↦ h
  | some payment =>
    dsimp only
    split
    · exact confirmBooking_asking _ _ _
    · apply Monitor.Holds.bind (cancelEntity_asking _)
      intro _
      apply Monitor.Holds.bind save_keeps
      intro _
      apply Monitor.Holds.bind (keeps_of_plain rfl growing_local)
      exact fun _ ↦ Monitor.Holds.ret _ fun _ _ h ↦ h

private theorem failBooking_asking (error : Exception) :
    asking.Holds j (Local j) (failBooking error) (fun _ ↦ Local j) fun _ _ _ ↦ True := by
  unfold failBooking
  apply Monitor.Holds.bind (I := fun _ ↦ Local j)
  · exact (cancelEntity_asking _).post (fun _ _ _ h ↦ h) fun _ _ _ _ ↦ trivial
  intro _
  apply Monitor.Holds.read
  intro booking
  apply Monitor.Holds.bind (I := fun _ _ _ ↦ True)
  · apply Monitor.Holds.await
    · rintro _ s ⟨rfl, h⟩
      exact h
    · exact fun _ _ _ _ _ ↦ trivial
    · exact fun _ _ _ _ _ ↦ trivial
  intro _
  apply Monitor.Holds.bind (keeps_of_plain rfl fun _ _ _ _ h ↦ h)
  intro view
  cases view with
  | none => exact Monitor.Holds.raise _ fun _ _ _ ↦ trivial
  | some view =>
    apply Monitor.Holds.bind (keeps_of_plain rfl fun _ _ _ _ h ↦ h)
    exact fun _ ↦ Monitor.Holds.raise _ fun _ _ _ ↦ trivial

private theorem createBooking_asking (dto : CreateBookingDto) :
    asking.Holds j (fun (_ : Unit) _ ↦ True) (createBooking dto) (fun _ _ _ ↦ True)
      fun _ _ _ ↦ True := by
  unfold createBooking
  apply Monitor.Holds.bind (I := fun _ _ _ ↦ True)
  · exact true_of_plain (selectSeats_awaits (fun _ ↦ rfl) (fun _ _ _ ↦ rfl) dto)
  intro seats
  apply Monitor.Holds.bind (persistBooking_asking _ _ _)
  intro saved
  cases saved with
  | none => exact Monitor.Holds.raise _ fun _ _ _ ↦ trivial
  | some view =>
    apply Monitor.Holds.on
    intro _
    apply Monitor.Holds.pre (P := Local j)
    · unfold settleBooking
      apply Monitor.Holds.bind (I := fun _ _ _ ↦ True)
      · apply Monitor.Holds.tryCatch (F := fun _ ↦ Local j)
        · exact (payBooking_asking _ _ _).post (fun _ _ _ _ ↦ trivial) fun _ _ _ h ↦ h
        · exact fun e ↦ (failBooking_asking e).post (fun _ _ _ _ ↦ trivial) fun _ _ _ h ↦ h
      intro _
      apply Monitor.Holds.skip
      exact fun booking ↦ keeps_of_plain rfl fun _ _ _ _ h ↦ h
    · rintro _ s ⟨rfl, known⟩
      exact .of_found (known view rfl)

/-! ### Refunds -/

/-- A refund that goes on says the same of what was asked. -/
theorem ask_of_state {b b' : Booking} (hb : b.refundState ≠ none) (hb' : b'.refundState ≠ none)
    (id : b'.id = b.id) (user : b'.userId = b.userId)
    (key : b'.refundIdempotencyKey = b.refundIdempotencyKey) : b'.ask = b.ask := by
  obtain ⟨st, hst⟩ := Option.ne_none_iff_exists'.mp hb
  obtain ⟨st', hst'⟩ := Option.ne_none_iff_exists'.mp hb'
  simp [Booking.ask, hst, hst', id, user, key]

variable {b : Booking}

/-- The local row is the one that was read; its refund has started, and is justified. -/
abbrev Going (j : Job) (b l : Booking) (found : List Booking) : Prop :=
  Copied j b l found ∧ b.refundState ≠ none

/-- A refund under way stays justified when more rows are found. -/
theorem growing_going (b : Booking) : Growing (Going j b) :=
  fun _ _ _ hs h ↦ ⟨⟨h.1.1, h.1.2.mono hs⟩, h.2⟩

/-- The local row of a refund under way is justified. -/
theorem local_of_going {l : Booking} (h : Going j b l found) : Local j l found := by
  obtain ⟨⟨rfl, justified⟩, -⟩ := h
  exact justified

private theorem advance_asking {α : Type} {f : Booking → Booking}
    (hf : ∀ b, (f b).id = b.id ∧ (f b).userId = b.userId ∧
      (f b).refundIdempotencyKey = b.refundIdempotencyKey ∧ (f b).refundState ≠ none)
    {c : Code sig Booking α} (hc : asking.Keeps j (Local j) c) :
    asking.Holds j (Going j b)
      (do
        assign f
        await (.saveBooking (← entity))
        c) (fun _ ↦ Local j) fun _ ↦ Local j := by
  apply Monitor.Holds.bind (I := fun _ ↦ Local j)
  · apply Monitor.Holds.assign
    rintro l s ⟨⟨rfl, justified⟩, started⟩
    obtain ⟨id, user, key, state⟩ := hf l
    exact justified.congr (ask_of_state started state id user key)
  intro _
  apply Monitor.Holds.bind save_keeps
  exact fun _ ↦ hc

private theorem refundPaymentStep_asking :
    asking.Holds j (Going j b) refundPaymentStep (fun _ ↦ Local j) fun _ ↦ Local j := by
  unfold refundPaymentStep
  apply Monitor.Holds.read
  intro x
  apply Monitor.Holds.pre (P := Going j x)
  · apply Monitor.Holds.bind (I := fun _ ↦ Going j x)
    · unfold grpc
      apply Monitor.Holds.bind (I := fun _ ↦ Going j x)
      · apply Monitor.Holds.await
        · rintro l s ⟨⟨rfl, justified⟩, started⟩
          obtain ⟨st, state⟩ := Option.ne_none_iff_exists'.mp started
          have asks : l.ask = some ⟨l.id, l.userId, l.refundIdempotencyKey⟩ := by
            simp [Booking.ask, state]
          exact ⟨_, justified _ asks, rfl, rfl⟩
        · exact fun _ _ _ _ h ↦ h
        · exact fun _ _ _ _ h ↦ local_of_going h
      intro reply
      split
      · exact Monitor.Holds.ret _ fun _ _ h ↦ h
      · exact Monitor.Holds.raise _ fun _ _ h ↦ local_of_going h
    rintro ⟨success, failureReason⟩
    dsimp only
    split
    · exact advance_asking (fun _ ↦ by simp) (Monitor.Holds.ret _ fun _ _ h ↦ h)
    · exact advance_asking (fun _ ↦ by simp) (Monitor.Holds.raise _ fun _ _ h ↦ h)
  · rintro l s ⟨rfl, ⟨rfl, justified⟩, started⟩
    exact ⟨⟨rfl, justified⟩, started⟩

private theorem releaseSeatsStep_asking (seatIds : List String) :
    asking.Holds j (Going j b) (releaseSeatsStep seatIds) (fun _ ↦ Local j) fun _ ↦ Local j := by
  unfold releaseSeatsStep
  apply Monitor.Holds.skip
  intro x
  apply Monitor.Holds.bind (I := fun _ ↦ Going j b)
  · exact (keeps_of_plain rfl (growing_going b)).post (fun _ _ _ h ↦ h)
      fun _ _ _ h ↦ local_of_going h
  intro _
  exact advance_asking (fun _ ↦ by simp) (Monitor.Holds.ret _ fun _ _ h ↦ h)

private theorem completeStep_asking (items : List BookingItem) :
    asking.Holds j (Going j b) (completeStep items) (fun _ ↦ Local j) fun _ ↦ Local j := by
  have plain : ∀ {b : Booking} {o : Op}, o.plain = true → asking.Holds j (Going j b)
      (await o : Code sig Booking (Res o)) (fun _ ↦ Going j b) fun _ ↦ Local j :=
    fun ho ↦ (keeps_of_plain ho (growing_going _)).post (fun _ _ _ h ↦ h)
      fun _ _ _ h ↦ local_of_going h
  unfold completeStep
  apply Monitor.Holds.bind (plain rfl)
  intro _
  apply Monitor.Holds.bind (I := fun _ ↦ Local j)
  · apply Monitor.Holds.tryCatch (F := fun _ ↦ Local j)
    · unfold completeTransaction
      apply Monitor.Holds.skip
      intro x
      apply Monitor.Holds.bind (plain rfl)
      intro _
      apply Monitor.Holds.bind (I := fun _ l s ↦ l.refundState ≠ none ∧ Local j l s)
      · apply Monitor.Holds.assign
        rintro l s ⟨⟨rfl, justified⟩, started⟩
        exact ⟨started, justified⟩
      intro _
      apply Monitor.Holds.bind (I := fun _ l s ↦ l.refundState ≠ none ∧ Local j l s)
      · apply Monitor.Holds.await
        · exact fun _ _ _ ↦ trivial
        · exact fun _ _ _ _ h ↦ h
        · exact fun _ _ _ _ h ↦ h.2
      intro now
      apply Monitor.Holds.bind (I := fun _ l s ↦ l.refundState ≠ none ∧ Local j l s)
      · apply Monitor.Holds.assign
        rintro l s ⟨started, justified⟩
        have goes := Option.some_ne_none RefundState.completed
        exact ⟨goes, justified.congr (ask_of_state started goes rfl rfl rfl)⟩
      intro _
      apply Monitor.Holds.read
      intro x
      apply Monitor.Holds.pre (P := Going j x)
      · apply Monitor.Holds.bind (plain rfl)
        intro _
        apply Monitor.Holds.bind (plain rfl)
        intro _
        apply Monitor.Holds.await
        · intro l s h b hb
          have same : b = x := by simpa using hb
          exact same ▸ h.1.2
        · exact fun _ _ _ _ h ↦ local_of_going h
        · exact fun _ _ _ _ h ↦ local_of_going h
      · rintro l s ⟨rfl, started, justified⟩
        exact ⟨⟨rfl, justified⟩, started⟩
    · intro error
      apply Monitor.Holds.bind (keeps_of_plain rfl growing_local)
      exact fun _ ↦ Monitor.Holds.raise _ fun _ _ h ↦ h
  · exact fun _ ↦ Monitor.Holds.ret _ fun _ _ h ↦ h

private theorem refundStep_asking (items : List BookingItem) :
    asking.Keeps j (Local j) (refundStep items) := by
  unfold refundStep
  apply Monitor.Holds.tryCatch (F := fun _ ↦ Local j)
  · unfold refundSwitch
    apply Monitor.Holds.read
    intro x
    have copied : ∀ l s, (l = x ∧ Local j l s) → Local j l s := fun _ _ h ↦ h.2
    have going : x.refundState ≠ none → ∀ l s, (l = x ∧ Local j l s) → Going j x l s := by
      rintro started _ _ ⟨rfl, h⟩
      exact ⟨⟨rfl, h⟩, started⟩
    dsimp only
    split
    · next state => exact refundPaymentStep_asking.pre (going (by simp [state]))
    · next state => exact (releaseSeatsStep_asking _).pre (going (by simp [state]))
    · next state => exact (completeStep_asking _).pre (going (by simp [state]))
    · exact Monitor.Holds.ret _ copied
    · exact Monitor.Holds.raise _ copied
    · exact Monitor.Holds.raise _ copied
  · intro error
    unfold failRefundStep
    apply Monitor.Holds.bind (assign_keeps fun _ ↦ by rfl)
    intro _
    apply Monitor.Holds.bind save_keeps
    exact fun _ ↦ Monitor.Holds.raise _ fun _ _ h ↦ h

private theorem processRefund_asking (items : List BookingItem) :
    asking.Keeps j (Local j) (processRefundStateMachine items) := by
  have loop : ∀ n, asking.Keeps j (Local j) (refundLoop items n) := by
    intro n
    induction n with
    | zero => exact Monitor.Holds.ret _ fun _ _ h ↦ h
    | succ n ih =>
      apply Monitor.Holds.bind (refundStep_asking items)
      intro outcome
      cases outcome with
      | again => exact ih
      | done => exact Monitor.Holds.ret _ fun _ _ h ↦ h
  exact loop maxSteps

/-- The view of a booking that is asked for by its number has this number. -/
theorem id_of_findBooking {id : Id} {view : BookingView}
    (h : service.Gives (.findBooking id) (.ok (some view))) : view.booking.id = id := by
  obtain ⟨x, s, h⟩ := h
  rcases exec_cases x (.findBooking id) s with ⟨-, e, he⟩ | he
  · have := congrArg Prod.fst he
    rw [h] at this
    cases this
  · have := congrArg Prod.fst he
    rw [h] at this
    obtain ⟨r, hr, rfl⟩ := Option.map_eq_some_iff.mp (Except.ok.inj this).symm
    exact (Inv.mem_of_find hr).2

private theorem cancelBooking_asking (id : Id) (userId key : String) (reason : Option String)
    (hj : j = .cancelBooking id userId key reason) :
    asking.Holds j (fun (_ : Unit) _ ↦ True) (cancelBooking id userId key reason) (fun _ _ _ ↦ True)
      fun _ _ _ ↦ True := by
  unfold cancelBooking
  apply Monitor.Holds.bind
    (I := fun view _ s ↦ ∀ v : BookingView, view = some v → v.booking ∈ s ∧ v.booking.id = id)
  · apply Monitor.Holds.await
    · exact fun _ _ _ ↦ trivial
    · rintro view l s given - v rfl
      exact ⟨List.mem_cons_self, id_of_findBooking given⟩
    · exact fun _ _ _ _ _ ↦ trivial
  intro view
  cases view with
  | none => exact Monitor.Holds.raise _ fun _ _ _ ↦ trivial
  | some view =>
    obtain ⟨booking, items⟩ := view
    dsimp only
    split
    · exact Monitor.Holds.raise _ fun _ _ _ ↦ trivial
    · next owner =>
      split
      · exact Monitor.Holds.raise _ fun _ _ _ ↦ trivial
      · apply Monitor.Holds.on
        intro _
        apply Monitor.Holds.pre (P := fun l s ↦ l = booking ∧ booking ∈ s ∧ booking.id = id)
        · unfold startRefund
          apply Monitor.Holds.read
          intro x
          have goes : asking.Holds j (Local j)
              (do
                let _ ← processRefundStateMachine items
                entity : Code sig Booking Booking) (fun _ _ _ ↦ True) fun _ _ _ ↦ True := by
            apply Monitor.Holds.bind ((processRefund_asking items).post (fun _ _ _ h ↦ h)
              fun _ _ _ _ ↦ trivial)
            exact fun _ _ _ _ ↦ Monitor.runs_entity.mpr trivial
          dsimp only
          split
          · apply Monitor.Holds.bind (I := fun _ ↦ Local j)
            · apply Monitor.Holds.assign
              rintro l s ⟨-, rfl, mem, hid⟩
              exact .of_owner mem hid (not_not.mp owner) hj ⟨hid, not_not.mp owner, rfl⟩
            intro _
            apply Monitor.Holds.bind (save_keeps.post (fun _ _ _ h ↦ h) fun _ _ _ _ ↦ trivial)
            exact fun _ ↦ goes
          · apply goes.pre
            rintro l s ⟨-, rfl, mem, -⟩
            exact .of_found mem
        · rintro l s ⟨rfl, known⟩
          exact ⟨rfl, known _ rfl⟩

private theorem recover_asking {known : List BookingView} (view : BookingView)
    (mem : view ∈ known) :
    asking.Keeps j (fun (_ : Unit) s ↦ ∀ v ∈ known, v.booking ∈ s)
      (tryCatch
        (Code.on view.booking do
          let _ ← processRefundStateMachine view.items
          pure ())
        fun _ ↦ pure ()) := by
  apply Monitor.Holds.tryCatch (F := fun _ _ s ↦ ∀ v ∈ known, v.booking ∈ s)
  · apply Monitor.Holds.on
    intro _
    have goes := (processRefund_asking (j := j) view.items).frame
      (F := fun s ↦ ∀ v ∈ known, v.booking ∈ s)
      fun s o r h v hv ↦ Ask.subset_next o r (h v hv)
    apply Monitor.Holds.bind (I := fun _ _ s ↦ ∀ v ∈ known, v.booking ∈ s)
    · apply (goes.pre _).post (fun _ _ _ h ↦ h.2) fun _ _ _ h ↦ h.2
      rintro _ s ⟨rfl, found⟩
      exact ⟨.of_found (found view mem), found⟩
    · exact fun _ ↦ Monitor.Holds.ret _ fun _ _ h ↦ h
  · exact fun _ ↦ Monitor.Holds.ret _ fun _ _ h ↦ h

private theorem recoverEach_asking {known : List BookingView} (views : List BookingView)
    (sub : views ⊆ known) :
    asking.Keeps j (fun (_ : Unit) s ↦ ∀ v ∈ known, v.booking ∈ s) (recoverEach views) := by
  induction views with
  | nil => exact Monitor.Holds.ret _ fun _ _ h ↦ h
  | cons view rest ih =>
    obtain ⟨head, tail⟩ := List.cons_subset.mp sub
    unfold recoverEach
    dsimp only
    split
    · exact ih tail
    · exact Monitor.Holds.bind (recover_asking view head) fun _ ↦ ih tail

private theorem recoveryStuckRefunds_asking :
    asking.Holds j (fun (_ : Unit) _ ↦ True) recoveryStuckRefunds (fun _ _ _ ↦ True)
      fun _ _ _ ↦ True := by
  unfold recoveryStuckRefunds
  apply Monitor.Holds.bind (keeps_of_plain rfl fun _ _ _ _ h ↦ h)
  intro entered
  split
  · apply Monitor.Holds.bind (I := fun _ _ _ ↦ True)
    · apply Monitor.Holds.tryCatch (F := fun _ _ _ ↦ True)
      · unfold recoverStuck
        apply Monitor.Holds.bind (I := fun views _ s ↦ ∀ v ∈ views, v.booking ∈ s)
        · apply Monitor.Holds.await
          · exact fun _ _ _ ↦ trivial
          · intro views l s _ _ v hv
            exact List.mem_append_left _ (List.mem_map_of_mem hv)
          · exact fun _ _ _ _ _ ↦ trivial
        · exact fun views ↦ (recoverEach_asking views (List.Subset.refl _)).post
            (fun _ _ _ _ ↦ trivial) fun _ _ _ _ ↦ trivial
      · intro error
        apply Monitor.Holds.bind (keeps_of_plain rfl fun _ _ _ _ h ↦ h)
        exact fun _ ↦ Monitor.Holds.raise _ fun _ _ _ ↦ trivial
    · exact fun _ ↦ keeps_of_plain rfl fun _ _ _ _ h ↦ h
  · exact Monitor.Holds.ret _ fun _ _ _ ↦ trivial

private theorem plain_of_delivers {o : Op} (h : o.delivers = true) : o.plain = true := by
  cases o with
  | rpc i r => cases r <;> trivial
  | _ => trivial

/-- Every job stores and sends refunds with a reason. -/
theorem job_asking (j : Job) :
    asking.Obeys j (service.code j) (fun _ _ ↦ True) asking.init := by
  have holds : asking.Holds j (fun (_ : Unit) _ ↦ True) j.run (fun _ _ _ ↦ True)
      fun _ _ _ ↦ True := by
    cases j with
    | createBooking dto =>
      apply Monitor.Holds.bind (createBooking_asking dto)
      exact fun _ ↦ Monitor.Holds.ret _ fun _ _ _ ↦ trivial
    | cancelBooking id userId key reason =>
      apply Monitor.Holds.bind (cancelBooking_asking id userId key reason rfl)
      exact fun _ ↦ Monitor.Holds.ret _ fun _ _ _ ↦ trivial
    | recoveryStuckRefunds =>
      apply Monitor.Holds.bind recoveryStuckRefunds_asking
      exact fun _ ↦ Monitor.Holds.ret _ fun _ _ _ ↦ trivial
    | processOutbox =>
      apply true_of_plain
      exact (job_awaits .processOutbox).mono fun _ h ↦ plain_of_delivers h
  exact Monitor.obeys_prog.mpr (holds () asking.init trivial)

/-! ### Who asked -/

variable {p p' : Pool service}

/-- The owner of the booking asked for its refund under the key. -/
def RefundAsked (p : Pool service) (b : Id) (key : String) : Prop :=
  ∃ r, p.conf.state.bookings.find b = some r ∧
    ∃ t reason q, p.At t (.cancelBooking b r.userId key reason) q

/-- A booking is stored with this owner, who asked for its refund under the key. -/
private def Founded (p : Pool service) (a : Ask) : Prop :=
  ∃ key, a.key = some key ∧
    ∃ r, p.conf.state.bookings.find a.bookingId = some r ∧ r.userId = a.userId ∧
      ∃ t reason q, p.At t (.cancelBooking a.bookingId a.userId key reason) q

/-- Bookings keep their owners, and threads their jobs. -/
private structure Keeping (p p' : Pool service) : Prop where
  rows : ∀ b r, p.conf.state.bookings.find b = some r →
    ∃ r', p'.conf.state.bookings.find b = some r' ∧ r'.userId = r.userId
  jobs : ∀ t j q, p.At t j q → ∃ q', p'.At t j q'

private theorem Founded.keep {a : Ask} (h : Founded p a) (keep : Keeping p p') : Founded p' a := by
  obtain ⟨key, under, r, hr, user, t, reason, q, ht⟩ := h
  obtain ⟨r', hr', same⟩ := keep.rows _ _ hr
  obtain ⟨q', ht'⟩ := keep.jobs _ _ _ ht
  exact ⟨key, under, r', hr', same.trans user, t, reason, q', ht'⟩

private theorem Founded.asked {a : Ask} (h : Founded p a) :
    RefundAsked p a.bookingId (a.key.getD "") := by
  obtain ⟨key, under, r, hr, user, asked⟩ := h
  rw [under]
  exact ⟨r, hr, by rwa [user]⟩

private theorem RefundAsked.keep {b : Id} {key : String} (h : RefundAsked p b key)
    (keep : Keeping p p') : RefundAsked p' b key := by
  obtain ⟨r, hr, t, reason, q, ht⟩ := h
  obtain ⟨r', hr', same⟩ := keep.rows _ _ hr
  obtain ⟨q', ht'⟩ := keep.jobs _ _ _ ht
  exact ⟨r', hr', t, reason, q', by rwa [same]⟩

/-- What holds of the refunds in every run. -/
private structure Requested (p : Pool service) : Prop where
  rows : ∀ r ∈ p.conf.state.bookings.rows, ∀ a, r.ask = some a → Founded p a
  found : ∀ t, ∀ b ∈ asking.state t p.conf.log,
    (∃ r, p.conf.state.bookings.find b.id = some r ∧ r.userId = b.userId) ∧
      ∀ a, b.ask = some a → Founded p a
  sent : ∀ ev ∈ p.conf.log, ∀ i b key reason, ev.op = .rpc i (.refundPayment b key reason) →
    RefundAsked p b key

namespace Requested

/-- A thread with a reason is right. -/
theorem founded (h : Requested p) {t : Nat} {j : Job} {q : service.Program} (ht : p.At t j q)
    {a : Ask} (reason : Reason j (asking.state t p.conf.log) a) : Founded p a := by
  cases reason with
  | row mem states => exact (h.found t _ mem).2 a states
  | @job _ key reason mem id owner asks under =>
    obtain ⟨⟨r, hr, user⟩, -⟩ := h.found t _ mem
    subst asks
    exact ⟨key, under, r, id ▸ hr, user.trans owner, t, reason, q, ht⟩

/-- A row that a thread finds is stored. -/
theorem mem_next {found : List Booking} {x : Choice} {o : Op} {s : Db} {b : Booking}
    (h : b ∈ Ask.next found o (exec x o s).1) : b ∈ found ∨ b ∈ s.bookings.rows := by
  rcases exec_cases x o s with ⟨-, e, he⟩ | he
  · rw [he] at h
    have same : Ask.next found o (.error e) = found := by cases o <;> rfl
    exact .inl (same ▸ h)
  · rw [he] at h
    cases o with
    | findBooking id =>
      simp only [perform] at h
      cases hf : s.bookings.find id with
      | none =>
        rw [hf] at h
        exact .inl h
      | some r =>
        rw [hf] at h
        rcases List.mem_cons.mp h with rfl | h
        · exact .inr (Inv.mem_of_find hf).1
        · exact .inl h
    | findStuckBookings =>
      rcases List.mem_append.mp h with h | h
      · obtain ⟨v, hv, rfl⟩ := List.mem_map.mp h
        obtain ⟨r, hr, rfl⟩ := List.mem_map.mp hv
        exact .inr (List.mem_filter.mp hr).1
      · exact .inl h
    | _ => exact .inl h

/-- A row that an operation stores has a reason. -/
theorem reason_of_stored {j : Job} {found : List Booking} {o : Op} {a : sig.Answer o} {b : Id}
    {r : Booking} (may : Ask.may j found o) (h : o.stored b a = some r) : Justified j found r := by
  cases o with
  | saveBooking r' =>
    cases a with
    | error e => cases h
    | ok _ =>
      simp only [Op.stored, Option.ite_none_right_eq_some, Option.some.injEq] at h
      exact h.2 ▸ may
  | commit writes =>
    cases a with
    | error e => cases h
    | ok _ =>
      obtain ⟨w, hw, stored⟩ := List.exists_of_findSome?_eq_some h
      cases w with
      | booking r' =>
        simp only [Write.stored, Option.ite_none_right_eq_some, Option.some.injEq] at stored
        exact stored.2 ▸ may r' hw
      | _ => cases stored
  | _ => cases a <;> cases h

/-- A new job keeps the rows and the jobs. -/
theorem keeping_spawn (p : Pool service) (j : Job) : Keeping p (p.spawn j) where
  rows _ r hr := ⟨r, hr, rfl⟩
  jobs := (Pool.extends_spawn p j).job

/-- A step keeps the bookings' owners. -/
theorem keeping_advance {t : Nat} {j : Job} {x : Choice} {o : Op}
    {k : sig.Answer o → service.Program} (hp : Reach Mode.none.regime p)
    (ht : p.At t j (.op o k)) : Keeping p (p.advance t j x o k) where
  rows _ r hr := by
    obtain ⟨owner, owner', -, move⟩ := reach_move (x := x) hp ht
    obtain ⟨r', hr', order, -⟩ := (move.lasting hr).row
    simp only [Booking.order, Prod.mk.injEq] at order
    exact ⟨r', hr', order.2.2.1⟩
  jobs := (Pool.extends_advance ht).job

/-- Every operation keeps the refunds requested. -/
theorem advance (h : Requested p) {t : Nat} {j : Job} {x : Choice} {o : Op}
    {k : sig.Answer o → service.Program} (hp : Reach Mode.none.regime p)
    (ht : p.At t j (.op o k)) (may : Ask.may j (asking.state t p.conf.log) o) :
    Requested (p.advance t j x o k) := by
  have keep : Keeping p (p.advance t j x o k) := keeping_advance hp ht
  obtain ⟨owner, owner', before, move⟩ := reach_move (x := x) hp ht
  constructor
  · intro r hr a ha
    apply Founded.keep _ keep
    have now := Inv.find_of_mem hr
    rcases move.bookings r.id with same | ⟨r', hr', stored, -⟩
    · exact h.rows r (Inv.mem_of_find (same.symm.trans now)).1 a ha
    · cases Option.some.inj (hr'.symm.trans now)
      exact h.founded ht (reason_of_stored may stored a ha)
  · intro u b hb
    have known : (∃ r, p.conf.state.bookings.find b.id = some r ∧ r.userId = b.userId) ∧
        ∀ a, b.ask = some a → Founded p a := by
      by_cases hu : u = t
      · subst hu
        rw [show asking.state u (p.advance u j x o k).conf.log = _ from
          Monitor.state_self asking u j o _ p.conf.log] at hb
        rcases mem_next hb with old | stored
        · exact h.found u b old
        · exact ⟨⟨b, Inv.find_of_mem stored, rfl⟩, h.rows b stored⟩
      · rw [show asking.state u (p.advance t j x o k).conf.log = _ from
          Monitor.state_other asking (Ne.symm hu)] at hb
        exact h.found u b hb
    obtain ⟨⟨r, hr, user⟩, founded⟩ := known
    obtain ⟨r', hr', same⟩ := keep.rows _ _ hr
    exact ⟨⟨r', hr', same.trans user⟩, fun a ha ↦ (founded a ha).keep keep⟩
  · intro ev hev i b key reason hop
    apply RefundAsked.keep _ keep
    rcases List.mem_cons.mp hev with rfl | old
    · subst hop
      obtain ⟨a, why, rfl, rfl⟩ := may
      exact (h.founded ht why).asked
    · exact h.sent ev old i b key reason hop

/-- The refunds of every run were requested. -/
theorem of_reach (hp : Reach Mode.none.regime p) : Requested p := by
  induction hp with
  | start hs =>
    subst hs
    constructor
    · intro r hr
      cases hr
    · intro t b hb
      cases hb
    · intro ev hev
      cases hev
  | @spawn p j hp _ ih =>
    have keep := keeping_spawn p j
    constructor
    · exact fun r hr a ha ↦ (ih.rows r hr a ha).keep keep
    · exact fun t b hb ↦
        ⟨(ih.found t b hb).1, fun a ha ↦ ((ih.found t b hb).2 a ha).keep keep⟩
    · exact fun ev hev i b key reason hop ↦ (ih.sent ev hev i b key reason hop).keep keep
  | run hp ht _ ih =>
    have watched := Monitor.watches_of_reach (Q := fun _ _ _ ↦ True) job_asking hp
    exact ih.advance hp ht (watched.may ht)

end Requested

/-- A refund that was asked for stays so when a job arrives. -/
theorem RefundAsked.spawn {b : Id} {key : String} (h : RefundAsked p b key) (j : Job) :
    RefundAsked (p.spawn j) b key :=
  h.keep (Requested.keeping_spawn p j)

/-- A refund that was asked for stays so when a thread goes on. -/
theorem RefundAsked.advance {b : Id} {key : String} (h : RefundAsked p b key) {t : Nat} {j : Job}
    {x : Choice} {o : Op} {k : sig.Answer o → service.Program} (hp : Reach Mode.none.regime p)
    (ht : p.At t j (.op o k)) : RefundAsked (p.advance t j x o k) b key :=
  h.keep (Requested.keeping_advance hp ht)

/-- A refund that a thread is about to send was asked for. -/
theorem asked_of_refund (hp : Reach Mode.none.regime p) {t : Nat} {j : Job} {i : Option Id}
    {b : Id} {key reason : String}
    {k : sig.Answer (.rpc i (.refundPayment b key reason)) → service.Program}
    (ht : p.At t j (.op (.rpc i (.refundPayment b key reason)) k)) : RefundAsked p b key := by
  obtain ⟨a, why, rfl, rfl⟩ :=
    (Monitor.watches_of_reach (Q := fun _ _ _ ↦ True) job_asking hp).may ht
  exact ((Requested.of_reach hp).founded ht why).asked

/-- Whatever fails and however the jobs interleave, no refund is stored or sent to the payment
service that the owner of the booking has not asked for, under the key of the request. -/
theorem refunds_requested (hp : Reach (.free service) p) :
    (∀ r ∈ p.conf.state.bookings.rows, r.refundState ≠ none →
      ∃ key, r.refundIdempotencyKey = some key ∧ RefundAsked p r.id key) ∧
    ∀ ev ∈ p.conf.log, ∀ i b key reason, ev.op = .rpc i (.refundPayment b key reason) →
      RefundAsked p b key := by
  have requested := Requested.of_reach hp.free
  constructor
  · intro r hr started
    obtain ⟨st, state⟩ := Option.ne_none_iff_exists'.mp started
    have founded := requested.rows r hr ⟨r.id, r.userId, r.refundIdempotencyKey⟩
      (by simp [Booking.ask, state])
    have asked := founded.asked
    obtain ⟨key, under, -⟩ := founded
    have same : r.refundIdempotencyKey.getD "" = key := congrArg (Option.getD · "") under
    exact ⟨key, under, same ▸ asked⟩
  · exact requested.sent

/-- The refund of a booking is under way; its owner asked for it. -/
theorem refunds_requested_started :
    ∃ p, Pool.play (.free service) (sampleBooking 0 0 "A" ++ sampleRefund 1 "r")
        (.start Db.empty) = some p ∧
      ∃ r ∈ p.conf.state.bookings.rows, r.refundState = some .paymentRefunded ∧
        ∃ key, r.refundIdempotencyKey = some key ∧ RefundAsked p r.id key := by
  have played : (Pool.play (.free service) (sampleBooking 0 0 "A" ++ sampleRefund 1 "r")
      (.start Db.empty)).any fun p ↦
        p.conf.state.bookings.rows.any fun r ↦ r.refundState = some .paymentRefunded := by
    decide +kernel
  simp only [Option.any_eq_true, List.any_eq_true, decide_eq_true_eq] at played
  obtain ⟨p, hp, r, hr, state⟩ := played
  refine ⟨p, hp, r, hr, state, ?_⟩
  exact (refunds_requested (Pool.reach_of_play rfl hp)).1 r hr (by simp [state])

end Ticketing.BookingService
