import SpaceBooking.Proofs.Answers

/-!
# What requests do

A request for one booking finds something out, then makes one change to the store, and then
publishes it.

* `Action.Cautious` — the class of actions that have stored and published nothing if they fail.
* `book_ok`, `rebook_ok`, `cancel_ok`, `approve_ok`, `decline_ok` — what a request that was carried
  out did.
* `undecided_ok` — what somebody can decide on, and who that is.
* `placeNew_of_upFrom`, `placeChange_of_upFrom` — if no call fails, the store decides.
-/

namespace SpaceBooking

open SpaceBooking.Action

variable {c : Conditions} {w w' : World}

/-- Nothing was stored or published. Identifiers may have been given out. -/
structure World.Untouched (w w' : World) : Prop where
  store : w'.store = w.store
  minted : w.minted ≤ w'.minted
  published : w'.published = w.published

theorem World.Unchanged.untouched (h : w.Unchanged w') : w.Untouched w' :=
  ⟨h.store, Nat.le_of_eq h.minted.symm, h.published⟩

theorem World.Unchanged.trans_untouched {v : World} (h : w.Unchanged v) (h' : v.Untouched w') :
    w.Untouched w' :=
  ⟨h'.store.trans h.store, h.minted ▸ h'.minted, h'.published.trans h.published⟩

/-- The world holds a store, and has given identifiers out and published events. -/
structure World.Holds (w : World) (s : Store) (minted : Nat) (published : List Event) : Prop where
  store : w.store = s
  minted : w.minted = minted
  published : w.published = published

namespace Action

variable {ε α β : Type}

/-! ## Failing without a trace -/

/-- If the action fails, nothing was stored or published. -/
class Cautious (x : Action ε α) : Prop where
  untouched : ∀ {c : Conditions} {w w' : World} {e : ε}, x c w = (.error e, w') → w.Untouched w'

/-- The action does not fail. -/
class Safe (x : Action ε α) : Prop where
  ne_error : ∀ {c : Conditions} {w w' : World} {e : ε}, x c w ≠ (.error e, w')

theorem Cautious.bind_of_reads {x : Action ε α} {f : α → Action ε β} (hx : Reads .reliable x)
    (hf : ∀ a, Cautious (f a)) : Cautious (x >>= f) where
  untouched h := by
    rcases bind_eq_error_iff.1 h with h | ⟨a, v, hrun, h⟩
    · exact (Reads.of_run h).untouched
    · exact (Reads.of_run hrun).trans_untouched ((hf a).untouched h)

/-- What comes after a change must not fail. -/
theorem Cautious.bind_of_safe {x : Action ε α} {f : α → Action ε β} (hx : Cautious x)
    (hf : ∀ a, Safe (f a)) : Cautious (x >>= f) where
  untouched {c w w' e} h := by
    rcases bind_eq_error_iff.1 h with h | ⟨a, v, -, h⟩
    · exact hx.untouched h
    · exact absurd h (hf a).ne_error

/-- An identifier that was given out leaves no other trace. -/
theorem Cautious.bind_newId {f : Id → Action ε β} (hf : ∀ id, Cautious (f id)) :
    Cautious (newId >>= f) where
  untouched h := by
    rcases bind_eq_error_iff.1 h with h | ⟨a, v, hrun, h⟩
    · cases h
    · cases hrun
      have := (hf _).untouched h
      exact ⟨this.store, Nat.le_of_succ_le this.minted, this.published⟩

theorem Safe.bind {x : Action ε α} {f : α → Action ε β} (hx : Safe x) (hf : ∀ a, Safe (f a)) :
    Safe (x >>= f) where
  ne_error h := by
    rcases bind_eq_error_iff.1 h with h | ⟨a, v, -, h⟩
    · exact hx.ne_error h
    · exact (hf a).ne_error h

instance (a : α) : Safe (pure a : Action ε α) := ⟨fun h => nomatch h⟩

instance (m : Metric) : Safe (count m : Action ε Unit) := ⟨fun h => nomatch h⟩

instance (e : Event) : Safe (publish e : Action ε Unit) := ⟨fun h => nomatch h⟩

instance (cond : Bool) {x : Action ε Unit} [hx : Safe x] : Safe (onlyIf cond x) := by
  cases cond
  · exact inferInstanceAs (Safe (pure ()))
  · exact hx

theorem change_apply (call : StoreCall) (step : Store → Except StoreError Store) (c : Conditions)
    (w : World) :
    change call step c w =
      match c.outage call (w.calls.count call), step w.store with
      | some e, _ => (.error e, { w with calls := w.calls.bump call })
      | none, .ok s => (.ok (), { w with store := s, calls := w.calls.bump call })
      | none, .error e => (.error e, { w with calls := w.calls.bump call }) := by
  cases ho : c.outage call (w.calls.count call) with
  | some e => simp only [change, bind, reach, ho]
  | none => cases hs : step w.store <;> simp only [change, bind, reach, ho, hs]

/-- A change that was made is that of the store. -/
theorem change_ok {call : StoreCall} {step : Store → Except StoreError Store}
    (h : change call step c w = (.ok (), w')) :
    ∃ s, step w.store = .ok s ∧ w'.Holds s w.minted w.published := by
  rw [change_apply] at h
  split at h
  · cases h
  · rename_i s _ hs
    cases h
    exact ⟨s, hs, rfl, rfl, rfl⟩
  · cases h

/-- A change that was made was called for. -/
theorem up_of_change_ok {call : StoreCall} {step : Store → Except StoreError Store}
    (h : change call step c w = (.ok (), w')) : ∃ n, c.outage call n = none := by
  rw [change_apply] at h
  split at h
  · cases h
  · rename_i hup _
    exact ⟨_, hup⟩
  · cases h

theorem change_of_upFrom (hu : c.UpFrom w) (call : StoreCall)
    (step : Store → Except StoreError Store) :
    (change call step c w).1 = (step w.store).map fun _ => () := by
  rw [change_apply, hu call _ (Nat.le_refl _)]
  cases step w.store <;> rfl

instance (call : StoreCall) (step : Store → Except StoreError Store) :
    Cautious (change call step) where
  untouched h := by
    rw [change_apply] at h
    split at h <;> cases h
    · exact ⟨rfl, Nat.le_refl _, rfl⟩
    · exact ⟨rfl, Nat.le_refl _, rfl⟩

theorem lift_apply (x : Action StoreError α) (c : Conditions) (w : World) :
    (liftM x : Action Failure α) c w = ((x c w).1.mapError Failure.ofStore, (x c w).2) := rfl

theorem lift_eq_ok_iff {x : Action StoreError α} {a : α} :
    (liftM x : Action Failure α) c w = (.ok a, w') ↔ x c w = (.ok a, w') := by
  rw [lift_apply]
  rcases x c w with ⟨_ | a, v⟩ <;> simp [Except.mapError]

theorem lift_eq_error_iff {x : Action StoreError α} {e : Failure} :
    (liftM x : Action Failure α) c w = (.error e, w') ↔
      ∃ e', x c w = (.error e', w') ∧ e = Failure.ofStore e' := by
  rw [lift_apply]
  rcases x c w with ⟨e' | a, v⟩
  · constructor
    · rintro ⟨⟩
      exact ⟨e', rfl, rfl⟩
    · rintro ⟨_, ⟨⟩, rfl⟩
      rfl
  · simp [Except.mapError]

/-- A change that the store does not refuse fails only if the call does. -/
theorem change_fails {call : StoreCall} {step : Store → Except StoreError Store} {s : Store}
    {failure : Failure}
    (h : (liftM (change call step) : Action Failure Unit) c w = (.error failure, w'))
    (hs : step w.store = .ok s) : c.Fails call failure := by
  obtain ⟨e, he, rfl⟩ := lift_eq_error_iff.1 h
  rw [change_apply] at he
  split at he
  · rename_i hdown
    cases he
    exact ⟨_, _, hdown, rfl⟩
  · cases he
  · rename_i hrefused
    rw [hs] at hrefused
    cases hrefused

/-- Without failing calls, what the store says to a change decides, if nothing fails after it. -/
theorem change_bind_of_upFrom (hu : c.UpFrom w) (call : StoreCall)
    (step : Store → Except StoreError Store) {f : Unit → Action Failure β} {b : β}
    (hf : ∀ v, (f () c v).1 = .ok b) :
    (((liftM (change call step) : Action Failure Unit) >>= f) c w).1 =
      ((step w.store).mapError Failure.ofStore).map fun _ => b := by
  rw [bind_apply, lift_apply]
  have hchange := change_of_upFrom hu call step
  rcases hrun : change call step c w with ⟨e | _, v⟩
  · rw [hrun] at hchange
    cases hs : step w.store with
    | error e' =>
      rw [hs] at hchange
      cases hchange
      rfl
    | ok s =>
      rw [hs] at hchange
      cases hchange
  · rw [hrun] at hchange
    cases hs : step w.store with
    | error e' =>
      rw [hs] at hchange
      cases hchange
    | ok s => exact hf v

theorem newId_apply (c : Conditions) (w : World) :
    (newId : Action ε Id) c w = (.ok (c.mint w.minted), { w with minted := w.minted + 1 }) := rfl

theorem publish_apply (e : Event) (c : Conditions) (w : World) :
    (publish e : Action ε Unit) c w = (.ok (), { w with published := w.published ++ [e] }) := rfl

theorem onlyIf_publish_apply (cond : Bool) (e : Event) (c : Conditions) (w : World) :
    (onlyIf cond (publish e) : Action ε Unit) c w =
      (.ok (), { w with published := w.published ++ if cond then [e] else [] }) := by
  cases cond
  · simp only [onlyIf, Bool.false_eq_true, if_false, List.append_nil, pure_apply]
  · rfl

instance {x : Action StoreError α} [hx : Cautious x] : Cautious (liftM x : Action Failure α) where
  untouched h := by
    obtain ⟨e', h, -⟩ := lift_eq_error_iff.1 h
    exact hx.untouched h

/-- A change that the store does not refuse is made, unless the call fails. -/
theorem change_run {call : StoreCall} {step : Store → Except StoreError Store} {s : Store}
    {o : Except Failure Unit} (h : (liftM (change call step) : Action Failure Unit) c w = (o, w'))
    (hs : step w.store = .ok s) :
    (∃ failure, o = .error failure ∧ c.Fails call failure ∧ w.Untouched w') ∨
      o = .ok () ∧ w'.Holds s w.minted w.published := by
  rcases o with failure | _
  · exact .inl ⟨failure, rfl, change_fails h hs, Cautious.untouched h⟩
  · obtain ⟨s', hs', hw'⟩ := change_ok (lift_eq_ok_iff.1 h)
    rw [hs] at hs'
    cases hs'
    exact .inr ⟨rfl, hw'⟩

/-- The same, with something published after the change. -/
theorem change_publish_run {call : StoreCall} {step : Store → Except StoreError Store} {s : Store}
    {e : Event} {o : Except Failure Unit}
    (h : ((liftM (change call step) : Action Failure Unit) >>= fun _ => publish e) c w = (o, w'))
    (hs : step w.store = .ok s) :
    (∃ failure, o = .error failure ∧ c.Fails call failure ∧ w.Untouched w') ∨
      o = .ok () ∧ w'.Holds s w.minted (w.published ++ [e]) := by
  rcases hrun : (liftM (change call step) : Action Failure Unit) c w with ⟨o₁, v⟩
  rcases change_run hrun hs with ⟨failure, rfl, hfails, hv⟩ | ⟨rfl, hv⟩
  · rw [bind_apply, hrun] at h
    cases h
    exact .inl ⟨failure, rfl, hfails, hv⟩
  · rw [bind_of_ok hrun, publish_apply] at h
    cases h
    refine .inr ⟨rfl, hv.store, hv.minted, ?_⟩
    show v.published ++ [e] = _
    rw [hv.published]

end Action

namespace Repository

instance (b : Booking) : Cautious (insertBooking b) := inferInstanceAs (Cautious (change _ _))
instance (b : Booking) : Cautious (updateBooking b) := inferInstanceAs (Cautious (change _ _))
instance (id : Id) : Cautious (deleteBooking id) := inferInstanceAs (Cautious (change _ _))
instance (series : Series) : Cautious (insertSeries series) :=
  inferInstanceAs (Cautious (change _ _))
instance (id : Id) : Cautious (deleteSeries id) := inferInstanceAs (Cautious (change _ _))

end Repository

namespace Service

/-! ## Measuring -/

theorem measured_apply {α : Type} (request : MeasuredRequest) (act : Action Failure α)
    (c : Conditions) (w : World) :
    ∃ m, measured request act c w = ((act c w).1, { (act c w).2 with metrics := m }) := by
  rcases hrun : act c w with ⟨e | a, v⟩
  · cases hreason : e.reason <;>
      exact ⟨_, by simp only [measured, bind_apply, attempt, hrun, count, countOutcome, hreason,
        pure_apply, Action.ofExcept, fail]; rfl⟩
  · exact ⟨_, by simp only [measured, bind_apply, attempt, hrun, count, countOutcome,
      Action.ofExcept, pure_apply]; rfl⟩

theorem measured_fst {α : Type} (request : MeasuredRequest) (act : Action Failure α)
    (c : Conditions) (w : World) : (measured request act c w).1 = (act c w).1 := by
  obtain ⟨m, hm⟩ := measured_apply request act c w
  rw [hm]

theorem measured_intro {α : Type} {request : MeasuredRequest} {act : Action Failure α}
    {P : Except Failure α → World → Prop} (h : P (act c w).1 (act c w).2)
    (hm : ∀ o v m, P o v → P o { v with metrics := m }) :
    P (measured request act c w).1 (measured request act c w).2 := by
  obtain ⟨m, hrun⟩ := measured_apply request act c w
  rw [hrun]
  exact hm _ _ m h

theorem measured_ok {α : Type} {request : MeasuredRequest} {act : Action Failure α} {a : α}
    (h : measured request act c w = (.ok a, w')) :
    ∃ v m, act c w = (.ok a, v) ∧ w' = { v with metrics := m } := by
  obtain ⟨m, hm⟩ := measured_apply request act c w
  rw [hm] at h
  rcases hrun : act c w with ⟨e | a', v⟩
  · rw [hrun] at h
    cases h
  · rw [hrun] at h
    cases h
    exact ⟨v, m, rfl, rfl⟩

instance cautious_measured {α : Type} (request : MeasuredRequest) {act : Action Failure α}
    [hx : Cautious act] : Cautious (measured request act) where
  untouched {c w w' e} h := by
    obtain ⟨m, hm⟩ := measured_apply request act c w
    rcases hrun : act c w with ⟨e' | a, v⟩
    · rw [hm, hrun] at h
      cases h
      have := hx.untouched hrun
      exact ⟨this.store, this.minted, this.published⟩
    · rw [hm, hrun] at h
      cases h

/-! ## Publishing -/

/-- What is published about a new booking. -/
def createdEvents (b : Booking) : List Event :=
  .booking .created b :: if b.approved then [] else [.booking .approvalRequested b]

instance (b : Booking) : Safe (publishCreated b) := by
  unfold publishCreated
  exact .bind inferInstance fun _ => inferInstance

theorem publishCreated_apply (b : Booking) (c : Conditions) (w : World) :
    publishCreated b c w = (.ok (), { w with published := w.published ++ createdEvents b }) := by
  rw [publishCreated, bind_of_ok (publish_apply _ _ _), onlyIf_publish_apply]
  cases h : b.approved <;> simp [createdEvents, h]

/-! ## Booking -/

/-- **What a request that passed admission shows**, whatever the store reported as conflicts. -/
theorem admitNew_ok {actor : User} {req : BookingRequest} {a : Admitted}
    (h : admitNew actor req c w = (.ok a, w')) :
    w.Unchanged w' ∧ contextAt c w.store actor req.space = .ok a.ctx ∧
      ownerAt w.store actor req.onBehalfOf = .ok a.owner ∧
      spanAt a.ctx.zone req.enter req.leave = .ok a.span ∧ a.subject = req.subject := by
  refine ⟨Reads.of_run h, ?_⟩
  unfold admitNew at h
  obtain ⟨ctx, u₁, hctx, h⟩ := bind_eq_ok_iff.1 h
  obtain ⟨owner, u₂, howner, h⟩ := bind_eq_ok_iff.1 h
  obtain ⟨span, u₃, hspan, h⟩ := bind_eq_ok_iff.1 h
  obtain ⟨_, u₄, -, h⟩ := bind_eq_ok_iff.1 h
  obtain ⟨_, u₅, -, h⟩ := bind_eq_ok_iff.1 h
  cases h
  obtain ⟨hu₁, hctx⟩ := Reads.of_ok hctx
  obtain ⟨-, howner⟩ := Reads.of_ok howner
  obtain ⟨-, hspan⟩ := Reads.of_ok hspan
  rw [answer_spaceContext] at hctx
  rw [answer_ownerFor, hu₁.store] at howner
  rw [answer_requestSpan] at hspan
  exact ⟨hctx, howner, hspan, rfl⟩

instance (a : Admitted) : Cautious (placeNew a) := by
  unfold placeNew
  refine .bind_of_reads inferInstance fun approved => .bind_newId fun id => ?_
  exact .bind_of_safe inferInstance fun _ => .bind inferInstance fun _ => inferInstance

instance (actor : User) (req : BookingRequest) : Cautious (book actor req) := by
  have : Cautious (do placeNew (← admitNew actor req)) := .bind_of_reads inferInstance inferInstance
  unfold book
  infer_instance

theorem placeNew_ok {a : Admitted} {b : Booking} (h : placeNew a c w = (.ok b, w')) :
    b = a.booking (c.mint w.minted) (approvedAt w.store a.ctx) ∧
      ∃ s, w.store.insertBooking b = .ok s ∧
        w'.Holds s (w.minted + 1) (w.published ++ createdEvents b) := by
  unfold placeNew at h
  obtain ⟨approved, v, happroved, h⟩ := bind_eq_ok_iff.1 h
  obtain ⟨hv, hans⟩ := Reads.of_ok (lift_eq_ok_iff.1 happroved)
  rw [answer_startsApproved] at hans
  cases hans
  obtain ⟨id, u, hid, h⟩ := bind_eq_ok_iff.1 h
  cases hid
  obtain ⟨_, u', hinsert, h⟩ := bind_eq_ok_iff.1 h
  obtain ⟨s, hs, hu⟩ := change_ok (lift_eq_ok_iff.1 hinsert)
  obtain ⟨_, z, hpub, h⟩ := bind_eq_ok_iff.1 h
  rw [publishCreated_apply] at hpub
  cases hpub
  cases h
  obtain ⟨k, m, rfl⟩ := hv.exists_eq
  refine ⟨rfl, s, hs, hu.store, hu.minted, ?_⟩
  show u'.published ++ _ = _
  rw [hu.published]

/-- Without failing calls, what the store says to a booking is the answer. -/
theorem placeNew_of_upFrom (hu : c.UpFrom w) (a : Admitted) :
    (placeNew a c w).1 =
      let b := a.booking (c.mint w.minted) (approvedAt w.store a.ctx)
      ((w.store.insertBooking b).mapError Failure.ofStore).map fun _ => b := by
  obtain ⟨v, hv, happroved⟩ := Reads.of_upFrom (x := startsApproved a.ctx) (r := .any) trivial hu
  have hup : c.UpFrom v := hu.mono hv
  obtain ⟨k, m, rfl⟩ := hv.exists_eq
  rw [answer_startsApproved] at happroved
  rw [placeNew, bind_of_ok (lift_eq_ok_iff.2 happroved)]
  refine change_bind_of_upFrom
    (w := { w with calls := k, metrics := m, minted := w.minted + 1 }) hup
    .insertBooking (·.insertBooking (a.booking (c.mint w.minted) (approvedAt w.store a.ctx)))
    (f := fun _ => do
      publishCreated (a.booking (c.mint w.minted) (approvedAt w.store a.ctx))
      return a.booking (c.mint w.minted) (approvedAt w.store a.ctx)) fun v => ?_
  rw [bind_of_ok (publishCreated_apply _ _ _)]
  rfl

/-- **A request to book that was carried out** was admitted, stored one booking under a new
identifier, and published it. -/
theorem book_ok {actor : User} {req : BookingRequest} {b : Booking}
    (h : book actor req c w = (.ok b, w')) :
    ∃ a v, admitNew actor req c w = (.ok a, v) ∧ w.Unchanged v ∧
      b = a.booking (c.mint w.minted) (approvedAt w.store a.ctx) ∧
      ∃ s, w.store.insertBooking b = .ok s ∧
        w'.Holds s (w.minted + 1) (w.published ++ createdEvents b) := by
  obtain ⟨u, m, hrun, rfl⟩ := measured_ok h
  obtain ⟨a, v, hadm, hplace⟩ := bind_eq_ok_iff.1 hrun
  have hv := Reads.of_run hadm
  obtain ⟨k, m', rfl⟩ := hv.exists_eq
  obtain ⟨hb, s, hs, hu⟩ := placeNew_ok hplace
  exact ⟨a, _, hadm, hv, hb, s, hs, hu.store, hu.minted, hu.published⟩

/-! ## Moving -/

theorem admitChange_ok {actor : User} {old : Booking} {req : BookingRequest} {a : Admitted}
    (h : admitChange actor old req c w = (.ok a, w')) :
    w.Unchanged w' ∧ contextAt c w.store actor req.space = .ok a.ctx ∧ a.owner = old.owner ∧
      spanAt a.ctx.zone req.enter req.leave = .ok a.span ∧ a.subject = req.subject := by
  refine ⟨Reads.of_run h, ?_⟩
  unfold admitChange at h
  obtain ⟨_, u₁, hold, h⟩ := bind_eq_ok_iff.1 h
  obtain ⟨_, u₂, howner, h⟩ := bind_eq_ok_iff.1 h
  obtain ⟨ctx, u₃, hctx, h⟩ := bind_eq_ok_iff.1 h
  obtain ⟨_, u₄, -, h⟩ := bind_eq_ok_iff.1 h
  obtain ⟨span, u₅, hspan, h⟩ := bind_eq_ok_iff.1 h
  obtain ⟨_, u₆, -, h⟩ := bind_eq_ok_iff.1 h
  obtain ⟨_, u₇, -, h⟩ := bind_eq_ok_iff.1 h
  cases h
  have hu₂ := (Reads.of_run hold).trans (Reads.of_run howner)
  obtain ⟨-, hctx⟩ := Reads.of_ok hctx
  obtain ⟨-, hspan⟩ := Reads.of_ok hspan
  rw [answer_spaceContext, hu₂.store] at hctx
  rw [answer_requestSpan] at hspan
  exact ⟨hctx, rfl, hspan, rfl⟩

/-- What is published about a booking that was moved from `old`. -/
def movedEvents (old b : Booking) : List Event :=
  .booking .updated b ::
    if old.space ≠ b.space && !b.approved then [.booking .approvalRequested b] else []

instance (old : Booking) (a : Admitted) : Cautious (placeChange old a) := by
  unfold placeChange
  refine .bind_of_reads inferInstance fun approved => ?_
  exact .bind_of_safe inferInstance fun _ =>
    .bind inferInstance fun _ => .bind inferInstance fun _ => inferInstance

instance (actor : User) (id : Id) (req : BookingRequest) : Cautious (rebook actor id req) := by
  have (old : Booking) : Cautious (do placeChange old (← admitChange actor old req)) :=
    .bind_of_reads inferInstance inferInstance
  have : Cautious (do
      let old ← storedBooking id
      placeChange old (← admitChange actor old req)) :=
    .bind_of_reads inferInstance inferInstance
  unfold rebook
  infer_instance

/-- The booking that an admitted change makes of another. -/
def changed (s : Store) (old : Booking) (a : Admitted) : Booking :=
  a.change old (if old.space = a.ctx.space.id then old.approved else approvedAt s a.ctx)

theorem placeChange_ok {old b : Booking} {a : Admitted} (h : placeChange old a c w = (.ok b, w')) :
    b = changed w.store old a ∧ ∃ s, w.store.updateBooking b = .ok s ∧
      w'.Holds s w.minted (w.published ++ movedEvents old b) := by
  unfold placeChange at h
  obtain ⟨approved, v, happroved, h⟩ := bind_eq_ok_iff.1 h
  obtain ⟨hv, hans⟩ := Reads.of_ok (lift_eq_ok_iff.1 happroved)
  rw [answer_approvedAfter] at hans
  cases hans
  obtain ⟨k, m, rfl⟩ := hv.exists_eq
  obtain ⟨_, u, hupdate, h⟩ := bind_eq_ok_iff.1 h
  obtain ⟨s, hs, hu⟩ := change_ok (lift_eq_ok_iff.1 hupdate)
  obtain ⟨_, z, hpub, h⟩ := bind_eq_ok_iff.1 h
  cases hpub
  rw [bind_of_ok (onlyIf_publish_apply _ _ _ _)] at h
  cases h
  refine ⟨rfl, s, hs, hu.store, hu.minted, ?_⟩
  simp only [movedEvents, hu.published, List.append_assoc, List.singleton_append]

/-- Without failing calls, what the store says to a changed booking is the answer. -/
theorem placeChange_of_upFrom (hu : c.UpFrom w) (old : Booking) (a : Admitted) :
    (placeChange old a c w).1 =
      ((w.store.updateBooking (changed w.store old a)).mapError Failure.ofStore).map fun _ =>
        changed w.store old a := by
  obtain ⟨v, hv, happroved⟩ := Reads.of_upFrom (x := approvedAfter old a.ctx) (r := .any) trivial hu
  have hup : c.UpFrom v := hu.mono hv
  obtain ⟨k, m, rfl⟩ := hv.exists_eq
  rw [answer_approvedAfter] at happroved
  rw [placeChange, bind_of_ok (lift_eq_ok_iff.2 happroved)]
  refine change_bind_of_upFrom (w := { w with calls := k, metrics := m }) hup .updateBooking
    (·.updateBooking (changed w.store old a)) fun v => ?_
  rw [bind_of_ok (publish_apply _ _ _), bind_of_ok (onlyIf_publish_apply _ _ _ _)]
  rfl

theorem booking?_of_answer {id : Id} {b : Booking}
    (h : (storedBooking id).answer c w.store = .ok b) : w.store.booking? id = some b := by
  rw [answer_storedBooking] at h
  cases hfound : w.store.booking? id with
  | none => simp [hfound] at h
  | some b' => simpa [hfound] using h

/-- **A request to move a booking that was carried out** was admitted, replaced the booking by the
changed one, and published it. -/
theorem rebook_ok {actor : User} {id : Id} {req : BookingRequest} {b : Booking}
    (h : rebook actor id req c w = (.ok b, w')) :
    ∃ old u a v, storedBooking id c w = (.ok old, u) ∧ admitChange actor old req c u = (.ok a, v) ∧
      w.Unchanged u ∧ u.Unchanged v ∧ w.store.booking? id = some old ∧
      b = changed w.store old a ∧ ∃ s, w.store.updateBooking b = .ok s ∧
        w'.Holds s w.minted (w.published ++ movedEvents old b) := by
  obtain ⟨z, m, hrun, rfl⟩ := measured_ok h
  obtain ⟨old, u, hold, hrun⟩ := bind_eq_ok_iff.1 hrun
  obtain ⟨a, v, hadm, hplace⟩ := bind_eq_ok_iff.1 hrun
  have hv := Reads.of_run hadm
  obtain ⟨hu, hans⟩ := Reads.of_ok hold
  obtain ⟨k, m', rfl⟩ := (hu.trans hv).exists_eq
  obtain ⟨hb, s, hs, hz⟩ := placeChange_ok hplace
  refine ⟨old, u, a, _, hold, hadm, hu, hv, ?_, hb, s, hs, hz.store, hz.minted, hz.published⟩
  exact booking?_of_answer hans

/-! ## Cancelling and deciding -/

instance (actor : User) (id : Id) : Cautious (cancel actor id) := by
  have (b : Booking) : Cautious (do
      Repository.deleteBooking id
      Action.publish (.booking .deleted b) : Action Failure Unit) :=
    .bind_of_safe inferInstance fun _ => inferInstance
  unfold cancel
  refine @cautious_measured _ _ _ ?_
  refine .bind_of_reads inferInstance fun b => .bind_of_reads inferInstance fun ctx => ?_
  refine .bind_of_reads inferInstance fun _ => .bind_of_reads inferInstance fun now => ?_
  exact .bind_of_reads inferInstance fun _ => this b

/-- **A request to cancel that was carried out** removed the booking and published it. -/
theorem cancel_ok {actor : User} {id : Id} (h : cancel actor id c w = (.ok (), w')) :
    ∃ b s, w.store.booking? id = some b ∧ w.store.deleteBooking id = .ok s ∧
      w'.Holds s w.minted (w.published ++ [.booking .deleted b]) := by
  obtain ⟨z, m, hrun, rfl⟩ := measured_ok h
  obtain ⟨b, u₁, hb, hrun⟩ := bind_eq_ok_iff.1 hrun
  obtain ⟨ctx, u₂, hctx, hrun⟩ := bind_eq_ok_iff.1 hrun
  obtain ⟨_, u₃, howner, hrun⟩ := bind_eq_ok_iff.1 hrun
  obtain ⟨now, u₄, hnow, hrun⟩ := bind_eq_ok_iff.1 hrun
  obtain ⟨_, u₅, hlate, hrun⟩ := bind_eq_ok_iff.1 hrun
  obtain ⟨_, u₆, hdelete, hlast⟩ := bind_eq_ok_iff.1 hrun
  obtain ⟨hu₁, hans⟩ := Reads.of_ok hb
  have hu : w.Unchanged u₅ := (((hu₁.trans (Reads.of_run hctx)).trans (Reads.of_run howner)).trans
    (Reads.of_run hnow)).trans (Reads.of_run hlate)
  obtain ⟨k, m', rfl⟩ := hu.exists_eq
  obtain ⟨s, hs, hu₆⟩ := change_ok (lift_eq_ok_iff.1 hdelete)
  cases hlast
  refine ⟨b, s, booking?_of_answer hans, hs, hu₆.store, hu₆.minted, ?_⟩
  show u₆.published ++ _ = _
  rw [hu₆.published]

/-- **A booking that the actor can decide on** waits for a decision which the actor may take. -/
theorem undecided_ok {actor : User} {id : Id} {b : Booking}
    (h : undecided actor id c w = (.ok b, w')) :
    w.Unchanged w' ∧ w.store.booking? id = some b ∧ b.approved = false ∧
      MayDecide w.store actor b.space := by
  refine ⟨Reads.of_run h, ?_⟩
  unfold undecided at h
  obtain ⟨old, u₁, hb, h⟩ := bind_eq_ok_iff.1 h
  obtain ⟨ctx, u₂, hctx, h⟩ := bind_eq_ok_iff.1 h
  obtain ⟨may, u₃, hmay, h⟩ := bind_eq_ok_iff.1 h
  obtain ⟨_, u₄, hallowed, h⟩ := bind_eq_ok_iff.1 h
  obtain ⟨_, u₅, hwaits, h⟩ := bind_eq_ok_iff.1 h
  cases h
  obtain ⟨hu₁, hans⟩ := Reads.of_ok hb
  obtain ⟨hu₂, hctx⟩ := Reads.of_ok hctx
  obtain ⟨-, hmay⟩ := Reads.of_ok (lift_eq_ok_iff.1 hmay)
  obtain ⟨-, hallowed⟩ := Reads.of_ok hallowed
  obtain ⟨-, hwaits⟩ := Reads.of_ok hwaits
  rw [answer_spaceContext, hu₁.store] at hctx
  rw [answer_mayApprove, hu₂.store, hu₁.store] at hmay
  rw [answer_ensure] at hallowed hwaits
  obtain ⟨hspace, hlocation, horg, -⟩ := contextAt_ok hctx
  refine ⟨booking?_of_answer hans, ?_, ⟨_, _, hspace, hlocation, horg⟩, ?_⟩
  · cases happroved : b.approved with
    | false => rfl
    | true => simp [happroved] at hwaits
  · have hrole : may = true := by
      cases may with
      | true => rfl
      | false => simp at hallowed
    rw [hrole, Except.ok.injEq, Bool.or_eq_true] at hmay
    refine hmay.imp_right fun hshare => ?_
    simpa [shareGroup] using hshare

instance (actor : User) (id : Id) : Cautious (approve actor id) := by
  unfold approve
  refine .bind_of_reads inferInstance fun b => .bind_of_safe inferInstance fun _ => ?_
  exact .bind inferInstance fun _ => .bind inferInstance fun _ => inferInstance

/-- **An approval that was carried out** replaced a waiting booking by the approved one, and
published it. -/
theorem approve_ok {actor : User} {id : Id} {b : Booking} (h : approve actor id c w = (.ok b, w')) :
    ∃ old s, w.store.booking? id = some old ∧ b = { old with approved := true } ∧
      w.store.updateBooking b = .ok s ∧
      w'.Holds s w.minted (w.published ++ [.booking .approved b]) := by
  obtain ⟨old, u, hold, hrest⟩ := bind_eq_ok_iff.1 h
  obtain ⟨_, v, hupdate, hlast⟩ := bind_eq_ok_iff.1 hrest
  obtain ⟨hu, hfound, -⟩ := undecided_ok hold
  obtain ⟨k, m, rfl⟩ := hu.exists_eq
  obtain ⟨s, hs, hv⟩ := change_ok (lift_eq_ok_iff.1 hupdate)
  cases hlast
  refine ⟨old, s, hfound, rfl, hs, hv.store, hv.minted, ?_⟩
  show v.published ++ _ = _
  rw [hv.published]

instance (actor : User) (id : Id) : Cautious (decline actor id) := by
  unfold decline
  refine .bind_of_reads inferInstance fun b => .bind_of_safe inferInstance fun _ => ?_
  exact .bind inferInstance fun _ => inferInstance

/-- **A refusal that was carried out** removed a waiting booking and published it. -/
theorem decline_ok {actor : User} {id : Id} (h : decline actor id c w = (.ok (), w')) :
    ∃ b s, w.store.booking? id = some b ∧ w.store.deleteBooking id = .ok s ∧
      w'.Holds s w.minted (w.published ++ [.booking .declined b]) := by
  obtain ⟨b, u, hb, hrest⟩ := bind_eq_ok_iff.1 h
  obtain ⟨_, v, hdelete, hlast⟩ := bind_eq_ok_iff.1 hrest
  obtain ⟨hu, hfound, -⟩ := undecided_ok hb
  obtain ⟨k, m, rfl⟩ := hu.exists_eq
  obtain ⟨s, hs, hv⟩ := change_ok (lift_eq_ok_iff.1 hdelete)
  cases hlast
  refine ⟨b, s, hfound, hs, hv.store, hv.minted, ?_⟩
  show v.published ++ _ = _
  rw [hv.published]

end Service

end SpaceBooking
