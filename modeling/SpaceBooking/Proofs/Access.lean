import SpaceBooking.Proofs.SeriesRemoval
import SpaceBooking.Service.Lookup

/-!
# Access to bookings and series

Whatever is asked or done about a booking or a series by its identifier begins in one way: the
record is loaded, and then the context of its space. The context is refused to everybody outside the
organization of the space, so what comes after is done by somebody inside.

* `Store.orgOf` — the organization that a space belongs to.
* `onRecord` — the common beginning. `cancel_eq`, `approve_eq` and so on say who begins like this.
* `onRecord_run` — either nothing happened, or the rest was done from inside the organization.
* `onRecord_missing`, `onRecord_foreign` — what is answered if there is no such record, and if its
  space belongs to others.
-/

namespace SpaceBooking

open SpaceBooking.Action

/-! ## Organizations -/

namespace Store

variable {s s' : Store} {space : Id}

/-- The organization that a space belongs to: that of its location. -/
def orgOf (s : Store) (space : Id) : Option Id :=
  (s.spaces.get? space).bind fun sp => (s.locations.get? sp.location).map (·.org)

theorem orgOf_eq_some_iff {org : Id} : s.orgOf space = some org ↔
    ∃ sp l, s.spaces.get? space = some sp ∧ s.locations.get? sp.location = some l ∧
      l.org = org := by
  simp only [orgOf, Option.bind_eq_some_iff, Option.map_eq_some_iff]
  constructor
  · rintro ⟨sp, hsp, l, hl, horg⟩
    exact ⟨sp, l, hsp, hl, horg⟩
  · rintro ⟨sp, l, hsp, hl, horg⟩
    exact ⟨sp, hsp, l, hl, horg⟩

theorem SameSetup.orgOf (h : s.SameSetup s') (space : Id) : s'.orgOf space = s.orgOf space := by
  simp only [Store.orgOf, h.spaces, h.locations]

end Store

namespace Service

variable {c : Conditions} {w w' v : World} {actor : User} {id : Id}

theorem contextAt_orgOf {s : Store} {ctx : SpaceContext} (h : contextAt c s actor id = .ok ctx) :
    s.orgOf id = some actor.org := by
  obtain ⟨hspace, hlocation, horg, -⟩ := contextAt_ok h
  rw [Store.orgOf, hspace, Option.bind_some, hlocation, Option.map_some, horg]

/-- The context of a space is refused to everybody outside its organization. -/
theorem contextAt_of_orgOf_ne {s : Store} (h : s.orgOf id ≠ some actor.org) :
    contextAt c s actor id = .error (.notFound id) := by
  unfold contextAt
  cases hspace : s.spaces.get? id with
  | none => rfl
  | some sp =>
    cases hlocation : s.locations.get? sp.location with
    | none => simp only [hlocation]
    | some l =>
      have horg : l.org ≠ actor.org := by
        intro heq
        refine h ?_
        rw [Store.orgOf, hspace, Option.bind_some, hlocation, Option.map_some, heq]
      simp only [hlocation, if_neg horg]

/-! ## The common beginning -/

section OnRecord

variable {ρ α : Type}

/-- Loads a record, then the context of its space, and goes on. -/
def onRecord (stored : Action Failure ρ) (space : ρ → Id) (actor : User)
    (act : ρ → SpaceContext → Action Failure α) : Action Failure α := do
  let record ← stored
  let ctx ← spaceContext actor (space record)
  act record ctx

variable {stored : Action Failure ρ} [∀ r, Reads r stored] {space : ρ → Id}
  {act : ρ → SpaceContext → Action Failure α}

/-- **Either nothing happened, or the rest was done** by somebody of the organization of the
record's space. -/
theorem onRecord_run {o : Except Failure α} (h : onRecord stored space actor act c w = (o, w')) :
    (w.Unchanged w' ∧ ∃ failure, o = .error failure) ∨
      ∃ record ctx v, stored.answer c w.store = .ok record ∧
        contextAt c w.store actor (space record) = .ok ctx ∧ w.Unchanged v ∧
        act record ctx c v = (o, w') := by
  unfold onRecord at h
  rcases hstored : stored c w with ⟨failure | record, u⟩
  · have hu := Reads.of_run hstored
    rw [bind_apply, hstored] at h
    cases h
    exact .inl ⟨hu, failure, rfl⟩
  obtain ⟨hu, hrecord⟩ := Reads.of_ok hstored
  rw [bind_of_ok hstored] at h
  rcases hcontext : spaceContext actor (space record) c u with ⟨failure | ctx, v⟩
  · have hv := Reads.of_run hcontext
    rw [bind_apply, hcontext] at h
    cases h
    exact .inl ⟨hu.trans hv, failure, rfl⟩
  obtain ⟨hv, hctx⟩ := Reads.of_ok hcontext
  rw [answer_spaceContext, hu.store] at hctx
  rw [bind_of_ok hcontext] at h
  exact .inr ⟨record, ctx, v, hrecord, hctx, hu.trans hv, h⟩

/-- The action ends with a failure, and has stored and published nothing. -/
def Refuses (x : Action Failure α) (c : Conditions) (w : World) (failure : Failure) : Prop :=
  ∃ w', w.Untouched w' ∧ x c w = (.error failure, w')

theorem Refuses.measured {x : Action Failure α} {failure : Failure} (h : Refuses x c w failure)
    (request : MeasuredRequest) : Refuses (measured request x) c w failure := by
  obtain ⟨v, hv, hx⟩ := h
  obtain ⟨m, hm⟩ := measured_apply request x c w
  rw [hx] at hm
  exact ⟨{ v with metrics := m }, ⟨hv.store, hv.minted, hv.published⟩, hm⟩

/-- Without the record, loading it is what fails. -/
theorem onRecord_missing (hc : c.Reliable) {failure : Failure}
    (h : stored.answer c w.store = .error failure) :
    Refuses (onRecord stored space actor act) c w failure := by
  obtain ⟨u, hu, hstored⟩ := Reads.of_reliable (x := stored) hc w
  rw [h] at hstored
  refine ⟨u, hu.untouched, ?_⟩
  rw [onRecord, bind_apply, hstored]

/-- **To others the space of the record is reported as missing.** -/
theorem onRecord_foreign (hc : c.Reliable) (record : ρ)
    (h : stored.answer c w.store = .ok record)
    (horg : w.store.orgOf (space record) ≠ some actor.org) :
    Refuses (onRecord stored space actor act) c w (.notFound (space record)) := by
  obtain ⟨u, hu, hstored⟩ := Reads.of_reliable (x := stored) hc w
  obtain ⟨v, hv, hcontext⟩ := Reads.of_reliable (x := spaceContext actor (space record)) hc u
  rw [h] at hstored
  rw [answer_spaceContext, hu.store, contextAt_of_orgOf_ne horg] at hcontext
  refine ⟨v, (hu.trans hv).untouched, ?_⟩
  rw [onRecord, bind_of_ok hstored, bind_apply, hcontext]

end OnRecord

/-! ## Who begins like this -/

/-- What is done about a stored booking. -/
def onBooking {α : Type} (actor : User) (id : Id)
    (act : Booking → SpaceContext → Action Failure α) : Action Failure α :=
  onRecord (storedBooking id) (·.space) actor act

/-- What is done about a stored series. -/
def onSeries {α : Type} (actor : User) (id : Id)
    (act : Series → SpaceContext → Action Failure α) : Action Failure α :=
  onRecord (storedSeries id) (·.space) actor act

/-- What was done about a booking was done from inside the organization of its space. -/
theorem onBooking_orgOf {α : Type} {act : Booking → SpaceContext → Action Failure α} {a : α}
    {b : Booking} (h : onBooking actor id act c w = (.ok a, w'))
    (hb : w.store.booking? id = some b) : w.store.orgOf b.space = some actor.org := by
  rcases onRecord_run h with ⟨-, failure, hfailed⟩ | ⟨d, ctx, v, hd, hctx, -, -⟩
  · cases hfailed
  · rw [booking?_of_answer hd] at hb
    cases hb
    exact contextAt_orgOf hctx

/-- The same for a series, unless nothing happened. -/
theorem onSeries_run {α : Type} {act : Series → SpaceContext → Action Failure α}
    {o : Except Failure α} (h : onSeries actor id act c w = (o, w')) :
    w.Unchanged w' ∨ ∃ row, w.store.series.get? id = some row ∧
      w.store.orgOf row.space = some actor.org := by
  rcases onRecord_run h with ⟨hw', -⟩ | ⟨row, ctx, v, hrow, hctx, -, -⟩
  · exact .inl hw'
  · refine .inr ⟨row, ?_, contextAt_orgOf hctx⟩
    rw [answer_storedSeries] at hrow
    cases hfound : w.store.series.get? id with
    | none => simp [hfound] at hrow
    | some row' => simpa [hfound] using hrow

section Equations

variable (actor : User) (id : Id)

theorem showBooking_eq : ∃ act, showBooking actor id = onBooking actor id act := ⟨_, rfl⟩

theorem rebook_eq (req : BookingRequest) :
    ∃ act, rebook actor id req = measured .update (onBooking actor id act) := by
  simp only [rebook, admitChange, bind_bind]
  exact ⟨_, rfl⟩

theorem cancel_eq : ∃ act, cancel actor id = measured .delete (onBooking actor id act) := ⟨_, rfl⟩

theorem approve_eq : ∃ act, approve actor id = onBooking actor id act := by
  simp only [approve, undecided, bind_bind]
  exact ⟨_, rfl⟩

theorem decline_eq : ∃ act, decline actor id = onBooking actor id act := by
  simp only [decline, undecided, bind_bind]
  exact ⟨_, rfl⟩

theorem showSeries_eq : ∃ act, showSeries actor id = onSeries actor id act := ⟨_, rfl⟩

theorem seriesBookings_eq : ∃ act, seriesBookings actor id = onSeries actor id act := by
  simp only [seriesBookings, showSeries, bind_bind]
  exact ⟨_, rfl⟩

theorem cancelSeries_onSeries : ∃ act, cancelSeries actor id = onSeries actor id act := ⟨_, rfl⟩

end Equations

end Service

end SpaceBooking
