import SpaceBooking.Proofs.Runs

/-!
# All or nothing

A request about one booking asks everything that it needs to know, then makes its one change to the
store, and then only publishes. A call that fails on the way leaves no trace of the request.

* `Store.DiffersAt` — two stores that differ in what they hold under one identifier.
* `Store.Exchange.differsAt` — an exchange of bookings under one identifier does no more.
* `AllOrNothing` — an action that fails without a trace, or has its effect.
* `single_requests_all_or_nothing` — every request about one booking is like this.
-/

namespace SpaceBooking

open SpaceBooking.Action

namespace Store

variable {s s' : Store} {b c : Booking} {id : Id} {gone new : Option Booking}

/-- Under an identifier `gone` was stored, and `new` is. Nothing else is different. -/
structure DiffersAt (s : Store) (id : Id) (gone new : Option Booking) (s' : Store) : Prop where
  before : s.booking? id = gone
  after : s'.booking? id = new
  /-- Every other booking is stored as it was. -/
  bookings : ∃ rest, s.bookings.Perm (gone.toList ++ rest) ∧ s'.bookings.Perm (new.toList ++ rest)
  others : ∀ k, k ≠ id → s'.booking? k = s.booking? k
  index : ∀ k, s'.spaceOf.get? k = if k = id then new.map (·.space) else s.spaceOf.get? k
  series : s'.series = s.series
  setup : s.SameSetup s'

/-- The index tells the space of each stored booking, and nothing else. -/
theorem Consistent.spaceOf_eq (hs : s.Consistent) (id : Id) :
    s.spaceOf.get? id = (s.booking? id).map (·.space) := by
  ext space
  rw [hs.indexed, Option.map_eq_some_iff]
  constructor
  · rintro ⟨b, hb, hid, hspace⟩
    exact ⟨b, hs.booking?_eq_some_iff.2 ⟨hb, hid⟩, hspace⟩
  · rintro ⟨b, hb, hspace⟩
    obtain ⟨hmem, hid⟩ := hs.booking?_eq_some_iff.1 hb
    exact ⟨b, hmem, hid, hspace⟩

namespace Exchange

variable (hx : Exchange s gone new s')

include hx

/-- **An exchange under one identifier changes nothing under the others.** -/
theorem differsAt (hs : s.Consistent) (hs' : s'.Consistent) (hbefore : s.booking? id = gone)
    (hnew : ∀ b, new = some b → b.id = id) : s.DiffersAt id gone new s' := by
  obtain ⟨rest, hperm, hperm', hrest⟩ := hx.exists_rest hs
  have hgone : ∀ b, gone = some b → b.id = id := by
    rintro b rfl
    exact booking?_id hbefore
  -- what stays has other identifiers
  have hstay : ∀ b ∈ rest, b.id ≠ id := by
    rintro b hb rfl
    obtain ⟨hmem, hne⟩ := hrest b hb
    have hfound := hs.booking?_eq_some_iff.2 ⟨hmem, rfl⟩
    rw [hfound] at hbefore
    exact hne (by rw [← hbefore]; rfl)
  have hafter : s'.booking? id = new := by
    cases new with
    | none =>
      refine hs'.booking?_eq_none_iff.2 fun b hb => hstay b ?_
      simpa using hperm'.mem_iff.1 hb
    | some b =>
      refine hs'.booking?_eq_some_iff.2 ⟨hperm'.mem_iff.2 ?_, hnew b rfl⟩
      simp
  have hothers : ∀ k, k ≠ id → s'.booking? k = s.booking? k := by
    intro k hk
    ext b
    rw [hs.booking?_eq_some_iff, hs'.booking?_eq_some_iff, hperm.mem_iff, hperm'.mem_iff]
    simp only [List.mem_append, Option.mem_toList]
    constructor
    · rintro ⟨hb | hb, rfl⟩
      · exact absurd (hnew b hb) hk
      · exact ⟨.inr hb, rfl⟩
    · rintro ⟨hb | hb, rfl⟩
      · exact absurd (hgone b hb) hk
      · exact ⟨.inr hb, rfl⟩
  refine ⟨hbefore, hafter, ⟨rest, hperm, hperm'⟩, hothers, fun k => ?_, hx.series, hx.setup⟩
  rw [hs'.spaceOf_eq, hs.spaceOf_eq]
  split
  · rename_i hk
    rw [hk, hafter]
  · rename_i hk
    rw [hothers k hk]

end Exchange

/-! ## The changes of the store -/

namespace Consistent

variable (hs : s.Consistent)

include hs

theorem insertBooking_differsAt (hfresh : ∀ c ∈ s.bookings, c.id ≠ b.id)
    (h : s.insertBooking b = .ok s') : s.DiffersAt b.id none (some b) s' := by
  have hx := insertBooking_exchange hs.toOrdered h
  refine hx.differsAt hs (hx.consistent hs ?_) (hs.booking?_eq_none_iff.2 hfresh) ?_
  · rintro _ ⟨⟩
    exact .inr ⟨rfl, hfresh⟩
  · rintro _ ⟨⟩
    rfl

theorem updateBooking_differsAt {old : Booking} (hold : s.booking? b.id = some old)
    (h : s.updateBooking b = .ok s') : s.DiffersAt b.id (some old) (some b) s' := by
  obtain ⟨o, ho, hid, hx, -⟩ := hs.updateBooking_exchange h
  have hstored := hs.booking?_eq_some_iff.1 hold
  obtain rfl := hs.eq_of_id ho hstored.1 (hid.trans hstored.2.symm)
  refine hx.differsAt hs (hx.consistent hs ?_) hold ?_
  · rintro _ ⟨⟩
    exact .inl (congrArg some hid)
  · rintro _ ⟨⟩
    rfl

theorem deleteBooking_differsAt {old : Booking} (hold : s.booking? id = some old)
    (h : s.deleteBooking id = .ok s') : s.DiffersAt id (some old) none s' := by
  obtain ⟨o, hid, hx⟩ := deleteBooking_exchange hs h
  have hstored := hs.booking?_eq_some_iff.1 hold
  obtain rfl := hs.eq_of_id hx.gone_mem hstored.1 (hid.trans hstored.2.symm)
  exact hx.differsAt hs (hx.consistent hs (by simp)) hold (by simp)

end Consistent

end Store

/-! ## The requests -/

/-- The action fails and leaves the store and the events as they were, or it has its effect on the
store. -/
structure AllOrNothing {α : Type} (x : Action Failure α) (c : Conditions) (w : World)
    (effect : α → Store → Prop) : Prop where
  nothing : ∀ {failure w'}, x c w = (.error failure, w') →
    w'.store = w.store ∧ w'.published = w.published
  all : ∀ {a w'}, x c w = (.ok a, w') → effect a w'.store

theorem AllOrNothing.of_cautious {α : Type} {x : Action Failure α} [hx : Cautious x]
    {c : Conditions} {w : World} {effect : α → Store → Prop}
    (h : ∀ {a w'}, x c w = (.ok a, w') → effect a w'.store) : AllOrNothing x c w effect where
  nothing hrun := ⟨(hx.untouched hrun).store, (hx.untouched hrun).published⟩
  all := h

/-- What a booking keeps when it is moved or decided on. -/
structure Booking.Continues (b old : Booking) : Prop where
  id : b.id = old.id
  owner : b.owner = old.owner
  series : b.series = old.series
  calendarEvent : b.calendarEvent = old.calendarEvent

namespace Service

variable {c : Conditions} {w : World}

theorem book_allOrNothing (hs : w.store.Consistent) (actor : User) (req : BookingRequest) :
    AllOrNothing (book actor req) c w fun b s =>
      b.space = req.space ∧ b.subject = req.subject ∧
        ((∀ d ∈ w.store.bookings, d.id ≠ b.id) → w.store.DiffersAt b.id none (some b) s) := by
  refine .of_cautious fun {b w'} hok => ?_
  obtain ⟨a, v, hadm, -, hb, s, hinsert, hw'⟩ := book_ok hok
  obtain ⟨-, hctx, -, -, hsubject⟩ := admitNew_ok hadm
  rw [hw'.store]
  refine ⟨?_, ?_, fun hfresh => hs.insertBooking_differsAt hfresh hinsert⟩
  · rw [hb]
    exact contextAt_space hs.toOrdered hctx
  · rw [hb]
    exact hsubject

theorem rebook_allOrNothing (hs : w.store.Consistent) (actor : User) (id : Id)
    (req : BookingRequest) :
    AllOrNothing (rebook actor id req) c w fun b s =>
      b.space = req.space ∧ b.subject = req.subject ∧
        ∃ old, b.Continues old ∧ w.store.DiffersAt id (some old) (some b) s := by
  refine .of_cautious fun {b w'} hok => ?_
  obtain ⟨old, u, a, v, -, hadm, hu, -, hold, hb, s, hupdate, hw'⟩ := rebook_ok hok
  obtain ⟨-, hctx, -, -, hsubject⟩ := admitChange_ok hadm
  rw [hu.store] at hctx
  have hcontinues : b.Continues old := by
    rw [hb]
    exact ⟨rfl, rfl, rfl, rfl⟩
  have hid : b.id = id := hcontinues.id.trans (Store.booking?_id hold)
  rw [hw'.store]
  refine ⟨?_, ?_, old, hcontinues, ?_⟩
  · rw [hb]
    exact contextAt_space hs.toOrdered hctx
  · rw [hb]
    exact hsubject
  · rw [← hid] at hold ⊢
    exact hs.updateBooking_differsAt hold hupdate

theorem approve_allOrNothing (hs : w.store.Consistent) (actor : User) (id : Id) :
    AllOrNothing (approve actor id) c w fun b s =>
      ∃ old, b = { old with approved := true } ∧
        w.store.DiffersAt id (some old) (some b) s := by
  refine .of_cautious fun {b w'} hok => ?_
  obtain ⟨old, s, hold, hb, hupdate, hw'⟩ := approve_ok hok
  have hid : b.id = id := by
    rw [hb]
    show old.id = id
    exact Store.booking?_id hold
  rw [hw'.store]
  refine ⟨old, hb, ?_⟩
  rw [← hid] at hold ⊢
  exact hs.updateBooking_differsAt hold hupdate

theorem cancel_allOrNothing (hs : w.store.Consistent) (actor : User) (id : Id) :
    AllOrNothing (cancel actor id) c w fun _ s =>
      ∃ old, w.store.DiffersAt id (some old) none s := by
  refine .of_cautious fun hok => ?_
  obtain ⟨old, s, hold, hdelete, hw'⟩ := cancel_ok hok
  rw [hw'.store]
  exact ⟨old, hs.deleteBooking_differsAt hold hdelete⟩

theorem decline_allOrNothing (hs : w.store.Consistent) (actor : User) (id : Id) :
    AllOrNothing (decline actor id) c w fun _ s =>
      ∃ old, w.store.DiffersAt id (some old) none s := by
  refine .of_cautious fun hok => ?_
  obtain ⟨old, s, hold, hdelete, hw'⟩ := decline_ok hok
  rw [hw'.store]
  exact ⟨old, hs.deleteBooking_differsAt hold hdelete⟩

end Service

open Service

/-- **Requests about one booking are all or nothing**, whichever calls fail and whatever is reported
as conflicts. A request that fails leaves every booking, the index, every series and the events as
they were. One that is carried out adds, replaces or removes the one booking that it is about: a
booking that is replaced keeps its identifier, owner, series and calendar entry, and nothing else
changes. -/
theorem single_requests_all_or_nothing {w : World} (h : Reachable Step.Fresh w) (c : Conditions)
    (actor : User) :
    (∀ req, AllOrNothing (book actor req) c w fun b s =>
      b.space = req.space ∧ b.subject = req.subject ∧
        ((∀ d ∈ w.store.bookings, d.id ≠ b.id) → w.store.DiffersAt b.id none (some b) s)) ∧
    (∀ id req, AllOrNothing (rebook actor id req) c w fun b s =>
      b.space = req.space ∧ b.subject = req.subject ∧
        ∃ old, b.Continues old ∧ w.store.DiffersAt id (some old) (some b) s) ∧
    (∀ id, AllOrNothing (cancel actor id) c w fun _ s =>
      ∃ old, w.store.DiffersAt id (some old) none s) ∧
    (∀ id, AllOrNothing (approve actor id) c w fun b s =>
      ∃ old, b = { old with approved := true } ∧ w.store.DiffersAt id (some old) (some b) s) ∧
    (∀ id, AllOrNothing (decline actor id) c w fun _ s =>
      ∃ old, w.store.DiffersAt id (some old) none s) :=
  ⟨book_allOrNothing h.consistent actor, rebook_allOrNothing h.consistent actor,
    cancel_allOrNothing h.consistent actor, approve_allOrNothing h.consistent actor,
    decline_allOrNothing h.consistent actor⟩

/-- The desk is booked for another hour. Then the store fails when the first booking is to be moved
there. -/
theorem single_requests_all_or_nothing_desk :
    Reachable Step.Fresh Sample.world ∧
    (∃ b w', book Sample.admin Sample.later Sample.conditions Sample.world = (.ok b, w') ∧
      (∀ d ∈ Sample.world.store.bookings, d.id ≠ b.id) ∧
      Sample.world.store.DiffersAt b.id none (some b) w'.store) ∧
    ∃ failure w', rebook Sample.admin (.ofNat 100) Sample.later (Sample.down .updateBooking)
        Sample.world = (.error failure, w') ∧ failure = .store (.unavailable "timeout") ∧
      w'.store = Sample.world.store ∧ w'.published = Sample.world.published := by
  have hbooked : (book Sample.admin Sample.later Sample.conditions Sample.world).1.toOption.map
      (·.id) = some (.ofNat 101) := by decide +kernel
  have hfailed : (rebook Sample.admin (.ofNat 100) Sample.later (Sample.down .updateBooking)
      Sample.world).1.map (·.id) = .error (.store (.unavailable "timeout")) := by decide +kernel
  obtain ⟨hbook, -⟩ := single_requests_all_or_nothing Sample.reachable_fresh Sample.conditions
    Sample.admin
  obtain ⟨-, hrebook, -⟩ := single_requests_all_or_nothing Sample.reachable_fresh
    (Sample.down .updateBooking) Sample.admin
  refine ⟨Sample.reachable_fresh, ?_, ?_⟩
  · rcases hrun : book Sample.admin Sample.later Sample.conditions Sample.world with ⟨_ | b, w'⟩
    · rw [hrun] at hbooked
      cases hbooked
    · rw [hrun] at hbooked
      have hid : b.id = .ofNat 101 := Option.some.inj hbooked
      have hfresh : ∀ d ∈ Sample.world.store.bookings, d.id ≠ .ofNat 101 := by decide +kernel
      rw [← hid] at hfresh
      obtain ⟨-, -, heffect⟩ := (hbook Sample.later).all hrun
      exact ⟨b, w', rfl, hfresh, heffect hfresh⟩
  · rcases hrun : rebook Sample.admin (.ofNat 100) Sample.later (Sample.down .updateBooking)
      Sample.world with ⟨failure | _, w'⟩
    · rw [hrun] at hfailed
      obtain ⟨hstore, hpublished⟩ := (hrebook _ Sample.later).nothing hrun
      exact ⟨failure, w', rfl, Except.error.inj hfailed, hstore, hpublished⟩
    · rw [hrun] at hfailed
      cases hfailed

end SpaceBooking
