import SpaceBooking.Proofs.Runs

/-!
# Giving up a series

The bookings of a series are released one after the other: those ahead are deleted, the others are
taken out of the series. Any call can fail in between, and what was done before stays done. Since a
booking that was released is not touched again, a later attempt goes on where the last one stopped.

* `Booking.released` — what is left of a booking in the end.
* `Dissolved` — the bookings on a list were released and published, and nothing else changed.
* `dissolve_run` — how releasing the bookings can go, by induction on those that are left.
* `Cancellation`, `cancelSeries_run` — how giving up a series can go from start to end.
* `series_removal_exact` — after any number of failed attempts, one that is carried out leaves what
  it would have left without them.
-/

namespace SpaceBooking

open SpaceBooking.Action Service Relation

/-! ## What is left of a booking -/

namespace Booking

variable {series : Id} {now : Int} {b : Booking}

/-- The booking starts after an instant. -/
def ahead (now : Int) (b : Booking) : Bool := now < b.span.start

/-- What is left of a booking when a series is given up. -/
def released (series : Id) (now : Int) (b : Booking) : Option Booking :=
  if b.series = some series then
    if b.ahead now then none else some { b with series := none }
  else some b

theorem released_of_unlinked (h : b.series ≠ some series) : b.released series now = some b :=
  if_neg h

theorem released_of_ahead (h : b.series = some series) (hahead : b.ahead now = true) :
    b.released series now = none := by
  rw [released, if_pos h, if_pos hahead]

theorem released_of_begun (h : b.series = some series) (hahead : ¬ b.ahead now = true) :
    b.released series now = some { b with series := none } := by
  rw [released, if_pos h, if_neg hahead]

theorem released_eq_none_iff :
    b.released series now = none ↔ b.series = some series ∧ b.ahead now = true := by
  unfold released
  split <;> simp_all

/-- What is left of a booking is not in the series, and differs in nothing else. -/
theorem of_released {d : Booking} (h : b.released series now = some d) :
    d.series ≠ some series ∧ d = { b with series := d.series } := by
  by_cases hlinked : b.series = some series
  · by_cases hahead : b.ahead now = true
    · rw [released_of_ahead hlinked hahead] at h
      cases h
    · rw [released_of_begun hlinked hahead] at h
      cases h
      exact ⟨by simp, rfl⟩
  · rw [released_of_unlinked hlinked] at h
    cases h
    exact ⟨hlinked, rfl⟩

/-- What is left of a booking stays when the series is given up again. -/
theorem filterMap_released (series : Id) (now : Int) (b : Booking) :
    (b.released series now).toList.filterMap (released series now) =
      (b.released series now).toList := by
  cases h : b.released series now with
  | none => rfl
  | some d =>
    have hd : d.released series now = some d := released_of_unlinked (of_released h).1
    simp [hd]

end Booking

/-- What is published about bookings that were released: those ahead were deleted. -/
def deletions (now : Int) (bs : List Booking) : List Event :=
  (bs.filter (·.ahead now)).map (.booking .deleted)

theorem deletions_append (now : Int) (bs cs : List Booking) :
    deletions now (bs ++ cs) = deletions now bs ++ deletions now cs := by
  simp only [deletions, List.filter_append, List.map_append]

namespace Store

variable {s s' : Store} {id : Id} {now : Int} {b : Booking}

/-- The bookings of a series. -/
def linked (s : Store) (id : Id) : List Booking := s.bookings.filter (·.series = some id)

theorem mem_linked : b ∈ s.linked id ↔ b ∈ s.bookings ∧ b.series = some id := by
  rw [linked, List.mem_filter, decide_eq_true_eq]

theorem bookingsOfSeries_perm (s : Store) (id : Id) : (s.bookingsOfSeries id).Perm (s.linked id) :=
  sortByStart_perm _

theorem bookingsOfSeries_sorted (s : Store) (id : Id) :
    (s.bookingsOfSeries id).Pairwise fun a b => a.span.start ≤ b.span.start :=
  sortByStart_sorted _

/-- Without bookings in the series there is nothing to release. -/
theorem filterMap_released_of_linked (h : s.linked id = []) (now : Int) :
    s.bookings.filterMap (·.released id now) = s.bookings := by
  have hall : ∀ b ∈ s.bookings, b.released id now = some b := by
    intro b hb
    refine Booking.released_of_unlinked fun hseries => ?_
    have hmem : b ∈ s.linked id := mem_linked.2 ⟨hb, hseries⟩
    simp [h] at hmem
  rw [List.filterMap_congr hall, List.filterMap_some]

namespace Exchange

variable (hx : Exchange s (some b) (b.released id now) s')

include hx

theorem filterMap_released :
    (s'.bookings.filterMap (·.released id now)).Perm
      (s.bookings.filterMap (·.released id now)) := by
  obtain ⟨rest, hperm, hperm'⟩ := hx.bookings
  have hs := hperm.filterMap (·.released id now)
  have hs' := hperm'.filterMap (·.released id now)
  rw [List.filterMap_append, Booking.filterMap_released] at hs'
  have hone : [b].filterMap (·.released id now) = (b.released id now).toList := by
    cases h : b.released id now <;> simp [h]
  rw [Option.toList_some, List.filterMap_append, hone] at hs
  exact hs'.trans hs.symm

/-- The booking has left the series, and no other has. -/
theorem linked_perm (hb : b.series = some id) : (s.linked id).Perm (b :: s'.linked id) := by
  obtain ⟨rest, hperm, hperm'⟩ := hx.bookings
  have hs := hperm.filter (·.series = some id)
  have hs' := hperm'.filter (·.series = some id)
  have hnone : (b.released id now).toList.filter (·.series = some id) = [] := by
    rw [List.filter_eq_nil_iff]
    intro d hd
    obtain ⟨hne, -⟩ := Booking.of_released (Option.mem_toList.1 hd)
    simpa using hne
  rw [List.filter_append, hnone, List.nil_append] at hs'
  rw [Option.toList_some, List.singleton_append, List.filter_cons_of_pos (by simpa using hb)] at hs
  exact hs.trans (hs'.symm.cons b)

end Exchange

end Store

/-! ## Releasing bookings -/

/-- Some bookings of a series were released and those ahead published as deleted, and nothing else
changed. -/
structure Dissolved (id : Id) (now : Int) (w : World) (done : List Booking) (w' : World) :
    Prop where
  consistent : w'.store.Consistent
  setup : w.store.SameSetup w'.store
  series : w'.store.series = w.store.series
  /-- In the end the same will be left. -/
  bookings : (w'.store.bookings.filterMap (·.released id now)).Perm
    (w.store.bookings.filterMap (·.released id now))
  linked : (w.store.linked id).Perm (done ++ w'.store.linked id)
  published : w'.published = w.published ++ deletions now done

variable {c : Conditions} {w w' v : World} {id : Id} {now : Int} {b : Booking} {bs : List Booking}
  {actor : User}

namespace Dissolved

variable {done done' : List Booking}

theorem of_untouched (hs : w.store.Consistent) (h : w.Untouched w') : Dissolved id now w [] w' where
  consistent := h.store ▸ hs
  setup := h.store ▸ .refl _
  series := by rw [h.store]
  bookings := by rw [h.store]
  linked := by rw [h.store, List.nil_append]
  published := by rw [h.published, deletions, List.filter_nil, List.map_nil, List.append_nil]

theorem refl (id : Id) (now : Int) (hs : w.store.Consistent) : Dissolved id now w [] w :=
  .of_untouched hs ⟨rfl, Nat.le_refl _, rfl⟩

theorem trans (h : Dissolved id now w done v) (h' : Dissolved id now v done' w') :
    Dissolved id now w (done ++ done') w' where
  consistent := h'.consistent
  setup := h.setup.trans h'.setup
  series := h'.series.trans h.series
  bookings := h'.bookings.trans h.bookings
  linked := by
    rw [List.append_assoc]
    exact h.linked.trans (h'.linked.append_left done)
  published := by rw [h'.published, h.published, deletions_append, List.append_assoc]

/-- A booking that is stored was stored before, in the series or not. -/
theorem mem_bookings (h : Dissolved id now w done w') (hb : b ∈ w'.store.bookings) :
    ∃ old ∈ w.store.bookings, b = { old with series := b.series } := by
  by_cases hseries : b.series = some id
  · have hlinked : b ∈ w'.store.linked id := Store.mem_linked.2 ⟨hb, hseries⟩
    have hold := h.linked.mem_iff.2 (List.mem_append_right done hlinked)
    exact ⟨b, (Store.mem_linked.1 hold).1, rfl⟩
  · have hleft : b ∈ w'.store.bookings.filterMap (·.released id now) :=
      List.mem_filterMap.2 ⟨b, hb, Booking.released_of_unlinked hseries⟩
    obtain ⟨old, hold, hreleased⟩ := List.mem_filterMap.1 (h.bookings.mem_iff.1 hleft)
    exact ⟨old, hold, (Booking.of_released hreleased).2⟩

/-- Once all bookings of a series are released, none is in it. -/
theorem linked_eq_nil (h : Dissolved id now w (w.store.bookingsOfSeries id) w') :
    w'.store.linked id = [] := by
  have hlength := h.linked.length_eq
  rw [List.length_append, (w.store.bookingsOfSeries_perm id).length_eq] at hlength
  exact List.length_eq_zero_iff.1 (by omega)

/-- A booking was released. -/
theorem single {s : Store} (hs : w.store.Consistent) (hb : b.series = some id)
    (hx : w.store.Exchange (some b) (b.released id now) s)
    (hw' : w'.Holds s w.minted (w.published ++ deletions now [b])) :
    Dissolved id now w [b] w' := by
  have hconsistent : s.Consistent := by
    refine hx.consistent hs fun d hd => .inl ?_
    rw [(Booking.of_released hd).2]
    rfl
  have hstore := hw'.store
  subst hstore
  exact ⟨hconsistent, hx.setup, hx.series, hx.filterMap_released, hx.linked_perm hb, hw'.published⟩

end Dissolved

namespace Service

/-- Deletes a booking that starts after `now`, and takes another out of its series. -/
def release (now : Int) (b : Booking) : Action Failure Unit :=
  if b.ahead now then do
    Repository.deleteBooking b.id
    Action.publish (.booking .deleted b)
  else Repository.clearSeriesLink b.id

/-- How many bookings start after `now`, and how many do not. -/
def tallied (now : Int) (bs : List Booking) : Nat × Nat :=
  (bs.countP (·.ahead now), bs.countP (!·.ahead now))

theorem tallied_add (now : Int) (bs : List Booking) :
    (tallied now bs).1 + (tallied now bs).2 = bs.length := by
  have h := List.length_eq_countP_add_countP (fun b : Booking => b.ahead now) (l := bs)
  simp only [Bool.not_eq_true, Bool.decide_eq_false] at h
  exact h.symm

theorem dissolve_cons (now : Int) (b : Booking) (bs : List Booking) :
    dissolve now (b :: bs) = (do
      release now b
      let (removed, detached) ← dissolve now bs
      return if b.ahead now then (removed + 1, detached) else (removed, detached + 1)) := by
  by_cases hahead : now < b.span.start
  · have hb : b.ahead now = true := decide_eq_true hahead
    simp only [dissolve, release, if_pos hahead, if_pos hb, bind_bind]
  · have hb : ¬ b.ahead now = true := fun h => hahead (of_decide_eq_true h)
    simp only [dissolve, release, if_neg hahead, if_neg hb]

/-- **One booking**: it stays because the call failed, or is released. -/
theorem release_run (hs : w.store.Consistent) (hb : b ∈ w.store.linked id)
    {o : Except Failure Unit} (h : release now b c w = (o, v)) :
    (∃ failure, o = .error failure ∧ ¬ c.Reliable ∧ w.Untouched v) ∨
      o = .ok () ∧ Dissolved id now w [b] v := by
  obtain ⟨hmem, hseries⟩ := Store.mem_linked.1 hb
  by_cases hahead : b.ahead now = true
  · obtain ⟨s, hdelete, hx⟩ := hs.deleteBooking_of_mem hmem
    have hpublished : deletions now [b] = [.booking .deleted b] := by simp [deletions, hahead]
    rw [release, if_pos hahead] at h
    rw [← Booking.released_of_ahead hseries hahead] at hx
    rcases change_publish_run h hdelete with ⟨failure, rfl, hfails, hv⟩ | ⟨rfl, hv⟩
    · exact .inl ⟨failure, rfl, hfails.not_reliable, hv⟩
    · rw [← hpublished] at hv
      exact .inr ⟨rfl, .single hs hseries hx hv⟩
  · obtain ⟨s, hclear, hx⟩ := hs.clearSeriesLink_of_mem hmem
    have hpublished : deletions now [b] = [] := by simp [deletions, hahead]
    rw [release, if_neg hahead] at h
    rw [← Booking.released_of_begun hseries hahead] at hx
    rcases change_run h hclear with ⟨failure, rfl, hfails, hv⟩ | ⟨rfl, hv⟩
    · exact .inl ⟨failure, rfl, hfails.not_reliable, hv⟩
    · rw [← List.append_nil w.published, ← hpublished] at hv
      exact .inr ⟨rfl, .single hs hseries hx hv⟩

/-- **All bookings of a series**: it stops at one of them because a call failed, or releases them
all and tells how many there were of each kind. -/
theorem dissolve_run (hs : w.store.Consistent) (hbs : (w.store.linked id).Perm bs)
    {o : Except Failure (Nat × Nat)} (h : dissolve now bs c w = (o, w')) :
    (∃ failure done, o = .error failure ∧ ¬ c.Reliable ∧ Dissolved id now w done w') ∨
      o = .ok (tallied now bs) ∧ Dissolved id now w bs w' := by
  -- by induction on the bookings that are left in the series
  induction bs generalizing w w' o with
  | nil =>
    cases h
    exact .inr ⟨rfl, .refl id now hs⟩
  | cons b bs ih =>
    rw [dissolve_cons] at h
    have hb : b ∈ w.store.linked id := hbs.mem_iff.2 List.mem_cons_self
    rcases hrelease : release now b c w with ⟨o₁, v⟩
    rcases release_run hs hb hrelease with ⟨failure, rfl, hdown, hv⟩ | ⟨rfl, hv⟩
    · rw [bind_apply, hrelease] at h
      cases h
      exact .inl ⟨failure, [], rfl, hdown, .of_untouched hs hv⟩
    · have hleft : (v.store.linked id).Perm bs := (hv.linked.symm.trans hbs).cons_inv
      rw [bind_of_ok hrelease] at h
      rcases hrest : dissolve now bs c v with ⟨o₂, u⟩
      rcases ih hv.consistent hleft hrest with ⟨failure, done, rfl, hdown, hu⟩ | ⟨rfl, hu⟩
      · rw [bind_apply, hrest] at h
        cases h
        exact .inl ⟨failure, b :: done, rfl, hdown, hv.trans hu⟩
      · rw [bind_of_ok hrest] at h
        cases h
        refine .inr ⟨?_, hv.trans hu⟩
        by_cases hahead : b.ahead now = true <;> simp [tallied, hahead]

/-! ## Giving up -/

/-- The actor may give up the series. -/
structure MayCancel (c : Conditions) (s : Store) (actor : User) (row : Series) : Prop where
  context : ∃ ctx, contextAt c s actor row.space = .ok ctx
  owner : row.owner = actor.id ∨ actor.isSpaceAdmin = true

instance (c : Conditions) (s : Store) (actor : User) (row : Series) :
    Decidable (MayCancel c s actor row) :=
  decidable_of_iff
    ((contextAt c s actor row.space).isOk = true ∧
      (row.owner = actor.id ∨ actor.isSpaceAdmin = true))
    ⟨fun ⟨hcontext, howner⟩ => by
      rcases hctx : contextAt c s actor row.space with _ | ctx
      · simp [hctx, Except.isOk, Except.toBool] at hcontext
      · exact ⟨⟨ctx, hctx⟩, howner⟩,
    fun ⟨⟨ctx, hctx⟩, howner⟩ => ⟨by rw [hctx]; rfl, howner⟩⟩

theorem MayCancel.of_sameSetup {s s' : Store} {row : Series} (h : MayCancel c s actor row)
    (hsetup : s.SameSetup s') : MayCancel c s' actor row where
  context := by
    rw [contextAt_of_sameSetup hsetup]
    exact h.context
  owner := h.owner

/-- **How giving up a series can go**: it stops before or at one of the bookings or at the series
itself, or goes through to the end. -/
inductive Cancellation (c : Conditions) (actor : User) (id : Id) (w : World) :
    Except Failure Unit → World → Prop where
  | stopped {w' : World} {done : List Booking} (failure : Failure) :
      Dissolved id c.now w done w' →
      (c.Reliable → ∀ row, w.store.series.get? id = some row →
        ¬ MayCancel c w.store actor row) →
      Cancellation c actor id w (.error failure) w'
  | through {w' : World} {row : Series} {v : World} : w.store.series.get? id = some row →
      Dissolved id c.now w (w.store.bookingsOfSeries id) v →
      w'.Holds { v.store with series := v.store.series.erase id } v.minted
        (v.published ++ [.seriesDeleted id row.space
          (tallied c.now (w.store.bookingsOfSeries id)).1
          (tallied c.now (w.store.bookingsOfSeries id)).2]) →
      Cancellation c actor id w (.ok ()) w'

namespace Cancellation

/-- It stops before anything was changed. -/
theorem refused {failure : Failure} (hs : w.store.Consistent) (hw' : w.Unchanged w')
    (hno : c.Reliable → ∀ row, w.store.series.get? id = some row →
      ¬ MayCancel c w.store actor row) : Cancellation c actor id w (.error failure) w' :=
  .stopped failure (.of_untouched hs hw'.untouched) hno

/-- All bookings were released, and the series is to be removed. -/
theorem finish {row : Series} {bs : List Booking} (hstored : w.store.series.get? id = some row)
    (hbs : bs = w.store.bookingsOfSeries id) (hv : Dissolved id c.now w bs v)
    {o : Except Failure Unit}
    (h : (do
      Repository.deleteSeries id
      Action.publish (.seriesDeleted id row.space (tallied c.now bs).1 (tallied c.now bs).2) :
        Action Failure Unit) c v = (o, w')) : Cancellation c actor id w o w' := by
  have hdelete : v.store.deleteSeries id =
      .ok { v.store with series := v.store.series.erase id } := by
    refine if_pos ?_
    rw [hv.series, Table.contains, hstored, Option.isSome_some]
  subst hbs
  rcases change_publish_run h hdelete with ⟨failure, rfl, hfails, hw'⟩ | ⟨rfl, hw'⟩
  · have hleft := hv.trans (.of_untouched hv.consistent hw')
    exact .stopped failure hleft fun hc => absurd hc hfails.not_reliable
  · exact .through hstored hv hw'

end Cancellation

/-- The series that is to be given up, if the actor may do so. -/
def seriesToCancel (actor : User) (id : Id) : Action Failure Series := do
  let series ← storedSeries id
  let _ ← spaceContext actor series.space
  Action.ensure (series.owner = actor.id || actor.isSpaceAdmin) (.forbidden "not the series owner")
  return series

instance (actor : User) (id : Id) : Reads .reliable (seriesToCancel actor id) := by
  unfold seriesToCancel
  infer_instance

theorem answer_seriesToCancel {s : Store} {row : Series} (hrow : s.series.get? id = some row)
    (h : MayCancel c s actor row) : (seriesToCancel actor id).answer c s = .ok row := by
  obtain ⟨ctx, hctx⟩ := h.context
  have howner : (decide (row.owner = actor.id) || actor.isSpaceAdmin) = true := by
    simpa using h.owner
  simp only [seriesToCancel, answer_bind, answer_storedSeries, hrow, Option.elim_some, Except.bind,
    answer_spaceContext, hctx, answer_ensure, howner, if_true, answer_pure]

/-- A series that is to be given up is stored, and the actor may do so. -/
theorem seriesToCancel_ok {row : Series} (h : seriesToCancel actor id c w = (.ok row, w')) :
    w.store.series.get? id = some row ∧ MayCancel c w.store actor row := by
  obtain ⟨series, u₁, hseries, h⟩ := bind_eq_ok_iff.1 h
  obtain ⟨ctx, u₂, hcontext, h⟩ := bind_eq_ok_iff.1 h
  obtain ⟨_, u₃, howner, h⟩ := bind_eq_ok_iff.1 h
  cases h
  obtain ⟨hu₁, hans⟩ := Reads.of_ok hseries
  obtain ⟨-, hctx⟩ := Reads.of_ok hcontext
  obtain ⟨-, hallowed⟩ := Reads.of_ok howner
  rw [answer_storedSeries] at hans
  rw [answer_spaceContext, hu₁.store] at hctx
  rw [answer_ensure] at hallowed
  refine ⟨?_, ⟨ctx, hctx⟩, ?_⟩
  · cases hfound : w.store.series.get? id with
    | none => simp [hfound] at hans
    | some row' => simpa [hfound] using hans
  · split at hallowed
    · rename_i hmay
      simpa using hmay
    · cases hallowed

theorem cancelSeries_eq (actor : User) (id : Id) :
    cancelSeries actor id = (do
      let series ← seriesToCancel actor id
      let now ← Action.now
      let bs ← (liftM (Repository.bookingsOfSeries id) : Action Failure (List Booking))
      let (removed, detached) ← dissolve now bs
      Repository.deleteSeries id
      Action.publish (.seriesDeleted id series.space removed detached)) := by
  simp only [cancelSeries, seriesToCancel, bind_bind]
  rfl

theorem cancelSeries_run (hs : w.store.Consistent) {o : Except Failure Unit}
    (h : cancelSeries actor id c w = (o, w')) : Cancellation c actor id w o w' := by
  rw [cancelSeries_eq] at h
  rcases hrow : seriesToCancel actor id c w with ⟨failure | row, u⟩
  · rw [bind_apply, hrow] at h
    cases h
    refine .refused hs (Reads.of_run hrow) fun hc row hstored hmay => ?_
    have hans := Reads.answer_of_run hc hrow
    rw [answer_seriesToCancel hstored hmay] at hans
    cases hans
  obtain ⟨hstored, -⟩ := seriesToCancel_ok hrow
  have hu := Reads.of_run hrow
  rw [bind_of_ok hrow, show (Action.now >>= _) c u = _ from bind_of_ok rfl] at h
  rcases hfound : (liftM (Repository.bookingsOfSeries id) : Action Failure (List Booking)) c u
    with ⟨failure | bs, v⟩
  · rw [bind_apply, hfound] at h
    cases h
    refine .refused hs (hu.trans (Reads.of_run hfound)) fun hc _ _ _ => ?_
    cases Reads.answer_of_run hc hfound
  obtain ⟨hv, hans⟩ := Reads.of_ok hfound
  have hwv : w.Unchanged v := hu.trans hv
  have hbs : bs = w.store.bookingsOfSeries id := by
    cases hans
    rw [hu.store]
  rw [bind_of_ok hfound] at h
  have hstart : Dissolved id c.now w [] v := .of_untouched hs hwv.untouched
  have hlinked : (v.store.linked id).Perm bs := by
    rw [hbs, hwv.store]
    exact (w.store.bookingsOfSeries_perm id).symm
  rcases hdissolve : dissolve c.now bs c v with ⟨o₁, z⟩
  rcases dissolve_run hstart.consistent hlinked hdissolve with
    ⟨failure, done, rfl, hdown, hz⟩ | ⟨rfl, hz⟩
  · rw [bind_apply, hdissolve] at h
    cases h
    exact .stopped failure (hstart.trans hz) fun hc => absurd hc hdown
  rw [bind_of_ok hdissolve] at h
  exact .finish hstored hbs (hstart.trans hz) h

/-- If no call fails, somebody who may give up the series does. -/
theorem cancelSeries_of_mayCancel (hs : w.store.Consistent) (hc : c.Reliable) {row : Series}
    (hrow : w.store.series.get? id = some row) (hmay : MayCancel c w.store actor row) :
    (cancelSeries actor id c w).1 = .ok () := by
  rcases hrun : cancelSeries actor id c w with ⟨failure | _, w'⟩
  · cases cancelSeries_run hs hrun with
    | stopped _ _ hno => exact absurd hmay (hno hc row hrow)
  · rfl

/-- Without failing calls nothing happens to a series that is not given up. -/
theorem cancelSeries_untouched (hs : w.store.Consistent) (hc : c.Reliable) {failure : Failure}
    (h : cancelSeries actor id c w = (.error failure, w')) : w.Untouched w' := by
  cases cancelSeries_run hs h with
  | stopped _ _ hno =>
    rw [cancelSeries_eq] at h
    rcases hrow : seriesToCancel actor id c w with ⟨failure' | row, u⟩
    · rw [bind_apply, hrow] at h
      cases h
      exact (Reads.of_run hrow).untouched
    · obtain ⟨hstored, hmay⟩ := seriesToCancel_ok hrow
      exact absurd hmay (hno hc row hstored)

end Service

/-! ## Attempts in a row -/

/-- An attempt to give up a series that failed, with `now` as the time. -/
def FailedCancel (id : Id) (now : Int) (w w' : World) : Prop :=
  ∃ c actor failure, c.now = now ∧ cancelSeries actor id c w = (.error failure, w')

/-- **An attempt that failed** has released and published some bookings of the series. -/
theorem FailedCancel.dissolved (hs : w.store.Consistent) (h : FailedCancel id now w w') :
    ∃ done, Dissolved id now w done w' := by
  obtain ⟨c, actor, failure, rfl, hrun⟩ := h
  cases cancelSeries_run hs hrun with
  | stopped _ hdissolved _ => exact ⟨_, hdissolved⟩

/-- **Any number of attempts that failed**, by induction on them. -/
theorem FailedCancel.dissolved_many (hs : w.store.Consistent)
    (h : ReflTransGen (FailedCancel id now) w w') : ∃ done, Dissolved id now w done w' := by
  induction h with
  | refl => exact ⟨[], .refl id now hs⟩
  | tail _ hlast ih =>
    obtain ⟨done, hdone⟩ := ih
    obtain ⟨more, hmore⟩ := hlast.dissolved hdone.consistent
    exact ⟨done ++ more, hdone.trans hmore⟩

/-- A series was given up, at last: `first` is the world before all attempts, `last` the one before
the attempt that was carried out, and `after` the one after it. -/
structure SeriesRemoved (id : Id) (now : Int) (first last after : World) : Prop where
  consistent : after.store.Consistent
  setup : first.store.SameSetup after.store
  bookings : after.store.bookings.Perm (first.store.bookings.filterMap (·.released id now))
  rows : after.store.series = first.store.series.erase id
  /-- Each booking that was deleted by an earlier attempt was published by it. -/
  earlier : ∃ done, (first.store.linked id).Perm (done ++ last.store.linked id) ∧
    last.published = first.published ++ deletions now done
  /-- The bookings that were left were published in ascending order, and then the series. -/
  events : ∃ row bs removed detached, first.store.series.get? id = some row ∧
    bs.Perm (last.store.linked id) ∧ bs.Pairwise (fun a b => a.span.start ≤ b.span.start) ∧
    removed = bs.countP (·.ahead now) ∧ detached = bs.countP (!·.ahead now) ∧
    removed + detached = (last.store.linked id).length ∧
    after.published = last.published ++ deletions now bs ++
      [.seriesDeleted id row.space removed detached]

/-- The attempt that was carried out after others, which had released the bookings on `done`. -/
theorem SeriesRemoved.of_through {done : List Booking} (hdone : Dissolved id c.now w done v)
    (hrun : cancelSeries actor id c v = (.ok (), w')) : SeriesRemoved id c.now w v w' := by
  cases cancelSeries_run hdone.consistent hrun with
  | @through _ row z hrow hlast hw' =>
    have hall := hdone.trans hlast
    have hperm := v.store.bookingsOfSeries_perm id
    have hseries : z.store.SeriesOnly w'.store := by
      rw [hw'.store]
      rfl
    refine ⟨hseries.sameLedgers.consistent hall.consistent, hall.setup.trans hseries.sameSetup,
      ?_, ?_, ⟨done, hdone.linked, hdone.published⟩, ?_⟩
    · rw [hseries.sameLedgers.bookings, ← Store.filterMap_released_of_linked hlast.linked_eq_nil c.now]
      exact hall.bookings
    · rw [hw'.store, ← hall.series]
    · refine ⟨row, _, _, _, hdone.series ▸ hrow, hperm, v.store.bookingsOfSeries_sorted id, rfl, rfl,
        (tallied_add _ _).trans hperm.length_eq, ?_⟩
      rw [hw'.published, hlast.published]
      rfl

/-- **Giving up a series is exact, and can be resumed.** Whichever calls failed in earlier attempts
at the same time, an attempt that is carried out leaves what is left of each booking that was stored
before the first: those of the series that start after `now` are gone, wherever they had been moved
to, the others are on their own and otherwise as they were, and all other bookings are untouched.
And an attempt of somebody who may give up the series is carried out if no call fails. -/
theorem series_removal_exact (h : Reachable Step.Fresh w)
    (hattempts : ReflTransGen (FailedCancel id now) w v) :
    (∀ c actor w', c.now = now → cancelSeries actor id c v = (.ok (), w') →
      SeriesRemoved id now w v w') ∧
    ∀ c actor row, c.now = now → c.Reliable → w.store.series.get? id = some row →
      MayCancel c w.store actor row → (cancelSeries actor id c v).1 = .ok () := by
  obtain ⟨done, hdone⟩ := FailedCancel.dissolved_many h.consistent hattempts
  refine ⟨?_, ?_⟩
  · rintro c actor w' rfl hrun
    exact .of_through hdone hrun
  · rintro c actor row rfl hc hrow hmay
    exact cancelSeries_of_mayCancel hdone.consistent hc (hdone.series ▸ hrow)
      (hmay.of_sameSetup hdone.setup)

namespace Sample

/-- The desk was booked every day, and the last day moved to the room. -/
def moved : World :=
  [.administration (.putSpace room [] []), .request conditions (.bookSeries admin daily),
    .request conditions (.rebook admin (.ofNat 103) lastDay)]
    |>.foldl Step.apply world

theorem reachable_moved : Reachable Step.Fresh moved := reachable_fresh.steps (by decide +kernel)

/-- The second day begins. -/
def begun : Conditions := { conditions with now := 1000717200000 }

/-- The same, while no series can be removed. -/
def interrupted : Conditions := { down .deleteSeries with now := begun.now }

end Sample

/-- A first attempt releases the bookings, of which the one of the second day stays, but the series
cannot be removed. The next attempt removes it. -/
theorem series_removal_exact_desk :
    Reachable Step.Fresh Sample.moved ∧
    (Sample.moved.store.bookings.map (·.series)) =
      [none, some (.ofNat 101), some (.ofNat 101)] ∧
    (Sample.moved.store.bookings.filterMap (·.released (.ofNat 101) Sample.begun.now)).map
      (fun b => (b.id, b.series)) = [(.ofNat 100, none), (.ofNat 102, none)] ∧
    ∃ failure v w', cancelSeries Sample.admin (.ofNat 101) Sample.interrupted Sample.moved =
        (.error failure, v) ∧
      cancelSeries Sample.admin (.ofNat 101) Sample.begun v = (.ok (), w') ∧
      SeriesRemoved (.ofNat 101) Sample.begun.now Sample.moved v w' := by
  refine ⟨Sample.reachable_moved, by decide +kernel, by decide +kernel, ?_⟩
  rcases hfirst : cancelSeries Sample.admin (.ofNat 101) Sample.interrupted Sample.moved
    with ⟨failure | _, v⟩
  · have hattempts : ReflTransGen (FailedCancel (.ofNat 101) Sample.begun.now) Sample.moved v :=
      .single ⟨Sample.interrupted, Sample.admin, failure, rfl, hfirst⟩
    obtain ⟨hexact, hagain⟩ := series_removal_exact Sample.reachable_moved hattempts
    have hstored : (Sample.moved.store.series.get? (.ofNat 101)).any fun row =>
        decide (MayCancel Sample.begun Sample.moved.store Sample.admin row) := by decide +kernel
    obtain ⟨row, hrow, hmay⟩ := (Option.any_eq_true _ _).1 hstored
    replace hmay := of_decide_eq_true hmay
    have hdone := hagain Sample.begun Sample.admin row rfl ⟨fun _ _ => rfl, fun _ _ => rfl⟩ hrow hmay
    rcases hlast : cancelSeries Sample.admin (.ofNat 101) Sample.begun v with ⟨_ | _, w'⟩
    · rw [hlast] at hdone
      cases hdone
    · exact ⟨failure, v, w', rfl, hlast, hexact Sample.begun Sample.admin w' rfl hlast⟩
  · rw [cancelSeries_eq] at hfirst
    obtain ⟨_, _, -, hfirst⟩ := bind_eq_ok_iff.1 hfirst
    obtain ⟨_, _, -, hfirst⟩ := bind_eq_ok_iff.1 hfirst
    obtain ⟨_, _, -, hfirst⟩ := bind_eq_ok_iff.1 hfirst
    obtain ⟨_, _, -, hfirst⟩ := bind_eq_ok_iff.1 hfirst
    obtain ⟨_, _, hremove, -⟩ := bind_eq_ok_iff.1 hfirst
    obtain ⟨n, hup⟩ := up_of_change_ok (lift_eq_ok_iff.1 hremove)
    simp [Sample.interrupted, Sample.down] at hup

end SpaceBooking
