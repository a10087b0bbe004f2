import SpaceBooking.Proofs.Runs

/-!
# Series that could not be booked

A series is stored before its instances are looked at, and taken back if none of them was booked. A
request for a series that fails has booked and published nothing. The one thing that it can leave is
the series itself: when no instance was booked and the call that takes the series back fails.

* `failed_series_books_nothing` — what a request for a series that fails leaves.
* `failed_series_leaves_row` — such a request can leave a series without bookings.
-/

namespace SpaceBooking

open SpaceBooking.Action Service

variable {c : Conditions} {w w' v : World} {actor : User} {req : SeriesRequest}
  {plan : SeriesPlan} {as : List Attempt}

namespace Service

/-- Instances of which none was booked leave the store as it was. -/
theorem InstanceRun.store_of_made {series : Series} (h : InstanceRun c actor plan series w as w')
    (hmade : made as = []) : w'.store = w.store := by
  induction h with
  | done w => rfl
  | failed span failure hv _ _ ih => exact (ih hmade).trans hv.store
  | booked span => cases hmade

/-- After a series of which nothing was booked the store holds the series and is otherwise as it
was. -/
theorem Attempted.store_of_made (h : Attempted c actor req w plan as v)
    (hmade : InstanceRun.made as = []) :
    v.store = w.store.insertSeries (plan.series req (c.mint w.minted)) := by
  obtain ⟨u, hu, hrun⟩ := h.run
  exact (hrun.store_of_made hmade).trans hu.store

end Service

/-- **A request for a series that fails books and publishes nothing**, whichever calls failed. It
leaves the store as it was, except that it can leave the row of the new series; then the call which
was to take the row back failed. -/
theorem failed_series_books_nothing {failure : Failure}
    (hrun : bookSeries actor req c w = (.error failure, w')) :
    w'.published = w.published ∧ w'.store.bookings = w.store.bookings ∧
      w'.store.spaceOf = w.store.spaceOf ∧
      (w'.store = w.store ∨ c.Fails .deleteSeries failure ∧
        ∃ series, series.id = c.mint w.minted ∧ w'.store = w.store.insertSeries series) := by
  cases bookSeries_run hrun with
  | failed _ hw' _ =>
    rw [hw'.store]
    exact ⟨hw'.published, rfl, rfl, .inl rfl⟩
  | stuck _ hattempted hmade hw' hdown =>
    have hstore := hw'.store.trans (hattempted.store_of_made hmade)
    rw [hstore]
    exact ⟨hw'.published.trans hattempted.published, rfl, rfl, .inr ⟨hdown, _, rfl, rfl⟩⟩

/-! ## A series without bookings -/

namespace Sample

/-- The desk on the one day on which it is taken. -/
def taken : SeriesRequest := { daily with stop := request.leave }

end Sample

/-- The only instance is on a slot that is taken, and the series cannot be taken back. -/
theorem failed_series_books_nothing_desk :
    ∃ failure w', bookSeries Sample.admin Sample.taken (Sample.down .deleteSeries) Sample.world =
        (.error failure, w') ∧
      w'.published = Sample.world.published ∧
      w'.store.bookings = Sample.world.store.bookings ∧
      w'.store.spaceOf = Sample.world.store.spaceOf ∧
      (w'.store = Sample.world.store ∨ (Sample.down .deleteSeries).Fails .deleteSeries failure ∧
        ∃ series, series.id = .ofNat 101 ∧ w'.store = Sample.world.store.insertSeries series) := by
  have hfailed : (bookSeries Sample.admin Sample.taken (Sample.down .deleteSeries)
      Sample.world).1.isOk = false := by decide +kernel
  have hmint : (Sample.down .deleteSeries).mint Sample.world.minted = .ofNat 101 := by
    decide +kernel
  rcases hrun : bookSeries Sample.admin Sample.taken (Sample.down .deleteSeries) Sample.world
    with ⟨failure | report, w'⟩
  · rw [← hmint]
    exact ⟨failure, w', rfl, failed_series_books_nothing hrun⟩
  · rw [hrun] at hfailed
    cases hfailed

/-- **A request for a series that fails can leave a series behind.** No series is stored before it,
and one is after it. -/
theorem failed_series_leaves_row :
    Reachable Step.Fresh Sample.world ∧ ∃ failure w',
      bookSeries Sample.admin Sample.taken (Sample.down .deleteSeries) Sample.world =
        (.error failure, w') ∧
      (Sample.down .deleteSeries).Fresh Sample.world.store Sample.world.minted w'.minted ∧
      Sample.world.store.series.size = 0 ∧ w'.store.series.size = 1 := by
  have hfailed : (bookSeries Sample.admin Sample.taken (Sample.down .deleteSeries)
      Sample.world).1.isOk = false := by decide +kernel
  have hfresh : (Sample.down .deleteSeries).Fresh Sample.world.store Sample.world.minted
      (bookSeries Sample.admin Sample.taken (Sample.down .deleteSeries) Sample.world).2.minted := by
    decide +kernel
  have hbefore : Sample.world.store.series.size = 0 := by decide +kernel
  have hafter : (bookSeries Sample.admin Sample.taken (Sample.down .deleteSeries)
      Sample.world).2.store.series.size = 1 := by decide +kernel
  rcases hrun : bookSeries Sample.admin Sample.taken (Sample.down .deleteSeries) Sample.world
    with ⟨failure | report, w'⟩
  · rw [hrun] at hfresh hafter
    exact ⟨Sample.reachable_fresh, failure, w', rfl, hfresh, hbefore, hafter⟩
  · rw [hrun] at hfailed
    cases hfailed

end SpaceBooking
