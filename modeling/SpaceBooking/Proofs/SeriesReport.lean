import SpaceBooking.Proofs.Runs

/-!
# Reports on series

Calls can fail at any instance of a series, and the others go on. The report, the bookings, the
table of series and the events stay in step nevertheless.

* `SeriesRequest.Expands` — what a request for a series asks for: the series and its instances.
* `SeriesReport.Truthful` — what a report says of the instances is what was stored and published.
* `bookSeries_truthful` — every report on a series that was booked is truthful, whichever calls
  failed on the way.
-/

namespace SpaceBooking

open SpaceBooking.Action Service

variable {c : Conditions} {w w' v : World} {actor : User} {req : SeriesRequest}

/-! ## What is asked for and what is reported -/

/-- A request asks for a series with these instances. However many more there could be, there are no
others. -/
structure SeriesRequest.Expands (c : Conditions) (s : Store) (actor : User) (req : SeriesRequest)
    (ctx : SpaceContext) (series : Series) (spans : List Span) : Prop where
  context : contextAt c s actor req.space = .ok ctx
  owner : ownerAt s actor req.onBehalfOf = .ok series.owner
  space : series.space = req.space
  subject : series.subject = req.subject
  cadence : series.cadence = req.cadence
  first : spanAt ctx.zone req.enter req.leave = .ok series.first
  stop : series.stop = ctx.zone.resolve req.stop
  instances : ∀ limit, spans.length ≤ limit → series.occurrences ctx.zone limit = spans

/-- The booking is the instance of a series on a span. -/
structure Booking.IsInstance (b : Booking) (series : Series) (span : Span) : Prop where
  span_eq : b.span = span
  owner : b.owner = series.owner
  space : b.space = series.space
  subject : b.subject = series.subject
  series : b.series = some series.id

/-- The report on a new series is what happened between two worlds, where the bookings in `created`
were made in this order. -/
structure SeriesReport.Truthful (report : SeriesReport) (w w' : World) (series : Series)
    (spans : List Span) (created : List Booking) : Prop where
  fresh : w.store.series.get? series.id = none
  /-- There is one entry for each instance, in order. -/
  spans_eq : report.instances.map (·.span) = spans
  indices : report.instances.map (·.index) = List.range spans.length
  /-- An entry is a success if and only if its booking is now stored. -/
  success_iff : ∀ r ∈ report.instances, r.success = true ↔
    ∃ b, r.booking.bind w'.store.booking? = some b ∧ b.IsInstance series r.span
  failed : ∀ r ∈ report.instances, r.success = false → r.booking = none
  /-- The bookings of the successes came, and no other booking changed. -/
  created_ids : created.map (·.id) = report.instances.filterMap (·.booking)
  bookings : w'.store.bookings.Perm (created ++ w.store.bookings)
  /-- The series is kept if there is a success. -/
  kept : report.series = if report.created = 0 then none else some series.id
  rows : w'.store.series =
    if report.created = 0 then w.store.series else w.store.series.insert series.id series
  events : ∃ failures, report.created + failures = report.instances.length ∧
    w'.published = w.published ++
      if report.created = 0 then []
      else created.flatMap createdEvents ++
        [.seriesCreated series.id series.space report.created failures]

/-! ## Lists of reports -/

namespace Attempt

/-- What does not depend on the place of an instance can be read off the attempts. -/
theorem map_reports {α : Type} {f : InstanceReport → α} {g : Attempt → α}
    (h : ∀ i a, f (report i a) = g a) (as : List Attempt) :
    (reports as).map f = as.map g := by
  refine List.ext_getElem ?_ fun i hi hi' => ?_
  · simp only [reports, List.length_map, List.length_mapIdx]
  · simp only [reports, List.getElem_map, List.getElem_mapIdx, h]

theorem map_index_reports (as : List Attempt) :
    (reports as).map (·.index) = List.range as.length := by
  refine List.ext_getElem ?_ fun i hi hi' => ?_
  · simp only [reports, List.length_map, List.length_mapIdx, List.length_range]
  · simp only [reports, List.getElem_map, List.getElem_mapIdx, List.getElem_range, report]

theorem mem_reports {as : List Attempt} {r : InstanceReport} (h : r ∈ reports as) :
    ∃ a ∈ as, ∃ i, r = a.report i := by
  obtain ⟨i, hi, rfl⟩ := List.mem_mapIdx.1 h
  exact ⟨as[i], List.getElem_mem hi, i, rfl⟩

end Attempt

namespace Service.InstanceRun

variable {plan : SeriesPlan} {series : Series} {as : List Attempt}

theorem ids_made (as : List Attempt) :
    (made as).map (·.id) = (Attempt.reports as).filterMap (·.booking) := by
  have hbooking := Attempt.map_reports (f := (·.booking)) (g := fun a => a.booking?.map (·.id))
    (fun _ _ => rfl) as
  calc (made as).map (·.id)
    _ = (as.map fun a => a.booking?.map (·.id)).filterMap fun o => o := by
      rw [made, List.map_filterMap, List.filterMap_map]
      rfl
    _ = (Attempt.reports as).filterMap (·.booking) := by
      rw [← hbooking, List.filterMap_map]
      rfl

/-- An instance is accepted just if a booking was made for it. -/
theorem accepted_eq (h : InstanceRun c actor plan series w as w') :
    ∀ a ∈ as, a.accepted = a.booking?.isSome := by
  intro a ha
  rcases h.outcome a ha with ⟨failure, hout⟩ | ⟨n, -, -, hout⟩
  · simp only [Attempt.accepted, Attempt.booking?, hout]
    rfl
  · simp only [Attempt.accepted, Attempt.booking?, hout]
    rfl

/-- As many instances are reported as successes as bookings were made. -/
theorem created_eq (h : InstanceRun c actor plan series w as w') (kept : Option Id) :
    SeriesReport.created ⟨kept, Attempt.reports as⟩ = (made as).length := by
  have hsuccess := Attempt.map_reports (f := (·.success)) (g := (·.accepted)) (fun _ _ => rfl) as
  rw [SeriesReport.created, made, List.length_filterMap_eq_countP]
  calc (Attempt.reports as).countP (·.success)
    _ = ((Attempt.reports as).map (·.success)).countP id := by rw [List.countP_map]; rfl
    _ = as.countP (·.accepted) := by rw [hsuccess, List.countP_map]; rfl
    _ = as.countP (·.booking?.isSome) :=
      List.countP_congr fun a ha => by rw [h.accepted_eq a ha]

/-- The booking that was made for an instance is the one of its span. -/
theorem isInstance (h : InstanceRun c actor plan series w as w') {a : Attempt} (ha : a ∈ as)
    {b : Booking} (hb : a.booking? = some b) : b.span = a.span ∧ b.owner = plan.owner ∧
      b.space = plan.ctx.space.id ∧ b.subject = series.subject ∧ b.series = some series.id := by
  rcases h.outcome a ha with ⟨failure, hout⟩ | ⟨n, -, -, hout⟩
  · simp [Attempt.booking?, hout] at hb
  · simp only [Attempt.booking?, hout, Option.some.injEq] at hb
    subst hb
    exact ⟨rfl, rfl, rfl, rfl, rfl⟩

end Service.InstanceRun

/-! ## From the run to the report -/

namespace Service.Attempted

variable {plan : SeriesPlan} {as : List Attempt}

/-- The series that was laid out is the one that was asked for. -/
theorem expands (h : Attempted c actor req w plan as v) (hs : w.store.Ordered) :
    req.Expands c w.store actor plan.ctx (plan.series req (c.mint w.minted)) plan.spans := by
  obtain ⟨u, hplan⟩ := h.planned
  obtain ⟨-, hctx, howner, hfirst, hstop, -, hspans, -⟩ := planSeries_ok hplan
  obtain ⟨hoccurs, hle, -⟩ := instancesAt_ok hspans
  exact {
    context := hctx
    owner := howner
    space := contextAt_space hs hctx
    subject := rfl
    cadence := rfl
    first := hfirst
    stop := hstop
    instances := Cadence.occurrences_complete hoccurs (Nat.lt_succ_of_le hle) }

/-- An entry of the report is a success just if its booking is found. -/
theorem success_iff (h : Attempted c actor req w plan as v) (hs : w.store.Ordered)
    (hs' : w'.store.Consistent) (hbookings : w'.store.bookings = v.store.bookings) :
    ∀ r ∈ Attempt.reports as, r.success = true ↔ ∃ b, r.booking.bind w'.store.booking? = some b ∧
      b.IsInstance (plan.series req (c.mint w.minted)) r.span := by
  obtain ⟨u, hu, hrun⟩ := h.run
  intro r hr
  obtain ⟨a, ha, i, rfl⟩ := Attempt.mem_reports hr
  show a.accepted = true ↔ ∃ b, (a.booking?.map (·.id)).bind w'.store.booking? = some b ∧
    b.IsInstance (plan.series req (c.mint w.minted)) a.span
  rw [hrun.accepted_eq a ha]
  constructor
  · intro hmade
    obtain ⟨b, hb⟩ := Option.isSome_iff_exists.1 hmade
    have hstored : b ∈ w'.store.bookings := by
      rw [hbookings, (h.bookings hs).mem_iff]
      exact List.mem_append_left _ (List.mem_filterMap.2 ⟨a, ha, hb⟩)
    obtain ⟨hspan, howner, hspace, hsubject, hseries⟩ := hrun.isInstance ha hb
    refine ⟨b, ?_, hspan, howner, hspace, hsubject, hseries⟩
    rw [hb]
    exact hs'.booking?_eq_some_iff.2 ⟨hstored, rfl⟩
  · rintro ⟨b, hb, -⟩
    cases hmade : a.booking? with
    | none => simp [hmade] at hb
    | some _ => rfl

/-- **The report on a series that was gone through is truthful**, if it tells whether the series was
kept, and what was stored and published at the end fits. -/
theorem truthful (h : Attempted c actor req w plan as v) (hs : w.store.Ordered)
    (hs' : w'.store.Consistent) (hfresh : w.store.series.get? (c.mint w.minted) = none)
    (hbookings : w'.store.bookings = v.store.bookings) {kept : Option Id}
    (hkept : kept = if (InstanceRun.made as).length = 0 then none else some (c.mint w.minted))
    (hrows : w'.store.series =
      if (InstanceRun.made as).length = 0 then w.store.series else v.store.series)
    (hevents : w'.published = w.published ++
      if (InstanceRun.made as).length = 0 then []
      else seriesEvents (plan.series req (c.mint w.minted)) as) :
    SeriesReport.Truthful ⟨kept, Attempt.reports as⟩ w w' (plan.series req (c.mint w.minted))
      plan.spans (InstanceRun.made as) := by
  obtain ⟨u, hu, hrun⟩ := h.run
  have hcreated := hrun.created_eq kept
  have hlength : (Attempt.reports as).length = as.length := List.length_mapIdx
  have hmade : (InstanceRun.made as).length ≤ as.length := List.length_filterMap_le _ _
  refine ⟨hfresh, ?_, ?_, h.success_iff hs hs' hbookings, ?_, InstanceRun.ids_made as,
    hbookings ▸ h.bookings hs, ?_, ?_, as.length - (InstanceRun.made as).length, ?_, ?_⟩
  · rw [← h.spans]
    exact Attempt.map_reports (fun _ _ => rfl) as
  · rw [← h.spans, List.length_map]
    exact Attempt.map_index_reports as
  · intro r hr hfail
    obtain ⟨a, ha, i, rfl⟩ := Attempt.mem_reports hr
    have haccepted := hrun.accepted_eq a ha
    rw [show a.accepted = false from hfail] at haccepted
    show a.booking?.map (·.id) = none
    rw [Option.map_eq_none_iff, ← Option.isNone_iff_eq_none, ← Option.isSome_eq_false_iff]
    exact haccepted.symm
  · rw [hcreated]
    exact hkept
  · rw [hcreated, hrows, h.series_eq]
    rfl
  · rw [hcreated, hlength]
    omega
  · rw [hcreated]
    exact hevents

end Service.Attempted

theorem Reachable.bookSeries {o : Except Failure SeriesReport} (h : Reachable Step.Fresh w)
    (hrun : Service.bookSeries actor req c w = (o, w'))
    (hfresh : c.Fresh w.store w.minted w'.minted) : Reachable Step.Fresh w' := by
  have happly : Step.apply w (.request c (.bookSeries actor req)) = w' := congrArg Prod.snd hrun
  rw [← happly] at hfresh ⊢
  exact .step _ h hfresh

/-- **The report on a series is truthful**, whichever calls failed while it was booked and whatever
was reported as conflicts: it has an entry for each instance that was asked for, and the successes
among them are the bookings that were made and the events that were published. -/
theorem bookSeries_truthful {report : SeriesReport} (h : Reachable Step.Fresh w)
    (hrun : bookSeries actor req c w = (.ok report, w'))
    (hfresh : c.Fresh w.store w.minted w'.minted) :
    ∃ ctx series spans created, req.Expands c w.store actor ctx series spans ∧
      report.Truthful w w' series spans created := by
  have hs := h.consistent.toOrdered
  have hs' := (h.bookSeries hrun hfresh).consistent
  cases bookSeries_run hrun with
  | dropped hattempted hmade hdelete hw' =>
    have hnew := hfresh.series w.minted (Nat.le_refl _) (hw'.minted ▸ hattempted.minted_lt)
    have honly := Store.deleteSeries_seriesOnly hdelete
    have hnone : (InstanceRun.made _).length = 0 := List.length_eq_zero_iff.2 hmade
    refine ⟨_, _, _, _, hattempted.expands hs, hattempted.truthful hs hs' hnew ?_ ?_ ?_ ?_⟩
    · rw [hw'.store, honly]
      rfl
    · rw [if_pos hnone]
    · rw [if_pos hnone, hw'.store, Store.deleteSeries_series hdelete, hattempted.series_eq,
        Table.erase_insert hnew]
    · rw [if_pos hnone, hw'.published, List.append_nil]
  | kept hattempted hmade hw' =>
    have hnew := hfresh.series w.minted (Nat.le_refl _) (hw'.minted ▸ hattempted.minted_lt)
    have hsome : (InstanceRun.made _).length ≠ 0 := fun h => hmade (List.length_eq_zero_iff.1 h)
    refine ⟨_, _, _, _, hattempted.expands hs, hattempted.truthful hs hs' hnew ?_ ?_ ?_ ?_⟩
    · rw [hw'.store]
    · rw [if_neg hsome]
    · rw [if_neg hsome, hw'.store]
    · rw [if_neg hsome, hw'.published]

/-- A daily booking of the desk: the first instance is on a slot that is taken, and the store fails
at the third. -/
theorem bookSeries_truthful_desk :
    Reachable Step.Fresh Sample.world ∧ ∃ report w',
      bookSeries Sample.admin Sample.daily Sample.flaky Sample.world = (.ok report, w') ∧
      Sample.flaky.Fresh Sample.world.store Sample.world.minted w'.minted ∧
      report.instances.map (·.success) = [false, true, false] ∧
      ∃ ctx series spans created,
        Sample.daily.Expands Sample.flaky Sample.world.store Sample.admin ctx series spans ∧
        report.Truthful Sample.world w' series spans created := by
  have hfresh : Sample.flaky.Fresh Sample.world.store Sample.world.minted
      (bookSeries Sample.admin Sample.daily Sample.flaky Sample.world).2.minted := by
    decide +kernel
  have hreport : (bookSeries Sample.admin Sample.daily Sample.flaky Sample.world).1.toOption.map
      (·.instances.map (·.success)) = some [false, true, false] := by decide +kernel
  rcases hrun : bookSeries Sample.admin Sample.daily Sample.flaky Sample.world
    with ⟨failure | report, w'⟩
  · rw [hrun] at hreport
    cases hreport
  · rw [hrun] at hreport hfresh
    exact ⟨Sample.reachable_fresh, report, w', rfl, hfresh, Option.some.inj hreport,
      bookSeries_truthful Sample.reachable_fresh hrun hfresh⟩

end SpaceBooking
