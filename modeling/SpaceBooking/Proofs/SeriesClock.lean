import SpaceBooking.Proofs.SeriesReport
import SpaceBooking.Proofs.WallClock

/-!
# The days and the time of day of a series

A series keeps its first instance as instants. To lay it out, the wall clock is read off at the first
start, and that time of day is attached on each day that the rule picks. So all instances start when
the clock shows what it showed at the first start: what was asked for, if there is such a time on the
first day, and else the time to which it was pushed on.

* `Cadence.dayAfter?` — the days that the rule picks, step by step.
* `Cadence.daily_dayAfter?`, `Cadence.weekly_dayAfter?` — they are so many days apart, and fall on
  the listed weekdays.
* `Cadence.KeepsClock` — instances start at a time of day on such days.
* `series_keeps_clock` — so do all instances that are reported, of series that are booked or tried.
* `series_moves_skipped_time` — a time that was skipped on the first day is not kept on the others.
-/

namespace SpaceBooking

open SpaceBooking.Action Service

/-! ## Days -/

namespace Weekday

/-- The weekday some days later. -/
def later (d : Weekday) (n : Nat) : Weekday :=
  ofIndex ⟨(d.index + n) % 7, Nat.mod_lt _ (by decide)⟩

theorem later_eq {d e : Weekday} {n : Nat} (h : (d.index + n) % 7 = e.index) : d.later n = e := by
  have hindex : (⟨(d.index + n) % 7, Nat.mod_lt _ (by decide)⟩ : Fin 7) = e.index := Fin.ext h
  rw [later, hindex, ofIndex_index]

end Weekday

theorem Date.weekday_add {d e : Date} {n : Nat} (h : d.add? n = some e) :
    e.weekday = d.weekday.later n := by
  have hday : e.day = d.day + n := Date.ofDay?_eq_some.1 h
  refine (Weekday.later_eq ?_).symm
  simp only [weekday, Weekday.index_ofIndex, hday]
  omega

namespace WeekdaySet

theorem mem_toList {s : WeekdaySet} {d : Weekday} : d ∈ s.toList ↔ s.contains d = true := by
  have hall : d ∈ Weekday.all := by cases d <;> decide
  simp only [toList, List.mem_filter, hall, true_and]

end WeekdaySet

namespace Cadence

variable {c : Cadence} {zone : Zone} {clock : LocalTime} {duration stop : Int} {n limit i : Nat}
  {weekdays : WeekdaySet} {d e : Date}

/-- From a listed weekday the way leads to a listed weekday. -/
theorem contains_daysToNextWeekday {today : Weekday} (h : weekdays.contains today = true)
    (cycle : Nat) :
    weekdays.contains (today.later (daysToNextWeekday cycle weekdays today)) = true := by
  unfold daysToNextWeekday
  split
  · -- later in the same week
    rename_i next hfound
    have hlater : today.index < next.index := by simpa using List.find?_some hfound
    have hday : today.later (next.index - today.index) = next := Weekday.later_eq (by omega)
    rw [hday]
    exact WeekdaySet.mem_toList.1 (List.mem_of_find?_eq_some hfound)
  · -- the first of the set in a later week
    have hmem := WeekdaySet.mem_toList.2 h
    obtain ⟨first, rest, hlist⟩ := List.exists_cons_of_ne_nil (List.ne_nil_of_mem hmem)
    have hday : today.later (7 - today.index + first.index + 7 * (cycle - 1)) = first :=
      Weekday.later_eq (by omega)
    simp only [hlist, List.headD_cons, hday]
    rw [← WeekdaySet.mem_toList, hlist]
    exact List.mem_cons_self

/-- The day that the rule picks some steps after a day. -/
def dayAfter? (c : Cadence) : Nat → Date → Option Date
  | 0, d => some d
  | i + 1, d => (d.add? (c.daysToNext d)).bind (c.dayAfter? i)

theorem daily_dayAfter? (h : (daily n).dayAfter? i d = some e) : e.day = d.day + i * n := by
  induction i generalizing d with
  | zero =>
    cases h
    simp
  | succ i ih =>
    obtain ⟨next, hnext, hrest⟩ := Option.bind_eq_some_iff.1 h
    have hday : next.day = d.day + n := Date.ofDay?_eq_some.1 hnext
    rw [ih hrest, hday, Int.natCast_succ, Int.add_mul]
    omega

theorem weekly_dayAfter? (hd : weekdays.contains d.weekday = true)
    (h : (weekly n weekdays).dayAfter? i d = some e) : weekdays.contains e.weekday = true := by
  induction i generalizing d with
  | zero =>
    cases h
    exact hd
  | succ i ih =>
    obtain ⟨next, hnext, hrest⟩ := Option.bind_eq_some_iff.1 h
    refine ih ?_ hrest
    rw [Date.weekday_add hnext]
    exact contains_daysToNextWeekday hd n

theorem weekly_firstDay? (h : (weekly n weekdays).firstDay? d = some e) :
    weekdays.contains e.weekday = true := by
  unfold firstDay? at h
  split at h
  · cases h
  · obtain ⟨k, hfound, hadd⟩ := Option.bind_eq_some_iff.1 h
    have hlisted := List.find?_some hfound
    rw [Date.weekday_add hadd]
    exact hlisted

theorem daily_firstDay? (h : (daily n).firstDay? d = some e) : e = d := by
  unfold firstDay? at h
  split at h
  · cases h
  · cases h
    rfl

/-! ## Starts -/

/-- Each instance starts at the time of day of the clock, on the day that the rule picks for it. -/
theorem start_of_occurrencesFrom {day : Option Date} {span : Span}
    (h : (c.occurrencesFrom zone clock duration stop limit day)[i]? = some span) :
    ∃ first picked, day = some first ∧ c.dayAfter? i first = some picked ∧
      span.start = zone.resolve (clock.onDate picked) := by
  induction limit generalizing day i with
  | zero => simp [occurrencesFrom] at h
  | succ limit ih =>
    cases day with
    | none => simp [occurrencesFrom] at h
    | some first =>
      rw [occurrencesFrom] at h
      split at h
      · simp at h
      · cases i with
        | zero =>
          cases h
          exact ⟨first, first, rfl, rfl, rfl⟩
        | succ i =>
          rw [List.getElem?_cons_succ] at h
          obtain ⟨next, picked, hnext, hpicked, hstart⟩ := ih h
          exact ⟨first, picked, rfl, Option.bind_eq_some_iff.2 ⟨next, hnext, hpicked⟩, hstart⟩

/-- Instances start at the time of day of a clock: those of a daily series so many days after the
date of the clock, those of a weekly one on listed weekdays. -/
structure KeepsClock (c : Cadence) (zone : Zone) (clock : LocalTime) (starts : List Int) : Prop where
  daily : ∀ cycle, c = .daily cycle → ∀ (i : Nat) (start : Int), starts[i]? = some start →
    ∃ day : Date, day.day = clock.date.day + i * cycle ∧ start = zone.resolve (clock.onDate day)
  weekly : ∀ cycle weekdays, c = .weekly cycle weekdays → ∀ start ∈ starts,
    ∃ day : Date, weekdays.contains day.weekday = true ∧ start = zone.resolve (clock.onDate day)

/-- **A series keeps the clock of its first start.** -/
theorem keepsClock (c : Cadence) (zone : Zone) (first : Span) (stop : Int) (limit : Nat) :
    c.KeepsClock zone (zone.localTime first.start)
      ((c.occurrences zone first stop limit).map (·.start)) where
  daily cycle hc i start hstart := by
    rw [List.getElem?_map] at hstart
    obtain ⟨span, hspan, rfl⟩ := Option.map_eq_some_iff.1 hstart
    obtain ⟨day, picked, hday, hpicked, hattached⟩ := start_of_occurrencesFrom hspan
    subst hc
    rw [daily_firstDay? hday] at hpicked
    exact ⟨picked, daily_dayAfter? hpicked, hattached⟩
  weekly cycle weekdays hc start hstart := by
    obtain ⟨span, hmem, rfl⟩ := List.mem_map.1 hstart
    obtain ⟨i, hspan⟩ := List.mem_iff_getElem?.1 hmem
    obtain ⟨day, picked, hday, hpicked, hattached⟩ := start_of_occurrencesFrom hspan
    subst hc
    exact ⟨picked, weekly_dayAfter? (weekly_firstDay? hday) hpicked, hattached⟩

end Cadence

/-! ## Reports -/

namespace Service

variable {c : Conditions} {w w' : World} {actor : User} {req : SeriesRequest}
  {reports : List InstanceReport}

theorem tryInstances_spans {plan : SeriesPlan} {spans pending : List Span} {as : List Attempt}
    (h : tryInstances actor plan pending spans c w = (.ok as, w')) : as.map (·.span) = spans := by
  induction spans generalizing pending as w with
  | nil =>
    cases h
    rfl
  | cons span spans ih =>
    rw [tryInstances] at h
    obtain ⟨m, hattempt⟩ := attemptInstance_apply span (do
      admitInstance actor plan pending span
      return none) c w
    rw [bind_of_ok hattempt] at h
    obtain ⟨rest, u, hrest, h⟩ := bind_eq_ok_iff.1 h
    cases h
    rw [List.map_cons, ih hrest]

/-- What is reported about the instances of a series, when it is booked or tried out. -/
inductive Reports (c : Conditions) (w : World) (actor : User) (req : SeriesRequest) :
    List InstanceReport → Prop where
  | booked {report : SeriesReport} {w' : World} :
      bookSeries actor req c w = (.ok report, w') → Reports c w actor req report.instances
  | tried {reports : List InstanceReport} {w' : World} :
      precheckSeries actor req c w = (.ok reports, w') → Reports c w actor req reports

/-- There is one entry for each instance of the plan, in order. -/
theorem Reports.planned (h : Reports c w actor req reports) :
    ∃ plan u, planSeries actor req c w = (.ok plan, u) ∧ reports.map (·.span) = plan.spans := by
  have hreported : ∀ as : List Attempt, (Attempt.reports as).map (·.span) = as.map (·.span) :=
    Attempt.map_reports fun _ _ => rfl
  cases h with
  | booked hrun =>
    cases bookSeries_run hrun with
    | dropped hattempted _ _ _ =>
      obtain ⟨u, hplan⟩ := hattempted.planned
      exact ⟨_, u, hplan, (hreported _).trans hattempted.spans⟩
    | kept hattempted _ _ =>
      obtain ⟨u, hplan⟩ := hattempted.planned
      exact ⟨_, u, hplan, (hreported _).trans hattempted.spans⟩
  | tried hrun =>
    unfold precheckSeries at hrun
    obtain ⟨plan, u, hplan, hrun⟩ := bind_eq_ok_iff.1 hrun
    obtain ⟨as, v, htried, hrun⟩ := bind_eq_ok_iff.1 hrun
    cases hrun
    exact ⟨plan, u, hplan, (hreported as).trans (tryInstances_spans htried)⟩

end Service

theorem Limits.onCalendar_of_spanFailure? {span : Span} (hspan : span.start < span.stop)
    (h : Limits.spanFailure? span = none) : Zone.onCalendar span.start = true := by
  obtain ⟨hearliest, hlatest, -⟩ := Limits.spanFailure?_eq_none_iff.1 h
  refine Zone.onCalendar_iff.2 ?_
  simp only [Limits.earliest, Limits.latest, Date.first, Date.last, dayMs] at hearliest hlatest ⊢
  omega

/-- **A series keeps the time of day of its first start.** However a series is booked or tried out,
all instances that are reported start when the clock of the space shows what it shows where the
requested start was attached: those of a daily series so many days after that date, those of a
weekly one on the listed weekdays. If the requested time occurs, this is it. -/
theorem series_keeps_clock {c : Conditions} {w : World} {actor : User} {req : SeriesRequest}
    {reports : List InstanceReport} (h : Reports c w actor req reports) :
    ∃ ctx, contextAt c w.store actor req.space = .ok ctx ∧
      req.cadence.KeepsClock ctx.zone (ctx.zone.localTime (ctx.zone.resolve req.enter))
        (reports.map (·.span.start)) ∧
      (ctx.zone.InOrder → ctx.zone.Occurs req.enter →
        req.enter.nano < nanosPerSecond → req.enter.nano % 1000000 = 0 →
        ctx.zone.localTime (ctx.zone.resolve req.enter) = req.enter) := by
  obtain ⟨plan, u, hplan, hspans⟩ := h.planned
  obtain ⟨-, hctx, -, hfirst, -, -, hinstances, -⟩ := planSeries_ok hplan
  obtain ⟨hoccurs, -⟩ := instancesAt_ok hinstances
  obtain ⟨hspan, hlt, hbounds⟩ := spanAt_ok hfirst
  have hstart : plan.first.start = plan.ctx.zone.resolve req.enter := by rw [hspan]
  have hcalendar := Limits.onCalendar_of_spanFailure? hlt hbounds
  rw [hstart] at hcalendar
  refine ⟨plan.ctx, hctx, ?_, fun hz hthere hleap hwhole =>
    Zone.localTime_resolve hz hthere hleap hwhole hcalendar⟩
  have hstarts : reports.map (·.span.start) = plan.spans.map (·.start) := by
    rw [← hspans, List.map_map]
    rfl
  rw [hstarts, ← hstart, ← hoccurs]
  exact Cadence.keepsClock _ _ _ _ _

namespace Sample

/-- Central Europe in the last days of March 2026. Clocks go on from 2 to 3 on the 29th. -/
def spring : Conditions :=
  { conditions with
    zones := fun _ => some ZoneTable.centralEurope.zone
    now := 1774300000000 }

/-- The desk from 9 to 12, from the day before that on. -/
def morning : SeriesRequest :=
  { daily with
    enter := daily.enter.onDate (.clamp 20540)
    leave := daily.leave.onDate (.clamp 20540)
    stop := daily.stop.onDate (.clamp 20543) }

/-- The desk from 2 to 5, from that day on. -/
def night : SeriesRequest :=
  { morning with enter := clock 8961 ⟨2, by decide⟩, leave := clock 8961 ⟨5, by decide⟩ }

theorem contextAt_spring {ctx : SpaceContext}
    (h : contextAt spring world.store admin (.ofNat 4) = .ok ctx) :
    ctx.zone = ZoneTable.centralEurope.zone := by
  have hzone : (contextAt spring world.store admin (.ofNat 4)).toOption.map (·.zone) =
      some ZoneTable.centralEurope.zone := by decide +kernel
  rw [h] at hzone
  exact Option.some.inj hzone

end Sample

/-- The first day is an hour shorter than the second, and the clock shows 9 at all three starts. -/
theorem series_keeps_clock_desk :
    ∃ reports w', precheckSeries Sample.admin Sample.morning Sample.spring Sample.world =
        (.ok reports, w') ∧
      reports.map (·.span.start) = [1774684800000, 1774767600000, 1774854000000] ∧
      ∃ ctx, contextAt Sample.spring Sample.world.store Sample.admin (.ofNat 4) = .ok ctx ∧
        Sample.morning.cadence.KeepsClock ctx.zone Sample.morning.enter
          (reports.map (·.span.start)) := by
  have hstarts : (precheckSeries Sample.admin Sample.morning Sample.spring
      Sample.world).1.toOption.map (·.map (·.span.start)) =
      some [1774684800000, 1774767600000, 1774854000000] := by decide +kernel
  rcases hrun : precheckSeries Sample.admin Sample.morning Sample.spring Sample.world
    with ⟨failure | reports, w'⟩
  · rw [hrun] at hstarts
    cases hstarts
  · rw [hrun] at hstarts
    obtain ⟨ctx, hctx, hkeeps, hoccurs⟩ := series_keeps_clock (.tried hrun)
    have hshown : ctx.zone.localTime (ctx.zone.resolve Sample.morning.enter) =
        Sample.morning.enter := by
      rw [Sample.contextAt_spring hctx] at hoccurs ⊢
      exact hoccurs (by decide +kernel) ⟨1774684800, by decide +kernel⟩ (by decide) (by decide)
    rw [hshown] at hkeeps
    exact ⟨reports, w', rfl, Option.some.inj hstarts, ctx, hctx, hkeeps⟩

/-- **A time that is skipped on the first day is not kept**: the series is booked from 3 on the
other days too, when the clock does show the time that was asked for. -/
theorem series_moves_skipped_time :
    ¬ ∀ (c : Conditions) (w : World) (actor : User) (req : SeriesRequest)
      (reports : List InstanceReport), Reports c w actor req reports → req.enter.nano = 0 →
        ∃ ctx, contextAt c w.store actor req.space = .ok ctx ∧
          req.cadence.KeepsClock ctx.zone req.enter (reports.map (·.span.start)) := by
  intro hkept
  have hstarts : (precheckSeries Sample.admin Sample.night Sample.spring
      Sample.world).1.toOption.map (·.map (·.span.start)) =
      some [1774746000000, 1774832400000] := by decide +kernel
  rcases hrun : precheckSeries Sample.admin Sample.night Sample.spring Sample.world
    with ⟨failure | reports, w'⟩
  · rw [hrun] at hstarts
    cases hstarts
  · rw [hrun] at hstarts
    have hreported : reports.map (·.span.start) = [1774746000000, 1774832400000] :=
      Option.some.inj hstarts
    obtain ⟨ctx, hctx, hkeeps⟩ := hkept _ _ _ _ _ (.tried hrun) rfl
    rw [hreported, Sample.contextAt_spring hctx] at hkeeps
    -- the second instance would have to start at 2 on the day after
    obtain ⟨day, hday, hstart⟩ := hkeeps.daily 1 rfl 1 1774832400000 rfl
    have hnext : day = .clamp 20542 := by
      rw [← Date.clamp_day day, hday]
      rfl
    have hearlier : ZoneTable.centralEurope.zone.resolve
        (Sample.night.enter.onDate (.clamp 20542)) = 1774828800000 := by decide +kernel
    rw [hnext, hearlier] at hstart
    cases hstart

end SpaceBooking
