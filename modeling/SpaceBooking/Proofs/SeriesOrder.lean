import SpaceBooking.Proofs.AttachedTimes
import SpaceBooking.Proofs.RuleDays

/-!
# The order of the instances of a series

Each instance of a series is attached on its own. In a zone whose changes are far apart and skip
less than a day, the instances nevertheless come in order, and each of them reads back: it starts at
the time of day of the first start, or as much later as the clock was put on, if that time was
skipped.

The first instance is the one that was requested, if its start was attached and its day is one of
the rule. A leap second is the exception: it is read as the second after it, and if the clock is put
back then, that second is attached to an earlier instant.

* `Series.startOn_lt` — instances on later days start later.
* `Series.Steady` — the order of the instances, how long they take and what the clock shows.
* `series_steady` — all series are steady.
* `series_moves_leap_second` — a first start that was attached to a leap second is not kept.
-/

namespace SpaceBooking

theorem LocalTime.Exact.onDate {t : LocalTime} (h : t.Exact) (d : Date) : (t.onDate d).Exact :=
  ⟨h.no_leap, h.whole⟩

namespace Series

open Zone

variable {s : Series} {zone : Zone} {day other : Date} {days : List Date} {limit : Nat}
  {span : Span}

/-- Instances on later days start later. -/
theorem startOn_lt (hz : zone.Spaced) (hgaps : zone.ShortGaps) (s : Series)
    (h : day.day < other.day) : s.startOn zone day < s.startOn zone other := by
  have hclock := (zone.exact_localTime s.first.start).no_leap
  refine resolve_lt_of_day_le hz hgaps hclock hclock ?_
  simp only [LocalTime.seconds, LocalTime.onDate, daySeconds]
  omega

/-- The instances of a series come in order and keep the time of day of the first start, and the
first of them is kept as it was requested. -/
structure Steady (s : Series) (zone : Zone) (limit : Nat) : Prop where
  /-- Each instance starts later than the one before. -/
  ordered : ((s.occurrences zone limit).map (·.start)).Pairwise (· < ·)
  /-- Each takes as long as the first one that was requested. -/
  lasting : ∀ span ∈ s.occurrences zone limit, span.duration = s.first.duration
  /-- Each is attached at the time of day of the first start, on a day of the rule, and reads
  back. -/
  onTime : ∀ span ∈ s.occurrences zone limit, zone.Reaches span.start →
    ∃ day, s.cadence.Picks (zone.localTime s.first.start).date day ∧
      span.start = zone.resolve ((zone.localTime s.first.start).onDate day) ∧
      zone.ReadsBack ((zone.localTime s.first.start).onDate day)
  /-- If the first start was attached, to a time that is no leap second and on a day of the rule,
  the first instance is the one that was requested. -/
  firstKept : ∀ n : LocalTime, n.nano < nanosPerSecond → s.first.start = zone.resolve n →
    zone.Reaches s.first.start → Word.Fits s.first.stop →
    s.cadence.Picks (zone.localTime s.first.start).date (zone.localTime s.first.start).date →
    ∀ span, (s.occurrences zone limit).head? = some span → span = s.first

/-- The instances are on days of the rule in ascending order, with no day of the rule left out
before any of them. -/
theorem exists_days_of_occurrences (s : Series) (zone : Zone) :
    ∃ days : List Date, days.Pairwise (fun d e => d.day < e.day) ∧
      (∀ day ∈ days, s.cadence.Picks (zone.localTime s.first.start).date day) ∧
      (∀ day ∈ days, ∀ e, s.cadence.Picks (zone.localTime s.first.start).date e →
        e.day ≤ day.day → e ∈ days) ∧
      ∀ limit, s.occurrences zone limit = (days.map (s.spanOn zone)).take limit := by
  by_cases hnone : s.cadence.Void ∨ s.first.duration ≤ 0
  · refine ⟨[], .nil, by simp, by simp, fun limit => ?_⟩
    rw [occurrences, Cadence.occurrences_eq_nil hnone, List.map_nil, List.take_nil]
  · obtain ⟨hc, hduration⟩ := not_or.1 hnone
    obtain ⟨days, ⟨hincreasing, hmem⟩, hspans⟩ := exists_days zone hc (Int.not_le.1 hduration)
    refine ⟨days, hincreasing, fun day hday => ((hmem day).1 hday).1, fun day hday e he hle => ?_,
      hspans⟩
    refine (hmem e).2 ⟨he, fun d hd hde => ?_⟩
    exact ((hmem day).1 hday).2 d hd (Int.le_trans hde hle)

/-- Of days of a rule in ascending order, with none left out before any of them, the first is the
one that the rule is applied from, if that is a day of it. -/
theorem eq_of_picks {c : Cadence} {first : Date}
    (hincreasing : (day :: days).Pairwise fun d e => d.day < e.day)
    (hpicked : ∀ d ∈ day :: days, c.Picks first d)
    (hclosed : ∀ d ∈ day :: days, ∀ e, c.Picks first e → e.day ≤ d.day → e ∈ day :: days)
    (hfirst : c.Picks first first) : first = day := by
  have hle : first.day ≤ day.day := (hpicked day List.mem_cons_self).le
  rcases List.mem_cons.1 (hclosed day List.mem_cons_self first hfirst hle) with heq | hlater
  · exact heq
  · have hlt := (List.pairwise_cons.1 hincreasing).1 first hlater
    omega

/-- The instance on the day of the first start is the one that was requested. -/
theorem spanOn_first (hz : zone.Spaced) {n : LocalTime} (hleap : n.nano < nanosPerSecond)
    (hstart : s.first.start = zone.resolve n) (hreach : zone.Reaches s.first.start)
    (hfits : Word.Fits s.first.stop) :
    s.spanOn zone (zone.localTime s.first.start).date = s.first := by
  have hagain : s.startOn zone (zone.localTime s.first.start).date = s.first.start := by
    show zone.resolve (zone.localTime s.first.start) = s.first.start
    rw [hstart] at hreach ⊢
    exact resolve_localTime_resolve hz hleap hreach
  rw [spanOn, hagain, Span.duration, Word.add_sub_of_fits hfits]

end Series

open Series in
/-- **The instances of every series are in order and on time**, in zones whose changes are 48 hours
apart and skip less than 24 hours, and that are always less than 24 hours away from universal
time. -/
theorem series_steady {zone : Zone} (hz : zone.Spaced) (hgaps : zone.ShortGaps) (s : Series)
    (limit : Nat) : s.Steady zone limit := by
  obtain ⟨days, hincreasing, hpicked, hclosed, hspans⟩ := s.exists_days_of_occurrences zone
  have hday : ∀ span ∈ s.occurrences zone limit, ∃ day ∈ days, span = s.spanOn zone day := by
    intro span hspan
    rw [hspans] at hspan
    obtain ⟨day, hmem, rfl⟩ := List.mem_map.1 (List.mem_of_mem_take hspan)
    exact ⟨day, hmem, rfl⟩
  refine ⟨?ordered, ?lasting, ?onTime, ?firstKept⟩
  case ordered =>
    rw [hspans, List.map_take, List.map_map]
    refine List.Pairwise.take (List.pairwise_map.2 (hincreasing.imp fun h => ?_))
    exact startOn_lt hz hgaps s h
  case lasting =>
    intro span hspan
    obtain ⟨day, -, rfl⟩ := hday span hspan
    exact Word.sub_add_of_fits (Word.fits_wrap _)
  case onTime =>
    intro span hspan hreach
    obtain ⟨day, hmem, rfl⟩ := hday span hspan
    have hexact := (zone.exact_localTime s.first.start).onDate day
    exact ⟨day, hpicked day hmem, rfl, Zone.readsBack hz hexact hreach⟩
  case firstKept =>
    intro n hleap hstart hreach hfits hfirst span hhead
    rw [hspans] at hhead
    cases limit with
    | zero => cases hhead
    | succ limit =>
      cases days with
      | nil => cases hhead
      | cons day days =>
        have hsame := eq_of_picks hincreasing hpicked hclosed hfirst
        rw [List.map_cons, List.take_succ_cons, List.head?_cons, ← hsame,
          spanOn_first hz hleap hstart hreach hfits] at hhead
        exact (Option.some.inj hhead).symm

namespace Sample

/-- An hour from half past two every night from 2026-03-28 on. The time is skipped on the second
night. -/
def nightly : Series where
  id := .ofNat 1
  owner := .ofNat 2
  space := .ofNat 4
  subject := ""
  cadence := .daily 1
  first := ⟨1774661400000, 1774665000000⟩
  stop := 1774830600001

end Sample

open ZoneTable Sample in
/-- The nights are 24 and 23 hours apart. -/
theorem series_steady_nightly :
    centralEurope.zone.Spaced ∧ centralEurope.zone.ShortGaps ∧
      (nightly.occurrences centralEurope.zone 9).map (·.start) =
        [1774661400000, 1774747800000, 1774830600000] ∧
      nightly.Steady centralEurope.zone 9 :=
  ⟨spaced_centralEurope, shortGaps_centralEurope, by decide +kernel,
    series_steady spaced_centralEurope shortGaps_centralEurope nightly 9⟩

namespace Sample

/-- The leap second before three, with half a second gone, on 2026-10-25. The clocks of Central
Europe go back from three to two then. -/
def leapSecond : LocalTime :=
  ⟨.clamp 20751, 10799, 1500000000, by decide, by decide, by decide⟩

/-- From that leap second to four in the morning, until midnight. -/
def leaping : Series where
  id := .ofNat 1
  owner := .ofNat 2
  space := .ofNat 4
  subject := ""
  cadence := .daily 1
  first := ⟨1792890000500, 1792897200000⟩
  stop := 1792969200000

end Sample

open ZoneTable Sample in
/-- **A leap second is not kept**: the first start is attached to one, and the only instance starts
an hour before it, when the clock shows two for the first time. -/
theorem series_moves_leap_second :
    ¬ ∀ zone : Zone, zone.Spaced → zone.ShortGaps → ∀ (s : Series) (n : LocalTime),
      s.first.start = zone.resolve n → zone.Reaches s.first.start → Word.Fits s.first.stop →
      s.cadence.Picks (zone.localTime s.first.start).date (zone.localTime s.first.start).date →
      ∀ limit span, (s.occurrences zone limit).head? = some span → span = s.first := by
  intro hkept
  have hspan := hkept centralEurope.zone spaced_centralEurope shortGaps_centralEurope leaping
    leapSecond (by decide +kernel) (by decide +kernel) (by decide) ⟨0, by simp⟩ 1
    ⟨1792886400500, 1792893600000⟩ (by decide +kernel)
  revert hspan
  decide

end SpaceBooking
