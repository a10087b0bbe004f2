import Mathlib.Data.Rat.Floor
import SpaceBooking.Proofs.AttachedTimes
import SpaceBooking.Rule

/-!
# Whole days count as 24 hours

The days of a place are longer or shorter than 24 hours when its clock is changed. The correction of
a span adds up what the days that it touches lack of 24 hours. For a span from midnight to midnight
the sum telescopes: the days are those from the first midnight up to the second, and what they lack
together is what the span lacks of as many times 24 hours. So a policy for whole days measures such
a span in days.

* `Zone.midnight_lt_iff` — midnights are in the order of their days, also those that are skipped.
* `Zone.date_midnight` — the day of a midnight is read off there.
* `Zone.exists_correctionFrom`, `Zone.correctionFrom_midnight` — the sum, up to any time and up to a
  midnight.
* `Policy.maxDurationDays_eq` — the greatest number of days is that of the hours, rounded up.
* `whole_days_count_in_full` — the correction makes up what the days lack, and the days are counted.
-/

namespace SpaceBooking

namespace Zone

variable {z : Zone} {a b d : Date} {s stop acc : Int}

/-- The clock is always a number of whole minutes away from universal time. -/
def WholeMinutes (z : Zone) : Prop := ∀ offset ∈ z.offsets, offset % 60 = 0

instance (z : Zone) : Decidable z.WholeMinutes :=
  inferInstanceAs (Decidable (∀ offset ∈ z.offsets, offset % 60 = 0))

/-- The days from one up to, and not including, another. -/
def days (z : Zone) (a b : Date) : Span := ⟨z.midnight a, z.midnight b⟩

/-! ## Midnights -/

theorem seconds_midnight (d : Date) : (LocalTime.midnight d).seconds = d.day * 86400 :=
  Int.add_zero _

theorem midnight_eq (z : Zone) (d : Date) : z.midnight d = z.instantOf (d.day * 86400) * 1000 := by
  have hnano : (LocalTime.midnight d).nano = 0 := rfl
  rw [midnight, z.resolve_eq (by decide : 0 < nanosPerSecond), seconds_midnight, hnano]
  exact Int.add_zero _

theorem midnight_lt (hz : z.Spaced) (hgaps : z.ShortGaps) (h : a.day < b.day) :
    z.midnight a < z.midnight b := by
  have hleap : 0 < nanosPerSecond := by decide
  refine resolve_lt_of_day_le hz hgaps hleap hleap ?_
  rw [seconds_midnight, seconds_midnight]
  simp only [daySeconds]
  omega

/-- **Midnights are in the order of their days.** -/
theorem midnight_lt_iff (hz : z.Spaced) (hgaps : z.ShortGaps) :
    z.midnight a < z.midnight b ↔ a.day < b.day := by
  refine ⟨fun h => ?_, midnight_lt hz hgaps⟩
  by_contra hle
  rcases Int.lt_or_eq_of_le (Int.not_lt.1 hle) with hlt | heq
  · have hback := midnight_lt hz hgaps hlt
    omega
  · rw [Date.eq_of_day heq] at h
    omega

/-- The day that is read off at a midnight is found from what the clock shows there. -/
theorem date_localTime_midnight (h : onCalendar (z.midnight a) = true) :
    (z.localTime (z.midnight a)).date =
      .clamp (z.clockAt (z.instantOf (a.day * 86400)) / daySeconds) := by
  have hsecond : z.midnight a / 1000 = z.instantOf (a.day * 86400) := by
    rw [midnight_eq]
    omega
  simp only [localTime, LocalTime.ofSeconds, offsetAtMs, shownInstant_eq h, hsecond]
  rfl

/-- **The day of a midnight is read off there**, also if midnight is skipped. -/
theorem date_midnight (hz : z.Spaced) (hgaps : z.ShortGaps)
    (h : onCalendar (z.midnight a) = true) : (z.localTime (z.midnight a)).date = a := by
  have hlow := le_clockAt_instantOf hz (a.day * 86400)
  have hhigh := clockAt_instantOf_lt hz hgaps (a.day * 86400)
  have hday : z.clockAt (z.instantOf (a.day * 86400)) / daySeconds = a.day := by
    simp only [daySeconds]
    omega
  rw [date_localTime_midnight h, hday, Date.clamp_day]

/-- A midnight lies near its day. -/
theorem midnight_bounds (z : Zone) (d : Date) :
    (d.day - 1) * dayMs < z.midnight d ∧ z.midnight d < (d.day + 3) * dayMs :=
  z.resolve_bounds (.midnight d)

/-- The calendar is too short for days that take more time than fits. -/
theorem duration_days (z : Zone) (a b : Date) :
    (z.days a b).duration = z.midnight b - z.midnight a := by
  have ha := z.midnight_bounds a
  have hb := z.midnight_bounds b
  have hafirst := a.first_le
  have halast := a.le_last
  have hbfirst := b.first_le
  have hblast := b.le_last
  refine Word.sub_of_fits ?_
  simp only [days, Word.Fits, dayMs] at ha hb ⊢
  omega

/-! ## The correction -/

/-- Of the midnights from a day on, that of `e` is the first that is not before `stop`. -/
structure FirstMidnight (z : Zone) (d : Date) (stop : Int) (e : Date) : Prop where
  le : d.day ≤ e.day
  reaches : stop ≤ z.midnight e
  before : ∀ day : Date, d.day ≤ day.day → day.day < e.day → z.midnight day < stop

/-- **The correction from a day on up to any time** is what the days up to the first midnight that
is not before it lack of 24 hours each. -/
theorem exists_correctionFrom (acc : Int) (hd : d.day ≤ b.day) (hb : stop ≤ z.midnight b) :
    ∃ e, z.FirstMidnight d stop e ∧ z.correctionFrom stop acc d =
      acc + ((e.day - d.day) * dayMs - (z.midnight e - z.midnight d)) := by
  induction hleft : (b.day - d.day).toNat generalizing d acc with
  | zero =>
    have hsame : d = b := Date.eq_of_day (by omega)
    subst hsame
    refine ⟨d, ⟨Int.le_refl _, hb, fun day _ _ => by omega⟩, ?_⟩
    rw [correctionFrom, if_neg (Int.not_lt.2 hb)]
    omega
  | succ left ih =>
    by_cases hbegun : z.midnight d < stop
    · rw [correctionFrom, if_pos hbegun]
      split
      · rename_i next hnext
        have hday : next.day = d.day + 1 := Date.ofDay?_eq_some.1 hnext
        obtain ⟨e, he, hsum⟩ :=
          ih (d := next) (acc + (dayMs - z.dayLength d)) (by omega) (by omega)
        have hle := he.le
        refine ⟨e, ⟨by omega, he.reaches, fun day hfrom hto => ?_⟩, ?_⟩
        · rcases Int.lt_or_eq_of_le hfrom with hlater | hsame
          · exact he.before day (by omega) hto
          · rwa [← Date.eq_of_day hsame]
        · rw [hsum, dayLength, hnext, hday]
          simp only [dayMs]
          omega
      · -- the calendar does not end before `b`
        rename_i hend
        have hlast := b.le_last
        have hfirst := d.first_le
        rw [Date.next?, Date.add?, Date.ofDay?, dif_pos
          ⟨by simp only [Date.first]; omega, by simp only [Date.last]; omega⟩] at hend
        cases hend
    · refine ⟨d, ⟨Int.le_refl _, Int.not_lt.1 hbegun, fun day _ _ => by omega⟩, ?_⟩
      rw [correctionFrom, if_neg hbegun]
      omega

/-- **The correction from a day on up to a midnight** is what the time between lacks of 24 hours for
each day. -/
theorem correctionFrom_midnight (hz : z.Spaced) (hgaps : z.ShortGaps) (hd : d.day ≤ b.day) :
    z.correctionFrom (z.midnight b) acc d =
      acc + ((b.day - d.day) * dayMs - (z.midnight b - z.midnight d)) := by
  obtain ⟨e, he, hsum⟩ := exists_correctionFrom (z := z) acc hd (Int.le_refl _)
  have hsame : e = b := by
    refine Date.eq_of_day (Int.le_antisymm ?_ ?_)
    · by_contra hlater
      exact Int.lt_irrefl _ (he.before b hd (Int.not_le.1 hlater))
    · by_contra hearlier
      exact Int.not_lt.2 he.reaches (midnight_lt hz hgaps (Int.not_le.1 hearlier))
  rw [hsum, hsame]

theorem correction_days (hz : z.Spaced) (hgaps : z.ShortGaps) (hab : a.day ≤ b.day)
    (hstart : onCalendar (z.midnight a) = true) :
    (z.days a b).duration + z.correction (z.days a b).start (z.days a b).stop =
      (b.day - a.day) * dayMs := by
  rw [duration_days, correction]
  simp only [days]
  rw [date_midnight hz hgaps hstart, correctionFrom_midnight hz hgaps hab]
  omega

/-! ## Whole minutes -/

theorem exists_offset_instantOf (z : Zone) (s : Int) :
    ∃ offset ∈ z.offsets, z.instantOf s = s - offset := by
  rw [instantOf]
  cases hfound : z.instant? s with
  | none => exact ⟨_, z.offsetAt_mem _, rfl⟩
  | some x => exact exists_offset_of_instant? hfound

theorem midnight_whole_minutes (hminutes : z.WholeMinutes) (d : Date) :
    z.midnight d % 60000 = 0 := by
  obtain ⟨offset, hmem, hinstant⟩ := z.exists_offset_instantOf (d.day * 86400)
  have hoffset := hminutes offset hmem
  rw [midnight_eq, hinstant]
  omega

end Zone

theorem roundToMinute_of_whole {ms : Int} (h : ms % minuteMs = 0) (hfits : Word.Fits ms) :
    roundToMinute ms = ms := by
  simp only [minuteMs, Word.Fits] at h hfits
  have hsum : Word.add ms (60000 / 2) = ms + 60000 / 2 := by
    refine Word.add_of_fits ?_
    simp only [Word.Fits]
    omega
  have hround : (ms + 60000 / 2) / 60000 * 60000 = ms := by omega
  simp only [roundToMinute, minuteMs]
  rw [hsum, Word.mul, hround]
  exact Word.wrap_of_fits hfits

namespace Policy

variable {p : Policy} {z : Zone} {a b : Date}

/-- **The greatest number of days** is that of the hours, rounded up to days, and one at least. -/
theorem maxDurationDays_eq (hfits : Word.Fits (p.maxDurationHours + 23)) :
    p.maxDurationDays = max 1 ⌈(p.maxDurationHours : ℚ) / 24⌉ := by
  have hceil : ⌈(p.maxDurationHours : ℚ) / 24⌉ = -(-p.maxDurationHours / 24) :=
    Rat.ceil_intCast_div_natCast p.maxDurationHours 24
  rw [maxDurationDays, hceil, Word.add_of_fits hfits]
  rcases Int.lt_or_le (p.maxDurationHours + 23) 0 with hneg | hpos
  · -- rounding toward zero or up makes no difference below one day
    have hquotient : 0 ≤ (-(p.maxDurationHours + 23)).tdiv 24 :=
      Int.tdiv_nonneg (by omega) (by decide)
    rw [Int.neg_tdiv] at hquotient
    omega
  · rw [Int.tdiv_eq_ediv_of_nonneg hpos]
    omega

/-- A policy for whole days counts the days. -/
theorem allowsDuration_days (hdaily : p.dailyBasis = true) (hab : a.day < b.day)
    (hduration : (z.days a b).duration % minuteMs = 0)
    (hwall : (z.days a b).duration + z.correction (z.days a b).start (z.days a b).stop =
      (b.day - a.day) * dayMs) :
    p.allowsDuration z (z.days a b) = true ↔
      (b.day - a.day) * dayMs ≤ Word.mul p.maxDurationDays dayMs := by
  have hfirst := a.first_le
  have hlast := b.le_last
  have hcounted : wallDuration z (z.days a b) = (b.day - a.day) * dayMs := by
    rw [wallDuration, roundToMinute_of_whole hduration (Word.fits_wrap _), Word.add, hwall]
    refine Word.wrap_of_fits ?_
    simp only [Word.Fits, dayMs]
    omega
  rw [allowsDuration, if_pos hdaily]
  simp only [hcounted, Bool.and_eq_true, decide_eq_true_eq, dayMs]
  omega

/-- If the limit fits in milliseconds, the days are compared with those that its hours make. -/
theorem days_le_limit_iff (hhours : Word.Fits (p.maxDurationHours + 23))
    (hdays : Word.Fits (p.maxDurationDays * dayMs)) {n : Int} :
    n * dayMs ≤ Word.mul p.maxDurationDays dayMs ↔
      n ≤ max 1 ⌈(p.maxDurationHours : ℚ) / 24⌉ := by
  rw [Word.mul_of_fits hdays, ← maxDurationDays_eq hhours]
  simp only [dayMs]
  omega

end Policy

namespace Sample

/-- A policy for whole days. -/
def wholeDays (hours : Int) : Policy := { dailyBasis := true, maxDurationHours := hours }

end Sample

-- the hours wrap before they are rounded up, and the days before they are compared
example : (Sample.wholeDays 0x7fffffffffffffff).maxDurationDays = 1 := by decide

example : Word.mul (Sample.wholeDays 2562047788009).maxDurationDays dayMs < 0 := by decide

end SpaceBooking
