import SpaceBooking.Proofs.WholeDays

/-!
# What passes for whole days

A policy for whole days adds the corrections of all days that a span touches to the time that it
takes. For a span from midnight these make up 24 hours for each of the days, less what is left of
the last one. So a span passes if a number of times 24 hours is left of the day on which it ends. If
nothing is left, it ends at midnight. But a day that is longer than 24 hours can have 24 hours left
when it has begun, and a span that ends then passes as well: it is counted as if it had not touched
the long day.

* `Zone.Customary` — the assumption on zones. All zones of the table meet it, also the one in which
  a whole day was skipped.
* `Zone.midnight_date_midnight` — the day that is read off at a midnight starts there.
* `Zone.Leaves` — how a day is left by a span that passes.
* `Policy.allowsDuration_iff` — just these spans pass, as many days as they are counted for.
* `whole_days_end_at_midnight` — what passes ends at a midnight or on a long day.
* `part_of_long_day_passes` — an hour of a long day passes together with the whole day before.
-/

namespace SpaceBooking

namespace Date

variable {n : Int}

theorem exists_day (hfirst : first.day ≤ n) (hlast : n ≤ last.day) : ∃ d : Date, d.day = n :=
  ⟨⟨n, hfirst, hlast⟩, rfl⟩

theorem day_clamp (hfirst : first.day ≤ n) (hlast : n ≤ last.day) : (clamp n).day = n := by
  rw [clamp, dif_pos hfirst, dif_pos hlast]

theorem clamp_of_last_lt (h : last.day < n) : clamp n = last := by
  have hfirst : first.day ≤ n := Int.le_of_lt (Int.lt_trans (by decide) h)
  rw [clamp, dif_pos hfirst, dif_neg (Int.not_le.2 h)]

end Date

namespace Zone

variable {z : Zone} {a b d : Date} {stop : Int} {n : Nat}

/-- The changes of the clock are like those of the zones in use: 48 hours apart, less than 24 hours
away from universal time, and none of them skips more than 24 hours. -/
structure Customary (z : Zone) : Prop where
  spaced : z.Spaced
  gaps : ∀ t ∈ z.transitions, z.jump t ≤ daySeconds

/-- Just before a transition the offset is the one that comes before it in the list. -/
theorem offsetFrom_before {R : Int → Int → Prop} {offset : Int} {t : Transition}
    {ts : List Transition} (hts : ts.Pairwise fun a b => a.instant < b.instant)
    (hchain : (offset :: ts.map (·.offset)).IsChain R) (ht : t ∈ ts) :
    R (offsetFrom offset (t.instant - 1) ts) t.offset := by
  induction ts generalizing offset with
  | nil => cases ht
  | cons u ts ih =>
    obtain ⟨hu, hts⟩ := List.pairwise_cons.1 hts
    rw [List.map_cons, List.isChain_cons_cons] at hchain
    rw [offsetFrom]
    rcases List.mem_cons.1 ht with rfl | ht
    · rw [if_neg (by omega)]
      exact hchain.1
    · have hpassed := hu t ht
      rw [if_pos (by omega)]
      exact ih hts hchain.2 ht

/-- It is enough to compare each offset with the next one. -/
theorem customary_of_isChain (hz : z.Spaced)
    (hchain : z.offsets.IsChain fun o o' : Int => o' - o ≤ daySeconds) :
    z.Customary := by
  refine ⟨hz, fun t ht => offsetFrom_before (hz.pairwise.imp fun h => ?_) hchain ht⟩
  simp only [daySeconds] at h
  omega

/-! ## Midnights -/

theorem Customary.clockAt_instantOf (hz : z.Customary) (d : Date) :
    d.day * 86400 ≤ z.clockAt (z.instantOf (d.day * 86400)) ∧
      z.clockAt (z.instantOf (d.day * 86400)) ≤ d.day * 86400 + 86400 :=
  ⟨le_clockAt_instantOf hz.spaced _, clockAt_instantOf_le hz.spaced (by decide) hz.gaps _⟩

/-- No midnight is later than that of a later day. They coincide if all of the day was skipped. -/
theorem midnight_le (hz : z.Customary) (h : a.day ≤ b.day) : z.midnight a ≤ z.midnight b := by
  rcases Int.lt_or_eq_of_le h with hlt | heq
  · have hbefore := (hz.clockAt_instantOf a).2
    have hafter := (hz.clockAt_instantOf b).1
    have hle : z.instantOf (a.day * 86400) ≤ z.instantOf (b.day * 86400) := by
      rcases Int.lt_or_eq_of_le (show z.clockAt (z.instantOf (a.day * 86400)) ≤
          z.clockAt (z.instantOf (b.day * 86400)) by omega) with hless | hsame
      · exact Int.le_of_lt (instantOf_lt hz.spaced hless)
      · exact instantOf_le hz.spaced hsame.symm
    rw [midnight_eq, midnight_eq]
    omega
  · rw [Date.eq_of_day heq]

/-- **The day that is read off at a midnight starts there.** It is the day itself or, if all of that
was skipped, the day after it. -/
theorem midnight_date_midnight (hz : z.Customary) (h : onCalendar (z.midnight a) = true) :
    a.day ≤ (z.localTime (z.midnight a)).date.day ∧
      z.midnight (z.localTime (z.midnight a)).date = z.midnight a := by
  have hfirst : Date.first.day ≤ a.day := a.first_le
  have hlast : a.day ≤ Date.last.day := a.le_last
  obtain ⟨hlow, hhigh⟩ := hz.clockAt_instantOf a
  have hagain := instantOf_clockAt hz.spaced (a.day * 86400)
  rw [date_localTime_midnight h]
  by_cases hshown : z.clockAt (z.instantOf (a.day * 86400)) < (a.day + 1) * 86400
  · have hday : z.clockAt (z.instantOf (a.day * 86400)) / daySeconds = a.day := by
      simp only [daySeconds]
      omega
    rw [hday, Date.clamp_day]
    exact ⟨Int.le_refl _, rfl⟩
  · have hday : z.clockAt (z.instantOf (a.day * 86400)) / daySeconds = a.day + 1 := by
      simp only [daySeconds]
      omega
    rw [hday]
    rcases Int.lt_or_eq_of_le hlast with hinside | hend
    · have hnext : (Date.clamp (a.day + 1)).day = a.day + 1 := Date.day_clamp (by omega) hinside
      have hclock : z.clockAt (z.instantOf (a.day * 86400)) = (a.day + 1) * 86400 := by omega
      refine ⟨by omega, ?_⟩
      rw [midnight_eq, midnight_eq, hnext, ← hclock, hagain]
    · -- the last day of the calendar stands for those after it
      rw [Date.clamp_of_last_lt (by omega), ← Date.eq_of_day hend]
      exact ⟨Int.le_refl _, rfl⟩

/-! ## How the last day is left -/

theorem dayLength_eq (z : Zone) {d next : Date} (h : next.day = d.day + 1) :
    z.dayLength d = z.midnight next - z.midnight d := by
  have hnext : d.next? = some next := Date.ofDay?_eq_some.2 h
  rw [dayLength, hnext]

/-- A span that ends on a day, with that number of times 24 hours left of it. -/
structure Leaves (z : Zone) (d : Date) (n : Nat) (stop : Int) : Prop where
  begun : z.midnight d < stop
  left : stop + n * dayMs = z.midnight d + z.dayLength d

/-- What is left of the day on which a span ends, is left up to the first midnight after it. -/
theorem FirstMidnight.leaves_iff (hz : z.Customary) (he : z.FirstMidnight a stop b)
    (ha : a.day ≤ d.day) :
    z.Leaves d n stop ↔ b.day = d.day + 1 ∧ stop + n * dayMs = z.midnight b := by
  constructor
  · rintro ⟨hbegun, hleft⟩
    have hlate : d.day < b.day := by
      by_contra hearly
      have hle := midnight_le hz (Int.not_lt.1 hearly)
      have hreaches := he.reaches
      omega
    have hfirst : Date.first.day ≤ d.day := d.first_le
    have hlast : b.day ≤ Date.last.day := b.le_last
    obtain ⟨next, hnext⟩ := Date.exists_day (n := d.day + 1) (by omega) (by omega)
    rw [z.dayLength_eq hnext] at hleft
    have hsame : next = b := by
      by_contra hne
      have hday : next.day ≠ b.day := fun h => hne (Date.eq_of_day h)
      have hbegun := he.before next (by omega) (by omega)
      simp only [dayMs] at hleft
      omega
    subst hsame
    exact ⟨hnext, by omega⟩
  · rintro ⟨hnext, hleft⟩
    refine ⟨he.before d ha (by omega), ?_⟩
    rw [z.dayLength_eq hnext]
    omega

end Zone

namespace Policy

open Zone

variable {p : Policy} {z : Zone} {a : Date} {stop : Int}

/-- What is counted up to the first midnight that is not before the end, less what is left until
then, fits if the span does. -/
theorem fits_wall {e first : Date} (he : z.FirstMidnight first stop e)
    (hfits : Word.Fits (stop - z.midnight first)) :
    Word.Fits ((e.day - first.day) * dayMs - (z.midnight e - stop)) := by
  have hreaches := he.reaches
  have hle := he.le
  have hfirst := first.first_le
  have hlast := e.le_last
  rcases Int.lt_or_eq_of_le hle with hlater | hsame
  · -- the day before `e` has begun
    obtain ⟨before, hbefore⟩ := Date.exists_day (n := e.day - 1)
      (by simp only [Date.first]; omega) (by simp only [Date.last]; omega)
    have hbegun := he.before before (by omega) (by omega)
    have hlow := (z.midnight_bounds before).1
    have hhigh := (z.midnight_bounds e).2
    rw [hbefore] at hlow
    simp only [Word.Fits, dayMs] at hlow hhigh ⊢
    omega
  · rw [← Date.eq_of_day hsame]
    simp only [Word.Fits] at hfits ⊢
    omega

/-- A span from a midnight is measured up to the first midnight that is not before its end, less the
time that is left until then. -/
theorem exists_wallDuration (hz : z.Customary) (hstart : onCalendar (z.midnight a) = true)
    (hstop : stop ≤ z.midnight .last) (hfits : Word.Fits (stop - z.midnight a))
    (hminutes : (stop - z.midnight a) % minuteMs = 0) :
    ∃ e, z.FirstMidnight (z.localTime (z.midnight a)).date stop e ∧
      wallDuration z ⟨z.midnight a, stop⟩ =
        (e.day - (z.localTime (z.midnight a)).date.day) * dayMs - (z.midnight e - stop) := by
  obtain ⟨-, hfirst⟩ := midnight_date_midnight hz hstart
  have hround : roundToMinute (stop - z.midnight a) = stop - z.midnight a :=
    roundToMinute_of_whole hminutes hfits
  obtain ⟨e, he, hsum⟩ := exists_correctionFrom 0 (z.localTime (z.midnight a)).date.le_last hstop
  have hwall := fits_wall he (hfirst.symm ▸ hfits)
  refine ⟨e, he, ?_⟩
  rw [wallDuration, Span.duration, Word.sub_of_fits hfits, hround, correction, hsum, hfirst]
  rw [← Word.wrap_of_fits hwall, Word.add]
  congr 1
  omega

/-- **What passes for whole days.** A span from a midnight passes if a number of times 24 hours is
left of the day on which it ends, and it is counted for the days up to and with that one, less that
number. -/
theorem allowsDuration_iff (hz : z.Customary) (hdaily : p.dailyBasis = true)
    (hstart : onCalendar (z.midnight a) = true) (hstop : stop ≤ z.midnight .last)
    (hfits : Word.Fits (stop - z.midnight a))
    (hminutes : (stop - z.midnight a) % minuteMs = 0) :
    p.allowsDuration z ⟨z.midnight a, stop⟩ = true ↔
      ∃ (last : Date) (n : Nat), z.Leaves last n stop ∧
        0 < last.day + 1 - n - (z.localTime (z.midnight a)).date.day ∧
        (last.day + 1 - n - (z.localTime (z.midnight a)).date.day) * dayMs ≤
          Word.mul p.maxDurationDays dayMs := by
  obtain ⟨e, he, hwall⟩ := exists_wallDuration hz hstart hstop hfits hminutes
  rw [allowsDuration, if_pos hdaily]
  simp only [hwall, Bool.and_eq_true, decide_eq_true_eq]
  generalize (z.localTime (z.midnight a)).date = first at he ⊢
  generalize Word.mul p.maxDurationDays dayMs = limit
  simp only [dayMs]
  constructor
  · rintro ⟨⟨hpos, hwhole⟩, hmax⟩
    have hreaches := he.reaches
    have hfirst : Date.first.day ≤ first.day := first.first_le
    have hlast : e.day ≤ Date.last.day := e.le_last
    obtain ⟨last, hday⟩ := Date.exists_day (n := e.day - 1) (by omega) (by omega)
    refine ⟨last, ((z.midnight e - stop) / dayMs).toNat,
      (he.leaves_iff hz (by omega)).2 ⟨by omega, ?_⟩, ?_⟩ <;> simp only [dayMs] <;> omega
  · rintro ⟨last, n, hleaves, hpos, hmax⟩
    obtain ⟨hnext, hleft⟩ := (he.leaves_iff hz (by omega)).1 hleaves
    simp only [dayMs] at hleft
    omega

end Policy

open Zone in
/-- **What passes for whole days ends at a midnight or on a long day.** In a zone with customary
changes, a span that starts at the midnight of some day, takes a number of whole minutes that fits
in 64 bits and passes under a policy for whole days ends at the midnight of a later day. The
exception is a span that ends on a later day of more than 24 hours, with a number of times 24 hours
left of it. -/
theorem whole_days_end_at_midnight {z : Zone} (hz : z.Customary) {p : Policy}
    (hdaily : p.dailyBasis = true) {a : Date} (hstart : onCalendar (z.midnight a) = true)
    {stop : Int} (hstop : stop ≤ z.midnight .last) (hfits : Word.Fits (stop - z.midnight a))
    (hminutes : (stop - z.midnight a) % minuteMs = 0)
    (hpass : p.allowsDuration z ⟨z.midnight a, stop⟩ = true) :
    (∃ later : Date, a.day < later.day ∧ stop = z.midnight later) ∨
      ∃ (long : Date) (n : Nat), a.day < long.day ∧ dayMs < z.dayLength long ∧ 0 < n ∧
        z.Leaves long n stop := by
  obtain ⟨last, n, hleaves, hpos, -⟩ :=
    (Policy.allowsDuration_iff hz hdaily hstart hstop hfits hminutes).1 hpass
  have hfirst := (midnight_date_midnight hz hstart).1
  obtain ⟨hbegun, hleft⟩ := hleaves
  cases n with
  | zero =>
    have hinside : last.day < Date.last.day := by
      by_contra hend
      have hlater := midnight_le hz (Int.not_lt.1 hend)
      omega
    obtain ⟨later, hlater⟩ := Date.exists_day (Int.le_add_one last.first_le) hinside
    rw [z.dayLength_eq hlater] at hleft
    exact .inl ⟨later, by omega, by omega⟩
  | succ n =>
    refine .inr ⟨last, n + 1, by omega, ?_, Nat.succ_pos n, ⟨hbegun, hleft⟩⟩
    simp only [dayMs] at hleft ⊢
    omega

/-- The zones of the table have customary changes. -/
theorem ZoneTable.customary_of_standard {name : String} {z : Zone}
    (h : standard name = some z) : z.Customary := by
  have hall : ∀ e ∈ entries, e.2.offsets.IsChain fun o o' : Int => o' - o ≤ daySeconds := by
    decide +kernel
  exact Zone.customary_of_isChain (spaced_of_standard h)
    (hall (name, z) (mem_entries_of_standard h))

open ZoneTable Sample in
/-- Samoa skipped the whole of 2011-12-30. The 24 hours from the midnight before pass for one day;
they end at the midnight of the day that was skipped and of the day after it. -/
theorem whole_days_end_at_midnight_samoa :
    samoa.zone.Customary ∧
      samoa.zone.midnight (.clamp 15338) = samoa.zone.midnight (.clamp 15339) ∧
      (wholeDays 24).allowsDuration samoa.zone
        ⟨samoa.zone.midnight (.clamp 15337), 1325239200000⟩ = true ∧
      ((∃ later : Date, 15337 < later.day ∧ 1325239200000 = samoa.zone.midnight later) ∨
        ∃ (long : Date) (n : Nat), 15337 < long.day ∧ dayMs < samoa.zone.dayLength long ∧ 0 < n ∧
          samoa.zone.Leaves long n 1325239200000) := by
  have hcustomary := customary_of_standard (show standard "Pacific/Apia" = some samoa.zone from rfl)
  have hpass : (wholeDays 24).allowsDuration samoa.zone
      ⟨samoa.zone.midnight (.clamp 15337), 1325239200000⟩ = true := by decide +kernel
  exact ⟨hcustomary, by decide +kernel, hpass,
    whole_days_end_at_midnight hcustomary rfl (a := .clamp 15337) (by decide +kernel)
      (by decide +kernel) (by decide +kernel) (by decide +kernel) hpass⟩

open Zone ZoneTable Sample in
/-- **An hour of a long day passes.** In Central Europe 2026-10-25 takes 25 hours. The 25 hours from
the midnight before it up to one at night pass for one whole day. -/
theorem part_of_long_day_passes :
    ¬ ∀ (z : Zone) (p : Policy) (a : Date) (stop : Int), z.Customary → p.dailyBasis = true →
      onCalendar (z.midnight a) = true → stop ≤ z.midnight .last →
      Word.Fits (stop - z.midnight a) → (stop - z.midnight a) % minuteMs = 0 →
      p.allowsDuration z ⟨z.midnight a, stop⟩ = true →
      ∃ later : Date, a.day < later.day ∧ stop = z.midnight later := by
  intro hends
  obtain ⟨later, -, hlater⟩ := hends centralEurope.zone (wholeDays 24) (.clamp 20750) 1792882800000
    (customary_of_standard (show standard "Europe/Berlin" = some centralEurope.zone from rfl)) rfl
    (by decide +kernel) (by decide +kernel) (by decide +kernel) (by decide +kernel)
    (by decide +kernel)
  -- one at night lies between two midnights that follow each other
  have hbefore :
      centralEurope.zone.midnight (.clamp 20751) < centralEurope.zone.midnight later := by
    rw [← hlater]
    decide +kernel
  have hafter : centralEurope.zone.midnight later < centralEurope.zone.midnight (.clamp 20752) := by
    rw [← hlater]
    decide +kernel
  rw [midnight_lt_iff spaced_centralEurope shortGaps_centralEurope,
    Date.day_clamp (by decide) (by decide)] at hbefore hafter
  omega

end SpaceBooking
