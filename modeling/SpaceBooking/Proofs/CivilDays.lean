import Mathlib.Tactic.IntervalCases
import SpaceBooking.Time.Calendar

/-!
# Days and their numbers

Going from the number of a day to its year, month and day of the month, and back, ends at the same
number, for every whole number.

A cycle of four hundred years is taken apart into centuries, groups of four years and single years
(`InCycle`). The quotients by which the year is found are then plain sums, and what is left is the
day of a year that begins in March.

* `Civil.InCycle.yearOfCycle_eq`, `Civil.InCycle.daysBefore_eq` — the year of a day in the cycle,
  and the days before that year.
* `Civil.dayNumber_ofDayNumber` — the way there and back.
* `Civil.exists?_ofDayNumber` — the calendar has the day, leap days included.
* `Date.ofCivil?_civil` — a day is the one of its year, month and day of the month.
-/

namespace SpaceBooking

namespace Civil

/-! ## Years of a cycle -/

/-- The year of a day in a cycle of four hundred years. -/
def yearOfCycle (day : Nat) : Nat := (day - day / 1460 + day / 36524 - day / 146096) / 365

/-- The days of a cycle before a year of it. -/
def daysBefore (year : Nat) : Nat := 365 * year + year / 4 - year / 100

/-- A day within a cycle: centuries, then four years each, then single years. -/
structure InCycle (day century quad single rest : Nat) : Prop where
  day_eq : day = 36524 * century + 1461 * quad + 365 * single + rest
  century_le : century ≤ 3
  quad_le : quad ≤ 24
  single_le : single ≤ 3
  rest_le : rest ≤ 365
  leap : rest = 365 → single = 3 ∧ (quad < 24 ∨ century = 3)

theorem exists_inCycle {day : Nat} (h : day < 146097) :
    ∃ century quad single rest, InCycle day century quad single rest := by
  by_cases hlast : day = 146096
  · exact ⟨3, 24, 3, 365, by constructor <;> omega⟩
  · obtain ⟨century, d, hday, hd, hcentury⟩ :
        ∃ century d, day = 36524 * century + d ∧ d < 36524 ∧ century ≤ 3 :=
      ⟨day / 36524, day % 36524, by omega⟩
    obtain ⟨quad, r, hd', hr, hquad⟩ : ∃ quad r, d = 1461 * quad + r ∧ r < 1461 ∧ quad ≤ 24 :=
      ⟨d / 1461, d % 1461, by omega⟩
    by_cases hleap : r = 1460
    · exact ⟨century, quad, 3, 365, by constructor <;> omega⟩
    · exact ⟨century, quad, r / 365, r % 365, by constructor <;> omega⟩

theorem InCycle.yearOfCycle_eq {day century quad single rest : Nat}
    (h : InCycle day century quad single rest) :
    yearOfCycle day = 100 * century + 4 * quad + single := by
  obtain ⟨hday, hc, hq, hs, hr, hleap⟩ := h
  by_cases hlast : day = 146096
  · obtain ⟨rfl, rfl, rfl⟩ : century = 3 ∧ quad = 24 ∧ single = 3 := by omega
    rw [hlast]
    rfl
  · have hcentury : day / 36524 = century := by omega
    have hcycle : day / 146096 = 0 := by omega
    -- one day in each four years is taken out, before or after its place
    obtain ⟨extra, hquad, hextra⟩ : ∃ extra, day / 1460 = 25 * century + quad + extra ∧
        (extra = 0 ∨ extra = 1 ∧ 1364 ≤ 365 * single + rest) := by
      by_cases hsmall : 24 * century + quad + (365 * single + rest) < 1460
      · exact ⟨0, by omega, .inl rfl⟩
      · exact ⟨1, by omega, .inr ⟨rfl, by omega⟩⟩
    have hcount : day - day / 1460 + day / 36524 - day / 146096 =
        365 * (100 * century + 4 * quad) + (365 * single + rest - extra) := by omega
    unfold yearOfCycle
    rw [hcount]
    omega

theorem InCycle.daysBefore_eq {day century quad single rest : Nat}
    (h : InCycle day century quad single rest) :
    daysBefore (100 * century + 4 * quad + single) + rest = day := by
  obtain ⟨hday, hc, hq, hs, hr, hleap⟩ := h
  have hquad : (100 * century + 4 * quad + single) / 4 = 25 * century + quad := by omega
  have hcentury : (100 * century + 4 * quad + single) / 100 = century := by omega
  unfold daysBefore
  rw [hquad, hcentury]
  omega

/-! ## There and back -/

/-- The year, month and day of a day in a cycle, counting months from March. -/
theorem ofDayNumber_eq {n : Int} {day century quad single rest : Nat}
    (hday : (n + daysToEpoch) % 146097 = day) (h : InCycle day century quad single rest) :
    ofDayNumber n =
      let fromMarch := (5 * rest + 2) / 153
      let month := if fromMarch < 10 then fromMarch + 3 else fromMarch - 9
      let year := (n + daysToEpoch) / 146097 * 400 + (100 * century + 4 * quad + single : Nat)
      { year := if month ≤ 2 then year + 1 else year, month,
        day := rest - (153 * fromMarch + 2) / 5 + 1 } := by
  have hyear := h.yearOfCycle_eq
  have hbefore := h.daysBefore_eq
  have hnat : ((n + daysToEpoch) % 146097).toNat = day := by omega
  have hrest : day - daysBefore (100 * century + 4 * quad + single) = rest := by omega
  unfold yearOfCycle at hyear
  unfold daysBefore at hrest
  simp only [ofDayNumber, hnat, hyear, hrest]

/-- A day whose month is counted from March. -/
theorem dayNumber_fromMarch (year : Int) {m : Nat} (hm : m < 12) (day : Nat) :
    let month := if m < 10 then m + 3 else m - 9
    dayNumber { year := if month ≤ 2 then year + 1 else year, month, day } =
      365 * year + year / 4 - year / 100 + year / 400 + ((153 * m + 2) / 5 : Nat) + day - 1 -
        daysToEpoch := by
  by_cases hspring : m < 10
  · have hmonth : (m + 3 + 9) % 12 = m := by omega
    simp [dayNumber, hspring, hmonth]
  · have hwinter : m - 9 ≤ 2 := by omega
    have hmonth : (m - 9 + 9) % 12 = m := by omega
    simp [dayNumber, hspring, hwinter, hmonth]

/-- **The day of a number counts as that number.** -/
theorem dayNumber_ofDayNumber (n : Int) : dayNumber (ofDayNumber n) = n := by
  obtain ⟨day, hday, hlt⟩ : ∃ day : Nat, (n + daysToEpoch) % 146097 = day ∧ day < 146097 :=
    ⟨((n + daysToEpoch) % 146097).toNat, by omega⟩
  obtain ⟨century, quad, single, rest, h⟩ := exists_inCycle hlt
  have hsplit := Int.mul_ediv_add_emod (n + daysToEpoch) 146097
  rw [ofDayNumber_eq hday h]
  obtain ⟨hdays, hc, hq, hs, hr, -⟩ := h
  have hm : (5 * rest + 2) / 153 < 12 := by omega
  have hstart : (153 * ((5 * rest + 2) / 153) + 2) / 5 ≤ rest := by omega
  generalize (n + daysToEpoch) / 146097 = cycle at *
  refine (dayNumber_fromMarch _ hm _).trans ?_
  have hquad : (cycle * 400 + ((100 * century + 4 * quad + single : Nat) : Int)) / 4 =
      100 * cycle + 25 * century + quad := by omega
  have hcentury : (cycle * 400 + ((100 * century + 4 * quad + single : Nat) : Int)) / 100 =
      4 * cycle + century := by omega
  have hcycle : (cycle * 400 + ((100 * century + 4 * quad + single : Nat) : Int)) / 400 =
      cycle := by omega
  rw [hquad, hcentury, hcycle]
  omega

/-- The last day of a year that is counted from March is in a leap year. -/
theorem InCycle.isLeapYear {day century quad single : Nat}
    (h : InCycle day century quad single 365) (cycle : Int) :
    isLeapYear (cycle * 400 + (100 * century + 4 * quad + single : Nat) + 1) = true := by
  obtain ⟨-, hc, hq, -, -, hleap⟩ := h
  obtain ⟨rfl, hquad⟩ := hleap rfl
  simp only [SpaceBooking.isLeapYear, Bool.and_eq_true, Bool.or_eq_true, decide_eq_true_eq]
  omega

/-- Counted from March, each month but the last is as long as the formula for its first day says. -/
theorem daysInMonth_fromMarch (year : Int) {m : Nat} (hm : m < 11) :
    daysInMonth year (if m < 10 then m + 3 else m - 9) =
      (153 * (m + 1) + 2) / 5 - (153 * m + 2) / 5 := by
  interval_cases m <;> rfl

/-- **The day of a number exists.** -/
theorem exists?_ofDayNumber (n : Int) : (ofDayNumber n).exists? = true := by
  obtain ⟨day, hday, hlt⟩ : ∃ day : Nat, (n + daysToEpoch) % 146097 = day ∧ day < 146097 :=
    ⟨((n + daysToEpoch) % 146097).toNat, by omega⟩
  obtain ⟨century, quad, single, rest, h⟩ := exists_inCycle hlt
  have hr := h.rest_le
  rw [ofDayNumber_eq hday h]
  obtain ⟨m, hm⟩ : ∃ m, m = (5 * rest + 2) / 153 := ⟨_, rfl⟩
  have hm12 : m < 12 := by omega
  have hmonth : 1 ≤ (if m < 10 then m + 3 else m - 9) ∧
      (if m < 10 then m + 3 else m - 9) ≤ 12 := by
    split <;> omega
  simp only [← hm, exists?, Bool.and_eq_true, decide_eq_true_eq]
  refine ⟨⟨hmonth, by omega⟩, ?_⟩
  by_cases hlast : m = 11
  · -- February comes last, and has its leap day if the cycle has one there
    subst hlast
    simp only [Nat.reduceLT, if_false, Nat.reduceSub, Nat.reduceLeDiff, if_true, daysInMonth]
    split
    · omega
    · rename_i hcommon
      have hnot : rest ≠ 365 := by
        rintro rfl
        exact hcommon (h.isLeapYear _)
      omega
  · rw [daysInMonth_fromMarch _ (by omega)]
    omega

end Civil

/-- **A day is the one of its year, month and day of the month.** -/
theorem Date.ofCivil?_civil (d : Date) : Date.ofCivil? d.civil = some d := by
  unfold ofCivil? civil
  rw [if_pos (Civil.exists?_ofDayNumber d.day), Date.ofDay?_eq_some, Civil.dayNumber_ofDayNumber]

end SpaceBooking
