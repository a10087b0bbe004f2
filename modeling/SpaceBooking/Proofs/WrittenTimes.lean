import SpaceBooking.Proofs.CivilDays
import SpaceBooking.Proofs.Decimals

/-!
# Written times are read back

Every wall-clock time of the calendar is read back from its text: years with and without a sign,
fractions of every length, and leap seconds.

* `Written.year?_year`, `Written.date?_date`, `Written.fraction?_fraction` — the parts of a text.
* `LocalTime.ofClock?_parts` — a time is made of its hour, minute, second and fraction.
* `Date.ofText?_text`, `LocalTime.ofText?_text` — what is written is read back.
-/

namespace SpaceBooking

open Text

namespace Written

/-! ## Dates -/

/-- A year that starts with a digit has no sign. -/
theorem year?_of_isDigit {c : Char} (h : c.isDigit = true) (cs : List Char) :
    year? (c :: cs) = (number? 4 (c :: cs)).map fun (n, cs) => ((n : Int), cs) := by
  unfold year?
  split
  · rename_i heq
    cases heq
    cases h
  · rename_i heq
    cases heq
    cases h
  · rfl

/-- **A year is read back**, before something that is not a digit. -/
theorem year?_year (y : Int) (rest : List Char) (h : NoDigitFirst rest) :
    year? (year y ++ rest) = some (y, rest) := by
  unfold year
  split
  · rename_i hplain
    have hlt : y.toNat < 10 ^ 4 := by omega
    have hlength : (padded 4 y.toNat).length = 4 := length_padded (by omega) hlt
    have hnumber : number? 4 (padded 4 y.toNat ++ rest) = some (y.toNat, rest) :=
      number?_padded (Nat.le_of_eq hlength) (.inl hlength)
    cases hdigits : padded 4 y.toNat with
    | nil => exact absurd hdigits (padded_ne_nil _ _)
    | cons c cs =>
      have hc : c.isDigit = true := isDigit_padded 4 y.toNat c (hdigits ▸ List.mem_cons_self)
      rw [hdigits] at hnumber
      rw [List.cons_append, year?_of_isDigit hc, ← List.cons_append, hnumber]
      simp only [Option.map_some, Option.some.injEq, Prod.mk.injEq, and_true]
      omega
  · by_cases hneg : y < 0
    · simp only [hneg, if_true, List.cons_append, year?, longNumber?_padded _ _ h, Option.map_some,
        Option.some.injEq, Prod.mk.injEq, and_true]
      omega
    · simp only [hneg, if_false, List.cons_append, year?, longNumber?_padded _ _ h,
        Option.map_some, Option.some.injEq, Prod.mk.injEq, and_true]
      omega

/-- Months and days of the month have two digits at most. -/
theorem civil_lt (d : Date) : d.civil.month < 100 ∧ d.civil.day < 100 := by
  have hexists := Civil.exists?_ofDayNumber d.day
  simp only [Civil.exists?, Bool.and_eq_true, decide_eq_true_eq] at hexists
  have hlong : daysInMonth (Civil.ofDayNumber d.day).year (Civil.ofDayNumber d.day).month ≤ 31 := by
    unfold daysInMonth
    split
    · split <;> omega
    all_goals omega
  unfold Date.civil
  omega

/-- **A date is read back**, whatever follows. -/
theorem date?_date (d : Date) (rest : List Char) : date? (date d ++ rest) = some (d, rest) := by
  obtain ⟨hmonth, hday⟩ := civil_lt d
  have hyear := year?_year d.civil.year
    ('-' :: (padded 2 d.civil.month ++ '-' :: (padded 2 d.civil.day ++ rest)))
    (noDigitFirst_cons rfl _)
  simp only [date, date?, List.append_assoc, List.cons_append, hyear, mark?, if_true,
    number?_two hmonth, number?_two hday, Option.bind_some, Option.bind_eq_bind, Option.pure_def]
  show (Date.ofCivil? d.civil).bind (fun date => some (date, rest)) = _
  rw [Date.ofCivil?_civil]
  rfl

/-! ## Times of day -/

/-- Digits after a point are as many nanoseconds as they have digits. -/
theorem fraction?_padded {width n : Nat} (hw : 0 < width) (hle : width ≤ 9) (hn : n < 10 ^ width) :
    fraction? ('.' :: padded width n) = some (n * 10 ^ (9 - width), []) := by
  have hlength : (padded width n).length = width := length_padded hw hn
  have hdigits : (padded width n).takeWhile Char.isDigit = padded width n := by
    have hall := takeWhile_padded width n noDigitFirst_nil
    rwa [List.append_nil] at hall
  have htake : (padded width n).take 9 = padded width n :=
    List.take_of_length_le (hlength.symm ▸ hle)
  have hdrop : (padded width n).drop width = [] :=
    List.drop_eq_nil_of_le (Nat.le_of_eq hlength)
  simp only [fraction?, hdigits, htake, digits?_padded, Option.bind_eq_bind, Option.bind_some,
    hlength, Nat.min_eq_left hle, hdrop, Option.pure_def]
  rfl

/-- **A fraction of a second is read back** at the end of a text. -/
theorem fraction?_fraction {nano : Nat} (h : nano < 1000000000) :
    fraction? (fraction nano) = some (nano, []) := by
  unfold fraction
  split
  · rename_i hzero
    rw [hzero]
    rfl
  · split
    · rw [fraction?_padded (by omega) (by omega) (by omega)]
      simp only [Option.some.injEq, Prod.mk.injEq, and_true]
      omega
    · split
      · rw [fraction?_padded (by omega) (by omega) (by omega)]
        simp only [Option.some.injEq, Prod.mk.injEq, and_true]
        omega
      · rw [fraction?_padded (by omega) (by omega) (by omega)]
        simp only [Option.some.injEq, Prod.mk.injEq, and_true]
        omega

end Written

/-- **A time is made of its parts**: the hour, the minute, the second, which is 60 in a leap second,
and the fraction. -/
theorem LocalTime.ofClock?_parts (t : LocalTime) :
    LocalTime.ofClock? t.date (t.second / 3600) (t.second / 60 % 60)
      (t.second % 60 + if nanosPerSecond ≤ t.nano then 1 else 0) (t.nano % nanosPerSecond) =
      some t := by
  obtain ⟨date, second, nano, hsecond, hnano, hleap⟩ := t
  have hhour : second / 3600 < 24 := by omega
  have hminute : second / 60 % 60 < 60 := by omega
  unfold ofClock? nanosPerSecond
  by_cases hn : 1000000000 ≤ nano
  · have hlast : second % 60 = 59 := hleap hn
    have hsum : second / 3600 * 3600 + second / 60 % 60 * 60 + 59 = second := by omega
    have hrest : nano % 1000000000 + 1000000000 = nano := by omega
    simp only [hn, hlast, if_true]
    rw [dif_neg (by omega), dif_pos ⟨hhour, hminute, trivial, Nat.mod_lt _ (by omega)⟩]
    simp only [hsum, hrest]
  · have hsum : second / 3600 * 3600 + second / 60 % 60 * 60 + second % 60 = second := by omega
    have hwhole : nano % 1000000000 = nano := by omega
    simp only [hn, if_false, Nat.add_zero]
    rw [dif_pos (by omega)]
    simp only [hsum, hwhole]

namespace Written

theorem localTime?_localTime (t : LocalTime) : localTime? (localTime t) = some (t, []) := by
  have hhour : t.second / 3600 < 100 := by have := t.second_lt; omega
  have hminute : t.second / 60 % 60 < 100 := by omega
  have hsecond : (t.second % 60 + if nanosPerSecond ≤ t.nano then 1 else 0) < 100 := by
    split <;> omega
  have hfraction : fraction? (fraction (t.nano % nanosPerSecond)) =
      some (t.nano % nanosPerSecond, []) :=
    fraction?_fraction (Nat.mod_lt _ (by decide))
  simp only [localTime, localTime?, List.append_assoc, List.cons_append, date?_date, mark?, if_true,
    number?_two hhour, number?_two hminute, number?_two hsecond, hfraction, Option.bind_some,
    Option.bind_eq_bind, Option.pure_def, LocalTime.ofClock?_parts]

end Written

/-- **A day is read back from its text.** -/
theorem Date.ofText?_text (d : Date) : Date.ofText? d.text = some d := by
  have hdate := Written.date?_date d []
  rw [List.append_nil] at hdate
  unfold ofText? text
  rw [String.toList_ofList, hdate]
  rfl

/-- **A wall-clock time is read back from its text.** -/
theorem LocalTime.ofText?_text (t : LocalTime) : LocalTime.ofText? t.text = some t := by
  unfold ofText? text
  rw [String.toList_ofList, Written.localTime?_localTime]
  rfl

end SpaceBooking
