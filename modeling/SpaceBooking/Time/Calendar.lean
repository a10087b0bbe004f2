import SpaceBooking.Time.Weekday

/-!
# Calendar days

Days of the proleptic Gregorian calendar, from the first day of year -262143 to the last day of year
262142. A `Date` is kept as the number of days since 1970-01-01, which makes stepping from day to
day plain addition.

* `Civil.dayNumber` counts the day of a year, month and day of the month.
* `Civil.ofDayNumber` goes back. Both count years from March, so that the leap day comes last.
* `Date.ofCivil?` refuses months and days of the month that do not exist.
-/

namespace SpaceBooking

/-- A year, a month from 1 to 12 and a day of that month from 1. -/
structure Civil where
  year : Int
  month : Nat
  day : Nat
  deriving DecidableEq, Repr

def isLeapYear (year : Int) : Bool := year % 4 = 0 && (year % 100 ≠ 0 || year % 400 = 0)

def daysInMonth (year : Int) : Nat → Nat
  | 2 => if isLeapYear year then 29 else 28
  | 4 | 6 | 9 | 11 => 30
  | _ => 31

namespace Civil

/-- From the first of March of year 0 to 1970-01-01. -/
def daysToEpoch : Int := 719468

/-- Days since 1970-01-01. -/
def dayNumber (c : Civil) : Int :=
  let year := if c.month ≤ 2 then c.year - 1 else c.year
  let month := (c.month + 9) % 12
  365 * year + year / 4 - year / 100 + year / 400 +
    ((153 * month + 2) / 5 : Nat) + c.day - 1 - daysToEpoch

/-- The day that many days after 1970-01-01. Four hundred years have 146097 days. -/
def ofDayNumber (n : Int) : Civil :=
  let z := n + daysToEpoch
  let cycle := z / 146097
  let dayOfCycle := (z % 146097).toNat
  let yearOfCycle :=
    (dayOfCycle - dayOfCycle / 1460 + dayOfCycle / 36524 - dayOfCycle / 146096) / 365
  let dayOfYear := dayOfCycle - (365 * yearOfCycle + yearOfCycle / 4 - yearOfCycle / 100)
  let monthFromMarch := (5 * dayOfYear + 2) / 153
  let day := dayOfYear - (153 * monthFromMarch + 2) / 5 + 1
  let month := if monthFromMarch < 10 then monthFromMarch + 3 else monthFromMarch - 9
  let year := cycle * 400 + yearOfCycle
  { year := if month ≤ 2 then year + 1 else year, month, day }

/-- Whether the calendar has such a month and day. -/
def exists? (c : Civil) : Bool :=
  1 ≤ c.month && c.month ≤ 12 && 1 ≤ c.day && c.day ≤ daysInMonth c.year c.month

end Civil

/-- A day of the calendar, as the number of days since 1970-01-01. -/
structure Date where
  day : Int
  first_le : -96465292 ≤ day
  le_last : day ≤ 95026236
  deriving DecidableEq

namespace Date

/-- The first day of the calendar, -262143-01-01. -/
def first : Date := ⟨-96465292, by decide, by decide⟩

/-- The last day of the calendar, 262142-12-31. -/
def last : Date := ⟨95026236, by decide, by decide⟩

/-- The day of a number, if the calendar reaches it. -/
def ofDay? (n : Int) : Option Date :=
  if h : first.day ≤ n ∧ n ≤ last.day then some ⟨n, h.1, h.2⟩ else none

/-- The day of a number, or the end of the calendar that is nearest to it. -/
def clamp (n : Int) : Date :=
  if h : first.day ≤ n then if h' : n ≤ last.day then ⟨n, h, h'⟩ else last else first

/-- The day of a year, month and day of the month. -/
def ofCivil? (c : Civil) : Option Date := if c.exists? then ofDay? c.dayNumber else none

/-- The year, month and day of the month. -/
def civil (d : Date) : Civil := .ofDayNumber d.day

/-- The day `n` days later, unless the calendar ends before it. -/
def add? (d : Date) (n : Nat) : Option Date := ofDay? (d.day + n)

/-- The day after. -/
def next? (d : Date) : Option Date := d.add? 1

/-- The day of the week; 1970-01-01 was a Thursday. -/
def weekday (d : Date) : Weekday :=
  .ofIndex ⟨((d.day + 4) % 7).toNat, by omega⟩

theorem ofDay?_eq_some {n : Int} {d : Date} : ofDay? n = some d ↔ d.day = n := by
  unfold ofDay?
  split
  · next h =>
    constructor
    · rintro ⟨⟩; rfl
    · rintro rfl; rfl
  · next h =>
    simp only [reduceCtorEq, false_iff]
    rintro rfl
    exact h ⟨d.first_le, d.le_last⟩

end Date

example : Civil.dayNumber ⟨-262143, 1, 1⟩ = Date.first.day := by decide

example : Civil.dayNumber ⟨262142, 12, 31⟩ = Date.last.day := by decide

example : Civil.ofDayNumber 11016 = ⟨2000, 2, 29⟩ := by decide

end SpaceBooking
