import SpaceBooking.Text.Decimal
import SpaceBooking.Time.LocalTime

/-!
# Written dates and times

A day is written `2023-10-02`, a wall-clock time `2023-10-02T09:00:00`, with a fraction of three,
six or nine digits if the second is not whole. Years outside 0 to 9999 carry a sign, and a leap
second is written as second 60.

Reading is more lenient than writing: months, days, hours, minutes and seconds may have one digit,
a year without a sign one to four, a year with a sign any number, and digits of the fraction beyond
the ninth are dropped.
-/

namespace SpaceBooking

open Text

namespace Written

/-- Splits off a number of one to `most` digits. -/
def number? (most : Nat) (cs : List Char) : Option (Nat × List Char) :=
  let ds := (cs.take most).takeWhile Char.isDigit
  (digits? ds).map fun n => (n, cs.drop ds.length)

/-- Splits off a number of any length. -/
def longNumber? (cs : List Char) : Option (Nat × List Char) := number? cs.length cs

/-- Passes over one given character. -/
def mark? (c : Char) : List Char → Option (List Char)
  | [] => none
  | d :: cs => if d = c then some cs else none

/-- A year: up to four digits, or a sign and any number of digits. -/
def year? : List Char → Option (Int × List Char)
  | '+' :: cs => (longNumber? cs).map fun (n, cs) => ((n : Int), cs)
  | '-' :: cs => (longNumber? cs).map fun (n, cs) => (-(n : Int), cs)
  | cs => (number? 4 cs).map fun (n, cs) => ((n : Int), cs)

/-- A year, month and day of the month that exist. -/
def date? (cs : List Char) : Option (Date × List Char) := do
  let (year, cs) ← year? cs
  let (month, cs) ← number? 2 (← mark? '-' cs)
  let (day, cs) ← number? 2 (← mark? '-' cs)
  let date ← Date.ofCivil? { year, month, day }
  return (date, cs)

/-- A point and digits of a fraction, in nanoseconds; nothing is a fraction of zero. -/
def fraction? : List Char → Option (Nat × List Char)
  | '.' :: cs => do
    let ds := cs.takeWhile Char.isDigit
    let n ← digits? (ds.take 9)
    return (n * Nat.pow 10 (9 - min ds.length 9), cs.drop ds.length)
  | cs => some (0, cs)

def localTime? (cs : List Char) : Option (LocalTime × List Char) := do
  let (date, cs) ← date? cs
  let (hour, cs) ← number? 2 (← mark? 'T' cs)
  let (minute, cs) ← number? 2 (← mark? ':' cs)
  let (second, cs) ← number? 2 (← mark? ':' cs)
  let (nano, cs) ← fraction? cs
  let time ← LocalTime.ofClock? date hour minute second nano
  return (time, cs)

/-- What was read, if nothing is left over. -/
def whole? {α : Type} : Option (α × List Char) → Option α
  | some (a, []) => some a
  | _ => none

def year (y : Int) : List Char :=
  if 0 ≤ y ∧ y ≤ 9999 then padded 4 y.toNat
  else (if y < 0 then '-' else '+') :: padded 4 y.natAbs

def date (d : Date) : List Char :=
  let c := d.civil
  year c.year ++ '-' :: padded 2 c.month ++ '-' :: padded 2 c.day

/-- The shortest of no digits, three, six and nine that loses nothing. -/
def fraction (nano : Nat) : List Char :=
  if nano = 0 then []
  else if nano % 1000000 = 0 then '.' :: padded 3 (nano / 1000000)
  else if nano % 1000 = 0 then '.' :: padded 6 (nano / 1000)
  else '.' :: padded 9 nano

def localTime (t : LocalTime) : List Char :=
  let leap := nanosPerSecond ≤ t.nano
  date t.date ++ 'T' :: padded 2 (t.second / 3600) ++ ':' :: padded 2 (t.second / 60 % 60) ++
    ':' :: padded 2 (t.second % 60 + if leap then 1 else 0) ++ fraction (t.nano % nanosPerSecond)

end Written

/-- Reads a day. -/
def Date.ofText? (s : String) : Option Date := Written.whole? (Written.date? s.toList)

/-- Writes a day. -/
def Date.text (d : Date) : String := .ofList (Written.date d)

/-- Reads a wall-clock time. -/
def LocalTime.ofText? (s : String) : Option LocalTime :=
  Written.whole? (Written.localTime? s.toList)

/-- Writes a wall-clock time. -/
def LocalTime.text (t : LocalTime) : String := .ofList (Written.localTime t)

end SpaceBooking
