import SpaceBooking.Time.Calendar

/-!
# Wall-clock times

A `LocalTime` is what a clock on the wall shows: a day, a second of that day and a part of the
second. It belongs to no time zone. A leap second is the second 59 of some minute with a part of
one second or more.

Instants, here and elsewhere, are whole milliseconds since 1970-01-01 in universal time.
-/

namespace SpaceBooking

/-- Milliseconds in a minute. -/
def minuteMs : Int := 60000

/-- Milliseconds in an hour. -/
def hourMs : Int := 3600000

/-- Milliseconds in 24 hours. -/
def dayMs : Int := 86400000

/-- Seconds in 24 hours. -/
def daySeconds : Nat := 86400

/-- Nanoseconds in a second. -/
def nanosPerSecond : Nat := 1000000000

/-- A day, a second of the day and nanoseconds after it. -/
structure LocalTime where
  date : Date
  second : Nat
  nano : Nat
  second_lt : second < 86400
  nano_lt : nano < 2000000000
  leap_second : 1000000000 ≤ nano → second % 60 = 59
  deriving DecidableEq

namespace LocalTime

/-- The start of a day. -/
def midnight (d : Date) : LocalTime := ⟨d, 0, 0, by decide, by decide, by decide⟩

/-- Seconds since the midnight of 1970-01-01 on the same wall clock. A leap second counts as the
second before it. -/
def seconds (t : LocalTime) : Int := t.date.day * daySeconds + t.second

/-- The same time of day on another day. -/
def onDate (t : LocalTime) (d : Date) : LocalTime := { t with date := d }

/-- The wall clock that is `s` seconds and `nano` nanoseconds after the midnight of 1970-01-01. A
clock past either end of the calendar shows its last or first day. -/
def ofSeconds (s : Int) (nano : Fin 1000000000) : LocalTime where
  date := .clamp (s / daySeconds)
  second := (s % daySeconds).toNat
  nano := nano
  second_lt := by simp only [daySeconds]; omega
  nano_lt := by omega
  leap_second := by omega

/-- A time of day in hours, minutes and seconds. The second 60 stands for a leap second. -/
def ofClock? (date : Date) (hour minute second nano : Nat) : Option LocalTime :=
  if h : hour < 24 ∧ minute < 60 ∧ second < 60 ∧ nano < 1000000000 then
    some ⟨date, hour * 3600 + minute * 60 + second, nano, by omega, by omega, by omega⟩
  else if h : hour < 24 ∧ minute < 60 ∧ second = 60 ∧ nano < 1000000000 then
    some ⟨date, hour * 3600 + minute * 60 + 59, nano + 1000000000, by omega, by omega, by omega⟩
  else none

end LocalTime

end SpaceBooking
