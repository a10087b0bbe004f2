import SpaceBooking.Booking
import SpaceBooking.Time.Zone

/-!
# Series of bookings

A `Series` repeats its first span by a rule, the `Cadence`, until a last instant. The rule picks
days of the local calendar; every instance starts at the same time of day on the wall clock and
takes as long as the first.

* `Cadence.firstDay?` is the first day that the rule picks, `Cadence.daysToNext` the way from one
  picked day to the next.
* `Cadence.occurrences` lists the spans of the instances in ascending order of day, up to a number.
-/

namespace SpaceBooking

/-- Which days a series falls on. -/
inductive Cadence where
  /-- Every `cycle` days. -/
  | daily (cycle : Nat)
  /-- On each of the weekdays in every `cycle`-th week; weeks start on Sunday. -/
  | weekly (cycle : Nat) (weekdays : WeekdaySet)
  deriving DecidableEq

namespace Cadence

/-- How many days or weeks one round takes. -/
def cycle : Cadence → Nat
  | daily n => n
  | weekly n _ => n

/-- The first day that the rule picks, from a given day on. A cycle of zero picks none. -/
def firstDay? (c : Cadence) (d : Date) : Option Date :=
  if c.cycle = 0 then none
  else match c with
    | daily _ => some d
    | weekly _ weekdays =>
      ((List.range 7).find? fun n =>
        weekdays.contains (.ofIndex ⟨(d.weekday.index + n) % 7, by omega⟩)).bind d.add?

/-- From a picked weekday, the days to the next one: later in the same week, or the first weekday of
the set in the week that comes `cycle` weeks after. -/
def daysToNextWeekday (cycle : Nat) (weekdays : WeekdaySet) (today : Weekday) : Nat :=
  match weekdays.toList.find? fun d => today.index < d.index with
  | some d => d.index - today.index
  | none =>
    let first := weekdays.toList.headD today
    7 - today.index + first.index + 7 * (cycle - 1)

/-- The days from a day that the rule picks to the next one. -/
def daysToNext (c : Cadence) (d : Date) : Nat :=
  match c with
  | daily n => n
  | weekly n weekdays => daysToNextWeekday n weekdays d.weekday

/-- The spans of up to `limit` instances from a picked day on. They start at the time of day
`clock`, take `duration`, and start before `stop`. -/
def occurrencesFrom (c : Cadence) (zone : Zone) (clock : LocalTime) (duration stop : Int) :
    Nat → Option Date → List Span
  | 0, _ => []
  | _, none => []
  | limit + 1, some day =>
    let start := zone.resolve (clock.onDate day)
    if stop ≤ start ∨ duration ≤ 0 then []
    else
      ⟨start, Word.add start duration⟩ ::
        c.occurrencesFrom zone clock duration stop limit (day.add? (c.daysToNext day))

/-- The spans of the first `limit` instances when the first one was requested as `first`. -/
def occurrences (c : Cadence) (zone : Zone) (first : Span) (stop : Int) (limit : Nat) : List Span :=
  let clock := zone.localTime first.start
  c.occurrencesFrom zone clock first.duration stop limit (c.firstDay? clock.date)

end Cadence

/-- A booking that repeats. -/
structure Series where
  id : Id
  owner : Id
  space : Id
  subject : String
  cadence : Cadence
  /-- The first instance as it was requested. -/
  first : Span
  /-- No instance starts at or after this instant. -/
  stop : Int
  deriving DecidableEq

/-- The spans of the first `limit` instances of a series. -/
def Series.occurrences (s : Series) (zone : Zone) (limit : Nat) : List Span :=
  s.cadence.occurrences zone s.first s.stop limit

/-- A request for a series: the first instance and the end of the series in wall-clock times of the
space, and the rule. -/
structure SeriesRequest where
  space : Id
  enter : LocalTime
  leave : LocalTime
  stop : LocalTime
  cadence : Cadence
  subject : String
  /-- Whom to book for, if not for oneself. -/
  onBehalfOf : Option Id
  deriving DecidableEq

end SpaceBooking
