import SpaceBooking.Time.LocalTime

/-!
# Time zones

A `Zone` is an offset from universal time and the later changes of it. Between two changes its wall
clock runs evenly, so a wall-clock time belongs to an instant in each period whose bounds, read with
the offset of that period, enclose it. A time that no period encloses was skipped by a change to a
larger offset; one that two periods enclose occurs twice.

* `Zone.instant?` is the earliest instant at which the wall clock shows a time.
* `Zone.resolve` adds an answer for times that were skipped: they are read with the offset from
  before the change, which moves the wall clock on by the size of the gap.
* `Zone.resolve?` is the same as far as the calendar reaches.
* `Zone.localTime` is the wall clock at an instant.
* `Zone.dayLength` and `Zone.correction` measure how far local days are from 24 hours.
-/

namespace SpaceBooking

/-- From an instant on, in seconds since 1970-01-01, the wall clock is `offset` seconds ahead of
universal time. -/
structure Transition where
  instant : Int
  offset : Int
  deriving DecidableEq

/-- The offset before the first transition, and the transitions in order of time. No offset is as
much as a day. -/
structure Zone where
  initial : Int
  transitions : List Transition
  bounded : ∀ offset ∈ initial :: transitions.map (·.offset),
    -daySeconds < offset ∧ offset < daySeconds
  deriving DecidableEq

/-- Seconds and nanoseconds on some even time scale, with a leap second as in `LocalTime`. -/
structure Reading where
  second : Int
  nano : Nat
  deriving DecidableEq

namespace Reading

/-- The reading `by_s` seconds later. A shift leaves a leap second behind: going back it counts as
the second after the one it belongs to, going forward as that second itself. -/
def shift (r : Reading) (by_s : Int) : Reading :=
  if r.nano < nanosPerSecond ∨ by_s = 0 then ⟨r.second + by_s, r.nano⟩
  else if by_s < 0 then ⟨r.second + 1 + by_s, r.nano - nanosPerSecond⟩
  else ⟨r.second + by_s, r.nano - nanosPerSecond⟩

/-- Whole milliseconds, rounded down. -/
def ms (r : Reading) : Int := r.second * 1000 + (r.nano / 1000000 : Nat)

end Reading

/-- The reading of a wall clock on its own scale. -/
def LocalTime.reading (t : LocalTime) : Reading := ⟨t.seconds, t.nano⟩

namespace Zone

/-- The offset in force at `s`, when it was `offset` before the transitions. -/
def offsetFrom (offset : Int) (s : Int) : List Transition → Int
  | [] => offset
  | t :: ts => if t.instant ≤ s then offsetFrom t.offset s ts else offset

/-- The offset in force at an instant in seconds. -/
def offsetAt (z : Zone) (s : Int) : Int := offsetFrom z.initial s z.transitions

/-- The first instant from `since` on at which the wall clock shows `s` seconds, when the offset is
`offset` until the transitions. -/
def instantFrom? (since : Option Int) (offset : Int) (s : Int) : List Transition → Option Int
  | [] => if since.all (· ≤ s - offset) then some (s - offset) else none
  | t :: ts =>
    if since.all (· ≤ s - offset) && s - offset < t.instant then some (s - offset)
    else instantFrom? (some t.instant) t.offset s ts

/-- The earliest instant in seconds at which the wall clock shows `s` seconds. -/
def instant? (z : Zone) (s : Int) : Option Int := instantFrom? none z.initial s z.transitions

/-- The instant of a wall-clock time. Of two the earlier is taken. A time that was skipped is read
with the offset that was in force a day before. -/
def resolve (z : Zone) (t : LocalTime) : Int :=
  match z.instant? t.seconds with
  | some s => Reading.ms ⟨s, t.nano⟩
  | none =>
    let before := z.offsetAt (t.reading.shift (-daySeconds)).second
    (t.reading.shift (-before)).ms

/-- Whether the calendar reaches an instant. -/
def onCalendar (ms : Int) : Bool :=
  Date.first.day * dayMs ≤ ms && ms < (Date.last.day + 1) * dayMs

theorem onCalendar_iff {ms : Int} : onCalendar ms = true ↔
    Date.first.day * dayMs ≤ ms ∧ ms < (Date.last.day + 1) * dayMs := by
  rw [onCalendar, Bool.and_eq_true, decide_eq_true_eq, decide_eq_true_eq]

/-- The instant of a wall-clock time, if the calendar reaches it and, for a time that was skipped,
the day before it. -/
def resolve? (z : Zone) (t : LocalTime) : Option Int :=
  if onCalendar (z.resolve t) ∧
      (z.instant? t.seconds = none → onCalendar (t.reading.shift (-daySeconds)).ms) then
    some (z.resolve t)
  else none

theorem resolve_of_resolve? {z : Zone} {t : LocalTime} {ms : Int} (h : z.resolve? t = some ms) :
    z.resolve t = ms := by
  unfold resolve? at h
  split at h
  · exact Option.some.inj h
  · cases h

/-- The instant itself if the calendar reaches it, and the start of 1970 otherwise. -/
def shownInstant (ms : Int) : Int := if onCalendar ms then ms else 0

/-- The offset in force at an instant. -/
def offsetAtMs (z : Zone) (ms : Int) : Int := z.offsetAt (shownInstant ms / 1000)

/-- The wall clock at an instant. -/
def localTime (z : Zone) (ms : Int) : LocalTime :=
  .ofSeconds (shownInstant ms / 1000 + z.offsetAtMs ms)
    ⟨(shownInstant ms % 1000).toNat * 1000000, by omega⟩

/-- Whether the calendar reaches what the clock shows at an instant. -/
def Shows (z : Zone) (ms : Int) : Prop :=
  onCalendar (shownInstant ms + z.offsetAtMs ms * 1000) = true

instance (z : Zone) (ms : Int) : Decidable (z.Shows ms) := inferInstanceAs (Decidable (_ = _))

/-- The instant at which a day starts. -/
def midnight (z : Zone) (d : Date) : Int := z.resolve (.midnight d)

/-- How long a day lasts. The calendar's last day is given 24 hours. -/
def dayLength (z : Zone) (d : Date) : Int :=
  match d.next? with
  | some next => z.midnight next - z.midnight d
  | none => dayMs

/-- What the days from `d` on that start before `stop` lack of 24 hours each, added to `acc`. -/
def correctionFrom (z : Zone) (stop : Int) (acc : Int) (d : Date) : Int :=
  if z.midnight d < stop then
    let acc := acc + (dayMs - z.dayLength d)
    match _h : d.next? with
    | some next => correctionFrom z stop acc next
    | none => acc
  else acc
termination_by (Date.last.day - d.day).toNat
decreasing_by
  have hn := Date.ofDay?_eq_some.1 _h
  have hl := next.le_last
  simp only [Date.last]
  omega

/-- What the local days that a period of time touches lack of 24 hours each. Added to the time that
passes it gives the time that the wall clock shows to pass, with every whole day counted as 24
hours. -/
def correction (z : Zone) (start stop : Int) : Int :=
  z.correctionFrom stop 0 (z.localTime start).date

end Zone

end SpaceBooking
