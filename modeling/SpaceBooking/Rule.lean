import SpaceBooking.Failure
import SpaceBooking.Policy
import SpaceBooking.Span

/-!
# Rules

The rules that a policy makes for a booking, in the order in which they are applied; a booking is
turned down for the first that it breaks. Three of the rules look at times alone and are decided
here:

* `Policy.allowsDuration`: how long a booking may last;
* `Policy.allowsAdvance`: how far ahead it may lie;
* `Policy.allowsShortness`: how short it may be.

The other rules count stored bookings or compare groups.

Limits are numbers of hours and days, and are compared in milliseconds. Nothing keeps them from being
so great that they do not fit in 64 bits then, and wrap.
-/

namespace SpaceBooking

inductive Rule where
  | duration
  | advanceWindow
  | userConcurrent
  | minDuration
  | upcomingCap
  | allowedBooker
  deriving DecidableEq, Repr

namespace Rule

/-- The rules in the order in which they are applied. -/
def chain : List Rule :=
  [duration, advanceWindow, userConcurrent, minDuration, upcomingCap, allowedBooker]

/-- The reason that is given when a rule is broken. -/
def reason : Rule → ReasonCode
  | duration => .invalidDuration
  | advanceWindow => .tooFarAhead
  | userConcurrent => .tooManyAtOnce
  | minDuration => .tooShort
  | upcomingCap => .tooManyUpcoming
  | allowedBooker => .notAllowedBooker

/-- Whether administrators are exempt where the policy has no restrictions for them. -/
def adminExempt : Rule → Bool
  | duration | userConcurrent | upcomingCap => true
  | advanceWindow | minDuration | allowedBooker => false

end Rule

/-- What the rules are told about a booking. -/
structure Candidate where
  owner : Id
  /-- Whether an administrator makes the request. -/
  byAdmin : Bool
  space : Id
  span : Span
  /-- The booking that this one replaces. -/
  exclude : Option Id
  /-- Bookings of the owner that are ahead but not stored yet. -/
  unstored : Nat
  /-- How many of those overlap the span. -/
  unstoredOverlaps : Nat

/-- What the rules say about a booking. -/
inductive Verdict where
  | accept
  | reject (reason : ReasonCode)
  deriving DecidableEq

/-- The failure of a booking that was turned down. -/
def Verdict.failure? : Verdict → Option Failure
  | accept => none
  | reject reason => some (.policy reason)

/-- A number of milliseconds, rounded to whole minutes; half a minute is rounded up. -/
def roundToMinute (ms : Int) : Int := Word.mul (Word.add ms (minuteMs / 2) / minuteMs) minuteMs

/-- How late in the day a booking for the whole day is still taken. -/
def wholeDayGrace : Int := 12 * hourMs

namespace Policy

/-- How many whole days a booking may last: the hours rounded up to days, and one day at least. -/
def maxDurationDays (p : Policy) : Int := max ((Word.add p.maxDurationHours 23).tdiv 24) 1

/-- The time that a span takes on the wall clock, to the minute, with whole local days counted as 24
hours. -/
def wallDuration (zone : Zone) (span : Span) : Int :=
  Word.add (roundToMinute span.duration) (zone.correction span.start span.stop)

/-- Whether a booking is not too long. Where days are booked, it must take a whole number of them on
the wall clock. -/
def allowsDuration (p : Policy) (zone : Zone) (span : Span) : Bool :=
  if p.dailyBasis then
    let wall := wallDuration zone span
    0 < wall && wall % dayMs = 0 && wall ≤ Word.mul p.maxDurationDays dayMs
  else 0 < span.duration && span.duration ≤ Word.mul p.maxDurationHours hourMs

/-- Whether a booking is not over yet and not too far ahead. Where days are booked, days are
compared. -/
def allowsAdvance (p : Policy) (zone : Zone) (now : Int) (span : Span) : Bool :=
  if p.dailyBasis then
    Word.sub now wholeDayGrace ≤ span.stop &&
      (zone.localTime span.start).date.day - (zone.localTime now).date.day ≤ p.maxDaysInAdvance
  else now ≤ span.stop && Word.sub span.start now ≤ Word.mul p.maxDaysInAdvance dayMs

/-- Whether a booking is not too short. -/
def allowsShortness (p : Policy) (span : Span) : Bool :=
  p.minDurationHours ≤ 0 || Word.mul p.minDurationHours hourMs ≤ span.duration

/-- Whether the rules with an exemption are skipped. -/
def exempts (p : Policy) (byAdmin : Bool) : Bool := p.noAdminRestrictions && byAdmin

/-- Whether a rule applies to a candidate. Replacing a booking does not add to those ahead. -/
def applies (p : Policy) (c : Candidate) (r : Rule) : Bool :=
  !(p.exempts c.byAdmin && r.adminExempt) && !(r = .upcomingCap && c.exclude.isSome)

end Policy

end SpaceBooking
