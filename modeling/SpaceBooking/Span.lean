import SpaceBooking.Time.LocalTime
import SpaceBooking.Word

/-!
# Spans of time

A `Span` runs from its start up to, and not including, its stop. Nothing keeps the stop behind the
start; a span whose stop is not later than its start contains no instant.
-/

namespace SpaceBooking

/-- The instants from `start` on that are before `stop`. -/
structure Span where
  start : Int
  stop : Int
  deriving DecidableEq

namespace Span

/-- The time that passes from start to stop, negative if the stop comes first. It wraps if it does not
fit in 64 bits. -/
def duration (s : Span) : Int := Word.sub s.stop s.start

example : duration ⟨-0x8000000000000000, 0x7fffffffffffffff⟩ = -1 := by decide

/-- Whether each span starts before the other stops. -/
def overlaps (a b : Span) : Bool := a.start < b.stop && b.start < a.stop

/-- Whether an instant lies in the span. -/
def contains (s : Span) (t : Int) : Bool := s.start ≤ t && t < s.stop

theorem overlaps_comm (a b : Span) : a.overlaps b = b.overlaps a := by
  simp [overlaps, Bool.and_comm]

/-- Two spans that share an instant overlap. -/
theorem overlaps_of_contains {a b : Span} {t : Int} (ha : a.contains t) (hb : b.contains t) :
    a.overlaps b := by
  simp only [contains, overlaps, Bool.and_eq_true, decide_eq_true_eq] at ha hb ⊢
  omega

end Span

end SpaceBooking
