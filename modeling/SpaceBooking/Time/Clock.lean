import SpaceBooking.Word

/-!
# Hand-driven clocks

A clock that shows the instant it was last set to, in milliseconds. Moving it past either end of the
64-bit range goes on at the other.
-/

namespace SpaceBooking

/-- A clock and the instant that it shows. -/
structure Clock where
  now : Int

namespace Clock

/-- Sets the clock. -/
def set (_ : Clock) (now : Int) : Clock := ⟨now⟩

/-- Moves the clock on, or back by a negative amount. -/
def advance (c : Clock) (by_ms : Int) : Clock := ⟨Word.add c.now by_ms⟩

end Clock

end SpaceBooking
