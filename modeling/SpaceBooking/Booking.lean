import SpaceBooking.Directory
import SpaceBooking.Span

/-!
# Bookings

A `Booking` gives a span of time on a space to its owner. It may still wait for approval, and it may
belong to a series. Requests for bookings name times on the wall clock of the space.
-/

namespace SpaceBooking

structure Booking where
  id : Id
  owner : Id
  space : Id
  span : Span
  subject : String
  approved : Bool
  /-- The series that the booking is an instance of. -/
  series : Option Id
  /-- The entry for it in a calendar elsewhere. -/
  calendarEvent : Option String
  deriving DecidableEq

/-- Where a booking stands. One that was declined is no longer stored. -/
inductive ApprovalState where
  | pending
  | approved
  deriving DecidableEq, Repr

def Booking.approvalState (b : Booking) : ApprovalState :=
  if b.approved then .approved else .pending

/-- A request to book a space, or to change a booking, in wall-clock times of the space. -/
structure BookingRequest where
  space : Id
  enter : LocalTime
  leave : LocalTime
  subject : String
  /-- Whom to book for, if not for oneself. -/
  onBehalfOf : Option Id
  deriving DecidableEq

end SpaceBooking
