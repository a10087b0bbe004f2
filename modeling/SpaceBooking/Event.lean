import SpaceBooking.Booking

/-!
# Events

Every change that was made is announced by an `Event`, which goes to those who follow the space that
it names.
-/

namespace SpaceBooking

/-- What can happen to one booking. -/
inductive BookingChange where
  | created
  | updated
  | deleted
  | approvalRequested
  | approved
  | declined
  deriving DecidableEq, Repr

/-- A change that was made. A booking is shown as the change left it, or as it was before it was
removed. -/
inductive Event where
  | booking (change : BookingChange) (booking : Booking)
  /-- A series was booked: how many instances were, and how many were not. -/
  | seriesCreated (series space : Id) (created failed : Nat)
  /-- A series was given up: how many bookings went with it, and how many stay on their own. -/
  | seriesDeleted (series space : Id) (removed detached : Nat)
  deriving DecidableEq

/-- The name of a change. -/
def BookingChange.label : BookingChange → String
  | created => "booking_created"
  | updated => "booking_updated"
  | deleted => "booking_deleted"
  | approvalRequested => "approval_requested"
  | approved => "booking_approved"
  | declined => "booking_declined"

namespace Event

/-- The space whose followers are told. -/
def space : Event → Id
  | booking _ b => b.space
  | seriesCreated _ space _ _ => space
  | seriesDeleted _ space _ _ => space

/-- The name of what happened. -/
def label : Event → String
  | booking change _ => change.label
  | seriesCreated .. => "series_created"
  | seriesDeleted .. => "series_deleted"

end Event

end SpaceBooking
