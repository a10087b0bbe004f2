import SpaceBooking.Service.Repeating

/-!
# Look-ups

What users can see of bookings and series. What a user must not see is reported as missing.
-/

namespace SpaceBooking.Service

/-- Shows a booking to its owner, to administrators and to those who approve for its space. -/
def showBooking (actor : User) (id : Id) : Action Failure Booking := do
  let booking ← storedBooking id
  let _ ← spaceContext actor booking.space
  if booking.owner = actor.id || actor.isSpaceAdmin then return booking
  let approvers ← Repository.approvers booking.space
  let memberOf ← Repository.memberships actor.id
  Action.ensure (shareGroup memberOf approvers) (.notFound id)
  return booking

/-- Shows a series to its owner and to administrators. -/
def showSeries (actor : User) (id : Id) : Action Failure Series := do
  let series ← storedSeries id
  let _ ← spaceContext actor series.space
  Action.ensure (series.owner = actor.id || actor.isSpaceAdmin) (.notFound id)
  return series

/-- The bookings that belong to a series, by start. -/
def seriesBookings (actor : User) (id : Id) : Action Failure (List Booking) := do
  let _ ← showSeries actor id
  Repository.bookingsOfSeries id

/-- The bookings on a space that overlap a period of its wall clock. -/
def overlappingBookings (actor : User) (space : Id) (enter leave : LocalTime)
    (exclude : Option Id) : Action Failure (List Booking) := do
  let ctx ← spaceContext actor space
  let span : Span := ⟨ctx.zone.resolve enter, ctx.zone.resolve leave⟩
  if span.stop ≤ span.start then return []
  conflicts space span exclude

/-- The instant of a wall-clock time at a location. -/
def instantAt (location : Id) (time : LocalTime) : Action Failure Int := do
  let l ← Action.ofOption (.notFound location) (← Repository.location? location)
  let policy ← Repository.policy l.org
  return (← zoneOf l policy).resolve time

end SpaceBooking.Service
