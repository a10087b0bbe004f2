import SpaceBooking.Service.Admission

/-!
# Single bookings

Making, changing and cancelling one booking. Each of the three either fails and leaves the bookings
as they were, or makes one change and publishes it.
-/

namespace SpaceBooking

/-- A request that was admitted and is not carried out yet. -/
structure Admitted where
  ctx : SpaceContext
  owner : Id
  span : Span
  subject : String

namespace Admitted

/-- The booking that an admitted request makes. -/
def booking (a : Admitted) (id : Id) (approved : Bool) : Booking where
  id := id
  owner := a.owner
  space := a.ctx.space.id
  span := a.span
  subject := a.subject
  approved := approved
  series := none
  calendarEvent := none

/-- What an admitted request makes of a booking. -/
def change (a : Admitted) (old : Booking) (approved : Bool) : Booking :=
  { old with span := a.span, space := a.ctx.space.id, subject := a.subject, approved }

end Admitted

namespace Service

/-- Counts the outcome of a request. A failure without a reason code is not counted. -/
def countOutcome {α : Type} (request : MeasuredRequest) : Except Failure α → Action Failure Unit
  | .ok _ => Action.count (.accepted request)
  | .error failure =>
    match failure.reason with
    | some reason => Action.count (.rejected request reason)
    | none => pure ()

/-- Carries a request out and counts it and its outcome. -/
def measured {α : Type} (request : MeasuredRequest) (act : Action Failure α) :
    Action Failure α := do
  let outcome ← Action.attempt act
  Action.count (.timed request)
  countOutcome request outcome
  Action.ofExcept outcome

/-- Publishes that a booking was made, and that it waits for approval if it does. -/
def publishCreated (b : Booking) : Action Failure Unit := do
  Action.publish (.booking .created b)
  Action.onlyIf (!b.approved) (Action.publish (.booking .approvalRequested b))

/-- A stored booking. -/
def storedBooking (id : Id) : Action Failure Booking := do
  Action.ofOption (.notFound id) (← Repository.booking? id)

/-- Lets a request for a new booking pass, or fails. -/
def admitNew (actor : User) (req : BookingRequest) : Action Failure Admitted := do
  let ctx ← spaceContext actor req.space
  let owner ← ownerFor actor req.onBehalfOf
  let span ← requestSpan ctx.zone req.enter req.leave
  refuse (Limits.subjectFailure? ctx.space req.subject)
  checkAdmission ctx actor owner span none []
  return { ctx, owner, span, subject := req.subject }

/-- Stores and publishes a new booking. -/
def placeNew (a : Admitted) : Action Failure Booking := do
  let approved ← startsApproved a.ctx
  let booking := a.booking (← Action.newId) approved
  Repository.insertBooking booking
  publishCreated booking
  return booking

/-- Books a space. -/
def book (actor : User) (req : BookingRequest) : Action Failure Booking :=
  measured .create do placeNew (← admitNew actor req)

/-- Lets a change of a booking pass, or fails. A booking is not in its own way. -/
def admitChange (actor : User) (old : Booking) (req : BookingRequest) :
    Action Failure Admitted := do
  let _ ← spaceContext actor old.space
  Action.ensure (old.owner = actor.id || actor.isSpaceAdmin)
    (.forbidden "not the booking owner")
  let ctx ← spaceContext actor req.space
  knownUser actor old.owner
  let span ← requestSpan ctx.zone req.enter req.leave
  refuse (Limits.subjectFailure? ctx.space req.subject)
  checkAdmission ctx actor old.owner span (some old.id) []
  return { ctx, owner := old.owner, span, subject := req.subject }

/-- Whether a changed booking is approved: it stays as it is on its space, and starts anew on
another. -/
def approvedAfter (old : Booking) (ctx : SpaceContext) : Action StoreError Bool :=
  if old.space = ctx.space.id then pure old.approved else startsApproved ctx

/-- Stores and publishes a changed booking. -/
def placeChange (old : Booking) (a : Admitted) : Action Failure Booking := do
  let approved ← approvedAfter old a.ctx
  let booking := a.change old approved
  Repository.updateBooking booking
  Action.publish (.booking .updated booking)
  Action.onlyIf (old.space ≠ booking.space && !booking.approved)
    (Action.publish (.booking .approvalRequested booking))
  return booking

/-- Moves a booking to another time or space, or changes its subject. Only a booking that moves to
another space has to be approved again. -/
def rebook (actor : User) (id : Id) (req : BookingRequest) : Action Failure Booking :=
  measured .update do
    let old ← storedBooking id
    placeChange old (← admitChange actor old req)

/-- Whether it is too late to delete a booking. -/
def tooLate (policy : Policy) (actor : User) (now : Int) (b : Booking) : Bool :=
  policy.limitsDelete && 0 < policy.hoursBeforeDelete && !policy.exempts actor.isSpaceAdmin &&
    Word.sub b.span.start now < Word.mul policy.hoursBeforeDelete hourMs

/-- Cancels a booking. -/
def cancel (actor : User) (id : Id) : Action Failure Unit :=
  measured .delete do
    let booking ← storedBooking id
    let ctx ← spaceContext actor booking.space
    Action.ensure (booking.owner = actor.id || actor.isSpaceAdmin)
      (.forbidden "not the booking owner")
    Action.ensure (!tooLate ctx.policy actor (← Action.now) booking) (.policy .tooLateToDelete)
    Repository.deleteBooking id
    Action.publish (.booking .deleted booking)

end Service

end SpaceBooking
