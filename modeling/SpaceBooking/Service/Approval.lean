import SpaceBooking.Service.Single

/-!
# Approval

A booking on a space with approvers waits until someone decides on it: an administrator, or a member
of one of the groups that approve for the space. A booking that is declined is removed.
-/

namespace SpaceBooking.Service

/-- Whether a new booking on a space has to be approved. -/
def requiresApproval (actor : User) (space : Id) : Action Failure Bool := do
  needsApproval (← spaceContext actor space)

/-- Whether the actor may decide on bookings of a space. -/
def mayApprove (actor : User) (space : Id) : Action StoreError Bool := do
  if actor.isSpaceAdmin then return true
  let approvers ← Repository.approvers space
  if approvers.isEmpty then return false
  return shareGroup (← Repository.memberships actor.id) approvers

/-- A booking that waits for a decision which the actor may take. -/
def undecided (actor : User) (id : Id) : Action Failure Booking := do
  let booking ← storedBooking id
  let _ ← spaceContext actor booking.space
  Action.ensure (← mayApprove actor booking.space)
    (.forbidden "not an approver for this space")
  Action.ensure (!booking.approved) (.alreadyDecided id)
  return booking

/-- Approves a booking. -/
def approve (actor : User) (id : Id) : Action Failure Booking := do
  let booking := { ← undecided actor id with approved := true }
  Repository.updateBooking booking
  Action.count .bookingApproved
  Action.publish (.booking .approved booking)
  return booking

/-- Declines a booking, which removes it. -/
def decline (actor : User) (id : Id) : Action Failure Unit := do
  let booking ← undecided actor id
  Repository.deleteBooking id
  Action.count .bookingDeclined
  Action.publish (.booking .declined booking)

/-- The spaces of some locations. -/
def spacesOf : List Location → Action StoreError (List Id)
  | [] => return []
  | l :: ls => do
    let spaces ← Repository.spacesIn l.id
    return spaces.map (·.id) ++ (← spacesOf ls)

/-- Those of some spaces whose context can be loaded for the actor. -/
def reachable (actor : User) : List Id → Action Failure (List Id)
  | [] => return []
  | id :: ids => do
    let outcome ← Action.attempt (spaceContext actor id)
    let rest ← reachable actor ids
    return if outcome.isOk then id :: rest else rest

/-- The spaces for which the actor may approve: all of the organization for an administrator, and
for other users those in the organization that a group of theirs approves for. -/
def approvableSpaces (actor : User) : Action Failure (List Id) := do
  if actor.isSpaceAdmin then
    spacesOf (← Repository.locationsOf actor.org)
  else
    let memberOf ← Repository.memberships actor.id
    if memberOf.isEmpty then return []
    reachable actor (← Repository.spacesApprovedBy memberOf)

/-- The bookings that wait for a decision which the actor may take, and are not over, by start. -/
def pendingApprovals (actor : User) : Action Failure (List Booking) := do
  let spaces ← approvableSpaces actor
  if spaces.isEmpty then return []
  Repository.pendingIn spaces (← Action.now)

/-- How many bookings wait for a decision which the actor may take. -/
def countPendingApprovals (actor : User) : Action Failure Nat := do
  return (← pendingApprovals actor).length

end SpaceBooking.Service
