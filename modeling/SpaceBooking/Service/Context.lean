import SpaceBooking.Service.Repository

/-!
# The context of a request

What a request about a space needs to know: the space, its location, the policy of the organization
and the zone. A space of another organization is reported as if it did not exist.
-/

namespace SpaceBooking

/-- What a decision about a space is based on. -/
structure SpaceContext where
  space : Space
  location : Location
  policy : Policy
  zone : Zone

namespace Service

/-- The zone of a location. A name that the zone table does not know is a failure. -/
def zoneOf (location : Location) (policy : Policy) : Action Failure Zone := do
  let c ← Action.conditions
  let name := zoneName location.zoneName policy.defaultZoneName c.config.fallbackZoneName
  Action.ofOption (.invalidTimeZone name) (c.zones name)

/-- Loads what a request of `actor` about a space needs. -/
def spaceContext (actor : User) (id : Id) : Action Failure SpaceContext := do
  let space ← Action.ofOption (.notFound id) (← Repository.space? id)
  let location ← Action.ofOption (.notFound id) (← Repository.location? space.location)
  Action.ensure (location.org = actor.org) (.notFound id)
  let policy ← Repository.policy location.org
  let zone ← zoneOf location policy
  return { space, location, policy, zone }

/-- Makes sure that a user is the actor or belongs to the actor's organization. -/
def knownUser (actor : User) (id : Id) : Action Failure Unit :=
  if id = actor.id then pure ()
  else do
    let user ← Action.ofOption (.notFound id) (← Repository.user? id)
    Action.ensure (user.org = actor.org) (.notFound id)

/-- Who will own a booking: the actor, or another user of the organization for whom an administrator
books. -/
def ownerFor (actor : User) : Option Id → Action Failure Id
  | none => pure actor.id
  | some id => do
    Action.ensure (id = actor.id || actor.isSpaceAdmin)
      (.forbidden "booking on behalf of others requires space admin")
    knownUser actor id
    return id

/-- Whether a group is on both lists. -/
def shareGroup (memberOf groups : List Id) : Bool := memberOf.any (· ∈ groups)

end Service

end SpaceBooking
