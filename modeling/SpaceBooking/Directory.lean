import SpaceBooking.Id

/-!
# Who books what

Users belong to an organization and have a role in it. An organization has locations, a location has
spaces, and spaces are what is booked. Groups of users are known by their identifier alone.
-/

namespace SpaceBooking

/-- What a user may do, in ascending order of privilege. -/
inductive Role where
  | user
  | spaceAdmin
  | orgAdmin
  | superAdmin
  deriving DecidableEq, Repr

/-- A user of an organization. -/
structure User where
  id : Id
  org : Id
  role : Role
  deriving DecidableEq

/-- Whether the user administers spaces: every role but the lowest does. -/
def User.isSpaceAdmin (u : User) : Bool := u.role ≠ .user

/-- A place with spaces. A blank zone name stands for the default of the organization, and a cap of
zero for none. -/
structure Location where
  id : Id
  org : Id
  name : String
  zoneName : String
  /-- How many bookings of its spaces may overlap, zero meaning any number. -/
  maxConcurrent : Nat
  deriving DecidableEq

/-- A desk or room that can be booked. -/
structure Space where
  id : Id
  location : Id
  name : String
  requiresSubject : Bool
  deriving DecidableEq

end SpaceBooking
