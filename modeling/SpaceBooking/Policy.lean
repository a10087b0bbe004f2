import SpaceBooking.Text.Blank
import SpaceBooking.Time.ZoneTable

/-!
# Policies

A `Policy` holds the limits and switches that an organization sets for bookings, with a default for
each that is not set. Numbers of zero or less stand for "no limit" where the comments say so. Nobody
checks the limits, so a limit can be any number of 64 bits.

`zoneName` is the name of the zone that applies at a location: its own, the default of the
organization, or the fallback of the service, whichever is set first.
-/

namespace SpaceBooking

/-- A value that an organization sets. -/
inductive Setting where
  | flag (value : Bool)
  | number (value : Int)
  | text (value : String)
  deriving DecidableEq

/-- The limits and switches of an organization. -/
structure Policy where
  /-- Only whole days can be booked. -/
  dailyBasis : Bool := false
  /-- Administrators are exempt from some of the rules. -/
  noAdminRestrictions : Bool := false
  maxDaysInAdvance : Int := 14
  maxDurationHours : Int := 12
  /-- How many bookings of a user may overlap; no limit if not positive. -/
  maxConcurrentPerUser : Int := 0
  /-- No limit if not positive. -/
  minDurationHours : Int := 0
  /-- How many bookings ahead a user may have; no limit if not positive. -/
  maxUpcomingPerUser : Int := 10
  /-- How long before its start a booking can still be deleted; no limit if not positive. -/
  hoursBeforeDelete : Int := 0
  /-- Whether `hoursBeforeDelete` applies. -/
  limitsDelete : Bool := false
  /-- Whether spaces can have approvers. -/
  groupsEnabled : Bool := true
  /-- The zone of locations that do not name one. -/
  defaultZoneName : Option String := none
  deriving DecidableEq

namespace SettingKey

def dailyBasis : String := "daily_basis_booking"
def noAdminRestrictions : String := "no_admin_restrictions"
def maxDaysInAdvance : String := "max_days_in_advance"
def maxDurationHours : String := "max_booking_duration_hours"
def maxConcurrentPerUser : String := "max_concurrent_bookings_per_user"
def minDurationHours : String := "min_booking_duration_hours"
def maxUpcomingPerUser : String := "max_bookings_per_user"
def hoursBeforeDelete : String := "max_hours_before_delete"
def limitsDelete : String := "enable_max_hours_before_delete"
def groupsEnabled : String := "feature_groups"
def defaultZoneName : String := "default_timezone"

end SettingKey

/-- The zone name that applies at a location. The names of the location and the organization are
trimmed and skipped if blank; the fallback is taken as it is. -/
def zoneName (location : String) (organization : Option String) (fallback : String) : String :=
  let own := Text.trim location
  if own ≠ "" then own
  else
    match organization.map Text.trim with
    | some shared => if shared ≠ "" then shared else fallback
    | none => fallback

end SpaceBooking
