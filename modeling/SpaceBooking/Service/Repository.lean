import SpaceBooking.Service.Action

/-!
# Calls to the store

Each call that the service makes to its store, as an action that may fail by an outage. The policy
of an organization is read setting by setting, each with a call of its own.
-/

namespace SpaceBooking.Repository

open SpaceBooking.Action (ask change)

variable (id : Id)

def space? : Action StoreError (Option Space) := ask .space (·.spaces.get? id)

def approvers : Action StoreError (List Id) := ask .approvers (·.approversOf id)

def allowedBookers : Action StoreError (List Id) := ask .allowedBookers (·.allowedBookersOf id)

def spacesIn : Action StoreError (List Space) := ask .spacesIn (·.spacesIn id)

def spacesApprovedBy (groups : List Id) : Action StoreError (List Id) :=
  ask .spacesApprovedBy (·.spacesApprovedBy groups)

def location? : Action StoreError (Option Location) := ask .location (·.locations.get? id)

def locationsOf : Action StoreError (List Location) := ask .locationsOf (·.locationsOf id)

def booking? : Action StoreError (Option Booking) := ask .booking (·.booking? id)

def insertBooking (b : Booking) : Action StoreError Unit :=
  change .insertBooking (·.insertBooking b)

def updateBooking (b : Booking) : Action StoreError Unit :=
  change .updateBooking (·.updateBooking b)

def deleteBooking : Action StoreError Unit := change .deleteBooking (·.deleteBooking id)

/-- The bookings on a space that overlap a span, unless the store reports something else. -/
def findConflicts (span : Span) (exclude : Option Id) : Action StoreError (List Booking) :=
  fun c w =>
    ask .findConflicts
      (fun s =>
        (c.misreport (w.calls.count .findConflicts) s).getD (s.findConflicts id span exclude)) c w

def countInLocation (span : Span) (exclude : Option Id) : Action StoreError Nat :=
  ask .countInLocation (·.countInLocation id span exclude)

def countUpcoming (now : Int) : Action StoreError Nat := ask .countUpcoming (·.countUpcoming id now)

def countOverlapping (span : Span) (exclude : Option Id) : Action StoreError Nat :=
  ask .countOverlapping (·.countOverlapping id span exclude)

def bookingsOfSeries : Action StoreError (List Booking) :=
  ask .bookingsOfSeries (·.bookingsOfSeries id)

def clearSeriesLink : Action StoreError Unit := change .clearSeriesLink (·.clearSeriesLink id)

def pendingIn (spaces : List Id) (now : Int) : Action StoreError (List Booking) :=
  ask .pendingIn (·.pendingIn spaces now)

def series? : Action StoreError (Option Series) := ask .series (·.series.get? id)

def insertSeries (s : Series) : Action StoreError Unit :=
  change .insertSeries fun store => .ok (store.insertSeries s)

def deleteSeries : Action StoreError Unit := change .deleteSeries (·.deleteSeries id)

def memberships : Action StoreError (List Id) := ask .memberships (·.membershipsOf id)

def user? : Action StoreError (Option User) := ask .user (·.users.get? id)

def flag? (key : String) : Action StoreError (Option Bool) := ask .flag (·.flag? id key)

def number? (key : String) : Action StoreError (Option Int) := ask .number (·.number? id key)

def text? (key : String) : Action StoreError (Option String) := ask .text (·.text? id key)

/-- A switch of an organization, or its default. -/
def flagOr (key : String) (default : Bool) : Action StoreError Bool := do
  return (← flag? id key).getD default

/-- A number that an organization sets, or its default. -/
def numberOr (key : String) (default : Int) : Action StoreError Int := do
  return (← number? id key).getD default

/-- The policy of an organization. A value of the wrong type counts as not set, and so does a blank
zone name. -/
def policy (org : Id) : Action StoreError Policy := do
  let d : Policy := {}
  return {
    dailyBasis := ← flagOr org SettingKey.dailyBasis d.dailyBasis
    noAdminRestrictions := ← flagOr org SettingKey.noAdminRestrictions d.noAdminRestrictions
    maxDaysInAdvance := ← numberOr org SettingKey.maxDaysInAdvance d.maxDaysInAdvance
    maxDurationHours := ← numberOr org SettingKey.maxDurationHours d.maxDurationHours
    maxConcurrentPerUser := ← numberOr org SettingKey.maxConcurrentPerUser d.maxConcurrentPerUser
    minDurationHours := ← numberOr org SettingKey.minDurationHours d.minDurationHours
    maxUpcomingPerUser := ← numberOr org SettingKey.maxUpcomingPerUser d.maxUpcomingPerUser
    hoursBeforeDelete := ← numberOr org SettingKey.hoursBeforeDelete d.hoursBeforeDelete
    limitsDelete := ← flagOr org SettingKey.limitsDelete d.limitsDelete
    groupsEnabled := ← flagOr org SettingKey.groupsEnabled d.groupsEnabled
    defaultZoneName := (← text? org SettingKey.defaultZoneName).filter (!Text.blank ·) }

end SpaceBooking.Repository
