import SpaceBooking.Id
import SpaceBooking.Text.Quoted

/-!
# Failures

Why a request was not carried out. A `StoreError` comes from the store of bookings, a `Failure` from
the service above it. Clients branch on the kind of a failure and on its reason code; the message is
for people.
-/

namespace SpaceBooking

/-- Why a booking was turned down, in the terms that clients branch on. -/
inductive ReasonCode where
  | slotConflict
  | locationFull
  | tooManyUpcoming
  | tooFarAhead
  | invalidDuration
  | tooManyAtOnce
  | tooShort
  | tooLateToDelete
  | notAllowedBooker
  | subjectRequired
  | invalidRecurrence
  deriving DecidableEq, Repr

namespace ReasonCode

/-- The number that clients know a reason by. -/
def code : ReasonCode → Nat
  | slotConflict => 1001
  | locationFull => 1002
  | tooManyUpcoming => 1003
  | tooFarAhead => 1004
  | invalidDuration => 1005
  | tooManyAtOnce => 1006
  | tooShort => 1007
  | tooLateToDelete => 1008
  | notAllowedBooker => 1009
  | subjectRequired => 1010
  | invalidRecurrence => 1011

/-- The name of a reason in messages and measurements. -/
def label : ReasonCode → String
  | slotConflict => "slot_conflict"
  | locationFull => "location_max_concurrent"
  | tooManyUpcoming => "too_many_upcoming_bookings"
  | tooFarAhead => "too_many_days_in_advance"
  | invalidDuration => "invalid_booking_duration"
  | tooManyAtOnce => "max_concurrent_for_user"
  | tooShort => "invalid_min_booking_duration"
  | tooLateToDelete => "max_hours_before_delete"
  | notAllowedBooker => "not_allowed_booker"
  | subjectRequired => "subject_required"
  | invalidRecurrence => "invalid_recurrence"

end ReasonCode

/-- Why the store did not do what it was asked. -/
inductive StoreError where
  | notFound (id : Id)
  /-- The booking that holds the slot already. -/
  | conflict (holder : Id)
  | unavailable (message : String)
  deriving DecidableEq

def StoreError.message : StoreError → String
  | notFound id => "not found: " ++ id.text
  | conflict holder => "slot held by booking " ++ holder.text
  | unavailable message => "store unavailable: " ++ message

/-- The class of a failure. -/
inductive FailureKind where
  | badRequest
  | notFound
  | forbidden
  | conflict
  | internal
  deriving DecidableEq, Repr

/-- Why a request was not carried out. -/
inductive Failure where
  /-- A rule for bookings turned it down. -/
  | policy (reason : ReasonCode)
  /-- Another booking holds the slot. -/
  | alreadyBooked (holder : Id)
  | notFound (id : Id)
  | forbidden (why : String)
  /-- The booking is not waiting for approval. -/
  | alreadyDecided (booking : Id)
  | limitExceeded (limit : String)
  /-- A zone name in the settings is unknown. -/
  | invalidTimeZone (name : String)
  | store (error : StoreError)
  deriving DecidableEq

namespace Failure

def kind : Failure → FailureKind
  | policy _ | limitExceeded _ => .badRequest
  | alreadyBooked _ | alreadyDecided _ => .conflict
  | notFound _ => .notFound
  | forbidden _ => .forbidden
  | invalidTimeZone _ | store _ => .internal

/-- The reason code, for failures that have one. -/
def reason : Failure → Option ReasonCode
  | policy reason => some reason
  | alreadyBooked _ => some .slotConflict
  | _ => none

def message : Failure → String
  | policy reason =>
    "rejected by booking policy: " ++ reason.label ++ " (" ++ toString reason.code ++ ")"
  | alreadyBooked holder => "slot already booked by " ++ holder.text
  | notFound id => "not found: " ++ id.text
  | forbidden why => "forbidden: " ++ why
  | alreadyDecided booking => "booking " ++ booking.text ++ " is not pending approval"
  | limitExceeded limit => "limit exceeded: " ++ limit
  | invalidTimeZone name => "invalid time zone configured: " ++ Text.quoted name
  | store error => error.message

/-- What an error of the store means for a request: a missing thing and a held slot are answers of
their own, anything else is a fault of the store. -/
def ofStore : StoreError → Failure
  | .notFound id => notFound id
  | .conflict holder => alreadyBooked holder
  | .unavailable message => store (.unavailable message)

end Failure

end SpaceBooking
