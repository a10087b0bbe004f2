import SpaceBooking.Failure

/-!
# Measurements

What the service counts about itself. A `Metric` is one counter, `Metric.key` the name under which
it is reported.
-/

namespace SpaceBooking

/-- The requests that are measured. -/
inductive MeasuredRequest where
  | create
  | update
  | delete
  | createSeries
  deriving DecidableEq, Repr

def MeasuredRequest.label : MeasuredRequest → String
  | create => "create"
  | update => "update"
  | delete => "delete"
  | createSeries => "create_recurring"

/-- One counter. -/
inductive Metric where
  /-- Requests that were carried out. -/
  | accepted (request : MeasuredRequest)
  /-- Requests that failed for a reason with a code. -/
  | rejected (request : MeasuredRequest) (reason : ReasonCode)
  /-- Requests whose duration was taken. -/
  | timed (request : MeasuredRequest)
  /-- Instances of series that could be booked. -/
  | instanceAccepted
  /-- Instances of series that could not. -/
  | instanceRejected
  | bookingApproved
  | bookingDeclined
  /-- Notices that reached a sink. -/
  | noticeDelivered
  /-- Notices that a sink failed to take. -/
  | noticeFailed
  /-- Notices that found the queue full. -/
  | noticeDropped
  deriving DecidableEq

namespace Metric

/-- A counter's name and, in braces, its labels in alphabetical order. -/
def keyOf (name : String) : List (String × String) → String
  | [] => name
  | labels =>
    name ++ "\x7b" ++ ",".intercalate (labels.map fun (k, v) => k ++ "=" ++ v) ++ "\x7d"

/-- The name under which a counter is reported. -/
def key : Metric → String
  | accepted r => keyOf "deskbook_bookings_accepted_total" [("op", r.label)]
  | rejected r reason =>
    keyOf "deskbook_bookings_rejected_total" [("op", r.label), ("reason", reason.label)]
  | timed r => keyOf "deskbook_admission_duration_seconds" [("op", r.label)]
  | instanceAccepted => keyOf "deskbook_series_instances_total" [("outcome", "accepted")]
  | instanceRejected => keyOf "deskbook_series_instances_total" [("outcome", "rejected")]
  | bookingApproved => keyOf "deskbook_approvals_total" [("decision", "approved")]
  | bookingDeclined => keyOf "deskbook_approvals_total" [("decision", "declined")]
  | noticeDelivered => keyOf "deskbook_notifications_delivered_total" []
  | noticeFailed => keyOf "deskbook_notifications_failed_total" []
  | noticeDropped => keyOf "deskbook_notifications_dropped_total" []

end Metric

end SpaceBooking
