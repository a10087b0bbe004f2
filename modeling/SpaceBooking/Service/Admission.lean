import SpaceBooking.Rule
import SpaceBooking.Service.Context

/-!
# Admission

Whether a span of time can be booked on a space. First come bounds that hold everywhere, then the
rules of the policy, then other bookings of the space, then the cap of the location.

Bookings that a dry run would have made are not stored. They are handed in as `pending` spans, which
count as bookings of the owner and hold their slots.
-/

namespace SpaceBooking

namespace Limits

/-- The start of the year 2000. -/
def earliest : Int := 946684800000

/-- The start of the year 2100. -/
def latest : Int := 4102444800000

/-- The longest booking that anyone can make: 366 days. -/
def maxDuration : Int := 366 * dayMs

/-- The longest subject in bytes. -/
def maxSubjectBytes : Nat := 1024

/-- The longest cycle of a series. -/
def maxCycle : Nat := 365

/-- What is wrong with a span, if it leaves the bounds that hold everywhere. -/
def spanFailure? (span : Span) : Option Failure :=
  if span.start < earliest ∨ latest < span.stop then
    some (.limitExceeded "timestamp out of range")
  else if maxDuration < span.duration then some (.limitExceeded "span too wide")
  else none

theorem spanFailure?_eq_none_iff {span : Span} : spanFailure? span = none ↔
    earliest ≤ span.start ∧ span.stop ≤ latest ∧ span.duration ≤ maxDuration := by
  unfold spanFailure?
  split
  · simp only [reduceCtorEq, false_iff]
    omega
  · split
    · simp only [reduceCtorEq, false_iff]
      omega
    · simp only [true_iff]
      omega

/-- What is wrong with the subject of a booking on a space. -/
def subjectFailure? (space : Space) (subject : String) : Option Failure :=
  if maxSubjectBytes < subject.utf8ByteSize then some (.limitExceeded "subject too long")
  else if space.requiresSubject && Text.blank subject then some (.policy .subjectRequired)
  else none

/-- What is wrong with the rule of a series: its cycle, or that it picks no weekday. -/
def cadenceFailure? (cadence : Cadence) : Option Failure :=
  let noDay := match cadence with
    | .daily _ => false
    | .weekly _ weekdays => weekdays.isEmpty
  if cadence.cycle = 0 || maxCycle < cadence.cycle || noDay then
    some (.policy .invalidRecurrence)
  else none

end Limits

namespace Service

/-- Fails with a failure, if there is one. -/
def refuse : Option Failure → Action Failure Unit
  | some failure => Action.fail failure
  | none => pure ()

/-- The span between two wall-clock times of a space. It must not be empty, nor leave the bounds
that hold everywhere. -/
def requestSpan (zone : Zone) (enter leave : LocalTime) : Action Failure Span := do
  let span : Span := ⟨zone.resolve enter, zone.resolve leave⟩
  Action.ensure (span.start < span.stop) (.policy .invalidDuration)
  refuse (Limits.spanFailure? span)
  return span

/-- Whether one more booking than a count keeps within a cap. The count is not taken if there is no
cap. -/
def belowCap (cap : Int) (stored : Action StoreError Nat) (unstored : Nat) :
    Action StoreError Bool :=
  if cap ≤ 0 then pure true
  else do return (← stored) + unstored < cap

/-- Whether a candidate keeps a rule. -/
def passes (policy : Policy) (zone : Zone) (c : Candidate) : Rule → Action StoreError Bool
  | .duration => return policy.allowsDuration zone c.span
  | .advanceWindow => return policy.allowsAdvance zone (← Action.now) c.span
  | .userConcurrent =>
    belowCap policy.maxConcurrentPerUser
      (Repository.countOverlapping c.owner c.span c.exclude) c.unstoredOverlaps
  | .minDuration => return policy.allowsShortness c.span
  | .upcomingCap => do
    belowCap policy.maxUpcomingPerUser
      (Repository.countUpcoming c.owner (← Action.now)) c.unstored
  | .allowedBooker => do
    let allowed ← Repository.allowedBookers c.space
    if allowed.isEmpty then return true
    return shareGroup (← Repository.memberships c.owner) allowed

/-- The verdict of some rules: that of the first one that is broken. -/
def verdictOf (policy : Policy) (zone : Zone) (c : Candidate) :
    List Rule → Action StoreError Verdict
  | [] => return .accept
  | rule :: rules => do
    if ← passes policy zone c rule then verdictOf policy zone c rules
    else return .reject rule.reason

/-- The verdict of those rules of the chain that apply. -/
def validate (policy : Policy) (zone : Zone) (c : Candidate) : Action StoreError Verdict :=
  verdictOf policy zone c (Rule.chain.filter (policy.applies c))

/-- The stored bookings on a space that overlap a span, leaving one out. What the store reports is
checked, so that nothing else can stand in the way. -/
def conflicts (space : Id) (span : Span) (exclude : Option Id) :
    Action StoreError (List Booking) := do
  let found ← Repository.findConflicts space span exclude
  return found.filter fun b => b.space = space && some b.id ≠ exclude && b.span.overlaps span

/-- Whether the cap of a location leaves no room for one more booking over a span. -/
def saturated (location : Location) (span : Span) (exclude : Option Id) :
    Action StoreError Bool := do
  if location.maxConcurrent = 0 then return false
  let stored ← Repository.countInLocation location.id span exclude
  return location.maxConcurrent ≤ stored

/-- What the rules are told about a booking for `owner`, with spans that are pending. -/
def candidateFor (ctx : SpaceContext) (actor : User) (owner : Id) (span : Span)
    (exclude : Option Id) (pending : List Span) (now : Int) : Candidate where
  owner := owner
  byAdmin := actor.isSpaceAdmin
  space := ctx.space.id
  span := span
  exclude := exclude
  unstored := pending.countP (now < ·.stop)
  unstoredOverlaps := pending.countP (·.overlaps span)

/-- Lets a booking pass or fails: rules of the policy, other bookings of the space, pending spans,
cap of the location. -/
def checkAdmission (ctx : SpaceContext) (actor : User) (owner : Id) (span : Span)
    (exclude : Option Id) (pending : List Span) : Action Failure Unit := do
  let candidate := candidateFor ctx actor owner span exclude pending (← Action.now)
  refuse (← validate ctx.policy ctx.zone candidate).failure?
  let holders ← conflicts ctx.space.id span exclude
  refuse (holders.head?.map fun b => .alreadyBooked b.id)
  Action.ensure (candidate.unstoredOverlaps = 0) (.policy .slotConflict)
  Action.ensure (!(← saturated ctx.location span exclude)) (.policy .locationFull)

/-- Whether a new booking on the space has to be approved: if groups are in use and some group
approves for it. -/
def needsApproval (ctx : SpaceContext) : Action StoreError Bool := do
  if ctx.policy.groupsEnabled then
    return !(← Repository.approvers ctx.space.id).isEmpty
  else return false

/-- Whether a new booking on the space needs no decision. -/
def startsApproved (ctx : SpaceContext) : Action StoreError Bool := do
  return !(← needsApproval ctx)

end Service

end SpaceBooking
