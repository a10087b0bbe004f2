import SpaceBooking.Service.Single

/-!
# Repeating bookings

Booking a series, trying one out, and giving one up. The instances of a series are admitted one by
one, and one that cannot be booked does not keep the others from being booked.

A dry run (`precheckSeries`) goes through the same steps as a real one (`bookSeries`), but keeps the
spans that it accepted in memory instead of storing bookings.
-/

namespace SpaceBooking

/-- What became of an instance of a series: its booking, nothing in a dry run, or a failure. -/
structure Attempt where
  span : Span
  outcome : Except Failure (Option Booking)

/-- What is reported about an instance of a series. -/
structure InstanceReport where
  index : Nat
  span : Span
  success : Bool
  booking : Option Id
  reason : Option ReasonCode

/-- What is reported about a series. There is no series if no instance was booked. -/
structure SeriesReport where
  series : Option Id
  instances : List InstanceReport

namespace SeriesReport

/-- How many instances were accepted. -/
def created (r : SeriesReport) : Nat := r.instances.countP (·.success)

end SeriesReport

namespace Attempt

/-- Whether the instance was accepted. -/
def accepted (a : Attempt) : Bool := a.outcome.isOk

/-- The booking that was made for the instance. -/
def booking? (a : Attempt) : Option Booking :=
  match a.outcome with
  | .ok booking => booking
  | .error _ => none

/-- The report on the instance at a place of the series. -/
def report (index : Nat) (a : Attempt) : InstanceReport where
  index := index
  span := a.span
  success := a.accepted
  booking := a.booking?.map (·.id)
  reason :=
    match a.outcome with
    | .ok _ => none
    | .error failure => failure.reason

/-- The reports on all instances of a series, in order. -/
def reports (as : List Attempt) : List InstanceReport := as.mapIdx report

end Attempt

namespace Service

/-- A series whose request was found in order, before its instances are looked at. -/
structure SeriesPlan where
  ctx : SpaceContext
  owner : Id
  first : Span
  stop : Int
  spans : List Span
  approved : Bool

/-- The series of a plan. -/
def SeriesPlan.series (p : SeriesPlan) (req : SeriesRequest) (id : Id) : Series where
  id := id
  owner := p.owner
  space := p.ctx.space.id
  subject := req.subject
  cadence := req.cadence
  first := p.first
  stop := p.stop

/-- The spans of all instances of a series. There must be one at least, and not more than the
configuration allows. -/
def instanceSpans (cadence : Cadence) (zone : Zone) (first : Span) (stop : Int) :
    Action Failure (List Span) := do
  let most := (← Action.conditions).config.maxSeriesInstances
  let spans := cadence.occurrences zone first stop (Word.next most)
  Action.ensure (spans.length ≤ most) (.limitExceeded "too many series instances")
  Action.ensure (!spans.isEmpty) (.policy .invalidRecurrence)
  return spans

/-- Checks the request for a series and lays the series out. -/
def planSeries (actor : User) (req : SeriesRequest) : Action Failure SeriesPlan := do
  let ctx ← spaceContext actor req.space
  let owner ← ownerFor actor req.onBehalfOf
  let first ← requestSpan ctx.zone req.enter req.leave
  refuse (Limits.subjectFailure? ctx.space req.subject)
  refuse (Limits.cadenceFailure? req.cadence)
  let stop := ctx.zone.resolve req.stop
  Action.ensure (first.start < stop) (.policy .invalidRecurrence)
  let spans ← instanceSpans req.cadence ctx.zone first stop
  let approved ← startsApproved ctx
  return { ctx, owner, first, stop, spans, approved }

/-- Admits an instance of a series, given the spans that a dry run accepted before. -/
def admitInstance (actor : User) (plan : SeriesPlan) (pending : List Span) (span : Span) :
    Action Failure Unit := do
  refuse (Limits.spanFailure? span)
  checkAdmission plan.ctx actor plan.owner span none pending

/-- Books an instance of a series. -/
def bookInstance (actor : User) (plan : SeriesPlan) (series : Series) (span : Span) :
    Action Failure Booking := do
  admitInstance actor plan [] span
  let booking : Booking :=
    { id := ← Action.newId, owner := plan.owner, space := plan.ctx.space.id, span,
      subject := series.subject, approved := plan.approved, series := some series.id,
      calendarEvent := none }
  Repository.insertBooking booking
  return booking

/-- Acts for one instance of a series and counts the outcome. -/
def attemptInstance (span : Span) (act : Action Failure (Option Booking)) :
    Action Failure Attempt := do
  let outcome ← Action.attempt act
  Action.count (if outcome.isOk then .instanceAccepted else .instanceRejected)
  return { span, outcome }

/-- Books the instances of a series one after the other. -/
def bookInstances (actor : User) (plan : SeriesPlan) (series : Series) :
    List Span → Action Failure (List Attempt)
  | [] => return []
  | span :: spans => do
    let a ← attemptInstance span (some <$> bookInstance actor plan series span)
    return a :: (← bookInstances actor plan series spans)

/-- Tries the instances of a series one after the other, given the spans accepted before. -/
def tryInstances (actor : User) (plan : SeriesPlan) :
    List Span → List Span → Action Failure (List Attempt)
  | _, [] => return []
  | pending, span :: spans => do
    let a ← attemptInstance span do
      admitInstance actor plan pending span
      return none
    let pending := if a.accepted then pending ++ [span] else pending
    return a :: (← tryInstances actor plan pending spans)

/-- Publishes the bookings of a series. -/
def publishAll : List Booking → Action Failure Unit
  | [] => pure ()
  | b :: bs => do
    publishCreated b
    publishAll bs

/-- Books a series. If none of its instances can be booked, the series is not kept. -/
def bookSeries (actor : User) (req : SeriesRequest) : Action Failure SeriesReport :=
  measured .createSeries do
    let plan ← planSeries actor req
    let series := plan.series req (← Action.newId)
    Repository.insertSeries series
    let attempts ← bookInstances actor plan series plan.spans
    let created := attempts.filterMap (·.booking?)
    if created.isEmpty then
      Repository.deleteSeries series.id
      return { series := none, instances := Attempt.reports attempts }
    publishAll created
    Action.publish
      (.seriesCreated series.id series.space created.length (attempts.length - created.length))
    return { series := some series.id, instances := Attempt.reports attempts }

/-- Tries a series out. Nothing is stored or published. -/
def precheckSeries (actor : User) (req : SeriesRequest) :
    Action Failure (List InstanceReport) := do
  let plan ← planSeries actor req
  return Attempt.reports (← tryInstances actor plan [] plan.spans)

/-- Deletes the bookings that start after `now` and takes the others out of their series. Counts
both. -/
def dissolve (now : Int) : List Booking → Action Failure (Nat × Nat)
  | [] => return (0, 0)
  | b :: bs => do
    if now < b.span.start then
      Repository.deleteBooking b.id
      Action.publish (.booking .deleted b)
      let (removed, detached) ← dissolve now bs
      return (removed + 1, detached)
    else
      Repository.clearSeriesLink b.id
      let (removed, detached) ← dissolve now bs
      return (removed, detached + 1)

/-- A stored series. -/
def storedSeries (id : Id) : Action Failure Series := do
  Action.ofOption (.notFound id) (← Repository.series? id)

/-- Gives up a series: bookings ahead are deleted, the others stay on their own. -/
def cancelSeries (actor : User) (id : Id) : Action Failure Unit := do
  let series ← storedSeries id
  let _ ← spaceContext actor series.space
  Action.ensure (series.owner = actor.id || actor.isSpaceAdmin) (.forbidden "not the series owner")
  let now ← Action.now
  let (removed, detached) ← dissolve now (← Repository.bookingsOfSeries id)
  Repository.deleteSeries id
  Action.publish (.seriesDeleted id series.space removed detached)

end Service

end SpaceBooking
