import SpaceBooking.Event
import SpaceBooking.Series
import SpaceBooking.Time.Written
import SpaceBooking.Wire.Value

/-!
# Wire forms

How the things that clients see are written as wire values (`toWire`), and how they are read back
(`ofWire?`). Reading fails if a field is missing, has the wrong type or is out of range. Optional
fields may be missing or nothing when they are read and are always written.

What is written as a record may also be read from a list of its fields in the same order, at any
depth; a tag comes first in the list. The request for a series, whose fields are those of a rule and
others, is read from a record only.
-/

namespace SpaceBooking

open Wire

/-- Things that have a form on the wire. -/
class OnWire (α : Type) where
  toWire : α → Value
  ofWire? : Value → Option α

export OnWire (toWire ofWire?)

/-- Reads one of some things by its name, which stands alone or is the only field of a record, with
nothing in it. -/
def byName? {α : Type} (all : List α) (name : α → String) : Value → Option α
  | .text s | .record [(s, .null)] => all.find? fun a => name a = s
  | _ => none

instance : OnWire Id where
  toWire id := .text id.text
  ofWire? v := v.text?.bind Id.ofText?

instance : OnWire LocalTime where
  toWire t := .text t.text
  ofWire? v := v.text?.bind LocalTime.ofText?

instance : OnWire Date where
  toWire d := .text d.text
  ofWire? v := v.text?.bind Date.ofText?

instance : OnWire Span where
  toWire s := .record [("start", .int s.start), ("end", .int s.stop)]
  ofWire? v := do
    let r ← v.keyed? ["start", "end"] []
    return { start := ← r.get "start" Value.int64?, stop := ← r.get "end" Value.int64? }

def Role.all : List Role := [.user, .spaceAdmin, .orgAdmin, .superAdmin]

def Role.text : Role → String
  | user => "user"
  | spaceAdmin => "space_admin"
  | orgAdmin => "org_admin"
  | superAdmin => "super_admin"

instance : OnWire Role where
  toWire r := .text r.text
  ofWire? := byName? Role.all Role.text

instance : OnWire User where
  toWire u := .record [("id", toWire u.id), ("org_id", toWire u.org), ("role", toWire u.role)]
  ofWire? v := do
    let r ← v.keyed? ["id", "org_id", "role"] []
    return {
      id := ← r.get "id" ofWire?
      org := ← r.get "org_id" ofWire?
      role := ← r.get "role" ofWire? }

instance : OnWire Location where
  toWire l := .record [
    ("id", toWire l.id),
    ("org_id", toWire l.org),
    ("name", .text l.name),
    ("timezone", .text l.zoneName),
    ("max_concurrent_bookings", .int l.maxConcurrent)]
  ofWire? v := do
    let r ← v.keyed? ["id", "org_id", "name", "timezone", "max_concurrent_bookings"] []
    return {
      id := ← r.get "id" ofWire?
      org := ← r.get "org_id" ofWire?
      name := ← r.get "name" Value.text?
      zoneName := ← r.get "timezone" Value.text?
      maxConcurrent := ← r.get "max_concurrent_bookings" Value.nat32? }

instance : OnWire Space where
  toWire s := .record [
    ("id", toWire s.id),
    ("location_id", toWire s.location),
    ("name", .text s.name),
    ("require_subject", .bool s.requiresSubject)]
  ofWire? v := do
    let r ← v.keyed? ["id", "location_id", "name", "require_subject"] []
    return {
      id := ← r.get "id" ofWire?
      location := ← r.get "location_id" ofWire?
      name := ← r.get "name" Value.text?
      requiresSubject := ← r.get "require_subject" Value.bool? }

instance : OnWire Booking where
  toWire b := .record [
    ("id", toWire b.id),
    ("user_id", toWire b.owner),
    ("space_id", toWire b.space),
    ("span", toWire b.span),
    ("subject", .text b.subject),
    ("approved", .bool b.approved),
    ("recurring_id", .ofOption toWire b.series),
    ("calendar_event_id", .ofOption .text b.calendarEvent)]
  ofWire? v := do
    let r ← v.keyed? ["id", "user_id", "space_id", "span", "subject", "approved",
      "recurring_id", "calendar_event_id"] []
    return {
      id := ← r.get "id" ofWire?
      owner := ← r.get "user_id" ofWire?
      space := ← r.get "space_id" ofWire?
      span := ← r.get "span" ofWire?
      subject := ← r.get "subject" Value.text?
      approved := ← r.get "approved" Value.bool?
      series := ← r.getOption "recurring_id" ofWire?
      calendarEvent := ← r.getOption "calendar_event_id" Value.text? }

def ApprovalState.all : List ApprovalState := [.pending, .approved]

def ApprovalState.text : ApprovalState → String
  | pending => "pending_approval"
  | approved => "approved"

instance : OnWire ApprovalState where
  toWire s := .text s.text
  ofWire? := byName? ApprovalState.all ApprovalState.text

instance : OnWire Weekday where
  toWire d := .text d.text
  ofWire? v := v.text?.bind Weekday.ofName?

instance : OnWire WeekdaySet where
  toWire s := .ofList toWire s.toList
  ofWire? v := (v.list? ofWire?).map WeekdaySet.ofList

/-- The fields of a rule, which may stand among others. -/
def Cadence.fields : Cadence → List (String × Value)
  | daily cycle => [("cadence", .text "daily"), ("cycle", .int cycle)]
  | weekly cycle weekdays =>
    [("cadence", .text "weekly"), ("cycle", .int cycle), ("weekdays", toWire weekdays)]

/-- Reads a rule of a given kind. -/
def Cadence.ofKind? (kind : String) (v : Value) : Option Cadence := do
  if kind = "daily" then
    let r ← v.keyed? ["cycle"] []
    return daily (← r.get "cycle" Value.nat32?)
  else if kind = "weekly" then
    let r ← v.keyed? ["cycle", "weekdays"] []
    return weekly (← r.get "cycle" Value.nat32?) (← r.get "weekdays" ofWire?)
  else none

/-- The kind of a rule that stands among the fields of a request: its name, or its number counted
from zero. -/
def Cadence.kind? : Value → Option String
  | .text s => some s
  | .int 0 => some "daily"
  | .int 1 => some "weekly"
  | _ => none

instance : OnWire Cadence where
  toWire c := .record c.fields
  ofWire? v := do
    let (tag, rest) ← v.tagged? "cadence"
    Cadence.ofKind? (← tag.text?) rest

instance : OnWire Series where
  toWire s := .record [
    ("id", toWire s.id),
    ("user_id", toWire s.owner),
    ("space_id", toWire s.space),
    ("subject", .text s.subject),
    ("cadence", toWire s.cadence),
    ("first", toWire s.first),
    ("end", .int s.stop)]
  ofWire? v := do
    let r ← v.keyed? ["id", "user_id", "space_id", "subject", "cadence", "first", "end"] []
    return {
      id := ← r.get "id" ofWire?
      owner := ← r.get "user_id" ofWire?
      space := ← r.get "space_id" ofWire?
      subject := ← r.get "subject" Value.text?
      cadence := ← r.get "cadence" ofWire?
      first := ← r.get "first" ofWire?
      stop := ← r.get "end" Value.int64? }

instance : OnWire BookingRequest where
  toWire r := .record [
    ("space_id", toWire r.space),
    ("enter", toWire r.enter),
    ("leave", toWire r.leave),
    ("subject", .text r.subject),
    ("on_behalf_of", .ofOption toWire r.onBehalfOf)]
  ofWire? v := do
    let r ← v.keyed? ["space_id", "enter", "leave"] ["subject", "on_behalf_of"]
    return {
      space := ← r.get "space_id" ofWire?
      enter := ← r.get "enter" ofWire?
      leave := ← r.get "leave" ofWire?
      subject := ← r.getD "subject" "" Value.text?
      onBehalfOf := ← r.getOption "on_behalf_of" ofWire? }

instance : OnWire SeriesRequest where
  toWire r := .record ([
    ("space_id", toWire r.space),
    ("enter", toWire r.enter),
    ("leave", toWire r.leave),
    ("end", toWire r.stop)] ++ r.cadence.fields ++ [
    ("subject", .text r.subject),
    ("on_behalf_of", .ofOption toWire r.onBehalfOf)])
  ofWire? v := do
    return {
      space := ← v.get "space_id" ofWire?
      enter := ← v.get "enter" ofWire?
      leave := ← v.get "leave" ofWire?
      stop := ← v.get "end" ofWire?
      cadence := ← Cadence.ofKind? (← v.get "cadence" Cadence.kind?) v
      subject := ← v.getD "subject" "" Value.text?
      onBehalfOf := ← v.getOption "on_behalf_of" ofWire? }

def BookingChange.all : List BookingChange :=
  [.created, .updated, .deleted, .approvalRequested, .approved, .declined]

instance : OnWire Event where
  toWire
    | .booking change b => .record [("type", .text change.label), ("booking", toWire b)]
    | .seriesCreated series space created failed => .record [
      ("type", .text "series_created"),
      ("series_id", toWire series),
      ("space_id", toWire space),
      ("created", .int created),
      ("failed", .int failed)]
    | .seriesDeleted series space removed detached => .record [
      ("type", .text "series_deleted"),
      ("series_id", toWire series),
      ("space_id", toWire space),
      ("removed", .int removed),
      ("detached", .int detached)]
  ofWire? v := do
    let (tag, rest) ← v.tagged? "type"
    let kind ← tag.text?
    if kind = "series_created" then
      let r ← rest.keyed? ["series_id", "space_id", "created", "failed"] []
      return .seriesCreated (← r.get "series_id" ofWire?) (← r.get "space_id" ofWire?)
        (← r.get "created" Value.nat32?) (← r.get "failed" Value.nat32?)
    else if kind = "series_deleted" then
      let r ← rest.keyed? ["series_id", "space_id", "removed", "detached"] []
      return .seriesDeleted (← r.get "series_id" ofWire?) (← r.get "space_id" ofWire?)
        (← r.get "removed" Value.nat32?) (← r.get "detached" Value.nat32?)
    else
      let change ← BookingChange.all.find? fun c => c.label = kind
      let r ← rest.keyed? ["booking"] []
      return .booking change (← r.get "booking" ofWire?)

end SpaceBooking
