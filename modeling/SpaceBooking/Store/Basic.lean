import SpaceBooking.Failure
import SpaceBooking.Policy
import SpaceBooking.Series
import SpaceBooking.Store.Ledger
import SpaceBooking.Table

/-!
# The store

What the service keeps: locations and spaces, the groups that may approve or book on a space, users
and their memberships, the settings of organizations, series, and bookings. Bookings lie in the
ledgers of their spaces, and an index tells the space of each booking.

`Store.bookings` lists every stored booking; it is what the look-ups of the store are measured by.
-/

namespace SpaceBooking

structure Store where
  locations : Table Location := ∅
  spaces : Table Space := ∅
  /-- The groups that approve bookings on a space. -/
  approvers : Table (List Id) := ∅
  /-- The groups that alone may book a space, if there are any. -/
  allowedBookers : Table (List Id) := ∅
  ledgers : Table Ledger := ∅
  /-- The space on which each booking lies. -/
  spaceOf : Table Id := ∅
  series : Table Series := ∅
  memberships : Table (List Id) := ∅
  users : Table User := ∅
  settings : Table (List (String × Setting)) := ∅

namespace Store

/-- All stored bookings, by space and start. -/
def bookings (s : Store) : List Booking := s.ledgers.values.flatMap (·.bookings.toList)

/-! ## Administration -/

def putLocation (s : Store) (l : Location) : Store :=
  { s with locations := s.locations.insert l.id l }

/-- Creates or replaces a space and its groups. Its bookings stay. -/
def putSpace (s : Store) (space : Space) (approvers allowedBookers : List Id) : Store :=
  { s with
    ledgers :=
      if s.ledgers.contains space.id then s.ledgers
      else s.ledgers.insert space.id (.opened space.location)
    approvers := s.approvers.insert space.id approvers
    allowedBookers := s.allowedBookers.insert space.id allowedBookers
    spaces := s.spaces.insert space.id space }

/-- Removes a space with its groups and bookings. -/
def deleteSpace (s : Store) (id : Id) : Except StoreError Store :=
  if s.spaces.contains id then
    let gone := (s.ledgers.get? id).elim [] (·.bookings.toList)
    .ok { s with
      spaces := s.spaces.erase id
      approvers := s.approvers.erase id
      allowedBookers := s.allowedBookers.erase id
      ledgers := s.ledgers.erase id
      spaceOf := gone.foldl (fun t b => t.erase b.id) s.spaceOf }
  else .error (.notFound id)

def putUser (s : Store) (u : User) : Store := { s with users := s.users.insert u.id u }

/-- Adds a user to a group, once. -/
def addMembership (s : Store) (user group : Id) : Store :=
  let groups := (s.memberships.get? user).getD []
  { s with
    memberships :=
      s.memberships.insert user (if group ∈ groups then groups else groups ++ [group]) }

/-- Sets a value in a list of settings, in place of an earlier one. -/
def replaceSetting (key : String) (value : Setting) :
    List (String × Setting) → List (String × Setting)
  | [] => [(key, value)]
  | (k, v) :: rest =>
    if k = key then (key, value) :: rest else (k, v) :: replaceSetting key value rest

/-- Sets a value for an organization, in place of an earlier one of any type. -/
def putSetting (s : Store) (org : Id) (key : String) (value : Setting) : Store :=
  { s with
    settings := s.settings.insert org (replaceSetting key value ((s.settings.get? org).getD [])) }

/-- The value that an organization set. -/
def setting? (s : Store) (org : Id) (key : String) : Option Setting :=
  (s.settings.get? org).bind (·.lookup key)

/-- A set value, if it is a switch. -/
def flag? (s : Store) (org : Id) (key : String) : Option Bool :=
  match s.setting? org key with
  | some (.flag b) => some b
  | _ => none

/-- A set value, if it is a number. -/
def number? (s : Store) (org : Id) (key : String) : Option Int :=
  match s.setting? org key with
  | some (.number n) => some n
  | _ => none

/-- A set value, if it is a text. -/
def text? (s : Store) (org : Id) (key : String) : Option String :=
  match s.setting? org key with
  | some (.text t) => some t
  | _ => none

/-! ## Places and people -/

def approversOf (s : Store) (space : Id) : List Id := (s.approvers.get? space).getD []

def allowedBookersOf (s : Store) (space : Id) : List Id := (s.allowedBookers.get? space).getD []

def membershipsOf (s : Store) (user : Id) : List Id := (s.memberships.get? user).getD []

/-- The spaces of a location in ascending order of identifier. -/
def spacesIn (s : Store) (location : Id) : List Space :=
  s.spaces.values.filter (·.location = location)

/-- The spaces that one of some groups approves, in ascending order. -/
def spacesApprovedBy (s : Store) (groups : List Id) : List Id :=
  (s.approvers.entries.filter fun e => e.2.any (· ∈ groups)).map (·.1)

/-- The locations of an organization in ascending order of identifier. -/
def locationsOf (s : Store) (org : Id) : List Location := s.locations.values.filter (·.org = org)

/-! ## Bookings -/

/-- How many bookings there are, by the index. -/
def bookingCount (s : Store) : Nat := s.spaceOf.size

/-- The booking of an identifier, found through the index. -/
def booking? (s : Store) (id : Id) : Option Booking :=
  ((s.spaceOf.get? id).bind s.ledgers.get?).bind (·.get? id)

/-- Adds a booking to the ledger of its space, unless another overlaps it there. -/
def insertBooking (s : Store) (b : Booking) : Except StoreError Store :=
  match s.ledgers.get? b.space with
  | none => .error (.notFound b.space)
  | some ledger =>
    match ledger.conflicts b.span none with
    | holder :: _ => .error (.conflict holder.id)
    | [] =>
      .ok { s with
        ledgers := s.ledgers.insert b.space (ledger.insert b)
        spaceOf := s.spaceOf.insert b.id b.space }

/-- Replaces a booking by one with its identifier, on the same space or another, unless a third one
overlaps it there. -/
def updateBooking (s : Store) (b : Booking) : Except StoreError Store :=
  match s.spaceOf.get? b.id with
  | none => .error (.notFound b.id)
  | some old =>
    match s.ledgers.get? b.space with
    | none => .error (.notFound b.space)
    | some target =>
      match if old = b.space then some target else s.ledgers.get? old with
      | none => .error (.notFound old)
      | some source =>
        match target.conflicts b.span (some b.id) with
        | holder :: _ => .error (.conflict holder.id)
        | [] =>
          match source.remove? b.id with
          | none => .error (.notFound b.id)
          | some rest =>
            if old = b.space then
              .ok { s with ledgers := s.ledgers.insert b.space (rest.insert b) }
            else
              .ok { s with
                ledgers := (s.ledgers.insert old rest).insert b.space (target.insert b)
                spaceOf := s.spaceOf.insert b.id b.space }

/-- Does something with the ledger on which a booking lies. -/
def withLedgerOf (s : Store) (id : Id) (f : Id → Ledger → Option Store) :
    Except StoreError Store :=
  match s.spaceOf.get? id with
  | none => .error (.notFound id)
  | some space =>
    match s.ledgers.get? space with
    | none => .error (.notFound space)
    | some ledger =>
      match f space ledger with
      | none => .error (.notFound id)
      | some s' => .ok s'

/-- Removes a booking. -/
def deleteBooking (s : Store) (id : Id) : Except StoreError Store :=
  s.withLedgerOf id fun space ledger => (ledger.remove? id).map fun rest =>
    { s with ledgers := s.ledgers.insert space rest, spaceOf := s.spaceOf.erase id }

/-- Takes a booking out of its series. -/
def clearSeriesLink (s : Store) (id : Id) : Except StoreError Store :=
  s.withLedgerOf id fun space ledger =>
    (ledger.modify? id fun b => { b with series := none }).map fun ledger =>
      { s with ledgers := s.ledgers.insert space ledger }

/-- The bookings on a space that overlap a span, leaving one out. -/
def findConflicts (s : Store) (space : Id) (span : Span) (exclude : Option Id) : List Booking :=
  (s.ledgers.get? space).elim [] (·.conflicts span exclude)

/-- How many bookings on the spaces of a location overlap a span, leaving one out. -/
def countInLocation (s : Store) (location : Id) (span : Span) (exclude : Option Id) : Nat :=
  ((s.ledgers.values.filter (·.location = location)).map
    fun l => (l.conflicts span exclude).length).foldr (· + ·) 0

/-- How many bookings of a user stop after an instant. -/
def countUpcoming (s : Store) (user : Id) (now : Int) : Nat :=
  (s.ledgers.values.map
    fun l => l.bookings.countP fun b => b.owner = user && now < b.span.stop).foldr (· + ·) 0

/-- How many bookings of a user overlap a span, leaving one out. -/
def countOverlapping (s : Store) (user : Id) (span : Span) (exclude : Option Id) : Nat :=
  (s.ledgers.values.map
    fun l => (l.conflicts span exclude).countP fun b => b.owner = user).foldr (· + ·) 0

/-- Sorts bookings by start. Bookings with the same start keep their order. -/
def sortByStart (bs : List Booking) : List Booking :=
  bs.mergeSort fun a b => a.span.start ≤ b.span.start

/-- The bookings of a series by start. -/
def bookingsOfSeries (s : Store) (series : Id) : List Booking :=
  sortByStart (s.bookings.filter (·.series = some series))

/-- The bookings on some spaces that wait for approval and stop after an instant, by start. -/
def pendingIn (s : Store) (spaces : List Id) (now : Int) : List Booking :=
  sortByStart <| spaces.flatMap fun id =>
    (s.ledgers.get? id).elim [] fun l =>
      l.bookings.toList.filter fun b => !b.approved && now < b.span.stop

/-! ## Series -/

def insertSeries (s : Store) (series : Series) : Store :=
  { s with series := s.series.insert series.id series }

def deleteSeries (s : Store) (id : Id) : Except StoreError Store :=
  if s.series.contains id then .ok { s with series := s.series.erase id }
  else .error (.notFound id)

end Store

end SpaceBooking
