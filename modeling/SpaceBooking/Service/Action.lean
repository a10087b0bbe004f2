import SpaceBooking.Config
import SpaceBooking.Event
import SpaceBooking.Metric
import SpaceBooking.Store.Basic
import SpaceBooking.Tally

/-!
# Actions

The service acts on a `World`: the store, the events that it published, and what it counted. It acts
under `Conditions` that stay the same during one request: the configuration, the zones, the time,
and how the store behaves. The store may be out of order: `Conditions.outage` tells for each call
whether it fails, and a call that fails has not touched the store.

An `Action` is a change of the world that ends with a value or an error. What was changed before an
error stays changed.
-/

namespace SpaceBooking

/-- The calls that the service makes to the store. -/
inductive StoreCall where
  | space
  | approvers
  | allowedBookers
  | spacesIn
  | spacesApprovedBy
  | location
  | locationsOf
  | booking
  | insertBooking
  | updateBooking
  | deleteBooking
  | findConflicts
  | countInLocation
  | countUpcoming
  | countOverlapping
  | bookingsOfSeries
  | clearSeriesLink
  | pendingIn
  | series
  | insertSeries
  | deleteSeries
  | memberships
  | user
  | flag
  | number
  | text
  deriving DecidableEq, Repr

/-- The service's surroundings during one request. -/
structure Conditions where
  config : Config := {}
  zones : ZoneTable := ZoneTable.standard
  now : Int
  /-- The identifiers that are given out, in order. -/
  mint : Nat → Id
  /-- The error with which a call fails, given how often the same call was made before. -/
  outage : StoreCall → Nat → Option StoreError := fun _ _ => none
  /-- A wrong answer to the search for conflicts, given how often it was made before. -/
  misreport : Nat → Store → Option (List Booking) := fun _ _ => none

/-- What the service works on. -/
structure World where
  store : Store := {}
  /-- How often each call to the store was made. -/
  calls : Tally StoreCall := ∅
  /-- How many identifiers were given out. -/
  minted : Nat := 0
  /-- The events in the order in which they were published. -/
  published : List Event := []
  metrics : Tally Metric := ∅

/-- A change of the world that ends with a value or an error. -/
def Action (ε α : Type) : Type := Conditions → World → Except ε α × World

namespace Action

variable {ε α β : Type}

instance : Monad (Action ε) where
  pure a := fun _ w => (.ok a, w)
  bind x f := fun c w =>
    match x c w with
    | (.ok a, w) => f a c w
    | (.error e, w) => (.error e, w)

theorem pure_apply (a : α) (c : Conditions) (w : World) :
    (pure a : Action ε α) c w = (.ok a, w) := rfl

theorem bind_apply (x : Action ε α) (f : α → Action ε β) (c : Conditions) (w : World) :
    (x >>= f) c w =
      match x c w with
      | (.ok a, w) => f a c w
      | (.error e, w) => (.error e, w) := rfl

/-- Two actions in a row end with a value if both do. -/
theorem bind_eq_ok_iff {x : Action ε α} {f : α → Action ε β} {c : Conditions} {w w' : World}
    {b : β} :
    (x >>= f) c w = (.ok b, w') ↔ ∃ a v, x c w = (.ok a, v) ∧ f a c v = (.ok b, w') := by
  rw [bind_apply]
  rcases x c w with ⟨_ | a, v⟩ <;> simp [and_assoc]

/-- Two actions in a row end with an error if the first does, or the second does after it. -/
theorem bind_eq_error_iff {x : Action ε α} {f : α → Action ε β} {c : Conditions} {w w' : World}
    {e : ε} :
    (x >>= f) c w = (.error e, w') ↔
      x c w = (.error e, w') ∨ ∃ a v, x c w = (.ok a, v) ∧ f a c v = (.error e, w') := by
  rw [bind_apply]
  rcases x c w with ⟨_ | a, v⟩ <;> simp [and_assoc]

/-- Ends with an error. -/
def fail (e : ε) : Action ε α := fun _ w => (.error e, w)

/-- Ends with an error unless a condition holds. -/
def ensure (ok : Bool) (e : ε) : Action ε Unit := if ok then pure () else fail e

/-- Acts only if a condition holds. -/
def onlyIf (cond : Bool) (act : Action ε Unit) : Action ε Unit := if cond then act else pure ()

/-- The value of an option, or an error. -/
def ofOption (e : ε) : Option α → Action ε α
  | some a => pure a
  | none => fail e

/-- The value or error of a computation that changes nothing. -/
def ofExcept : Except ε α → Action ε α
  | .ok a => pure a
  | .error e => fail e

/-- Acts, and ends with the outcome instead of the error. -/
def attempt {δ : Type} (x : Action ε α) : Action δ (Except ε α) := fun c w =>
  let (r, w) := x c w
  (.ok r, w)

/-- Acts, with its error put differently. -/
def withErrors {δ : Type} (f : ε → δ) (x : Action ε α) : Action δ α := fun c w =>
  let (r, w) := x c w
  (r.mapError f, w)

/-- The conditions. -/
def conditions : Action ε Conditions := fun c w => (.ok c, w)

/-- The time. -/
def now : Action ε Int := fun c w => (.ok c.now, w)

/-- The store as it is. -/
def store : Action ε Store := fun _ w => (.ok w.store, w)

/-- Gives out a new identifier. -/
def newId : Action ε Id := fun c w => (.ok (c.mint w.minted), { w with minted := w.minted + 1 })

/-- Counts something. -/
def count (m : Metric) : Action ε Unit := fun _ w =>
  (.ok (), { w with metrics := w.metrics.bump m })

/-- Publishes an event. -/
def publish (e : Event) : Action ε Unit := fun _ w =>
  (.ok (), { w with published := w.published ++ [e] })

/-- Makes a call to the store: it is counted, and fails if the store is out of order. -/
def reach (call : StoreCall) : Action StoreError Unit := fun c w =>
  let n := w.calls.count call
  let w := { w with calls := w.calls.bump call }
  match c.outage call n with
  | some e => (.error e, w)
  | none => (.ok (), w)

/-- Asks the store. -/
def ask (call : StoreCall) (answer : Store → α) : Action StoreError α := do
  reach call
  return answer (← store)

/-- Has the store change something. -/
def change (call : StoreCall) (step : Store → Except StoreError Store) :
    Action StoreError Unit := do
  reach call
  fun _ w =>
    match step w.store with
    | .ok s => (.ok (), { w with store := s })
    | .error e => (.error e, w)

end Action

/-- An action of the store, as a part of an action of the service. -/
instance : MonadLift (Action StoreError) (Action Failure) := ⟨Action.withErrors Failure.ofStore⟩

end SpaceBooking
