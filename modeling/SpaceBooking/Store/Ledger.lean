import SpaceBooking.Booking

/-!
# Ledgers

The bookings of one space in ascending order of start, in an array that is searched by halving.

* `partitionPoint` finds where a property stops that holds on the first part of an array only.
* `Ledger.insert` puts a booking before those that start no earlier, which keeps the order.
* `Ledger.overlapping` looks at the bookings that start before the query stops, and at no others.
-/

namespace SpaceBooking

/-- Between `lo` and `hi`, the first place of an element without the property `p`, or `hi`. -/
def partitionPointFrom {α : Type} (p : α → Bool) (a : Array α) (lo hi : Nat) (h : hi ≤ a.size) :
    Nat :=
  if hlt : lo < hi then
    let mid := lo + (hi - lo) / 2
    if p a[mid] then partitionPointFrom p a (mid + 1) hi h
    else partitionPointFrom p a lo mid (by omega)
  else lo
termination_by hi - lo

/-- How many elements have the property `p`, when these come before the others. -/
def partitionPoint {α : Type} (p : α → Bool) (a : Array α) : Nat :=
  partitionPointFrom p a 0 a.size (Nat.le_refl _)

/-- The bookings of a space. The location is the one that the space had when the ledger was
opened. -/
structure Ledger where
  location : Id
  bookings : Array Booking

namespace Ledger

/-- A ledger without bookings. -/
def opened (location : Id) : Ledger := ⟨location, #[]⟩

/-- Adds a booking at its place in the order of start. -/
def insert (l : Ledger) (b : Booking) : Ledger :=
  let i := partitionPoint (fun c => c.span.start < b.span.start) l.bookings
  { l with bookings := (l.bookings.extract 0 i).push b ++ l.bookings.extract i l.bookings.size }

/-- The first booking of an identifier. -/
def get? (l : Ledger) (id : Id) : Option Booking := l.bookings.find? (·.id = id)

/-- Removes the first booking of an identifier, if there is one. -/
def remove? (l : Ledger) (id : Id) : Option Ledger :=
  (l.bookings.findIdx? (·.id = id)).map fun i =>
    { l with bookings := l.bookings.eraseIdxIfInBounds i }

/-- Changes the first booking of an identifier, if there is one. -/
def modify? (l : Ledger) (id : Id) (f : Booking → Booking) : Option Ledger :=
  (l.bookings.findIdx? (·.id = id)).map fun i => { l with bookings := l.bookings.modify i f }

/-- The bookings that overlap a span, in the order of start. -/
def overlapping (l : Ledger) (query : Span) : List Booking :=
  let bound := partitionPoint (fun b => b.span.start < query.stop) l.bookings
  (l.bookings.extract 0 bound).toList.filter fun b => query.start < b.span.stop

/-- The bookings that overlap a span, leaving one identifier out. -/
def conflicts (l : Ledger) (query : Span) (exclude : Option Id) : List Booking :=
  (l.overlapping query).filter fun b => some b.id ≠ exclude

end Ledger

end SpaceBooking
