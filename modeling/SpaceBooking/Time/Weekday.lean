/-!
# Weekdays

The seven days of the week in the order of the week, Sunday first, and sets of them.

* `Weekday.index` numbers the days from Sunday, `Weekday.ofIndex` is its inverse.
* A `WeekdaySet` is listed in the order of the week, each day once, however it was given.
* `Weekday.ofName?` reads an English name in any letter case, in full or in three letters.
-/

namespace SpaceBooking

inductive Weekday where
  | sunday
  | monday
  | tuesday
  | wednesday
  | thursday
  | friday
  | saturday
  deriving DecidableEq, Repr

namespace Weekday

/-- All days in the order of the week. -/
def all : List Weekday := [sunday, monday, tuesday, wednesday, thursday, friday, saturday]

/-- Days since Sunday. -/
def index : Weekday → Fin 7
  | sunday => 0
  | monday => 1
  | tuesday => 2
  | wednesday => 3
  | thursday => 4
  | friday => 5
  | saturday => 6

/-- The day that many days after a Sunday. -/
def ofIndex (i : Fin 7) : Weekday := all.get i

/-- The full name in lower case. -/
def fullName : Weekday → String
  | sunday => "sunday"
  | monday => "monday"
  | tuesday => "tuesday"
  | wednesday => "wednesday"
  | thursday => "thursday"
  | friday => "friday"
  | saturday => "saturday"

/-- The written form: three letters, the first in upper case. -/
def text : Weekday → String
  | sunday => "Sun"
  | monday => "Mon"
  | tuesday => "Tue"
  | wednesday => "Wed"
  | thursday => "Thu"
  | friday => "Fri"
  | saturday => "Sat"

/-- Reads a full or three-letter name in any letter case. -/
def ofName? (s : String) : Option Weekday :=
  let name := s.toList.map Char.toLower
  all.find? fun d => name = d.fullName.toList || name = d.fullName.toList.take 3

theorem ofIndex_index (d : Weekday) : ofIndex d.index = d := by cases d <;> rfl

theorem index_ofIndex (i : Fin 7) : (ofIndex i).index = i := by revert i; decide

end Weekday

/-- A set of weekdays: bit `i` stands for the day of index `i`. -/
structure WeekdaySet where
  bits : BitVec 7
  deriving DecidableEq

namespace WeekdaySet

def empty : WeekdaySet := ⟨0⟩

def contains (s : WeekdaySet) (d : Weekday) : Bool := s.bits[d.index]

def insert (s : WeekdaySet) (d : Weekday) : WeekdaySet := ⟨s.bits ||| BitVec.twoPow 7 d.index⟩

def ofList (ds : List Weekday) : WeekdaySet := ds.foldl insert empty

/-- The days of the set in the order of the week. -/
def toList (s : WeekdaySet) : List Weekday := Weekday.all.filter s.contains

def isEmpty (s : WeekdaySet) : Bool := s.bits = 0

def size (s : WeekdaySet) : Nat := s.toList.length

end WeekdaySet

end SpaceBooking
