/-!
# Wire values

The values that are exchanged with clients: nothing, truth values, numbers, texts, lists and
records. Only whole numbers are ever wanted, so any other number is kept as it was written. The
fields of a record are looked up by name; a name that nobody asks for is passed over. A list may
stand for a record whose fields it gives in order (`keyed?`), and one of several shapes is told by a
tag (`tagged?`).
-/

namespace SpaceBooking.Wire

inductive Value where
  | null
  | bool (b : Bool)
  | int (n : Int)
  /-- A number that is not written as a whole one. -/
  | decimal (written : String)
  | text (s : String)
  | list (items : List Value)
  | record (fields : List (String × Value))

namespace Value

instance : Inhabited Value := ⟨null⟩

/-- The value of a field, if it is there. -/
def field? : Value → String → Option Value
  | record fields, key => fields.lookup key
  | _, _ => none

/-- The value of a field that must be there. -/
def get {α : Type} (v : Value) (key : String) (read : Value → Option α) : Option α :=
  (v.field? key).bind read

/-- The value of a field that may be missing or nothing. -/
def getOption {α : Type} (v : Value) (key : String) (read : Value → Option α) :
    Option (Option α) :=
  match v.field? key with
  | none | some null => some none
  | some w => (read w).map some

/-- The value of a field that may be missing. -/
def getD {α : Type} (v : Value) (key : String) (default : α) (read : Value → Option α) :
    Option α :=
  match v.field? key with
  | none => some default
  | some w => read w

/-- The record that a value stands for: itself, or the one whose fields a list gives in order. The
list holds a value for each required field, may stop short among the optional ones, and holds
nothing else. -/
def keyed? (required optional : List String) : Value → Option Value
  | record fields => some (record fields)
  | list items =>
    if required.length ≤ items.length ∧ items.length ≤ required.length + optional.length then
      some (record ((required ++ optional).zip items))
    else none
  | _ => none

/-- The tag of a value and what it is the tag of: a field of a record and the record, or the head of
a list and the rest. -/
def tagged? (key : String) : Value → Option (Value × Value)
  | record fields => (fields.lookup key).map fun tag => (tag, record fields)
  | list (tag :: items) => some (tag, list items)
  | _ => none

def text? : Value → Option String
  | text s => some s
  | _ => none

def bool? : Value → Option Bool
  | bool b => some b
  | _ => none

/-- A signed 64-bit number. -/
def int64? : Value → Option Int
  | int n => if -0x8000000000000000 ≤ n ∧ n < 0x8000000000000000 then some n else none
  | _ => none

theorem int64?_int {n : Int} (h : -0x8000000000000000 ≤ n ∧ n < 0x8000000000000000) :
    (int n).int64? = some n :=
  if_pos h

/-- An unsigned number below a bound. -/
def nat? (bound : Nat) : Value → Option Nat
  | int n => if 0 ≤ n ∧ n < bound then some n.toNat else none
  | _ => none

theorem nat?_int {bound n : Nat} (h : n < bound) : nat? bound (int n) = some n :=
  if_pos ⟨Int.natCast_nonneg n, Int.ofNat_lt.2 h⟩

/-- An unsigned 32-bit number. -/
def nat32? : Value → Option Nat := nat? 0x100000000

/-- A list of values that can all be read. -/
def list? {α : Type} (read : Value → Option α) : Value → Option (List α)
  | list items => items.mapM read
  | _ => none

/-- A value or nothing. -/
def ofOption {α : Type} (write : α → Value) : Option α → Value
  | some a => write a
  | none => null

/-- A list of values. -/
def ofList {α : Type} (write : α → Value) (as : List α) : Value := list (as.map write)

end Value

end SpaceBooking.Wire
