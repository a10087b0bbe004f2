import SpaceBooking.Text.Decimal
import SpaceBooking.Wire.Value

/-!
# Wire values as text

Wire values are exchanged in the JSON notation. `Value.render` writes a value on one line, `read?`
reads one. A number with a fraction or an exponent, and minus zero, does not count as a whole
number. What is nested more than `maxDepth` deep is not read.
-/

namespace SpaceBooking.Wire

/-- Four hexadecimal digits. -/
def hex4 (n : Nat) : List Char :=
  let ds := Nat.toDigits 16 n
  List.replicate (4 - ds.length) '0' ++ ds

/-- A character as it stands in a text. -/
def escaped (c : Char) : List Char :=
  match c with
  | '"' => ['\\', '"']
  | '\\' => ['\\', '\\']
  | '\n' => ['\\', 'n']
  | '\r' => ['\\', 'r']
  | '\t' => ['\\', 't']
  | c => if c.toNat < 0x20 then '\\' :: 'u' :: hex4 c.toNat else [c]

/-- A text between quotes. -/
def renderText (s : String) : String := String.ofList ('"' :: s.toList.flatMap escaped ++ ['"'])

mutual

/-- A value on one line. -/
def Value.render : Value → String
  | .null => "null"
  | .bool b => if b then "true" else "false"
  | .int n => toString n
  | .decimal written => written
  | .text s => renderText s
  | .list items => "[" ++ ",".intercalate (renderItems items) ++ "]"
  | .record fields => "\x7b" ++ ",".intercalate (renderFields fields) ++ "\x7d"

def renderItems : List Value → List String
  | [] => []
  | v :: vs => v.render :: renderItems vs

def renderFields : List (String × Value) → List String
  | [] => []
  | (k, v) :: rest => (renderText k ++ ":" ++ v.render) :: renderFields rest

end

mutual

/-- How many lists and records stand inside one another in a value. -/
def Value.depth : Value → Nat
  | .list items => itemsDepth items + 1
  | .record fields => fieldsDepth fields + 1
  | _ => 0

def itemsDepth : List Value → Nat
  | [] => 0
  | v :: vs => max v.depth (itemsDepth vs)

def fieldsDepth : List (String × Value) → Nat
  | [] => 0
  | (_, v) :: rest => max v.depth (fieldsDepth rest)

end

/-- How deep a value that is read may be. -/
def maxDepth : Nat := 127

namespace Reader

/-- Passes over blanks between values. -/
def skip (cs : List Char) : List Char :=
  cs.dropWhile fun c => c = ' ' || c = '\n' || c = '\r' || c = '\t'

def hexValue? (c : Char) : Option Nat :=
  if '0' ≤ c ∧ c ≤ '9' then some (c.toNat - '0'.toNat)
  else if 'a' ≤ c ∧ c ≤ 'f' then some (c.toNat - 'a'.toNat + 10)
  else if 'A' ≤ c ∧ c ≤ 'F' then some (c.toNat - 'A'.toNat + 10)
  else none

/-- Four hexadecimal digits. -/
def unit? : List Char → Option (Nat × List Char)
  | a :: b :: c :: d :: cs => do
    return ((((← hexValue? a) * 16 + (← hexValue? b)) * 16 + (← hexValue? c)) * 16 +
      (← hexValue? d), cs)
  | _ => none

/-- What follows a backslash: a character, and how many characters that took. Characters beyond the
first 65536 are written as a pair of units. -/
def escape? : List Char → Option (Char × List Char)
  | '"' :: cs => some ('"', cs)
  | '\\' :: cs => some ('\\', cs)
  | '/' :: cs => some ('/', cs)
  | 'b' :: cs => some ('\x08', cs)
  | 'f' :: cs => some ('\x0c', cs)
  | 'n' :: cs => some ('\n', cs)
  | 'r' :: cs => some ('\r', cs)
  | 't' :: cs => some ('\t', cs)
  | 'u' :: cs => do
    let (high, cs) ← unit? cs
    if 0xd800 ≤ high && high < 0xdc00 then
      match cs with
      | '\\' :: 'u' :: cs =>
        let (low, cs) ← unit? cs
        if 0xdc00 ≤ low && low < 0xe000 then
          return (Char.ofNat (0x10000 + (high - 0xd800) * 0x400 + (low - 0xdc00)), cs)
        else none
      | _ => none
    else if 0xdc00 ≤ high && high < 0xe000 then none
    else return (Char.ofNat high, cs)
  | _ => none

/-- The rest of a text up to its closing quote, after the characters `acc` in reverse. -/
def text? : Nat → List Char → List Char → Option (String × List Char)
  | 0, _, _ => none
  | fuel + 1, acc, cs =>
    match cs with
    | [] => none
    | '"' :: cs => some (String.ofList acc.reverse, cs)
    | '\\' :: cs => (escape? cs).bind fun (c, cs) => text? fuel (c :: acc) cs
    | c :: cs => if c.toNat < 0x20 then none else text? fuel (c :: acc) cs

/-- Whether a character can stand in a number. -/
def inNumber (c : Char) : Bool :=
  c.isDigit || c = '-' || c = '+' || c = '.' || c = 'e' || c = 'E'

/-- A whole number, with a minus sign in front or without. -/
def whole? : List Char → Option Int
  | '-' :: cs => (Text.digits? cs).map Int.negOfNat
  | cs => (Text.digits? cs).map Int.ofNat

/-- A number. -/
def number? (cs : List Char) : Option (Value × List Char) :=
  let written := cs.takeWhile inNumber
  let rest := cs.drop written.length
  let s := String.ofList written
  match written with
  | [] => none
  | _ =>
    if s = "-0" then some (.decimal s, rest)
    else match whole? written with
      | some n => some (.int n, rest)
      | none => some (.decimal s, rest)

/-- A given word. -/
def word? (word : List Char) (v : Value) (cs : List Char) : Option (Value × List Char) :=
  if word.isPrefixOf cs then some (v, cs.drop word.length) else none

mutual

/-- A value and what follows it. -/
def value? : Nat → List Char → Option (Value × List Char)
  | 0, _ => none
  | fuel + 1, cs =>
    match skip cs with
    | '"' :: cs => (text? (fuel + 1) [] cs).map fun (s, cs) => (.text s, cs)
    | '[' :: cs =>
      match skip cs with
      | ']' :: cs => some (.list [], cs)
      | cs => (items? fuel [] cs).map fun (vs, cs) => (.list vs, cs)
    | '\x7b' :: cs =>
      match skip cs with
      | '\x7d' :: cs => some (.record [], cs)
      | cs => (fields? fuel [] cs).map fun (fs, cs) => (.record fs, cs)
    | 't' :: cs => word? "rue".toList (.bool true) cs
    | 'f' :: cs => word? "alse".toList (.bool false) cs
    | 'n' :: cs => word? "ull".toList .null cs
    | cs => number? cs

/-- The items of a list up to its end, after those of `acc` in reverse. -/
def items? : Nat → List Value → List Char → Option (List Value × List Char)
  | 0, _, _ => none
  | fuel + 1, acc, cs =>
    match value? fuel cs with
    | none => none
    | some (v, cs) =>
      match skip cs with
      | ',' :: cs => items? fuel (v :: acc) cs
      | ']' :: cs => some ((v :: acc).reverse, cs)
      | _ => none

/-- The fields of a record up to its end, after those of `acc` in reverse. -/
def fields? : Nat → List (String × Value) → List Char → Option (List (String × Value) × List Char)
  | 0, _, _ => none
  | fuel + 1, acc, cs =>
    match skip cs with
    | '"' :: cs =>
      match text? (fuel + 1) [] cs with
      | none => none
      | some (key, cs) =>
        match skip cs with
        | ':' :: cs =>
          match value? fuel cs with
          | none => none
          | some (v, cs) =>
            match skip cs with
            | ',' :: cs => fields? fuel ((key, v) :: acc) cs
            | '\x7d' :: cs => some (((key, v) :: acc).reverse, cs)
            | _ => none
        | _ => none
    | _ => none

end

end Reader

/-- Reads a value that takes up the whole text and is not too deep. -/
def read? (s : String) : Option Value :=
  let cs := s.toList
  match Reader.value? (cs.length + 1) cs with
  | some (v, rest) => if (Reader.skip rest).isEmpty && v.depth ≤ maxDepth then some v else none
  | none => none

end SpaceBooking.Wire
