import SpaceBooking.Text.Digits

/-!
# Decimal numbers

Reading and writing whole numbers in decimal digits. `readNat?` is the form numbers have in
settings: digits only, leading zeros allowed, one plus sign in front allowed, and a bound that the
number stays below. `padded` writes a number with zeros in front up to a width.
-/

namespace SpaceBooking.Text

/-- The value of a decimal digit. -/
def digitValue? (c : Char) : Option Nat :=
  if '0' ≤ c ∧ c ≤ '9' then some (c.toNat - '0'.toNat) else none

/-- Reads one digit or more and nothing else. -/
def digits? : List Char → Option Nat
  | [] => none
  | cs => readDigits 10 digitValue? 0 cs

/-- Reads a number below `bound`, with or without a plus sign. -/
def readNat? (bound : Nat) (s : String) : Option Nat :=
  let cs := match s.toList with
    | '+' :: cs => cs
    | cs => cs
  (digits? cs).filter (· < bound)

/-- All decimal digits of a number, with zeros in front up to `width` digits. -/
def padded (width n : Nat) : List Char :=
  let ds := Nat.toDigits 10 n
  List.replicate (width - ds.length) '0' ++ ds

end SpaceBooking.Text
