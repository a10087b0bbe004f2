import SpaceBooking.Text.Digits

/-!
# Identifiers

Everything that is stored has an `Id`, a number of 128 bits. Identifiers are ordered as numbers.

* `Id.text` writes an identifier in 26 digits of base 32, most significant digit first. The digits
  are the ten decimal digits and the upper-case letters without `I`, `L`, `O` and `U`.
* `Id.ofText?` reads such a text back. Lower-case letters are taken for upper-case ones. The 26
  digits hold 130 bits, of which the low 128 are kept.
-/

namespace SpaceBooking

/-- An identifier: a number of 128 bits. -/
structure Id where
  value : Nat
  isLt : value < 1 <<< 128
  deriving DecidableEq

namespace Id

instance : LT Id := ⟨fun a b => a.value < b.value⟩

instance (a b : Id) : Decidable (a < b) := inferInstanceAs (Decidable (a.value < b.value))

theorem ext_value : ∀ {a b : Id}, a.value = b.value → a = b
  | ⟨_, _⟩, ⟨_, _⟩, rfl => rfl

theorem lt_irrefl (a : Id) : ¬ a < a := Nat.lt_irrefl a.value

theorem lt_trans {a b c : Id} (hab : a < b) (hbc : b < c) : a < c := Nat.lt_trans hab hbc

theorem lt_of_not_lt_of_ne {a b : Id} (h : ¬ a < b) (hne : a ≠ b) : b < a :=
  Nat.lt_of_le_of_ne (Nat.le_of_not_lt h) fun e => hne (ext_value e.symm)

/-- The identifier with the low 128 bits of a number. -/
def ofNat (n : Nat) : Id := ⟨n % 1 <<< 128, Nat.mod_lt _ (by decide)⟩

/-- The 32 digits in ascending order of value. -/
def alphabet : List Char := "0123456789ABCDEFGHJKMNPQRSTVWXYZ".toList

/-- The digit of a value below 32. -/
def digit (d : Nat) : Char := alphabet.getD d '0'

/-- The value of a digit in either letter case. -/
def digitValue? (c : Char) : Option Nat := alphabet.idxOf? c.toUpper

/-- The low `k` digits of a number, most significant first. -/
def digits : Nat → Nat → List Char
  | 0, _ => []
  | k + 1, n => digits k (n / 32) ++ [digit (n % 32)]

/-- How many digits a written identifier has. -/
def width : Nat := 26

/-- The written form of an identifier. -/
def text (id : Id) : String := String.ofList (digits width id.value)

/-- Reads an identifier. Any other number of digits than 26 is refused. -/
def ofText? (s : String) : Option Id :=
  let cs := s.toList
  if cs.length = width then (Text.readDigits 32 digitValue? 0 cs).map ofNat else none

end Id

end SpaceBooking
