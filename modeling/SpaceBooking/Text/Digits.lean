/-!
# Digits

A number is read digit by digit, from the most significant on. What the base is and which characters
are digits is up to the kind of number.
-/

namespace SpaceBooking.Text

variable {base : Nat} {value? : Char → Option Nat}

/-- The number that digits continue, when the digits before them read as `acc`. -/
def readDigits (base : Nat) (value? : Char → Option Nat) (acc : Nat) : List Char → Option Nat
  | [] => some acc
  | c :: cs => (value? c).bind fun d => readDigits base value? (acc * base + d) cs

/-- Digits go on where those before them end. -/
theorem readDigits_append (acc : Nat) (cs ds : List Char) :
    readDigits base value? acc (cs ++ ds) =
      (readDigits base value? acc cs).bind fun n => readDigits base value? n ds := by
  induction cs generalizing acc with
  | nil => rfl
  | cons c cs ih =>
    simp only [List.cons_append, readDigits]
    cases value? c with
    | none => rfl
    | some d => exact ih (acc * base + d)

/-- One more digit at the end. -/
theorem readDigits_concat {cs : List Char} {c : Char} {acc n d : Nat}
    (hcs : readDigits base value? acc cs = some n) (hc : value? c = some d) :
    readDigits base value? acc (cs ++ [c]) = some (n * base + d) := by
  rw [readDigits_append, hcs, Option.bind_some, readDigits, hc]
  rfl

end SpaceBooking.Text
