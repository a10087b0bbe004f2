import Mathlib.Algebra.Group.Nat.Defs
import SpaceBooking.Time.Written

/-!
# Numbers as digits

Numbers are written with zeros in front up to a width, and read again from the front of a text.

* `Text.readDigits_padded` — the digits of a number read as the number.
* `Text.length_padded` — a number that fits its width takes up the width.
* `Written.number?_padded` — a number is split off again, if it fills what is looked at or no digit
  follows it.
-/

namespace SpaceBooking

namespace Text

variable {n width acc : Nat} {cs ds : List Char} {c : Char}

theorem digitValue?_digitChar_all : ∀ d < 10, digitValue? (Nat.digitChar d) = some d := by decide

theorem readDigits_toDigits (n : Nat) :
    readDigits 10 digitValue? 0 (Nat.toDigits 10 n) = some n := by
  induction n using Nat.strongRecOn with
  | ind n ih =>
    rw [Nat.toDigits_eq_if (by omega)]
    split
    · rename_i hlt
      simp [readDigits, digitValue?_digitChar_all n hlt]
    · have hlast := digitValue?_digitChar_all (n % 10) (by omega)
      rw [readDigits_concat (ih (n / 10) (by omega)) hlast, Nat.div_add_mod']

theorem digits?_of_ne_nil (h : cs ≠ []) : digits? cs = readDigits 10 digitValue? 0 cs := by
  cases cs with
  | nil => exact absurd rfl h
  | cons => rfl

theorem digits?_toDigits (n : Nat) : digits? (Nat.toDigits 10 n) = some n :=
  (digits?_of_ne_nil Nat.toDigits_ne_nil).trans (readDigits_toDigits n)

/-- Zeros in front make no difference. -/
theorem readDigits_zeros (k : Nat) (ds : List Char) :
    readDigits 10 digitValue? 0 (List.replicate k '0' ++ ds) = readDigits 10 digitValue? 0 ds := by
  induction k with
  | zero => rfl
  | succ k ih => exact ih

/-- **The digits of a number read as the number.** -/
theorem readDigits_padded (width n : Nat) :
    readDigits 10 digitValue? 0 (padded width n) = some n := by
  unfold padded
  rw [readDigits_zeros, readDigits_toDigits]

theorem padded_ne_nil (width n : Nat) : padded width n ≠ [] := by
  unfold padded
  rw [ne_eq, List.append_eq_nil_iff]
  exact fun h => Nat.toDigits_ne_nil h.2

theorem digits?_padded (width n : Nat) : digits? (padded width n) = some n :=
  (digits?_of_ne_nil (padded_ne_nil width n)).trans (readDigits_padded width n)

/-- What is written are digits. -/
theorem isDigit_padded (width n : Nat) : ∀ c ∈ padded width n, c.isDigit = true := by
  intro c hc
  rcases List.mem_append.1 hc with hc | hc
  · rw [(List.mem_replicate.1 hc).2]
    rfl
  · exact Nat.isDigit_of_mem_toDigits (by omega) (by omega) hc

/-- **A number that fits its width takes up the width.** -/
theorem length_padded (hw : 0 < width) (hn : n < 10 ^ width) :
    (padded width n).length = width := by
  have hle := (Nat.length_toDigits_le_iff (b := 10) (n := n) (by omega) hw).2 hn
  unfold padded
  rw [List.length_append, List.length_replicate]
  omega

end Text

namespace Written

open Text

/-- No digit comes first. -/
def NoDigitFirst (cs : List Char) : Prop := cs.takeWhile Char.isDigit = []

theorem noDigitFirst_nil : NoDigitFirst [] := rfl

theorem noDigitFirst_cons {c : Char} (h : c.isDigit = false) (cs : List Char) :
    NoDigitFirst (c :: cs) := by
  simp [NoDigitFirst, h]

theorem NoDigitFirst.take {cs : List Char} (h : NoDigitFirst cs) (k : Nat) :
    NoDigitFirst (cs.take k) := by
  cases cs with
  | nil => simpa using noDigitFirst_nil
  | cons c cs =>
    cases k with
    | zero => exact noDigitFirst_nil
    | succ k =>
      cases hc : c.isDigit with
      | false => exact noDigitFirst_cons hc _
      | true => simp [NoDigitFirst, hc] at h

/-- The digits in front are what was written. -/
theorem takeWhile_padded (width n : Nat) {rest : List Char} (h : NoDigitFirst rest) :
    (padded width n ++ rest).takeWhile Char.isDigit = padded width n := by
  rw [List.takeWhile_append_of_pos (isDigit_padded width n), h, List.append_nil]

/-- **A number is split off**, if it fills what is looked at or no digit follows it. -/
theorem number?_padded {most width n : Nat} {rest : List Char}
    (hle : (padded width n).length ≤ most)
    (hstop : (padded width n).length = most ∨ NoDigitFirst rest) :
    number? most (padded width n ++ rest) = some (n, rest) := by
  have hstop' : NoDigitFirst (rest.take (most - (padded width n).length)) := by
    rcases hstop with hfull | hrest
    · rw [hfull, Nat.sub_self]
      exact noDigitFirst_nil
    · exact hrest.take _
  have hdigits : ((padded width n ++ rest).take most).takeWhile Char.isDigit = padded width n := by
    rw [List.take_append, List.take_of_length_le hle, takeWhile_padded width n hstop']
  simp only [number?, hdigits, digits?_padded, Option.map_some, List.drop_left]

/-- A number of two digits. -/
theorem number?_two {n : Nat} (hn : n < 100) (rest : List Char) :
    number? 2 (padded 2 n ++ rest) = some (n, rest) := by
  have hlength : (padded 2 n).length = 2 := length_padded (by omega) hn
  exact number?_padded (Nat.le_of_eq hlength) (.inl hlength)

/-- A number of any length, before something else. -/
theorem longNumber?_padded (width n : Nat) {rest : List Char} (h : NoDigitFirst rest) :
    longNumber? (padded width n ++ rest) = some (n, rest) := by
  refine number?_padded ?_ (.inr h)
  rw [List.length_append]
  omega

end Written

end SpaceBooking
