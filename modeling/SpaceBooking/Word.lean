/-!
# 64-bit arithmetic

Instants, lengths of time and limits are signed 64-bit numbers. They are kept as integers, and what
is computed with them goes on at the other end of the range where it would leave it.

* `Word.Fits` — the numbers in the range.
* `Word.wrap` — the number in the range that differs by a multiple of 2 ^ 64.
* `Word.add`, `Word.sub`, `Word.mul` — the operations; they are the plain ones where the result is
  in the range.
* `Word.next` — the number after a count. Counts have 64 bits as well, but no sign.
-/

namespace SpaceBooking.Word

variable {a b n : Int}

/-- Whether a number is in the range. -/
def Fits (n : Int) : Prop := -0x8000000000000000 ≤ n ∧ n < 0x8000000000000000

instance (n : Int) : Decidable (Fits n) := inferInstanceAs (Decidable (_ ∧ _))

/-- The number in the range that differs by a multiple of 2 ^ 64. -/
def wrap (n : Int) : Int := Int.bmod n 0x10000000000000000

def add (a b : Int) : Int := wrap (a + b)

def sub (a b : Int) : Int := wrap (a - b)

def mul (a b : Int) : Int := wrap (a * b)

/-- The number after a count. Zero comes after the greatest. -/
def next (n : Nat) : Nat := if n = 0xffffffffffffffff then 0 else n + 1

theorem fits_wrap (n : Int) : Fits (wrap n) :=
  ⟨Int.le_bmod (by decide), Int.bmod_lt (by decide)⟩

theorem wrap_of_fits (h : Fits n) : wrap n = n := Int.bmod_eq_of_le h.1 h.2

theorem add_of_fits (h : Fits (a + b)) : add a b = a + b := wrap_of_fits h

theorem sub_of_fits (h : Fits (a - b)) : sub a b = a - b := wrap_of_fits h

theorem mul_of_fits (h : Fits (a * b)) : mul a b = a * b := wrap_of_fits h

theorem next_of_ne_zero {n : Nat} (h : next n ≠ 0) : next n = n + 1 := by
  unfold next at h ⊢
  split at h
  · exact absurd rfl h
  · rename_i hn
    exact if_neg hn

/-- Products that fit are in the order of their factors. -/
theorem mul_le_mul {c : Int} (hc : 0 ≤ c) (h : a ≤ b) (ha : Fits (a * c)) (hb : Fits (b * c)) :
    mul a c ≤ mul b c := by
  rw [mul_of_fits ha, mul_of_fits hb]
  exact Int.mul_le_mul_of_nonneg_right h hc

/-- What lies between two numbers leads from one to the other, also if it does not fit. -/
theorem add_sub_of_fits (h : Fits b) : add a (sub b a) = b := by
  have hsum : a + (b - a) = b := by omega
  rw [add, sub, wrap, wrap, Int.add_bmod_bmod, hsum]
  exact wrap_of_fits h

/-- What was added to a number lies between it and the sum, also if the sum does not fit. -/
theorem sub_add_of_fits (h : Fits b) : sub (add a b) a = b := by
  have hdifference : a + b - a = b := by omega
  rw [add, sub, wrap, wrap, Int.bmod_sub_bmod, hdifference]
  exact wrap_of_fits h

end SpaceBooking.Word
