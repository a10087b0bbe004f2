/-!
# Tallies

A `Tally` counts how often each of some things happened. Things are listed in the order in which
they happened first; one that never happened is not listed and has the count zero.
-/

namespace SpaceBooking

/-- How often each thing happened, for those that did. -/
structure Tally (κ : Type) where
  counts : List (κ × Nat)

namespace Tally

variable {κ : Type}

/-- Nothing happened yet. -/
def empty : Tally κ := ⟨[]⟩

instance : EmptyCollection (Tally κ) := ⟨empty⟩

instance : Inhabited (Tally κ) := ⟨empty⟩

variable [DecidableEq κ]

/-- How often a thing happened. -/
def count (t : Tally κ) (k : κ) : Nat := ((t.counts.find? fun e => e.1 = k).map (·.2)).getD 0

/-- Counts a thing once more in a list of counts. -/
def bumpEntry (k : κ) : List (κ × Nat) → List (κ × Nat)
  | [] => [(k, 1)]
  | (j, n) :: rest => if j = k then (j, n + 1) :: rest else (j, n) :: bumpEntry k rest

/-- Counts a thing once more. -/
def bump (t : Tally κ) (k : κ) : Tally κ := ⟨bumpEntry k t.counts⟩

theorem count_bump (t : Tally κ) (k j : κ) :
    (t.bump k).count j = t.count j + if k = j then 1 else 0 := by
  obtain ⟨cs⟩ := t
  simp only [bump, count]
  induction cs with
  | nil => by_cases h : k = j <;> simp [bumpEntry, h]
  | cons a as ih =>
    obtain ⟨i, n⟩ := a
    unfold bumpEntry
    by_cases hi : i = k
    · subst hi
      by_cases h : i = j <;> simp [h]
    · by_cases hj : i = j
      · subst hj
        simp [hi, Ne.symm hi]
      · simpa [List.find?_cons, hi, hj] using ih

end Tally

end SpaceBooking
