import Mathlib.Algebra.Group.Nat.Defs
import SpaceBooking.Id
import SpaceBooking.Time.Weekday

/-!
# Identifiers and weekdays are read back

* `Id.readDigits_digits` — the low digits of a number read as its remainder.
* `Id.ofText?_text` — an identifier is read back from its 26 digits.
* `WeekdaySet.contains_ofList` — a set holds the days that it was given.
* `Weekday.ofName?_text`, `WeekdaySet.ofList_toList` — weekdays and sets of them are read back.
-/

namespace SpaceBooking

namespace Id

theorem digitValue?_digit : ∀ d : Fin 32, digitValue? (digit d) = some d.val := by decide +kernel

theorem length_digits (k n : Nat) : (digits k n).length = k := by
  induction k generalizing n with
  | zero => rfl
  | succ k ih => rw [digits, List.length_append, ih, List.length_singleton]

/-- **The low digits of a number read as its remainder.** -/
theorem readDigits_digits (k n : Nat) :
    Text.readDigits 32 digitValue? 0 (digits k n) = some (n % 32 ^ k) := by
  induction k generalizing n with
  | zero => simp [digits, Text.readDigits, Nat.mod_one]
  | succ k ih =>
    have hlast : digitValue? (digit (n % 32)) = some (n % 32) :=
      digitValue?_digit ⟨n % 32, Nat.mod_lt n (by omega)⟩
    have hpow : n % 32 ^ (k + 1) = n / 32 % 32 ^ k * 32 + n % 32 := by
      rw [Nat.pow_succ, Nat.mul_comm, Nat.mod_mul, Nat.add_comm, Nat.mul_comm]
    rw [digits, Text.readDigits_concat (ih (n / 32)) hlast, hpow]

/-- **An identifier is read back from its text.** -/
theorem ofText?_text (id : Id) : ofText? id.text = some id := by
  have hlt : id.value < 1 <<< 128 := id.isLt
  have hfits : id.value % 32 ^ width = id.value := Nat.mod_eq_of_lt (Nat.lt_trans hlt (by decide))
  have hvalue : ofNat id.value = id := ext_value (Nat.mod_eq_of_lt hlt)
  unfold ofText? text
  rw [String.toList_ofList, if_pos (length_digits _ _), readDigits_digits, hfits, Option.map_some,
    hvalue]

end Id

/-! ## Weekdays -/

theorem Weekday.ofName?_text (d : Weekday) : ofName? d.text = some d := by
  cases d <;> decide +kernel

namespace WeekdaySet

theorem contains_empty (d : Weekday) : empty.contains d = false := by
  cases d <;> rfl

theorem contains_insert (s : WeekdaySet) (d e : Weekday) :
    (s.insert d).contains e = (s.contains e || decide (d = e)) := by
  have hplace : e.index.val = d.index.val ↔ d = e := by
    constructor
    · intro h
      rw [← Weekday.ofIndex_index d, ← Fin.eq_of_val_eq h, Weekday.ofIndex_index]
    · rintro rfl
      rfl
  show (s.bits ||| BitVec.twoPow 7 d.index.val)[e.index.val] = _
  rw [BitVec.getElem_or, BitVec.getElem_twoPow]
  simp only [hplace]
  rfl

/-- **A set holds the days that it was given.** -/
theorem contains_ofList (ds : List Weekday) (d : Weekday) :
    (ofList ds).contains d = decide (d ∈ ds) := by
  have hfold (s : WeekdaySet) :
      (ds.foldl insert s).contains d = (s.contains d || decide (d ∈ ds)) := by
    induction ds generalizing s with
    | nil => simp
    | cons e ds ih =>
      rw [List.foldl_cons, ih, contains_insert, Bool.or_assoc]
      simp [eq_comm]
  unfold ofList
  rw [hfold, contains_empty, Bool.false_or]

/-- Sets with the same days are equal. -/
theorem ext_contains {s t : WeekdaySet} (h : ∀ d, s.contains d = t.contains d) : s = t := by
  obtain ⟨bits⟩ := s
  obtain ⟨bits'⟩ := t
  congr 1
  apply BitVec.eq_of_getElem_eq
  intro i hi
  have hday := h (Weekday.ofIndex ⟨i, hi⟩)
  simp only [contains, Weekday.index_ofIndex] at hday
  exact hday

/-- **A set is read back from the list of its days.** -/
theorem ofList_toList (s : WeekdaySet) : ofList s.toList = s := by
  apply ext_contains
  intro d
  have hall : d ∈ Weekday.all := by cases d <;> decide
  rw [contains_ofList, toList]
  simp [hall]

end WeekdaySet

end SpaceBooking
