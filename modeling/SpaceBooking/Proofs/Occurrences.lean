import SpaceBooking.Proofs.WallClock
import SpaceBooking.Series

/-!
# The instances of a series

A series is laid out up to a number of instances. Where it ends earlier, the number makes no
difference: what was laid out is the whole series.

* `occurrencesFrom_nonempty` — every instance takes time, of series that can be booked.
* `take_occurrencesFrom` — a smaller number cuts the same list shorter.
* `occurrences_complete` — a list that is shorter than the number is the whole series.
-/

namespace SpaceBooking.Cadence

variable {c : Cadence} {zone : Zone} {clock : LocalTime} {duration stop : Int}

/-- The end of an instance fits, unless the instance lasts for millions of years. -/
theorem add_resolve (zone : Zone) (t : LocalTime) (hshort : duration ≤ 0x4000000000000000)
    (hpos : 0 < duration) : Word.add (zone.resolve t) duration = zone.resolve t + duration := by
  have hnear := zone.resolve_bounds t
  have hfirst := t.date.first_le
  have hlast := t.date.le_last
  refine Word.add_of_fits ?_
  simp only [Word.Fits, dayMs] at hnear ⊢
  omega

theorem occurrencesFrom_nonempty (hshort : duration ≤ 0x4000000000000000) {limit : Nat}
    {day : Option Date} :
    ∀ span ∈ c.occurrencesFrom zone clock duration stop limit day, span.start < span.stop := by
  induction limit generalizing day with
  | zero => simp [occurrencesFrom]
  | succ limit ih =>
    cases day with
    | none => simp [occurrencesFrom]
    | some day =>
      rw [occurrencesFrom]
      split
      · simp
      · rename_i hgo
        obtain ⟨-, hpos⟩ := not_or.1 hgo
        intro span hspan
        rcases List.mem_cons.1 hspan with rfl | hspan
        · rw [add_resolve zone _ hshort (Int.not_le.1 hpos)]
          simp only
          omega
        · exact ih span hspan

theorem occurrences_nonempty {first : Span} (hshort : first.duration ≤ 0x4000000000000000)
    {limit : Nat} : ∀ span ∈ c.occurrences zone first stop limit, span.start < span.stop :=
  occurrencesFrom_nonempty hshort

/-- A smaller number cuts the list of instances shorter. -/
theorem take_occurrencesFrom (n k : Nat) (day : Option Date) :
    (c.occurrencesFrom zone clock duration stop (n + k) day).take n =
      c.occurrencesFrom zone clock duration stop n day := by
  induction n generalizing day with
  | zero => simp [occurrencesFrom]
  | succ n ih =>
    cases day with
    | none => simp [occurrencesFrom, Nat.succ_add]
    | some day =>
      rw [Nat.succ_add, occurrencesFrom, occurrencesFrom]
      split
      · rfl
      · rw [List.take_succ_cons, ih]

/-- A list of instances that does not reach its number stays the same for every greater one. -/
theorem occurrencesFrom_of_length_lt {n : Nat} (k : Nat) {day : Option Date}
    (h : (c.occurrencesFrom zone clock duration stop n day).length < n) :
    c.occurrencesFrom zone clock duration stop (n + k) day =
      c.occurrencesFrom zone clock duration stop n day := by
  induction n generalizing day with
  | zero => omega
  | succ n ih =>
    cases day with
    | none => simp [occurrencesFrom, Nat.succ_add]
    | some day =>
      rw [Nat.succ_add, occurrencesFrom, occurrencesFrom]
      rw [occurrencesFrom] at h
      split
      · rfl
      · rename_i hgo
        rw [if_neg hgo, List.length_cons] at h
        rw [ih (by omega)]

/-- **A list of instances that is shorter than its number is the whole series**: every number that
it does not exceed gives the same list. -/
theorem occurrences_complete {first : Span} {spans : List Span} {n : Nat}
    (h : c.occurrences zone first stop n = spans) (hlt : spans.length < n) (limit : Nat)
    (hlimit : spans.length ≤ limit) : c.occurrences zone first stop limit = spans := by
  unfold occurrences at h ⊢
  subst h
  rcases Nat.le_total n limit with hle | hle
  · obtain ⟨k, rfl⟩ := Nat.exists_eq_add_of_le hle
    exact occurrencesFrom_of_length_lt k hlt
  · obtain ⟨k, rfl⟩ := Nat.exists_eq_add_of_le hle
    rw [← take_occurrencesFrom limit k, List.take_of_length_le hlimit]

end SpaceBooking.Cadence
