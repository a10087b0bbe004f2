import SpaceBooking.Proofs.WallClock

/-!
# Clocks that are seldom changed

In a `Spaced` zone the changes of the clock are at least 48 hours apart, and the clock is always
less than 24 hours away from universal time. Then no change gets in the way of another. For 48 hours
on either side of a change the clock runs evenly, before the change it shows less than at any time
from the change on but for the times that the change repeats, and what is shown at no instant was
skipped by one change.

Instants and times of the clock are in seconds here. Each time has one instant at which it is
attached, `Zone.instantOf`: the first at which the clock shows it, or, if it was skipped, the one
that is found with the offset of a day before.

* `Zone.clockAt_lt`, `Zone.le_clockAt` — what the clock shows on either side of a change.
* `Zone.exists_skips` — a time that is never shown was skipped by a change.
* `Zone.clockAt_instantOf`, `Zone.clockAt_instantOf_of_skips` — the clock shows a time where it is
  attached; if it was skipped, it shows the time put on by the change.
* `Zone.instantOf_le` — of the instants with one time on the clock, it is the first.
* `Zone.instantOf_lt` — later times on the clock have later first instants.
* `ZoneTable.spaced_of_standard` — the zones of the table are spaced.
-/

namespace SpaceBooking

namespace Zone

variable {z : Zone} {t u : Transition} {s s' x y offset : Int} {since : Option Int}
  {ts : List Transition}

/-! ## Offsets -/

/-- Between two instants without a transition the offset stays the same. -/
theorem offsetFrom_congr (hxy : x ≤ y) (h : ∀ t ∈ ts, t.instant ≤ x ∨ y < t.instant) :
    offsetFrom offset x ts = offsetFrom offset y ts := by
  induction ts generalizing offset with
  | nil => rfl
  | cons t ts ih =>
    obtain ⟨ht, hts⟩ := List.forall_mem_cons.1 h
    rw [offsetFrom, offsetFrom]
    rcases ht with hpassed | hahead
    · rw [if_pos hpassed, if_pos (by omega)]
      exact ih hts
    · rw [if_neg (by omega), if_neg (by omega)]

theorem offsetAt_congr (hxy : x ≤ y) (h : ∀ t ∈ z.transitions, t.instant ≤ x ∨ y < t.instant) :
    z.offsetAt x = z.offsetAt y :=
  offsetFrom_congr hxy h

/-- From one instant to another the offset stays the same, or there is a transition in between. -/
theorem offsetAt_eq_or_changed (hxy : x ≤ y) :
    z.offsetAt x = z.offsetAt y ∨ ∃ t ∈ z.transitions, x < t.instant ∧ t.instant ≤ y := by
  by_cases hchange : ∃ t ∈ z.transitions, x < t.instant ∧ t.instant ≤ y
  · exact .inr hchange
  · refine .inl (offsetAt_congr hxy fun t ht => ?_)
    by_contra hbetween
    exact hchange ⟨t, ht, by omega, by omega⟩

/-- From a transition on the offset is its own. -/
theorem offsetFrom_instant (hts : ts.Pairwise fun a b => a.instant < b.instant) (ht : t ∈ ts) :
    offsetFrom offset t.instant ts = t.offset := by
  induction ts generalizing offset with
  | nil => cases ht
  | cons u ts ih =>
    obtain ⟨hu, hts⟩ := List.pairwise_cons.1 hts
    rw [offsetFrom]
    rcases List.mem_cons.1 ht with rfl | ht
    · rw [if_pos (Int.le_refl _)]
      cases ts with
      | nil => rfl
      | cons v ts =>
        have hv := hu v List.mem_cons_self
        rw [offsetFrom, if_neg (by omega)]
    · have hut := hu t ht
      rw [if_pos (by omega)]
      exact ih hts ht

/-! ## Around one change -/

/-- The transitions come in order and are at least 48 hours apart, and the clock is always less than
24 hours away from universal time. -/
structure Spaced (z : Zone) : Prop where
  apart : z.transitions.IsChain fun a b : Transition => a.instant + 2 * daySeconds ≤ b.instant
  bounded : ∀ offset ∈ z.offsets, -daySeconds < offset ∧ offset < daySeconds

instance (z : Zone) : Decidable z.Spaced :=
  decidable_of_iff
    ((z.transitions.IsChain fun a b : Transition => a.instant + 2 * daySeconds ≤ b.instant) ∧
      ∀ offset ∈ z.offsets, -daySeconds < offset ∧ offset < daySeconds)
    ⟨fun ⟨apart, bounded⟩ => ⟨apart, bounded⟩, fun h => ⟨h.apart, h.bounded⟩⟩

/-- How far a transition puts the clock on, or back if this is negative. -/
def jump (z : Zone) (t : Transition) : Int := t.offset - z.offsetAt (t.instant - 1)

/-- What the clock shows at an instant. -/
def clockAt (z : Zone) (x : Int) : Int := x + z.offsetAt x

/-- A transition skips the times of the clock from the one that would have been next to, and not
including, the one that the clock is put on to. -/
structure Skips (z : Zone) (t : Transition) (s : Int) : Prop where
  mem : t ∈ z.transitions
  le : t.instant + z.offsetAt (t.instant - 1) ≤ s
  lt : s < t.instant + t.offset

instance : IsTrans Transition fun a b : Transition => a.instant + 2 * daySeconds ≤ b.instant :=
  ⟨fun a b c hab hbc => by simp only [daySeconds] at *; omega⟩

namespace Spaced

theorem pairwise (hz : z.Spaced) :
    z.transitions.Pairwise fun a b : Transition => a.instant + 2 * daySeconds ≤ b.instant :=
  List.isChain_iff_pairwise.1 hz.apart

theorem inOrder (hz : z.Spaced) : z.InOrder :=
  hz.pairwise.imp fun h => by simp only [daySeconds] at h; omega

theorem offsetAt_bounds (hz : z.Spaced) (x : Int) : -86400 < z.offsetAt x ∧ z.offsetAt x < 86400 :=
  hz.bounded _ (z.offsetAt_mem x)

theorem offset_bounds (hz : z.Spaced) (ht : t ∈ z.transitions) :
    -86400 < t.offset ∧ t.offset < 86400 :=
  hz.bounded _ (List.mem_cons_of_mem _ (List.mem_map_of_mem ht))

/-- Two transitions are the same or at least 48 hours apart. -/
theorem instants (hz : z.Spaced) (ht : t ∈ z.transitions) (hu : u ∈ z.transitions) :
    u = t ∨ u.instant + 172800 ≤ t.instant ∨ t.instant + 172800 ≤ u.instant := by
  by_cases heq : u = t
  · exact .inl heq
  · have : Std.Symm fun a b : Transition =>
        a.instant + 2 * daySeconds ≤ b.instant ∨ b.instant + 2 * daySeconds ≤ a.instant :=
      ⟨fun _ _ => Or.symm⟩
    have hpair : z.transitions.Pairwise fun a b : Transition =>
        a.instant + 2 * daySeconds ≤ b.instant ∨ b.instant + 2 * daySeconds ≤ a.instant :=
      hz.pairwise.imp Or.inl
    exact .inr (hpair.forall hu ht heq)

/-- For 48 hours from a transition on the offset is its own. -/
theorem offsetAt_after (hz : z.Spaced) (ht : t ∈ z.transitions) (hle : t.instant ≤ x)
    (hlt : x < t.instant + 172800) : z.offsetAt x = t.offset := by
  have hown : z.offsetAt t.instant = t.offset := by
    refine offsetFrom_instant (hz.pairwise.imp fun h => ?_) ht
    simp only [daySeconds] at h
    omega
  rw [← hown]
  refine (offsetAt_congr hle fun u hu => ?_).symm
  rcases hz.instants ht hu with rfl | hearlier | hlater <;> omega

/-- For 48 hours up to a transition the offset stays the same. -/
theorem offsetAt_before (hz : z.Spaced) (ht : t ∈ z.transitions) (hle : t.instant - 172800 ≤ x)
    (hlt : x < t.instant) : z.offsetAt x = z.offsetAt (t.instant - 1) := by
  refine offsetAt_congr (by omega) fun u hu => ?_
  rcases hz.instants ht hu with rfl | hearlier | hlater <;> omega

/-- Up to a transition the clock has not reached the time that would have been next. -/
theorem clockAt_lt (hz : z.Spaced) (ht : t ∈ z.transitions) (hx : x < t.instant) :
    z.clockAt x < t.instant + z.offsetAt (t.instant - 1) := by
  unfold clockAt
  by_cases hnear : t.instant - 172800 ≤ x
  · rw [hz.offsetAt_before ht hnear hx]
    omega
  · have hx := hz.offsetAt_bounds x
    have ht := hz.offsetAt_bounds (t.instant - 1)
    omega

/-- From a transition on the clock is not behind the time that it was changed to. -/
theorem le_clockAt (hz : z.Spaced) (ht : t ∈ z.transitions) (hx : t.instant ≤ x) :
    t.instant + t.offset ≤ z.clockAt x := by
  unfold clockAt
  by_cases hnear : x < t.instant + 172800
  · rw [hz.offsetAt_after ht hx hnear]
    omega
  · have hx := hz.offsetAt_bounds x
    have ht := hz.offset_bounds ht
    omega

end Spaced

/-! ## Times that are shown and times that are skipped -/

/-- A time that was skipped is never shown. -/
theorem Skips.clockAt_ne (hz : z.Spaced) (h : z.Skips t s) (x : Int) : z.clockAt x ≠ s := by
  intro hx
  have hle := h.le
  have hlt := h.lt
  rcases Int.lt_or_le x t.instant with hbefore | hafter
  · have hshown := hz.clockAt_lt h.mem hbefore
    omega
  · have hshown := hz.le_clockAt h.mem hafter
    omega

/-- **A time that is never shown was skipped by a change.** -/
theorem exists_skips (hz : z.Spaced) (h : ∀ x, z.clockAt x ≠ s) : ∃ t, z.Skips t s := by
  unfold clockAt at h
  -- a day before, the clock has not reached the time; without a change it does so a little later
  have hfirst := hz.offsetAt_bounds (s - 86400)
  rcases offsetAt_eq_or_changed (z := z) (x := s - 86400) (y := s - z.offsetAt (s - 86400))
    (by omega) with heven | ⟨t, ht, hlo, hhi⟩
  · refine absurd ?_ (h (s - z.offsetAt (s - 86400)))
    rw [← heven]
    omega
  · have hold := hz.offsetAt_bounds (t.instant - 1)
    have hnew := hz.offset_bounds ht
    refine ⟨t, ht, ?_, ?_⟩
    · by_contra hbefore
      have hoffset := hz.offsetAt_before ht (x := s - z.offsetAt (t.instant - 1))
        (by omega) (by omega)
      exact h _ (by rw [hoffset]; omega)
    · by_contra hafter
      have hoffset := hz.offsetAt_after ht (x := s - t.offset) (by omega) (by omega)
      exact h _ (by rw [hoffset]; omega)

/-- No transition puts the clock on by 24 hours or more. -/
def ShortGaps (z : Zone) : Prop := ∀ t ∈ z.transitions, z.jump t < daySeconds

instance (z : Zone) : Decidable z.ShortGaps :=
  inferInstanceAs (Decidable (∀ t ∈ z.transitions, z.jump t < daySeconds))

/-! ## The instant of a time -/

/-- No instant with the same time on the clock is earlier than the one that is found. -/
theorem instantFrom?_le (hsince : ∀ i ∈ since, i ≤ y) (hy : y + offsetFrom offset y ts = s)
    (h : instantFrom? since offset s ts = some x) : x ≤ y := by
  induction ts generalizing since offset with
  | nil =>
    rw [instantFrom?] at h
    rw [offsetFrom] at hy
    split at h
    · cases h
      omega
    · cases h
  | cons t ts ih =>
    rw [instantFrom?] at h
    rw [offsetFrom] at hy
    split at h
    · rename_i hhere
      cases h
      rw [Bool.and_eq_true, decide_eq_true_eq] at hhere
      split at hy <;> omega
    · rename_i hnot
      split at hy
      · rename_i hpassed
        exact ih (by rintro _ ⟨⟩; exact hpassed) hy h
      · -- the instant lies before the transition, where it would have been found
        have hhere : s - offset = y := by omega
        rw [hhere, all_since_iff.2 hsince] at hnot
        simp only [Bool.true_and, decide_eq_true_eq] at hnot
        omega

theorem instant?_le (h : z.instant? s = some x) (hy : z.clockAt y = s) : x ≤ y :=
  instantFrom?_le (by rintro _ ⟨⟩) hy h

/-- The instant at which a time of the clock is attached. -/
def instantOf (z : Zone) (s : Int) : Int := (z.instant? s).getD (s - z.offsetAt (s - daySeconds))

theorem instantOf_of_instant? (h : z.instant? s = some x) : z.instantOf s = x := by
  rw [instantOf, h, Option.getD_some]

theorem exists_instant? (hx : z.clockAt x = s) : ∃ y, z.instant? s = some y :=
  Option.ne_none_iff_exists'.1 (instantFrom?_ne_none (by rintro _ ⟨⟩) hx)

/-- **The clock shows a time where it is attached**, if it shows it anywhere. -/
theorem clockAt_instantOf (hz : z.Spaced) (hx : z.clockAt x = s) :
    z.clockAt (z.instantOf s) = s := by
  obtain ⟨y, hy⟩ := exists_instant? hx
  rw [instantOf_of_instant? hy]
  exact offsetAt_of_instant? hz.inOrder hy

/-- A time that was skipped is attached with the offset from before the change. -/
theorem instantOf_of_skips (hz : z.Spaced) (h : z.Skips t s) :
    z.instantOf s = s - z.offsetAt (t.instant - 1) := by
  have hnone : z.instant? s = none := by
    by_contra hfound
    obtain ⟨x, hx⟩ := Option.ne_none_iff_exists'.1 hfound
    exact h.clockAt_ne hz x (offsetAt_of_instant? hz.inOrder hx)
  have hold := hz.offsetAt_bounds (t.instant - 1)
  have hnew := hz.offset_bounds h.mem
  have hle := h.le
  have hlt := h.lt
  rw [instantOf, hnone, Option.getD_none]
  simp only [daySeconds]
  -- a day back is before the change, and less than two days before it
  rw [hz.offsetAt_before h.mem (by omega) (by omega)]

/-- **Where a skipped time is attached, the clock shows it put on by the change.** -/
theorem clockAt_instantOf_of_skips (hz : z.Spaced) (h : z.Skips t s) :
    z.clockAt (z.instantOf s) = s + z.jump t := by
  have hold := hz.offsetAt_bounds (t.instant - 1)
  have hnew := hz.offset_bounds h.mem
  have hle := h.le
  have hlt := h.lt
  have hoffset := hz.offsetAt_after h.mem (x := s - z.offsetAt (t.instant - 1))
    (by omega) (by omega)
  rw [instantOf_of_skips hz h, clockAt, hoffset, jump]
  omega

/-- Where a time is attached the clock shows no earlier time. -/
theorem le_clockAt_instantOf (hz : z.Spaced) (s : Int) : s ≤ z.clockAt (z.instantOf s) := by
  by_cases hshown : ∃ x, z.clockAt x = s
  · obtain ⟨x, hx⟩ := hshown
    exact Int.le_of_eq (clockAt_instantOf hz hx).symm
  · obtain ⟨t, ht⟩ := exists_skips hz (not_exists.1 hshown)
    have hle := ht.le
    have hlt := ht.lt
    rw [clockAt_instantOf_of_skips hz ht, jump]
    omega

/-- It does not show a time that is later by more than the greatest gap. -/
theorem clockAt_instantOf_le {gap : Int} (hz : z.Spaced) (hgap : 0 ≤ gap)
    (hgaps : ∀ t ∈ z.transitions, z.jump t ≤ gap) (s : Int) :
    z.clockAt (z.instantOf s) ≤ s + gap := by
  by_cases hshown : ∃ x, z.clockAt x = s
  · obtain ⟨x, hx⟩ := hshown
    rw [clockAt_instantOf hz hx]
    omega
  · obtain ⟨t, ht⟩ := exists_skips hz (not_exists.1 hshown)
    have hjump := hgaps t ht.mem
    rw [clockAt_instantOf_of_skips hz ht]
    omega

/-- With short gaps it does not show the time of the next day yet. -/
theorem clockAt_instantOf_lt (hz : z.Spaced) (hgaps : z.ShortGaps) (s : Int) :
    z.clockAt (z.instantOf s) < s + 86400 := by
  have hle := clockAt_instantOf_le hz (by decide : (0 : Int) ≤ 86399) (fun t ht => ?short) s
  case short =>
    have hshort := hgaps t ht
    simp only [daySeconds] at hshort
    omega
  omega

/-- **An attached time is at the first instant with what the clock shows there.** -/
theorem instantOf_le (hz : z.Spaced) (h : z.clockAt y = z.clockAt (z.instantOf s)) :
    z.instantOf s ≤ y := by
  by_cases hshown : ∃ x, z.clockAt x = s
  · obtain ⟨x, hx⟩ := hshown
    rw [clockAt_instantOf hz hx] at h
    obtain ⟨first, hfirst⟩ := exists_instant? h
    rw [instantOf_of_instant? hfirst]
    exact instant?_le hfirst h
  · obtain ⟨t, ht⟩ := exists_skips hz (not_exists.1 hshown)
    rw [clockAt_instantOf_of_skips hz ht, jump] at h
    rw [instantOf_of_skips hz ht]
    have hle := ht.le
    have hlt := ht.lt
    have hold := hz.offsetAt_bounds (t.instant - 1)
    have hnew := hz.offset_bounds ht.mem
    rcases Int.lt_or_le y t.instant with hbefore | hafter
    · have hless := hz.clockAt_lt ht.mem hbefore
      omega
    · by_cases hnear : y < t.instant + 172800
      · rw [clockAt, hz.offsetAt_after ht.mem hafter hnear] at h
        omega
      · omega

/-- Attaching what the clock shows at an attached time leads back to the same instant. -/
theorem instantOf_clockAt (hz : z.Spaced) (s : Int) :
    z.instantOf (z.clockAt (z.instantOf s)) = z.instantOf s := by
  have hshown : z.clockAt (z.instantOf (z.clockAt (z.instantOf s))) = z.clockAt (z.instantOf s) :=
    clockAt_instantOf hz rfl
  exact Int.le_antisymm (instantOf_le hz hshown.symm) (instantOf_le hz hshown)

/-- **Later times on the clock have later first instants.** -/
theorem instantOf_lt (hz : z.Spaced) (h : z.clockAt (z.instantOf s) < z.clockAt y) :
    z.instantOf s < y := by
  by_contra hlate
  rcases offsetAt_eq_or_changed (z := z) (Int.not_lt.1 hlate) with heven | ⟨t, ht, hlo, hhi⟩
  · unfold clockAt at h
    omega
  · -- the clock was put back in between, so it had shown the earlier time before
    have hshown := hz.le_clockAt ht hhi
    have hless := hz.clockAt_lt ht hlo
    have hold := hz.offsetAt_bounds (t.instant - 1)
    have hnew := hz.offset_bounds ht
    have hoffset := hz.offsetAt_before ht
      (x := z.clockAt (z.instantOf s) - z.offsetAt (t.instant - 1)) (by omega) (by omega)
    have hfirst := instantOf_le hz (s := s)
      (y := z.clockAt (z.instantOf s) - z.offsetAt (t.instant - 1))
      (by rw [clockAt, hoffset]; omega)
    omega

end Zone

/-! ## The zones of the table -/

namespace ZoneTable

/-- All zones of the table are spaced. -/
theorem spaced_of_standard {name : String} {z : Zone} (h : standard name = some z) : z.Spaced := by
  have hall : ∀ e ∈ entries, e.2.Spaced := by decide +kernel
  exact hall (name, z) (mem_entries_of_standard h)

theorem spaced_centralEurope : centralEurope.zone.Spaced :=
  spaced_of_standard (show standard "Europe/Berlin" = some centralEurope.zone from rfl)

theorem shortGaps_centralEurope : centralEurope.zone.ShortGaps := by decide +kernel

end ZoneTable

end SpaceBooking
