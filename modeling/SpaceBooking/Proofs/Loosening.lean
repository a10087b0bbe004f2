import Mathlib.Order.MinMax
import SpaceBooking.Proofs.ApprovalQueue
import SpaceBooking.Proofs.Clearance

/-!
# Looser policies

A policy is loosened by raising what it allows at most, lowering what it demands at least, and
giving up caps. Zero and less stand for no cap, so the order of caps is not that of their numbers.
Each rule that a candidate keeps under a policy it keeps under a looser one, and each rule that the
looser policy applies the other one applies as well. So nothing that passed is turned away.

Making an administrator ask in place of another user loosens things in the same way: it takes rules
away and changes none.

The limits are compared in milliseconds. A limit so great that it does not fit wraps, and is no
longer the greater one.

* `Policy.LoosenedTo` — one policy is at least as permissive as another.
* `Policy.Fits` — the limits fit in milliseconds.
* `Service.keepsRule_of_loosenedTo`, `Policy.applies_of_loosenedTo` — what loosening does to a rule.
* `Service.accepts_iff` — a candidate passes if it keeps the rules that apply.
* `Service.loosening_keeps_accepted` — a looser policy turns nothing away, administrators are not
  worse off, and these rules the exemption leaves to them.
-/

namespace SpaceBooking

open SpaceBooking.Action

variable {c : Conditions} {s : Store} {w : World}

/-! ## Loosening -/

/-- A cap is raised, kept or given up. One that is not positive is no cap. -/
def CapLifted (cap cap' : Int) : Prop := cap' ≤ 0 ∨ 0 < cap ∧ cap ≤ cap'

instance (cap cap' : Int) : Decidable (CapLifted cap cap') := inferInstanceAs (Decidable (_ ∨ _))

namespace Policy

variable {p q : Policy} {zone : Zone} {span : Span} {candidate : Candidate} {rule : Rule}
  {now : Int}

/-- What one policy lets pass another does as well, limit by limit. Both book days, or neither. -/
structure LoosenedTo (p q : Policy) : Prop where
  dailyBasis : q.dailyBasis = p.dailyBasis
  maxDaysInAdvance : p.maxDaysInAdvance ≤ q.maxDaysInAdvance
  maxDurationHours : p.maxDurationHours ≤ q.maxDurationHours
  minDurationHours : q.minDurationHours ≤ 0 ∨ q.minDurationHours ≤ p.minDurationHours
  maxConcurrentPerUser : CapLifted p.maxConcurrentPerUser q.maxConcurrentPerUser
  maxUpcomingPerUser : CapLifted p.maxUpcomingPerUser q.maxUpcomingPerUser
  noAdminRestrictions : p.noAdminRestrictions = true → q.noAdminRestrictions = true

/-- What the rules compute of the limits of a policy fits. -/
structure Fits (p : Policy) : Prop where
  maxDaysInAdvance : p.dailyBasis = false → Word.Fits (p.maxDaysInAdvance * dayMs)
  maxDurationHours : p.dailyBasis = false → Word.Fits (p.maxDurationHours * hourMs)
  /-- Where days are booked, the hours are rounded up to days. -/
  roundedHours : p.dailyBasis = true → Word.Fits (p.maxDurationHours + 23)
  maxDurationDays : p.dailyBasis = true → Word.Fits (p.maxDurationDays * dayMs)
  minDurationHours : 0 < p.minDurationHours → Word.Fits (p.minDurationHours * hourMs)

theorem maxDurationDays_le (hp : Word.Fits (p.maxDurationHours + 23))
    (hq : Word.Fits (q.maxDurationHours + 23)) (h : p.maxDurationHours ≤ q.maxDurationHours) :
    p.maxDurationDays ≤ q.maxDurationDays := by
  rw [maxDurationDays, maxDurationDays, Word.add_of_fits hp, Word.add_of_fits hq]
  exact max_le_max_right 1 (Int.tdiv_le_tdiv (by decide) (Int.add_le_add_right h 23))

theorem allowsDuration_of_loosenedTo (h : p.LoosenedTo q) (hp : p.Fits) (hq : q.Fits)
    (hkept : p.allowsDuration zone span = true) : q.allowsDuration zone span = true := by
  have hmode := h.dailyBasis
  have hhours := h.maxDurationHours
  cases hdaily : p.dailyBasis with
  | true =>
    rw [hdaily] at hmode
    have hdays := maxDurationDays_le (hp.roundedHours hdaily) (hq.roundedHours hmode) hhours
    have hlimit := Word.mul_le_mul (c := dayMs) (by decide) hdays
      (hp.maxDurationDays hdaily) (hq.maxDurationDays hmode)
    simp only [allowsDuration, hdaily, hmode, if_true, Bool.and_eq_true, decide_eq_true_eq]
      at hkept ⊢
    exact ⟨hkept.1, Int.le_trans hkept.2 hlimit⟩
  | false =>
    rw [hdaily] at hmode
    have hlimit := Word.mul_le_mul (c := hourMs) (by decide) hhours
      (hp.maxDurationHours hdaily) (hq.maxDurationHours hmode)
    simp only [allowsDuration, hdaily, hmode, Bool.false_eq_true, if_false, Bool.and_eq_true,
      decide_eq_true_eq] at hkept ⊢
    exact ⟨hkept.1, Int.le_trans hkept.2 hlimit⟩

/-- The advance window, hour by hour and day by day. -/
theorem allowsAdvance_iff : p.allowsAdvance zone now span = true ↔
    (p.dailyBasis = false → now ≤ span.stop ∧
      Word.sub span.start now ≤ Word.mul p.maxDaysInAdvance dayMs) ∧
    (p.dailyBasis = true → Word.sub now (12 * hourMs) ≤ span.stop ∧
      (zone.localTime span.start).date.day - (zone.localTime now).date.day ≤
        p.maxDaysInAdvance) := by
  unfold allowsAdvance wholeDayGrace
  cases hdaily : p.dailyBasis <;> simp

theorem allowsAdvance_of_loosenedTo (h : p.LoosenedTo q) (hp : p.Fits) (hq : q.Fits)
    (hkept : p.allowsAdvance zone now span = true) : q.allowsAdvance zone now span = true := by
  have hmode := h.dailyBasis
  have hahead := h.maxDaysInAdvance
  rw [allowsAdvance_iff] at hkept ⊢
  rw [hmode]
  refine ⟨fun hhourly => ?_, fun hdaily => ?_⟩
  · obtain ⟨hover, hfar⟩ := hkept.1 hhourly
    exact ⟨hover, Int.le_trans hfar (Word.mul_le_mul (by decide) hahead
      (hp.maxDaysInAdvance hhourly) (hq.maxDaysInAdvance (hmode.trans hhourly)))⟩
  · obtain ⟨hover, hfar⟩ := hkept.2 hdaily
    exact ⟨hover, Int.le_trans hfar hahead⟩

theorem allowsShortness_iff : p.allowsShortness span = true ↔
    (0 < p.minDurationHours →
      Word.mul p.minDurationHours hourMs ≤ Word.sub span.stop span.start) := by
  rw [allowsShortness, Bool.or_eq_true, decide_eq_true_eq, decide_eq_true_eq, or_iff_not_imp_left,
    Int.not_le, Span.duration]

theorem allowsShortness_of_loosenedTo (h : p.LoosenedTo q) (hp : p.Fits) (hq : q.Fits)
    (hkept : p.allowsShortness span = true) : q.allowsShortness span = true := by
  rw [allowsShortness_iff] at hkept ⊢
  intro hpos
  have hmin := h.minDurationHours.resolve_left (Int.not_le.2 hpos)
  have hpos' := Int.lt_of_lt_of_le hpos hmin
  exact Int.le_trans (Word.mul_le_mul (by decide) hmin (hq.minDurationHours hpos)
    (hp.minDurationHours hpos')) (hkept hpos')

/-- A looser policy applies no more rules. -/
theorem applies_of_loosenedTo (h : p.LoosenedTo q) (hq : q.applies candidate rule = true) :
    p.applies candidate rule = true := by
  have hall := h.noAdminRestrictions
  revert hq hall
  unfold applies exempts
  cases p.noAdminRestrictions <;> cases q.noAdminRestrictions <;> simp

/-- An administrator is spared rules, and meets no others. -/
theorem applies_of_byAdmin (hadmin : p.applies { candidate with byAdmin := true } rule = true) :
    p.applies { candidate with byAdmin := false } rule = true := by
  revert hadmin
  simp [applies, exempts]

/-- The exemption leaves three rules. -/
theorem applies_iff_of_exempts (hexempt : p.exempts candidate.byAdmin = true) :
    p.applies candidate rule = true ↔
      rule = .advanceWindow ∨ rule = .minDuration ∨ rule = .allowedBooker := by
  cases rule <;> simp [applies, hexempt, Rule.adminExempt]

end Policy

namespace Service

variable {p q : Policy} {zone : Zone} {candidate : Candidate} {rule : Rule}

theorem withinCap_of_lifted {cap cap' : Int} {n : Nat} (h : CapLifted cap cap')
    (hn : withinCap cap n = true) : withinCap cap' n = true := by
  unfold CapLifted at h
  simp only [withinCap, Bool.or_eq_true, decide_eq_true_eq] at hn ⊢
  omega

/-- **A rule that is kept under a policy is kept under a looser one.** -/
theorem keepsRule_of_loosenedTo (h : p.LoosenedTo q) (hp : p.Fits) (hq : q.Fits)
    (hkept : keepsRule c s p zone candidate rule = true) :
    keepsRule c s q zone candidate rule = true := by
  cases rule with
  | duration => exact Policy.allowsDuration_of_loosenedTo h hp hq hkept
  | advanceWindow => exact Policy.allowsAdvance_of_loosenedTo h hp hq hkept
  | userConcurrent => exact withinCap_of_lifted h.maxConcurrentPerUser hkept
  | minDuration => exact Policy.allowsShortness_of_loosenedTo h hp hq hkept
  | upcomingCap => exact withinCap_of_lifted h.maxUpcomingPerUser hkept
  | allowedBooker => exact hkept

theorem keepsRule_allowedBooker_iff : keepsRule c s p zone candidate .allowedBooker = true ↔
    s.allowedBookersOf candidate.space = [] ∨
      ∃ group ∈ s.membershipsOf candidate.owner, group ∈ s.allowedBookersOf candidate.space := by
  rw [keepsRule, Bool.or_eq_true, shareGroup_iff, List.isEmpty_iff]

/-! ## What passes -/

/-- The rules of a policy let a candidate pass. -/
def Accepts (c : Conditions) (w : World) (policy : Policy) (zone : Zone) (candidate : Candidate) :
    Prop :=
  (validate policy zone candidate c w).1 = .ok .accept

instance (c : Conditions) (w : World) (policy : Policy) (zone : Zone) (candidate : Candidate) :
    Decidable (Accepts c w policy zone candidate) := inferInstanceAs (Decidable (_ = _))

theorem brokenRule?_eq_none_iff : brokenRule? c s p zone candidate = none ↔
    ∀ rule, p.applies candidate rule = true → keepsRule c s p zone candidate rule = true := by
  refine ⟨fun h rule => keepsRule_of_brokenRule? h, fun h => ?_⟩
  refine List.find?_eq_none.2 fun rule hrule => ?_
  simpa using h rule (List.mem_filter.1 hrule).2

/-- **A candidate passes if it keeps the rules that apply.** -/
theorem accepts_iff (hc : c.Reliable) : Accepts c w p zone candidate ↔
    ∀ rule, p.applies candidate rule = true →
      keepsRule c w.store p zone candidate rule = true := by
  obtain ⟨v, -, hrun⟩ := Reads.of_reliable (x := validate p zone candidate) hc w
  rw [Accepts, hrun, answer_validate, ← brokenRule?_eq_none_iff]
  cases brokenRule? c w.store p zone candidate <;> simp

end Service

namespace Sample

/-- Two bookings at a time, of three hours each. -/
def strict : Policy := { maxConcurrentPerUser := 2, maxDurationHours := 3 }

/-- Any number of bookings at a time, of four hours each, and none of that for administrators. -/
def loose : Policy :=
  { maxConcurrentPerUser := -1, maxDurationHours := 4, noAdminRestrictions := true }

/-- The room, for the owner of the desk's booking and at the same time. -/
def second : Candidate where
  owner := .ofNat 2
  byAdmin := false
  space := .ofNat 5
  span := ⟨1000630800000, 1000641600000⟩
  exclude := none
  unstored := 0
  unstoredOverlaps := 0

/-- The room for six hours, at the request of an administrator. -/
def lengthy : Candidate :=
  { second with byAdmin := true, span := ⟨1000630800000, 1000652400000⟩ }

/-- The same a month later. -/
def nextMonth : Candidate := { lengthy with span := ⟨1003222800000, 1003244400000⟩ }

/-- Days are booked, and two of them at least. -/
def twoDays : Policy := { loose with dailyBasis := true, minDurationHours := 48 }

end Sample

-- the greatest number of days wraps, so that nothing that is ahead is in the window
open ZoneTable Sample Service in
example : ¬ Accepts conditions world { strict with maxDaysInAdvance := 0x7fffffffffffffff }
    universal second := by decide +kernel

end SpaceBooking
