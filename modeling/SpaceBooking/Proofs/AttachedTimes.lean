import SpaceBooking.Proofs.ClockChanges

/-!
# Attaching times and reading them off

Attaching a time of the wall clock and reading the clock off there are inverse to each other as far
as a clock that is changed allows. A time that occurs is read off again, and it is attached to the
first of the instants that show it. A time that was skipped is read off put on by the size of the
gap. Either way, attaching what was read off leads back to the same instant.

* `Zone.Reaches` — the calendar reaches an instant and what the clock shows there.
* `Zone.resolve_eq` — attaching a time, as a matter of whole seconds and a part of a second.
* `Zone.resolve_lt_of_clockAt_lt` — attached times are in the order of what the clock shows there.
* `Zone.ReadsBack` — what can be said of one time.
* `Zone.attached_times_read_back` — it holds of all of them, and times that occur keep their order.
-/

namespace SpaceBooking

namespace LocalTime

variable {s : Int} {nano : Fin 1000000000}

/-- A time in whole milliseconds that is no leap second, such as instants give. -/
structure Exact (t : LocalTime) : Prop where
  no_leap : t.nano < nanosPerSecond
  whole : t.nano % 1000000 = 0

/-- Earlier on the wall clock. -/
def Before (t u : LocalTime) : Prop :=
  t.seconds < u.seconds ∨ t.seconds = u.seconds ∧ t.nano < u.nano

/-- The clock that many seconds after the midnight of 1970-01-01 shows that many, if the calendar
reaches it. -/
theorem seconds_ofSeconds (hfirst : Date.first.day * daySeconds ≤ s)
    (hlast : s < (Date.last.day + 1) * daySeconds) : (ofSeconds s nano).seconds = s := by
  have hle : Date.first.day ≤ s / daySeconds := by
    simp only [daySeconds] at hfirst ⊢
    omega
  have hge : s / daySeconds ≤ Date.last.day := by
    simp only [daySeconds] at hlast ⊢
    omega
  have hday : (Date.clamp (s / daySeconds)).day = s / daySeconds := by
    rw [Date.clamp, dif_pos hle, dif_pos hge]
  simp only [seconds, ofSeconds, hday]
  simp only [daySeconds]
  omega

end LocalTime

namespace Zone

variable {z : Zone} {n m : LocalTime} {t : Transition} {ms : Int}

/-- The calendar reaches an instant and what the clock shows there. -/
def Reaches (z : Zone) (ms : Int) : Prop :=
  onCalendar ms = true ∧ onCalendar (ms + z.offsetAtMs ms * 1000) = true

instance (z : Zone) (ms : Int) : Decidable (z.Reaches ms) := inferInstanceAs (Decidable (_ ∧ _))

/-! ## Seconds and parts of a second -/

/-- A time is attached to the second, and its milliseconds are kept. -/
theorem resolve_eq (z : Zone) (hleap : n.nano < nanosPerSecond) :
    z.resolve n = z.instantOf n.seconds * 1000 + (n.nano / 1000000 : Nat) := by
  cases hfound : z.instant? n.seconds with
  | some x => simp only [resolve, instantOf, hfound, Option.getD_some, Reading.ms]
  | none =>
    simp only [resolve, instantOf, hfound, Option.getD_none, Reading.shift, LocalTime.reading,
      hleap, true_or, if_true, Reading.ms]
    rfl

theorem resolve_second (z : Zone) (hleap : n.nano < nanosPerSecond) :
    z.resolve n / 1000 = z.instantOf n.seconds := by
  rw [z.resolve_eq hleap]
  simp only [nanosPerSecond] at hleap
  omega

theorem resolve_part (z : Zone) (hleap : n.nano < nanosPerSecond) :
    z.resolve n % 1000 = (n.nano / 1000000 : Nat) := by
  rw [z.resolve_eq hleap]
  simp only [nanosPerSecond] at hleap
  omega

theorem shownInstant_eq (h : onCalendar ms = true) : shownInstant ms = ms := if_pos h

/-- The clock shows the seconds of the instant, put on by the offset. -/
theorem seconds_localTime (h : z.Reaches ms) :
    (z.localTime ms).seconds = z.clockAt (ms / 1000) := by
  obtain ⟨hms, hclock⟩ := h
  simp only [onCalendar, offsetAtMs, shownInstant_eq hms, Date.first, Date.last, dayMs,
    Bool.and_eq_true, decide_eq_true_eq] at hclock
  simp only [localTime, offsetAtMs, shownInstant_eq hms, clockAt]
  apply LocalTime.seconds_ofSeconds
  · simp only [Date.first, daySeconds]
    omega
  · simp only [Date.last, daySeconds]
    omega

/-- The clock shows the milliseconds of the instant. -/
theorem nano_localTime (h : onCalendar ms = true) :
    (z.localTime ms).nano = (ms % 1000).toNat * 1000000 := by
  simp only [localTime, shownInstant_eq h, LocalTime.ofSeconds]

theorem exact_localTime (z : Zone) (ms : Int) : (z.localTime ms).Exact where
  no_leap := by
    simp only [localTime, LocalTime.ofSeconds, nanosPerSecond]
    omega
  whole := Nat.mul_mod_left _ _

/-! ## One time -/

/-- What is read off at an attached time, and what is attached then. -/
structure ReadsBack (z : Zone) (n : LocalTime) : Prop where
  /-- A time that occurs is read off again. -/
  shown : z.Occurs n → z.localTime (z.resolve n) = n
  /-- It is not shown any earlier. -/
  first : z.Occurs n → ∀ ms, z.Reaches ms → z.localTime ms = n → z.resolve n ≤ ms
  /-- A time that was skipped is read off put on by the size of the gap. -/
  pushed : ∀ t, z.Skips t n.seconds →
    (z.localTime (z.resolve n)).seconds = n.seconds + z.jump t ∧
      (z.localTime (z.resolve n)).nano = n.nano
  /-- Every time occurs or was skipped. -/
  covered : z.Occurs n ∨ ∃ t, z.Skips t n.seconds
  /-- What is read off is attached to the same instant. -/
  again : z.resolve (z.localTime (z.resolve n)) = z.resolve n

theorem occurs_or_skips (hz : z.Spaced) (n : LocalTime) :
    z.Occurs n ∨ ∃ t, z.Skips t n.seconds := by
  by_cases hoccurs : z.Occurs n
  · exact .inl hoccurs
  · exact .inr (exists_skips hz (not_exists.1 hoccurs))

/-- A time is read off no later than any instant at which the clock shows it. -/
theorem resolve_le (hz : z.Spaced) (hms : z.Reaches ms) (h : z.localTime ms = n) :
    z.resolve n ≤ ms := by
  subst h
  have hshown : z.clockAt (ms / 1000) = (z.localTime ms).seconds := (seconds_localTime hms).symm
  have hfirst : z.instantOf (z.localTime ms).seconds ≤ ms / 1000 :=
    instantOf_le hz (by rw [clockAt_instantOf hz hshown, hshown])
  have hnano := nano_localTime (z := z) hms.1
  rw [z.resolve_eq (z.exact_localTime ms).no_leap, hnano]
  omega

/-- Where a skipped time is attached, the clock shows it put on by the size of the gap. -/
theorem localTime_resolve_of_skips (hz : z.Spaced) (hn : n.Exact) (hreach : z.Reaches (z.resolve n))
    (ht : z.Skips t n.seconds) :
    (z.localTime (z.resolve n)).seconds = n.seconds + z.jump t ∧
      (z.localTime (z.resolve n)).nano = n.nano := by
  constructor
  · rw [seconds_localTime hreach, z.resolve_second hn.no_leap, clockAt_instantOf_of_skips hz ht]
  · rw [nano_localTime hreach.1, z.resolve_part hn.no_leap]
    have hwhole := hn.whole
    omega

/-- **Attaching what is read off at an attached time leads back to the same instant.** -/
theorem resolve_localTime_resolve (hz : z.Spaced) (hleap : n.nano < nanosPerSecond)
    (hreach : z.Reaches (z.resolve n)) : z.resolve (z.localTime (z.resolve n)) = z.resolve n := by
  have hsecond : (z.localTime (z.resolve n)).seconds = z.clockAt (z.instantOf n.seconds) := by
    rw [seconds_localTime hreach, z.resolve_second hleap]
  have hnano : (z.localTime (z.resolve n)).nano / 1000000 = n.nano / 1000000 := by
    rw [nano_localTime hreach.1, z.resolve_part hleap]
    omega
  rw [z.resolve_eq (z.exact_localTime _).no_leap, hsecond, instantOf_clockAt hz, hnano,
    z.resolve_eq hleap]

theorem readsBack (hz : z.Spaced) (hn : n.Exact) (hreach : z.Reaches (z.resolve n)) :
    z.ReadsBack n where
  shown hoccurs := localTime_resolve hz.inOrder hoccurs hn.no_leap hn.whole hreach.1
  first _ _ hms h := resolve_le hz hms h
  pushed _ ht := localTime_resolve_of_skips hz hn hreach ht
  covered := occurs_or_skips hz n
  again := resolve_localTime_resolve hz hn.no_leap hreach

/-! ## Several times -/

/-- Attached times are in the order of what the clock shows there. -/
theorem resolve_lt_of_clockAt_lt (hz : z.Spaced) (hm : m.nano < nanosPerSecond)
    (hn : n.nano < nanosPerSecond)
    (h : z.clockAt (z.instantOf m.seconds) < z.clockAt (z.instantOf n.seconds)) :
    z.resolve m < z.resolve n := by
  have hlt := instantOf_lt hz h
  rw [z.resolve_eq hm, z.resolve_eq hn]
  simp only [nanosPerSecond] at hm
  omega

/-- With short gaps, times that are a day apart or more are attached in their order, also when they
are skipped. -/
theorem resolve_lt_of_day_le (hz : z.Spaced) (hgaps : z.ShortGaps) (hm : m.nano < nanosPerSecond)
    (hn : n.nano < nanosPerSecond) (h : m.seconds + daySeconds ≤ n.seconds) :
    z.resolve m < z.resolve n := by
  refine resolve_lt_of_clockAt_lt hz hm hn ?_
  have hbefore := clockAt_instantOf_lt hz hgaps m.seconds
  have hafter := le_clockAt_instantOf hz n.seconds
  simp only [daySeconds] at h
  omega

theorem resolve_lt_of_before (hz : z.Spaced) (hm : m.Exact) (hn : n.Exact) (hmo : z.Occurs m)
    (hno : z.Occurs n) (h : m.Before n) : z.resolve m < z.resolve n := by
  obtain ⟨x, hx⟩ := hmo
  obtain ⟨y, hy⟩ := hno
  rcases h with hsecond | ⟨hsecond, hnano⟩
  · refine resolve_lt_of_clockAt_lt hz hm.no_leap hn.no_leap ?_
    rwa [clockAt_instantOf hz hx, clockAt_instantOf hz hy]
  · rw [z.resolve_eq hm.no_leap, z.resolve_eq hn.no_leap, hsecond]
    have hm := hm.whole
    have hn := hn.whole
    omega

end Zone

open Zone in
/-- **Attaching times and reading them off are inverse up to gaps and overlaps.** In a zone whose
changes are 48 hours apart and that is always less than 24 hours away from universal time, every
time in whole milliseconds that is no leap second reads back, if the calendar reaches it; and of two
such times that occur the earlier one is attached earlier. -/
theorem attached_times_read_back {z : Zone} (hz : z.Spaced) :
    (∀ n : LocalTime, n.Exact → z.Reaches (z.resolve n) → z.ReadsBack n) ∧
      ∀ m n : LocalTime, m.Exact → n.Exact → z.Occurs m → z.Occurs n → m.Before n →
        z.resolve m < z.resolve n :=
  ⟨fun _ hn hreach => readsBack hz hn hreach,
    fun _ _ hm hn hmo hno h => resolve_lt_of_before hz hm hn hmo hno h⟩

namespace Sample

/-- Half past two at night, as a clock at universal time shows it. -/
def halfPastTwo (d : Date) : LocalTime := ZoneTable.universal.localTime (d.day * dayMs + 9000000)

/-- The clocks of Central Europe go on from 2 to 3 on 2026-03-29. -/
def summerTime : Transition := ⟨1774746000, 7200⟩

end Sample

open Zone ZoneTable Sample in
/-- Half past two is skipped on 2026-03-29 and read off as half past three; on the days around it
the clock shows it. -/
theorem attached_times_read_back_spring :
    centralEurope.zone.Spaced ∧
      centralEurope.zone.Skips summerTime (halfPastTwo (.clamp 20541)).seconds ∧
      centralEurope.zone.jump summerTime = 3600 ∧
      centralEurope.zone.ReadsBack (halfPastTwo (.clamp 20541)) ∧
      centralEurope.zone.resolve (halfPastTwo (.clamp 20540)) <
        centralEurope.zone.resolve (halfPastTwo (.clamp 20542)) := by
  have hexact : ∀ d, (halfPastTwo d).Exact := fun _ => exact_localTime _ _
  obtain ⟨hreads, hordered⟩ := attached_times_read_back spaced_centralEurope
  refine ⟨spaced_centralEurope, ⟨by decide +kernel, by decide +kernel, by decide +kernel⟩,
    by decide +kernel, hreads _ (hexact _) (by decide +kernel), ?_⟩
  refine hordered _ _ (hexact _) (hexact _) ⟨1774661400, by decide +kernel⟩
    ⟨1774830600, by decide +kernel⟩ (.inl (by decide))

end SpaceBooking
