import Mathlib.Data.List.Chain
import SpaceBooking.Time.ZoneTable

/-!
# Reading off a time that was attached

A wall-clock time that occurs is found at an instant of some period between two transitions. If the
transitions are in order, the offset of that period is the one in force at the instant, so the clock
shows the time there. A time that was skipped cannot be read off anywhere.

* `Zone.offsets` — the offsets of a zone. None is as much as a day, so instants lie near the days
  on which the clock shows them: `Zone.resolve_bounds`.
* `Zone.InOrder` — the transitions come in order of time, as they do in all zones of the table.
* `Zone.offsetAt_of_instant?` — at the instant of a time the clock shows that time, in seconds.
* `Zone.Occurs`, `Zone.occurs_iff` — such an instant is found for the times that the clock shows.
* `Zone.localTime_resolve` — as a whole: attaching a time and reading it off again gives it back.
-/

namespace SpaceBooking

theorem Date.eq_of_day {d e : Date} (h : d.day = e.day) : d = e := by
  cases d
  cases e
  cases h
  rfl

theorem Date.clamp_day (d : Date) : clamp d.day = d := by
  have hfirst : first.day ≤ d.day := d.first_le
  have hlast : d.day ≤ last.day := d.le_last
  rw [clamp, dif_pos hfirst, dif_pos hlast]

/-- The clock that many seconds after the midnight of 1970-01-01 is the one that counts them. -/
theorem LocalTime.ofSeconds_seconds {t : LocalTime} {nano : Fin 1000000000}
    (h : nano.val = t.nano) : ofSeconds t.seconds nano = t := by
  have hlt := t.second_lt
  have hday : t.seconds / daySeconds = t.date.day := by
    simp only [seconds, daySeconds]
    omega
  have hdate : Date.clamp (t.seconds / daySeconds) = t.date := by
    rw [hday]
    exact Date.clamp_day t.date
  have hsecond : (t.seconds % daySeconds).toNat = t.second := by
    simp only [seconds, daySeconds]
    omega
  cases t
  simp only [ofSeconds, mk.injEq]
  exact ⟨hdate, hsecond, h⟩

namespace Zone

variable {z : Zone} {s x offset : Int} {since : Option Int} {ts : List Transition}

/-! ## Offsets -/

/-- The offsets that a zone ever has. -/
def offsets (z : Zone) : List Int := z.initial :: z.transitions.map (·.offset)

theorem offsetFrom_mem : offsetFrom offset x ts ∈ offset :: ts.map (·.offset) := by
  induction ts generalizing offset with
  | nil => exact List.mem_cons_self
  | cons t ts ih =>
    rw [offsetFrom]
    split
    · exact List.mem_cons_of_mem _ ih
    · exact List.mem_cons_self

theorem offsetAt_mem (z : Zone) (x : Int) : z.offsetAt x ∈ z.offsets := offsetFrom_mem

theorem offsetAt_bounded (z : Zone) (x : Int) :
    -daySeconds < z.offsetAt x ∧ z.offsetAt x < daySeconds :=
  z.bounded _ (z.offsetAt_mem x)

/-- An instant is found with one of the offsets. -/
theorem exists_offset_of_instantFrom? (h : instantFrom? since offset s ts = some x) :
    ∃ o ∈ offset :: ts.map (·.offset), x = s - o := by
  induction ts generalizing since offset with
  | nil =>
    rw [instantFrom?] at h
    split at h
    · exact ⟨offset, List.mem_cons_self, (Option.some.inj h).symm⟩
    · cases h
  | cons t ts ih =>
    rw [instantFrom?] at h
    split at h
    · exact ⟨offset, List.mem_cons_self, (Option.some.inj h).symm⟩
    · obtain ⟨o, ho, hx⟩ := ih h
      exact ⟨o, List.mem_cons_of_mem _ ho, hx⟩

theorem exists_offset_of_instant? (h : z.instant? s = some x) : ∃ o ∈ z.offsets, x = s - o :=
  exists_offset_of_instantFrom? h

/-- A shift moves a reading by the seconds, and a leap second by one or two more at most. -/
theorem ms_shift_bounds (r : Reading) (hnano : r.nano < 2000000000) (by_s : Int) :
    (r.second + by_s) * 1000 ≤ (r.shift by_s).ms ∧
      (r.shift by_s).ms < (r.second + by_s) * 1000 + 3000 := by
  unfold Reading.shift
  split_ifs <;> simp only [Reading.ms, nanosPerSecond] at * <;> omega

/-- **The instant of a time lies near its day**, at most a day away but for a leap second. -/
theorem resolve_bounds (z : Zone) (t : LocalTime) :
    (t.date.day - 1) * dayMs < z.resolve t ∧ z.resolve t < (t.date.day + 3) * dayMs := by
  have hsecond := t.second_lt
  have hnano := t.nano_lt
  unfold resolve
  cases hfound : z.instant? t.seconds with
  | some x =>
    obtain ⟨o, ho, rfl⟩ := exists_offset_of_instant? hfound
    have hoffset := z.bounded o ho
    simp only [Reading.ms, LocalTime.seconds, daySeconds, dayMs] at hoffset ⊢
    omega
  | none =>
    have hoffset := z.offsetAt_bounded (t.reading.shift (-daySeconds)).second
    have hms := ms_shift_bounds t.reading hnano
      (-z.offsetAt (t.reading.shift (-daySeconds)).second)
    simp only [LocalTime.reading, LocalTime.seconds, daySeconds, dayMs] at hoffset hms ⊢
    omega

/-- The calendar reaches the instants of times that are two days or more away from its ends. -/
theorem resolve?_eq_some {t : LocalTime} (hfirst : Date.first.day + 2 ≤ t.date.day)
    (hlast : t.date.day + 2 ≤ Date.last.day) : z.resolve? t = some (z.resolve t) := by
  have hsecond := t.second_lt
  have hnear := z.resolve_bounds t
  have hms := ms_shift_bounds t.reading t.nano_lt (-daySeconds)
  simp only [Date.first, Date.last, LocalTime.reading, LocalTime.seconds, daySeconds, dayMs]
    at hfirst hlast hnear hms
  refine if_pos ⟨onCalendar_iff.2 ?_, fun _ => onCalendar_iff.2 ?_⟩ <;>
  · simp only [Date.first, Date.last, LocalTime.reading, LocalTime.seconds, daySeconds, dayMs]
    omega

/-! ## The order of transitions -/

/-- The transitions come in order of time. -/
def InOrder (z : Zone) : Prop := z.transitions.Pairwise fun a b => a.instant ≤ b.instant

instance : IsTrans Transition fun a b => a.instant ≤ b.instant :=
  ⟨fun _ _ _ => Int.le_trans⟩

-- comparing neighbours is enough, and the zones of the table have hundreds of transitions
instance (z : Zone) : Decidable z.InOrder :=
  decidable_of_iff (z.transitions.IsChain fun a b => a.instant ≤ b.instant)
    List.isChain_iff_pairwise

theorem all_since_iff : since.all (· ≤ x) = true ↔ ∀ i ∈ since, i ≤ x := by
  cases since <;> simp

/-- The offset with which an instant was found is in force there, and the instant is no earlier
than where the search began. -/
theorem offsetFrom_of_instantFrom? (hts : ts.Pairwise fun a b => a.instant ≤ b.instant)
    (hsince : ∀ i ∈ since, ∀ t ∈ ts, i ≤ t.instant)
    (h : instantFrom? since offset s ts = some x) :
    x + offsetFrom offset x ts = s ∧ ∀ i ∈ since, i ≤ x := by
  induction ts generalizing since offset with
  | nil =>
    rw [instantFrom?] at h
    split at h
    · rename_i hall
      cases h
      refine ⟨?_, all_since_iff.1 hall⟩
      rw [offsetFrom]
      omega
    · cases h
  | cons t ts ih =>
    obtain ⟨ht, hts⟩ := List.pairwise_cons.1 hts
    rw [instantFrom?] at h
    split at h
    · rename_i hhere
      cases h
      rw [Bool.and_eq_true, decide_eq_true_eq] at hhere
      refine ⟨?_, all_since_iff.1 hhere.1⟩
      rw [offsetFrom, if_neg (by omega)]
      omega
    · obtain ⟨hshown, hlater⟩ := ih hts (by rintro _ ⟨⟩; exact ht) h
      have hpassed : t.instant ≤ x := hlater _ rfl
      refine ⟨?_, fun i hi => ?_⟩
      · rw [offsetFrom, if_pos hpassed]
        exact hshown
      · have hle := hsince i hi t List.mem_cons_self
        omega

/-- **At the instant of a time the clock shows that time**, in seconds. -/
theorem offsetAt_of_instant? (hz : z.InOrder) (h : z.instant? s = some x) :
    x + z.offsetAt x = s :=
  (offsetFrom_of_instantFrom? hz (by rintro _ ⟨⟩) h).1

/-- The clock shows the time at some instant, to the second. -/
def Occurs (z : Zone) (t : LocalTime) : Prop := ∃ x, x + z.offsetAt x = t.seconds

theorem instantFrom?_ne_none (hsince : ∀ i ∈ since, i ≤ x)
    (h : x + offsetFrom offset x ts = s) : instantFrom? since offset s ts ≠ none := by
  induction ts generalizing since offset with
  | nil =>
    rw [offsetFrom] at h
    have hx : s - offset = x := by omega
    rw [instantFrom?, hx, if_pos (all_since_iff.2 hsince)]
    simp
  | cons t ts ih =>
    rw [instantFrom?]
    split
    · simp
    · rename_i hnot
      rw [offsetFrom] at h
      split at h
      · rename_i hpassed
        exact ih (by rintro _ ⟨⟩; exact hpassed) h
      · -- the instant lies before the transition, where it would have been found
        rename_i hbefore
        have hx : s - offset = x := by omega
        rw [hx, all_since_iff.2 hsince] at hnot
        simp at hnot
        omega

/-- An instant is found for the times that occur. -/
theorem occurs_iff {t : LocalTime} (hz : z.InOrder) :
    z.Occurs t ↔ z.instant? t.seconds ≠ none := by
  constructor
  · rintro ⟨x, hx⟩
    exact instantFrom?_ne_none (by rintro _ ⟨⟩) hx
  · intro hfound
    obtain ⟨x, hx⟩ := Option.ne_none_iff_exists'.1 hfound
    exact ⟨x, offsetAt_of_instant? hz hx⟩

/-- **A time that occurs is read off where it was attached**, if it is one of whole milliseconds
and no leap second. -/
theorem localTime_resolve {t : LocalTime} (hz : z.InOrder) (hoccurs : z.Occurs t)
    (hleap : t.nano < nanosPerSecond) (hwhole : t.nano % 1000000 = 0)
    (hcalendar : onCalendar (z.resolve t) = true) : z.localTime (z.resolve t) = t := by
  obtain ⟨x, hx⟩ := Option.ne_none_iff_exists'.1 ((occurs_iff hz).1 hoccurs)
  have hms : z.resolve t = x * 1000 + (t.nano / 1000000 : Nat) := by
    simp only [resolve, hx, Reading.ms]
  have hsecond : z.resolve t / 1000 = x := by
    rw [hms]
    simp only [nanosPerSecond] at hleap
    omega
  have hpart : (z.resolve t % 1000).toNat * 1000000 = t.nano := by
    rw [hms]
    simp only [nanosPerSecond] at hleap
    omega
  have hshown : shownInstant (z.resolve t) = z.resolve t := if_pos hcalendar
  have hclock : z.resolve t / 1000 + z.offsetAt (z.resolve t / 1000) = t.seconds := by
    rw [hsecond]
    exact offsetAt_of_instant? hz hx
  unfold localTime offsetAtMs
  simp only [hshown, hclock]
  exact LocalTime.ofSeconds_seconds hpart

end Zone

/-! ## The zones of the table -/

namespace ZoneTable

variable {name : String} {z : Zone}

theorem mem_entries_of_standard (h : standard name = some z) : (name, z) ∈ entries := by
  obtain ⟨before, after, hentries, -⟩ := List.lookup_eq_some_iff.1 h
  rw [hentries]
  exact List.mem_append_right before List.mem_cons_self

end ZoneTable

end SpaceBooking
