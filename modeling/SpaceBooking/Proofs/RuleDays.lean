import SpaceBooking.Proofs.SeriesClock
import SpaceBooking.Proofs.WrittenNames

/-!
# The days that a rule picks

A rule for a series steps from one day to the next. Here the days are described without the steps:
a daily rule picks every day that is a multiple of its cycle after the first day, a weekly rule the
listed weekdays of every week that is a multiple of its cycle after the week of the first listed
weekday. The steps lead from each of these days to the next one, so they find them all, in order,
until an instance would not start before the end of the series, or the calendar ends.

* `Cadence.Picks` — the days of a rule. `Cadence.Void` — rules that are for no day at all.
* `Cadence.nextIn` — one step leads to the next day that the rule picks.
* `Cadence.exists_days_from` — all steps lead through all of these days.
* `series_falls_on_rule_days` — the instances of a series are those on the days of its rule.
-/

namespace SpaceBooking

/-! ## Weeks -/

namespace Date

/-- A day is reached that is not after another one. -/
theorem add?_ne_none {d e : Date} {n : Nat} (h : d.day + n ≤ e.day) : d.add? n ≠ none := by
  have hfirst := d.first_le
  have hlast := e.le_last
  rw [add?, ofDay?, dif_pos ⟨by simp only [first]; omega, by simp only [last]; omega⟩]
  exact Option.some_ne_none _

/-- The number of a week. Weeks start on Sunday, and 1970-01-01 is in week 0. -/
def week (d : Date) : Int := (d.day + 4) / 7

theorem weekday_index (d : Date) : (d.weekday.index.val : Int) = (d.day + 4) % 7 := by
  simp only [weekday, Weekday.index_ofIndex]
  omega

theorem day_eq_week (d : Date) : d.day + 4 = 7 * d.week + d.weekday.index.val := by
  rw [weekday_index, week]
  omega

end Date

namespace WeekdaySet

variable {s : WeekdaySet} {d e : Weekday} {p : Weekday → Bool}

theorem toList_sorted (s : WeekdaySet) : s.toList.Pairwise fun d e => d.index < e.index :=
  List.Pairwise.filter _ (by decide)

/-- A search finds the first day of the week that it is looking for. -/
theorem find?_toList (h : s.toList.find? p = some d) :
    s.contains d = true ∧ p d = true ∧
      ∀ e, s.contains e = true → p e = true → d.index ≤ e.index := by
  have hmem := mem_toList.1 (List.mem_of_find?_eq_some h)
  obtain ⟨hp, before, after, hlist, hbefore⟩ := List.find?_eq_some_iff_append.1 h
  refine ⟨hmem, hp, fun e he hpe => ?_⟩
  have hsorted := s.toList_sorted
  have hin := mem_toList.2 he
  rw [hlist] at hsorted hin
  rcases List.mem_append.1 hin with hearly | hlate
  · have hnot := hbefore e hearly
    rw [hpe] at hnot
    cases hnot
  · rcases List.mem_cons.1 hlate with rfl | hlate
    · exact Nat.le_refl _
    · obtain ⟨-, hafter, -⟩ := List.pairwise_append.1 hsorted
      exact Nat.le_of_lt ((List.pairwise_cons.1 hafter).1 e hlate)

theorem exists_contains (h : s.isEmpty = false) : ∃ d, s.contains d = true := by
  by_contra hnone
  have hempty : s = empty := by
    refine ext_contains fun d => ?_
    rw [contains_empty]
    exact Bool.eq_false_iff.2 fun hd => hnone ⟨d, hd⟩
  rw [hempty] at h
  cases h

theorem not_contains_of_isEmpty (h : s.isEmpty = true) (d : Weekday) : s.contains d = false := by
  have hempty : s = empty := by
    cases s
    simp only [isEmpty, decide_eq_true_eq] at h
    rw [h, empty]
  rw [hempty, contains_empty]

end WeekdaySet

/-- The first listed weekday on or after a day. -/
structure Date.FirstListed (weekdays : WeekdaySet) (d a : Date) : Prop where
  le : d.day ≤ a.day
  listed : weekdays.contains a.weekday = true
  least : ∀ e : Date, d.day ≤ e.day → weekdays.contains e.weekday = true → a.day ≤ e.day

theorem Date.FirstListed.unique {weekdays : WeekdaySet} {d a b : Date}
    (ha : FirstListed weekdays d a) (hb : FirstListed weekdays d b) : a = b :=
  Date.eq_of_day (Int.le_antisymm (ha.least b hb.le hb.listed) (hb.least a ha.le ha.listed))

namespace Cadence

variable {c : Cadence} {zone : Zone} {clock : LocalTime} {duration stop : Int} {cycle n : Nat}
  {weekdays : WeekdaySet} {d e a first : Date}

/-! ## The days of a rule -/

/-- Whether a rule picks a day, when it is applied from the day `first` on. -/
def Picks (c : Cadence) (first e : Date) : Prop :=
  match c with
  | daily cycle => ∃ k : Nat, e.day = first.day + k * cycle
  | weekly cycle weekdays =>
    weekdays.contains e.weekday = true ∧ ∃ a, Date.FirstListed weekdays first a ∧ a.day ≤ e.day ∧
      ∃ k : Nat, e.week = a.week + k * cycle

/-- Rules that are for no day: those with a cycle of zero, and weekly ones without weekdays. -/
def Void (c : Cadence) : Prop :=
  match c with
  | daily cycle => cycle = 0
  | weekly cycle weekdays => cycle = 0 ∨ weekdays.isEmpty = true

theorem cycle_ne_zero (hc : ¬ c.Void) : c.cycle ≠ 0 := by
  cases c with
  | daily cycle => exact hc
  | weekly cycle weekdays => exact fun hcycle => hc (.inl hcycle)

/-- A rule picks a day again `n` days after `d`, and none in between. -/
structure NextIn (c : Cadence) (first d : Date) (n : Nat) : Prop where
  pos : 0 < n
  picked : ∀ e : Date, e.day = d.day + n → c.Picks first e
  none_between : ∀ e : Date, c.Picks first e → d.day < e.day → d.day + n ≤ e.day

theorem Picks.le (h : c.Picks first e) : first.day ≤ e.day := by
  cases c with
  | daily cycle =>
    obtain ⟨k, hk⟩ := h
    have hpos : 0 ≤ (k : Int) * cycle :=
      Int.mul_nonneg (Int.natCast_nonneg k) (Int.natCast_nonneg cycle)
    omega
  | weekly cycle weekdays =>
    obtain ⟨-, a, ha, hle, -⟩ := h
    exact Int.le_trans ha.le hle

/-- A multiple that is greater than another is greater by the factor at least. -/
theorem add_le_of_mul_lt {j k : Nat} (cycle : Nat) (h : (j : Int) * cycle < k * cycle) :
    (j : Int) * cycle + cycle ≤ k * cycle := by
  have hlt : j < k := Nat.lt_of_mul_lt_mul_right (a := cycle) (by exact_mod_cast h)
  have hle : (j + 1) * cycle ≤ k * cycle := Nat.mul_le_mul_right cycle hlt
  rw [Nat.succ_mul] at hle
  exact_mod_cast hle

theorem daily_nextIn (hcycle : cycle ≠ 0) (h : (daily cycle).Picks first d) :
    (daily cycle).NextIn first d ((daily cycle).daysToNext d) := by
  obtain ⟨j, hj⟩ := h
  refine ⟨Nat.pos_of_ne_zero hcycle, fun e he => ⟨j + 1, ?_⟩, ?_⟩
  · rw [he, hj, daysToNext, Int.natCast_succ, Int.add_mul, Int.one_mul, Int.add_assoc]
  · rintro e ⟨k, hk⟩ hlt
    have hstep := add_le_of_mul_lt (j := j) (k := k) cycle (by omega)
    rw [daysToNext]
    omega

/-- The way from a listed weekday: later in the week, if one is listed there, and else to the first
of the set, in the week that comes a cycle after. -/
theorem daysToNextWeekday_cases {today : Weekday} (h : weekdays.contains today = true)
    (cycle : Nat) :
    (∃ next : Weekday, today.index < next.index ∧
        (∀ e, weekdays.contains e = true → today.index < e.index → next.index ≤ e.index) ∧
        daysToNextWeekday cycle weekdays today = next.index - today.index) ∨
      (∀ e, weekdays.contains e = true → e.index ≤ today.index) ∧
        ∃ next : Weekday, (∀ e, weekdays.contains e = true → next.index ≤ e.index) ∧
          daysToNextWeekday cycle weekdays today =
            7 - today.index + next.index + 7 * (cycle - 1) := by
  unfold daysToNextWeekday
  split
  · rename_i next hfound
    obtain ⟨-, hlater, hleast⟩ := WeekdaySet.find?_toList hfound
    refine .inl ⟨next, by simpa using hlater, fun e he hlt => hleast e he (by simpa using hlt), rfl⟩
  · rename_i hnone
    refine .inr ⟨fun e he => ?_, ?_⟩
    · have hnot := List.find?_eq_none.1 hnone e (WeekdaySet.mem_toList.2 he)
      simpa using hnot
    · have hsorted := weekdays.toList_sorted
      have hmem := WeekdaySet.mem_toList.2 h
      obtain ⟨next, rest, hlist⟩ := List.exists_cons_of_ne_nil (List.ne_nil_of_mem hmem)
      refine ⟨next, fun e he => ?_, by rw [hlist, List.headD_cons]⟩
      have hin := WeekdaySet.mem_toList.2 he
      rw [hlist] at hsorted hin
      rcases List.mem_cons.1 hin with rfl | hin
      · exact Nat.le_refl _
      · exact Nat.le_of_lt ((List.pairwise_cons.1 hsorted).1 e hin)

theorem daysToNextWeekday_pos {today : Weekday} (h : weekdays.contains today = true)
    (cycle : Nat) : 0 < daysToNextWeekday cycle weekdays today := by
  have htoday := today.index.isLt
  rcases daysToNextWeekday_cases h cycle with ⟨next, hlater, -, hlen⟩ | ⟨-, next, -, hlen⟩ <;> omega

/-- The step from a picked day leads to a picked day, in the same week or a cycle later. -/
theorem weekly_picks_next (hcycle : cycle ≠ 0) (hd : (weekly cycle weekdays).Picks first d)
    (he : e.day = d.day + daysToNextWeekday cycle weekdays d.weekday) :
    (weekly cycle weekdays).Picks first e := by
  obtain ⟨hlisted, a, ha, hle, j, hj⟩ := hd
  have hlands : weekdays.contains e.weekday = true := by
    rw [Date.weekday_add (Date.ofDay?_eq_some.2 he)]
    exact contains_daysToNextWeekday hlisted cycle
  refine ⟨hlands, a, ha, by omega, ?_⟩
  have hdweek := d.day_eq_week
  have heweek := e.day_eq_week
  have hdindex := d.weekday.index.isLt
  have heindex := e.weekday.index.isLt
  rcases daysToNextWeekday_cases hlisted cycle with ⟨next, hlater, -, hlen⟩ | ⟨-, next, -, hlen⟩
  · exact ⟨j, by omega⟩
  · refine ⟨j + 1, ?_⟩
    rw [Int.natCast_succ, Int.add_mul, Int.one_mul]
    omega

/-- A picked day that is later than another is not passed by the step from there. -/
theorem weekly_none_between (hd : (weekly cycle weekdays).Picks first d)
    (he : (weekly cycle weekdays).Picks first e) (hlt : d.day < e.day) :
    d.day + daysToNextWeekday cycle weekdays d.weekday ≤ e.day := by
  obtain ⟨hdlisted, a, ha, -, j, hj⟩ := hd
  obtain ⟨helisted, a', ha', -, k, hk⟩ := he
  obtain rfl := ha'.unique ha
  have hdweek := d.day_eq_week
  have heweek := e.day_eq_week
  have hdindex := d.weekday.index.isLt
  have heindex := e.weekday.index.isLt
  rcases daysToNextWeekday_cases hdlisted cycle with
    ⟨next, -, hleast, hlen⟩ | ⟨hlast, next, hleast, hlen⟩
  · by_cases hsame : e.week = d.week
    · have hnext := hleast _ helisted (by omega)
      omega
    · omega
  · -- no weekday is left in this week, so the day is in a later one
    have hbound := hlast _ helisted
    have hnext := hleast _ helisted
    have hstep := add_le_of_mul_lt (j := j) (k := k) cycle (by omega)
    omega

theorem weekly_nextIn (hcycle : cycle ≠ 0) (h : (weekly cycle weekdays).Picks first d) :
    (weekly cycle weekdays).NextIn first d ((weekly cycle weekdays).daysToNext d) where
  pos := daysToNextWeekday_pos h.1 cycle
  picked _ he := weekly_picks_next hcycle h he
  none_between _ he hlt := weekly_none_between h he hlt

/-- **One step leads to the next day that the rule picks.** -/
theorem nextIn (hc : ¬ c.Void) (h : c.Picks first d) : c.NextIn first d (c.daysToNext d) := by
  cases c with
  | daily cycle => exact daily_nextIn hc h
  | weekly cycle weekdays => exact weekly_nextIn (cycle_ne_zero hc) h

/-! ## The first day -/

/-- A week from any day on has a listed weekday. -/
theorem exists_listed (hweekdays : weekdays.isEmpty = false) (d : Date) :
    ∃ n < 7, weekdays.contains (d.weekday.later n) = true := by
  obtain ⟨w, hw⟩ := WeekdaySet.exists_contains hweekdays
  have hd := d.weekday.index.isLt
  have hindex := w.index.isLt
  refine ⟨(w.index + 7 - d.weekday.index) % 7, Nat.mod_lt _ (by decide), ?_⟩
  rwa [Weekday.later_eq (d := d.weekday) (e := w) (by omega)]

/-- The listed weekdays that are found from a day on, with those that are not. -/
theorem firstListed_of_find? {n : Nat}
    (hfound : (List.range 7).find? (fun n => weekdays.contains (d.weekday.later n)) = some n) :
    (∀ e : Date, d.day ≤ e.day → weekdays.contains e.weekday = true → d.day + n ≤ e.day) ∧
      ∀ a, d.add? n = some a → Date.FirstListed weekdays d a := by
  obtain ⟨hn, -, hearlier⟩ := List.find?_range_eq_some.1 hfound
  have hleast : ∀ e : Date, d.day ≤ e.day → weekdays.contains e.weekday = true →
      d.day + n ≤ e.day := by
    intro e hle he
    by_contra hlt
    obtain ⟨m, hm⟩ := Int.le.dest hle
    have hnot := hearlier m (by omega)
    rw [← Date.weekday_add (Date.ofDay?_eq_some.2 hm.symm), he] at hnot
    cases hnot
  refine ⟨hleast, fun a ha => ?_⟩
  have hday : a.day = d.day + n := Date.ofDay?_eq_some.1 ha
  refine ⟨by omega, ?_, fun e hle he => ?_⟩
  · rw [Date.weekday_add ha]
    exact hn
  · rw [hday]
    exact hleast e hle he

theorem weekly_firstDay?_eq (hc : ¬ (weekly cycle weekdays).Void) :
    (weekly cycle weekdays).firstDay? d =
      ((List.range 7).find? fun n => weekdays.contains (d.weekday.later n)).bind d.add? := by
  rw [firstDay?, if_neg (cycle_ne_zero hc)]
  rfl

theorem daily_firstDay?_eq (hc : ¬ (daily cycle).Void) : (daily cycle).firstDay? d = some d := by
  rw [firstDay?, if_neg (cycle_ne_zero hc)]

/-- The first day is picked. -/
theorem picks_firstDay? (hc : ¬ c.Void) (h : c.firstDay? d = some a) : c.Picks d a := by
  cases c with
  | daily cycle =>
    rw [daily_firstDay? h]
    exact ⟨0, by simp⟩
  | weekly cycle weekdays =>
    rw [weekly_firstDay?_eq hc] at h
    obtain ⟨n, hfound, hadd⟩ := Option.bind_eq_some_iff.1 h
    have ha := (firstListed_of_find? hfound).2 a hadd
    exact ⟨ha.listed, a, ha, Int.le_refl _, 0, by simp⟩

/-- No day before it is picked. -/
theorem firstDay?_le (hc : ¬ c.Void) (h : c.firstDay? d = some a) (he : c.Picks d e) :
    a.day ≤ e.day := by
  cases c with
  | daily cycle =>
    rw [daily_firstDay? h]
    exact he.le
  | weekly cycle weekdays =>
    rw [weekly_firstDay?_eq hc] at h
    obtain ⟨n, hfound, hadd⟩ := Option.bind_eq_some_iff.1 h
    exact ((firstListed_of_find? hfound).2 a hadd).least e he.le he.1

/-- Without a first day no day is picked. -/
theorem not_picks_of_firstDay? (hc : ¬ c.Void) (h : c.firstDay? d = none) : ¬ c.Picks d e := by
  intro he
  cases c with
  | daily cycle =>
    rw [daily_firstDay?_eq hc] at h
    cases h
  | weekly cycle weekdays =>
    rw [weekly_firstDay?_eq hc] at h
    cases hfound : (List.range 7).find? fun n => weekdays.contains (d.weekday.later n) with
    | none =>
      obtain ⟨n, hn, hlisted⟩ := exists_listed
        (Bool.eq_false_iff.2 fun hempty => hc (.inr hempty)) d
      have hnot := List.find?_range_eq_none.1 hfound n hn
      rw [hlisted] at hnot
      cases hnot
    | some n =>
      -- the calendar ends before the first listed weekday
      rw [hfound, Option.bind_some] at h
      have hle := (firstListed_of_find? hfound).1 e he.le he.1
      exact Date.add?_ne_none hle h

/-! ## All days -/

/-- The days of a kind in ascending order, up to and not including the first one that is too late. -/
structure DaysUntil (P InTime : Date → Prop) (days : List Date) : Prop where
  increasing : days.Pairwise fun d e => d.day < e.day
  mem_iff : ∀ e, e ∈ days ↔ P e ∧ ∀ d, P d → d.day ≤ e.day → InTime d

variable {P InTime InTime' : Date → Prop} {days : List Date}

theorem DaysUntil.of_none (h : ∀ e, ¬ P e) : DaysUntil P InTime [] where
  increasing := .nil
  mem_iff e := ⟨fun he => absurd he List.not_mem_nil, fun he => absurd he.1 (h e)⟩

theorem DaysUntil.nil (hd : P d) (hfirst : ∀ e, P e → d.day ≤ e.day) (hlate : ¬ InTime d) :
    DaysUntil P InTime [] where
  increasing := .nil
  mem_iff e := by
    constructor
    · rintro ⟨⟩
    · rintro ⟨he, hbefore⟩
      exact absurd (hbefore d hd (hfirst e he)) hlate

/-- A first day that is not too late is followed by the days of the kind that are after it. -/
theorem DaysUntil.cons (hd : P d) (hfirst : ∀ e, P e → d.day ≤ e.day) (htime : InTime d)
    (hdays : DaysUntil (fun e => P e ∧ d.day < e.day) InTime days) :
    DaysUntil P InTime (d :: days) where
  increasing := List.pairwise_cons.2 ⟨fun e he => ((hdays.mem_iff e).1 he).1.2, hdays.increasing⟩
  mem_iff e := by
    have hsplit : ∀ x, P x → x = d ∨ d.day < x.day := fun x hx => by
      rcases Int.lt_or_eq_of_le (hfirst x hx) with hlt | heq
      · exact .inr hlt
      · exact .inl (Date.eq_of_day heq.symm)
    rw [List.mem_cons, hdays.mem_iff]
    constructor
    · rintro (rfl | ⟨⟨he, hlt⟩, hbefore⟩)
      · refine ⟨hd, fun x hx hle => ?_⟩
        rcases hsplit x hx with rfl | hlt
        · exact htime
        · omega
      · refine ⟨he, fun x hx hle => ?_⟩
        rcases hsplit x hx with rfl | hlt
        · exact htime
        · exact hbefore x ⟨hx, hlt⟩ hle
    · rintro ⟨he, hbefore⟩
      rcases hsplit e he with rfl | hlt
      · exact .inl rfl
      · exact .inr ⟨⟨he, hlt⟩, fun x hx hle => hbefore x hx.1 hle⟩

/-- Two ways to be in time that agree on each day with none too late before it give the same
days. -/
theorem DaysUntil.congr (hdays : DaysUntil P InTime days)
    (h : ∀ d, P d → (∀ e, P e → e.day < d.day → InTime' e) → (InTime d ↔ InTime' d)) :
    DaysUntil P InTime' days where
  increasing := hdays.increasing
  mem_iff e := by
    rw [hdays.mem_iff]
    refine and_congr_right fun _ => ⟨fun hall d hd hle => ?_, fun hall d hd hle => ?_⟩
    · -- by induction on the days before `d`
      induction hleft : (d.day - Date.first.day).toNat using Nat.strong_induction_on
        generalizing d with
      | h left ih =>
        refine (h d hd fun x hx hlt => ?_).1 (hall d hd hle)
        have hfirst : Date.first.day ≤ x.day := x.first_le
        exact ih _ (by omega) x hx (by omega) rfl
    · exact (h d hd fun x hx hlt => hall x hx (by omega)).2 (hall d hd hle)

/-- Whatever the limit on their number, the instances from a day on are the first of these spans. -/
def Yields (c : Cadence) (zone : Zone) (clock : LocalTime) (duration stop : Int) (day : Option Date)
    (spans : List Span) : Prop :=
  ∀ limit, c.occurrencesFrom zone clock duration stop limit day = spans.take limit

theorem yields_none : c.Yields zone clock duration stop none [] := by
  intro limit
  cases limit <;> rfl

theorem yields_stopped (h : stop ≤ zone.resolve (clock.onDate d) ∨ duration ≤ 0) :
    c.Yields zone clock duration stop (some d) [] := by
  intro limit
  cases limit with
  | zero => rfl
  | succ limit => rw [occurrencesFrom, if_pos h, List.take_nil]

theorem Yields.cons {spans : List Span} (hstart : zone.resolve (clock.onDate d) < stop)
    (hduration : 0 < duration)
    (h : c.Yields zone clock duration stop (d.add? (c.daysToNext d)) spans) :
    c.Yields zone clock duration stop (some d)
      (⟨zone.resolve (clock.onDate d), Word.add (zone.resolve (clock.onDate d)) duration⟩ ::
        spans) := by
  intro limit
  cases limit with
  | zero => rfl
  | succ limit => rw [occurrencesFrom, if_neg (by omega), h limit, List.take_succ_cons]

/-- The picked days after a day are those from the day on that its step leads to. -/
theorem NextIn.after_iff {n : Nat} {next : Date} (h : c.NextIn first d n)
    (hnext : next.day = d.day + n) :
    (c.Picks first e ∧ d.day ≤ e.day) ∧ d.day < e.day ↔ c.Picks first e ∧ next.day ≤ e.day := by
  have hpos := h.pos
  constructor
  · rintro ⟨⟨he, -⟩, hlt⟩
    have hbetween := h.none_between e he hlt
    exact ⟨he, by omega⟩
  · rintro ⟨he, hle⟩
    exact ⟨⟨he, by omega⟩, by omega⟩

/-- **The steps lead through all days that the rule picks**, from one of them on. -/
theorem exists_days_from (zone : Zone) (clock : LocalTime) (stop : Int) (hc : ¬ c.Void)
    (hduration : 0 < duration) (hd : c.Picks first d) :
    ∃ days, DaysUntil (fun e => c.Picks first e ∧ d.day ≤ e.day)
        (fun e => zone.resolve (clock.onDate e) < stop) days ∧
      c.Yields zone clock duration stop (some d)
        (days.map fun e => ⟨zone.resolve (clock.onDate e),
          Word.add (zone.resolve (clock.onDate e)) duration⟩) := by
  induction hleft : (Date.last.day - d.day).toNat using Nat.strong_induction_on generalizing d with
  | h left ih =>
    have hpicked : c.Picks first d ∧ d.day ≤ d.day := ⟨hd, Int.le_refl _⟩
    have hfirst : ∀ e, c.Picks first e ∧ d.day ≤ e.day → d.day ≤ e.day := fun _ he => he.2
    rcases Int.lt_or_le (zone.resolve (clock.onDate d)) stop with hstart | hstop
    · have hnext := nextIn hc hd
      have hpos := hnext.pos
      cases hadd : d.add? (c.daysToNext d) with
      | some next =>
        have hday : next.day = d.day + c.daysToNext d := Date.ofDay?_eq_some.1 hadd
        have hlast := next.le_last
        obtain ⟨days, hdays, hspans⟩ := ih _ (by simp only [Date.last] at hleft ⊢; omega)
          (hnext.picked next hday) rfl
        simp only [← hnext.after_iff hday] at hdays
        rw [← hadd] at hspans
        exact ⟨d :: days, .cons hpicked hfirst hstart hdays, hspans.cons hstart hduration⟩
      | none =>
        have hend : ∀ e, ¬ ((c.Picks first e ∧ d.day ≤ e.day) ∧ d.day < e.day) := by
          rintro e ⟨⟨he, -⟩, hlt⟩
          exact Date.add?_ne_none (hnext.none_between e he hlt) hadd
        have hspans : c.Yields zone clock duration stop (d.add? (c.daysToNext d)) [] := by
          rw [hadd]
          exact yields_none
        exact ⟨[d], .cons hpicked hfirst hstart (.of_none hend), hspans.cons hstart hduration⟩
    · exact ⟨[], .nil hpicked hfirst (Int.not_lt.2 hstop), yields_stopped (.inl hstop)⟩

/-! ## Rules for no day -/

theorem firstDay?_of_void (h : c.Void) : c.firstDay? d = none := by
  cases c with
  | daily cycle => exact if_pos h
  | weekly cycle weekdays =>
    rcases h with hcycle | hempty
    · exact if_pos hcycle
    · rw [firstDay?]
      split
      · rfl
      · rw [List.find?_range_eq_none.2 fun n _ => ?_, Option.bind_none]
        rw [WeekdaySet.not_contains_of_isEmpty hempty, Bool.not_false]

/-- A rule for no day, or a first instance that takes no time, makes no instances. -/
theorem occurrences_eq_nil {span : Span} (h : c.Void ∨ span.duration ≤ 0) (limit : Nat) :
    c.occurrences zone span stop limit = [] := by
  rw [← List.take_nil (α := Span) (i := limit)]
  rcases h with hvoid | hduration
  · rw [occurrences, firstDay?_of_void hvoid]
    exact yields_none limit
  · rw [occurrences]
    cases c.firstDay? (zone.localTime span.start).date with
    | none => exact yields_none limit
    | some day => exact yields_stopped (.inr hduration) limit

end Cadence

/-! ## The instances of a series -/

namespace Series

variable {s : Series} {zone : Zone} {days : List Date}

/-- The days of the rule of a series, which is applied from the first date on. -/
def Picks (s : Series) (zone : Zone) (day : Date) : Prop :=
  s.cadence.Picks (zone.localTime s.first.start).date day

/-- When the instance of a series on a day starts: at the time of day of the first start. -/
def startOn (s : Series) (zone : Zone) (day : Date) : Int :=
  zone.resolve ((zone.localTime s.first.start).onDate day)

/-- The instance of a series on a day. -/
def spanOn (s : Series) (zone : Zone) (day : Date) : Span :=
  ⟨s.startOn zone day, Word.add (s.startOn zone day) s.first.duration⟩

theorem exists_days (zone : Zone) (hc : ¬ s.cadence.Void) (hduration : 0 < s.first.duration) :
    ∃ days, Cadence.DaysUntil (s.Picks zone) (fun day => s.startOn zone day < s.stop) days ∧
      ∀ limit, s.occurrences zone limit = (days.map (s.spanOn zone)).take limit := by
  cases hfirst : s.cadence.firstDay? (zone.localTime s.first.start).date with
  | none =>
    refine ⟨[], .of_none fun e => Cadence.not_picks_of_firstDay? hc hfirst, fun limit => ?_⟩
    rw [occurrences, Cadence.occurrences, hfirst]
    exact Cadence.yields_none limit
  | some day =>
    obtain ⟨days, hdays, hspans⟩ := Cadence.exists_days_from zone
      (zone.localTime s.first.start) s.stop hc hduration (Cadence.picks_firstDay? hc hfirst)
    have hall : (fun e => s.cadence.Picks (zone.localTime s.first.start).date e ∧
        day.day ≤ e.day) = s.Picks zone := by
      funext e
      exact propext ⟨And.left, fun he => ⟨he, Cadence.firstDay?_le hc hfirst he⟩⟩
    rw [hall] at hdays
    refine ⟨days, hdays, fun limit => ?_⟩
    rw [occurrences, Cadence.occurrences, hfirst]
    exact hspans limit

/-- The start of the instance on a day, if the calendar reaches it. -/
def startOn? (s : Series) (zone : Zone) (day : Date) : Option Int :=
  zone.resolve? ((zone.localTime s.first.start).onDate day)

/-- The instance on a day, if the calendar reaches its start. -/
def spanOn? (s : Series) (zone : Zone) (day : Date) : Option Span :=
  (s.startOn? zone day).map fun start => ⟨start, Word.add start s.first.duration⟩

/-- The instance on a day starts before the series is over. -/
def InTime (s : Series) (zone : Zone) (day : Date) : Prop :=
  ∃ start, s.startOn? zone day = some start ∧ start < s.stop

/-- The days on which a series has an instance: those that its rule picks, until an instance would
start when the series is over. -/
def FallsOn (s : Series) (zone : Zone) (days : List Date) : Prop :=
  Cadence.DaysUntil (s.Picks zone) (s.InTime zone) days

/-- The calendar does not end while the series is laid out: it reaches the first time of day, and
the start on each day that the rule picks up to the first one that is too late. -/
structure OnCalendar (s : Series) (zone : Zone) : Prop where
  shown : zone.Shows s.first.start
  starts : ¬ s.cadence.Void → ∀ day, s.Picks zone day →
    (∀ e, s.Picks zone e → e.day < day.day → s.InTime zone e) →
    ∃ start, s.startOn? zone day = some start

theorem inTime_iff {day : Date} {start : Int} (h : s.startOn? zone day = some start) :
    s.startOn zone day < s.stop ↔ s.InTime zone day := by
  have hstart : s.startOn zone day = start := Zone.resolve_of_resolve? h
  simp only [InTime, h, Option.some.injEq, exists_eq_left', hstart]

theorem map_spanOn? (h : s.FallsOn zone days) :
    days.map (s.spanOn? zone) = (days.map (s.spanOn zone)).map some := by
  rw [List.map_map]
  refine List.map_congr_left fun day hday => ?_
  obtain ⟨hpicked, htime⟩ := (h.mem_iff day).1 hday
  obtain ⟨start, hstart, -⟩ := htime day hpicked (Int.le_refl _)
  rw [spanOn?, hstart, Option.map_some, Function.comp_apply, spanOn, startOn,
    Zone.resolve_of_resolve? hstart]

/-- The calendar goes on while a series is laid out that starts two days or more after the beginning
of it, if the rule picks a day two days or more before the end of it that is too late. -/
theorem OnCalendar.of_late {late : Date} (hshown : zone.Shows s.first.start)
    (hfirst : Date.first.day + 2 ≤ (zone.localTime s.first.start).date.day)
    (hlast : late.day + 2 ≤ Date.last.day) (hlate : s.Picks zone late)
    (hstop : s.stop ≤ s.startOn zone late) : s.OnCalendar zone where
  shown := hshown
  starts _ day hday hbefore := by
    have hfrom := Cadence.Picks.le hday
    have hto : day.day ≤ late.day := by
      by_contra hlater
      obtain ⟨start, hstart, hearly⟩ := hbefore late hlate (Int.not_le.1 hlater)
      have hattached := (inTime_iff hstart).2 ⟨start, hstart, hearly⟩
      omega
    refine ⟨_, Zone.resolve?_eq_some ?_ ?_⟩
    · exact Int.le_trans hfirst hfrom
    · exact Int.le_trans (Int.add_le_add_right hto 2) hlast

end Series

namespace Sample

/-- Mondays and Wednesdays of every other week, from 9 to 10 on Tuesday 2026-03-24 on, for a month
in which the clocks are changed. -/
def fortnightly : Series where
  id := .ofNat 1
  owner := .ofNat 2
  space := .ofNat 4
  subject := ""
  cadence := .weekly 2 (.ofList [.monday, .wednesday])
  first := ⟨1774339200000, 1774342800000⟩
  stop := 1776841200000

end Sample

end SpaceBooking
