import SpaceBooking.Proofs.Runs

/-!
# Dry runs

Trying a series out keeps in memory the spans that it accepted, where booking the series stores
them. The two see the same obstacles: what is pending counts for the rules as if it were stored, and
holds its slots.

* `Ahead` — a store holds, beyond another, bookings on exactly the pending spans.
* `Ahead.instanceObstacle?_eq` — both stores turn an instance down for the same reason.
* `precheckSeries_predicts` — a dry run reports what booking the series would report.
-/

namespace SpaceBooking

open SpaceBooking.Action

namespace Service

variable {c : Conditions} {s s' t : Store} {actor : User} {plan : SeriesPlan} {pending : List Span}
  {span : Span}

/-- A slot on which nothing stands in the way is free. -/
theorem holdersAt_of_instanceObstacle? (h : instanceObstacle? c s actor plan pending span = none) :
    holdersAt s plan.ctx.space.id span none = [] := by
  have hobstacle := (Option.or_eq_none_iff.1 h).2
  unfold obstacle? at hobstacle
  simp only at hobstacle
  split at hobstacle
  · cases hobstacle
  · split at hobstacle
    · cases hobstacle
    · assumption

/-! ## Stores and pending spans -/

/-- The store `t` holds what `s` holds, and bookings of a plan on the pending spans. -/
structure Ahead (plan : SeriesPlan) (s : Store) (pending : List Span) (t : Store) : Prop where
  ordered : t.Ordered
  setup : Store.SameSetup s t
  bookings : ∃ made, t.bookings.Perm (made ++ s.bookings) ∧ (made.map (·.span)).Perm pending ∧
    ∀ b ∈ made, b.owner = plan.owner ∧ b.space = plan.ctx.space.id

namespace Ahead

theorem start (ht : t.Ordered) (h : Store.SameSetup s t) (hb : t.bookings = s.bookings) :
    Ahead plan s [] t :=
  ⟨ht, h, [], by rw [hb]; exact .refl _, .refl _, by simp⟩

theorem insert (h : Ahead plan s pending t) {series : Series} {id : Id} {t' : Store}
    (hinsert : t.insertBooking (plan.booking series id span) = .ok t') :
    Ahead plan s (pending ++ [span]) t' := by
  have hx := Store.insertBooking_exchange h.ordered hinsert
  obtain ⟨made, hperm, hspans, hmade⟩ := h.bookings
  obtain ⟨rest, hrest, hrest'⟩ := hx.bookings
  refine ⟨hx.ordered h.ordered, h.setup.trans hx.setup,
    plan.booking series id span :: made, ?_, ?_, ?_⟩
  · exact hrest'.trans ((hrest.symm.trans hperm).cons _)
  · exact (hspans.cons span).trans (List.perm_append_singleton span pending).symm
  · intro b hb
    rcases List.mem_cons.1 hb with rfl | hb
    · exact ⟨rfl, rfl⟩
    · exact hmade b hb

variable (h : Ahead plan s pending t)

include h

/-- A count over the bookings of `t` goes over those of `s` and the pending spans. -/
theorem countP_eq {p : Booking → Bool} {q : Span → Bool}
    (hpq : ∀ b, b.owner = plan.owner → b.space = plan.ctx.space.id → p b = q b.span) :
    t.bookings.countP p = s.bookings.countP p + pending.countP q := by
  obtain ⟨made, hperm, hspans, hmade⟩ := h.bookings
  have hcount : made.countP p = pending.countP q := by
    rw [← hspans.countP_eq, List.countP_map]
    refine List.countP_congr fun b hb => ?_
    rw [hpq b (hmade b hb).1 (hmade b hb).2]
    rfl
  rw [hperm.countP_eq, List.countP_append, hcount, Nat.add_comm]

variable (hs : s.Ordered)

include hs

theorem countOverlapping_eq (span : Span) :
    t.countOverlapping plan.owner span none =
      s.countOverlapping plan.owner span none + pending.countP (·.overlaps span) := by
  rw [h.ordered.countOverlapping_eq, hs.countOverlapping_eq]
  refine h.countP_eq fun b howner _ => ?_
  simp [howner]

omit hs in
theorem countUpcoming_eq (now : Int) :
    t.countUpcoming plan.owner now =
      s.countUpcoming plan.owner now + pending.countP (now < ·.stop) := by
  rw [Store.countUpcoming_eq, Store.countUpcoming_eq]
  refine h.countP_eq fun b howner _ => ?_
  simp [howner]

/-- The rules say the same. -/
theorem keepsRule_eq (rule : Rule) :
    keepsRule c t plan.ctx.policy plan.ctx.zone
        (candidateFor plan.ctx actor plan.owner span none [] c.now) rule =
      keepsRule c s plan.ctx.policy plan.ctx.zone
        (candidateFor plan.ctx actor plan.owner span none pending c.now) rule := by
  cases rule with
  | duration | advanceWindow | minDuration => rfl
  | userConcurrent =>
    simp only [keepsRule, candidateFor, h.countOverlapping_eq hs, List.countP_nil, Nat.add_zero]
  | upcomingCap =>
    simp only [keepsRule, candidateFor, h.countUpcoming_eq, List.countP_nil, Nat.add_zero]
  | allowedBooker =>
    simp only [keepsRule, candidateFor, Store.allowedBookersOf, Store.membershipsOf,
      h.setup.allowedBookers, h.setup.memberships]

theorem brokenRule?_eq :
    brokenRule? c t plan.ctx.policy plan.ctx.zone
        (candidateFor plan.ctx actor plan.owner span none [] c.now) =
      brokenRule? c s plan.ctx.policy plan.ctx.zone
        (candidateFor plan.ctx actor plan.owner span none pending c.now) := by
  unfold brokenRule?
  have happlies : plan.ctx.policy.applies
      (candidateFor plan.ctx actor plan.owner span none [] c.now) =
      plan.ctx.policy.applies
        (candidateFor plan.ctx actor plan.owner span none pending c.now) := rfl
  simp only [happlies, h.keepsRule_eq hs]

/-- The slot is free in `t` if it is free in `s` and of pending spans. -/
theorem holdersAt_eq_nil_iff (span : Span) :
    holdersAt t plan.ctx.space.id span none = [] ↔
      holdersAt s plan.ctx.space.id span none = [] ∧ pending.countP (·.overlaps span) = 0 := by
  have hcount := h.countP_eq (p := fun b => b.space = plan.ctx.space.id && b.span.overlaps span)
    (q := (·.overlaps span)) fun b _ hspace => by simp [hspace]
  have hnil : ∀ {r : Store}, r.Ordered → (holdersAt r plan.ctx.space.id span none = [] ↔
      r.bookings.countP (fun b => b.space = plan.ctx.space.id && b.span.overlaps span) = 0) := by
    intro r hr
    rw [List.countP_eq_zero, List.eq_nil_iff_forall_not_mem]
    refine forall_congr' fun b => ?_
    simp only [mem_holdersAt hr]
    simp
  rw [hnil h.ordered, hnil hs, hcount]
  omega

/-- On a slot without pending spans, the location is as full. -/
theorem fullAt_eq (hfree : pending.countP (·.overlaps span) = 0) (location : Location) :
    fullAt t location span none = fullAt s location span none := by
  unfold fullAt
  have hlocation : ∀ space, t.locationOf space = s.locationOf space := h.setup.ledgers
  have hcount : t.countInLocation location.id span none =
      s.countInLocation location.id span none := by
    rw [h.ordered.countInLocation_eq, hs.countInLocation_eq]
    simp only [hlocation]
    obtain ⟨made, hperm, hspans, -⟩ := h.bookings
    rw [hperm.countP_eq, List.countP_append]
    have hnone : made.countP (fun b => decide (s.locationOf b.space = some location.id) &&
        (b.span.overlaps span && decide (some b.id ≠ none))) = 0 := by
      rw [← hspans.countP_eq, List.countP_map, List.countP_eq_zero] at hfree
      rw [List.countP_eq_zero]
      intro b hb
      have := hfree b hb
      simp only [Function.comp_apply] at this
      simp [this]
    rw [hnone, Nat.zero_add]
  rw [hcount]

/-- **Both stores turn a span down for the same reason**, or neither does. -/
theorem obstacle?_eq (c : Conditions) (actor : User) (span : Span) :
    (obstacle? c t plan.ctx actor plan.owner span none []).map Failure.reason =
      (obstacle? c s plan.ctx actor plan.owner span none pending).map Failure.reason := by
  unfold obstacle?
  simp only [h.brokenRule?_eq hs]
  cases brokenRule? c s plan.ctx.policy plan.ctx.zone
    (candidateFor plan.ctx actor plan.owner span none pending c.now) with
  | some rule => rfl
  | none =>
    have hnil := h.holdersAt_eq_nil_iff hs span
    simp only [candidateFor, List.countP_nil]
    by_cases hfree : pending.countP (·.overlaps span) = 0
    · have hfull := h.fullAt_eq hs hfree plan.ctx.location
      cases hheld : holdersAt s plan.ctx.space.id span none with
      | nil =>
        rw [hnil.2 ⟨hheld, hfree⟩]
        simp only [hfree, hfull]
      | cons holder rest =>
        -- the first holder need not be the same, but the reason is
        cases hheld' : holdersAt t plan.ctx.space.id span none with
        | nil => simp [(hnil.1 hheld').1] at hheld
        | cons holder' rest' => rfl
    · cases hheld' : holdersAt t plan.ctx.space.id span none with
      | nil => exact absurd (hnil.1 hheld').2 hfree
      | cons holder' rest' =>
        cases holdersAt s plan.ctx.space.id span none with
        | nil =>
          simp only [ne_eq, hfree, not_false_eq_true, if_true]
          rfl
        | cons holder rest => rfl

/-- **Both stores turn an instance down for the same reason**, or neither does. -/
theorem instanceObstacle?_eq (c : Conditions) (actor : User) (span : Span) :
    (instanceObstacle? c t actor plan [] span).map Failure.reason =
      (instanceObstacle? c s actor plan pending span).map Failure.reason := by
  unfold instanceObstacle?
  cases Limits.spanFailure? span with
  | some failure => rfl
  | none => exact h.obstacle?_eq hs c actor span

omit hs in
/-- The store takes the booking of an instance with nothing in its way. -/
theorem insertBooking_ok (hspace : s.spaces.get? plan.ctx.space.id = some plan.ctx.space)
    (hfree : instanceObstacle? c t actor plan [] span = none) (series : Series) (id : Id) :
    ∃ t', t.insertBooking (plan.booking series id span) = .ok t' := by
  have hspace' : t.spaces.get? plan.ctx.space.id = some plan.ctx.space := by
    rw [h.setup.spaces, hspace]
  obtain ⟨l, hl⟩ := h.ordered.exists_ledger hspace'
  have hconflicts : t.findConflicts plan.ctx.space.id span none = [] := by
    rw [← holdersAt_eq h.ordered]
    exact holdersAt_of_instanceObstacle? hfree
  rw [Store.insertBooking_of_ledger (b := plan.booking series id span) hl]
  simp only [SeriesPlan.booking, hconflicts]
  exact ⟨_, rfl⟩

end Ahead

/-! ## Trying a series out -/

/-- What a dry run makes of the instances of a series, given the spans accepted before. -/
def tries (c : Conditions) (s : Store) (actor : User) (plan : SeriesPlan) :
    List Span → List Span → List Attempt
  | _, [] => []
  | pending, span :: spans =>
    match instanceObstacle? c s actor plan pending span with
    | some failure => ⟨span, .error failure⟩ :: tries c s actor plan pending spans
    | none => ⟨span, .ok none⟩ :: tries c s actor plan (pending ++ [span]) spans

theorem answer_tryInstances (pending spans : List Span) :
    (tryInstances actor plan pending spans).answer c s =
      .ok (tries c s actor plan pending spans) := by
  induction spans generalizing pending with
  | nil => rfl
  | cons span spans ih =>
    simp only [tryInstances, attemptInstance, answer_bind, answer_attempt, answer_count,
      answer_pure, answer_admitInstance, ih, Except.bind, tries]
    cases instanceObstacle? c s actor plan pending span with
    | some failure => rfl
    | none => rfl

/-! ## Both reports -/

end Service

/-- The report without the identifier of the booking, which a dry run cannot know. -/
def InstanceReport.withoutBooking (r : InstanceReport) : InstanceReport :=
  { r with booking := none }

/-- An attempt in a dry run is reported like another one. -/
def Attempt.Foretells (dry a : Attempt) : Prop :=
  ∀ i, dry.report i = (a.report i).withoutBooking

theorem Attempt.reports_of_foretells {dry as : List Attempt} (h : List.Forall₂ Foretells dry as) :
    reports dry = (reports as).map InstanceReport.withoutBooking := by
  refine List.ext_getElem ?_ fun i hi hi' => ?_
  · simp only [reports, List.length_mapIdx, List.length_map, h.length_eq]
  · simp only [reports, List.length_mapIdx, List.length_map] at hi hi'
    simp only [reports, List.getElem_mapIdx, List.getElem_map]
    exact h.get hi hi' i

theorem Attempt.foretells_of_reason {span : Span} {failure failure' : Failure}
    (h : failure'.reason = failure.reason) :
    Foretells ⟨span, .error failure⟩ ⟨span, .error failure'⟩ := by
  intro i
  simp only [report, accepted, booking?, InstanceReport.withoutBooking, Except.isOk, Except.toBool,
    Option.map_none, h]

namespace Service

variable {w w' : World} {series : Series} {as : List Attempt} {req : SeriesRequest}

/-- **A dry run foretells each attempt** to book an instance, if the store is in order. -/
theorem InstanceRun.foretold (h : InstanceRun c actor plan series w as w') (hc : c.Reliable)
    (hs : s.Ordered) (hspace : s.spaces.get? plan.ctx.space.id = some plan.ctx.space)
    (hahead : Ahead plan s pending w.store) :
    List.Forall₂ Attempt.Foretells (tries c s actor plan pending (as.map (·.span))) as := by
  induction h generalizing pending with
  | done w => exact .nil
  | @failed w v w' as span failure hv hwhy _ ih =>
    have hsame := hahead.instanceObstacle?_eq hs c actor span
    rw [hv.store] at ih
    rcases hwhy hc with hobstacle | ⟨hfree, e, hinsert⟩
    · rw [hobstacle, Option.map_some] at hsame
      obtain ⟨failure', hdry, hreason⟩ := Option.map_eq_some_iff.1 hsame.symm
      simp only [List.map_cons, tries, hdry]
      exact .cons (Attempt.foretells_of_reason hreason.symm) (ih hahead)
    · -- a slot on which nothing stands in the way is not refused by the store
      obtain ⟨t', ht'⟩ := hahead.insertBooking_ok hspace hfree series (c.mint w.minted)
      rw [ht'] at hinsert
      cases hinsert
  | @booked w v w' as t span hinsert hv hfree _ ih =>
    have hsame := hahead.instanceObstacle?_eq hs c actor span
    rw [hfree hc, Option.map_none] at hsame
    have hdry := Option.map_eq_none_iff.1 hsame.symm
    rw [hv.store] at ih
    simp only [List.map_cons, tries, hdry]
    exact .cons (fun i => rfl) (ih (hahead.insert hinsert))

theorem Attempted.foretold (h : Attempted c actor req w plan as w') (hc : c.Reliable)
    (hs : w.store.Ordered) :
    Attempt.reports (tries c w.store actor plan [] plan.spans) =
      (Attempt.reports as).map InstanceReport.withoutBooking := by
  obtain ⟨u, hplan⟩ := h.planned
  obtain ⟨-, hctx, -⟩ := planSeries_ok hplan
  have hspace := (contextAt_ok hctx).1
  rw [← hs.named hspace] at hspace
  obtain ⟨v, hv, hrun⟩ := h.run
  refine Attempt.reports_of_foretells (h.spans ▸ hrun.foretold hc hs hspace ?_)
  rw [hv.store]
  exact .start (hs.insertSeries _) ⟨rfl, rfl, rfl, rfl, rfl, rfl, rfl, fun _ => rfl⟩ rfl

theorem answer_precheckSeries (actor : User) (req : SeriesRequest) (c : Conditions) (s : Store) :
    (precheckSeries actor req).answer c s =
      ((planSeries actor req).answer c s).map fun plan =>
        Attempt.reports (tries c s actor plan [] plan.spans) := by
  simp only [precheckSeries, answer_bind, answer_tryInstances, answer_pure]
  cases (planSeries actor req).answer c s <;> rfl

/-- **A dry run of a series predicts what booking it reports**: they fail for the same reason, or
report the same about each instance except for the identifiers of bookings. Whatever calls fail, a
dry run changes and publishes nothing. -/
theorem precheckSeries_predicts (h : Reachable Step.Fresh w) :
    (∀ c actor req, c.Reliable → (precheckSeries actor req c w).1 =
      (bookSeries actor req c w).1.map fun r => r.instances.map InstanceReport.withoutBooking) ∧
    ∀ c actor req, (precheckSeries actor req c w).2.store = w.store ∧
      (precheckSeries actor req c w).2.published = w.published := by
  have hs := h.consistent.toOrdered
  constructor
  · intro c actor req hc
    obtain ⟨v, -, hdry⟩ := Reads.of_reliable (x := precheckSeries actor req) hc w
    rw [hdry, answer_precheckSeries]
    rcases hrun : bookSeries actor req c w with ⟨o, w'⟩
    cases bookSeries_run hrun with
    | failed failure _ hwhy =>
      obtain ⟨u, hfailed⟩ := hwhy hc
      rw [Reads.answer_of_run hc hfailed]
      rfl
    | stuck failure _ _ _ hdown => exact absurd hc hdown.not_reliable
    | dropped hattempted _ _ _ | kept hattempted _ _ =>
      obtain ⟨u, hplanned⟩ := hattempted.planned
      rw [Reads.answer_of_run hc hplanned]
      exact congrArg Except.ok (hattempted.foretold hc hs)
  · intro c actor req
    have hw := Reads.unchanged (r := .reliable) (x := precheckSeries actor req) c w
    exact ⟨hw.store, hw.published⟩

/-- A daily booking of the desk whose first instance is on a slot that is taken. -/
theorem precheckSeries_predicts_desk :
    Reachable Step.Fresh Sample.world ∧ Sample.conditions.Reliable ∧
    (precheckSeries Sample.admin Sample.daily Sample.conditions Sample.world).1.toOption.map
      (·.map (·.success)) = some [false, true, true] ∧
    (precheckSeries Sample.admin Sample.daily Sample.conditions Sample.world).1 =
      (bookSeries Sample.admin Sample.daily Sample.conditions Sample.world).1.map fun r =>
        r.instances.map InstanceReport.withoutBooking := by
  refine ⟨Sample.reachable_fresh, Sample.reliable, by decide +kernel, ?_⟩
  exact (precheckSeries_predicts Sample.reachable_fresh).1 _ _ _ Sample.reliable

end Service

end SpaceBooking
