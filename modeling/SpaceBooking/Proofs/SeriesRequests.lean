import SpaceBooking.Proofs.Changes
import SpaceBooking.Proofs.Requests

/-!
# What requests for series do

The instances of a series are booked one after the other, and each either fails without a trace or
stores one booking. `InstanceRun` describes how this can go, whatever calls fail and whatever is
reported as conflicts.

* `bookInstances_run` — booking instances is such a run, with one attempt for each span.
* `InstanceRun.bookings` — after a run, the bookings that it made have come, and nothing else
  changed.
* `SeriesRun`, `bookSeries_run` — how booking a series can go from start to end.
-/

namespace SpaceBooking

open SpaceBooking.Action

variable {c : Conditions} {w w' v : World} {s : Store}

namespace Service

/-- The booking for an instance of a series. -/
def SeriesPlan.booking (plan : SeriesPlan) (series : Series) (id : Id) (span : Span) : Booking where
  id := id
  owner := plan.owner
  space := plan.ctx.space.id
  span := span
  subject := series.subject
  approved := plan.approved
  series := some series.id
  calendarEvent := none

/-- How booking the instances of a series can go. If the store is in order, an instance fails for
what stands in its way, or because the store refuses its booking. -/
inductive InstanceRun (c : Conditions) (actor : User) (plan : SeriesPlan) (series : Series) :
    World → List Attempt → World → Prop where
  | done (w : World) : InstanceRun c actor plan series w [] w
  | failed {w v w' : World} {as : List Attempt} (span : Span) (failure : Failure) :
      w.Untouched v →
      (c.Reliable → instanceObstacle? c w.store actor plan [] span = some failure ∨
        instanceObstacle? c w.store actor plan [] span = none ∧
          ∃ e, w.store.insertBooking (plan.booking series (c.mint w.minted) span) = .error e) →
      InstanceRun c actor plan series v as w' →
      InstanceRun c actor plan series w (⟨span, .error failure⟩ :: as) w'
  | booked {w v w' : World} {as : List Attempt} {s : Store} (span : Span) :
      w.store.insertBooking (plan.booking series (c.mint w.minted) span) = .ok s →
      v.Holds s (w.minted + 1) w.published →
      (c.Reliable → instanceObstacle? c w.store actor plan [] span = none) →
      InstanceRun c actor plan series v as w' →
      InstanceRun c actor plan series w
        (⟨span, .ok (some (plan.booking series (c.mint w.minted) span))⟩ :: as) w'

variable {actor : User} {plan : SeriesPlan} {series : Series}

instance (span : Span) : Cautious (bookInstance actor plan series span) := by
  unfold bookInstance
  refine .bind_of_reads inferInstance fun _ => .bind_newId fun id => ?_
  exact .bind_of_safe inferInstance fun _ => inferInstance

theorem admitInstance_of_reliable (hc : c.Reliable) {pending : List Span} {span : Span}
    {o : Except Failure Unit} (h : admitInstance actor plan pending span c w = (o, w')) :
    o = checked (instanceObstacle? c w.store actor plan pending span) := by
  rw [← answer_admitInstance]
  exact (Reads.answer_of_run hc h).symm

theorem bookInstance_ok {span : Span} {b : Booking}
    (h : bookInstance actor plan series span c w = (.ok b, w')) :
    b = plan.booking series (c.mint w.minted) span ∧
      (c.Reliable → instanceObstacle? c w.store actor plan [] span = none) ∧
      ∃ s, w.store.insertBooking b = .ok s ∧ w'.Holds s (w.minted + 1) w.published := by
  unfold bookInstance at h
  obtain ⟨_, v, hadm, h⟩ := bind_eq_ok_iff.1 h
  obtain ⟨k, m, rfl⟩ := (Reads.of_run hadm).exists_eq
  obtain ⟨id, u, hid, h⟩ := bind_eq_ok_iff.1 h
  cases hid
  obtain ⟨_, z, hinsert, hlast⟩ := bind_eq_ok_iff.1 h
  obtain ⟨s, hs, hz⟩ := change_ok (lift_eq_ok_iff.1 hinsert)
  cases hlast
  refine ⟨rfl, fun hc => ?_, s, hs, hz⟩
  exact checked_eq_ok_iff.1 (admitInstance_of_reliable hc hadm).symm

theorem bookInstance_error (hc : c.Reliable) {span : Span} {failure : Failure}
    (h : bookInstance actor plan series span c w = (.error failure, w')) :
    instanceObstacle? c w.store actor plan [] span = some failure ∨
      instanceObstacle? c w.store actor plan [] span = none ∧
        ∃ e, w.store.insertBooking (plan.booking series (c.mint w.minted) span) = .error e := by
  unfold bookInstance at h
  rcases bind_eq_error_iff.1 h with hadm | ⟨_, v, hadm, hrest⟩
  · exact .inl (checked_eq_error_iff.1 (admitInstance_of_reliable hc hadm).symm)
  · obtain ⟨k, m, rfl⟩ := (Reads.of_run hadm).exists_eq
    refine .inr ⟨checked_eq_ok_iff.1 (admitInstance_of_reliable hc hadm).symm, ?_⟩
    have hplace := change_bind_of_upFrom
      (w := { w with calls := k, metrics := m, minted := w.minted + 1 }) (hc.upFrom _)
      .insertBooking (·.insertBooking (plan.booking series (c.mint w.minted) span))
      (f := fun _ => pure (plan.booking series (c.mint w.minted) span)) fun _ => rfl
    have hrest' := congrArg Prod.fst hrest
    rw [bind_of_ok (newId_apply c _)] at hrest'
    have hfail := hplace.symm.trans hrest'
    cases hs : w.store.insertBooking (plan.booking series (c.mint w.minted) span) with
    | error e => exact ⟨e, rfl⟩
    | ok s =>
      simp only [hs] at hfail
      cases hfail

theorem attemptInstance_apply (span : Span) (act : Action Failure (Option Booking))
    (c : Conditions) (w : World) :
    ∃ m, attemptInstance span act c w =
      (.ok ⟨span, (act c w).1⟩, { (act c w).2 with metrics := m }) := ⟨_, rfl⟩

/-- **Booking instances goes through the spans in order** and does not fail. -/
theorem bookInstances_run (actor : User) (plan : SeriesPlan) (series : Series) (spans : List Span)
    (c : Conditions) (w : World) :
    ∃ as w', bookInstances actor plan series spans c w = (.ok as, w') ∧
      as.map (·.span) = spans ∧ InstanceRun c actor plan series w as w' := by
  induction spans generalizing w with
  | nil => exact ⟨[], w, rfl, rfl, .done w⟩
  | cons span spans ih =>
    obtain ⟨m, hattempt⟩ := attemptInstance_apply span
      (some <$> bookInstance actor plan series span) c w
    obtain ⟨as, w', hrest, hspans, hrun⟩ :=
      ih { ((some <$> bookInstance actor plan series span) c w).2 with metrics := m }
    refine ⟨⟨span, ((some <$> bookInstance actor plan series span) c w).1⟩ :: as, w', ?_,
      congrArg (span :: ·) hspans, ?_⟩
    · rw [bookInstances, bind_of_ok hattempt, bind_of_ok hrest]
      rfl
    · rcases hbook : bookInstance actor plan series span c w with ⟨failure | b, u⟩
      · have hmap : (some <$> bookInstance actor plan series span) c w = (.error failure, u) := by
          show (bookInstance actor plan series span >>= fun b => pure (some b)) c w = _
          rw [bind_apply, hbook]
        rw [hmap] at hrun ⊢
        have hu := Cautious.untouched hbook
        exact .failed (v := { u with metrics := m }) span failure
          ⟨hu.store, hu.minted, hu.published⟩ (fun hc => bookInstance_error hc hbook) hrun
      · have hmap : (some <$> bookInstance actor plan series span) c w = (.ok (some b), u) := by
          show (bookInstance actor plan series span >>= fun b => pure (some b)) c w = _
          rw [bind_of_ok hbook]
          rfl
        rw [hmap] at hrun ⊢
        obtain ⟨rfl, hnone, s, hs, hu⟩ := bookInstance_ok hbook
        exact .booked (v := { u with metrics := m }) span hs ⟨hu.store, hu.minted, hu.published⟩
          hnone hrun

/-! ## What a run leaves -/

namespace InstanceRun

variable {as : List Attempt}

/-- The bookings that were made, in order. -/
def made (as : List Attempt) : List Booking := as.filterMap (·.booking?)

theorem minted_le (h : InstanceRun c actor plan series w as w') : w.minted ≤ w'.minted := by
  induction h with
  | done w => exact Nat.le_refl _
  | failed span failure hv _ _ ih => exact Nat.le_trans hv.minted ih
  | booked span _ hv _ _ ih =>
    rw [hv.minted] at ih
    exact Nat.le_of_succ_le ih

theorem series_eq (h : InstanceRun c actor plan series w as w') :
    w'.store.series = w.store.series := by
  induction h with
  | done w => rfl
  | failed span failure hv _ _ ih => rw [ih, hv.store]
  | booked span hinsert hv _ _ ih =>
    obtain ⟨l, -, -, rfl⟩ := Store.insertBooking_ok hinsert
    rw [ih, hv.store]

theorem published (h : InstanceRun c actor plan series w as w') : w'.published = w.published := by
  induction h with
  | done w => rfl
  | failed span failure hv _ _ ih => exact ih.trans hv.published
  | booked span _ hv _ _ ih => exact ih.trans hv.published

/-- Each attempt failed, or made the booking of its span under an identifier that was given out. -/
theorem outcome (h : InstanceRun c actor plan series w as w') : ∀ a ∈ as,
    (∃ failure, a.outcome = .error failure) ∨
      ∃ n, w.minted ≤ n ∧ n < w'.minted ∧
        a.outcome = .ok (some (plan.booking series (c.mint n) a.span)) := by
  induction h with
  | done w => simp
  | failed span failure hv _ _ ih =>
    intro a ha
    rcases List.mem_cons.1 ha with rfl | ha
    · exact .inl ⟨failure, rfl⟩
    · refine (ih a ha).imp_right ?_
      rintro ⟨n, hle, hlt, hout⟩
      exact ⟨n, Nat.le_trans hv.minted hle, hlt, hout⟩
  | @booked w v w' as s span _ hv _ hrun ih =>
    have hle := hrun.minted_le
    rw [hv.minted] at hle ih
    intro a ha
    rcases List.mem_cons.1 ha with rfl | ha
    · exact .inr ⟨w.minted, Nat.le_refl _, hle, rfl⟩
    · refine (ih a ha).imp_right ?_
      rintro ⟨n, hle, hlt, hout⟩
      exact ⟨n, Nat.le_of_succ_le hle, hlt, hout⟩

/-- **After a run the bookings that it made have come**, and nothing else changed. -/
theorem bookings (h : InstanceRun c actor plan series w as w') (hs : w.store.Ordered) :
    w'.store.Ordered ∧ w'.store.bookings.Perm (made as ++ w.store.bookings) ∧
      Store.SameSetup w.store w'.store := by
  induction h with
  | done w => exact ⟨hs, .refl _, .refl _⟩
  | failed span failure hv _ _ ih =>
    rw [hv.store] at ih
    exact ih hs
  | @booked w v w' as s span hinsert hv _ _ ih =>
    have hx := Store.insertBooking_exchange hs hinsert
    rw [hv.store] at ih
    obtain ⟨hs', hperm, hsetup⟩ := ih (hx.ordered hs)
    refine ⟨hs', ?_, hx.setup.trans hsetup⟩
    obtain ⟨rest, hrest, hrest'⟩ := hx.bookings
    have hnew : s.bookings.Perm
        (plan.booking series (c.mint w.minted) span :: w.store.bookings) :=
      hrest'.trans (hrest.symm.cons _)
    exact (hperm.trans (hnew.append_left _)).trans List.perm_middle

end InstanceRun

/-! ## Booking a series -/

/-- What a plan that was laid out shows. -/
theorem planSeries_ok {req : SeriesRequest} (h : planSeries actor req c w = (.ok plan, w')) :
    w.Unchanged w' ∧ contextAt c w.store actor req.space = .ok plan.ctx ∧
      ownerAt w.store actor req.onBehalfOf = .ok plan.owner ∧
      spanAt plan.ctx.zone req.enter req.leave = .ok plan.first ∧
      plan.stop = plan.ctx.zone.resolve req.stop ∧ plan.first.start < plan.stop ∧
      instancesAt c req.cadence plan.ctx.zone plan.first plan.stop = .ok plan.spans ∧
      plan.approved = approvedAt w.store plan.ctx := by
  refine ⟨Reads.of_run h, ?_⟩
  unfold planSeries at h
  obtain ⟨ctx, u₁, hctx, h⟩ := bind_eq_ok_iff.1 h
  obtain ⟨owner, u₂, howner, h⟩ := bind_eq_ok_iff.1 h
  obtain ⟨first, u₃, hfirst, h⟩ := bind_eq_ok_iff.1 h
  obtain ⟨_, u₄, hsubject, h⟩ := bind_eq_ok_iff.1 h
  obtain ⟨_, u₅, hcadence, h⟩ := bind_eq_ok_iff.1 h
  obtain ⟨_, u₆, hstop, h⟩ := bind_eq_ok_iff.1 h
  obtain ⟨spans, u₇, hspans, h⟩ := bind_eq_ok_iff.1 h
  obtain ⟨approved, u₈, happroved, h⟩ := bind_eq_ok_iff.1 h
  cases h
  obtain ⟨hu₁, hctx⟩ := Reads.of_ok hctx
  obtain ⟨hu₂, howner⟩ := Reads.of_ok howner
  obtain ⟨hu₃, hfirst⟩ := Reads.of_ok hfirst
  obtain ⟨hu₆, hstop⟩ := Reads.of_ok hstop
  obtain ⟨hu₇, hspans⟩ := Reads.of_ok hspans
  obtain ⟨hu₈, happroved⟩ := Reads.of_ok (lift_eq_ok_iff.1 happroved)
  have hu : w.Unchanged u₇ := (((hu₁.trans hu₂).trans hu₃).trans
    ((Reads.of_run hsubject).trans (Reads.of_run hcadence))).trans (hu₆.trans hu₇)
  rw [answer_spaceContext] at hctx
  rw [answer_ownerFor, hu₁.store] at howner
  rw [answer_requestSpan] at hfirst
  rw [answer_ensure] at hstop
  rw [answer_instanceSpans] at hspans
  rw [answer_startsApproved, hu.store] at happroved
  cases happroved
  refine ⟨hctx, howner, hfirst, rfl, ?_, hspans, rfl⟩
  split at hstop
  · rename_i hlt
    exact of_decide_eq_true hlt
  · cases hstop

theorem publishAll_apply (bs : List Booking) (c : Conditions) (w : World) :
    publishAll bs c w =
      (.ok (), { w with published := w.published ++ bs.flatMap createdEvents }) := by
  induction bs generalizing w with
  | nil => simp [publishAll, pure_apply]
  | cons b bs ih =>
    rw [publishAll, bind_of_ok (publishCreated_apply b c w), ih, List.flatMap_cons,
      List.append_assoc]

/-- What is published about the instances that were made of a series. -/
def seriesEvents (series : Series) (as : List Attempt) : List Event :=
  (InstanceRun.made as).flatMap createdEvents ++
    [.seriesCreated series.id series.space (InstanceRun.made as).length
      (as.length - (InstanceRun.made as).length)]

/-- A series was laid out, stored, and its instances were gone through. -/
structure Attempted (c : Conditions) (actor : User) (req : SeriesRequest) (w : World)
    (plan : SeriesPlan) (as : List Attempt) (w' : World) : Prop where
  planned : ∃ u, planSeries actor req c w = (.ok plan, u)
  run : ∃ v, v.Holds (w.store.insertSeries (plan.series req (c.mint w.minted))) (w.minted + 1)
    w.published ∧ InstanceRun c actor plan (plan.series req (c.mint w.minted)) v as w'
  spans : as.map (·.span) = plan.spans

/-- **How booking a series can go**: it fails without a trace, or stores the series and goes through
its instances. In the end it drops the series again if nothing was made. -/
inductive SeriesRun (c : Conditions) (actor : User) (req : SeriesRequest) (w : World) :
    Except Failure SeriesReport → World → Prop where
  | failed {w' : World} (failure : Failure) : w.Untouched w' →
      (c.Reliable → ∃ u, planSeries actor req c w = (.error failure, u)) →
      SeriesRun c actor req w (.error failure) w'
  /-- Nothing was made, and the series could not be dropped either. -/
  | stuck {plan : SeriesPlan} {as : List Attempt} {v w' : World} (failure : Failure) :
      Attempted c actor req w plan as v → InstanceRun.made as = [] → v.Untouched w' →
      c.Fails .deleteSeries failure → SeriesRun c actor req w (.error failure) w'
  | dropped {plan : SeriesPlan} {as : List Attempt} {v w' : World} {s : Store} :
      Attempted c actor req w plan as v → InstanceRun.made as = [] →
      v.store.deleteSeries (c.mint w.minted) = .ok s → w'.Holds s v.minted w.published →
      SeriesRun c actor req w (.ok ⟨none, Attempt.reports as⟩) w'
  | kept {plan : SeriesPlan} {as : List Attempt} {v w' : World} :
      Attempted c actor req w plan as v → InstanceRun.made as ≠ [] →
      w'.Holds v.store v.minted
        (w.published ++ seriesEvents (plan.series req (c.mint w.minted)) as) →
      SeriesRun c actor req w (.ok ⟨some (c.mint w.minted), Attempt.reports as⟩) w'

namespace Attempted

variable {req : SeriesRequest} {as : List Attempt}

theorem published (h : Attempted c actor req w plan as v) : v.published = w.published := by
  obtain ⟨u, hu, hrun⟩ := h.run
  exact hrun.published.trans hu.published

theorem minted_lt (h : Attempted c actor req w plan as v) : w.minted < v.minted := by
  obtain ⟨u, hu, hrun⟩ := h.run
  have hle := hrun.minted_le
  rw [hu.minted] at hle
  exact hle

theorem series_eq (h : Attempted c actor req w plan as v) : v.store.series =
    w.store.series.insert (c.mint w.minted) (plan.series req (c.mint w.minted)) := by
  obtain ⟨u, hu, hrun⟩ := h.run
  rw [hrun.series_eq, hu.store]
  rfl

theorem bookings (h : Attempted c actor req w plan as v) (hs : w.store.Ordered) :
    v.store.bookings.Perm (InstanceRun.made as ++ w.store.bookings) := by
  obtain ⟨u, hu, hrun⟩ := h.run
  have hperm := (hrun.bookings (hu.store ▸ hs.insertSeries _)).2.1
  rw [hu.store] at hperm
  exact hperm

end Attempted

namespace SeriesRun

variable {req : SeriesRequest} {as : List Attempt}

/-- Measurements do not matter. -/
theorem with_metrics {o : Except Failure SeriesReport} (h : SeriesRun c actor req w o v)
    (m : Tally Metric) : SeriesRun c actor req w o { v with metrics := m } := by
  cases h with
  | failed failure hv hplan => exact .failed failure ⟨hv.store, hv.minted, hv.published⟩ hplan
  | stuck failure hattempted hmade hv hc =>
    exact .stuck failure hattempted hmade ⟨hv.store, hv.minted, hv.published⟩ hc
  | dropped hattempted hmade hs hv =>
    exact .dropped hattempted hmade hs ⟨hv.store, hv.minted, hv.published⟩
  | kept hattempted hmade hv =>
    exact .kept hattempted hmade ⟨hv.store, hv.minted, hv.published⟩

/-- How dropping a series of which nothing was made can go. -/
theorem of_drop (h : Attempted c actor req w plan as v) (hmade : InstanceRun.made as = [])
    {o : Except Failure SeriesReport}
    (hdrop : (do Repository.deleteSeries (c.mint w.minted); return ⟨none, Attempt.reports as⟩ :
      Action Failure SeriesReport) c v = (o, w')) : SeriesRun c actor req w o w' := by
  have hstored : v.store.series.contains (c.mint w.minted) = true := by
    rw [h.series_eq, Table.contains, Table.get?_insert, if_pos rfl]
    rfl
  have hs : v.store.deleteSeries (c.mint w.minted) =
      .ok { v.store with series := v.store.series.erase (c.mint w.minted) } := if_pos hstored
  rcases hdelete : (liftM (Repository.deleteSeries (c.mint w.minted)) : Action Failure Unit) c v
    with ⟨o₁, z⟩
  rcases change_run hdelete hs with ⟨failure, rfl, hfails, hz⟩ | ⟨rfl, hz⟩
  · rw [bind_apply, hdelete] at hdrop
    cases hdrop
    exact .stuck failure h hmade hz hfails
  · rw [bind_of_ok hdelete] at hdrop
    cases hdrop
    exact .dropped h hmade hs ⟨hz.store, hz.minted, hz.published.trans h.published⟩

end SeriesRun

theorem bookSeries_run {actor : User} {req : SeriesRequest} {o : Except Failure SeriesReport}
    (h : bookSeries actor req c w = (o, w')) : SeriesRun c actor req w o w' := by
  suffices hrun : SeriesRun c actor req w (bookSeries actor req c w).1
      (bookSeries actor req c w).2 by
    rwa [h] at hrun
  unfold bookSeries
  refine measured_intro (P := SeriesRun c actor req w) ?_ fun o v m h => h.with_metrics m
  rcases hplan : planSeries actor req c w with ⟨failure | plan, u⟩
  · rw [bind_apply, hplan]
    exact .failed failure (Reads.of_run hplan).untouched fun _ => ⟨u, hplan⟩
  obtain ⟨k, m, rfl⟩ := (Reads.of_run hplan).exists_eq
  rw [bind_of_ok hplan, bind_of_ok (newId_apply c _)]
  rcases hinsert : (liftM (Repository.insertSeries (plan.series req (c.mint w.minted))) :
    Action Failure Unit) c { w with calls := k, metrics := m, minted := w.minted + 1 }
    with ⟨failure | _, v⟩
  · rw [bind_apply, hinsert]
    have hv := Cautious.untouched hinsert
    exact .failed failure ⟨hv.store, Nat.le_of_succ_le hv.minted, hv.published⟩ fun hc =>
      absurd hc (change_fails hinsert rfl).not_reliable
  obtain ⟨s, hs, hv⟩ := change_ok (lift_eq_ok_iff.1 hinsert)
  cases hs
  obtain ⟨as, v', hbook, hspans, hrun⟩ :=
    bookInstances_run actor plan (plan.series req (c.mint w.minted)) plan.spans c v
  have hattempted : Attempted c actor req w plan as v' := ⟨⟨_, hplan⟩, ⟨v, hv, hrun⟩, hspans⟩
  rw [bind_of_ok hinsert, bind_of_ok hbook]
  show SeriesRun c actor req w
    ((if (InstanceRun.made as).isEmpty then _ else _ : Action Failure SeriesReport) c v').1
    ((if (InstanceRun.made as).isEmpty then _ else _ : Action Failure SeriesReport) c v').2
  by_cases hmade : InstanceRun.made as = []
  · rw [if_pos (List.isEmpty_iff.2 hmade)]
    exact SeriesRun.of_drop hattempted hmade rfl
  · rw [if_neg fun h => hmade (List.isEmpty_iff.1 h), bind_of_ok (publishAll_apply _ c v'),
      bind_of_ok (publish_apply _ c _)]
    refine .kept hattempted hmade ⟨rfl, rfl, ?_⟩
    show (v'.published ++ _) ++ _ = _
    rw [hattempted.published, List.append_assoc]
    rfl

/-! ## Trying a series out -/

instance (span : Span) {act : Action Failure (Option Booking)} [Reads .reliable act] :
    Reads .reliable (attemptInstance span act) := by
  unfold attemptInstance
  infer_instance

instance (actor : User) (plan : SeriesPlan) (pending spans : List Span) :
    Reads .reliable (tryInstances actor plan pending spans) := by
  induction spans generalizing pending with
  | nil => exact reads_pure _
  | cons span spans ih =>
    unfold tryInstances
    exact .bind inferInstance fun a => .bind (ih _) fun _ => inferInstance

instance (actor : User) (req : SeriesRequest) : Reads .reliable (precheckSeries actor req) := by
  unfold precheckSeries
  infer_instance

end Service

end SpaceBooking
