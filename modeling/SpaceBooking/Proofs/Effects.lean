import SpaceBooking.Proofs.Access
import SpaceBooking.Proofs.SeriesFailure
import SpaceBooking.Proofs.SingleRequests

/-!
# What requests change, and on whose spaces

An `Effect` of an organization is one thing that one of its users does to the bookings and series of
the store. It always names the space that gave the right to do so, which is a space of the
organization. Only `released` goes further: a series is given up by the right to the space of the
series, and its bookings are released wherever they are.

* `Store.Effect` — the six kinds of effects.
* `Dissolved.unlinks` — releasing bookings touches those of the series only.
* `Request.effects` — whichever calls fail, a request has some effects in a row, all of the actor's
  organization, and does nothing else to the store.
-/

namespace SpaceBooking

open SpaceBooking.Action Service Relation

/-! ## Effects -/

namespace Store

variable {s s' : Store} {b : Booking} {id org : Id}

/-- The booking is in no series, or in a stored one on its space and of its owner. -/
def Joins (s : Store) (b : Booking) : Prop :=
  ∀ id, b.series = some id →
    ∃ row, s.series.get? id = some row ∧ b.space = row.space ∧ b.owner = row.owner

/-- Some bookings of a series were deleted or taken out of it, and nothing else changed. -/
structure Unlinks (s : Store) (id : Id) (s' : Store) : Prop where
  setup : s.SameSetup s'
  series : s'.series = s.series
  came : ∀ b ∈ s'.bookings, b ∈ s.bookings ∨ ∃ old ∈ s.linked id, b = { old with series := none }
  stayed : ∀ b ∈ s.bookings, b.series ≠ some id → b ∈ s'.bookings

/-- One thing that somebody of an organization does to the bookings and series. -/
inductive Effect (org : Id) (s s' : Store) : Prop where
  | booked (b : Booking) : s.orgOf b.space = some org → s.Joins b → s.Exchange none (some b) s' →
      Effect org s s'
  /-- The booking was moved or approved. -/
  | changed (old b : Booking) : s.orgOf old.space = some org → s.orgOf b.space = some org →
      b.Continues old → s.Exchange (some old) (some b) s' → Effect org s s'
  | removed (old : Booking) : s.orgOf old.space = some org → s.Exchange (some old) none s' →
      Effect org s s'
  | opened (row : Series) : s.orgOf row.space = some org → s.series.get? row.id = none →
      s' = s.insertSeries row → Effect org s s'
  | released (id : Id) (row : Series) : s.series.get? id = some row →
      s.orgOf row.space = some org → s.Unlinks id s' → Effect org s s'
  | closed (id : Id) (row : Series) : s.series.get? id = some row →
      s.orgOf row.space = some org → s.linked id = [] →
      s' = { s with series := s.series.erase id } → Effect org s s'

/-- Spaces and locations stay as they are. -/
theorem Effect.setup (h : Effect org s s') : s.SameSetup s' := by
  cases h with
  | booked _ _ _ hx => exact hx.setup
  | changed _ _ _ _ _ hx => exact hx.setup
  | removed _ _ hx => exact hx.setup
  | opened row _ _ hs' =>
    rw [hs']
    exact (insertSeries_seriesOnly s row).sameSetup
  | released _ _ _ _ hunlinks => exact hunlinks.setup
  | closed id _ _ _ _ hs' =>
    rw [hs']
    exact ⟨rfl, rfl, rfl, rfl, rfl, rfl, rfl, fun _ => rfl⟩

end Store

/-! ## Requests -/

/-- Who makes a request. -/
def Request.actor : Request → User
  | book actor _ | rebook actor _ _ | cancel actor _ | bookSeries actor _ | precheckSeries actor _
  | cancelSeries actor _ | approve actor _ | decline actor _ => actor

variable {c : Conditions} {w w' v : World} {actor : User} {id org : Id} {now : Int} {b : Booking}

/-- Releasing bookings touches those of the series only. -/
theorem Dissolved.unlinks {done : List Booking} (h : Dissolved id now w done w')
    (hs : w.store.Consistent) : w.store.Unlinks id w'.store where
  setup := h.setup
  series := h.series
  came b hb := by
    by_cases hseries : b.series = some id
    · have hlinked : b ∈ w'.store.linked id := Store.mem_linked.2 ⟨hb, hseries⟩
      have hold := h.linked.mem_iff.2 (List.mem_append_right done hlinked)
      exact .inl (Store.mem_linked.1 hold).1
    · have hleft : b ∈ w'.store.bookings.filterMap (·.released id now) :=
        List.mem_filterMap.2 ⟨b, hb, Booking.released_of_unlinked hseries⟩
      obtain ⟨old, hold, hreleased⟩ := List.mem_filterMap.1 (h.bookings.mem_iff.1 hleft)
      by_cases hlinked : old.series = some id
      · by_cases hahead : old.ahead now = true
        · rw [Booking.released_of_ahead hlinked hahead] at hreleased
          cases hreleased
        · rw [Booking.released_of_begun hlinked hahead] at hreleased
          cases hreleased
          exact .inr ⟨old, Store.mem_linked.2 ⟨hold, hlinked⟩, rfl⟩
      · rw [Booking.released_of_unlinked hlinked] at hreleased
        cases hreleased
        exact .inl hold
  stayed b hb hseries := by
    have hleft : b ∈ w.store.bookings.filterMap (·.released id now) :=
      List.mem_filterMap.2 ⟨b, hb, Booking.released_of_unlinked hseries⟩
    obtain ⟨d, hd, hreleased⟩ := List.mem_filterMap.1 (h.bookings.mem_iff.2 hleft)
    by_cases hlinked : d.series = some id
    · -- then `d` and `b` are both stored before, under one identifier
      have hdlinked : d ∈ w'.store.linked id := Store.mem_linked.2 ⟨hd, hlinked⟩
      have hdold := (Store.mem_linked.1 (h.linked.mem_iff.2 (List.mem_append_right done hdlinked))).1
      have hid : d.id = b.id := by
        rw [(Booking.of_released hreleased).2]
      exact hs.eq_of_id hdold hb hid ▸ hd
    · rw [Booking.released_of_unlinked hlinked] at hreleased
      cases hreleased
      exact hd

namespace Service

/-- An action that fails without a trace has the effects that its good ends show. -/
theorem effects_of_ok {α : Type} {x : Action Failure α} [hx : Cautious x]
    (h : ∀ a w', x c w = (.ok a, w') → w.store.Effect org w'.store) :
    ReflTransGen (Store.Effect org) w.store (x c w).2.store := by
  rcases hrun : x c w with ⟨failure | a, w'⟩
  · rw [(hx.untouched hrun).store]
  · exact .single (h a w' hrun)

theorem book_effects (hs : w.store.Consistent) (req : BookingRequest) :
    ReflTransGen (Store.Effect actor.org) w.store (book actor req c w).2.store := by
  refine effects_of_ok fun b w' hrun => ?_
  obtain ⟨a, v, hadm, -, hb, s, hinsert, hw'⟩ := book_ok hrun
  obtain ⟨-, hctx, -⟩ := admitNew_ok hadm
  have hspace : b.space = req.space := by
    rw [hb]
    exact contextAt_space hs.toOrdered hctx
  have hseries : b.series = none := by
    rw [hb]
    rfl
  rw [hw'.store]
  refine .booked b ?_ ?_ (Store.insertBooking_exchange hs.toOrdered hinsert)
  · rw [hspace]
    exact contextAt_orgOf hctx
  · intro id hid
    rw [hseries] at hid
    cases hid

/-- A booking that was moved or approved inside its organization. -/
theorem effect_of_updateBooking (hs : w.store.Consistent) {old : Booking} {s : Store}
    (hold : w.store.booking? id = some old) (hcontinues : b.Continues old)
    (horg : w.store.orgOf old.space = some org) (horg' : w.store.orgOf b.space = some org)
    (hupdate : w.store.updateBooking b = .ok s) : w.store.Effect org s := by
  obtain ⟨o, ho, hoid, hx, -⟩ := hs.updateBooking_exchange hupdate
  obtain rfl := hs.eq_of_id ho (hs.booking?_eq_some_iff.1 hold).1 (hoid.trans hcontinues.id)
  exact .changed o b horg horg' hcontinues hx

/-- A booking that was removed from inside its organization. -/
theorem effect_of_deleteBooking (hs : w.store.Consistent) {old : Booking} {s : Store}
    (hold : w.store.booking? id = some old) (horg : w.store.orgOf old.space = some org)
    (hdelete : w.store.deleteBooking id = .ok s) : w.store.Effect org s := by
  obtain ⟨o, hoid, hx⟩ := Store.deleteBooking_exchange hs hdelete
  obtain ⟨hmem, hid⟩ := hs.booking?_eq_some_iff.1 hold
  obtain rfl := hs.eq_of_id hx.gone_mem hmem (hoid.trans hid.symm)
  exact .removed o horg hx

theorem rebook_effects (hs : w.store.Consistent) (req : BookingRequest) :
    ReflTransGen (Store.Effect actor.org) w.store (rebook actor id req c w).2.store := by
  refine effects_of_ok fun b w' hrun => ?_
  obtain ⟨old, u, a, v, -, hadm, hu, -, hold, hb, s, hupdate, hw'⟩ := rebook_ok hrun
  obtain ⟨-, hctx, -⟩ := admitChange_ok hadm
  rw [hu.store] at hctx
  -- the right to the old space was looked at before the new one
  obtain ⟨act, heq⟩ := rebook_eq actor id req
  rw [heq] at hrun
  obtain ⟨z, m, hbegun, -⟩ := measured_ok hrun
  have hcontinues : b.Continues old := by
    rw [hb]
    exact ⟨rfl, rfl, rfl, rfl⟩
  have horg' : w.store.orgOf b.space = some actor.org := by
    have hspace : b.space = req.space := by
      rw [hb]
      exact contextAt_space hs.toOrdered hctx
    rw [hspace]
    exact contextAt_orgOf hctx
  rw [hw'.store]
  exact effect_of_updateBooking hs hold hcontinues (onBooking_orgOf hbegun hold) horg' hupdate

theorem approve_effects (hs : w.store.Consistent) :
    ReflTransGen (Store.Effect actor.org) w.store (approve actor id c w).2.store := by
  refine effects_of_ok fun b w' hrun => ?_
  obtain ⟨old, s, hold, hb, hupdate, hw'⟩ := approve_ok hrun
  obtain ⟨act, heq⟩ := approve_eq actor id
  rw [heq] at hrun
  have horg := onBooking_orgOf hrun hold
  have hcontinues : b.Continues old := by
    rw [hb]
    exact ⟨rfl, rfl, rfl, rfl⟩
  have hspace : b.space = old.space := by
    rw [hb]
  rw [hw'.store]
  exact effect_of_updateBooking hs hold hcontinues horg (hspace ▸ horg) hupdate

theorem cancel_effects (hs : w.store.Consistent) :
    ReflTransGen (Store.Effect actor.org) w.store (cancel actor id c w).2.store := by
  refine effects_of_ok fun _ w' hrun => ?_
  obtain ⟨old, s, hold, hdelete, hw'⟩ := cancel_ok hrun
  obtain ⟨act, heq⟩ := cancel_eq actor id
  rw [heq] at hrun
  obtain ⟨z, m, hbegun, -⟩ := measured_ok hrun
  rw [hw'.store]
  exact effect_of_deleteBooking hs hold (onBooking_orgOf hbegun hold) hdelete

theorem decline_effects (hs : w.store.Consistent) :
    ReflTransGen (Store.Effect actor.org) w.store (decline actor id c w).2.store := by
  refine effects_of_ok fun _ w' hrun => ?_
  obtain ⟨old, s, hold, hdelete, hw'⟩ := decline_ok hrun
  obtain ⟨act, heq⟩ := decline_eq actor id
  rw [heq] at hrun
  rw [hw'.store]
  exact effect_of_deleteBooking hs hold (onBooking_orgOf hrun hold) hdelete

/-! ## Series -/

/-- Each instance that was booked joins the series on its space. -/
theorem InstanceRun.effects {plan : SeriesPlan} {series : Series} {as : List Attempt}
    (h : InstanceRun c actor plan series w as w') (hs : w.store.Ordered)
    (horg : w.store.orgOf series.space = some org)
    (hrow : w.store.series.get? series.id = some series)
    (hspace : series.space = plan.ctx.space.id) (howner : series.owner = plan.owner) :
    ReflTransGen (Store.Effect org) w.store w'.store := by
  induction h with
  | done w => exact .refl
  | failed span failure hv _ _ ih =>
    rw [hv.store] at ih
    exact ih hs horg hrow
  | @booked w v w' as s span hinsert hv _ _ ih =>
    have hx := Store.insertBooking_exchange hs hinsert
    have hjoins : w.store.Joins (plan.booking series (c.mint w.minted) span) := by
      rintro _ ⟨⟩
      exact ⟨series, hrow, hspace.symm, howner.symm⟩
    have hbooked : w.store.Effect org s := by
      refine .booked _ ?_ hjoins hx
      show w.store.orgOf plan.ctx.space.id = _
      rw [← hspace]
      exact horg
    rw [hv.store] at ih
    refine .head hbooked (ih (hx.ordered hs) ?_ ?_)
    · rw [hx.setup.orgOf]
      exact horg
    · rw [hx.series]
      exact hrow

variable {req : SeriesRequest} {plan : SeriesPlan} {as : List Attempt}

/-- The new series is on a space of the actor's organization. -/
theorem Attempted.orgOf (h : Attempted c actor req w plan as v) (hs : w.store.Ordered) :
    w.store.orgOf plan.ctx.space.id = some actor.org := by
  obtain ⟨u, hplan⟩ := h.planned
  obtain ⟨-, hctx, -⟩ := planSeries_ok hplan
  rw [contextAt_space hs hctx]
  exact contextAt_orgOf hctx

theorem Attempted.effects (h : Attempted c actor req w plan as v) (hs : w.store.Ordered)
    (hfresh : w.store.series.get? (c.mint w.minted) = none) :
    ReflTransGen (Store.Effect actor.org) w.store v.store := by
  have horg := h.orgOf hs
  obtain ⟨u, hu, hrun⟩ := h.run
  have hopened : w.store.Effect actor.org u.store := .opened _ horg hfresh hu.store
  have hrow : u.store.series.get? (c.mint w.minted) =
      some (plan.series req (c.mint w.minted)) := by
    rw [hu.store]
    exact (Table.get?_insert _ _ _ _).trans (if_pos rfl)
  refine .head hopened (hrun.effects ?_ ?_ hrow rfl rfl)
  · rw [hu.store]
    exact hs.insertSeries _
  · rw [hopened.setup.orgOf]
    exact horg

theorem bookSeries_effects (hs : w.store.Ordered)
    (hfresh : c.Fresh w.store w.minted (bookSeries actor req c w).2.minted) :
    ReflTransGen (Store.Effect actor.org) w.store (bookSeries actor req c w).2.store := by
  rcases hrun : bookSeries actor req c w with ⟨o, w'⟩
  rw [hrun] at hfresh
  cases bookSeries_run hrun with
  | failed _ hw' _ => rw [hw'.store]
  | stuck _ hattempted _ hw' _ =>
    have hlt := Nat.lt_of_lt_of_le hattempted.minted_lt hw'.minted
    rw [hw'.store]
    exact hattempted.effects hs (hfresh.series _ (Nat.le_refl _) hlt)
  | @dropped plan as v _ s hattempted hmade hdelete hw' =>
    have hlt := hattempted.minted_lt
    rw [← hw'.minted] at hlt
    -- the row that is dropped is all that had come
    have hback : (w.store.insertSeries (plan.series req (c.mint w.minted))).series.erase
        (c.mint w.minted) = w.store.series :=
      Table.erase_insert (hfresh.series _ (Nat.le_refl _) hlt)
    have hsame : w'.store = w.store := by
      rw [hw'.store, Store.deleteSeries_seriesOnly hdelete, Store.deleteSeries_series hdelete,
        hattempted.store_of_made hmade, hback]
      rfl
    rw [hsame]
  | kept hattempted _ hw' =>
    have hlt := hattempted.minted_lt
    rw [← hw'.minted] at hlt
    rw [hw'.store]
    exact hattempted.effects hs (hfresh.series _ (Nat.le_refl _) hlt)

theorem cancelSeries_effects (hs : w.store.Consistent) :
    ReflTransGen (Store.Effect actor.org) w.store (cancelSeries actor id c w).2.store := by
  rcases hrun : cancelSeries actor id c w with ⟨o, w'⟩
  obtain ⟨act, heq⟩ := cancelSeries_onSeries actor id
  have hbegun := hrun
  rw [heq] at hbegun
  rcases onSeries_run hbegun with hw' | ⟨row, hrow, horg⟩
  · rw [hw'.store]
  cases cancelSeries_run hs hrun with
  | stopped _ hdissolved _ => exact .single (.released id row hrow horg (hdissolved.unlinks hs))
  | @through _ row' v hrow' hdissolved hw' =>
    have hreleased : w.store.Effect actor.org v.store :=
      .released id row hrow horg (hdissolved.unlinks hs)
    have hclosed : v.store.Effect actor.org w'.store := by
      refine .closed id row ?_ ?_ hdissolved.linked_eq_nil hw'.store
      · rw [hdissolved.series]
        exact hrow
      · rw [hdissolved.setup.orgOf]
        exact horg
    exact .head hreleased (.single hclosed)

end Service

/-- **Whichever calls fail, a request has effects of the actor's organization** and does nothing
else to the store. -/
theorem Request.effects (r : Request) (hs : w.store.Consistent)
    (hfresh : c.Fresh w.store w.minted (r.apply c w).minted) :
    ReflTransGen (Store.Effect r.actor.org) w.store (r.apply c w).store := by
  cases r with
  | book actor req => exact book_effects hs req
  | rebook actor id req => exact rebook_effects hs req
  | cancel actor id => exact cancel_effects hs
  | bookSeries actor req => exact bookSeries_effects hs.toOrdered hfresh
  | precheckSeries actor req =>
    have hw' := Reads.unchanged (r := .reliable) (x := Service.precheckSeries actor req) c w
    show ReflTransGen _ w.store (Service.precheckSeries actor req c w).2.store
    rw [hw'.store]
  | cancelSeries actor id => exact cancelSeries_effects hs
  | approve actor id => exact approve_effects hs
  | decline actor id => exact decline_effects hs

end SpaceBooking
