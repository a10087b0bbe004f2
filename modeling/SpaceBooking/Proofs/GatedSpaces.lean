import SpaceBooking.Proofs.SeriesRemoval
import SpaceBooking.Proofs.SingleRequests

/-!
# Spaces with approvers

A booking comes to a space with approvers without being approved, and being approved does not go
with it when it leaves and comes back. On the space it stays as it is until somebody decides.

* `Store.Gated` — a space on which bookings have to be approved.
* `Store.Follows` — how a booking can have got where it is, in one step and without a decision.
* `Step.follows` — every step leaves bookings which follow from those before it, or approves one.
* `GatedRun.approved_since` — by induction on a run, an approved booking was approved while on the
  space.
* `GatedRun.decided_once` — a booking on the space is decided on once at most.
-/

namespace SpaceBooking

open SpaceBooking.Action Service

namespace Store

/-- Bookings on the space have to be approved: the organization uses groups, and some approve for
the space. -/
def Gated (s : Store) (space : Id) : Prop :=
  ∃ sp l, s.spaces.get? space = some sp ∧ s.locations.get? sp.location = some l ∧
    (s.policyOf l.org).groupsEnabled = true ∧ s.approversOf space ≠ []

instance (s : Store) (space : Id) : Decidable (s.Gated space) :=
  decidable_of_iff
    (∃ sp ∈ s.spaces.get? space, ∃ l ∈ s.locations.get? sp.location,
      (s.policyOf l.org).groupsEnabled = true ∧ s.approversOf space ≠ [])
    ⟨fun ⟨sp, hsp, l, hl, h⟩ => ⟨sp, l, hsp, hl, h⟩, fun ⟨sp, l, hsp, hl, h⟩ => ⟨sp, hsp, l, hl, h⟩⟩

/-- The booking of an identifier is on a space. -/
def BookedOn (s : Store) (id space : Id) : Prop := ∃ b ∈ s.bookings, b.id = id ∧ b.space = space

instance (s : Store) (id space : Id) : Decidable (s.BookedOn id space) :=
  inferInstanceAs (Decidable (∃ b ∈ s.bookings, b.id = id ∧ b.space = space))

/-- The booking follows from what was stored: it was on its space and as much approved as now, or it
has come to its space and is not approved. -/
inductive Follows (s : Store) (b : Booking) : Prop where
  | stayed (old : Booking) : old ∈ s.bookings → old.id = b.id → old.space = b.space →
      old.approved = b.approved → s.Follows b
  | came : (∀ old ∈ s.bookings, old.id = b.id → old.space ≠ b.space) → b.approved = false →
      s.Follows b

variable {s s' : Store} {b : Booking} {id : Id}

theorem Follows.of_mem (hb : b ∈ s.bookings) : s.Follows b := .stayed b hb rfl rfl rfl

theorem Follows.of_deleteBooking (hs : s.Consistent) (h : s.deleteBooking id = .ok s')
    (hb : b ∈ s'.bookings) : s.Follows b := by
  obtain ⟨old, -, hx⟩ := deleteBooking_exchange hs h
  rcases hx.mem_of_mem hb with hnew | hold
  · cases hnew
  · exact .of_mem hold

end Store

namespace Service

variable {c : Conditions} {w w' v : World} {s : Store} {actor : User} {id : Id} {b : Booking}

/-- What an action leaves that fails without a trace follows, if its good ends show so. -/
theorem follows_of_ok {α : Type} {x : Action Failure α} [hx : Cautious x]
    (hb : b ∈ (x c w).2.store.bookings)
    (h : ∀ a w', x c w = (.ok a, w') → b ∈ w'.store.bookings → w.store.Follows b) :
    w.store.Follows b := by
  rcases hrun : x c w with ⟨failure | a, w'⟩
  · rw [hrun, (hx.untouched hrun).store] at hb
    exact .of_mem hb
  · rw [hrun] at hb
    exact h a w' hrun hb

/-- Nothing is approved from the start on a space with approvers. -/
theorem approvedAt_of_gated (hs : s.Ordered) {ctx : SpaceContext}
    (hctx : contextAt c s actor id = .ok ctx) (hg : s.Gated id) : approvedAt s ctx = false := by
  obtain ⟨sp, l, hsp, hl, hgroups, happrovers⟩ := hg
  obtain ⟨hspace, hlocation, -, hpolicy, -⟩ := contextAt_ok hctx
  rw [hspace] at hsp
  cases hsp
  rw [hlocation] at hl
  cases hl
  rw [approvedAt, hpolicy, hgroups, contextAt_space hs hctx]
  simpa using happrovers

/-! ## Requests -/

theorem book_follows (hs : w.store.Consistent) {req : BookingRequest}
    (hfresh : c.Fresh w.store w.minted (book actor req c w).2.minted)
    (hb : b ∈ (book actor req c w).2.store.bookings) (hg : w.store.Gated b.space) :
    w.store.Follows b := by
  refine follows_of_ok hb fun d w' hrun hb => ?_
  rw [hrun] at hfresh
  obtain ⟨a, v, hadm, -, hd, s, hinsert, hw'⟩ := book_ok hrun
  obtain ⟨-, hctx, -⟩ := admitNew_ok hadm
  rw [hw'.store] at hb
  rcases (Store.insertBooking_exchange hs.toOrdered hinsert).mem_of_mem hb with hnew | hold
  · cases hnew
    have hid : b.id = c.mint w.minted := by
      rw [hd]
      rfl
    have hspace : b.space = req.space := by
      rw [hd]
      exact contextAt_space hs.toOrdered hctx
    have hlt : w.minted < w'.minted := by
      rw [hw'.minted]
      exact Nat.lt_succ_self _
    refine .came (fun old hold heq => absurd (heq.trans hid) ?_) ?_
    · exact hfresh.bookings w.minted (Nat.le_refl _) hlt old hold
    · rw [hspace] at hg
      rw [hd]
      exact approvedAt_of_gated hs.toOrdered hctx hg
  · exact .of_mem hold

theorem rebook_follows (hs : w.store.Consistent) {req : BookingRequest}
    (hb : b ∈ (rebook actor id req c w).2.store.bookings) (hg : w.store.Gated b.space) :
    w.store.Follows b := by
  refine follows_of_ok hb fun d w' hrun hb => ?_
  obtain ⟨old, u, a, v, -, hadm, hu, -, hold, hd, s, hupdate, hw'⟩ := rebook_ok hrun
  obtain ⟨-, hctx, -⟩ := admitChange_ok hadm
  rw [hu.store] at hctx
  rw [hw'.store] at hb
  obtain ⟨o, -, -, hx, -⟩ := hs.updateBooking_exchange hupdate
  rcases hx.mem_of_mem hb with hnew | hmem
  · cases hnew
    obtain ⟨hstored, -⟩ := hs.booking?_eq_some_iff.1 hold
    have hid : old.id = b.id := by
      rw [hd]
      rfl
    have hspace : b.space = a.ctx.space.id := by
      rw [hd]
      rfl
    by_cases hsame : old.space = a.ctx.space.id
    · -- it stays on the space, and being approved is carried over
      refine .stayed old hstored hid (hsame.trans hspace.symm) ?_
      rw [hd]
      exact (if_pos hsame).symm
    · -- it comes from another space, and being approved is worked out anew
      refine .came (fun o ho heq => ?_) ?_
      · rw [hs.eq_of_id ho hstored (heq.trans hid.symm), hspace]
        exact hsame
      · rw [hspace, contextAt_space hs.toOrdered hctx] at hg
        rw [hd]
        exact (if_neg hsame).trans (approvedAt_of_gated hs.toOrdered hctx hg)
  · exact .of_mem hmem

theorem cancel_follows (hs : w.store.Consistent)
    (hb : b ∈ (cancel actor id c w).2.store.bookings) : w.store.Follows b := by
  refine follows_of_ok hb fun _ w' hrun hb => ?_
  obtain ⟨old, s, -, hdelete, hw'⟩ := cancel_ok hrun
  exact .of_deleteBooking hs hdelete (hw'.store ▸ hb)

theorem decline_follows (hs : w.store.Consistent)
    (hb : b ∈ (decline actor id c w).2.store.bookings) : w.store.Follows b := by
  refine follows_of_ok hb fun _ w' hrun hb => ?_
  obtain ⟨old, s, -, hdelete, hw'⟩ := decline_ok hrun
  exact .of_deleteBooking hs hdelete (hw'.store ▸ hb)

theorem cancelSeries_follows (hs : w.store.Consistent)
    (hb : b ∈ (cancelSeries actor id c w).2.store.bookings) : w.store.Follows b := by
  obtain ⟨done, v, hv, hbv⟩ : ∃ done v, Dissolved id c.now w done v ∧ b ∈ v.store.bookings := by
    rcases hrun : cancelSeries actor id c w with ⟨o, w'⟩
    rw [hrun] at hb
    cases cancelSeries_run hs hrun with
    | stopped _ hdissolved _ => exact ⟨_, _, hdissolved, hb⟩
    | through _ hdissolved hw' =>
      rw [hw'.store] at hb
      exact ⟨_, _, hdissolved, hb⟩
  obtain ⟨old, hold, heq⟩ := hv.mem_bookings hbv
  rw [heq]
  exact .stayed old hold rfl rfl rfl

/-- After the instances of a series were gone through, a booking is one of these or was there. -/
theorem Attempted.mem_bookings {req : SeriesRequest} {plan : SeriesPlan} {as : List Attempt}
    (h : Attempted c actor req w plan as v) (hs : w.store.Ordered) (hb : b ∈ v.store.bookings) :
    b ∈ w.store.bookings ∨ ∃ n, w.minted ≤ n ∧ n < v.minted ∧ b.id = c.mint n ∧
      b.space = plan.ctx.space.id ∧ b.approved = plan.approved := by
  obtain ⟨u, hu, hrun⟩ := h.run
  rcases List.mem_append.1 ((h.bookings hs).mem_iff.1 hb) with hmade | hold
  · obtain ⟨a, ha, hbooking⟩ := List.mem_filterMap.1 hmade
    rcases hrun.outcome a ha with ⟨failure, hout⟩ | ⟨n, hle, hlt, hout⟩
    · simp [Attempt.booking?, hout] at hbooking
    · simp only [Attempt.booking?, hout, Option.some.injEq] at hbooking
      rw [hu.minted] at hle
      subst hbooking
      exact .inr ⟨n, Nat.le_of_succ_le hle, hlt, rfl, rfl, rfl⟩
  · exact .inl hold

theorem Attempted.follows {req : SeriesRequest} {plan : SeriesPlan} {as : List Attempt}
    (h : Attempted c actor req w plan as v) (hs : w.store.Ordered)
    (hfresh : c.Fresh w.store w.minted v.minted) (hb : b ∈ v.store.bookings)
    (hg : w.store.Gated b.space) : w.store.Follows b := by
  rcases h.mem_bookings hs hb with hold | ⟨n, hle, hlt, hid, hspace, happroved⟩
  · exact .of_mem hold
  · obtain ⟨u, hplan⟩ := h.planned
    obtain ⟨-, hctx, -, -, -, -, -, hstart⟩ := planSeries_ok hplan
    refine .came (fun old hold heq => absurd (heq.trans hid) (hfresh.bookings n hle hlt old hold)) ?_
    rw [hspace, contextAt_space hs hctx] at hg
    rw [happroved, hstart]
    exact approvedAt_of_gated hs hctx hg

theorem bookSeries_follows (hs : w.store.Ordered) {req : SeriesRequest}
    (hfresh : c.Fresh w.store w.minted (bookSeries actor req c w).2.minted)
    (hb : b ∈ (bookSeries actor req c w).2.store.bookings) (hg : w.store.Gated b.space) :
    w.store.Follows b := by
  rcases hrun : bookSeries actor req c w with ⟨o, w'⟩
  rw [hrun] at hfresh hb
  cases bookSeries_run hrun with
  | failed _ hw' _ => exact .of_mem (hw'.store ▸ hb)
  | stuck _ hattempted _ hw' _ =>
    exact hattempted.follows hs (hfresh.mono (Nat.le_refl _) hw'.minted) (hw'.store ▸ hb) hg
  | dropped hattempted _ hdelete hw' =>
    have hbookings := (Store.deleteSeries_seriesOnly hdelete).sameLedgers.bookings
    rw [hw'.store, hbookings] at hb
    exact hattempted.follows hs (hw'.minted ▸ hfresh) hb hg
  | kept hattempted _ hw' =>
    exact hattempted.follows hs (hw'.minted ▸ hfresh) (hw'.store ▸ hb) hg

/-! ## Decisions -/

theorem approve_decides {d : Booking} (h : approve actor id c w = (.ok d, w')) :
    ∃ old, w.store.booking? id = some old ∧ old.approved = false ∧
      MayDecide w.store actor old.space := by
  obtain ⟨old, u, hold, -⟩ := bind_eq_ok_iff.1 h
  exact ⟨old, (undecided_ok hold).2⟩

theorem decline_decides (h : decline actor id c w = (.ok (), w')) :
    ∃ old, w.store.booking? id = some old ∧ old.approved = false ∧
      MayDecide w.store actor old.space := by
  obtain ⟨old, u, hold, -⟩ := bind_eq_ok_iff.1 h
  exact ⟨old, (undecided_ok hold).2⟩

/-- After an approval, the booking is approved where it was, and all others follow. -/
theorem approve_follows (hs : w.store.Consistent)
    (hb : b ∈ (approve actor id c w).2.store.bookings) :
    w.store.Follows b ∨ b.id = id ∧ b.approved = true ∧ w.store.BookedOn id b.space ∧
      (approve actor id c w).1 = .ok b ∧ MayDecide w.store actor b.space := by
  rcases hrun : approve actor id c w with ⟨failure | d, w'⟩
  · rw [hrun, (Cautious.untouched hrun).store] at hb
    exact .inl (.of_mem hb)
  · rw [hrun] at hb
    obtain ⟨old, s, hold, hd, hupdate, hw'⟩ := approve_ok hrun
    obtain ⟨o, ho, -, hmay⟩ := approve_decides hrun
    rw [hold] at ho
    cases ho
    rw [hw'.store] at hb
    obtain ⟨o, -, -, hx, -⟩ := hs.updateBooking_exchange hupdate
    rcases hx.mem_of_mem hb with hnew | hmem
    · cases hnew
      obtain ⟨hstored, hid⟩ := hs.booking?_eq_some_iff.1 hold
      subst hd
      exact .inr ⟨hid, rfl, ⟨old, hstored, hid, rfl⟩, rfl, hmay⟩
    · exact .inl (.of_mem hmem)

end Service

/-! ## Steps -/

/-- Somebody who may decide on bookings of a space approves a booking. -/
def Step.Approves (w : World) (id space : Id) (st : Step) : Prop :=
  ∃ c actor b, st = .request c (.approve actor id) ∧ (approve actor id c w).1 = .ok b ∧
    MayDecide w.store actor space

/-- A booking is approved or declined. -/
def Step.Decides (w : World) (id : Id) (st : Step) : Prop :=
  ∃ c actor, (st = .request c (.approve actor id) ∧ ∃ b, (approve actor id c w).1 = .ok b) ∨
    (st = .request c (.decline actor id) ∧ (decline actor id c w).1 = .ok ())

variable {w : World} {st : Step} {sts : List Step} {id space : Id} {b : Booking}

/-- **A step leaves bookings that follow from those before it**, or approves one that is on the
space. -/
theorem Step.follows (hs : w.store.Consistent) (hfresh : st.Fresh w)
    (hb : b ∈ (st.apply w).store.bookings) (hg : w.store.Gated b.space) :
    w.store.Follows b ∨
      b.approved = true ∧ w.store.BookedOn b.id b.space ∧ st.Approves w b.id b.space := by
  cases st with
  | administration a => exact .inl (.of_mem (a.mem_of_mem hb))
  | request c r =>
    cases r with
    | book actor req => exact .inl (book_follows hs hfresh hb hg)
    | rebook actor id req => exact .inl (rebook_follows hs hb hg)
    | cancel actor id => exact .inl (cancel_follows hs hb)
    | bookSeries actor req => exact .inl (bookSeries_follows hs.toOrdered hfresh hb hg)
    | precheckSeries actor req =>
      have hw' := Reads.unchanged (r := .reliable) (x := precheckSeries actor req) c w
      exact .inl (.of_mem (hw'.store ▸ hb))
    | cancelSeries actor id => exact .inl (cancelSeries_follows hs hb)
    | approve actor id =>
      refine (approve_follows hs hb).imp_right ?_
      rintro ⟨rfl, happroved, hbooked, hrun, hmay⟩
      exact ⟨happroved, hbooked, c, actor, b, rfl, hrun, hmay⟩
    | decline actor id => exact .inl (decline_follows hs hb)

/-- What is decided on was not approved. -/
theorem Step.Decides.undecided (h : st.Decides w id) :
    ∃ old, w.store.booking? id = some old ∧ old.approved = false := by
  obtain ⟨c, actor, ⟨-, b, hrun⟩ | ⟨-, hrun⟩⟩ := h
  · obtain ⟨old, hold, hwaits, -⟩ := approve_decides (Prod.ext hrun rfl)
    exact ⟨old, hold, hwaits⟩
  · obtain ⟨old, hold, hwaits, -⟩ := decline_decides (Prod.ext hrun rfl)
    exact ⟨old, hold, hwaits⟩

/-- What was decided on is approved now, or gone. -/
theorem Step.Decides.approved (h : st.Decides w id) (hs : w.store.Consistent)
    (hs' : (st.apply w).store.Consistent) (hb : b ∈ (st.apply w).store.bookings)
    (hid : b.id = id) : b.approved = true := by
  have hfound := hs'.booking?_eq_some_iff.2 ⟨hb, hid⟩
  obtain ⟨c, actor, ⟨rfl, d, hrun⟩ | ⟨rfl, hrun⟩⟩ := h
  · obtain ⟨old, hd, hdiffers⟩ := (approve_allOrNothing hs actor id).all (Prod.ext hrun rfl)
    have hafter : some b = some d := hfound.symm.trans hdiffers.after
    cases hafter
    rw [hd]
  · obtain ⟨old, hdiffers⟩ := (decline_allOrNothing hs actor id).all (Prod.ext hrun rfl)
    have hafter : some b = none := hfound.symm.trans hdiffers.after
    cases hafter

/-! ## Runs -/

/-- A run during which a space has approvers, starting when no booking is on it. -/
structure GatedRun (space : Id) (w : World) (sts : List Step) : Prop where
  reachable : Reachable Step.Fresh w
  fresh : Step.Allowed (fun w st => st.Fresh w) w sts
  empty : ∀ b ∈ w.store.bookings, b.space ≠ space
  gated : ∀ k ≤ sts.length, (Step.world w sts k).store.Gated space

namespace GatedRun

variable (h : GatedRun space w sts)

include h

theorem consistent (k : Nat) : (Step.world w sts k).store.Consistent :=
  (h.reachable.world h.fresh k).consistent

/-- One step of the run. -/
theorem follows {k : Nat} (hst : sts[k]? = some st)
    (hb : b ∈ (Step.world w sts (k + 1)).store.bookings) (hspace : b.space = space) :
    (Step.world w sts k).store.Follows b ∨ b.approved = true ∧
      (Step.world w sts k).store.BookedOn b.id space ∧
      st.Approves (Step.world w sts k) b.id space := by
  have hlt : k < sts.length := (List.getElem?_eq_some_iff.1 hst).1
  have hg := h.gated k (Nat.le_of_lt hlt)
  subst hspace
  rw [Step.world_succ hst] at hb
  exact Step.follows (h.consistent k) (h.fresh.at hst) hb hg

/-- **A booking that is approved was approved while on the space**, by induction on the run. -/
theorem approved_since {n : Nat} (hn : n ≤ sts.length) :
    ∀ b ∈ (Step.world w sts n).store.bookings, b.space = space → b.approved = true →
      ∃ i st, i < n ∧ sts[i]? = some st ∧ st.Approves (Step.world w sts i) b.id space ∧
        ∀ k, i ≤ k → k ≤ n → (Step.world w sts k).store.BookedOn b.id space := by
  induction n with
  | zero =>
    intro b hb hspace
    exact absurd hspace (h.empty b hb)
  | succ n ih =>
    intro b hb hspace happroved
    have hst : sts[n]? = some sts[n] := List.getElem?_eq_getElem hn
    have hnow : (Step.world w sts (n + 1)).store.BookedOn b.id space := ⟨b, hb, rfl, hspace⟩
    rcases h.follows hst hb hspace with hfollows | ⟨-, hbooked, happroves⟩
    · cases hfollows with
      | stayed old hold hid hsame heq =>
        -- it was approved before the step already
        obtain ⟨i, st, hi, hsti, happroves, hstay⟩ :=
          ih (Nat.le_of_succ_le hn) old hold (hsame.trans hspace) (heq.trans happroved)
        rw [hid] at happroves hstay
        refine ⟨i, st, Nat.lt_succ_of_lt hi, hsti, happroves, fun k hik hkn => ?_⟩
        rcases Nat.lt_or_eq_of_le hkn with hlt | rfl
        · exact hstay k hik (Nat.le_of_lt_succ hlt)
        · exact hnow
      | came _ hwaits =>
        rw [happroved] at hwaits
        cases hwaits
    · -- the step approved it
      refine ⟨n, sts[n], Nat.lt_succ_self n, hst, happroves, fun k hnk hkn => ?_⟩
      rcases Nat.lt_or_eq_of_le hkn with hlt | rfl
      · obtain rfl : k = n := by omega
        exact hbooked
      · exact hnow

/-- As long as a booking stays on the space it stays approved. -/
theorem stays_approved {i n : Nat} (hin : i ≤ n) (hn : n ≤ sts.length)
    (hstay : ∀ k, i ≤ k → k ≤ n → (Step.world w sts k).store.BookedOn id space)
    (happroved : ∀ b ∈ (Step.world w sts i).store.bookings, b.id = id → b.approved = true) :
    ∀ b ∈ (Step.world w sts n).store.bookings, b.id = id → b.approved = true := by
  induction n, hin using Nat.le_induction with
  | base => exact happroved
  | succ n hin ih =>
    intro b hb hid
    have hst : sts[n]? = some sts[n] := List.getElem?_eq_getElem hn
    have hbefore := ih (Nat.le_of_succ_le hn) fun k hik hkn => hstay k hik (Nat.le_succ_of_le hkn)
    obtain ⟨d, hd, hdid, hspace⟩ := hstay (n + 1) (Nat.le_succ_of_le hin) (Nat.le_refl _)
    obtain rfl := (h.consistent (n + 1)).eq_of_id hd hb (hdid.trans hid.symm)
    rcases h.follows hst hb hspace with hfollows | ⟨happroved, -⟩
    · cases hfollows with
      | stayed old hold hold_id _ heq =>
        rw [← heq]
        exact hbefore old hold (hold_id.trans hid)
      | came hother _ =>
        obtain ⟨old, hold, hold_id, hsame⟩ := hstay n hin (Nat.le_succ n)
        exact absurd (hsame.trans hspace.symm) (hother old hold (hold_id.trans hid.symm))
    · exact happroved

/-- **A booking is decided on once at most** while it is on the space. -/
theorem decided_once {i j : Nat} {st st' : Step} (hij : i < j) (hi : sts[i]? = some st)
    (hj : sts[j]? = some st') (hfirst : st.Decides (Step.world w sts i) id)
    (hsecond : st'.Decides (Step.world w sts j) id) :
    ∃ k, i < k ∧ k ≤ j ∧ ¬ (Step.world w sts k).store.BookedOn id space := by
  by_contra hnone
  push Not at hnone
  have hjlt : j < sts.length := (List.getElem?_eq_some_iff.1 hj).1
  have happroved : ∀ b ∈ (Step.world w sts (i + 1)).store.bookings, b.id = id →
      b.approved = true := by
    intro b hb hid
    have hs' := h.consistent (i + 1)
    rw [Step.world_succ hi] at hb hs'
    exact hfirst.approved (h.consistent i) hs' hb hid
  obtain ⟨old, hold, hwaits⟩ := hsecond.undecided
  obtain ⟨hstored, hid⟩ := (h.consistent j).booking?_eq_some_iff.1 hold
  have hstill := h.stays_approved hij (Nat.le_of_lt hjlt) hnone happroved old hstored hid
  rw [hwaits] at hstill
  cases hstill

end GatedRun

/-- **No booking is on a space with approvers approved without a decision.** In a run of any
requests and administration during which the space has approvers, from when no booking was on it:
an approved booking on the space was approved by somebody who could then decide, and has been on the
space ever since. And while it is on the space, a booking is approved or declined once at most. -/
theorem gated_space_approvals (h : GatedRun space w sts) :
    (∀ n ≤ sts.length, ∀ b ∈ (Step.world w sts n).store.bookings, b.space = space →
      b.approved = true →
      ∃ i st, i < n ∧ sts[i]? = some st ∧ st.Approves (Step.world w sts i) b.id space ∧
        ∀ k, i ≤ k → k ≤ n → (Step.world w sts k).store.BookedOn b.id space) ∧
    ∀ i j st st' id, i < j → sts[i]? = some st → sts[j]? = some st' →
      st.Decides (Step.world w sts i) id → st'.Decides (Step.world w sts j) id →
      ∃ k, i < k ∧ k ≤ j ∧ ¬ (Step.world w sts k).store.BookedOn id space :=
  ⟨fun _ hn => h.approved_since hn, fun _ _ _ _ _ => h.decided_once⟩

namespace Sample

/-- A member of the group that approves for the desk. -/
def member : User := ⟨.ofNat 6, .ofNat 1, .user⟩

/-- A desk with approvers, and a room without. -/
def gatedWorld : World :=
  [.administration (.putLocation location), .administration (.putSpace desk [.ofNat 7] []),
    .administration (.putSpace room [] []), .administration (.addMembership member.id (.ofNat 7))]
    |>.foldl Step.apply {}

/-- The booking is approved, moved on the desk, moved to the room and back, and approved again. -/
def gatedSteps : List Step :=
  [.request conditions (.book admin request), .request conditions (.approve member (.ofNat 100)),
    .request conditions (.rebook admin (.ofNat 100) later),
    .request conditions (.rebook admin (.ofNat 100) { later with space := .ofNat 5 }),
    .request conditions (.rebook admin (.ofNat 100) later),
    .request conditions (.approve member (.ofNat 100))]

theorem gatedRun : GatedRun (.ofNat 4) gatedWorld gatedSteps where
  reachable := Reachable.initial.steps (by decide +kernel)
  fresh := by decide +kernel
  empty := by decide +kernel
  gated := by decide +kernel

end Sample

/-- Where the booking is after each step, and whether it is approved. It comes back from the room
without the approval that it had before, so it was approved in the last step. -/
theorem gated_space_approvals_desk :
    GatedRun (.ofNat 4) Sample.gatedWorld Sample.gatedSteps ∧
    (List.range 7).map (fun n =>
        (Step.world Sample.gatedWorld Sample.gatedSteps n).store.bookings.map fun b =>
          (b.id, b.space, b.approved)) =
      [[], [(.ofNat 100, .ofNat 4, false)], [(.ofNat 100, .ofNat 4, true)],
        [(.ofNat 100, .ofNat 4, true)], [(.ofNat 100, .ofNat 5, true)],
        [(.ofNat 100, .ofNat 4, false)], [(.ofNat 100, .ofNat 4, true)]] ∧
    ∃ st, Sample.gatedSteps[5]? = some st ∧
      st.Approves (Step.world Sample.gatedWorld Sample.gatedSteps 5) (.ofNat 100) (.ofNat 4) := by
  refine ⟨Sample.gatedRun, by decide +kernel, ?_⟩
  have hlast : ∃ b ∈ (Step.world Sample.gatedWorld Sample.gatedSteps 6).store.bookings,
      b.id = .ofNat 100 ∧ b.space = .ofNat 4 ∧ b.approved = true := by decide +kernel
  have haway : ¬ (Step.world Sample.gatedWorld Sample.gatedSteps 4).store.BookedOn (.ofNat 100)
      (.ofNat 4) := by decide +kernel
  obtain ⟨b, hb, hid, hspace, happroved⟩ := hlast
  obtain ⟨hsince, -⟩ := gated_space_approvals Sample.gatedRun
  obtain ⟨i, st, hi, hst, happroves, hstay⟩ := hsince 6 (by decide) b hb hspace happroved
  rw [hid] at happroves hstay
  have hlate : 4 < i := by
    by_contra hearly
    exact haway (hstay 4 (by omega) (by omega))
  obtain rfl : i = 5 := by omega
  exact ⟨st, hst, happroves⟩

end SpaceBooking
