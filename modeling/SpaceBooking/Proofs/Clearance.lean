import SpaceBooking.Proofs.Effects

/-!
# What comes was let pass

Admission lets a booking pass on the ground of what is stored at that time. What it has made sure of
still holds when the booking is stored, whichever calls fail and whatever is reported as conflicts:
the counts behind the caps are not what a store can misreport.

* `checkAdmission_ok` — what admission has made sure of: no rule that applies is broken, and the
  location has room.
* `Store.Clears` — the same for a booking, under the context of its space, with the counts that its
  rules and its location then allow.
* `Store.Deed` — one thing that a request does: a booking that was cleared comes, or nothing comes.
* `Request.course` — a request does such things one after the other, or moves one booking, which was
  cleared.
-/

namespace SpaceBooking

open SpaceBooking.Action Service Relation

variable {c : Conditions} {w w' v : World} {s s' : Store} {actor : User} {id : Id} {b old : Booking}

theorem Rule.mem_chain (rule : Rule) : rule ∈ Rule.chain := by
  cases rule <;> decide

theorem Action.map_apply {ε α β : Type} (f : α → β) (x : Action ε α) (c : Conditions) (w : World) :
    (f <$> x) c w = ((x c w).1.map f, (x c w).2) := by
  show (x >>= fun a => pure (f a)) c w = _
  rw [bind_apply]
  rcases x c w with ⟨_ | a, v⟩ <;> rfl

namespace Service

/-- **What admission has made sure of**, whatever was reported as conflicts. -/
theorem checkAdmission_ok {ctx : SpaceContext} {owner : Id} {span : Span} {exclude : Option Id}
    {pending : List Span}
    (h : checkAdmission ctx actor owner span exclude pending c w = (.ok (), w')) :
    brokenRule? c w.store ctx.policy ctx.zone
        (candidateFor ctx actor owner span exclude pending c.now) = none ∧
      fullAt w.store ctx.location span exclude = false := by
  unfold checkAdmission at h
  obtain ⟨now, u₁, hnow, h⟩ := bind_eq_ok_iff.1 h
  cases hnow
  obtain ⟨verdict, u₂, hverdict, h⟩ := bind_eq_ok_iff.1 h
  obtain ⟨_, u₃, hkept, h⟩ := bind_eq_ok_iff.1 h
  obtain ⟨holders, u₄, hholders, h⟩ := bind_eq_ok_iff.1 h
  obtain ⟨_, u₅, hfree, h⟩ := bind_eq_ok_iff.1 h
  obtain ⟨_, u₆, hapart, h⟩ := bind_eq_ok_iff.1 h
  obtain ⟨full, u₇, hfull, h⟩ := bind_eq_ok_iff.1 h
  -- the search for conflicts may report anything, so only what surrounds it is read as an answer
  have hu : w.Unchanged u₆ := ((Reads.of_run hverdict).trans (Reads.of_run hkept)).trans
    (((Reads.of_run hholders).trans (Reads.of_run hfree)).trans (Reads.of_run hapart))
  obtain ⟨-, hverdict⟩ := Reads.of_ok (lift_eq_ok_iff.1 hverdict)
  obtain ⟨-, hkept⟩ := Reads.of_ok hkept
  obtain ⟨-, hfull⟩ := Reads.of_ok (lift_eq_ok_iff.1 hfull)
  obtain ⟨-, hroom⟩ := Reads.of_ok h
  rw [answer_validate, Except.ok.injEq] at hverdict
  rw [answer_refuse, checked_eq_ok_iff, ← hverdict] at hkept
  rw [answer_saturated, hu.store, Except.ok.injEq] at hfull
  rw [answer_ensure, ← hfull] at hroom
  constructor
  · cases hbroken : brokenRule? c w.store ctx.policy ctx.zone
      (candidateFor ctx actor owner span exclude pending c.now) with
    | none => rfl
    | some rule => simp [hbroken, Verdict.failure?] at hkept
  · cases hfullAt : fullAt w.store ctx.location span exclude with
    | false => rfl
    | true => simp [hfullAt] at hroom

theorem keepsRule_of_brokenRule? {policy : Policy} {zone : Zone} {candidate : Candidate}
    (h : brokenRule? c s policy zone candidate = none) {rule : Rule}
    (happlies : policy.applies candidate rule = true) :
    keepsRule c s policy zone candidate rule = true := by
  have hkept := List.find?_eq_none.1 h rule (List.mem_filter.2 ⟨rule.mem_chain, happlies⟩)
  simpa using hkept

theorem withinCap_iff {cap : Int} (hcap : 0 < cap) {n : Nat} :
    withinCap cap n = true ↔ (n : Int) < cap := by
  simp only [withinCap, Bool.or_eq_true, decide_eq_true_eq]
  omega

end Service

/-! ## Bookings that were let pass -/

namespace Store

/-- A booking can come as things stand: it breaks no rule that applies, and its location has room.
What is counted leaves one identifier out. -/
def Clears (c : Conditions) (s : Store) (actor : User) (b : Booking) (exclude : Option Id) : Prop :=
  ∃ ctx, contextAt c s actor b.space = .ok ctx ∧
    brokenRule? c s ctx.policy ctx.zone
      (candidateFor ctx actor b.owner b.span exclude [] c.now) = none ∧
    fullAt s ctx.location b.span exclude = false

/-- The policy of each organization that has a location satisfies a condition. -/
def EveryPolicy (P : Policy → Prop) (s : Store) : Prop :=
  ∀ l ∈ s.locations.values, P (s.policyOf l.org)

instance (P : Policy → Prop) [DecidablePred P] (s : Store) : Decidable (s.EveryPolicy P) :=
  inferInstanceAs (Decidable (∀ l ∈ s.locations.values, P (s.policyOf l.org)))

namespace Clears

variable {exclude : Option Id} {cap : Int}

/-- The rules that a policy makes for everybody are kept. -/
theorem keepsRule {P : Policy → Prop} (h : s.Clears c actor b exclude) (hp : s.EveryPolicy P) :
    ∃ ctx : SpaceContext, P ctx.policy ∧
      ∀ rule, ctx.policy.applies (candidateFor ctx actor b.owner b.span exclude [] c.now) rule →
        Service.keepsRule c s ctx.policy ctx.zone
          (candidateFor ctx actor b.owner b.span exclude [] c.now) rule = true := by
  obtain ⟨ctx, hctx, hbroken, -⟩ := h
  obtain ⟨-, hlocation, -, hpolicy, -⟩ := contextAt_ok hctx
  refine ⟨ctx, ?_, fun rule => keepsRule_of_brokenRule? hbroken⟩
  rw [hpolicy]
  exact hp _ (Table.mem_values_iff.2 ⟨_, hlocation⟩)

/-- The owner has fewer bookings at that time than the cap allows. -/
theorem countOverlapping_lt (h : s.Clears c actor b exclude) (hcap : 0 < cap)
    (hp : s.EveryPolicy fun p => p.maxConcurrentPerUser = cap ∧ p.noAdminRestrictions = false) :
    (s.countOverlapping b.owner b.span exclude : Int) < cap := by
  obtain ⟨ctx, ⟨hmax, hall⟩, hkept⟩ := h.keepsRule hp
  have hrule := hkept .userConcurrent (by simp [Policy.applies, Policy.exempts, hall])
  rwa [Service.keepsRule, hmax, withinCap_iff hcap] at hrule

/-- The owner has fewer bookings ahead than the cap allows, if this is a new one. -/
theorem countUpcoming_lt (h : s.Clears c actor b none) (hcap : 0 < cap)
    (hp : s.EveryPolicy fun p => p.maxUpcomingPerUser = cap ∧ p.noAdminRestrictions = false) :
    (s.countUpcoming b.owner c.now : Int) < cap := by
  obtain ⟨ctx, ⟨hmax, hall⟩, hkept⟩ := h.keepsRule hp
  have hrule := hkept .upcomingCap (by simp [Policy.applies, Policy.exempts, hall, candidateFor])
  rwa [Service.keepsRule, hmax, withinCap_iff hcap] at hrule

/-- The location has fewer bookings at that time than its cap allows. -/
theorem countInLocation_lt (h : s.Clears c actor b exclude) :
    ∃ sp l, s.spaces.get? b.space = some sp ∧ s.locations.get? sp.location = some l ∧
      (l.maxConcurrent ≠ 0 → s.countInLocation l.id b.span exclude < l.maxConcurrent) := by
  obtain ⟨ctx, hctx, -, hroom⟩ := h
  obtain ⟨hspace, hlocation, -, -⟩ := contextAt_ok hctx
  refine ⟨ctx.space, ctx.location, hspace, hlocation, fun hcap => ?_⟩
  rw [fullAt, decide_eq_true hcap, Bool.true_and, decide_eq_false_iff_not] at hroom
  exact Nat.lt_of_not_le hroom

end Clears

end Store

/-! ## What requests do to the bookings -/

/-- The booking is still for its owner, on its space and over its span. -/
structure Booking.Stands (b old : Booking) : Prop where
  id : b.id = old.id
  owner : b.owner = old.owner
  space : b.space = old.space
  span : b.span = old.span

theorem Booking.Stands.refl (b : Booking) : b.Stands b := ⟨rfl, rfl, rfl, rfl⟩

namespace Store

/-- No booking comes and none is moved: each that is stored was stored before. -/
structure Recedes (s s' : Store) : Prop where
  setup : s.SameSetup s'
  consistent : s'.Consistent
  stood : ∀ b ∈ s'.bookings, ∃ old ∈ s.bookings, b.Stands old

theorem SeriesOnly.recedes (h : s.SeriesOnly s') (hs : s.Consistent) : s.Recedes s' where
  setup := h.sameSetup
  consistent := h.sameLedgers.consistent hs
  stood b hb := ⟨b, h.sameLedgers.bookings ▸ hb, .refl b⟩

/-- A booking went, or was changed without being moved. -/
theorem Exchange.recedes {new : Option Booking} (h : s.Exchange (some old) new s')
    (hs : s.Consistent) (hnew : ∀ b, new = some b → b.Stands old) : s.Recedes s' where
  setup := h.setup
  consistent := h.consistent hs fun b hb => .inl (congrArg some (hnew b hb).id.symm)
  stood b hb := by
    rcases h.mem_of_mem hb with hb | hb
    · exact ⟨old, h.gone_mem, hnew b hb⟩
    · exact ⟨b, hb, .refl b⟩

/-- One thing that a request does to the bookings. -/
inductive Deed (c : Conditions) (actor : User) (s s' : Store) : Prop where
  /-- A booking that was cleared comes under a new identifier. -/
  | booked (b : Booking) : (∀ d ∈ s.bookings, d.id ≠ b.id) → s.Clears c actor b none →
      s.Exchange none (some b) s' → Deed c actor s s'
  | receded : s.Recedes s' → Deed c actor s s'

theorem Deed.consistent (h : s.Deed c actor s') (hs : s.Consistent) : s'.Consistent := by
  cases h with
  | booked b hfresh _ hx =>
    refine hx.consistent hs ?_
    rintro _ ⟨⟩
    exact .inr ⟨rfl, hfresh⟩
  | receded h => exact h.consistent

theorem Consistent.of_deeds (hs : s.Consistent) (h : ReflTransGen (Deed c actor) s s') :
    s'.Consistent := by
  induction h with
  | refl => exact hs
  | tail _ hlast ih => exact hlast.consistent ih

theorem Deed.setup (h : s.Deed c actor s') : s.SameSetup s' := by
  cases h with
  | booked _ _ _ hx => exact hx.setup
  | receded h => exact h.setup

theorem SameSetup.of_deeds (h : ReflTransGen (Deed c actor) s s') : s.SameSetup s' := by
  induction h with
  | refl => exact .refl s
  | tail _ hlast ih => exact ih.trans hlast.setup

/-- **How a request can go**: it moves one booking, if it asks for that, or has some deeds in a
row. -/
inductive Course (c : Conditions) (s s' : Store) : Request → Prop where
  /-- The booking was cleared where it comes to, itself left out. -/
  | moved (actor : User) (id : Id) (req : BookingRequest) (old b : Booking) : old.id = id →
      b.id = id → b.owner = old.owner → s.Clears c actor b (some id) →
      s.Exchange (some old) (some b) s' → Course c s s' (.rebook actor id req)
  | deeds (r : Request) : ReflTransGen (Deed c r.actor) s s' → Course c s s' r

end Store

theorem Dissolved.recedes {now : Int} {done : List Booking}
    (h : Dissolved id now w done w') : w.store.Recedes w'.store where
  setup := h.setup
  consistent := h.consistent
  stood b hb := by
    obtain ⟨old, hold, heq⟩ := h.mem_bookings hb
    refine ⟨old, hold, ?_⟩
    rw [heq]
    exact ⟨rfl, rfl, rfl, rfl⟩

namespace Service

/-- An action that fails without a trace goes the way that its good ends show. -/
theorem course_of_ok {α : Type} {x : Action Failure α} [hx : Cautious x] {r : Request}
    (h : ∀ a w', x c w = (.ok a, w') → w.store.Course c w'.store r) :
    w.store.Course c (x c w).2.store r := by
  rcases hrun : x c w with ⟨failure | a, w'⟩
  · rw [(hx.untouched hrun).store]
    exact .deeds r .refl
  · exact h a w' hrun

/-- A booking was cleared if admission let its owner and span pass on its space. -/
theorem clears_of_checkAdmission {ctx : SpaceContext} {exclude : Option Id} (hs : w.store.Ordered)
    (hctx : contextAt c w.store actor id = .ok ctx) (hspace : b.space = ctx.space.id)
    (h : checkAdmission ctx actor b.owner b.span exclude [] c w = (.ok (), w')) :
    w.store.Clears c actor b exclude := by
  rw [← contextAt_space hs hctx, ← hspace] at hctx
  exact ⟨ctx, hctx, checkAdmission_ok h⟩

theorem admitNew_clears {req : BookingRequest} {a : Admitted} (hs : w.store.Ordered)
    (h : admitNew actor req c w = (.ok a, w')) (id : Id) (approved : Bool) :
    w.store.Clears c actor (a.booking id approved) none := by
  unfold admitNew at h
  obtain ⟨ctx, u₁, hctx, h⟩ := bind_eq_ok_iff.1 h
  obtain ⟨owner, u₂, howner, h⟩ := bind_eq_ok_iff.1 h
  obtain ⟨span, u₃, hspan, h⟩ := bind_eq_ok_iff.1 h
  obtain ⟨_, u₄, hsubject, h⟩ := bind_eq_ok_iff.1 h
  obtain ⟨_, u₅, hadm, h⟩ := bind_eq_ok_iff.1 h
  cases h
  obtain ⟨hu₁, hctx⟩ := Reads.of_ok hctx
  have hu : w.Unchanged u₄ := (hu₁.trans (Reads.of_run howner)).trans
    ((Reads.of_run hspan).trans (Reads.of_run hsubject))
  rw [answer_spaceContext] at hctx
  obtain ⟨k, m, rfl⟩ := hu.exists_eq
  exact clears_of_checkAdmission (w := { w with calls := k, metrics := m }) hs hctx rfl hadm

theorem admitChange_clears {req : BookingRequest} {a : Admitted} (hs : w.store.Ordered)
    (h : admitChange actor old req c w = (.ok a, w')) :
    w.store.Clears c actor (changed w.store old a) (some old.id) := by
  unfold admitChange at h
  obtain ⟨_, u₁, hold, h⟩ := bind_eq_ok_iff.1 h
  obtain ⟨_, u₂, hright, h⟩ := bind_eq_ok_iff.1 h
  obtain ⟨ctx, u₃, hctx, h⟩ := bind_eq_ok_iff.1 h
  obtain ⟨_, u₄, hknown, h⟩ := bind_eq_ok_iff.1 h
  obtain ⟨span, u₅, hspan, h⟩ := bind_eq_ok_iff.1 h
  obtain ⟨_, u₆, hsubject, h⟩ := bind_eq_ok_iff.1 h
  obtain ⟨_, u₇, hadm, h⟩ := bind_eq_ok_iff.1 h
  cases h
  have hu₂ : w.Unchanged u₂ := (Reads.of_run hold).trans (Reads.of_run hright)
  obtain ⟨hu₃, hctx⟩ := Reads.of_ok hctx
  have hu : w.Unchanged u₆ := (hu₂.trans hu₃).trans
    ((Reads.of_run hknown).trans ((Reads.of_run hspan).trans (Reads.of_run hsubject)))
  rw [answer_spaceContext, hu₂.store] at hctx
  obtain ⟨k, m, rfl⟩ := hu.exists_eq
  exact clears_of_checkAdmission (w := { w with calls := k, metrics := m }) hs hctx rfl hadm

theorem book_course (hs : w.store.Consistent) {req : BookingRequest}
    (hfresh : c.Fresh w.store w.minted (book actor req c w).2.minted) :
    w.store.Course c (book actor req c w).2.store (.book actor req) := by
  refine course_of_ok fun b w' hrun => ?_
  rw [hrun] at hfresh
  obtain ⟨a, v, hadm, -, hb, s, hinsert, hw'⟩ := book_ok hrun
  have hclear : w.store.Clears c actor b none := by
    rw [hb]
    exact admitNew_clears hs.toOrdered hadm _ _
  have hlt : w.minted < w'.minted := by
    rw [hw'.minted]
    exact Nat.lt_succ_self _
  have hid : b.id = c.mint w.minted := by
    rw [hb]
    rfl
  rw [hw'.store]
  refine .deeds _ (.single (.booked b ?_ hclear
    (Store.insertBooking_exchange hs.toOrdered hinsert)))
  rw [hid]
  exact hfresh.bookings w.minted (Nat.le_refl _) hlt

theorem rebook_course (hs : w.store.Consistent) (req : BookingRequest) :
    w.store.Course c (rebook actor id req c w).2.store (.rebook actor id req) := by
  refine course_of_ok fun b w' hrun => ?_
  obtain ⟨old, u, a, v, -, hadm, hu, -, hold, hb, s, hupdate, hw'⟩ := rebook_ok hrun
  obtain ⟨hstored, rfl⟩ := hs.booking?_eq_some_iff.1 hold
  obtain ⟨k, m, rfl⟩ := hu.exists_eq
  have hclear : w.store.Clears c actor b (some old.id) := by
    rw [hb]
    exact admitChange_clears (w := { w with calls := k, metrics := m }) hs.toOrdered hadm
  obtain ⟨o, ho, hoid, hx, -⟩ := hs.updateBooking_exchange hupdate
  have hbid : b.id = old.id := by
    rw [hb]
    rfl
  obtain rfl := hs.eq_of_id ho hstored (hoid.trans hbid)
  rw [hw'.store]
  refine .moved actor o.id req o b rfl hbid ?_ hclear hx
  rw [hb]
  rfl

theorem approve_course (hs : w.store.Consistent) :
    w.store.Course c (approve actor id c w).2.store (.approve actor id) := by
  refine course_of_ok fun b w' hrun => ?_
  obtain ⟨old, s, hold, hb, hupdate, hw'⟩ := approve_ok hrun
  have hstands : b.Stands old := by
    rw [hb]
    exact ⟨rfl, rfl, rfl, rfl⟩
  obtain ⟨o, ho, hoid, hx, -⟩ := hs.updateBooking_exchange hupdate
  obtain rfl := hs.eq_of_id ho (hs.booking?_eq_some_iff.1 hold).1 (hoid.trans hstands.id)
  rw [hw'.store]
  refine .deeds _ (.single (.receded (hx.recedes hs ?_)))
  rintro _ ⟨⟩
  exact hstands

/-- A booking was removed. -/
theorem recedes_of_deleteBooking (hs : s.Consistent) (h : s.deleteBooking id = .ok s') :
    s.Recedes s' := by
  obtain ⟨old, -, hx⟩ := Store.deleteBooking_exchange hs h
  exact hx.recedes hs (by simp)

theorem cancel_course (hs : w.store.Consistent) :
    w.store.Course c (cancel actor id c w).2.store (.cancel actor id) := by
  refine course_of_ok fun _ w' hrun => ?_
  obtain ⟨old, s, -, hdelete, hw'⟩ := cancel_ok hrun
  rw [hw'.store]
  exact .deeds _ (.single (.receded (recedes_of_deleteBooking hs hdelete)))

theorem decline_course (hs : w.store.Consistent) :
    w.store.Course c (decline actor id c w).2.store (.decline actor id) := by
  refine course_of_ok fun _ w' hrun => ?_
  obtain ⟨old, s, -, hdelete, hw'⟩ := decline_ok hrun
  rw [hw'.store]
  exact .deeds _ (.single (.receded (recedes_of_deleteBooking hs hdelete)))

theorem cancelSeries_course (hs : w.store.Consistent) :
    w.store.Course c (cancelSeries actor id c w).2.store (.cancelSeries actor id) := by
  rcases hrun : cancelSeries actor id c w with ⟨o, w'⟩
  cases cancelSeries_run hs hrun with
  | stopped _ hdissolved _ => exact .deeds _ (.single (.receded hdissolved.recedes))
  | @through _ row v _ hdissolved hw' =>
    have hclosed : v.store.SeriesOnly w'.store := by
      rw [hw'.store]
      rfl
    exact .deeds _ (.head (.receded hdissolved.recedes)
      (.single (.receded (hclosed.recedes hdissolved.consistent))))

/-! ## Series -/

variable {plan : SeriesPlan} {series : Series} {req : SeriesRequest}

theorem bookInstance_clears {span : Span} (hs : w.store.Ordered)
    (hctx : contextAt c w.store actor id = .ok plan.ctx)
    (h : bookInstance actor plan series span c w = (.ok b, w')) :
    w.store.Clears c actor b none := by
  obtain ⟨hb, -, -⟩ := bookInstance_ok h
  unfold bookInstance at h
  obtain ⟨_, v, hadm, -⟩ := bind_eq_ok_iff.1 h
  obtain ⟨_, u, hspan, hadm⟩ := bind_eq_ok_iff.1 hadm
  obtain ⟨k, m, rfl⟩ := (Reads.of_run hspan).exists_eq
  rw [hb]
  exact clears_of_checkAdmission (w := { w with calls := k, metrics := m }) hs hctx rfl hadm

/-- The instances after the first are booked in the world that the first leaves. -/
theorem bookInstances_cons {span : Span} {spans : List Span} {as : List Attempt}
    (h : bookInstances actor plan series (span :: spans) c w = (.ok as, w')) :
    ∃ m rest, bookInstances actor plan series spans c
      { (bookInstance actor plan series span c w).2 with metrics := m } = (.ok rest, w') := by
  obtain ⟨m, hattempt⟩ := attemptInstance_apply span
    (some <$> bookInstance actor plan series span) c w
  rw [Action.map_apply] at hattempt
  rw [bookInstances, bind_of_ok hattempt] at h
  obtain ⟨rest, u, hrest, hlast⟩ := bind_eq_ok_iff.1 h
  cases hlast
  exact ⟨m, rest, hrest⟩

theorem bookInstances_minted_le {spans : List Span} {as : List Attempt}
    (h : bookInstances actor plan series spans c w = (.ok as, w')) : w.minted ≤ w'.minted := by
  obtain ⟨_, _, hsame, -, hrun⟩ := bookInstances_run actor plan series spans c w
  rw [h] at hsame
  cases hsame
  exact hrun.minted_le

/-- **Each instance of a series that is booked was cleared** as things stood after those before
it. -/
theorem bookInstances_deeds {spans : List Span} {as : List Attempt} (hs : w.store.Ordered)
    (hctx : contextAt c w.store actor id = .ok plan.ctx)
    (h : bookInstances actor plan series spans c w = (.ok as, w'))
    (hfresh : c.Fresh w.store w.minted w'.minted) :
    ReflTransGen (Store.Deed c actor) w.store w'.store := by
  induction spans generalizing w as with
  | nil =>
    cases h
    exact .refl
  | cons span spans ih =>
    obtain ⟨m, rest, hrest⟩ := bookInstances_cons h
    have hle := bookInstances_minted_le hrest
    rcases hbook : bookInstance actor plan series span c w with ⟨failure | b, v⟩
    · rw [hbook] at hrest
      obtain ⟨hstore, hminted, -⟩ := Cautious.untouched hbook
      have hdeeds := ih (w := { v with metrics := m }) (hstore ▸ hs) (hstore ▸ hctx) hrest
        (hstore ▸ hfresh.mono hminted (Nat.le_refl _))
      rwa [show ({ v with metrics := m } : World).store = w.store from hstore] at hdeeds
    · rw [hbook] at hrest hle
      have hclear := bookInstance_clears hs hctx hbook
      obtain ⟨hb, -, s, hinsert, hstore, hminted, -⟩ := bookInstance_ok hbook
      have hx := Store.insertBooking_exchange hs hinsert
      have hid : b.id = c.mint w.minted := by
        rw [hb]
        rfl
      have hlt : w.minted < w'.minted := by
        rw [← Nat.succ_le_iff, ← Nat.add_one, ← hminted]
        exact hle
      have hnew : ∀ d ∈ w.store.bookings, d.id ≠ b.id := by
        rw [hid]
        exact hfresh.bookings w.minted (Nat.le_refl _) hlt
      have hfresh' : c.Fresh v.store v.minted w'.minted := by
        rw [hstore, hminted]
        exact hfresh.insertBooking hid hx
      have hdeeds := ih (w := { v with metrics := m }) (hstore ▸ hx.ordered hs)
        (by rw [hstore, contextAt_of_sameSetup hx.setup]; exact hctx) hrest hfresh'
      rw [show ({ v with metrics := m } : World).store = s from hstore] at hdeeds
      exact .head (.booked b hnew hclear hx) hdeeds

/-- Dropping a series changes the series at most. -/
theorem drop_seriesOnly {report : SeriesReport}
    (h : w' =
      ((do Repository.deleteSeries id; return report : Action Failure SeriesReport) c w).2) :
    w.minted ≤ w'.minted ∧ w.store.SeriesOnly w'.store := by
  rcases hdelete : (liftM (Repository.deleteSeries id) : Action Failure Unit) c w
    with ⟨failure | _, v⟩
  · obtain ⟨hstore, hminted, -⟩ := Cautious.untouched hdelete
    rw [bind_apply, hdelete] at h
    rw [h]
    exact ⟨hminted, hstore ▸ rfl⟩
  · obtain ⟨s, hdropped, hstore, hminted, -⟩ := change_ok (lift_eq_ok_iff.1 hdelete)
    rw [bind_of_ok hdelete] at h
    rw [h]
    exact ⟨Nat.le_of_eq hminted.symm, Store.deleteSeries_seriesOnly (hstore ▸ hdropped)⟩

/-- Storing a series and going through its instances are deeds. -/
theorem openSeries_deeds {spans : List Span} {as : List Attempt} {n : Nat} (hs : w.store.Consistent)
    (hctx : contextAt c w.store actor id = .ok plan.ctx) (hid : series.id = c.mint w.minted)
    (hv : v.Holds (w.store.insertSeries series) (w.minted + 1) w.published)
    (h : bookInstances actor plan series spans c v = (.ok as, w')) (hle : w'.minted ≤ n)
    (hfresh : c.Fresh w.store w.minted n) :
    ReflTransGen (Store.Deed c actor) w.store w'.store := by
  have hopen : w.store.SeriesOnly v.store := by
    rw [hv.store]
    exact Store.insertSeries_seriesOnly _ _
  have hrecedes := hopen.recedes hs
  have hctx' : contextAt c v.store actor id = .ok plan.ctx := by
    rw [contextAt_of_sameSetup hrecedes.setup]
    exact hctx
  refine .head (.receded hrecedes)
    (bookInstances_deeds hrecedes.consistent.toOrdered hctx' h ?_)
  rw [hv.store, hv.minted]
  exact (hfresh.mono (Nat.le_refl _) hle).insertSeries hid

theorem bookSeries_course (hs : w.store.Consistent)
    (hfresh : c.Fresh w.store w.minted (bookSeries actor req c w).2.minted) :
    w.store.Course c (bookSeries actor req c w).2.store (.bookSeries actor req) := by
  refine .deeds _ ?_
  revert hfresh
  unfold bookSeries
  refine measured_intro (P := fun _ v => c.Fresh w.store w.minted v.minted →
    ReflTransGen (Store.Deed c actor) w.store v.store) ?_ fun _ _ _ h => h
  rcases hplan : planSeries actor req c w with ⟨failure | plan, u⟩
  · intro _
    rw [bind_apply, hplan, (Reads.of_run hplan).store]
  obtain ⟨-, hctx, -⟩ := planSeries_ok hplan
  obtain ⟨k, m, rfl⟩ := (Reads.of_run hplan).exists_eq
  rw [bind_of_ok hplan, bind_of_ok (newId_apply c _)]
  rcases hinsert : (liftM (Repository.insertSeries (plan.series req (c.mint w.minted))) :
    Action Failure Unit) c { w with calls := k, metrics := m, minted := w.minted + 1 }
    with ⟨failure | _, v⟩
  · intro _
    rw [bind_apply, hinsert, (Cautious.untouched hinsert).store]
  obtain ⟨s, hopened, hv⟩ := change_ok (lift_eq_ok_iff.1 hinsert)
  cases hopened
  obtain ⟨as, v', hbook, -⟩ :=
    bookInstances_run actor plan (plan.series req (c.mint w.minted)) plan.spans c v
  rw [bind_of_ok hinsert, bind_of_ok hbook]
  have hdeeds (n : Nat) := openSeries_deeds (n := n) hs hctx rfl hv hbook
  split
  · intro hfresh
    obtain ⟨hle, hdropped⟩ := drop_seriesOnly rfl
    have hbooked := hdeeds _ hle hfresh
    exact hbooked.tail (.receded (hdropped.recedes (hs.of_deeds hbooked)))
  · intro hfresh
    rw [bind_of_ok (publishAll_apply _ c v'), bind_of_ok (publish_apply _ c _)] at hfresh ⊢
    exact hdeeds _ (Nat.le_refl _) hfresh

end Service

/-- **Whatever a request books was cleared**, whichever calls fail and whatever is reported as
conflicts: the request moves one booking that was cleared, or goes deed by deed. -/
theorem Request.course (r : Request) (hs : w.store.Consistent)
    (hfresh : c.Fresh w.store w.minted (r.apply c w).minted) :
    w.store.Course c (r.apply c w).store r := by
  cases r with
  | book actor req => exact book_course hs hfresh
  | rebook actor id req => exact rebook_course hs req
  | cancel actor id => exact cancel_course hs
  | bookSeries actor req => exact bookSeries_course hs hfresh
  | precheckSeries actor req =>
    have hw' := Reads.unchanged (r := .reliable) (x := Service.precheckSeries actor req) c w
    show w.store.Course c (Service.precheckSeries actor req c w).2.store _
    rw [hw'.store]
    exact .deeds _ .refl
  | cancelSeries actor id => exact cancelSeries_course hs
  | approve actor id => exact approve_course hs
  | decline actor id => exact decline_course hs

end SpaceBooking
