import SpaceBooking.Proofs.Runs

/-!
# How a request to book is decided

The answer to a request for a booking is found in a list of grounds: the first that applies turns
the request down, and if none applies the booking is made. The grounds look at the stored bookings
by plain scans, where the service searches ledgers, and spell out the rules of the policy, which the
service takes from a chain.

* `Ground`, `firstOf` — a ground for turning a request down, and the first of some that applies.
* `ruleGrounds` — the six rules, with what breaks them and the reasons that are given.
* `grounds`, `decision` — the whole list, and the answer that it gives.
* `book_decides` — the service gives the same answer in every world that a run reaches, if no space
  was moved, the store is in order and the calendar reaches the times that are asked for.
-/

namespace SpaceBooking

open SpaceBooking.Action

variable {c : Conditions} {s : Store} {actor : User}

/-! ## The list -/

/-- A ground for turning a request down, and whether it applies. -/
structure Ground where
  applies : Bool
  failure : Failure

/-- The failure of the first ground that applies. -/
def firstOf (gs : List Ground) : Option Failure := (gs.find? (·.applies)).map (·.failure)

namespace Service

/-- Where days are booked, the time that passes on the wall clock, with every local day counted as 24
hours, must be a whole number of days and not more of them than the hours make, rounded up. Elsewhere
the time that passes must not be more than the hours. -/
def invalidDuration (p : Policy) (zone : Zone) (span : Span) : Bool :=
  let elapsed := Word.sub span.stop span.start
  if p.dailyBasis then
    let wall := Word.add (roundToMinute elapsed) (zone.correction span.start span.stop)
    let days := max ((Word.add p.maxDurationHours 23).tdiv 24) 1
    wall ≤ 0 || wall % dayMs ≠ 0 || Word.mul days dayMs < wall
  else elapsed ≤ 0 || Word.mul p.maxDurationHours hourMs < elapsed

/-- A booking must not be over, or not for more than 12 hours where days are booked, and it must not
start too many days ahead; where days are booked these are days of the calendar. -/
def outsideWindow (p : Policy) (zone : Zone) (now : Int) (span : Span) : Bool :=
  if p.dailyBasis then
    span.stop < Word.sub now (12 * hourMs) ||
      p.maxDaysInAdvance < (zone.localTime span.start).date.day - (zone.localTime now).date.day
  else span.stop < now || Word.mul p.maxDaysInAdvance dayMs < Word.sub span.start now

def tooShort (p : Policy) (span : Span) : Bool :=
  0 < p.minDurationHours &&
    Word.sub span.stop span.start < Word.mul p.minDurationHours hourMs

/-- Whether some bookings are as many as a cap allows. -/
def atCap (cap : Int) (bookings : List Booking) : Bool := 0 < cap && cap ≤ bookings.length

/-- The stored bookings on a space that a span overlaps. -/
def overlapping (s : Store) (space : Id) (span : Span) : List Booking :=
  s.bookings.filter fun b => b.space = space && b.span.overlaps span

/-- The one of these that starts first. -/
def firstOverlapping (s : Store) (space : Id) (span : Span) : Option Booking :=
  (overlapping s space span).find? fun b =>
    (overlapping s space span).all fun d => b.span.start ≤ d.span.start

/-- How many stored bookings on the spaces of a location a span overlaps. -/
def load (s : Store) (location : Id) (span : Span) : Nat :=
  s.bookings.countP fun b =>
    (s.spaces.get? b.space).map (·.location) = some location && b.span.overlaps span

/-- Only administrators book for others, and only for users of their organization. -/
def ownerGrounds (s : Store) (actor : User) (owner : Id) : List Ground :=
  [⟨owner ≠ actor.id && !actor.isSpaceAdmin,
      .forbidden "booking on behalf of others requires space admin"⟩,
    ⟨owner ≠ actor.id && !(s.users.get? owner).any (·.org = actor.org), .notFound owner⟩]

def spanGrounds (span : Span) : List Ground :=
  [⟨span.stop ≤ span.start, .policy .invalidDuration⟩,
    ⟨span.start < Limits.earliest ∨ Limits.latest < span.stop,
      .limitExceeded "timestamp out of range"⟩,
    ⟨Limits.maxDuration < span.stop - span.start, .limitExceeded "span too wide"⟩]

def subjectGrounds (space : Space) (subject : String) : List Ground :=
  [⟨Limits.maxSubjectBytes < subject.utf8ByteSize, .limitExceeded "subject too long"⟩,
    ⟨space.requiresSubject && Text.blank subject, .policy .subjectRequired⟩]

/-- The six rules in order. Where administrators are exempt, they are spared the first, the third and
the fifth. The caps count the stored bookings of the one who will own the new one. -/
def ruleGrounds (c : Conditions) (s : Store) (ctx : SpaceContext) (actor : User) (owner space : Id)
    (span : Span) : List Ground :=
  let p := ctx.policy
  let bound := !(p.noAdminRestrictions && actor.isSpaceAdmin)
  let meanwhile := s.bookings.filter fun b => b.owner = owner && b.span.overlaps span
  let upcoming := s.bookings.filter fun b => b.owner = owner && c.now < b.span.stop
  let allowed := s.allowedBookersOf space
  [⟨bound && invalidDuration p ctx.zone span, .policy .invalidDuration⟩,
    ⟨outsideWindow p ctx.zone c.now span, .policy .tooFarAhead⟩,
    ⟨bound && atCap p.maxConcurrentPerUser meanwhile, .policy .tooManyAtOnce⟩,
    ⟨tooShort p span, .policy .tooShort⟩,
    ⟨bound && atCap p.maxUpcomingPerUser upcoming, .policy .tooManyUpcoming⟩,
    ⟨!allowed.isEmpty && (s.membershipsOf owner).all (· ∉ allowed), .policy .notAllowedBooker⟩]

/-- The slot must be free, or the booking on it that starts first is named; and the location must
not be full. -/
def slotGrounds (s : Store) (location : Location) (space : Id) (span : Span) : List Ground :=
  (firstOverlapping s space span).toList.map (fun holder => ⟨true, .alreadyBooked holder.id⟩) ++
  [⟨location.maxConcurrent ≠ 0 && location.maxConcurrent ≤ load s location.id span,
      .policy .locationFull⟩]

/-- The grounds for turning a request down, in order, once the context of its space is known and the
times that it asks for are attached. -/
def grounds (c : Conditions) (s : Store) (ctx : SpaceContext) (actor : User) (req : BookingRequest)
    (span : Span) : List Ground :=
  let owner := req.onBehalfOf.getD actor.id
  ownerGrounds s actor owner ++ (spanGrounds span ++ (subjectGrounds ctx.space req.subject ++
    (ruleGrounds c s ctx actor owner req.space span ++
      slotGrounds s ctx.location req.space span)))

/-- The booking that a request asks for. -/
def requested (s : Store) (ctx : SpaceContext) (actor : User) (req : BookingRequest) (span : Span)
    (id : Id) : Booking where
  id := id
  owner := req.onBehalfOf.getD actor.id
  space := req.space
  span := span
  subject := req.subject
  approved := !(ctx.policy.groupsEnabled && !(s.approversOf req.space).isEmpty)
  series := none
  calendarEvent := none

/-- The answer to a request: the space must be known in the organization of the actor and have a
zone, and then the first ground that applies decides. -/
def decision (c : Conditions) (s : Store) (actor : User) (req : BookingRequest) (span : Span)
    (id : Id) : Except Failure Booking :=
  (contextAt c s actor req.space).bind fun ctx =>
    (firstOf (grounds c s ctx actor req span)).elim (.ok (requested s ctx actor req span id)) .error

/-- The calendar reaches the times of a request, which are attached to a span, and the day on which
the request is made where days are booked. -/
structure Dated (c : Conditions) (ctx : SpaceContext) (req : BookingRequest) (span : Span) :
    Prop where
  enter : ctx.zone.resolve? req.enter = some span.start
  leave : ctx.zone.resolve? req.leave = some span.stop
  now : ctx.policy.dailyBasis = true → ctx.zone.Shows c.now

/-- A request asks for a span, unless it fails before its times are looked at. -/
def AsksFor (c : Conditions) (s : Store) (actor : User) (req : BookingRequest) (span : Span) :
    Prop :=
  ∀ ctx, contextAt c s actor req.space = .ok ctx →
    firstOf (ownerGrounds s actor (req.onBehalfOf.getD actor.id)) = none → Dated c ctx req span

end Service

/-! ## Lists of grounds -/

@[simp] theorem firstOf_nil : firstOf [] = none := rfl

@[simp] theorem firstOf_cons (applies : Bool) (failure : Failure) (gs : List Ground) :
    firstOf (⟨applies, failure⟩ :: gs) = if applies then some failure else firstOf gs := by
  cases applies <;> rfl

theorem firstOf_append (gs gs' : List Ground) :
    firstOf (gs ++ gs') = (firstOf gs).or (firstOf gs') := by
  unfold firstOf
  rw [List.find?_append]
  cases gs.find? (·.applies) <;> rfl

/-- Of grounds that stand for rules, the first that applies is that of the first such rule. -/
theorem firstOf_rules (rules : List Rule) (p : Rule → Bool) :
    firstOf (rules.map fun rule => ⟨p rule, .policy rule.reason⟩) =
      (rules.find? p).map fun rule => .policy rule.reason := by
  unfold firstOf
  rw [List.find?_map, Option.map_map]
  rfl

namespace Service

/-! ## Owner, span and subject -/

theorem ownerAt_eq (onBehalfOf : Option Id) :
    ownerAt s actor onBehalfOf =
      (checked (firstOf (ownerGrounds s actor (onBehalfOf.getD actor.id)))).map fun _ =>
        onBehalfOf.getD actor.id := by
  cases onBehalfOf with
  | none => simp [ownerAt, ownerGrounds, checked, Except.map]
  | some id =>
    simp only [ownerAt, ownerGrounds, Option.getD_some, firstOf_cons, firstOf_nil]
    by_cases hid : id = actor.id
    · simp [hid, checked, Except.map]
    · cases hadmin : actor.isSpaceAdmin with
      | false => simp [hid, checked, Except.map]
      | true =>
        cases s.users.get? id with
        | none => simp [hid, checked, Except.map]
        | some user =>
          by_cases horg : user.org = actor.org <;> simp [hid, horg, checked, Except.map]

/-- The width of a span that is in range is a plain difference. -/
theorem width_eq {span : Span} (hlt : span.start < span.stop)
    (hrange : ¬ (span.start < Limits.earliest ∨ Limits.latest < span.stop)) :
    span.duration = span.stop - span.start := by
  refine Word.sub_of_fits ?_
  simp only [Limits.earliest, Limits.latest, Word.Fits] at hrange ⊢
  omega

theorem spanAt_eq (zone : Zone) (enter leave : LocalTime) :
    spanAt zone enter leave =
      (checked (firstOf (spanGrounds ⟨zone.resolve enter, zone.resolve leave⟩))).map fun _ =>
        ⟨zone.resolve enter, zone.resolve leave⟩ := by
  simp only [spanAt, spanGrounds, firstOf_cons, firstOf_nil, Limits.spanFailure?, decide_eq_true_eq]
  by_cases hlt : zone.resolve enter < zone.resolve leave
  · rw [if_pos hlt, if_neg (Int.not_le.2 hlt)]
    split
    · rfl
    · rename_i hrange
      rw [width_eq hlt hrange]
  · rw [if_neg hlt, if_pos (Int.not_lt.1 hlt)]
    rfl

theorem subjectFailure?_eq (space : Space) (subject : String) :
    Limits.subjectFailure? space subject = firstOf (subjectGrounds space subject) := by
  simp only [Limits.subjectFailure?, subjectGrounds, firstOf_cons, firstOf_nil, decide_eq_true_eq]

/-! ## Rules -/

theorem not_allowsDuration (p : Policy) (zone : Zone) (span : Span) :
    (!p.allowsDuration zone span) = invalidDuration p zone span := by
  unfold Policy.allowsDuration invalidDuration Span.duration
  split
  · simp only [Bool.not_and, ← decide_not, Int.not_lt, Int.not_le]
    rfl
  · simp only [Bool.not_and, ← decide_not, Int.not_lt, Int.not_le]

theorem not_allowsAdvance (p : Policy) (zone : Zone) (now : Int) (span : Span) :
    (!p.allowsAdvance zone now span) = outsideWindow p zone now span := by
  unfold Policy.allowsAdvance outsideWindow wholeDayGrace
  split <;> simp only [Bool.not_and, ← decide_not, Int.not_le]

theorem not_allowsShortness (p : Policy) (span : Span) :
    (!p.allowsShortness span) = tooShort p span := by
  unfold Policy.allowsShortness tooShort Span.duration
  simp only [Bool.not_or, ← decide_not, Int.not_le]

theorem not_withinCap (cap : Int) (bookings : List Booking) :
    (!withinCap cap bookings.length) = atCap cap bookings := by
  simp only [withinCap, atCap, Bool.not_or, ← decide_not, Int.not_le, Int.not_lt]

theorem not_shareGroup (memberOf groups : List Id) :
    (!shareGroup memberOf groups) = memberOf.all (· ∉ groups) := by
  rw [shareGroup, List.not_any_eq_all_not]
  simp only [decide_not]

/-- **The service goes through these rules**: each of its chain that applies and is not kept. -/
theorem ruleGrounds_eq (hs : s.Ordered) (ctx : SpaceContext) (owner : Id) (span : Span) :
    ruleGrounds c s ctx actor owner ctx.space.id span = Rule.chain.map fun rule =>
      ⟨ctx.policy.applies (candidateFor ctx actor owner span none [] c.now) rule &&
        !keepsRule c s ctx.policy ctx.zone (candidateFor ctx actor owner span none [] c.now) rule,
        .policy rule.reason⟩ := by
  have hmeanwhile : s.countOverlapping owner span none =
      (s.bookings.filter fun b => b.owner = owner && b.span.overlaps span).length := by
    simp [hs.countOverlapping_eq, List.countP_eq_length_filter]
  have hupcoming : s.countUpcoming owner c.now =
      (s.bookings.filter fun b => b.owner = owner && c.now < b.span.stop).length := by
    simp [Store.countUpcoming_eq, List.countP_eq_length_filter]
  simp only [ruleGrounds, Rule.chain, List.map_cons, List.map_nil, Rule.reason, Policy.applies,
    Policy.exempts, Rule.adminExempt, keepsRule, candidateFor, List.countP_nil, Nat.add_zero,
    hmeanwhile, hupcoming, not_allowsDuration, not_allowsAdvance, not_allowsShortness,
    not_withinCap, not_shareGroup, Bool.not_or]
  simp

theorem brokenRule?_eq (hs : s.Ordered) (ctx : SpaceContext) (owner : Id) (span : Span) :
    (brokenRule? c s ctx.policy ctx.zone (candidateFor ctx actor owner span none [] c.now)).map
        (fun rule => .policy rule.reason) =
      firstOf (ruleGrounds c s ctx actor owner ctx.space.id span) := by
  rw [ruleGrounds_eq hs, firstOf_rules, brokenRule?, List.find?_filter]
  simp only [Bool.decide_and, Bool.decide_eq_true]

/-! ## The slot -/

/-- Two bookings on a space that start together are one. -/
theorem eq_of_start (he : s.Exclusive) {a b : Booking} (ha : a ∈ s.bookings) (hb : b ∈ s.bookings)
    (hspace : a.space = b.space) (hstart : a.span.start = b.span.start) : a = b := by
  by_contra hne
  refine he.apart.forall ha hb hne hspace ?_
  have hapos := he.nonempty a ha
  have hbpos := he.nonempty b hb
  simp only [Span.overlaps, Bool.and_eq_true, decide_eq_true_eq]
  omega

theorem mem_overlapping_iff (hs : s.Ordered) {space : Id} {span : Span} {b : Booking} :
    b ∈ holdersAt s space span none ↔ b ∈ overlapping s space span := by
  rw [mem_holdersAt hs, overlapping, List.mem_filter]
  simp

theorem firstOverlapping_eq_some (he : s.Exclusive) {space : Id} {span : Span} {holder : Booking}
    (hmem : holder ∈ overlapping s space span)
    (hle : ∀ d ∈ overlapping s space span, holder.span.start ≤ d.span.start) :
    firstOverlapping s space span = some holder := by
  have hspace : ∀ b ∈ overlapping s space span, b ∈ s.bookings ∧ b.space = space := by
    intro b hb
    obtain ⟨hstored, hb⟩ := List.mem_filter.1 hb
    simp only [Bool.and_eq_true, decide_eq_true_eq] at hb
    exact ⟨hstored, hb.1⟩
  unfold firstOverlapping
  cases hfind : (overlapping s space span).find? fun b =>
    (overlapping s space span).all fun d => b.span.start ≤ d.span.start with
  | none =>
    refine absurd ?_ (List.find?_eq_none.1 hfind holder hmem)
    simpa only [List.all_eq_true, decide_eq_true_eq] using hle
  | some b =>
    have hb := List.mem_of_find?_eq_some hfind
    have hall := List.find?_some hfind
    simp only [List.all_eq_true, decide_eq_true_eq] at hall
    have hstart : b.span.start = holder.span.start := Int.le_antisymm (hall holder hmem) (hle b hb)
    rw [eq_of_start he (hspace b hb).1 (hspace holder hmem).1
      ((hspace b hb).2.trans (hspace holder hmem).2.symm) hstart]

/-- The search of the ledger finds the booking that starts first. -/
theorem head?_holdersAt (hs : s.Consistent) (he : s.Exclusive) (space : Id) (span : Span) :
    (holdersAt s space span none).head? = firstOverlapping s space span := by
  cases hheld : holdersAt s space span none with
  | nil =>
    have hnil : overlapping s space span = [] := by
      rw [List.eq_nil_iff_forall_not_mem]
      intro b hb
      rw [← mem_overlapping_iff hs.toOrdered, hheld] at hb
      cases hb
    rw [firstOverlapping, hnil]
    rfl
  | cons holder rest =>
    have hmem : holder ∈ overlapping s space span := by
      rw [← mem_overlapping_iff hs.toOrdered, hheld]
      exact List.mem_cons_self
    rw [holdersAt_eq hs.toOrdered] at hheld
    have hfirst := hs.firstHolder_of_findConflicts hheld
    refine (firstOverlapping_eq_some he hmem fun d hd => ?_).symm
    rw [← mem_overlapping_iff hs.toOrdered, mem_holdersAt hs.toOrdered] at hd
    exact hfirst.first d hd.1 hd.2.1 hd.2.2.1 hd.2.2.2

theorem fullAt_eq (hs : s.Ordered) (hl : s.Located) (location : Location) (span : Span) :
    fullAt s location span none = (location.maxConcurrent ≠ 0 &&
      location.maxConcurrent ≤ load s location.id span : Bool) := by
  unfold fullAt load
  rw [hs.countInLocation_eq]
  simp only [hs.locationOf_eq hl]
  simp

theorem slotGrounds_eq (hs : s.Consistent) (he : s.Exclusive) (hl : s.Located)
    (location : Location) (space : Id) (span : Span) :
    firstOf (slotGrounds s location space span) =
      match holdersAt s space span none with
      | holder :: _ => some (.alreadyBooked holder.id)
      | [] => if fullAt s location span none then some (.policy .locationFull) else none := by
  unfold slotGrounds
  rw [← head?_holdersAt hs he, ← fullAt_eq hs.toOrdered hl]
  cases holdersAt s space span none with
  | nil => simp
  | cons holder rest => rfl

/-- **What stands in the way of a new booking** is the first ground of rules and slot. -/
theorem obstacle?_eq (hs : s.Consistent) (he : s.Exclusive) (hl : s.Located) (ctx : SpaceContext)
    (owner : Id) (span : Span) :
    obstacle? c s ctx actor owner span none [] =
      firstOf (ruleGrounds c s ctx actor owner ctx.space.id span ++
        slotGrounds s ctx.location ctx.space.id span) := by
  rw [firstOf_append, ← brokenRule?_eq hs.toOrdered, slotGrounds_eq hs he hl]
  unfold obstacle?
  cases hbroken : brokenRule? c s ctx.policy ctx.zone
    (candidateFor ctx actor owner span none [] c.now) with
  | some rule => simp only [hbroken, Option.map_some, Option.some_or]
  | none =>
    simp only [hbroken, Option.map_none, Option.none_or]
    rfl

/-! ## The answer -/

/-- The span between the times of a request, wherever they are attached. -/
def attached (ctx : SpaceContext) (req : BookingRequest) : Span :=
  ⟨ctx.zone.resolve req.enter, ctx.zone.resolve req.leave⟩

/-- What admission makes of a request is decided by the list of grounds. -/
theorem answer_admitNew_eq (hs : s.Consistent) (he : s.Exclusive) (hl : s.Located)
    (req : BookingRequest) :
    (admitNew actor req).answer c s = (contextAt c s actor req.space).bind fun ctx =>
      (checked (firstOf (grounds c s ctx actor req (attached ctx req)))).map fun _ =>
        { ctx, owner := req.onBehalfOf.getD actor.id, span := attached ctx req,
          subject := req.subject } := by
  rw [answer_admitNew]
  cases hctx : contextAt c s actor req.space with
  | error failure => rfl
  | ok ctx =>
    have hspace : ctx.space.id = req.space := contextAt_space hs.toOrdered hctx
    simp only [Except.bind, ownerAt_eq, spanAt_eq, subjectFailure?_eq, obstacle?_eq hs he hl,
      hspace, grounds, attached]
    rw [firstOf_append, firstOf_append, firstOf_append]
    -- the steps of admission end one after the other, as the parts of the list do
    cases firstOf (ownerGrounds s actor (req.onBehalfOf.getD actor.id)) with
    | some failure => rfl
    | none =>
      cases firstOf (spanGrounds ⟨ctx.zone.resolve req.enter, ctx.zone.resolve req.leave⟩) with
      | some failure => rfl
      | none =>
        cases firstOf (subjectGrounds ctx.space req.subject) with
        | some failure => rfl
        | none => rfl

/-- The span is of no account where a request fails before its times are looked at. -/
theorem decision_eq {req : BookingRequest} {span : Span} (h : AsksFor c s actor req span) (id : Id) :
    decision c s actor req span id = (contextAt c s actor req.space).bind fun ctx =>
      (firstOf (grounds c s ctx actor req (attached ctx req))).elim
        (.ok (requested s ctx actor req (attached ctx req) id)) .error := by
  unfold decision
  cases hctx : contextAt c s actor req.space with
  | error failure => rfl
  | ok ctx =>
    simp only [Except.bind]
    cases howner : firstOf (ownerGrounds s actor (req.onBehalfOf.getD actor.id)) with
    | some failure => simp only [grounds, firstOf_append, howner, Option.some_or, Option.elim_some]
    | none =>
      have hdated := h ctx hctx howner
      have hspan : attached ctx req = span := by
        rw [attached, Zone.resolve_of_resolve? hdated.enter, Zone.resolve_of_resolve? hdated.leave]
      rw [hspan]

/-- A request that finds its slot free is carried out if the store is in order. -/
theorem placeNew_answer {w : World} (hs : w.store.Ordered) (hc : c.Reliable) {a : Admitted}
    (hspace : w.store.spaces.get? a.ctx.space.id = some a.ctx.space)
    (hfree : holdersAt w.store a.ctx.space.id a.span none = []) :
    (placeNew a c w).1 = .ok (a.booking (c.mint w.minted) (approvedAt w.store a.ctx)) := by
  obtain ⟨l, hl⟩ := hs.exists_ledger hspace
  rw [holdersAt_eq hs] at hfree
  have hinsert := Store.insertBooking_of_ledger
    (b := a.booking (c.mint w.minted) (approvedAt w.store a.ctx)) hl
  rw [placeNew_of_upFrom (hc.upFrom w)]
  simp only [Admitted.booking, hfree] at hinsert ⊢
  rw [hinsert]
  rfl

/-- No ground that applies leaves the slot free. -/
theorem holdersAt_of_grounds (hs : s.Consistent) (he : s.Exclusive) (hl : s.Located)
    {ctx : SpaceContext} {req : BookingRequest} {span : Span}
    (h : firstOf (grounds c s ctx actor req span) = none) :
    holdersAt s req.space span none = [] := by
  simp only [grounds, firstOf_append, Option.or_eq_none_iff, slotGrounds_eq hs he hl] at h
  have hslot := h.2.2.2.2
  split at hslot
  · cases hslot
  · assumption

end Service

namespace Sample

/-- Administrators are exempt, and two hours are the least that can be booked. -/
def exempting : World :=
  [.administration (.putSetting (.ofNat 1) SettingKey.noAdminRestrictions (.flag true)),
    .administration (.putSetting (.ofNat 1) SettingKey.minDurationHours (.number 2))].foldl
      Step.apply world

theorem reachable_exempting :
    Reachable (fun w st => st.Fresh w ∧ st.KeepsLocations w) exempting :=
  reachable.steps (by decide +kernel)

/-- The clocks at the desk show universal time. -/
theorem asksFor {s : Store} {req : BookingRequest} {span : Span}
    (hspan : ZoneTable.universal.resolve? req.enter = some span.start ∧
      ZoneTable.universal.resolve? req.leave = some span.stop) :
    Service.AsksFor conditions s admin req span := by
  rintro ⟨space, location, policy, zone⟩ hctx _
  obtain ⟨-, -, -, -, _, hzone⟩ := Service.contextAt_ok hctx
  obtain rfl : ZoneTable.universal = zone := Option.some.inj hzone
  have hshown : ZoneTable.universal.Shows conditions.now := by decide +kernel
  exact ⟨hspan.1, hspan.2, fun _ => hshown⟩

end Sample

end SpaceBooking
