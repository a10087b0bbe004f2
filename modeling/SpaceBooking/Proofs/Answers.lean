import SpaceBooking.Proofs.Exchange
import SpaceBooking.Proofs.Reading
import SpaceBooking.Service.Approval
import SpaceBooking.Service.Repeating

/-!
# What requests find out

For each step of a request that only looks, its answer as a plain function of the conditions and the
store.

* `contextAt`, `ownerAt`, `spanAt` — the context of a space, the owner, and the span of a request.
* `keepsRule`, `brokenRule?` — whether a candidate keeps a rule, and the first rule that it breaks.
* `obstacle?` — what stands in the way of a booking, if anything: a broken rule, a booking or
  pending span on the slot, a full location. `answer_checkAdmission` says that admission reports
  just that.
* `MayDecide` — who may decide on the bookings of a space.
-/

namespace SpaceBooking

open SpaceBooking.Action

variable {r : Conduct} {c : Conditions} {s : Store}

/-! ## Calls that only ask -/

namespace Repository

instance (id : Id) : Reads r (space? id) := reads_ask _ _
instance (id : Id) : Reads r (approvers id) := reads_ask _ _
instance (id : Id) : Reads r (allowedBookers id) := reads_ask _ _
instance (id : Id) : Reads r (location? id) := reads_ask _ _
instance (id : Id) : Reads r (booking? id) := reads_ask _ _
instance (id : Id) (span : Span) (exclude : Option Id) :
    Reads r (countInLocation id span exclude) := reads_ask _ _
instance (id : Id) (now : Int) : Reads r (countUpcoming id now) := reads_ask _ _
instance (id : Id) (span : Span) (exclude : Option Id) :
    Reads r (countOverlapping id span exclude) := reads_ask _ _
instance (id : Id) : Reads r (bookingsOfSeries id) := reads_ask _ _
instance (id : Id) : Reads r (series? id) := reads_ask _ _
instance (id : Id) : Reads r (memberships id) := reads_ask _ _
instance (id : Id) : Reads r (user? id) := reads_ask _ _
instance (id : Id) (key : String) : Reads r (flag? id key) := reads_ask _ _
instance (id : Id) (key : String) : Reads r (number? id key) := reads_ask _ _
instance (id : Id) (key : String) : Reads r (text? id key) := reads_ask _ _

instance (id : Id) (key : String) (default : Bool) : Reads r (flagOr id key default) := by
  unfold flagOr
  infer_instance

instance (id : Id) (key : String) (default : Int) : Reads r (numberOr id key default) := by
  unfold numberOr
  infer_instance

instance (org : Id) : Reads r (policy org) := by
  unfold policy
  infer_instance

/-- The search for conflicts is the one call whose report can be wrong. -/
instance reads_findConflicts (id : Id) (span : Span) (exclude : Option Id) :
    Reads .truthful (findConflicts id span exclude) where
  unchanged c w := (reads_ask (r := .truthful) .findConflicts _).unchanged c w
  outcome c w ht := by
    have ho := (reads_ask (r := .truthful) .findConflicts
      fun s => (c.misreport (w.calls.count .findConflicts) s).getD
        (s.findConflicts id span exclude)).outcome c w ht
    rw [answer_ask, ht] at ho
    exact ho

@[simp] theorem answer_findConflicts (id : Id) (span : Span) (exclude : Option Id)
    (c : Conditions) (s : Store) :
    (findConflicts id span exclude).answer c s = .ok (s.findConflicts id span exclude) := rfl

end Repository

/-- The policy of an organization as its settings make it. -/
def Store.policyOf (s : Store) (org : Id) : Policy :=
  let d : Policy := {}
  { dailyBasis := (s.flag? org SettingKey.dailyBasis).getD d.dailyBasis
    noAdminRestrictions :=
      (s.flag? org SettingKey.noAdminRestrictions).getD d.noAdminRestrictions
    maxDaysInAdvance := (s.number? org SettingKey.maxDaysInAdvance).getD d.maxDaysInAdvance
    maxDurationHours := (s.number? org SettingKey.maxDurationHours).getD d.maxDurationHours
    maxConcurrentPerUser :=
      (s.number? org SettingKey.maxConcurrentPerUser).getD d.maxConcurrentPerUser
    minDurationHours := (s.number? org SettingKey.minDurationHours).getD d.minDurationHours
    maxUpcomingPerUser := (s.number? org SettingKey.maxUpcomingPerUser).getD d.maxUpcomingPerUser
    hoursBeforeDelete := (s.number? org SettingKey.hoursBeforeDelete).getD d.hoursBeforeDelete
    limitsDelete := (s.flag? org SettingKey.limitsDelete).getD d.limitsDelete
    groupsEnabled := (s.flag? org SettingKey.groupsEnabled).getD d.groupsEnabled
    defaultZoneName := (s.text? org SettingKey.defaultZoneName).filter (!Text.blank ·) }

theorem Store.SameSetup.policyOf {s' : Store} (h : s.SameSetup s') (org : Id) :
    s'.policyOf org = s.policyOf org := by
  simp only [Store.policyOf, Store.flag?, Store.number?, Store.text?, Store.setting?, h.settings]

@[simp] theorem Repository.answer_policy (org : Id) (c : Conditions) (s : Store) :
    (Repository.policy org).answer c s = .ok (s.policyOf org) := by
  simp only [policy, flagOr, numberOr, flag?, number?, text?, answer_bind, answer_ask, Except.bind,
    answer_pure, Store.policyOf]

namespace Service

/-! ## Context, owner and span -/

instance (location : Location) (policy : Policy) : Reads r (zoneOf location policy) :=
  reads_conditions_bind fun _ => rfl

@[simp] theorem answer_zoneOf (location : Location) (policy : Policy) (c : Conditions) (s : Store) :
    (zoneOf location policy).answer c s =
      let name := zoneName location.zoneName policy.defaultZoneName c.config.fallbackZoneName
      (c.zones name).elim (.error (.invalidTimeZone name)) .ok := by
  simp only [zoneOf, answer_conditions_bind, answer_ofOption, Conditions.reliably_config,
    Conditions.reliably_zones]

/-- What a request of `actor` about a space is based on. -/
def contextAt (c : Conditions) (s : Store) (actor : User) (id : Id) : Except Failure SpaceContext :=
  match s.spaces.get? id with
  | none => .error (.notFound id)
  | some space =>
    match s.locations.get? space.location with
    | none => .error (.notFound id)
    | some location =>
      if location.org = actor.org then
        let policy := s.policyOf location.org
        let name := zoneName location.zoneName policy.defaultZoneName c.config.fallbackZoneName
        match c.zones name with
        | none => .error (.invalidTimeZone name)
        | some zone => .ok { space, location, policy, zone }
      else .error (.notFound id)

instance (actor : User) (id : Id) : Reads r (spaceContext actor id) := by
  unfold spaceContext
  infer_instance

@[simp] theorem answer_spaceContext (actor : User) (id : Id) (c : Conditions) (s : Store) :
    (spaceContext actor id).answer c s = contextAt c s actor id := by
  simp only [spaceContext, Repository.space?, Repository.location?, answer_bind, answer_lift,
    answer_ask, answer_ofOption, answer_ensure, Repository.answer_policy, answer_zoneOf,
    answer_pure, Except.mapError, Except.bind, contextAt, decide_eq_true_eq]
  cases s.spaces.get? id with
  | none => rfl
  | some space =>
    simp only [Option.elim_some]
    cases s.locations.get? space.location with
    | none => rfl
    | some location =>
      simp only [Option.elim_some]
      by_cases horg : location.org = actor.org
      · simp only [horg, if_true]
        generalize zoneName _ _ _ = name
        cases c.zones name <;> rfl
      · simp only [horg, if_false]

/-- What a context that was loaded shows. -/
theorem contextAt_ok {actor : User} {id : Id} {ctx : SpaceContext}
    (h : contextAt c s actor id = .ok ctx) :
    s.spaces.get? id = some ctx.space ∧ s.locations.get? ctx.space.location = some ctx.location ∧
      ctx.location.org = actor.org ∧ ctx.policy = s.policyOf ctx.location.org ∧
      ∃ name, c.zones name = some ctx.zone := by
  unfold contextAt at h
  cases hspace : s.spaces.get? id with
  | none => simp [hspace] at h
  | some space =>
    cases hlocation : s.locations.get? space.location with
    | none => simp [hspace, hlocation] at h
    | some location =>
      simp only [hspace, hlocation] at h
      split at h
      · rename_i horg
        split at h
        · cases h
        · rename_i hzone
          cases h
          exact ⟨rfl, hlocation, horg, rfl, _, hzone⟩
      · cases h

/-- The space of a context that was loaded is the one that was asked for. -/
theorem contextAt_space (hs : s.Ordered) {actor : User} {id : Id} {ctx : SpaceContext}
    (h : contextAt c s actor id = .ok ctx) : ctx.space.id = id :=
  hs.named (contextAt_ok h).1

/-- With the same setup, the context is the same. -/
theorem contextAt_of_sameSetup {s' : Store} (h : s.SameSetup s') (actor : User) (id : Id) :
    contextAt c s' actor id = contextAt c s actor id := by
  simp only [contextAt, h.spaces, h.locations, h.policyOf]

/-- Who will own what is requested for `onBehalfOf`. -/
def ownerAt (s : Store) (actor : User) : Option Id → Except Failure Id
  | none => .ok actor.id
  | some id =>
    if id = actor.id then .ok id
    else if actor.isSpaceAdmin then
      match s.users.get? id with
      | none => .error (.notFound id)
      | some user => if user.org = actor.org then .ok id else .error (.notFound id)
    else .error (.forbidden "booking on behalf of others requires space admin")

instance (actor : User) (id : Id) : Reads r (knownUser actor id) := by
  unfold knownUser
  infer_instance

instance (actor : User) (onBehalfOf : Option Id) : Reads r (ownerFor actor onBehalfOf) := by
  cases onBehalfOf with
  | none => exact reads_pure _
  | some id =>
    unfold ownerFor
    infer_instance

@[simp] theorem answer_ownerFor (actor : User) (onBehalfOf : Option Id) (c : Conditions)
    (s : Store) : (ownerFor actor onBehalfOf).answer c s = ownerAt s actor onBehalfOf := by
  cases onBehalfOf with
  | none => rfl
  | some id =>
    simp only [ownerFor, knownUser, Repository.user?, answer_bind, answer_ensure, answer_ite,
      answer_lift, answer_ask, answer_ofOption, answer_pure, Except.mapError, Except.bind, ownerAt,
      Bool.or_eq_true, decide_eq_true_eq]
    by_cases hid : id = actor.id
    · simp [hid]
    · by_cases hadmin : actor.isSpaceAdmin = true
      · simp only [hid, hadmin, or_true, if_true, if_false]
        cases s.users.get? id with
        | none => rfl
        | some user =>
          by_cases horg : user.org = actor.org <;> simp [horg]
      · simp [hid, hadmin]

/-- The outcome of a check that may have found a failure. -/
def checked (failure? : Option Failure) : Except Failure Unit := failure?.elim (.ok ()) .error

theorem checked_eq_ok_iff {failure? : Option Failure} :
    checked failure? = .ok () ↔ failure? = none := by
  cases failure? <;> simp [checked]

theorem checked_eq_error_iff {failure? : Option Failure} {failure : Failure} :
    checked failure? = .error failure ↔ failure? = some failure := by
  cases failure? <;> simp [checked]

instance (failure? : Option Failure) : Reads r (refuse failure?) := by
  cases failure?
  · exact reads_pure _
  · exact reads_fail _

@[simp] theorem answer_refuse (failure? : Option Failure) (c : Conditions) (s : Store) :
    (refuse failure?).answer c s = checked failure? := by
  cases failure? <;> rfl

/-- The span between two wall-clock times of a zone. -/
def spanAt (zone : Zone) (enter leave : LocalTime) : Except Failure Span :=
  let span : Span := ⟨zone.resolve enter, zone.resolve leave⟩
  if span.start < span.stop then (checked (Limits.spanFailure? span)).map fun _ => span
  else .error (.policy .invalidDuration)

theorem spanAt_ok {zone : Zone} {enter leave : LocalTime} {span : Span}
    (h : spanAt zone enter leave = .ok span) :
    span = ⟨zone.resolve enter, zone.resolve leave⟩ ∧ span.start < span.stop ∧
      Limits.spanFailure? span = none := by
  unfold spanAt at h
  simp only at h
  split at h
  · rename_i hlt
    cases hfail : Limits.spanFailure? ⟨zone.resolve enter, zone.resolve leave⟩ with
    | none =>
      rw [hfail] at h
      cases h
      exact ⟨rfl, hlt, hfail⟩
    | some f =>
      rw [hfail] at h
      cases h
  · cases h

instance (zone : Zone) (enter leave : LocalTime) : Reads r (requestSpan zone enter leave) := by
  unfold requestSpan
  infer_instance

@[simp] theorem answer_requestSpan (zone : Zone) (enter leave : LocalTime) (c : Conditions)
    (s : Store) : (requestSpan zone enter leave).answer c s = spanAt zone enter leave := by
  simp only [requestSpan, answer_bind, answer_ensure, answer_refuse, answer_pure, Except.bind,
    spanAt, decide_eq_true_eq]
  by_cases hlt : zone.resolve enter < zone.resolve leave
  · simp only [hlt, if_true]
    cases Limits.spanFailure? ⟨zone.resolve enter, zone.resolve leave⟩ <;> rfl
  · simp only [hlt, if_false]

/-! ## Admission -/

/-- Whether one more booking than a count keeps within a cap; any number does if there is no cap. -/
def withinCap (cap : Int) (count : Nat) : Bool := cap ≤ 0 || count < cap

/-- Whether a candidate keeps a rule. -/
def keepsRule (c : Conditions) (s : Store) (policy : Policy) (zone : Zone) (candidate : Candidate) :
    Rule → Bool
  | .duration => policy.allowsDuration zone candidate.span
  | .advanceWindow => policy.allowsAdvance zone c.now candidate.span
  | .userConcurrent =>
    withinCap policy.maxConcurrentPerUser
      (s.countOverlapping candidate.owner candidate.span candidate.exclude +
        candidate.unstoredOverlaps)
  | .minDuration => policy.allowsShortness candidate.span
  | .upcomingCap =>
    withinCap policy.maxUpcomingPerUser
      (s.countUpcoming candidate.owner c.now + candidate.unstored)
  | .allowedBooker =>
    (s.allowedBookersOf candidate.space).isEmpty ||
      shareGroup (s.membershipsOf candidate.owner) (s.allowedBookersOf candidate.space)

instance (cap : Int) {stored : Action StoreError Nat} (unstored : Nat) [Reads r stored] :
    Reads r (belowCap cap stored unstored) := by
  unfold belowCap
  infer_instance

theorem answer_belowCap (cap : Int) {stored : Action StoreError Nat} {n : Nat} (unstored : Nat)
    [Reads .reliable stored] (h : stored.answer c s = .ok n) :
    (belowCap cap stored unstored).answer c s = .ok (withinCap cap (n + unstored)) := by
  simp only [belowCap, answer_ite, answer_pure, answer_bind, h, Except.bind, withinCap]
  by_cases hcap : cap ≤ 0 <;> simp [hcap]

instance (policy : Policy) (zone : Zone) (candidate : Candidate) (rule : Rule) :
    Reads r (passes policy zone candidate rule) := by
  cases rule <;> unfold passes <;> infer_instance

@[simp] theorem answer_passes (policy : Policy) (zone : Zone) (candidate : Candidate) (rule : Rule)
    (c : Conditions) (s : Store) :
    (passes policy zone candidate rule).answer c s =
      .ok (keepsRule c s policy zone candidate rule) := by
  cases rule with
  | duration | minDuration => rfl
  | advanceWindow => rfl
  | userConcurrent => exact answer_belowCap _ _ (answer_ask _ _ _ _)
  | upcomingCap =>
    simp only [passes, answer_bind, answer_now, Except.bind]
    exact answer_belowCap _ _ (answer_ask _ _ _ _)
  | allowedBooker =>
    simp only [passes, Repository.allowedBookers, Repository.memberships, answer_bind, answer_ask,
      answer_ite, answer_pure, Except.bind, keepsRule]
    by_cases hempty : (s.allowedBookersOf candidate.space).isEmpty = true <;> simp [hempty]

/-- The first of the rules that apply to a candidate which it breaks. -/
def brokenRule? (c : Conditions) (s : Store) (policy : Policy) (zone : Zone)
    (candidate : Candidate) : Option Rule :=
  (Rule.chain.filter (policy.applies candidate)).find? fun rule =>
    !keepsRule c s policy zone candidate rule

instance (policy : Policy) (zone : Zone) (candidate : Candidate) (rules : List Rule) :
    Reads r (verdictOf policy zone candidate rules) := by
  induction rules with
  | nil => exact reads_pure _
  | cons rule rules ih =>
    unfold verdictOf
    infer_instance

instance (policy : Policy) (zone : Zone) (candidate : Candidate) :
    Reads r (validate policy zone candidate) := by
  unfold validate
  infer_instance

/-- **The verdict is that of the first broken rule.** -/
@[simp] theorem answer_validate (policy : Policy) (zone : Zone) (candidate : Candidate)
    (c : Conditions) (s : Store) :
    (validate policy zone candidate).answer c s =
      .ok ((brokenRule? c s policy zone candidate).elim .accept fun rule =>
        .reject rule.reason) := by
  unfold validate brokenRule?
  induction Rule.chain.filter (policy.applies candidate) with
  | nil => rfl
  | cons rule rules ih =>
    rw [verdictOf, answer_bind, answer_passes, List.find?_cons]
    cases keepsRule c s policy zone candidate rule with
    | true => exact ih
    | false => rfl

/-- What the search for conflicts reports, checked. -/
def holdersAt (s : Store) (space : Id) (span : Span) (exclude : Option Id) : List Booking :=
  (s.findConflicts space span exclude).filter fun b =>
    b.space = space && some b.id ≠ exclude && b.span.overlaps span

/-- What the store reports stands the check. -/
theorem holdersAt_eq (hs : s.Ordered) (space : Id) (span : Span) (exclude : Option Id) :
    holdersAt s space span exclude = s.findConflicts space span exclude := by
  unfold holdersAt
  rw [List.filter_eq_self]
  intro b hb
  obtain ⟨-, hspace, hover, hne⟩ := hs.mem_findConflicts.1 hb
  simp [hspace, hover, hne]

theorem mem_holdersAt (hs : s.Ordered) {space : Id} {span : Span} {exclude : Option Id}
    {b : Booking} : b ∈ holdersAt s space span exclude ↔
      b ∈ s.bookings ∧ b.space = space ∧ b.span.overlaps span = true ∧ some b.id ≠ exclude := by
  rw [holdersAt_eq hs, hs.mem_findConflicts]

instance (space : Id) (span : Span) (exclude : Option Id) :
    Reads .truthful (conflicts space span exclude) := by
  unfold conflicts
  infer_instance

/-- Whether the cap of a location leaves no room. -/
def fullAt (s : Store) (location : Location) (span : Span) (exclude : Option Id) : Bool :=
  location.maxConcurrent ≠ 0 &&
    location.maxConcurrent ≤ s.countInLocation location.id span exclude

instance (location : Location) (span : Span) (exclude : Option Id) :
    Reads r (saturated location span exclude) := by
  unfold saturated
  infer_instance

@[simp] theorem answer_saturated (location : Location) (span : Span) (exclude : Option Id)
    (c : Conditions) (s : Store) :
    (saturated location span exclude).answer c s = .ok (fullAt s location span exclude) := by
  simp only [saturated, Repository.countInLocation, answer_ite, answer_bind, answer_ask,
    answer_pure, Except.bind, fullAt]
  split <;> simp_all

/-- What stands in the way of a booking, the first thing in the order of the checks. -/
def obstacle? (c : Conditions) (s : Store) (ctx : SpaceContext) (actor : User) (owner : Id)
    (span : Span) (exclude : Option Id) (pending : List Span) : Option Failure :=
  let candidate := candidateFor ctx actor owner span exclude pending c.now
  match brokenRule? c s ctx.policy ctx.zone candidate with
  | some rule => some (.policy rule.reason)
  | none =>
    match holdersAt s ctx.space.id span exclude with
    | holder :: _ => some (.alreadyBooked holder.id)
    | [] =>
      if candidate.unstoredOverlaps ≠ 0 then some (.policy .slotConflict)
      else if fullAt s ctx.location span exclude then some (.policy .locationFull)
      else none

instance (ctx : SpaceContext) (actor : User) (owner : Id) (span : Span) (exclude : Option Id)
    (pending : List Span) :
    Reads .truthful (checkAdmission ctx actor owner span exclude pending) := by
  unfold checkAdmission
  infer_instance

@[simp] theorem answer_conflicts (space : Id) (span : Span) (exclude : Option Id) (c : Conditions)
    (s : Store) :
    (conflicts space span exclude).answer c s = .ok (holdersAt s space span exclude) := by
  simp only [conflicts, answer_bind, Repository.answer_findConflicts, answer_pure, Except.bind,
    holdersAt]

/-- **Admission reports the first thing that stands in the way.** -/
@[simp] theorem answer_checkAdmission (ctx : SpaceContext) (actor : User) (owner : Id) (span : Span)
    (exclude : Option Id) (pending : List Span) (c : Conditions) (s : Store) :
    (checkAdmission ctx actor owner span exclude pending).answer c s =
      checked (obstacle? c s ctx actor owner span exclude pending) := by
  simp only [checkAdmission, answer_bind, answer_now, answer_lift, answer_validate, answer_refuse,
    answer_conflicts, answer_ensure, answer_saturated, Except.mapError, Except.bind, obstacle?]
  cases brokenRule? c s ctx.policy ctx.zone
    (candidateFor ctx actor owner span exclude pending c.now) with
  | some rule => rfl
  | none =>
    simp only [Option.elim_none, Verdict.failure?]
    cases holdersAt s ctx.space.id span exclude with
    | cons holder rest => rfl
    | nil =>
      generalize (candidateFor ctx actor owner span exclude pending c.now).unstoredOverlaps = n
      cases n with
      | succ n => rfl
      | zero => cases fullAt s ctx.location span exclude <;> rfl

/-! ## Requests -/

/-- Whether a new booking on a space needs no decision. -/
def approvedAt (s : Store) (ctx : SpaceContext) : Bool :=
  !(ctx.policy.groupsEnabled && !(s.approversOf ctx.space.id).isEmpty)

instance (ctx : SpaceContext) : Reads r (startsApproved ctx) := by
  unfold startsApproved needsApproval
  infer_instance

@[simp] theorem answer_startsApproved (ctx : SpaceContext) (c : Conditions) (s : Store) :
    (startsApproved ctx).answer c s = .ok (approvedAt s ctx) := by
  simp only [startsApproved, needsApproval, Repository.approvers, answer_bind, answer_ite,
    answer_ask, answer_pure, Except.bind, approvedAt]
  cases ctx.policy.groupsEnabled <;> simp

instance (old : Booking) (ctx : SpaceContext) : Reads r (approvedAfter old ctx) := by
  unfold approvedAfter
  infer_instance

@[simp] theorem answer_approvedAfter (old : Booking) (ctx : SpaceContext) (c : Conditions)
    (s : Store) :
    (approvedAfter old ctx).answer c s =
      .ok (if old.space = ctx.space.id then old.approved else approvedAt s ctx) := by
  simp only [approvedAfter, answer_ite, answer_pure, answer_startsApproved]
  split <;> rfl

instance (id : Id) : Reads r (storedBooking id) := by
  unfold storedBooking
  infer_instance

@[simp] theorem answer_storedBooking (id : Id) (c : Conditions) (s : Store) :
    (storedBooking id).answer c s = (s.booking? id).elim (.error (.notFound id)) .ok := by
  simp only [storedBooking, Repository.booking?, answer_bind, answer_lift, answer_ask,
    answer_ofOption, Except.mapError, Except.bind]

instance (id : Id) : Reads r (storedSeries id) := by
  unfold storedSeries
  infer_instance

@[simp] theorem answer_storedSeries (id : Id) (c : Conditions) (s : Store) :
    (storedSeries id).answer c s = (s.series.get? id).elim (.error (.notFound id)) .ok := by
  simp only [storedSeries, Repository.series?, answer_bind, answer_lift, answer_ask,
    answer_ofOption, Except.mapError, Except.bind]

instance (actor : User) (space : Id) : Reads r (mayApprove actor space) := by
  unfold mayApprove
  infer_instance

@[simp] theorem answer_mayApprove (actor : User) (space : Id) (c : Conditions) (s : Store) :
    (mayApprove actor space).answer c s =
      .ok (actor.isSpaceAdmin || shareGroup (s.membershipsOf actor.id) (s.approversOf space)) := by
  simp only [mayApprove, Repository.approvers, Repository.memberships, answer_bind, answer_ite,
    answer_ask, answer_pure, Except.bind]
  cases actor.isSpaceAdmin with
  | true => rfl
  | false =>
    cases s.approversOf space with
    | nil => simp [shareGroup]
    | cons group groups => simp

/-- The actor may decide on bookings of a space: an administrator of its organization, or a member
there of a group that approves for the space. -/
structure MayDecide (s : Store) (actor : User) (space : Id) : Prop where
  org : ∃ sp l, s.spaces.get? space = some sp ∧ s.locations.get? sp.location = some l ∧
    l.org = actor.org
  role : actor.isSpaceAdmin = true ∨ ∃ group ∈ s.membershipsOf actor.id, group ∈ s.approversOf space

instance (actor : User) (id : Id) : Reads r (undecided actor id) := by
  unfold undecided
  infer_instance

instance (actor : User) (req : BookingRequest) : Reads .truthful (admitNew actor req) := by
  unfold admitNew
  infer_instance

/-- What a request for a new booking comes to: the request as it was admitted, or the failure. -/
@[simp] theorem answer_admitNew (actor : User) (req : BookingRequest) (c : Conditions) (s : Store) :
    (admitNew actor req).answer c s =
      (contextAt c s actor req.space).bind fun ctx =>
        (ownerAt s actor req.onBehalfOf).bind fun owner =>
          (spanAt ctx.zone req.enter req.leave).bind fun span =>
            (checked (Limits.subjectFailure? ctx.space req.subject)).bind fun _ =>
              (checked (obstacle? c s ctx actor owner span none [])).map fun _ =>
                { ctx, owner, span, subject := req.subject } := by
  simp only [admitNew, answer_bind, answer_spaceContext, answer_ownerFor, answer_requestSpan,
    answer_refuse, answer_checkAdmission, answer_pure]
  rfl

instance (actor : User) (old : Booking) (req : BookingRequest) :
    Reads .truthful (admitChange actor old req) := by
  unfold admitChange
  exact .bind inferInstance fun _ => .bind inferInstance fun _ => inferInstance

/-- The spans of all instances of a series, if they are neither none nor too many. -/
def instancesAt (c : Conditions) (cadence : Cadence) (zone : Zone) (first : Span) (stop : Int) :
    Except Failure (List Span) :=
  let spans := cadence.occurrences zone first stop (Word.next c.config.maxSeriesInstances)
  if spans.length ≤ c.config.maxSeriesInstances then
    if spans.isEmpty then .error (.policy .invalidRecurrence) else .ok spans
  else .error (.limitExceeded "too many series instances")

instance (cadence : Cadence) (zone : Zone) (first : Span) (stop : Int) :
    Reads r (instanceSpans cadence zone first stop) :=
  reads_conditions_bind fun _ => rfl

@[simp] theorem answer_instanceSpans (cadence : Cadence) (zone : Zone) (first : Span) (stop : Int)
    (c : Conditions) (s : Store) :
    (instanceSpans cadence zone first stop).answer c s =
      instancesAt c cadence zone first stop := by
  simp only [instanceSpans, answer_conditions_bind, answer_bind, answer_ensure, answer_pure,
    Conditions.reliably_config, Except.bind, instancesAt]
  by_cases hle : (cadence.occurrences zone first stop
    (Word.next c.config.maxSeriesInstances)).length ≤ c.config.maxSeriesInstances
  · by_cases hempty : (cadence.occurrences zone first stop
      (Word.next c.config.maxSeriesInstances)).isEmpty = true <;> simp [hle, hempty]
  · simp [hle]

theorem instancesAt_ok {cadence : Cadence} {zone : Zone} {first : Span} {stop : Int}
    {spans : List Span} (h : instancesAt c cadence zone first stop = .ok spans) :
    cadence.occurrences zone first stop (c.config.maxSeriesInstances + 1) = spans ∧
      spans.length ≤ c.config.maxSeriesInstances ∧ spans ≠ [] := by
  unfold instancesAt at h
  simp only at h
  split at h
  · rename_i hle
    split at h
    · cases h
    · rename_i hempty
      cases h
      -- at the greatest cap no instance would be laid out
      have hnext : Word.next c.config.maxSeriesInstances ≠ 0 := by
        intro hzero
        rw [hzero] at hempty
        exact hempty rfl
      exact ⟨by rw [Word.next_of_ne_zero hnext], hle, fun heq => hempty (List.isEmpty_iff.2 heq)⟩
  · cases h

instance (actor : User) (req : SeriesRequest) : Reads r (planSeries actor req) := by
  unfold planSeries
  infer_instance

instance (actor : User) (plan : SeriesPlan) (pending : List Span) (span : Span) :
    Reads .truthful (admitInstance actor plan pending span) := by
  unfold admitInstance
  infer_instance

/-- What stands in the way of an instance of a series. -/
def instanceObstacle? (c : Conditions) (s : Store) (actor : User) (plan : SeriesPlan)
    (pending : List Span) (span : Span) : Option Failure :=
  (Limits.spanFailure? span).or (obstacle? c s plan.ctx actor plan.owner span none pending)

@[simp] theorem answer_admitInstance (actor : User) (plan : SeriesPlan) (pending : List Span)
    (span : Span) (c : Conditions) (s : Store) :
    (admitInstance actor plan pending span).answer c s =
      checked (instanceObstacle? c s actor plan pending span) := by
  simp only [admitInstance, answer_bind, answer_refuse, answer_checkAdmission, instanceObstacle?]
  cases Limits.spanFailure? span <;> rfl

end Service

end SpaceBooking
