import SpaceBooking.Proofs.GatedSpaces
import SpaceBooking.Proofs.Access

/-!
# The approval queue

What waits for a decision of somebody is listed by going through spaces: for administrators those of
the organization, location by location, and for others those that their groups approve for. An
approval starts from the booking and looks up its space, the organization and the groups. Both come
down to `MayDecide`, so the queue lists just what can be approved.

* `mem_approvableAt` — the spaces that are gone through, on either way, are those on which the actor
  may decide.
* `mem_pendingIn` — of these, the queue holds the bookings that wait and are not over.
* `approves_iff` — what can be approved. The store never refuses an approval, as the booking keeps
  its slot.
* `approval_queue_agrees` — the queue and the approval agree.
-/

namespace SpaceBooking

open SpaceBooking.Action Service

variable {r : Conduct} {c : Conditions} {w : World} {s s' : Store} {actor : User} {id : Id}
  {b old : Booking}

/-! ## What the queue asks -/

namespace Repository

instance (id : Id) : Reads r (spacesIn id) := reads_ask _ _
instance (groups : List Id) : Reads r (spacesApprovedBy groups) := reads_ask _ _
instance (id : Id) : Reads r (locationsOf id) := reads_ask _ _
instance (spaces : List Id) (now : Int) : Reads r (pendingIn spaces now) := reads_ask _ _

end Repository

namespace Service

instance (ls : List Location) : Reads r (spacesOf ls) := by
  induction ls with
  | nil => exact reads_pure _
  | cons l ls ih =>
    unfold spacesOf
    infer_instance

@[simp] theorem answer_spacesOf (ls : List Location) (c : Conditions) (s : Store) :
    (spacesOf ls).answer c s = .ok (ls.flatMap fun l => (s.spacesIn l.id).map (·.id)) := by
  induction ls with
  | nil => rfl
  | cons l ls ih =>
    simp only [spacesOf, Repository.spacesIn, answer_bind, answer_ask, answer_pure, Except.bind, ih,
      List.flatMap_cons]

/-- A context that cannot be loaded is passed over, so a failing call would be, too. -/
instance (actor : User) (ids : List Id) : Reads .reliable (reachable actor ids) := by
  induction ids with
  | nil => exact reads_pure _
  | cons id ids ih =>
    unfold reachable
    infer_instance

@[simp] theorem answer_reachable (actor : User) (ids : List Id) (c : Conditions) (s : Store) :
    (reachable actor ids).answer c s =
      .ok (ids.filter fun id => (contextAt c s actor id).isOk) := by
  induction ids with
  | nil => rfl
  | cons id ids ih =>
    simp only [reachable, answer_bind, answer_attempt, answer_spaceContext, answer_pure,
      Except.bind, ih]
    rw [List.filter_cons]

/-- The spaces that are gone through for the queue of somebody. -/
def approvableAt (c : Conditions) (s : Store) (actor : User) : List Id :=
  if actor.isSpaceAdmin then
    (s.locationsOf actor.org).flatMap fun l => (s.spacesIn l.id).map (·.id)
  else (s.spacesApprovedBy (s.membershipsOf actor.id)).filter fun id =>
    (contextAt c s actor id).isOk

instance (actor : User) : Reads .reliable (approvableSpaces actor) := by
  unfold approvableSpaces
  infer_instance

@[simp] theorem answer_approvableSpaces (actor : User) (c : Conditions) (s : Store) :
    (approvableSpaces actor).answer c s = .ok (approvableAt c s actor) := by
  simp only [approvableSpaces, approvableAt, Repository.locationsOf, Repository.memberships,
    Repository.spacesApprovedBy, answer_ite, answer_bind, answer_lift, answer_ask, answer_spacesOf,
    answer_reachable, answer_pure, Except.mapError, Except.bind]
  split
  · rfl
  · cases s.membershipsOf actor.id with
    | nil => simp [Store.spacesApprovedBy]
    | cons group groups => rfl

instance (actor : User) : Reads .reliable (pendingApprovals actor) := by
  unfold pendingApprovals
  infer_instance

@[simp] theorem answer_pendingApprovals (actor : User) (c : Conditions) (s : Store) :
    (pendingApprovals actor).answer c s = .ok (s.pendingIn (approvableAt c s actor) c.now) := by
  simp only [pendingApprovals, Repository.pendingIn, answer_bind, answer_approvableSpaces,
    answer_ite, answer_pure, answer_now, answer_lift, answer_ask, Except.mapError, Except.bind]
  cases approvableAt c s actor with
  | nil => simp [Store.pendingIn, Store.sortByStart]
  | cons id ids => rfl

end Service

/-! ## The spaces -/

/-- The zone that applies at each location is known. -/
def Conditions.KnowsZones (c : Conditions) (s : Store) : Prop :=
  ∀ l ∈ s.locations.values, (c.zones (zoneName l.zoneName (s.policyOf l.org).defaultZoneName
    c.config.fallbackZoneName)).isSome = true

instance (c : Conditions) (s : Store) : Decidable (c.KnowsZones s) :=
  inferInstanceAs (Decidable (∀ l ∈ s.locations.values, _))

theorem Store.mem_spacesApprovedBy {groups : List Id} :
    id ∈ s.spacesApprovedBy groups ↔ ∃ group ∈ groups, group ∈ s.approversOf id := by
  simp only [spacesApprovedBy, List.mem_map, List.mem_filter, Prod.exists, Table.mem_entries_iff,
    List.any_eq_true, decide_eq_true_eq, approversOf]
  constructor
  · rintro ⟨_, approvers, ⟨hget, group, happroves, hmem⟩, rfl⟩
    refine ⟨group, hmem, ?_⟩
    rwa [hget, Option.getD_some]
  · rintro ⟨group, hmem, happroves⟩
    cases hget : s.approvers.get? id with
    | none => simp [hget] at happroves
    | some approvers =>
      rw [hget, Option.getD_some] at happroves
      exact ⟨id, approvers, ⟨hget, group, happroves, hmem⟩, rfl⟩

namespace Service

/-- Where all zones are known, a context is refused for no other reason than the organization. -/
theorem contextAt_isOk_iff (hz : c.KnowsZones s) :
    (contextAt c s actor id).isOk = true ↔ s.orgOf id = some actor.org := by
  constructor
  · intro hok
    cases hctx : contextAt c s actor id with
    | error failure =>
      rw [hctx] at hok
      cases hok
    | ok ctx => exact contextAt_orgOf hctx
  · intro horg
    obtain ⟨sp, l, hsp, hl, horg⟩ := Store.orgOf_eq_some_iff.1 horg
    obtain ⟨zone, hzone⟩ := Option.isSome_iff_exists.1 (hz l (Table.mem_values_iff.2 ⟨_, hl⟩))
    simp only [contextAt, hsp, hl, if_pos horg, hzone]
    rfl

/-- **The queue goes through the spaces on which the actor may decide**, by whichever way it finds
them. -/
theorem mem_approvableAt (hs : s.Ordered) (hk : s.Keyed) (hz : c.KnowsZones s) :
    id ∈ approvableAt c s actor ↔ MayDecide s actor id := by
  unfold approvableAt
  by_cases hadmin : actor.isSpaceAdmin = true
  · simp only [if_pos hadmin, List.mem_flatMap, List.mem_map, Store.locationsOf, Store.spacesIn,
      List.mem_filter, decide_eq_true_eq, Table.mem_values_iff]
    constructor
    · rintro ⟨l, ⟨⟨k, hl⟩, horg⟩, sp, ⟨⟨k', hsp⟩, hlocation⟩, rfl⟩
      obtain rfl := hk hl
      obtain rfl := hs.named hsp
      exact ⟨⟨sp, l, hsp, hlocation ▸ hl, horg⟩, .inl hadmin⟩
    · rintro ⟨⟨sp, l, hsp, hl, horg⟩, -⟩
      exact ⟨l, ⟨⟨_, hl⟩, horg⟩, sp, ⟨⟨_, hsp⟩, (hk hl).symm⟩, hs.named hsp⟩
  · rw [if_neg hadmin, List.mem_filter, Store.mem_spacesApprovedBy, contextAt_isOk_iff hz,
      Store.orgOf_eq_some_iff]
    constructor
    · rintro ⟨hshare, horg⟩
      exact ⟨horg, .inr hshare⟩
    · rintro ⟨horg, hrole⟩
      exact ⟨hrole.resolve_left hadmin, horg⟩

/-- No space is gone through twice. -/
theorem nodup_approvableAt (hs : s.Ordered) (hk : s.Keyed) : (approvableAt c s actor).Nodup := by
  unfold approvableAt
  split
  · have hlocations : ((s.locationsOf actor.org).map (·.id)).Nodup := by
      have hkeys := s.locations.nodup_keys
      rw [← Table.map_values fun _ _ hl => hk hl] at hkeys
      exact hkeys.sublist (List.filter_sublist.map _)
    refine List.nodup_flatMap.2 ⟨fun l _ => ?_, (List.pairwise_map.1 hlocations).imp ?_⟩
    · have hkeys := s.spaces.nodup_keys
      rw [← Table.map_values fun _ _ hsp => hs.named hsp] at hkeys
      exact hkeys.sublist (List.filter_sublist.map _)
    · -- a space is found at its own location only
      intro l l' hne id hid hid'
      simp only [Store.spacesIn, List.mem_map, List.mem_filter, decide_eq_true_eq,
        Table.mem_values_iff] at hid hid'
      obtain ⟨sp, ⟨⟨k, hsp⟩, hlocation⟩, rfl⟩ := hid
      obtain ⟨sp', ⟨⟨k', hsp'⟩, hlocation'⟩, hsame⟩ := hid'
      obtain rfl := hs.named hsp
      obtain rfl := hs.named hsp'
      rw [hsame, hsp] at hsp'
      cases hsp'
      exact hne (hlocation.symm.trans hlocation')
  · refine List.Nodup.filter _ ?_
    exact s.approvers.nodup_keys.sublist (List.filter_sublist.map _)

end Service

/-! ## The bookings -/

namespace Store

variable {space : Id} {spaces : List Id} {now : Int}

/-- The bookings on a space that wait for approval and stop after an instant. -/
def waitingOn (s : Store) (space : Id) (now : Int) : List Booking :=
  (s.ledgers.get? space).elim [] fun l =>
    l.bookings.toList.filter fun b => !b.approved && now < b.span.stop

theorem pendingIn_perm (s : Store) (spaces : List Id) (now : Int) :
    (s.pendingIn spaces now).Perm (spaces.flatMap (s.waitingOn · now)) :=
  sortByStart_perm _

theorem mem_waitingOn (hs : s.Ordered) : b ∈ s.waitingOn space now ↔
    b ∈ s.bookings ∧ b.space = space ∧ b.approved = false ∧ now < b.span.stop := by
  unfold waitingOn
  cases hl : s.ledgers.get? space with
  | none =>
    simp only [Option.elim_none, List.not_mem_nil, false_iff]
    rintro ⟨hb, rfl, -⟩
    obtain ⟨l, hl', -⟩ := hs.mem_bookings_iff.1 hb
    rw [hl] at hl'
    cases hl'
  | some l =>
    simp only [Option.elim_some, List.mem_filter, Bool.and_eq_true, Bool.not_eq_true',
      decide_eq_true_eq]
    rw [hs.mem_ledger_iff hl, and_assoc]

theorem nodup_waitingOn (hs : s.Consistent) : (s.waitingOn space now).Nodup := by
  unfold waitingOn
  cases hl : s.ledgers.get? space with
  | none => exact .nil
  | some l =>
    have hnodup := (bookings_perm hl).nodup_iff.1 hs.distinct.of_map
    exact (List.nodup_append.1 hnodup).1.filter _

/-- **The queue holds the bookings on its spaces that wait and are not over.** -/
theorem mem_pendingIn (hs : s.Ordered) : b ∈ s.pendingIn spaces now ↔
    b ∈ s.bookings ∧ b.space ∈ spaces ∧ b.approved = false ∧ now < b.span.stop := by
  rw [(s.pendingIn_perm spaces now).mem_iff, List.mem_flatMap]
  constructor
  · rintro ⟨space, hspace, hb⟩
    obtain ⟨hstored, rfl, hwaits⟩ := (mem_waitingOn hs).1 hb
    exact ⟨hstored, hspace, hwaits⟩
  · rintro ⟨hstored, hspace, hwaits⟩
    exact ⟨b.space, hspace, (mem_waitingOn hs).2 ⟨hstored, rfl, hwaits⟩⟩

/-- The queue holds no booking twice if no space is gone through twice. -/
theorem nodup_pendingIn (hs : s.Consistent) (h : spaces.Nodup) :
    (s.pendingIn spaces now).Nodup := by
  rw [(s.pendingIn_perm spaces now).nodup_iff]
  refine List.nodup_flatMap.2 ⟨fun _ _ => nodup_waitingOn hs, h.imp fun hne b hb hb' => hne ?_⟩
  exact ((mem_waitingOn hs.toOrdered).1 hb).2.1.symm.trans ((mem_waitingOn hs.toOrdered).1 hb').2.1

/-- **A booking can be replaced by one in its own slot**, as nothing else lies there. -/
theorem Consistent.updateBooking_of_same_slot (hs : s.Consistent) (he : s.Exclusive)
    (hold : old ∈ s.bookings) (hid : b.id = old.id) (hspace : b.space = old.space)
    (hspan : b.span = old.span) : ∃ s', s.updateBooking b = .ok s' := by
  obtain ⟨s₁, hdelete, hx⟩ := hs.deleteBooking_of_mem hold
  have hs₁ : s₁.Consistent := hx.consistent hs (by simp)
  obtain ⟨l, hl, -⟩ := hs.mem_bookings_iff.1 hold
  have hledger := hx.setup.ledgers b.space
  rw [hspace, hl, Option.map_some, ← hspace] at hledger
  obtain ⟨l₁, hl₁, -⟩ := Option.map_eq_some_iff.1 hledger
  have hfree : s₁.findConflicts b.space b.span none = [] := by
    rw [List.eq_nil_iff_forall_not_mem]
    intro d hd
    obtain ⟨hstored, hsame, hover, -⟩ := hs₁.mem_findConflicts.1 hd
    obtain ⟨rest, -, hperm, hrest⟩ := hx.exists_rest hs
    obtain ⟨hmem, hne⟩ := hrest d (hperm.mem_iff.1 hstored)
    rw [hspan] at hover
    exact he.not_overlaps hold hmem (fun heq => hne (congrArg some heq.symm))
      (hsame.trans hspace) hover
  rw [hs.updateBooking_eq hold hid.symm, hid, hdelete]
  show ∃ s', s₁.insertBooking b = .ok s'
  rw [insertBooking_of_ledger hl₁, hfree]
  exact ⟨_, rfl⟩

end Store

namespace Service

/-! ## The approval -/

theorem shareGroup_iff {memberOf groups : List Id} :
    shareGroup memberOf groups = true ↔ ∃ group ∈ memberOf, group ∈ groups := by
  simp [shareGroup]

/-- Where the zones are known, the right to decide can be read off what a request looks up. -/
theorem mayDecide_iff (hz : c.KnowsZones s) : MayDecide s actor id ↔
    (contextAt c s actor id).isOk = true ∧
      (actor.isSpaceAdmin || shareGroup (s.membershipsOf actor.id) (s.approversOf id)) = true := by
  rw [contextAt_isOk_iff hz, Store.orgOf_eq_some_iff, Bool.or_eq_true, shareGroup_iff]
  exact ⟨fun h => ⟨h.org, h.role⟩, fun h => ⟨h.1, h.2⟩⟩

/-- **A booking can be decided on** by those who may, as long as it waits. -/
theorem answer_undecided (hz : c.KnowsZones s) (hfound : s.booking? id = some b) :
    (undecided actor id).answer c s = .ok b ↔ MayDecide s actor b.space ∧ b.approved = false := by
  rw [mayDecide_iff hz]
  simp only [undecided, answer_bind, answer_storedBooking, hfound, Option.elim_some,
    answer_spaceContext, answer_lift, answer_mayApprove, answer_ensure, answer_pure,
    Except.mapError, Except.bind]
  cases contextAt c s actor b.space with
  | error failure => simp [Except.isOk, Except.toBool]
  | ok ctx =>
    generalize (actor.isSpaceAdmin ||
      shareGroup (s.membershipsOf actor.id) (s.approversOf b.space)) = may
    cases may <;> cases b.approved <;> simp [Except.isOk, Except.toBool]

/-- **What can be approved**: what waits for a decision that the actor may take. The store never
refuses, since the approved booking has the slot to itself. -/
theorem approves_iff (hc : c.Reliable) (hs : w.store.Consistent) (he : w.store.Exclusive)
    (hz : c.KnowsZones w.store) (hb : b ∈ w.store.bookings) :
    (∃ d, (approve actor b.id c w).1 = .ok d) ↔
      MayDecide w.store actor b.space ∧ b.approved = false := by
  have hfound : w.store.booking? b.id = some b := hs.booking?_eq_some_iff.2 ⟨hb, rfl⟩
  rw [← answer_undecided hz hfound]
  obtain ⟨v, hv, hundecided⟩ := Reads.of_reliable (x := undecided actor b.id) hc w
  constructor
  · rintro ⟨d, hd⟩
    obtain ⟨old, u, hold, -⟩ := bind_eq_ok_iff.1 (Prod.ext hd rfl)
    have hans := Reads.answer_of_run hc hold
    obtain ⟨-, hfound', -⟩ := undecided_ok hold
    rw [hfound] at hfound'
    cases hfound'
    exact hans
  · intro hans
    rw [hans] at hundecided
    obtain ⟨s', hupdate⟩ := hs.updateBooking_of_same_slot (b := { b with approved := true }) he hb
      rfl rfl rfl
    refine ⟨{ b with approved := true }, ?_⟩
    rw [approve, bind_of_ok hundecided]
    have hchange := change_bind_of_upFrom (hc.upFrom v) .updateBooking
      (·.updateBooking { b with approved := true })
      (f := fun _ => do
        Action.count .bookingApproved
        Action.publish (.booking .approved { b with approved := true })
        return { b with approved := true }) fun u => rfl
    rw [hv.store, hupdate] at hchange
    exact hchange

/-! ## Showing a booking -/

instance (actor : User) (id : Id) : Reads .reliable (showBooking actor id) := by
  unfold showBooking
  infer_instance

/-- Whoever may decide on a booking can look at it. -/
theorem answer_showBooking (hz : c.KnowsZones s) (hfound : s.booking? id = some b)
    (hmay : MayDecide s actor b.space) : (showBooking actor id).answer c s = .ok b := by
  obtain ⟨hctx, hrole⟩ := (mayDecide_iff hz).1 hmay
  simp only [showBooking, answer_bind, answer_storedBooking, hfound, Option.elim_some,
    answer_spaceContext, answer_ite, answer_lift, answer_pure, answer_ensure, Repository.approvers,
    Repository.memberships, answer_ask, Except.mapError, Except.bind]
  cases hcontext : contextAt c s actor b.space with
  | error failure =>
    rw [hcontext] at hctx
    cases hctx
  | ok ctx =>
    simp only
    by_cases hsees : (decide (b.owner = actor.id) || actor.isSpaceAdmin) = true
    · rw [if_pos hsees]
    · rw [Bool.or_eq_true, not_or] at hsees
      rw [Bool.or_eq_true] at hrole
      rw [if_neg (by simpa using hsees), if_pos (hrole.resolve_left hsees.2)]

end Service

/-! ## Agreement -/

/-- **The approval queue and the approval agree.** In every state that requests and administration
lead to, when the store is in order and the zones are known, whoever asks gets a queue: it holds the
stored bookings that are not approved and not over and that the same user could approve, each once
and in the order of their starts, and the user can look at each of them. -/
theorem approval_queue_agrees (h : Reachable Step.Fresh w) (hc : c.Reliable)
    (hz : c.KnowsZones w.store) (actor : User) :
    ∃ queue, (pendingApprovals actor c w).1 = .ok queue ∧
      (∀ b, b ∈ queue ↔ b ∈ w.store.bookings ∧ b.approved = false ∧ c.now < b.span.stop ∧
        ∃ d, (approve actor b.id c w).1 = .ok d) ∧
      queue.Nodup ∧ queue.Pairwise (fun b d => b.span.start ≤ d.span.start) ∧
      ∀ b ∈ queue, (showBooking actor b.id c w).1 = .ok b := by
  have hs := h.consistent
  have hqueue : ∀ b, b ∈ w.store.pendingIn (approvableAt c w.store actor) c.now ↔
      b ∈ w.store.bookings ∧ MayDecide w.store actor b.space ∧ b.approved = false ∧
        c.now < b.span.stop := by
    intro b
    rw [Store.mem_pendingIn hs.toOrdered, mem_approvableAt hs.toOrdered h.keyed hz]
  obtain ⟨_, -, hrun⟩ := Reads.of_reliable (x := pendingApprovals actor) hc w
  rw [answer_pendingApprovals] at hrun
  refine ⟨_, congrArg Prod.fst hrun, fun b => ?_, ?_, Store.sortByStart_sorted _, fun b hb => ?_⟩
  · rw [hqueue]
    constructor
    · rintro ⟨hb, hmay, hwaits, hstop⟩
      exact ⟨hb, hwaits, hstop, (approves_iff hc hs h.exclusive hz hb).2 ⟨hmay, hwaits⟩⟩
    · rintro ⟨hb, hwaits, hstop, happroves⟩
      exact ⟨hb, ((approves_iff hc hs h.exclusive hz hb).1 happroves).1, hwaits, hstop⟩
  · exact Store.nodup_pendingIn hs (nodup_approvableAt hs.toOrdered h.keyed)
  · obtain ⟨hstored, hmay, -⟩ := (hqueue b).1 hb
    obtain ⟨_, -, hshown⟩ := Reads.of_reliable (x := showBooking actor b.id) hc w
    rw [answer_showBooking hz (hs.booking?_eq_some_iff.2 ⟨hstored, rfl⟩) hmay] at hshown
    exact congrArg Prod.fst hshown

namespace Sample

/-- The desk is booked for noon and then for the hours before it, and the room for these, too. -/
def waitingWorld : World :=
  [.request conditions (.book admin later), .request conditions (.book admin request),
    .request conditions (.book admin { request with space := room.id })]
    |>.foldl Step.apply gatedWorld

end Sample

/-- For the member of the group that approves for the desk, the queue holds the two bookings on it,
which are those that the member can approve. -/
theorem approval_queue_agrees_desk :
    Reachable Step.Fresh Sample.waitingWorld ∧ Sample.conditions.Reliable ∧
    Sample.conditions.KnowsZones Sample.waitingWorld.store ∧
    Sample.waitingWorld.store.bookings.map (fun b => (b.id, b.space)) =
      [(.ofNat 101, .ofNat 4), (.ofNat 100, .ofNat 4), (.ofNat 102, .ofNat 5)] ∧
    ∃ queue, (pendingApprovals Sample.member Sample.conditions Sample.waitingWorld).1 = .ok queue ∧
      ∀ b ∈ Sample.waitingWorld.store.bookings, b ∈ queue ↔ b.space = .ofNat 4 := by
  have hgated : Reachable Step.Fresh Sample.gatedWorld :=
    Reachable.initial.steps (by decide +kernel)
  have hreachable : Reachable Step.Fresh Sample.waitingWorld := hgated.steps (by decide +kernel)
  have hzones : Sample.conditions.KnowsZones Sample.waitingWorld.store := by decide +kernel
  obtain ⟨queue, hrun, hmem, -⟩ :=
    approval_queue_agrees hreachable Sample.reliable hzones Sample.member
  refine ⟨hreachable, Sample.reliable, hzones, by decide +kernel, queue, hrun, fun b hb => ?_⟩
  have hdesk : ∀ b ∈ Sample.waitingWorld.store.bookings, b.space = .ofNat 4 →
      b.approved = false ∧ Sample.conditions.now < b.span.stop ∧
        (approve Sample.member b.id Sample.conditions Sample.waitingWorld).1.toOption.isSome := by
    decide +kernel
  have hroom : ∀ b ∈ Sample.waitingWorld.store.bookings, b.space ≠ .ofNat 4 →
      b.approved = true := by decide +kernel
  rw [hmem]
  constructor
  · rintro ⟨-, hwaits, -⟩
    by_contra hspace
    rw [hroom b hb hspace] at hwaits
    cases hwaits
  · intro hspace
    obtain ⟨hwaits, hstop, happroves⟩ := hdesk b hb hspace
    refine ⟨hb, hwaits, hstop, ?_⟩
    cases hrun : (approve Sample.member b.id Sample.conditions Sample.waitingWorld).1 with
    | error failure => simp [hrun, Except.toOption] at happroves
    | ok d => exact ⟨d, rfl⟩

end SpaceBooking
