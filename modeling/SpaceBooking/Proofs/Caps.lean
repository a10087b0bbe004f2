import Mathlib.Data.List.Perm.Subperm
import SpaceBooking.Proofs.Clearance
import SpaceBooking.Proofs.Decision

/-!
# Caps on what is booked at one time

A location can cap the bookings on its spaces, and a policy those of each user. A booking is let
pass on a count of all bookings that overlap its span. At each instant of the span there are at most
these, so with the booking there are no more than the cap allows, and at other instants nothing is
added. What is replaced is not counted, and goes when its replacement comes.

* `Exchange.countP_le_of_room`, `countP_le_of_ids` — a booking that comes where there is room keeps
  a cap, and so does all that makes nothing new.
* `Request.countP_le` — from these, what a request keeps.
* `location_cap_kept`, `user_cap_kept` — the two caps are kept at every instant in every run.
-/

namespace SpaceBooking

open SpaceBooking.Action Service Relation

variable {c : Conditions} {w : World} {s s' : Store} {actor : User} {b : Booking} {st : Step}
  {sts : List Step} {p q : Booking → Bool} {cap : Nat} {location user : Id} {t : Int}

namespace Store

/-! ## Counting -/

/-- Bookings that were stored before, and were counted then, are not more than before. -/
theorem countP_le_of_ids (hs : s'.Consistent)
    (h : ∀ b ∈ s'.bookings, p b = true → ∃ old ∈ s.bookings, b.id = old.id ∧ q old = true) :
    s'.bookings.countP p ≤ s.bookings.countP q := by
  have hnodup : ((s'.bookings.filter p).map (·.id)).Nodup :=
    hs.distinct.sublist (List.filter_sublist.map _)
  have hsub : (s'.bookings.filter p).map (·.id) ⊆ (s.bookings.filter q).map (·.id) := by
    intro id hid
    obtain ⟨b, hb, rfl⟩ := List.mem_map.1 hid
    obtain ⟨hstored, hp⟩ := List.mem_filter.1 hb
    obtain ⟨old, hold, heq, hq⟩ := h b hstored hp
    exact List.mem_map.2 ⟨old, List.mem_filter.2 ⟨hold, hq⟩, heq.symm⟩
  have hle := (hnodup.subperm hsub).length_le
  simpa only [List.length_map, ← List.countP_eq_length_filter] using hle

/-- A booking that comes where there is room keeps a cap. What it replaces takes no room. -/
theorem Exchange.countP_le_of_room {gone : Option Booking} {exclude : Option Id}
    (h : s.Exchange gone (some b) s') (hs : s.Consistent) (hgone : gone.map (·.id) = exclude)
    (hroom : p b = true →
      s.bookings.countP (fun d => p d && decide (some d.id ≠ exclude)) < cap)
    (hle : s.bookings.countP p ≤ cap) : s'.bookings.countP p ≤ cap := by
  obtain ⟨rest, hperm, hperm', hrest⟩ := h.exists_rest hs
  have hsub : rest.Sublist (gone.toList ++ rest) := List.sublist_append_right _ _
  rw [hperm'.countP_eq, Option.toList_some, List.singleton_append]
  by_cases hp : p b = true
  · have hstay : rest.countP p = rest.countP fun d => p d && decide (some d.id ≠ exclude) := by
      refine List.countP_congr fun d hd => ?_
      have hne := (hrest d hd).2
      rw [hgone] at hne
      simp [hne.symm]
    have hcount := hsub.countP_le (p := fun d => p d && decide (some d.id ≠ exclude))
    rw [← hperm.countP_eq, ← hstay] at hcount
    rw [List.countP_cons_of_pos hp]
    exact Nat.lt_of_le_of_lt hcount (hroom hp)
  · rw [List.countP_cons_of_neg hp]
    exact Nat.le_trans (hperm.countP_eq p ▸ hsub.countP_le) hle

theorem Recedes.countP_le (h : s.Recedes s') (hp : ∀ b old : Booking, b.Stands old → p b = p old) :
    s'.bookings.countP p ≤ s.bookings.countP p := by
  refine countP_le_of_ids h.consistent fun b hb hpb => ?_
  obtain ⟨old, hold, hstands⟩ := h.stood b hb
  exact ⟨old, hold, hstands.id, hp b old hstands ▸ hpb⟩

/-- **Deeds keep a cap** if a booking is cleared only where there is room. -/
theorem countP_le_of_deeds (h : ReflTransGen (Deed c actor) s s') (hs : s.Consistent)
    (hp : ∀ b old : Booking, b.Stands old → p b = p old)
    (hroom : ∀ v b, v.Consistent → s.SameSetup v → v.Clears c actor b none → p b = true →
      v.bookings.countP p < cap)
    (hle : s.bookings.countP p ≤ cap) : s'.bookings.countP p ≤ cap := by
  induction h with
  | refl => exact hle
  | @tail v s' hmany hlast ih =>
    have hv := hs.of_deeds hmany
    cases hlast with
    | booked b _ hclear hx =>
      refine hx.countP_le_of_room hv rfl (fun hpb => ?_) ih
      simpa using hroom v b hv (.of_deeds hmany) hclear hpb
    | receded h => exact Nat.le_trans (h.countP_le hp) ih

end Store

/-- **A request keeps a cap** if a booking is cleared only where there is room, itself left out. -/
theorem Request.countP_le (r : Request) (hs : w.store.Consistent)
    (hfresh : c.Fresh w.store w.minted (r.apply c w).minted)
    (hp : ∀ b old : Booking, b.Stands old → p b = p old)
    (hroom : ∀ v b exclude, v.Consistent → w.store.SameSetup v → v.Clears c r.actor b exclude →
      p b = true → v.bookings.countP (fun d => p d && decide (some d.id ≠ exclude)) < cap)
    (hle : w.store.bookings.countP p ≤ cap) : (r.apply c w).store.bookings.countP p ≤ cap := by
  cases r.course hs hfresh with
  | moved actor id req old b hid _ _ hclear hx =>
    exact hx.countP_le_of_room hs (congrArg some hid) (hroom _ b _ hs (.refl _) hclear) hle
  | deeds _ hdeeds =>
    refine Store.countP_le_of_deeds hdeeds hs hp (fun v b hv hsetup hclear hpb => ?_) hle
    simpa using hroom v b none hv hsetup hclear hpb

/-! ## The cap of a location -/

namespace Store

/-- How many stored bookings on the spaces of a location contain an instant. -/
def loadAt (s : Store) (location : Id) (t : Int) : Nat :=
  s.bookings.countP fun b =>
    (s.spaces.get? b.space).map (·.location) = some location && b.span.contains t

/-- Whether a booking lies in a ledger of a location and contains an instant. -/
def occupies (s : Store) (location : Id) (t : Int) (b : Booking) : Bool :=
  s.locationOf b.space = some location && b.span.contains t

theorem loadAt_eq (hs : s.Ordered) (hl : s.Located) :
    s.loadAt location t = s.bookings.countP (s.occupies location t) := by
  unfold loadAt occupies
  simp only [hs.locationOf_eq hl]

theorem SameSetup.occupies (h : s.SameSetup s') : s'.occupies = s.occupies := by
  funext location t b
  rw [Store.occupies, h.locationOf]
  rfl

theorem occupies_of_stands {old : Booking} (h : b.Stands old) :
    s.occupies location t b = s.occupies location t old := by
  rw [occupies, h.space, h.span]
  rfl

/-- **Where a booking is cleared, its location has room** at each instant of the booking. -/
theorem Clears.room_in_location {exclude : Option Id} (h : s.Clears c actor b exclude)
    (hs : s.Consistent) (hl : s.Located) (hk : s.Keyed) (hpos : 0 < cap)
    (hcap : ∀ l, s.locations.get? location = some l → l.maxConcurrent = cap)
    (hb : s.occupies location t b = true) :
    s.bookings.countP (fun d => s.occupies location t d && decide (some d.id ≠ exclude)) < cap := by
  obtain ⟨sp, l, hsp, hlocation, hroom⟩ := h.countInLocation_lt
  rw [occupies, Bool.and_eq_true, decide_eq_true_eq, hs.toOrdered.locationOf_eq hl, hsp] at hb
  obtain ⟨hsame, ht⟩ := hb
  obtain rfl : sp.location = location := Option.some.inj hsame
  have hmax := hcap l hlocation
  rw [hk hlocation, hmax, hs.countInLocation_eq] at hroom
  refine Nat.lt_of_le_of_lt (List.countP_mono_left fun d _ hd => ?_) (hroom (by omega))
  simp only [occupies, Bool.and_eq_true] at hd ⊢
  exact ⟨hd.1.1, Span.overlaps_of_contains hd.1.2 ht, hd.2⟩

end Store

/-- The administration leaves stored bookings in the ledgers in which they lie. -/
theorem Administration.locationOf (hs : s.Consistent) {a : Administration}
    (hb : b ∈ (a.apply s).bookings) : (a.apply s).locationOf b.space = s.locationOf b.space := by
  obtain ⟨l, hl, -⟩ := hs.mem_bookings_iff.1 (a.mem_of_mem hb)
  cases a with
  | putSpace space approvers allowedBookers =>
    simp only [apply, Store.locationOf, Store.putSpace_ledgers, hl, Option.some_or]
  | deleteSpace id =>
    cases h : s.deleteSpace id with
    | ok s' =>
      simp only [apply, h] at hb ⊢
      obtain ⟨l', hl', -⟩ := (Store.deleteSpace_consistent hs h).mem_bookings_iff.1 hb
      rw [Store.deleteSpace_ok h] at hl'
      obtain ⟨hne, -⟩ := Table.get?_of_erase hl'
      rw [Store.locationOf, Store.deleteSpace_ok h, Table.get?_erase, if_neg hne]
      rfl
    | error e => simp only [apply, h]
  | putLocation | putUser | addMembership | putSetting => rfl

/-- **No step exceeds the cap of a location.** -/
theorem Step.loadAt_le (hs : w.store.Consistent) (hl : w.store.Located) (hk : w.store.Keyed)
    (hok : st.Fresh w ∧ st.KeepsLocations w) (hpos : 0 < cap)
    (hcap : ∀ l, w.store.locations.get? location = some l → l.maxConcurrent = cap)
    (hle : w.store.loadAt location t ≤ cap) : (st.apply w).store.loadAt location t ≤ cap := by
  rw [Store.loadAt_eq hs.toOrdered hl] at hle
  cases st with
  | request c r =>
    have hchanges := r.changes hs.toOrdered hok.1
    have hsetup := Store.SameSetup.of_changes hchanges hs
    show (r.apply c w).store.loadAt location t ≤ cap
    rw [Store.loadAt_eq (hs.of_changes hchanges).toOrdered (hsetup.located hl), hsetup.occupies]
    refine r.countP_le hs hok.1 (fun _ _ => Store.occupies_of_stands) ?_ hle
    intro v b exclude hv hsame hclear hb
    rw [← hsame.occupies] at hb ⊢
    exact hclear.room_in_location hv (hsame.located hl) (hsame.keyed hk) hpos
      (hsame.locations ▸ hcap) hb
  | administration a =>
    have hs' := a.consistent hs
    show (a.apply w.store).loadAt location t ≤ cap
    rw [Store.loadAt_eq hs'.toOrdered (a.located hs hl hok.2)]
    refine Nat.le_trans (Store.countP_le_of_ids hs' fun b hb hp => ?_) hle
    rw [Store.occupies, a.locationOf hs hb] at hp
    exact ⟨b, a.mem_of_mem hb, rfl, hp⟩

/-- A run in which spaces stay at their locations and one of these keeps its cap, starting when
nothing is booked. -/
structure LocationRun (location : Id) (cap : Nat) (w : World) (sts : List Step) : Prop where
  reachable : Reachable (fun w st => st.Fresh w ∧ st.KeepsLocations w) w
  allowed : Step.Allowed (fun w st => st.Fresh w ∧ st.KeepsLocations w) w sts
  empty : w.store.bookings = []
  positive : 0 < cap
  keeps : ∀ k ≤ sts.length, ∀ l,
    (Step.world w sts k).store.locations.get? location = some l → l.maxConcurrent = cap

/-- **The cap of a location is never exceeded.** In a run of any requests and administration, with
any failing calls and anything reported as conflicts, from when nothing is booked: if no space is
moved to another location and a location keeps a cap, then at no instant are there more bookings on
its spaces than the cap. -/
theorem location_cap_kept (h : LocationRun location cap w sts) :
    ∀ k ≤ sts.length, ∀ t, (Step.world w sts k).store.loadAt location t ≤ cap := by
  intro k hk t
  refine Step.world_induction (P := fun v => v.store.loadAt location t ≤ cap) ?_ ?_ k hk
  · rw [Store.loadAt, h.empty]
    exact Nat.zero_le cap
  · intro k st hst hle
    have hw := h.reachable.world h.allowed k
    have hfresh := hw.mono fun _ _ => And.left
    have hlt : k < sts.length := (List.getElem?_eq_some_iff.1 hst).1
    exact Step.loadAt_le hfresh.consistent hw.located hfresh.keyed (h.allowed.at hst) h.positive
      (h.keeps k (Nat.le_of_lt hlt)) hle

namespace Sample

def booth : Space := ⟨.ofNat 13, .ofNat 3, "Booth", false⟩

/-- Three spaces at the location where two bookings may overlap. -/
def corridor : World :=
  [.administration (.putLocation Sample.location), .administration (.putSpace desk [] []),
    .administration (.putSpace room [] []), .administration (.putSpace booth [] [])]
    |>.foldl Step.apply {}

/-- The same hours are asked for on each space, and then the first booking is moved. -/
def crowdedSteps : List Step :=
  [.request conditions (.book admin request),
    .request stale (.book admin { request with space := room.id }),
    .request stale (.book admin { request with space := booth.id }),
    .request stale (.rebook admin (.ofNat 100) { request with space := booth.id })]

theorem locationRun : LocationRun Sample.location.id 2 corridor crowdedSteps where
  reachable := Reachable.initial.steps (by decide +kernel)
  allowed := by decide +kernel
  empty := by decide +kernel
  positive := by decide
  keeps := by
    have hkeeps : ∀ k ≤ crowdedSteps.length,
        ∀ l ∈ (Step.world corridor crowdedSteps k).store.locations.get? Sample.location.id,
          l.maxConcurrent = 2 := by decide +kernel
    exact hkeeps

end Sample

/-- The location is full after two bookings. The third is turned down, and the first can still be
moved. -/
theorem location_cap_kept_corridor :
    LocationRun Sample.location.id 2 Sample.corridor Sample.crowdedSteps ∧
    (List.range 5).map (fun k => (Step.world Sample.corridor Sample.crowdedSteps k).store.loadAt
      Sample.location.id 1000630800000) = [0, 1, 2, 2, 2] ∧
    ∀ k ≤ 4, ∀ t, (Step.world Sample.corridor Sample.crowdedSteps k).store.loadAt
      Sample.location.id t ≤ 2 :=
  ⟨Sample.locationRun, by decide +kernel, location_cap_kept Sample.locationRun⟩

/-! ## The cap of a user -/

namespace Store

/-- How many stored bookings of a user contain an instant. -/
def heldAt (s : Store) (user : Id) (t : Int) : Nat :=
  s.bookings.countP fun b => b.owner = user && b.span.contains t

/-- **Where a booking is cleared, its owner has room** at each instant of the booking. -/
theorem Clears.room_for_owner {exclude : Option Id} (h : s.Clears c actor b exclude)
    (hs : s.Consistent) (hpos : 0 < cap)
    (hp : s.EveryPolicy fun p => p.maxConcurrentPerUser = cap ∧ p.noAdminRestrictions = false)
    (hb : (b.owner = user && b.span.contains t : Bool) = true) :
    s.bookings.countP (fun d =>
      (decide (d.owner = user) && d.span.contains t) && decide (some d.id ≠ exclude)) < cap := by
  simp only [Bool.and_eq_true, decide_eq_true_eq] at hb
  obtain ⟨rfl, ht⟩ := hb
  have hroom := h.countOverlapping_lt (Int.natCast_pos.2 hpos) hp
  rw [hs.countOverlapping_eq, Int.ofNat_lt] at hroom
  refine Nat.lt_of_le_of_lt (List.countP_mono_left fun d _ hd => ?_) hroom
  simp only [Bool.and_eq_true] at hd ⊢
  exact ⟨hd.1.1, Span.overlaps_of_contains hd.1.2 ht, hd.2⟩

theorem SameSetup.everyPolicy {P : Policy → Prop} (h : s.SameSetup s') (hp : s.EveryPolicy P) :
    s'.EveryPolicy P := by
  intro l hl
  rw [h.policyOf]
  exact hp l (h.locations ▸ hl)

end Store

/-- **No step exceeds the cap of a user.** -/
theorem Step.heldAt_le (hs : w.store.Consistent) (hfresh : st.Fresh w) (hpos : 0 < cap)
    (hp : w.store.EveryPolicy fun p => p.maxConcurrentPerUser = cap ∧ p.noAdminRestrictions = false)
    (hle : w.store.heldAt user t ≤ cap) : (st.apply w).store.heldAt user t ≤ cap := by
  cases st with
  | request c r =>
    refine r.countP_le hs hfresh (fun b old hstands => ?_) ?_ hle
    · rw [hstands.owner, hstands.span]
    · intro v b exclude hv hsame hclear hb
      exact hclear.room_for_owner hv hpos (hsame.everyPolicy hp) hb
  | administration a =>
    refine Nat.le_trans (Store.countP_le_of_ids (a.consistent hs) fun b hb hpb => ?_) hle
    exact ⟨b, a.mem_of_mem hb, rfl, hpb⟩

/-- A run in which all policies keep a cap on the bookings of a user at one time, for administrators
too, starting when nothing is booked. -/
structure UserRun (cap : Nat) (w : World) (sts : List Step) : Prop where
  reachable : Reachable Step.Fresh w
  fresh : Step.Allowed (fun w st => st.Fresh w) w sts
  empty : w.store.bookings = []
  positive : 0 < cap
  keeps : ∀ k ≤ sts.length, (Step.world w sts k).store.EveryPolicy fun p =>
    p.maxConcurrentPerUser = cap ∧ p.noAdminRestrictions = false

/-- **The cap of a user is never exceeded.** In a run of any requests and administration, with any
failing calls and anything reported as conflicts, from when nothing is booked: if all policies keep
a cap on the bookings of a user at one time and exempt nobody, then at no instant does a user own
more bookings than that, over all spaces and whoever made or moved them. -/
theorem user_cap_kept (h : UserRun cap w sts) :
    ∀ k ≤ sts.length, ∀ user t, (Step.world w sts k).store.heldAt user t ≤ cap := by
  intro k hk user t
  refine Step.world_induction (P := fun v => v.store.heldAt user t ≤ cap) ?_ ?_ k hk
  · rw [Store.heldAt, h.empty]
    exact Nat.zero_le cap
  · intro k st hst hle
    have hw := h.reachable.world h.fresh k
    have hlt : k < sts.length := (List.getElem?_eq_some_iff.1 hst).1
    exact Step.heldAt_le hw.consistent (h.fresh.at hst) h.positive
      (h.keeps k (Nat.le_of_lt hlt)) hle

namespace Sample

/-- A user who administers nothing. -/
def guest : User := ⟨.ofNat 14, .ofNat 1, .user⟩

/-- Nobody may have two bookings at one time. -/
def rationed : World :=
  [.administration (.putLocation Sample.location), .administration (.putSpace desk [] []),
    .administration (.putSpace room [] []), .administration (.putUser guest),
    .administration (.putSetting (.ofNat 1) SettingKey.maxConcurrentPerUser (.number 1))]
    |>.foldl Step.apply {}

/-- The room for the guest. -/
def behalf : BookingRequest := { request with space := room.id, onBehalfOf := some guest.id }

/-- The guest books the desk. An administrator books the room for the guest, at the same hours and
then at later ones, and moves the later booking to the first hours. -/
def rationedSteps : List Step :=
  [.request conditions (.book guest request), .request conditions (.book admin behalf),
    .request conditions (.book admin { behalf with enter := later.enter, leave := later.leave }),
    .request conditions (.rebook admin (.ofNat 101) behalf)]

theorem userRun : UserRun 1 rationed rationedSteps where
  reachable := Reachable.initial.steps (by decide +kernel)
  fresh := by decide +kernel
  empty := by decide +kernel
  positive := by decide
  keeps := by decide +kernel

end Sample

/-- What the guest has at nine and at twelve. The administrator is turned down both times when the
guest would have two bookings at nine. -/
theorem user_cap_kept_guest :
    UserRun 1 Sample.rationed Sample.rationedSteps ∧
    (List.range 5).map (fun k =>
        let s := (Step.world Sample.rationed Sample.rationedSteps k).store
        (s.heldAt Sample.guest.id 1000630800000, s.heldAt Sample.guest.id 1000641600000)) =
      [(0, 0), (1, 0), (1, 0), (1, 1), (1, 1)] ∧
    ∀ k ≤ 4, ∀ t, (Step.world Sample.rationed Sample.rationedSteps k).store.heldAt
      Sample.guest.id t ≤ 1 :=
  ⟨Sample.userRun, by decide +kernel, fun k hk => user_cap_kept Sample.userRun k hk Sample.guest.id⟩

end SpaceBooking
