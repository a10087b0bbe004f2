import SpaceBooking.Proofs.Caps

/-!
# The cap on bookings ahead

A policy can cap the bookings of a user that are not over. The cap is looked at when a booking is
made and, by design, not when one is moved. So a booking that is over can be moved to a time ahead,
and is then held on top of what the cap allows.

* `revived` — the bookings that were moved like this.
* `Request.unfinished_le` — the cap is kept by each request at its own time, except for these.
* `upcoming_cap_kept` — so it is kept in every run in which time does not go back.
* `upcoming_cap_exceeded` — with them, a user can own more bookings than the cap.
-/

namespace SpaceBooking

open SpaceBooking.Action Service Relation

variable {c : Conditions} {w : World} {s s' : Store} {actor : User} {b : Booking} {st : Step}
  {sts : List Step} {cap : Nat} {user : Id} {now : Int} {except except' : Id → Bool}

/-! ## Time -/

namespace Step

/-- When the step is taken. The administration does not look at the time. -/
def time? : Step → Option Int
  | request c _ => some c.now
  | administration _ => none

/-- The step is taken at a time or before it. -/
def TakenBy (now : Int) (st : Step) : Prop := ∀ t ∈ st.time?, t ≤ now

instance (now : Int) (st : Step) : Decidable (st.TakenBy now) :=
  inferInstanceAs (Decidable (∀ t ∈ st.time?, t ≤ now))

/-- The step is not taken later than another. -/
def NoLater (st st' : Step) : Prop := ∀ t ∈ st'.time?, st.TakenBy t

instance (st st' : Step) : Decidable (st.NoLater st') :=
  inferInstanceAs (Decidable (∀ t ∈ st'.time?, st.TakenBy t))

/-- Whether the step moves a booking that is over to a span that is not. -/
def revives (w : World) (id : Id) : Step → Bool
  | request c (.rebook actor moved req) =>
    moved = id && (w.store.booking? id).any (·.span.stop ≤ c.now) &&
      (((Request.rebook actor moved req).apply c w).store.booking? id).any (c.now < ·.span.stop)
  | _ => false

end Step

/-- Whether a booking was moved when it was over, to a span that was not, in one of the first steps
of a run, and has been stored since. -/
def revived (w : World) (sts : List Step) : Nat → Id → Bool
  | 0, _ => false
  | k + 1, id =>
    (sts[k]?).any (·.revives (Step.world w sts k) id) ||
      revived w sts k id && ((Step.world w sts (k + 1)).store.booking? id).isSome

/-! ## Requests -/

/-- Whether a booking of a user is not over and not under some identifiers. -/
def Booking.unfinished (user : Id) (now : Int) (except : Id → Bool) (b : Booking) : Bool :=
  b.owner = user && now < b.span.stop && !except b.id

theorem Booking.unfinished_mono {later : Int} (hle : now ≤ later)
    (h : b.unfinished user later except = true) : b.unfinished user now except = true := by
  simp only [unfinished, Bool.and_eq_true, decide_eq_true_eq] at h ⊢
  exact ⟨⟨h.1.1, Int.lt_of_le_of_lt hle h.1.2⟩, h.2⟩

/-- How many stored bookings of a user are not over, some identifiers left out. -/
def Store.unfinished (s : Store) (user : Id) (now : Int) (except : Id → Bool) : Nat :=
  s.bookings.countP (·.unfinished user now except)

theorem Booking.unfinished_of_except (h : except b.id = true → except' b.id = true)
    (hcounts : b.unfinished user now except' = true) : b.unfinished user now except = true := by
  simp only [unfinished, Bool.and_eq_true, Bool.not_eq_true'] at hcounts ⊢
  refine ⟨hcounts.1, ?_⟩
  cases hexcept : except b.id with
  | false => rfl
  | true =>
    rw [h hexcept] at hcounts
    cases hcounts.2

/-- A booking that was moved was unfinished before, or was over and is not now. -/
theorem Booking.unfinished_of_moved {old : Booking} (hid : b.id = old.id)
    (howner : b.owner = old.owner) (hexcept : except b.id = true → except' b.id = true)
    (hrevived : old.span.stop ≤ now → now < b.span.stop → except' b.id = true)
    (hcounts : b.unfinished user now except' = true) : old.unfinished user now except = true := by
  have hstays := unfinished_of_except hexcept hcounts
  simp only [unfinished, Bool.and_eq_true, Bool.not_eq_true', decide_eq_true_eq] at hcounts hstays ⊢
  rw [hid, howner] at hstays
  refine ⟨⟨hstays.1.1, Int.not_le.1 fun hover => ?_⟩, hstays.2⟩
  rw [hrevived hover hcounts.1.2] at hcounts
  cases hcounts.2

/-- What a request books is below the cap, and what it moves was ahead before unless it is left
out. -/
theorem Request.unfinished_le (r : Request) (hs : w.store.Consistent)
    (hfresh : (Step.request c r).Fresh w) (hpos : 0 < cap)
    (hp : w.store.EveryPolicy fun p => p.maxUpcomingPerUser = cap ∧ p.noAdminRestrictions = false)
    (hexcept : ∀ b ∈ (r.apply c w).store.bookings, except b.id = true → except' b.id = true)
    (hrevived : ∀ id, (Step.request c r).revives w id = true → except' id = true)
    (hle : w.store.unfinished user c.now except ≤ cap) :
    (r.apply c w).store.unfinished user c.now except' ≤ cap := by
  have hs' := hs.of_changes (r.changes hs.toOrdered hfresh)
  cases r.course hs hfresh with
  | moved actor id req old b hold hid howner _ hx =>
    have hfound := hs.booking?_eq_some_iff.2 ⟨hx.gone_mem, hold⟩
    refine Nat.le_trans (Store.countP_le_of_ids hs' fun d hd hcounts => ?_) hle
    rcases hx.mem_of_mem hd with hnew | hmem
    · cases hnew
      have hfound' := hs'.booking?_eq_some_iff.2 ⟨hd, hid⟩
      have hsame : b.id = old.id := hid.trans hold.symm
      refine ⟨old, hx.gone_mem, hsame,
        Booking.unfinished_of_moved hsame howner (hexcept b hd) ?_ hcounts⟩
      intro hover hahead
      refine hid ▸ hrevived id ?_
      simp [Step.revives, hfound, hfound', hover, hahead]
    · exact ⟨d, hmem, rfl, Booking.unfinished_of_except (hexcept d hd) hcounts⟩
  | deeds _ hdeeds =>
    refine Nat.le_trans (List.countP_mono_left fun b hb =>
      Booking.unfinished_of_except (hexcept b hb)) ?_
    refine Store.countP_le_of_deeds hdeeds hs (fun b old hstands => ?_) ?_ hle
    · rw [Booking.unfinished, hstands.id, hstands.owner, hstands.span]
      rfl
    · intro v b _ hsetup hclear hcounts
      have hroom := hclear.countUpcoming_lt (Int.natCast_pos.2 hpos) (hsetup.everyPolicy hp)
      simp only [Booking.unfinished, Bool.and_eq_true, decide_eq_true_eq] at hcounts
      rw [Store.countUpcoming_eq, Int.ofNat_lt, hcounts.1.1] at hroom
      refine Nat.lt_of_le_of_lt (List.countP_mono_left fun d _ hd => ?_) hroom
      simp only [Booking.unfinished, Bool.and_eq_true, decide_eq_true_eq] at hd ⊢
      exact hd.1

/-! ## Runs -/

/-- A run in which time does not go back and all policies keep a cap on the bookings of a user that
are not over, for administrators too, starting when nothing is booked. -/
structure UpcomingRun (cap : Nat) (w : World) (sts : List Step) : Prop where
  reachable : Reachable Step.Fresh w
  fresh : Step.Allowed (fun w st => st.Fresh w) w sts
  empty : w.store.bookings = []
  positive : 0 < cap
  keeps : ∀ k ≤ sts.length, (Step.world w sts k).store.EveryPolicy fun p =>
    p.maxUpcomingPerUser = cap ∧ p.noAdminRestrictions = false
  clock : sts.Pairwise Step.NoLater

namespace UpcomingRun

variable (h : UpcomingRun cap w sts) {k : Nat}

include h

/-- What was taken before a step was taken by its time. -/
theorem takenBy {r : Request} (hst : sts[k]? = some (.request c r)) :
    ∀ st ∈ sts.take k, st.TakenBy c.now := by
  have hclock := h.clock.sublist (List.take_sublist (k + 1) sts)
  rw [List.take_add_one, hst, Option.toList_some, List.pairwise_append] at hclock
  exact fun st hmem => hclock.2.2 st hmem (.request c r) (List.mem_singleton_self _) c.now rfl

/-- **The cap holds on the whole way**, by induction on the run: a request keeps it at its own time,
and later there are no more unfinished bookings than then. -/
theorem unfinished_le (hk : k ≤ sts.length) (hnow : ∀ st ∈ sts.take k, st.TakenBy now) :
    (Step.world w sts k).store.unfinished user now (revived w sts k) ≤ cap := by
  induction k generalizing now with
  | zero =>
    show w.store.unfinished _ _ _ ≤ cap
    rw [Store.unfinished, h.empty]
    exact Nat.zero_le cap
  | succ k ih =>
    have hst : sts[k]? = some sts[k] := List.getElem?_eq_getElem hk
    have hs := (h.reachable.world h.fresh k).consistent
    have hs' := (h.reachable.world h.fresh (k + 1)).consistent
    have htake : sts.take (k + 1) = sts.take k ++ [sts[k]] := by
      rw [List.take_add_one, hst, Option.toList_some]
    have hfresh := h.fresh.at hst
    rw [htake, List.forall_mem_append, List.forall_mem_singleton] at hnow
    -- a booking that is left out before the step is left out after it, if it is still stored
    have hexcept : ∀ b ∈ (Step.world w sts (k + 1)).store.bookings, revived w sts k b.id = true →
        revived w sts (k + 1) b.id = true := by
      intro b hb hrevived
      simp [revived, hrevived, hs'.booking?_eq_some_iff.2 ⟨hb, rfl⟩]
    rw [Step.world_succ hst] at hexcept ⊢
    generalize hcase : sts[k] = st at hst hfresh hnow hexcept ⊢
    cases st with
    | request c r =>
      refine Nat.le_trans (List.countP_mono_left fun b _ =>
        Booking.unfinished_mono (hnow.2 c.now rfl)) ?_
      refine r.unfinished_le hs hfresh h.positive (h.keeps k (Nat.le_of_succ_le hk)) hexcept
        (fun id hrevives => ?_) (ih (Nat.le_of_succ_le hk) (h.takenBy hst))
      rw [revived, hst, Option.any_some, hrevives, Bool.true_or]
    | administration a =>
      refine Nat.le_trans (Store.countP_le_of_ids (a.consistent hs) fun b hb hcounts => ?_)
        (ih (Nat.le_of_succ_le hk) hnow.1)
      exact ⟨b, a.mem_of_mem hb, rfl, Booking.unfinished_of_except (hexcept b hb) hcounts⟩

end UpcomingRun

/-- **The cap on bookings ahead is kept except for bookings that were moved when they were over.**
In a run of any requests and administration in which time does not go back, with any failing calls
and anything reported as conflicts, from when nothing is booked: if all policies keep a cap on the
bookings of a user that are not over and exempt nobody, then nobody ever owns more bookings that are
not over, leaving out those that were moved from when they were over to a time ahead. -/
theorem upcoming_cap_kept (h : UpcomingRun cap w sts) :
    ∀ k ≤ sts.length, ∀ now, (∀ st ∈ sts.take k, st.TakenBy now) → ∀ user,
      (Step.world w sts k).store.unfinished user now (revived w sts k) ≤ cap :=
  fun _ hk _ hnow _ => h.unfinished_le hk hnow

namespace Sample

/-- A desk where nobody may have two bookings ahead. -/
def frugal : World :=
  [.administration (.putLocation location), .administration (.putSpace desk [] []),
    .administration (.putSetting (.ofNat 1) SettingKey.maxUpcomingPerUser (.number 1))]
    |>.foldl Step.apply {}

/-- The first booking is just over. -/
def noon : Conditions := { conditions with now := 1000641600000 }

/-- The guest books the desk, books it for the next hour when the first booking is over, and then
moves the first booking to another day. -/
def frugalSteps : List Step :=
  [.request conditions (.book guest request), .request noon (.book guest later),
    .request noon (.rebook guest (.ofNat 100)
      { request with enter := lastDay.enter, leave := lastDay.leave })]

theorem upcomingRun : UpcomingRun 1 frugal frugalSteps where
  reachable := Reachable.initial.steps (by decide +kernel)
  fresh := by decide +kernel
  empty := by decide +kernel
  positive := by decide
  keeps := by decide +kernel
  clock := by decide +kernel

end Sample

/-- What the guest has ahead at noon after each step, without the booking that was moved when it was
over. -/
theorem upcoming_cap_kept_guest :
    UpcomingRun 1 Sample.frugal Sample.frugalSteps ∧
    (∀ k ≤ 3, ∀ st ∈ Sample.frugalSteps.take k, st.TakenBy Sample.noon.now) ∧
    (List.range 4).map (fun k => (Step.world Sample.frugal Sample.frugalSteps k).store.unfinished
      Sample.guest.id Sample.noon.now (revived Sample.frugal Sample.frugalSteps k)) =
      [0, 0, 1, 1] ∧
    ∀ k ≤ 3, (Step.world Sample.frugal Sample.frugalSteps k).store.unfinished Sample.guest.id
      Sample.noon.now (revived Sample.frugal Sample.frugalSteps k) ≤ 1 := by
  have hnow : ∀ k ≤ 3, ∀ st ∈ Sample.frugalSteps.take k, st.TakenBy Sample.noon.now := by
    decide +kernel
  refine ⟨Sample.upcomingRun, hnow, by decide +kernel, fun k hk => ?_⟩
  exact upcoming_cap_kept Sample.upcomingRun k hk Sample.noon.now (hnow k hk) Sample.guest.id

/-- **Moving a booking that is over exceeds the cap on bookings ahead.** With a cap of one, the
guest ends with two bookings that are not over. -/
theorem upcoming_cap_exceeded :
    UpcomingRun 1 Sample.frugal Sample.frugalSteps ∧
    (∀ st ∈ Sample.frugalSteps, st.TakenBy Sample.noon.now) ∧
    (Step.world Sample.frugal Sample.frugalSteps 3).store.bookings.countP (fun b =>
      b.owner = Sample.guest.id && Sample.noon.now < b.span.stop) = 2 :=
  ⟨Sample.upcomingRun, by decide +kernel, by decide +kernel⟩

end SpaceBooking
