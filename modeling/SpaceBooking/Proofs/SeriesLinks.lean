import SpaceBooking.Proofs.Tenants

/-!
# Bookings and the rows of their series

The row of a series is stored before the first of its bookings and removed after the last, in
requests that can stop at any call to the store. Meanwhile bookings are moved with their link to
other spaces, and spaces are removed with what lies on them. None of this leaves a booking in a
series that is not there.

* `Effect.linksHold` — one effect, whoever has it.
* `Step.linksHold` — one step: the effects of a request, or the administration.
* `series_links_kept` — a whole run.
-/

namespace SpaceBooking

open Relation

namespace Store

variable {s s' : Store} {org : Id}

/-- Each booking that is in a series finds the row of the series, under its own owner. -/
def LinksHold (s : Store) : Prop := s.LinksAgree fun b row => b.owner = row.owner

theorem linksHold_of_bookings (h : s.bookings = []) : s.LinksHold := by
  intro b hb
  rw [h] at hb
  cases hb

/-- An instance is booked for the owner of its series, and nothing that is done to it later changes
the owner. -/
theorem Effect.linksHold (h : Effect org s s') (hs : s.LinksHold) : s'.LinksHold := by
  refine h.linksAgree hs (fun b row _ howner => howner) ?_
  intro old b row _ _ hcontinues hagree
  exact hcontinues.owner.trans hagree

theorem LinksHold.of_effects (hs : s.LinksHold) (h : ReflTransGen (Effect org) s s') :
    s'.LinksHold := by
  induction h with
  | refl => exact hs
  | tail _ hlast ih => exact hlast.linksHold ih

end Store

variable {w : World} {st : Step} {sts : List Step}

/-- **No step leaves a link without its row**, wherever the step stops. -/
theorem Step.linksHold (hs : w.store.Consistent) (hfresh : st.Fresh w)
    (hlinks : w.store.LinksHold) : (st.apply w).store.LinksHold := by
  cases st with
  | request c r => exact hlinks.of_effects (r.effects hs hfresh)
  | administration a => exact a.linksAgree hlinks

/-- **No link of a booking to its series dangles.** In a run of any requests and administration,
removals of spaces among them, with any failing calls and anything reported as conflicts, from when
nothing is booked: at every point, a booking that is in a series finds the row of the series in the
store, and the row has the owner of the booking. -/
theorem series_links_kept (hs : w.store.Consistent) (hempty : w.store.bookings = [])
    (hfresh : Step.Allowed Step.Fresh w sts) :
    ∀ k ≤ sts.length, ∀ b ∈ (Step.world w sts k).store.bookings, ∀ id, b.series = some id →
      ∃ row, (Step.world w sts k).store.series.get? id = some row ∧ row.owner = b.owner := by
  have hkept : ∀ k ≤ sts.length,
      (Step.world w sts k).store.Consistent ∧ (Step.world w sts k).store.LinksHold := by
    refine Step.world_induction (P := fun v => v.store.Consistent ∧ v.store.LinksHold)
      ⟨hs, Store.linksHold_of_bookings hempty⟩ ?_
    rintro k st hst ⟨hconsistent, hlinks⟩
    have hok := hfresh.at hst
    exact ⟨Step.consistent hconsistent hok, Step.linksHold hconsistent hok hlinks⟩
  intro k hk b hb id hid
  obtain ⟨row, hrow, howner⟩ := (hkept k hk).2 b hb id hid
  exact ⟨row, hrow, howner.symm⟩

namespace Sample

/-- A location with a desk and a room. -/
def furnished : World :=
  [.administration (.putLocation location), .administration (.putSpace desk [] []),
    .administration (.putSpace room [] [])]
    |>.foldl Step.apply {}

theorem reachable_furnished : Reachable Step.Fresh furnished :=
  Reachable.initial.steps (by decide +kernel)

/-- Of three days one cannot be stored. Of the others the first is cancelled, and the last is moved
to the room, where giving up the series stops. Then the room is removed, and the series given up. -/
def brokenSteps : List Step :=
  [.request flaky (.bookSeries admin daily), .request conditions (.cancel admin (.ofNat 101)),
    .request conditions (.rebook admin (.ofNat 102) lastDay),
    .request (down .deleteBooking) (.cancelSeries admin (.ofNat 100)),
    .administration (.deleteSpace room.id), .request conditions (.cancelSeries admin (.ofNat 100))]

end Sample

/-- The moved booking keeps its link as long as it is there, and the row stays longer. -/
theorem series_links_kept_desk :
    Sample.furnished.store.Consistent ∧ Sample.furnished.store.bookings = [] ∧
    Step.Allowed Step.Fresh Sample.furnished Sample.brokenSteps ∧
    ((List.range 7).map fun k =>
      (Step.world Sample.furnished Sample.brokenSteps k).store.bookings.map fun b =>
        (b.id, b.space, b.series)) =
      [[], [(.ofNat 101, .ofNat 4, some (.ofNat 100)), (.ofNat 102, .ofNat 4, some (.ofNat 100))],
        [(.ofNat 102, .ofNat 4, some (.ofNat 100))], [(.ofNat 102, .ofNat 5, some (.ofNat 100))],
        [(.ofNat 102, .ofNat 5, some (.ofNat 100))], [], []] ∧
    ((List.range 7).map fun k =>
      (Step.world Sample.furnished Sample.brokenSteps k).store.series.contains (.ofNat 100)) =
      [false, true, true, true, true, true, false] ∧
    ∀ k ≤ 6, ∀ b ∈ (Step.world Sample.furnished Sample.brokenSteps k).store.bookings,
      ∀ id, b.series = some id → ∃ row,
        (Step.world Sample.furnished Sample.brokenSteps k).store.series.get? id = some row ∧
          row.owner = b.owner := by
  have hs : Sample.furnished.store.Consistent := Sample.reachable_furnished.consistent
  have hempty : Sample.furnished.store.bookings = [] := by decide +kernel
  have hfresh : Step.Allowed Step.Fresh Sample.furnished Sample.brokenSteps := by decide +kernel
  exact ⟨hs, hempty, hfresh, by decide +kernel, by decide +kernel,
    series_links_kept hs hempty hfresh⟩

end SpaceBooking
