import SpaceBooking.Proofs.Operations

/-!
# The count of a location

Where a space is stands in two places: in the space, which can be replaced, and in its ledger, which
is opened with the space and stays when the space is replaced. The spaces of a location are listed
by the former and its bookings counted by the latter. So the count follows where spaces were opened,
which is where they are now as long as none is moved.

* `Operation.openedAt` — where spaces were opened, told from the operations alone.
* `Operation.run_locationOf` — this is what the ledgers know.
* `location_count_follows_opening` — what is counted for a location.
* `location_count_misses_moved` — a booking on a space of the location that is not counted.
-/

namespace SpaceBooking

namespace Store

variable {s : Store} {location space : Id}

/-- How many stored bookings on some spaces overlap a span, leaving one out. -/
def countOn (s : Store) (on : Id → Bool) (query : Span) (exclude : Option Id) : Nat :=
  s.bookings.countP fun b => on b.space ∧
    b.span.start < query.stop ∧ query.start < b.span.stop ∧ some b.id ≠ exclude

/-- Only the spaces with stored bookings matter. -/
theorem countOn_congr {on on' : Id → Bool} (h : ∀ b ∈ s.bookings, on b.space = on' b.space)
    (query : Span) (exclude : Option Id) : s.countOn on query exclude = s.countOn on' query exclude := by
  refine List.countP_congr fun b hb => ?_
  rw [h b hb]

/-- The space lies at the location. -/
def isIn (s : Store) (location space : Id) : Bool :=
  (s.spaces.get? space).map (·.location) = some location

theorem Ordered.mem_spacesIn (hs : s.Ordered) :
    s.isIn location space = true ↔ space ∈ (s.spacesIn location).map (·.id) := by
  simp only [isIn, decide_eq_true_eq, spacesIn, Option.map_eq_some_iff, List.mem_map,
    List.mem_filter, Table.mem_values_iff]
  constructor
  · rintro ⟨sp, hsp, hlocation⟩
    exact ⟨sp, ⟨⟨space, hsp⟩, hlocation⟩, hs.named hsp⟩
  · rintro ⟨sp, ⟨⟨id, hsp⟩, hlocation⟩, rfl⟩
    exact ⟨sp, hs.named hsp ▸ hsp, hlocation⟩

end Store

namespace Operation

variable {s : Store} {op : Operation} {ops : List Operation}

/-- Where spaces were opened, after an operation: one that is open stays where it is. -/
def openings (places : Id → Option Id) : Operation → Id → Option Id
  | administration (.putSpace space _ _), id =>
    (places id).or (if space.id = id then some space.location else none)
  | administration (.deleteSpace gone), id => if gone = id then none else places id
  | _, id => places id

/-- The location of each space when it was last opened, and not removed since. -/
def openedAt (ops : List Operation) : Id → Option Id := ops.foldl openings fun _ => none

theorem administration_locationOf (hs : s.Ordered) (a : Administration) :
    (a.apply s).locationOf = (administration a).openings s.locationOf := by
  funext id
  cases a with
  | putSpace space approvers allowedBookers =>
    show ((s.putSpace space approvers allowedBookers).ledgers.get? id).map (·.location) = _
    rw [Store.putSpace_ledgers]
    cases hl : s.ledgers.get? id with
    | some l => simp [openings, Store.locationOf, hl]
    | none =>
      simp only [openings, Store.locationOf, hl, Option.none_or, Option.map_none]
      split <;> rfl
  | deleteSpace gone =>
    simp only [Administration.apply, openings]
    cases h : s.deleteSpace gone with
    | ok s' =>
      simp only [Store.locationOf]
      rw [Store.deleteSpace_ok h, Table.get?_erase]
      split <;> rfl
    | error e =>
      -- what is not there has no ledger either
      have hnone : s.spaces.get? gone = none := by
        unfold Store.deleteSpace at h
        split at h
        · cases h
        · rename_i hgone
          simpa [Table.contains] using hgone
      have hopened := hs.opened gone
      rw [hnone, Option.isSome_none] at hopened
      have hclosed : s.ledgers.get? gone = none := by simpa using hopened.symm
      simp only
      split
      · rename_i hid
        subst hid
        rw [Store.locationOf, hclosed, Option.map_none]
      · rfl
  | putLocation | putUser | addMembership | putSetting => rfl

/-- **One operation**: ledgers are opened and closed with their spaces. -/
theorem locationOf_apply (hs : s.Consistent) (op : Operation) :
    (op.apply s).locationOf = op.openings s.locationOf := by
  cases op with
  | administration a => exact administration_locationOf hs.toOrdered a
  | insertBooking | updateBooking | deleteBooking | clearSeriesLink | insertSeries | deleteSeries =>
    exact (sameSetup hs (by simp)).locationOf

/-- **Any number of operations.** -/
theorem locationOf_run (hs : s.Consistent) (h : Each Fresh s ops) :
    (run s ops).locationOf = ops.foldl openings s.locationOf := by
  induction ops generalizing s with
  | nil => rfl
  | cons op ops ih =>
    rw [List.foldl_cons, ← locationOf_apply hs]
    exact ih (consistent hs h.1) h.2

end Operation

/-- **The count of a location follows where spaces were opened.** After any operations, what is
counted are the stored bookings that overlap the span on spaces which were at the location when they
were opened. These are the spaces that are listed for the location, unless a space was moved to it
or away from it. -/
theorem location_count_follows_opening {ops : List Operation}
    (hfresh : Operation.Each Operation.Fresh {} ops) (location : Id) (query : Span)
    (exclude : Option Id) :
    (Operation.run {} ops).countInLocation location query exclude =
        (Operation.run {} ops).countOn (fun space => Operation.openedAt ops space = some location)
          query exclude ∧
      ((∀ sp ∈ (Operation.run {} ops).spaces.values,
          Operation.openedAt ops sp.id = some location ↔ sp.location = location) →
        (Operation.run {} ops).countInLocation location query exclude =
          (Operation.run {} ops).countOn
            (fun space => space ∈ ((Operation.run {} ops).spacesIn location).map (·.id))
            query exclude) := by
  have hs := Operation.run_consistent Store.consistent_empty hfresh
  have hopened : (Operation.run {} ops).locationOf = Operation.openedAt ops :=
    Operation.locationOf_run Store.consistent_empty hfresh
  have hcount : (Operation.run {} ops).countInLocation location query exclude =
      (Operation.run {} ops).countOn (fun space => Operation.openedAt ops space = some location)
        query exclude := by
    rw [hs.countInLocation_eq, hopened]
    simp only [Store.countOn, Bool.decide_and, Span.overlaps, decide_eq_true_eq, Bool.and_assoc]
  refine ⟨hcount, fun hstayed => hcount.trans (Store.countOn_congr (fun b hb => ?_) _ _)⟩
  -- the space of a stored booking exists, and was opened where it is
  obtain ⟨l, hl, -⟩ := hs.mem_bookings_iff.1 hb
  have hsome := hs.opened b.space
  rw [hl, Option.isSome_some] at hsome
  obtain ⟨sp, hsp⟩ := Option.isSome_iff_exists.1 hsome
  have hstays := hstayed sp (Table.mem_values_iff.2 ⟨_, hsp⟩)
  rw [hs.named hsp] at hstays
  rw [decide_eq_decide, hstays, ← hs.toOrdered.mem_spacesIn]
  simp [Store.isIn, hsp]

namespace Sample

/-- The bay is booked and then moved to another location. -/
def bayMoved : List Operation :=
  [.administration (.putSpace bay [] []), .administration (.putSpace dock [] []),
    .insertBooking (slot 100 4 10 20), .insertBooking (slot 101 5 15 25),
    .administration (.putSpace { bay with location := .ofNat 8 } [] [])]

end Sample

/-- The old location still counts both bookings, though only the dock is listed for it. -/
theorem location_count_follows_opening_bay :
    Operation.Each Operation.Fresh {} Sample.bayMoved ∧
    Operation.openedAt Sample.bayMoved (.ofNat 4) = some (.ofNat 3) ∧
    ((Operation.run {} Sample.bayMoved).spacesIn (.ofNat 3)).map (·.id) = [.ofNat 5] ∧
    (Operation.run {} Sample.bayMoved).countInLocation (.ofNat 3) ⟨16, 18⟩ none = 2 ∧
    (Operation.run {} Sample.bayMoved).countInLocation (.ofNat 3) ⟨16, 18⟩ none =
      (Operation.run {} Sample.bayMoved).countOn
        (fun space => Operation.openedAt Sample.bayMoved space = some (.ofNat 3)) ⟨16, 18⟩ none := by
  have hfresh : Operation.Each Operation.Fresh {} Sample.bayMoved := by decide +kernel
  exact ⟨hfresh, by decide +kernel, by decide +kernel, by decide +kernel,
    (location_count_follows_opening hfresh (.ofNat 3) ⟨16, 18⟩ none).1⟩

/-- **The count does not follow where spaces are now**: the new location of the bay does not count
the booking on it. -/
theorem location_count_misses_moved :
    ¬ ∀ ops : List Operation, Operation.Each Operation.Fresh {} ops →
      ∀ (location : Id) (query : Span) (exclude : Option Id),
        (Operation.run {} ops).countInLocation location query exclude =
          (Operation.run {} ops).countOn ((Operation.run {} ops).isIn location) query exclude := by
  intro hfollows
  have hfresh : Operation.Each Operation.Fresh {} Sample.bayMoved := by decide +kernel
  have hcounted :
      (Operation.run {} Sample.bayMoved).countInLocation (.ofNat 8) ⟨16, 18⟩ none = 0 := by
    decide +kernel
  have hthere : (Operation.run {} Sample.bayMoved).countOn
      ((Operation.run {} Sample.bayMoved).isIn (.ofNat 8)) ⟨16, 18⟩ none = 1 := by
    decide +kernel
  have hequal := hfollows _ hfresh (.ofNat 8) ⟨16, 18⟩ none
  rw [hcounted, hthere] at hequal
  cases hequal

end SpaceBooking
