import SpaceBooking.Proofs.Administration

/-!
# Operations of the store

The store by itself, without the service in front of it: any operations in any order, on any spans,
those that are empty or run backwards too. All that is asked is that a new booking does not take the
identifier of a stored one.

* `Operation.apply` — one operation. One that is refused changes nothing.
* `Operation.consistent`, `Operation.run_consistent` — one operation and any number of them keep
  ledgers and index in order.
* `Store.FaithfulToScan` — what the index and the look-ups answer, in terms of the list of all
  stored bookings.
* `lookups_equal_scan` — they answer this after any operations.
-/

namespace SpaceBooking

/-- What can be done to a store. -/
inductive Operation where
  | administration (a : Administration)
  | insertBooking (b : Booking)
  | updateBooking (b : Booking)
  | deleteBooking (id : Id)
  | clearSeriesLink (id : Id)
  | insertSeries (row : Series)
  | deleteSeries (id : Id)

namespace Operation

/-- The store after an operation, or why it was refused. -/
def result (s : Store) : Operation → Except StoreError Store
  | administration a => .ok (a.apply s)
  | insertBooking b => s.insertBooking b
  | updateBooking b => s.updateBooking b
  | deleteBooking id => s.deleteBooking id
  | clearSeriesLink id => s.clearSeriesLink id
  | insertSeries row => .ok (s.insertSeries row)
  | deleteSeries id => s.deleteSeries id

/-- The store after an operation, which is the same store if it was refused. -/
def apply (s : Store) (op : Operation) : Store :=
  match op.result s with
  | .ok s' => s'
  | .error _ => s

/-- A new booking has an identifier that no stored booking has. -/
def Fresh (s : Store) : Operation → Prop
  | insertBooking b => ∀ c ∈ s.bookings, c.id ≠ b.id
  | _ => True

instance (s : Store) : ∀ op : Operation, Decidable (op.Fresh s)
  | insertBooking b => inferInstanceAs (Decidable (∀ c ∈ s.bookings, c.id ≠ b.id))
  | administration _ | updateBooking _ | deleteBooking _ | clearSeriesLink _ | insertSeries _
  | deleteSeries _ => inferInstanceAs (Decidable True)

/-- A space that exists is not moved to another location. -/
def KeepsLocations (s : Store) : Operation → Prop
  | administration a => a.KeepsLocations s
  | _ => True

instance (s : Store) : ∀ op : Operation, Decidable (op.KeepsLocations s)
  | administration a => inferInstanceAs (Decidable (a.KeepsLocations s))
  | insertBooking _ | updateBooking _ | deleteBooking _ | clearSeriesLink _ | insertSeries _
  | deleteSeries _ => inferInstanceAs (Decidable True)

/-- The store after some operations in a row. -/
def run (s : Store) (ops : List Operation) : Store := ops.foldl apply s

/-- Each of some operations in a row satisfies a condition on the store that it finds. -/
def Each (ok : Store → Operation → Prop) : Store → List Operation → Prop
  | _, [] => True
  | s, op :: ops => ok s op ∧ Each ok (op.apply s) ops

instance decidableEach (ok : Store → Operation → Prop) [∀ s op, Decidable (ok s op)] :
    ∀ (s : Store) (ops : List Operation), Decidable (Each ok s ops)
  | _, [] => inferInstanceAs (Decidable True)
  | s, op :: ops =>
    have := decidableEach ok (op.apply s) ops
    inferInstanceAs (Decidable (_ ∧ _))

variable {s s' : Store} {op : Operation} {ops : List Operation}

theorem apply_cases (s : Store) (op : Operation) :
    op.result s = .ok (op.apply s) ∨ op.apply s = s := by
  unfold apply
  cases op.result s with
  | ok s' => exact .inl rfl
  | error e => exact .inr rfl

/-- **One operation keeps ledgers and index in order.** -/
theorem consistent (hs : s.Consistent) (hfresh : op.Fresh s) : (op.apply s).Consistent := by
  rcases apply_cases s op with hok | hsame
  · generalize op.apply s = s' at hok ⊢
    cases op with
    | administration a =>
      cases hok
      exact a.consistent hs
    | insertBooking b => exact hs.insertBooking hfresh hok
    | updateBooking b => exact hs.updateBooking hok
    | deleteBooking id => exact hs.deleteBooking hok
    | clearSeriesLink id => exact hs.clearSeriesLink hok
    | insertSeries row =>
      cases hok
      exact (Store.insertSeries_seriesOnly s row).sameLedgers.consistent hs
    | deleteSeries id => exact (Store.deleteSeries_seriesOnly hok).sameLedgers.consistent hs
  · rw [hsame]
    exact hs

/-- What is set up changes by administration only. -/
theorem sameSetup (hs : s.Consistent) (hop : ∀ a, op ≠ administration a) :
    s.SameSetup (op.apply s) := by
  rcases apply_cases s op with hok | hsame
  · generalize op.apply s = s' at hok ⊢
    cases op with
    | administration a => exact absurd rfl (hop a)
    | insertBooking b => exact (Store.insertBooking_exchange hs.toOrdered hok).setup
    | updateBooking b => exact .of_updateBooking hs hok
    | deleteBooking id => exact .of_deleteBooking hs hok
    | clearSeriesLink id => exact .of_clearSeriesLink hs hok
    | insertSeries row =>
      cases hok
      exact (Store.insertSeries_seriesOnly s row).sameSetup
    | deleteSeries id => exact (Store.deleteSeries_seriesOnly hok).sameSetup
  · rw [hsame]
    exact .refl s

theorem located (hs : s.Consistent) (hl : s.Located) (hkeeps : op.KeepsLocations s) :
    (op.apply s).Located := by
  cases op with
  | administration a => exact a.located hs hl hkeeps
  | insertBooking | updateBooking | deleteBooking | clearSeriesLink | insertSeries | deleteSeries =>
    exact (sameSetup hs (by simp)).located hl

/-- **So do any number of operations.** -/
theorem run_consistent (hs : s.Consistent) (h : Each Fresh s ops) : (run s ops).Consistent := by
  induction ops generalizing s with
  | nil => exact hs
  | cons op ops ih => exact ih (consistent hs h.1) h.2

theorem run_located (hs : s.Consistent) (hl : s.Located) (h : Each Fresh s ops)
    (hkeeps : Each KeepsLocations s ops) : (run s ops).Located := by
  induction ops generalizing s with
  | nil => exact hl
  | cons op ops ih => exact ih (consistent hs h.1) (located hs hl hkeeps.1) h.2 hkeeps.2

end Operation

/-! ## What the look-ups answer -/

namespace Store

variable {s : Store} {b : Booking} {space : Id}

theorem mem_elsewhere : b ∈ s.elsewhere space ↔
    ∃ other l, s.ledgers.get? other = some l ∧ other ≠ space ∧ b ∈ l.bookings.toList := by
  simp only [elsewhere, List.mem_flatMap, Table.mem_values_iff, Table.get?_erase]
  constructor
  · rintro ⟨l, ⟨other, hl⟩, hb⟩
    split at hl
    · cases hl
    · rename_i hne
      exact ⟨other, l, hl, Ne.symm hne, hb⟩
  · rintro ⟨other, l, hl, hne, hb⟩
    exact ⟨l, ⟨other, by rw [if_neg (Ne.symm hne), hl]⟩, hb⟩

namespace Ordered

variable (hs : s.Ordered)

include hs

/-- A scan for the bookings of a space finds those in its ledger. -/
theorem filter_onSpace (space : Id) (p : Booking → Bool) :
    ((s.onSpace space).filter p).Perm
      (s.bookings.filter fun b => decide (b.space = space) && p b) := by
  have hhere : (s.onSpace space).filter (fun b => decide (b.space = space) && p b) =
      (s.onSpace space).filter p := by
    refine List.filter_congr fun b hb => ?_
    unfold onSpace at hb
    cases hl : s.ledgers.get? space with
    | none =>
      rw [hl] at hb
      cases hb
    | some l =>
      rw [hl, Option.elim_some] at hb
      simp [hs.placed hl b hb]
  have helsewhere :
      (s.elsewhere space).filter (fun b => decide (b.space = space) && p b) = [] := by
    rw [List.filter_eq_nil_iff]
    intro b hb
    obtain ⟨other, l, hl, hne, hmem⟩ := mem_elsewhere.1 hb
    simp [hs.placed hl b hmem, hne]
  have hall := (bookings_perm_onSpace s space).filter fun b => decide (b.space = space) && p b
  rw [List.filter_append, hhere, helsewhere, List.append_nil] at hall
  exact hall.symm

theorem findConflicts_eq (space : Id) (query : Span) (exclude : Option Id) :
    s.findConflicts space query exclude =
      (s.onSpace space).filter fun b => b.span.overlaps query && decide (some b.id ≠ exclude) := by
  unfold findConflicts onSpace
  cases hl : s.ledgers.get? space with
  | none => rfl
  | some l => exact Ledger.conflicts_eq_filter (hs.sorted hl) query exclude

theorem findConflicts_perm (space : Id) (query : Span) (exclude : Option Id) :
    (s.findConflicts space query exclude).Perm (s.bookings.filter fun b =>
      decide (b.space = space) && (b.span.overlaps query && decide (some b.id ≠ exclude))) := by
  rw [hs.findConflicts_eq]
  exact hs.filter_onSpace space _

theorem findConflicts_sorted (space : Id) (query : Span) (exclude : Option Id) :
    (s.findConflicts space query exclude).Pairwise fun a b => a.span.start ≤ b.span.start := by
  rw [hs.findConflicts_eq]
  refine List.Pairwise.filter _ ?_
  unfold onSpace
  cases hl : s.ledgers.get? space with
  | none => exact .nil
  | some l => exact hs.sorted hl

end Ordered

/-- The index lists the identifier of each stored booking once. -/
theorem Consistent.spaceOf_perm (hs : s.Consistent) :
    (s.spaceOf.entries.map (·.1)).Perm (s.bookings.map (·.id)) := by
  refine (List.perm_ext_iff_of_nodup s.spaceOf.nodup_keys hs.distinct).2 fun id => ?_
  simp only [List.mem_map, Prod.exists, Table.mem_entries_iff, exists_and_right, exists_eq_right,
    hs.indexed]
  constructor
  · rintro ⟨space, b, hb, hid, -⟩
    exact ⟨b, hb, hid⟩
  · rintro ⟨b, hb, hid⟩
    exact ⟨b.space, b, hb, hid, rfl⟩

theorem Consistent.bookingCount_eq (hs : s.Consistent) : s.bookingCount = s.bookings.length := by
  have hlength := hs.spaceOf_perm.length_eq
  rwa [List.length_map, List.length_map] at hlength

/-- The index lists the identifiers of the stored bookings with their spaces, and what a look-up
answers is what a scan of all stored bookings would. -/
structure FaithfulToScan (s : Store) : Prop where
  sorted : ∀ space l, s.ledgers.get? space = some l →
    l.bookings.toList.Pairwise fun a b => a.span.start ≤ b.span.start
  placed : ∀ space l, s.ledgers.get? space = some l → ∀ b ∈ l.bookings.toList, b.space = space
  distinct : (s.bookings.map (·.id)).Nodup
  /-- There is a ledger for each space, and for nothing else. -/
  opened : ∀ space, (s.ledgers.get? space).isSome = (s.spaces.get? space).isSome
  indexed : ∀ id space,
    s.spaceOf.get? id = some space ↔ ∃ b ∈ s.bookings, b.id = id ∧ b.space = space
  /-- No entry is left of a space that was removed. -/
  standing : ∀ id space, s.spaceOf.get? id = some space → (s.spaces.get? space).isSome
  bookingCount : s.bookingCount = s.bookings.length
  booking? : ∀ id b, s.booking? id = some b ↔ b ∈ s.bookings ∧ b.id = id
  ascending : ∀ space query exclude,
    (s.findConflicts space query exclude).Pairwise fun a b => a.span.start ≤ b.span.start
  findConflicts : ∀ (space : Id) (query : Span) (exclude : Option Id),
    (s.findConflicts space query exclude).Perm (s.bookings.filter fun b => b.space = space ∧
      b.span.start < query.stop ∧ query.start < b.span.stop ∧ some b.id ≠ exclude)
  countOverlapping : ∀ (user : Id) (query : Span) (exclude : Option Id),
    s.countOverlapping user query exclude = s.bookings.countP fun b => b.owner = user ∧
      b.span.start < query.stop ∧ query.start < b.span.stop ∧ some b.id ≠ exclude
  countUpcoming : ∀ (user : Id) (now : Int), s.countUpcoming user now =
    s.bookings.countP fun b => b.owner = user ∧ now < b.span.stop

theorem Consistent.faithfulToScan (hs : s.Consistent) : s.FaithfulToScan where
  sorted _ _ hl := hs.sorted hl
  placed _ _ hl := hs.placed hl
  distinct := hs.distinct
  opened space := (hs.opened space).symm
  indexed := hs.indexed
  standing id space h := by
    obtain ⟨b, hb, -, rfl⟩ := (hs.indexed id space).1 h
    obtain ⟨l, hl, -⟩ := hs.mem_bookings_iff.1 hb
    rw [hs.opened, hl, Option.isSome_some]
  bookingCount := hs.bookingCount_eq
  booking? _ _ := hs.booking?_eq_some_iff
  ascending := hs.findConflicts_sorted
  findConflicts space query exclude := by
    simp only [Bool.decide_and]
    simpa only [Span.overlaps, Bool.and_assoc] using hs.findConflicts_perm space query exclude
  countOverlapping user query exclude := by
    simp only [Bool.decide_and]
    simpa only [Span.overlaps, Bool.and_assoc] using hs.countOverlapping_eq user query exclude
  countUpcoming user now := s.countUpcoming_eq user now

end Store

/-- **Index and look-ups are as good as a scan of all stored bookings**, after any operations on
any spans, starting with nothing: ledgers are in the order of start, each booking lies in the ledger
of its space, no identifier is stored twice, the index knows exactly the stored bookings, and what
is searched by halving or counted ledger by ledger is what a scan would find. If spaces keep their
location, this goes for the count of a location too. -/
theorem lookups_equal_scan {ops : List Operation}
    (hfresh : Operation.Each Operation.Fresh {} ops) :
    (Operation.run {} ops).FaithfulToScan ∧
      (Operation.Each Operation.KeepsLocations {} ops →
        ∀ (location : Id) (query : Span) (exclude : Option Id),
          (Operation.run {} ops).countInLocation location query exclude =
            (Operation.run {} ops).bookings.countP fun b =>
              ((Operation.run {} ops).spaces.get? b.space).map (·.location) = some location ∧
                b.span.start < query.stop ∧ query.start < b.span.stop ∧ some b.id ≠ exclude) := by
  have hs := Operation.run_consistent Store.consistent_empty hfresh
  refine ⟨hs.faithfulToScan, fun hkeeps location query exclude => ?_⟩
  have hl := Operation.run_located Store.consistent_empty Store.located_empty hfresh hkeeps
  simp only [Bool.decide_and]
  simpa only [Span.overlaps, Bool.and_assoc, hs.toOrdered.locationOf_eq hl] using
    hs.countInLocation_eq location query exclude

namespace Sample

def bay : Space := ⟨.ofNat 4, .ofNat 3, "Bay", false⟩

def dock : Space := ⟨.ofNat 5, .ofNat 3, "Dock", false⟩

/-- A booking of the user with identifier 2. -/
def slot (id space : Nat) (start stop : Int) : Booking where
  id := .ofNat id
  owner := .ofNat 2
  space := .ofNat space
  span := ⟨start, stop⟩
  subject := ""
  approved := true
  series := none
  calendarEvent := none

/-- Besides a booking that takes time there is one that takes none and one that runs backwards.
A fourth is in the way of the first, until that has moved to the dock. Then the dock is removed. -/
def operations : List Operation :=
  [.administration (.putSpace bay [] []), .administration (.putSpace dock [] []),
    .insertBooking (slot 100 4 10 20), .insertBooking (slot 101 4 25 25),
    .insertBooking (slot 102 4 40 30), .insertBooking (slot 103 4 15 18),
    .updateBooking (slot 100 5 12 22), .insertBooking (slot 103 4 15 18),
    .administration (.deleteSpace dock.id), .deleteBooking (.ofNat 100)]

end Sample

/-- In the end two bookings of the bay overlap a span, and one of them takes no time. -/
theorem lookups_equal_scan_bay :
    Operation.Each Operation.Fresh {} Sample.operations ∧
    Operation.Each Operation.KeepsLocations {} Sample.operations ∧
    ((List.range 11).map fun k => (Operation.run {} (Sample.operations.take k)).bookingCount) =
      [0, 0, 0, 1, 2, 3, 3, 3, 4, 3, 3] ∧
    ((Operation.run {} Sample.operations).bookings.map (·.id)) =
      [.ofNat 103, .ofNat 101, .ofNat 102] ∧
    ((Operation.run {} Sample.operations).findConflicts (.ofNat 4) ⟨16, 26⟩ none).map (·.id) =
      [.ofNat 103, .ofNat 101] ∧
    (Operation.run {} Sample.operations).FaithfulToScan ∧
    ∀ (location : Id) (query : Span) (exclude : Option Id),
      (Operation.run {} Sample.operations).countInLocation location query exclude =
        (Operation.run {} Sample.operations).bookings.countP fun b =>
          ((Operation.run {} Sample.operations).spaces.get? b.space).map (·.location) =
            some location ∧ b.span.start < query.stop ∧ query.start < b.span.stop ∧
              some b.id ≠ exclude := by
  have hfresh : Operation.Each Operation.Fresh {} Sample.operations := by decide +kernel
  have hkeeps : Operation.Each Operation.KeepsLocations {} Sample.operations := by decide +kernel
  obtain ⟨hfaithful, hlocations⟩ := lookups_equal_scan hfresh
  exact ⟨hfresh, hkeeps, by decide +kernel, by decide +kernel, by decide +kernel, hfaithful,
    hlocations hkeeps⟩

end SpaceBooking
