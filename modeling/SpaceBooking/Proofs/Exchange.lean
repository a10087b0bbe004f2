import Mathlib.Data.List.Nodup
import SpaceBooking.Proofs.Ledger
import SpaceBooking.Proofs.Table
import SpaceBooking.Store.Basic

/-!
# Ledgers, index and stored bookings

The bookings of a store lie in ledgers, and the index tells the space of each. In a `Consistent`
store both agree, and every look-up comes down to the list `Store.bookings` of all stored bookings.

* `Store.Ordered` — ledgers in order, bookings in the ledger of their space, a ledger for each
  space. This is what the look-ups need.
* `Store.Consistent` — besides, identifiers used once, and an index that knows exactly the stored
  bookings.
* `Store.Exchange` — what each change of the bookings comes to: at most one booking goes, at most
  one comes, all else stays.
* `insertBooking_exchange`, `deleteBooking_exchange`, `clearSeriesLink_exchange` — three of the
  four changes. The fourth takes a removal and an addition.
* `Exchange.consistent` — a change keeps a store consistent if a booking that comes is new or
  replaces one with its identifier.
-/

namespace SpaceBooking.Store

variable {s s' : Store} {b c : Booking} {id space : Id} {l l' : Ledger}

/-- The bookings on all spaces but one. -/
def elsewhere (s : Store) (space : Id) : List Booking :=
  (s.ledgers.erase space).values.flatMap (·.bookings.toList)

theorem mem_bookings : b ∈ s.bookings ↔ ∃ space l, s.ledgers.get? space = some l ∧
    b ∈ l.bookings.toList := by
  simp only [bookings, List.mem_flatMap, Table.mem_values_iff]
  constructor
  · rintro ⟨l, ⟨space, hl⟩, hb⟩
    exact ⟨space, l, hl, hb⟩
  · rintro ⟨space, l, hl, hb⟩
    exact ⟨l, ⟨space, hl⟩, hb⟩

theorem bookings_perm (h : s.ledgers.get? space = some l) :
    s.bookings.Perm (l.bookings.toList ++ s.elsewhere space) :=
  (Table.values_perm_of_get? h).flatMap_right _

theorem bookings_insert_perm (s : Store) (space : Id) (l : Ledger) :
    ((s.ledgers.insert space l).values.flatMap (·.bookings.toList)).Perm
      (l.bookings.toList ++ s.elsewhere space) :=
  (Table.insert_values_perm s.ledgers space l).flatMap_right _

theorem booking?_id (h : s.booking? id = some b) : b.id = id := by
  obtain ⟨l, -, hfind⟩ := Option.bind_eq_some_iff.1 h
  simpa using Array.find?_some hfind

/-! ## Consistency -/

/-- The ledgers are in order, and each space has its own. -/
structure Ordered (s : Store) : Prop where
  sorted : ∀ {space l}, s.ledgers.get? space = some l → l.Sorted
  placed : ∀ {space l}, s.ledgers.get? space = some l → ∀ b ∈ l.bookings.toList, b.space = space
  opened : ∀ space, (s.spaces.get? space).isSome = (s.ledgers.get? space).isSome
  named : ∀ {id sp}, s.spaces.get? id = some sp → sp.id = id

/-- The ledgers are in order, each identifier is used once, and the index agrees. -/
structure Consistent (s : Store) : Prop extends Ordered s where
  distinct : (s.bookings.map (·.id)).Nodup
  indexed : ∀ id space,
    s.spaceOf.get? id = some space ↔ ∃ b ∈ s.bookings, b.id = id ∧ b.space = space

theorem consistent_empty : Consistent {} where
  sorted h := by simp at h
  placed h := by simp at h
  opened space := by simp
  named h := by simp at h
  distinct := List.nodup_nil
  indexed id space := by simp [mem_bookings]

namespace Ordered

variable (hs : s.Ordered)

include hs

theorem mem_bookings_iff : b ∈ s.bookings ↔ ∃ l, s.ledgers.get? b.space = some l ∧
    b ∈ l.bookings.toList := by
  rw [mem_bookings]
  constructor
  · rintro ⟨space, l, hl, hb⟩
    obtain rfl := hs.placed hl b hb
    exact ⟨l, hl, hb⟩
  · rintro ⟨l, hl, hb⟩
    exact ⟨b.space, l, hl, hb⟩

theorem mem_ledger_iff (hl : s.ledgers.get? space = some l) :
    b ∈ l.bookings.toList ↔ b ∈ s.bookings ∧ b.space = space := by
  constructor
  · intro hb
    exact ⟨mem_bookings.2 ⟨space, l, hl, hb⟩, hs.placed hl b hb⟩
  · rintro ⟨hb, rfl⟩
    obtain ⟨l', hl', hb⟩ := hs.mem_bookings_iff.1 hb
    rw [hl] at hl'
    cases hl'
    exact hb

theorem exists_ledger {sp : Space} (h : s.spaces.get? space = some sp) :
    ∃ l, s.ledgers.get? space = some l := by
  have := hs.opened space
  rw [h, Option.isSome_some] at this
  exact Option.isSome_iff_exists.1 this.symm

end Ordered

namespace Consistent

variable (hs : s.Consistent)

include hs

theorem eq_of_id (hb : b ∈ s.bookings) (hc : c ∈ s.bookings) (h : b.id = c.id) : b = c :=
  List.inj_on_of_nodup_map hs.distinct hb hc h

theorem spaceOf_of_mem (hb : b ∈ s.bookings) : s.spaceOf.get? b.id = some b.space :=
  (hs.indexed _ _).2 ⟨b, hb, rfl, rfl⟩

/-- **The index finds exactly the stored bookings.** -/
theorem booking?_eq_some_iff : s.booking? id = some b ↔ b ∈ s.bookings ∧ b.id = id := by
  constructor
  · intro h
    refine ⟨?_, booking?_id h⟩
    simp only [booking?, Option.bind_eq_some_iff, Ledger.get?] at h
    obtain ⟨l, ⟨space, -, hl⟩, hfind⟩ := h
    exact mem_bookings.2 ⟨space, l, hl, by simpa using Array.mem_of_find?_eq_some hfind⟩
  · simp only [booking?, Option.bind_eq_some_iff, Ledger.get?]
    rintro ⟨hb, rfl⟩
    obtain ⟨l, hl, hbl⟩ := hs.mem_bookings_iff.1 hb
    refine ⟨l, ⟨b.space, hs.spaceOf_of_mem hb, hl⟩, ?_⟩
    cases hfind : l.bookings.find? (·.id = b.id) with
    | none =>
      rw [Array.find?_eq_none] at hfind
      simpa using hfind b (by simpa using hbl)
    | some c =>
      have hc : c ∈ l.bookings.toList := by simpa using Array.mem_of_find?_eq_some hfind
      have hid : c.id = b.id := by simpa using Array.find?_some hfind
      rw [hs.eq_of_id (mem_bookings.2 ⟨_, l, hl, hc⟩) hb hid]

theorem booking?_eq_none_iff : s.booking? id = none ↔ ∀ b ∈ s.bookings, b.id ≠ id := by
  rw [Option.eq_none_iff_forall_ne_some]
  constructor
  · intro h b hb hid
    exact h b (hs.booking?_eq_some_iff.2 ⟨hb, hid⟩)
  · intro h b hb
    exact h b (hs.booking?_eq_some_iff.1 hb).1 (hs.booking?_eq_some_iff.1 hb).2

end Consistent

/-! ## Look-ups as plain scans -/

/-- The location in the ledger of a space. -/
def locationOf (s : Store) (space : Id) : Option Id := (s.ledgers.get? space).map (·.location)

namespace Ordered

variable (hs : s.Ordered)

include hs

theorem mem_findConflicts {span : Span} {exclude : Option Id} :
    b ∈ s.findConflicts space span exclude ↔
      b ∈ s.bookings ∧ b.space = space ∧ b.span.overlaps span = true ∧ some b.id ≠ exclude := by
  unfold findConflicts
  cases hl : s.ledgers.get? space with
  | none =>
    simp only [Option.elim_none, List.not_mem_nil, false_iff]
    rintro ⟨hb, rfl, -⟩
    obtain ⟨l, hl', -⟩ := hs.mem_bookings_iff.1 hb
    simp [hl] at hl'
  | some l =>
    simp only [Option.elim_some]
    rw [Ledger.mem_conflicts (hs.sorted hl), hs.mem_ledger_iff hl, and_assoc]

theorem countOverlapping_eq (user : Id) (span : Span) (exclude : Option Id) :
    s.countOverlapping user span exclude = s.bookings.countP fun b =>
      decide (b.owner = user) && (b.span.overlaps span && decide (some b.id ≠ exclude)) := by
  unfold countOverlapping bookings
  rw [List.countP_flatMap]
  congr 1
  refine List.map_congr_left fun l hl => ?_
  obtain ⟨space, hl⟩ := Table.mem_values_iff.1 hl
  rw [Ledger.conflicts_eq_filter (hs.sorted hl), List.countP_filter]
  rfl

theorem countP_ledger (hl : s.ledgers.get? space = some l) (location : Id) (p : Booking → Bool) :
    (l.bookings.toList.countP fun b =>
      decide (s.locationOf b.space = some location) && p b) =
      if l.location = location then l.bookings.toList.countP p else 0 := by
  have hlocation : ∀ b ∈ l.bookings.toList, s.locationOf b.space = some l.location := by
    intro b hb
    rw [locationOf, hs.placed hl b hb, hl, Option.map_some]
  split
  · rename_i heq
    refine List.countP_congr fun b hb => ?_
    simp [hlocation b hb, heq]
  · rename_i hne
    rw [List.countP_eq_zero]
    intro b hb
    simp [hlocation b hb, hne]

theorem countInLocation_eq (location : Id) (span : Span) (exclude : Option Id) :
    s.countInLocation location span exclude = s.bookings.countP fun b =>
      decide (s.locationOf b.space = some location) &&
        (b.span.overlaps span && decide (some b.id ≠ exclude)) := by
  unfold countInLocation bookings
  rw [List.countP_flatMap]
  have hall : ∀ l ∈ s.ledgers.values, ∃ space, s.ledgers.get? space = some l :=
    fun l hl => Table.mem_values_iff.1 hl
  revert hall
  generalize s.ledgers.values = ls
  intro hall
  -- the ledgers of other locations are left out on one side and count nothing on the other
  induction ls with
  | nil => rfl
  | cons l ls ih =>
    obtain ⟨space, hl⟩ := hall l List.mem_cons_self
    have ih := ih fun l' hl' => hall l' (List.mem_cons_of_mem _ hl')
    rw [List.map_cons, List.sum_cons, ← ih, Function.comp_apply, hs.countP_ledger hl]
    by_cases hloc : l.location = location
    · rw [List.filter_cons_of_pos (by simpa using hloc), List.map_cons, List.foldr_cons,
        if_pos hloc, Ledger.conflicts_eq_filter (hs.sorted hl), List.countP_eq_length_filter]
    · rw [List.filter_cons_of_neg (by simpa using hloc), if_neg hloc, Nat.zero_add]

end Ordered

theorem countUpcoming_eq (s : Store) (user : Id) (now : Int) :
    s.countUpcoming user now =
      s.bookings.countP fun b => decide (b.owner = user ∧ now < b.span.stop) := by
  unfold countUpcoming bookings
  rw [List.countP_flatMap]
  congr 1
  refine List.map_congr_left fun l _ => ?_
  rw [← Array.countP_toList]
  refine List.countP_congr fun b _ => ?_
  simp

theorem sortByStart_perm (bs : List Booking) : (sortByStart bs).Perm bs := List.mergeSort_perm _ _

theorem sortByStart_sorted (bs : List Booking) :
    (sortByStart bs).Pairwise fun a b => a.span.start ≤ b.span.start := by
  have h : (sortByStart bs).Pairwise fun a b => decide (a.span.start ≤ b.span.start) := by
    refine List.pairwise_mergeSort (fun a b c hab hbc => ?_) (fun a b => ?_) _
    · simp only [decide_eq_true_eq] at hab hbc ⊢
      omega
    · simp only [Bool.or_eq_true, decide_eq_true_eq]
      omega
  exact h.imp fun hab => of_decide_eq_true hab

/-! ## Changes -/

/-- What was set up by the administration stays: everything but ledgers, index and series. -/
structure SameSetup (s s' : Store) : Prop where
  locations : s'.locations = s.locations
  spaces : s'.spaces = s.spaces
  approvers : s'.approvers = s.approvers
  allowedBookers : s'.allowedBookers = s.allowedBookers
  memberships : s'.memberships = s.memberships
  users : s'.users = s.users
  settings : s'.settings = s.settings
  /-- No ledger is opened or closed. -/
  ledgers : ∀ space,
    (s'.ledgers.get? space).map (·.location) = (s.ledgers.get? space).map (·.location)

theorem SameSetup.refl (s : Store) : SameSetup s s :=
  ⟨rfl, rfl, rfl, rfl, rfl, rfl, rfl, fun _ => rfl⟩

theorem SameSetup.trans {s'' : Store} (h : SameSetup s s') (h' : SameSetup s' s'') :
    SameSetup s s'' where
  locations := h'.locations.trans h.locations
  spaces := h'.spaces.trans h.spaces
  approvers := h'.approvers.trans h.approvers
  allowedBookers := h'.allowedBookers.trans h.allowedBookers
  memberships := h'.memberships.trans h.memberships
  users := h'.users.trans h.users
  settings := h'.settings.trans h.settings
  ledgers space := (h'.ledgers space).trans (h.ledgers space)

theorem SameSetup.locationOf (h : s.SameSetup s') : s'.locationOf = s.locationOf :=
  funext h.ledgers

/-- What the index says of an identifier after one booking went and one came. -/
def indexAfter (s : Store) (gone new : Option Booking) (id : Id) : Option Id :=
  match new with
  | some b => if b.id = id then some b.space else s.spaceOf.get? id
  | none => if gone.map (·.id) = some id then none else s.spaceOf.get? id

/-- One booking goes, if any, and one comes, if any; the others stay. -/
structure Exchange (s : Store) (gone new : Option Booking) (s' : Store) : Prop where
  setup : SameSetup s s'
  series : s'.series = s.series
  bookings : ∃ rest, s.bookings.Perm (gone.toList ++ rest) ∧ s'.bookings.Perm (new.toList ++ rest)
  sorted : ∀ {space l}, s'.ledgers.get? space = some l → l.Sorted
  placed : ∀ {space l}, s'.ledgers.get? space = some l → ∀ b ∈ l.bookings.toList, b.space = space
  spaceOf : ∀ id, s'.spaceOf.get? id = s.indexAfter gone new id

namespace Exchange

variable {gone new : Option Booking}

theorem mem_of_mem (h : Exchange s gone new s') (hb : b ∈ s'.bookings) :
    new = some b ∨ b ∈ s.bookings := by
  obtain ⟨rest, hperm, hperm'⟩ := h.bookings
  have := hperm'.mem_iff.1 hb
  simp only [List.mem_append, Option.mem_toList] at this
  exact this.imp_right fun hr => hperm.mem_iff.2 (List.mem_append_right _ hr)

/-- The booking that goes was stored. -/
theorem gone_mem {old : Booking} (h : Exchange s (some old) new s') : old ∈ s.bookings := by
  obtain ⟨rest, hperm, -⟩ := h.bookings
  exact hperm.mem_iff.2 (by simp)

/-- The other bookings have other identifiers than the one that goes. -/
theorem exists_rest (h : Exchange s gone new s') (hs : s.Consistent) :
    ∃ rest, s.bookings.Perm (gone.toList ++ rest) ∧ s'.bookings.Perm (new.toList ++ rest) ∧
      ∀ c ∈ rest, c ∈ s.bookings ∧ gone.map (·.id) ≠ some c.id := by
  obtain ⟨rest, hperm, hperm'⟩ := h.bookings
  refine ⟨rest, hperm, hperm', fun c hc => ⟨hperm.mem_iff.2 (List.mem_append_right _ hc), ?_⟩⟩
  have hnodup := (hperm.map (·.id)).nodup_iff.1 hs.distinct
  cases gone with
  | none => simp
  | some old =>
    simp only [Option.toList_some, List.singleton_append, List.map_cons, List.nodup_cons,
      List.mem_map, not_exists, not_and] at hnodup
    simp only [Option.map_some, ne_eq, Option.some.injEq]
    exact fun heq => hnodup.1 c hc heq.symm

/-- The index of an identifier that does not go knows the booking among those that stay. -/
theorem indexed_of_ne {rest : List Booking} (hs : s.Consistent)
    (hperm : s.bookings.Perm (gone.toList ++ rest)) (hid : gone.map (·.id) ≠ some id) :
    s.spaceOf.get? id = some space ↔ ∃ c ∈ rest, c.id = id ∧ c.space = space := by
  rw [hs.indexed]
  constructor
  · rintro ⟨c, hc, rfl, rfl⟩
    refine ⟨c, ?_, rfl, rfl⟩
    rcases List.mem_append.1 (hperm.mem_iff.1 hc) with hg | hr
    · exact absurd (by rw [Option.mem_toList.1 hg]; rfl) hid
    · exact hr
  · rintro ⟨c, hc, rfl, rfl⟩
    exact ⟨c, hperm.mem_iff.2 (List.mem_append_right _ hc), rfl, rfl⟩

theorem indexed {rest : List Booking} (hs : s.Consistent)
    (hperm : s.bookings.Perm (gone.toList ++ rest))
    (hrest : ∀ c ∈ rest, gone.map (·.id) ≠ some c.id)
    (hnew : ∀ b, new = some b →
      (gone.map (·.id) = some b.id ∨ gone = none) ∧ ∀ c ∈ rest, c.id ≠ b.id) :
    s.indexAfter gone new id = some space ↔
      ∃ c ∈ new.toList ++ rest, c.id = id ∧ c.space = space := by
  unfold indexAfter
  cases new with
  | none =>
    simp only [Option.toList_none, List.nil_append]
    split
    · rename_i hid
      simp only [reduceCtorEq, false_iff, not_exists, not_and]
      intro c hc hcid
      exact absurd (hcid ▸ hid) (hrest c hc)
    · rename_i hid
      exact indexed_of_ne hs hperm hid
  | some b =>
    obtain ⟨hgone, hother⟩ := hnew b rfl
    simp only [Option.toList_some, List.singleton_append, List.mem_cons]
    split
    · rename_i hid
      subst hid
      constructor
      · intro heq
        cases heq
        exact ⟨b, .inl rfl, rfl, rfl⟩
      · rintro ⟨c, rfl | hr, hcid, rfl⟩
        · rfl
        · exact absurd hcid (hother c hr)
    · rename_i hid
      have hne : gone.map (·.id) ≠ some id := by
        rcases hgone with hgone | rfl
        · rw [hgone]
          simpa using hid
        · simp
      rw [indexed_of_ne hs hperm hne]
      constructor
      · rintro ⟨c, hr, hc⟩
        exact ⟨c, .inr hr, hc⟩
      · rintro ⟨c, rfl | hr, hc⟩
        · exact absurd hc.1 hid
        · exact ⟨c, hr, hc⟩

/-- A change keeps the ledgers in order. -/
theorem ordered (h : Exchange s gone new s') (hs : s.Ordered) : s'.Ordered where
  sorted := h.sorted
  placed := h.placed
  opened space := by
    have := congrArg Option.isSome (h.setup.ledgers space)
    simp only [Option.isSome_map] at this
    rw [h.setup.spaces, hs.opened, this]
  named hsp := by
    rw [h.setup.spaces] at hsp
    exact hs.named hsp

/-- **A change keeps a store consistent** if the booking that comes has the identifier of the one
that goes, or a new one. -/
theorem consistent (h : Exchange s gone new s') (hs : s.Consistent)
    (hnew : ∀ b, new = some b → gone.map (·.id) = some b.id ∨
      gone = none ∧ ∀ c ∈ s.bookings, c.id ≠ b.id) :
    s'.Consistent := by
  obtain ⟨rest, hperm, hperm', hrest⟩ := h.exists_rest hs
  have hother : ∀ b, new = some b → ∀ c ∈ rest, c.id ≠ b.id := by
    intro b hb c hc heq
    rcases hnew b hb with hid | ⟨-, hfresh⟩
    · exact (hrest c hc).2 (heq ▸ hid)
    · exact hfresh c (hrest c hc).1 heq
  refine ⟨h.ordered hs.toOrdered, ?_, fun id space => ?_⟩
  · have hold := (hperm.map (·.id)).nodup_iff.1 hs.distinct
    rw [List.map_append, List.nodup_append] at hold
    rw [(hperm'.map (·.id)).nodup_iff, List.map_append, List.nodup_append]
    refine ⟨by cases new <;> simp, hold.2.1, ?_⟩
    intro i hi j hj hij
    obtain ⟨b, hb, rfl⟩ := List.mem_map.1 hi
    obtain ⟨c, hc, rfl⟩ := List.mem_map.1 hj
    exact hother b (Option.mem_toList.1 hb) c hc hij.symm
  · rw [h.spaceOf, indexed hs hperm (fun c hc => (hrest c hc).2)
      fun b hb => ⟨(hnew b hb).imp_right And.left, hother b hb⟩]
    simp only [hperm'.mem_iff]

/-- A removal and then an addition under the same identifier are one exchange. -/
theorem trans {s₁ : Store} {old : Booking} (h : Exchange s (some old) none s₁)
    (h' : Exchange s₁ none (some b) s') (hid : old.id = b.id) :
    Exchange s (some old) (some b) s' where
  setup := h.setup.trans h'.setup
  series := h'.series.trans h.series
  bookings := by
    obtain ⟨rest, hperm, hperm₁⟩ := h.bookings
    obtain ⟨rest', hperm₁', hperm'⟩ := h'.bookings
    simp only [Option.toList_none, List.nil_append] at hperm₁ hperm₁'
    exact ⟨rest, hperm, hperm'.trans ((hperm₁'.symm.trans hperm₁).append_left _)⟩
  sorted := h'.sorted
  placed := h'.placed
  spaceOf id := by
    rw [h'.spaceOf]
    unfold indexAfter
    simp only
    split
    · rfl
    · rename_i hne
      rw [h.spaceOf]
      simp only [indexAfter, Option.map_some, Option.some.injEq]
      rw [if_neg (hid ▸ hne)]

end Exchange

theorem exchange_of_ledger (hs : s.Ordered) (hl : s.ledgers.get? space = some l)
    (hloc : l'.location = l.location) (hsorted : l'.Sorted)
    (hplaced : ∀ b ∈ l'.bookings.toList, b.space = space) {gone new : Option Booking}
    {rest : List Booking} (hgone : l.bookings.toList.Perm (gone.toList ++ rest))
    (hnew : l'.bookings.toList.Perm (new.toList ++ rest)) {index : Table Id}
    (hindex : ∀ id, index.get? id = s.indexAfter gone new id) :
    Exchange s gone new { s with ledgers := s.ledgers.insert space l', spaceOf := index } where
  setup := by
    refine ⟨rfl, rfl, rfl, rfl, rfl, rfl, rfl, fun k => ?_⟩
    simp only [Table.get?_insert]
    split
    · rename_i hk
      subst hk
      simp [hl, hloc]
    · rfl
  series := rfl
  bookings := by
    refine ⟨rest ++ s.elsewhere space, ?_, ?_⟩
    · rw [← List.append_assoc]
      exact (bookings_perm hl).trans (hgone.append_right _)
    · rw [← List.append_assoc]
      exact (bookings_insert_perm s space l').trans (hnew.append_right _)
  sorted h := by
    rcases Table.get?_of_insert h with ⟨-, rfl⟩ | hold
    · exact hsorted
    · exact hs.sorted hold
  placed h := by
    rcases Table.get?_of_insert h with ⟨hk, rfl⟩ | hold
    · exact hk ▸ hplaced
    · exact hs.placed hold
  spaceOf := hindex

/-! ## Adding, removing and unlinking -/

theorem insertBooking_of_ledger (hl : s.ledgers.get? b.space = some l) :
    s.insertBooking b =
      match s.findConflicts b.space b.span none with
      | holder :: _ => .error (.conflict holder.id)
      | [] => .ok { s with
          ledgers := s.ledgers.insert b.space (l.insert b)
          spaceOf := s.spaceOf.insert b.id b.space } := by
  have hfound : s.findConflicts b.space b.span none = l.conflicts b.span none := by
    rw [findConflicts, hl, Option.elim_some]
  rewrite [hfound, insertBooking, hl]
  rfl

theorem insertBooking_ok (h : s.insertBooking b = .ok s') :
    ∃ l, s.ledgers.get? b.space = some l ∧ s.findConflicts b.space b.span none = [] ∧
      s' = { s with
        ledgers := s.ledgers.insert b.space (l.insert b)
        spaceOf := s.spaceOf.insert b.id b.space } := by
  cases hl : s.ledgers.get? b.space with
  | none => simp [insertBooking, hl] at h
  | some l =>
    rw [insertBooking_of_ledger hl] at h
    split at h
    · cases h
    · rename_i hc
      cases h
      exact ⟨l, rfl, hc, rfl⟩

/-- A booking that was added lies on a free slot. -/
theorem insertBooking_free (hs : s.Ordered) (h : s.insertBooking b = .ok s') :
    ∀ c ∈ s.bookings, c.space = b.space → ¬ c.span.overlaps b.span = true := by
  obtain ⟨l, -, hc, -⟩ := insertBooking_ok h
  intro c hcs hspace hover
  have : c ∈ s.findConflicts b.space b.span none :=
    hs.mem_findConflicts.2 ⟨hcs, hspace, hover, by simp⟩
  simp [hc] at this

theorem insertBooking_exchange (hs : s.Ordered) (h : s.insertBooking b = .ok s') :
    Exchange s none (some b) s' := by
  obtain ⟨l, hl, -, rfl⟩ := insertBooking_ok h
  have hperm := Ledger.insert_perm (hs.sorted hl) b
  refine exchange_of_ledger hs hl (Ledger.insert_location l b) ((hs.sorted hl).insert b) ?_
    (.refl _) hperm fun id => ?_
  · intro c hc
    rcases List.mem_cons.1 (hperm.mem_iff.1 hc) with rfl | hc
    · rfl
    · exact hs.placed hl c hc
  · simp only [indexAfter, Table.get?_insert]

theorem withLedgerOf_ok {f : Id → Ledger → Option Store} (h : s.withLedgerOf id f = .ok s') :
    ∃ space l, s.ledgers.get? space = some l ∧ f space l = some s' := by
  unfold withLedgerOf at h
  cases hspace : s.spaceOf.get? id with
  | none => simp [hspace] at h
  | some space =>
    cases hl : s.ledgers.get? space with
    | none => simp [hspace, hl] at h
    | some l =>
      cases hf : f space l with
      | none => simp [hspace, hl, hf] at h
      | some s'' =>
        simp only [hspace, hl, hf, Except.ok.injEq] at h
        exact ⟨space, l, hl, h ▸ hf⟩

theorem deleteBooking_exchange (hs : s.Consistent) (h : s.deleteBooking id = .ok s') :
    ∃ old, old.id = id ∧ Exchange s (some old) none s' := by
  obtain ⟨space, l, hl, hf⟩ := withLedgerOf_ok h
  obtain ⟨rest, hrest, rfl⟩ := Option.map_eq_some_iff.1 hf
  obtain ⟨pre, old, post, hsplit, rfl, hrest', hloc⟩ := Ledger.exists_of_remove? hrest
  have hsub : rest.bookings.toList.Sublist l.bookings.toList := by
    rw [hrest', hsplit]
    exact (List.sublist_cons_self _ _).append_left _
  have hgone : l.bookings.toList.Perm ((some old).toList ++ (pre ++ post)) := by
    rw [hsplit]
    exact List.perm_middle
  refine ⟨old, rfl, exchange_of_ledger hs.toOrdered hl hloc
    (List.Pairwise.sublist hsub (hs.sorted hl)) ?_ hgone ?_ fun id => ?_⟩
  · intro c hc
    exact hs.placed hl c (hsub.subset hc)
  · rw [hrest']
    exact .refl _
  · simp only [indexAfter, Table.get?_erase, Option.map_some, Option.some.injEq]

theorem clearSeriesLink_exchange (hs : s.Consistent) (h : s.clearSeriesLink id = .ok s') :
    ∃ old, old.id = id ∧ Exchange s (some old) (some { old with series := none }) s' := by
  obtain ⟨space, l, hl, hf⟩ := withLedgerOf_ok h
  obtain ⟨l', hl', rfl⟩ := Option.map_eq_some_iff.1 hf
  obtain ⟨pre, old, post, hsplit, rfl, hsplit', hloc⟩ := Ledger.exists_of_modify? hl'
  have hsorted := hs.sorted hl
  have hplaced := hs.placed hl
  have hgone : l.bookings.toList.Perm ((some old).toList ++ (pre ++ post)) := by
    rw [hsplit]
    exact List.perm_middle
  refine ⟨old, rfl, exchange_of_ledger hs.toOrdered hl hloc ?_ ?_ hgone ?_ fun id => ?_⟩
  · unfold Ledger.Sorted at hsorted ⊢
    rw [hsplit] at hsorted
    rw [hsplit']
    simpa only [List.pairwise_append, List.pairwise_cons, List.mem_cons, forall_eq_or_imp]
      using hsorted
  · rw [hsplit] at hplaced
    rw [hsplit']
    simp only [List.mem_append, List.mem_cons] at hplaced ⊢
    rintro c (hc | rfl | hc)
    · exact hplaced c (.inl hc)
    · exact hplaced old (.inr (.inl rfl))
    · exact hplaced c (.inr (.inr hc))
  · rw [hsplit']
    exact List.perm_middle
  · simp only [indexAfter]
    split
    · rename_i hid
      subst hid
      exact hs.spaceOf_of_mem (mem_bookings.2 ⟨space, l, hl, by simp [hsplit]⟩) |>.trans
        (by rw [hplaced old (by simp [hsplit])])
    · rfl

end SpaceBooking.Store
