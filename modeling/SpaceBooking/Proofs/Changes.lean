import Mathlib.Data.List.Pairwise
import Mathlib.Logic.Relation
import SpaceBooking.Proofs.Replacement

/-!
# Changes of the bookings

A `Change` is one thing that a request does to the store, with what the request made sure of before.
What every change keeps holds after any number of them.

* `Store.Exclusive` — the spans of the bookings are not empty, and no two on a space overlap.
* `Store.Located` — the ledger of a space names the location of the space.
* `Store.Keyed` — each location is stored under its own identifier.
* `Change.consistent`, `Change.exclusive`, `Change.setup` — each change keeps these: the bookings
  stay in order, and what was set up is not reached.
* `Exclusive.count_le_one` — at no instant are there two bookings on a space.
-/

namespace SpaceBooking

/-- The two bookings are not on one space at the same time. -/
def Booking.Apart (b c : Booking) : Prop := b.space = c.space → ¬ b.span.overlaps c.span = true

theorem Booking.Apart.symm {b c : Booking} (h : b.Apart c) : c.Apart b := by
  intro hspace
  rw [Span.overlaps_comm]
  exact h hspace.symm

instance : Std.Symm Booking.Apart := ⟨fun _ _ => Booking.Apart.symm⟩

namespace Store

variable {s s' : Store} {b c old : Booking} {id space : Id}

/-- Each booking takes time, and those of a space do not overlap. -/
structure Exclusive (s : Store) : Prop where
  nonempty : ∀ b ∈ s.bookings, b.span.start < b.span.stop
  apart : s.bookings.Pairwise Booking.Apart

/-- The ledger of each space is that of its location. -/
def Located (s : Store) : Prop :=
  ∀ ⦃space sp l⦄, s.spaces.get? space = some sp → s.ledgers.get? space = some l →
    l.location = sp.location

/-- Each location is stored under its own identifier. -/
def Keyed (s : Store) : Prop := ∀ ⦃id l⦄, s.locations.get? id = some l → l.id = id

theorem exclusive_empty : Exclusive {} where
  nonempty b hb := by simp [mem_bookings] at hb
  apart := .nil

theorem located_empty : Located {} := fun _ _ _ h => by simp at h

theorem keyed_empty : Keyed {} := fun _ _ h => by simp at h

/-- The ledgers tell the locations that the spaces have. -/
theorem Ordered.locationOf_eq (hs : s.Ordered) (hl : s.Located) (space : Id) :
    s.locationOf space = (s.spaces.get? space).map (·.location) := by
  have hopened := hs.opened space
  unfold locationOf
  cases hspace : s.spaces.get? space with
  | none =>
    rw [hspace, Option.isSome_none] at hopened
    rw [Option.isSome_eq_false_iff.1 hopened.symm |> Option.isNone_iff_eq_none.1]
    rfl
  | some sp =>
    obtain ⟨l, hledger⟩ := hs.exists_ledger hspace
    rw [hledger, Option.map_some, Option.map_some, hl hspace hledger]

/-- **At no instant are there two bookings on a space.** -/
theorem Exclusive.count_le_one (h : s.Exclusive) (space : Id) (t : Int) :
    (s.bookings.filter fun b => b.space = space && b.span.contains t).length ≤ 1 := by
  have hpair := h.apart.filter fun b => b.space = space && b.span.contains t
  cases hf : s.bookings.filter fun b => b.space = space && b.span.contains t with
  | nil => simp
  | cons b rest =>
    cases rest with
    | nil => simp
    | cons c rest =>
      have hall : ∀ d ∈ b :: c :: rest, d.space = space ∧ d.span.contains t = true := by
        intro d hd
        rw [← hf, List.mem_filter] at hd
        simpa using hd.2
      rw [hf] at hpair
      have hb := hall b (by simp)
      have hc := hall c (by simp)
      have hne := (List.pairwise_cons.1 hpair).1 c (by simp) (hb.1.trans hc.1.symm)
      exact absurd (Span.overlaps_of_contains hb.2 hc.2) hne

/-- A booking that comes to a free slot leaves the bookings apart. -/
theorem Exclusive.exchange (h : s.Exclusive) (hs : s.Consistent) {gone new : Option Booking}
    (hx : Exchange s gone new s')
    (hnew : ∀ b, new = some b → b.span.start < b.span.stop ∧
      ∀ c ∈ s.bookings, gone.map (·.id) ≠ some c.id → c.space = b.space →
        ¬ c.span.overlaps b.span = true) :
    s'.Exclusive := by
  obtain ⟨rest, hperm, hperm', hrest⟩ := hx.exists_rest hs
  have hapart := ((hperm.pairwise_iff Booking.Apart.symm).1 h.apart).sublist
    (List.sublist_append_right _ _)
  refine ⟨fun b hb => ?_, (hperm'.pairwise_iff Booking.Apart.symm).2 ?_⟩
  · rcases hx.mem_of_mem hb with hb | hb
    · exact (hnew b hb).1
    · exact h.nonempty b hb
  · cases new with
    | none => exact hapart
    | some b =>
      refine List.pairwise_cons.2 ⟨fun c hc => Booking.Apart.symm ?_, hapart⟩
      exact (hnew b rfl).2 c (hrest c hc).1 (hrest c hc).2

theorem Exclusive.not_overlaps (h : s.Exclusive) (hb : b ∈ s.bookings) (hc : c ∈ s.bookings)
    (hne : c.id ≠ b.id) (hspace : c.space = b.space) : ¬ c.span.overlaps b.span = true := by
  have hne : c ≠ b := fun heq => hne (congrArg Booking.id heq)
  exact h.apart.forall hc hb hne hspace

/-! ## Changes -/

/-- The stores differ in their series at most. -/
def SeriesOnly (s s' : Store) : Prop := s' = { s with series := s'.series }

theorem insertSeries_seriesOnly (s : Store) (series : Series) :
    s.SeriesOnly (s.insertSeries series) := rfl

theorem Ordered.insertSeries (hs : s.Ordered) (series : Series) :
    (s.insertSeries series).Ordered :=
  ⟨hs.sorted, hs.placed, hs.opened, hs.named⟩

theorem deleteSeries_seriesOnly (h : s.deleteSeries id = .ok s') : s.SeriesOnly s' := by
  unfold deleteSeries at h
  split at h
  · cases h
    rfl
  · cases h

theorem deleteSeries_series (h : s.deleteSeries id = .ok s') : s'.series = s.series.erase id := by
  unfold deleteSeries at h
  split at h
  · cases h
    rfl
  · cases h

/-- The spaces and their bookings are the same. -/
structure SameLedgers (s s' : Store) : Prop where
  spaces : s'.spaces = s.spaces
  ledgers : s'.ledgers = s.ledgers
  spaceOf : s'.spaceOf = s.spaceOf

namespace SameLedgers

variable (h : SameLedgers s s')

include h

theorem bookings : s'.bookings = s.bookings := by
  unfold Store.bookings
  rw [h.ledgers]

theorem consistent (hs : s.Consistent) : s'.Consistent where
  sorted hl := hs.sorted (h.ledgers ▸ hl)
  placed hl := hs.placed (h.ledgers ▸ hl)
  opened space := by
    rw [h.spaces, h.ledgers]
    exact hs.opened space
  named hsp := hs.named (h.spaces ▸ hsp)
  distinct := by
    rw [h.bookings]
    exact hs.distinct
  indexed := by
    rw [h.bookings, h.spaceOf]
    exact hs.indexed

theorem exclusive (he : s.Exclusive) : s'.Exclusive where
  nonempty := h.bookings ▸ he.nonempty
  apart := h.bookings ▸ he.apart

theorem located (hl : s.Located) : s'.Located :=
  fun _ _ _ hsp hget => hl (h.spaces ▸ hsp) (h.ledgers ▸ hget)

end SameLedgers

theorem SeriesOnly.sameLedgers (h : s.SeriesOnly s') : SameLedgers s s' := by
  rw [h]
  exact ⟨rfl, rfl, rfl⟩

theorem SeriesOnly.sameSetup (h : s.SeriesOnly s') : SameSetup s s' := by
  rw [h]
  exact ⟨rfl, rfl, rfl, rfl, rfl, rfl, rfl, fun _ => rfl⟩

theorem SameSetup.keyed (h : SameSetup s s') (hk : s.Keyed) : s'.Keyed := by
  intro id l hl
  rw [h.locations] at hl
  exact hk hl

theorem SameSetup.located (h : SameSetup s s') (hl : s.Located) : s'.Located := by
  intro space sp l' hsp hl'
  rw [h.spaces] at hsp
  have := h.ledgers space
  rw [hl', Option.map_some] at this
  obtain ⟨l, hget, hloc⟩ := Option.map_eq_some_iff.1 this.symm
  rw [← hloc]
  exact hl hsp hget

/-- One thing that a request does to the store, with what it made sure of before. -/
inductive Change (s s' : Store) : Prop where
  | place (b : Booking) : b.span.start < b.span.stop → (∀ c ∈ s.bookings, c.id ≠ b.id) →
      s.insertBooking b = .ok s' → Change s s'
  /-- A booking takes another span, or keeps its own. -/
  | replace (old b : Booking) : s.booking? b.id = some old →
      b.span.start < b.span.stop ∨ b.span = old.span → s.updateBooking b = .ok s' → Change s s'
  | remove (id : Id) : s.deleteBooking id = .ok s' → Change s s'
  | unlink (id : Id) : s.clearSeriesLink id = .ok s' → Change s s'
  | onSeries : s.SeriesOnly s' → Change s s'

/-- A new booking needs an identifier that no stored booking has. -/
theorem Consistent.insertBooking (hs : s.Consistent) (hfresh : ∀ c ∈ s.bookings, c.id ≠ b.id)
    (h : s.insertBooking b = .ok s') : s'.Consistent := by
  refine (insertBooking_exchange hs.toOrdered h).consistent hs ?_
  rintro _ ⟨⟩
  exact .inr ⟨rfl, hfresh⟩

theorem Consistent.updateBooking (hs : s.Consistent) (h : s.updateBooking b = .ok s') :
    s'.Consistent := by
  obtain ⟨o, -, hid, hx, -⟩ := hs.updateBooking_exchange h
  refine hx.consistent hs ?_
  rintro _ ⟨⟩
  exact .inl (congrArg some hid)

theorem Consistent.deleteBooking (hs : s.Consistent) (h : s.deleteBooking id = .ok s') :
    s'.Consistent := by
  obtain ⟨o, -, hx⟩ := deleteBooking_exchange hs h
  exact hx.consistent hs (by simp)

theorem Consistent.clearSeriesLink (hs : s.Consistent) (h : s.clearSeriesLink id = .ok s') :
    s'.Consistent := by
  obtain ⟨o, -, hx⟩ := clearSeriesLink_exchange hs h
  refine hx.consistent hs ?_
  rintro _ ⟨⟩
  exact .inl rfl

theorem Change.consistent (h : Change s s') (hs : s.Consistent) : s'.Consistent := by
  cases h with
  | place b _ hfresh hok => exact hs.insertBooking hfresh hok
  | replace old b _ _ hok => exact hs.updateBooking hok
  | remove id hok => exact hs.deleteBooking hok
  | unlink id hok => exact hs.clearSeriesLink hok
  | onSeries h => exact h.sameLedgers.consistent hs

/-- **No change books a slot twice.** The store looks for overlaps itself, whatever was reported to
the request. -/
theorem Change.exclusive (h : Change s s') (hs : s.Consistent) (he : s.Exclusive) :
    s'.Exclusive := by
  cases h with
  | place b hspan _ hok =>
    refine he.exchange hs (insertBooking_exchange hs.toOrdered hok) ?_
    rintro _ ⟨⟩
    exact ⟨hspan, fun c hc _ => insertBooking_free hs.toOrdered hok c hc⟩
  | replace old b hold hspan hok =>
    obtain ⟨o, -, hid, hx, hfree⟩ := hs.updateBooking_exchange hok
    have hmem := (hs.booking?_eq_some_iff.1 hold).1
    refine he.exchange hs hx ?_
    rintro _ ⟨⟩
    refine ⟨?_, fun c hc hne hspace => hfree c hc hspace fun heq => hne ?_⟩
    · rcases hspan with hspan | hspan
      · exact hspan
      · rw [hspan]
        exact he.nonempty old hmem
    · rw [Option.map_some, hid, heq]
  | remove id hok =>
    obtain ⟨o, -, hx⟩ := deleteBooking_exchange hs hok
    exact he.exchange hs hx (by simp)
  | unlink id hok =>
    obtain ⟨o, -, hx⟩ := clearSeriesLink_exchange hs hok
    have ho := hx.gone_mem
    refine he.exchange hs hx ?_
    rintro _ ⟨⟩
    refine ⟨he.nonempty o ho, fun c hc hne hspace => ?_⟩
    exact he.not_overlaps (b := o) ho hc (fun heq => hne (congrArg some heq.symm)) hspace
  | onSeries h => exact h.sameLedgers.exclusive he

theorem SameSetup.of_updateBooking (hs : s.Consistent) (h : s.updateBooking b = .ok s') :
    SameSetup s s' := by
  obtain ⟨_, -, -, hx, -⟩ := hs.updateBooking_exchange h
  exact hx.setup

theorem SameSetup.of_deleteBooking (hs : s.Consistent) (h : s.deleteBooking id = .ok s') :
    SameSetup s s' := by
  obtain ⟨_, -, hx⟩ := deleteBooking_exchange hs h
  exact hx.setup

theorem SameSetup.of_clearSeriesLink (hs : s.Consistent) (h : s.clearSeriesLink id = .ok s') :
    SameSetup s s' := by
  obtain ⟨_, -, hx⟩ := clearSeriesLink_exchange hs h
  exact hx.setup

/-- No change reaches what was set up. -/
theorem Change.setup (h : Change s s') (hs : s.Consistent) : SameSetup s s' := by
  cases h with
  | place b _ _ hok => exact (insertBooking_exchange hs.toOrdered hok).setup
  | replace old b _ _ hok => exact .of_updateBooking hs hok
  | remove id hok => exact .of_deleteBooking hs hok
  | unlink id hok => exact .of_clearSeriesLink hs hok
  | onSeries h => exact h.sameSetup

end Store

end SpaceBooking
