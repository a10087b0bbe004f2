import SpaceBooking.Proofs.Tenants

/-!
# What others are told

Whoever asks about a booking or a series of another organization, or tries to do something about it,
is told that something was not found, and nothing happens. What was not found, though, is not what
was asked for: it is the space. If the record were not stored, the answer would name the record. So
the two cases can be told apart, and the identifier of a space of another organization is told.

* `BookingRefused`, `SeriesRefused` — every request about the record ends with the same failure.
* `Store.deleteBooking_of_booking?` — a booking that is found can be deleted, in any store.
* `foreign_records_refused` — what is answered about a record of another organization, and what
  would be answered without the record.
* `foreign_booking_differs` — the two answers can differ.
-/

namespace SpaceBooking

open SpaceBooking.Action Service

variable {c : Conditions} {w : World} {actor : User} {id : Id} {failure : Failure}

/-! ## Requests about one record -/

/-- Whatever somebody asks or does about the booking of an identifier ends with the failure and
changes nothing. -/
structure BookingRefused (c : Conditions) (w : World) (actor : User) (id : Id)
    (failure : Failure) : Prop where
  shown : Refuses (showBooking actor id) c w failure
  rebooked : ∀ req, Refuses (rebook actor id req) c w failure
  cancelled : Refuses (cancel actor id) c w failure
  approved : Refuses (approve actor id) c w failure
  declined : Refuses (decline actor id) c w failure

/-- Whatever somebody asks or does about the series of an identifier ends with the failure and
changes nothing. -/
structure SeriesRefused (c : Conditions) (w : World) (actor : User) (id : Id)
    (failure : Failure) : Prop where
  shown : Refuses (showSeries actor id) c w failure
  listed : Refuses (seriesBookings actor id) c w failure
  cancelled : Refuses (cancelSeries actor id) c w failure

/-- What all these requests begin with decides. -/
theorem BookingRefused.of_onBooking
    (h : ∀ {α : Type} (act : Booking → SpaceContext → Action Failure α),
      Refuses (onBooking actor id act) c w failure) : BookingRefused c w actor id failure where
  shown := by
    obtain ⟨act, heq⟩ := showBooking_eq actor id
    exact heq ▸ h act
  rebooked req := by
    obtain ⟨act, heq⟩ := rebook_eq actor id req
    exact heq ▸ (h act).measured .update
  cancelled := by
    obtain ⟨act, heq⟩ := cancel_eq actor id
    exact heq ▸ (h act).measured .delete
  approved := by
    obtain ⟨act, heq⟩ := approve_eq actor id
    exact heq ▸ h act
  declined := by
    obtain ⟨act, heq⟩ := decline_eq actor id
    exact heq ▸ h act

theorem SeriesRefused.of_onSeries
    (h : ∀ {α : Type} (act : Series → SpaceContext → Action Failure α),
      Refuses (onSeries actor id act) c w failure) : SeriesRefused c w actor id failure where
  shown := by
    obtain ⟨act, heq⟩ := showSeries_eq actor id
    exact heq ▸ h act
  listed := by
    obtain ⟨act, heq⟩ := seriesBookings_eq actor id
    exact heq ▸ h act
  cancelled := by
    obtain ⟨act, heq⟩ := cancelSeries_onSeries actor id
    exact heq ▸ h act

/-! ## With and without the record -/

namespace Store

variable {s : Store} {b : Booking} {row : Series}

/-- A booking that is found can be deleted, and is not found then. -/
theorem deleteBooking_of_booking? (h : s.booking? id = some b) :
    ∃ s', s.deleteBooking id = .ok s' ∧ s'.booking? id = none := by
  have hid := booking?_id h
  obtain ⟨l, hledger, hfind⟩ := Option.bind_eq_some_iff.1 h
  obtain ⟨space, hspace, hl⟩ := Option.bind_eq_some_iff.1 hledger
  have hmem : b ∈ l.bookings.toList := by
    simpa using Array.mem_of_find?_eq_some hfind
  obtain ⟨rest, hrest⟩ := Ledger.exists_remove? ⟨b, hmem, hid⟩
  refine ⟨{ s with ledgers := s.ledgers.insert space rest, spaceOf := s.spaceOf.erase id }, ?_, ?_⟩
  · simp only [deleteBooking, withLedgerOf, hspace, hl, hrest, Option.map_some]
  · have hgone : (s.spaceOf.erase id).get? id = none := (Table.get?_erase _ _ _).trans (if_pos rfl)
    simp only [booking?, hgone, Option.bind_none]

theorem deleteSeries_of_get? (h : s.series.get? id = some row) :
    ∃ s', s.deleteSeries id = .ok s' ∧ s'.series.get? id = none := by
  have hcontains : s.series.contains id = true := by
    rw [Table.contains, h, Option.isSome_some]
  refine ⟨{ s with series := s.series.erase id }, if_pos hcontains, ?_⟩
  exact (Table.get?_erase _ _ _).trans (if_pos rfl)

end Store

theorem BookingRefused.of_missing (hc : c.Reliable) (h : w.store.booking? id = none) :
    BookingRefused c w actor id (.notFound id) := by
  refine .of_onBooking fun act => onRecord_missing hc ?_
  rw [answer_storedBooking, h, Option.elim_none]

theorem SeriesRefused.of_missing (hc : c.Reliable) (h : w.store.series.get? id = none) :
    SeriesRefused c w actor id (.notFound id) := by
  refine .of_onSeries fun act => onRecord_missing hc ?_
  rw [answer_storedSeries, h, Option.elim_none]

theorem BookingRefused.of_foreign (hc : c.Reliable) {b : Booking}
    (h : w.store.booking? id = some b) (horg : w.store.orgOf b.space ≠ some actor.org) :
    BookingRefused c w actor id (.notFound b.space) := by
  refine .of_onBooking fun act => onRecord_foreign hc b ?_ horg
  rw [answer_storedBooking, h, Option.elim_some]

theorem SeriesRefused.of_foreign (hc : c.Reliable) {row : Series}
    (h : w.store.series.get? id = some row) (horg : w.store.orgOf row.space ≠ some actor.org) :
    SeriesRefused c w actor id (.notFound row.space) := by
  refine .of_onSeries fun act => onRecord_foreign hc row ?_ horg
  rw [answer_storedSeries, h, Option.elim_some]

/-- **What is answered about a record of another organization.** Without failing calls, in any
store: every request about a booking or series on a space that is not of the actor's organization is
refused without a trace, and so it would be with the record removed. Both answers say that something
was not found. With the record it is the space, without the record it is what was asked for. -/
theorem foreign_records_refused (hc : c.Reliable) (w : World) (actor : User) (id : Id) :
    (∀ b, w.store.booking? id = some b → w.store.orgOf b.space ≠ some actor.org →
      BookingRefused c w actor id (.notFound b.space) ∧
        ∃ s, w.store.deleteBooking id = .ok s ∧
          BookingRefused c { w with store := s } actor id (.notFound id)) ∧
    ∀ row, w.store.series.get? id = some row → w.store.orgOf row.space ≠ some actor.org →
      SeriesRefused c w actor id (.notFound row.space) ∧
        ∃ s, w.store.deleteSeries id = .ok s ∧
          SeriesRefused c { w with store := s } actor id (.notFound id) := by
  refine ⟨fun b hb horg => ⟨.of_foreign hc hb horg, ?_⟩, fun row hrow horg =>
    ⟨.of_foreign hc hrow horg, ?_⟩⟩
  · obtain ⟨s, hdelete, hnone⟩ := Store.deleteBooking_of_booking? hb
    exact ⟨s, hdelete, .of_missing hc hnone⟩
  · obtain ⟨s, hdelete, hnone⟩ := Store.deleteSeries_of_get? hrow
    exact ⟨s, hdelete, .of_missing hc hnone⟩

/-- The neighbours ask about a booking of the desk and about its series. -/
theorem foreign_records_refused_desk :
    Sample.conditions.Reliable ∧
    (∃ b, Sample.shared.store.booking? (.ofNat 102) = some b ∧
      BookingRefused Sample.conditions Sample.shared Sample.neighbour (.ofNat 102)
        (.notFound (.ofNat 4))) ∧
    ∃ row, Sample.shared.store.series.get? (.ofNat 101) = some row ∧
      SeriesRefused Sample.conditions Sample.shared Sample.neighbour (.ofNat 101)
        (.notFound (.ofNat 4)) := by
  have hstored : (Sample.shared.store.booking? (.ofNat 102)).map (·.space) = some (.ofNat 4) := by
    decide +kernel
  have hrow : (Sample.shared.store.series.get? (.ofNat 101)).map (·.space) = some (.ofNat 4) := by
    decide +kernel
  have horg : Sample.shared.store.orgOf (.ofNat 4) ≠ some Sample.neighbour.org := by
    decide +kernel
  obtain ⟨b, hb, hspace⟩ := Option.map_eq_some_iff.1 hstored
  obtain ⟨row, hseries, hseriesSpace⟩ := Option.map_eq_some_iff.1 hrow
  obtain ⟨hbooking, -⟩ := foreign_records_refused Sample.reliable Sample.shared Sample.neighbour
    (.ofNat 102)
  obtain ⟨-, hlinked⟩ := foreign_records_refused Sample.reliable Sample.shared Sample.neighbour
    (.ofNat 101)
  obtain ⟨hrefused, -⟩ := hbooking b hb (hspace ▸ horg)
  obtain ⟨hseriesRefused, -⟩ := hlinked row hseries (hseriesSpace ▸ horg)
  exact ⟨Sample.reliable, ⟨b, hb, hspace ▸ hrefused⟩, row, hseries, hseriesSpace ▸ hseriesRefused⟩

/-- **The two answers can differ**, and the one names a space of another organization. -/
theorem foreign_booking_differs :
    Sample.shared.store.orgOf (.ofNat 4) = some (.ofNat 1) ∧ Sample.neighbour.org = .ofNat 9 ∧
    (showBooking Sample.neighbour (.ofNat 102) Sample.conditions Sample.shared).1 =
      .error (.notFound (.ofNat 4)) ∧
    (Sample.shared.store.deleteBooking (.ofNat 102)).toOption.map (fun s =>
        (showBooking Sample.neighbour (.ofNat 102) Sample.conditions
          { Sample.shared with store := s }).1) =
      some (.error (.notFound (.ofNat 102))) := by
  decide +kernel

end SpaceBooking
