import SpaceBooking.Proofs.Exchange

/-!
# Removing and replacing a booking

* `Consistent.deleteBooking_of_mem`, `Consistent.clearSeriesLink_of_mem` — a stored booking can be
  removed, and taken out of its series.
* `Consistent.findConflicts_of_deleteBooking`, `Consistent.findConflicts_of_insertBooking` — a
  search that leaves a booking out finds what it finds without it.
* `Consistent.updateBooking_eq` — replacing a booking, on its space or across spaces, is removing it
  and adding the new one: the booking is in nobody's way, not even its own.
* `FirstHolder`, `Consistent.insertBooking_of_overlap`, `Consistent.updateBooking_of_overlap` — when
  a slot is taken, the answer names the booking on it that starts first, and nothing changes.
-/

namespace SpaceBooking.Store

variable {s s' : Store} {b c old : Booking} {id space : Id} {l l' : Ledger}

namespace Consistent

variable (hs : s.Consistent)

include hs

/-- The ledger that is left when a stored booking is taken out. -/
theorem remove?_of_mem (hold : old ∈ s.bookings) :
    ∃ l rest pre post, s.ledgers.get? old.space = some l ∧ l.remove? old.id = some rest ∧
      l.bookings.toList = pre ++ old :: post ∧ rest.bookings.toList = pre ++ post ∧
      rest.location = l.location ∧ rest.Sorted ∧ ∀ c ∈ pre ++ post, c.id ≠ old.id := by
  obtain ⟨l, hl, hmem⟩ := hs.mem_bookings_iff.1 hold
  obtain ⟨rest, hrest⟩ := Ledger.exists_remove? ⟨old, hmem, rfl⟩
  obtain ⟨pre, o, post, hsplit, hid, hrest', hloc⟩ := Ledger.exists_of_remove? hrest
  have ho : o ∈ s.bookings := mem_bookings.2 ⟨_, l, hl, by simp [hsplit]⟩
  obtain rfl := hs.eq_of_id ho hold hid
  have hsub : rest.bookings.toList.Sublist l.bookings.toList := by
    rw [hrest', hsplit]
    exact (List.sublist_cons_self _ _).append_left _
  refine ⟨l, rest, pre, post, hl, hrest, hsplit, hrest', hloc,
    List.Pairwise.sublist hsub (hs.sorted hl), ?_⟩
  have hnodup : (l.bookings.toList.map (·.id)).Nodup := by
    have := ((bookings_perm hl).map (·.id)).nodup_iff.1 hs.distinct
    rw [List.map_append, List.nodup_append] at this
    exact this.1
  have hmiddle : ((o :: (pre ++ post)).map (·.id)).Nodup :=
    (List.Perm.map Booking.id List.perm_middle).nodup_iff.1 (hsplit ▸ hnodup)
  rw [List.map_cons, List.nodup_cons] at hmiddle
  intro c hc heq
  exact hmiddle.1 (List.mem_map.2 ⟨c, hc, heq⟩)

omit hs in
theorem deleteBooking_of_ledger {rest : Ledger} (hspace : s.spaceOf.get? id = some space)
    (hl : s.ledgers.get? space = some l) (hrest : l.remove? id = some rest) :
    s.deleteBooking id = .ok { s with
      ledgers := s.ledgers.insert space rest, spaceOf := s.spaceOf.erase id } := by
  simp [deleteBooking, withLedgerOf, hspace, hl, hrest]

/-- **A stored booking can be removed**, and all others stay. -/
theorem deleteBooking_of_mem (hold : old ∈ s.bookings) :
    ∃ s', s.deleteBooking old.id = .ok s' ∧ Exchange s (some old) none s' := by
  obtain ⟨l, rest, pre, post, hl, hrest, -⟩ := hs.remove?_of_mem hold
  have hok := deleteBooking_of_ledger (hs.spaceOf_of_mem hold) hl hrest
  refine ⟨_, hok, ?_⟩
  obtain ⟨o, hid, hx⟩ := deleteBooking_exchange hs hok
  rwa [hs.eq_of_id hx.gone_mem hold hid] at hx

/-- The ledgers of other spaces do not have the identifier of a booking. -/
theorem ne_of_ledger (hold : old ∈ s.bookings) (hl : s.ledgers.get? space = some l)
    (hne : old.space ≠ space) : ∀ c ∈ l.bookings.toList, c.id ≠ old.id := by
  intro c hc hid
  obtain ⟨hmem, hspace⟩ := (hs.mem_ledger_iff hl).1 hc
  exact hne (hs.eq_of_id hmem hold hid ▸ hspace)

/-- **Without a booking, a search finds what it found leaving that booking out.** -/
theorem findConflicts_of_deleteBooking (hold : old ∈ s.bookings)
    (h : s.deleteBooking old.id = .ok s') (space : Id) (query : Span) :
    s'.findConflicts space query none = s.findConflicts space query (some old.id) := by
  obtain ⟨l, rest, pre, post, hl, hrest, hsplit, hsplit', -, hsorted, hother⟩ :=
    hs.remove?_of_mem hold
  rw [deleteBooking_of_ledger (hs.spaceOf_of_mem hold) hl hrest] at h
  cases h
  simp only [findConflicts, Table.get?_insert]
  by_cases hspace : old.space = space
  · subst hspace
    rw [if_pos rfl, hl]
    exact (Ledger.conflicts_leftOut (hs.sorted hl) hsorted hsplit hsplit' hother query).symm
  · rw [if_neg hspace]
    cases ht : s.ledgers.get? space with
    | none => rfl
    | some target =>
      exact (Ledger.conflicts_of_ne (hs.sorted ht) (hs.ne_of_ledger hold ht hspace) query).symm

/-- **With a new booking, a search that leaves it out finds what it found before.** -/
theorem findConflicts_of_insertBooking (hfresh : ∀ c ∈ s.bookings, c.id ≠ b.id)
    (h : s.insertBooking b = .ok s') (space : Id) (query : Span) :
    s'.findConflicts space query (some b.id) = s.findConflicts space query none := by
  obtain ⟨l, hl, -, rfl⟩ := insertBooking_ok h
  have hother : ∀ {space l}, s.ledgers.get? space = some l → ∀ c ∈ l.bookings.toList, c.id ≠ b.id :=
    fun hl c hc => hfresh c (mem_bookings.2 ⟨_, _, hl, hc⟩)
  simp only [findConflicts, Table.get?_insert]
  by_cases hspace : b.space = space
  · subst hspace
    rw [if_pos rfl, hl]
    have hsorted := hs.sorted hl
    have hsplit := (List.takeWhile_append_dropWhile
      (p := fun c : Booking => decide (c.span.start < b.span.start)) (l := l.bookings.toList)).symm
    exact Ledger.conflicts_leftOut (hsorted.insert b) hsorted (Ledger.insert_toList hsorted b)
      hsplit (hsplit ▸ hother hl) query
  · rw [if_neg hspace]
    cases ht : s.ledgers.get? space with
    | none => rfl
    | some target => exact Ledger.conflicts_of_ne (hs.sorted ht) (hother ht) query

/-- **A stored booking can be taken out of its series**, and all others stay. -/
theorem clearSeriesLink_of_mem (hold : old ∈ s.bookings) :
    ∃ s', s.clearSeriesLink old.id = .ok s' ∧
      Exchange s (some old) (some { old with series := none }) s' := by
  obtain ⟨l, hl, hmem⟩ := hs.mem_bookings_iff.1 hold
  obtain ⟨l', hl'⟩ := Ledger.exists_modify? (fun b => { b with series := none }) ⟨old, hmem, rfl⟩
  have hok : s.clearSeriesLink old.id =
      .ok { s with ledgers := s.ledgers.insert old.space l' } := by
    simp [clearSeriesLink, withLedgerOf, hs.spaceOf_of_mem hold, hl, hl']
  refine ⟨_, hok, ?_⟩
  obtain ⟨o, hid, hx⟩ := clearSeriesLink_exchange hs hok
  rwa [hs.eq_of_id hx.gone_mem hold hid] at hx

/-- **Replacing a booking is removing it and adding the new one.** -/
theorem updateBooking_eq (hold : old ∈ s.bookings) (hid : old.id = b.id) :
    s.updateBooking b = (s.deleteBooking b.id).bind (·.insertBooking b) := by
  obtain ⟨l, rest, pre, post, hl, hrest, hsplit, hsplit', hloc, hsorted, hother⟩ :=
    hs.remove?_of_mem hold
  have hspace : s.spaceOf.get? b.id = some old.space := hid ▸ hs.spaceOf_of_mem hold
  have hdelete := deleteBooking_of_ledger hspace hl (hid ▸ hrest)
  rw [hdelete]
  simp only [Except.bind, updateBooking, hspace, insertBooking, Table.get?_insert]
  by_cases hsame : old.space = b.space
  · -- the new booking comes to the same ledger: what is left of it is searched
    have hconf := Ledger.conflicts_leftOut (hs.sorted hl) hsorted hsplit hsplit' hother b.span
    rw [hid] at hconf hrest
    rw [hsame] at hl
    simp only [hsame, if_true, hl, hconf]
    cases rest.conflicts b.span none with
    | cons holder _ => rfl
    | nil =>
      have hself : s.spaceOf.insert b.id b.space = s.spaceOf :=
        Table.insert_self (hsame ▸ hspace)
      simp [hrest, Table.insert_insert, Table.insert_erase, hself]
  · simp only [hsame, if_false]
    cases ht : s.ledgers.get? b.space with
    | none => rfl
    | some target =>
      -- no booking there has the identifier, so leaving it out makes no difference
      have hconf :=
        Ledger.conflicts_of_ne (hs.sorted ht) (hs.ne_of_ledger hold ht hsame) b.span
      rw [hid] at hconf hrest
      simp only [hl, hconf]
      cases target.conflicts b.span none with
      | cons holder _ => rfl
      | nil => simp [hrest, Table.insert_erase]

theorem exists_of_updateBooking_ok (h : s.updateBooking b = .ok s') :
    ∃ old ∈ s.bookings, old.id = b.id := by
  unfold updateBooking at h
  cases hspace : s.spaceOf.get? b.id with
  | none => simp [hspace] at h
  | some space =>
    obtain ⟨old, hold, hid, -⟩ := (hs.indexed _ _).1 hspace
    exact ⟨old, hold, hid⟩

/-- A replacement is an exchange, and the other bookings of the space leave the slot free. -/
theorem updateBooking_exchange (h : s.updateBooking b = .ok s') :
    ∃ old ∈ s.bookings, old.id = b.id ∧ Exchange s (some old) (some b) s' ∧
      ∀ c ∈ s.bookings, c.space = b.space → c.id ≠ b.id → ¬ c.span.overlaps b.span = true := by
  obtain ⟨old, hold, hid⟩ := hs.exists_of_updateBooking_ok h
  obtain ⟨s₁, hdelete, hx⟩ := hs.deleteBooking_of_mem hold
  rw [hs.updateBooking_eq hold hid, ← hid, hdelete] at h
  have hs₁ : s₁.Consistent := hx.consistent hs (by simp)
  refine ⟨old, hold, hid, hx.trans (insertBooking_exchange hs₁.toOrdered h) hid, ?_⟩
  intro c hc hspace hne
  obtain ⟨rest, hperm, hperm₁⟩ := hx.bookings
  refine insertBooking_free hs₁.toOrdered h c (hperm₁.mem_iff.2 ?_) hspace
  rcases List.mem_cons.1 (hperm.mem_iff.1 hc) with rfl | hr
  · exact absurd hid hne
  · exact hr

end Consistent

/-! ## Who holds a slot -/

/-- The booking on a space, one identifier left out, that overlaps a span and starts first. -/
structure FirstHolder (s : Store) (space : Id) (span : Span) (exclude : Option Id)
    (holder : Booking) : Prop where
  stored : holder ∈ s.bookings
  space_eq : holder.space = space
  overlaps : holder.span.overlaps span = true
  ne_exclude : some holder.id ≠ exclude
  first : ∀ b ∈ s.bookings, b.space = space → b.span.overlaps span = true → some b.id ≠ exclude →
    holder.span.start ≤ b.span.start

namespace Consistent

variable (hs : s.Consistent) {span : Span} {exclude : Option Id}

include hs

theorem firstHolder_of_findConflicts {holder : Booking} {rest : List Booking}
    (h : s.findConflicts space span exclude = holder :: rest) :
    s.FirstHolder space span exclude holder := by
  have hmem : holder ∈ s.findConflicts space span exclude := h ▸ List.mem_cons_self
  obtain ⟨hstored, hspace, hover, hne⟩ := hs.mem_findConflicts.1 hmem
  refine ⟨hstored, hspace, hover, hne, fun b hb hbspace hbover hbne => ?_⟩
  have hb' := hs.mem_findConflicts.2 ⟨hb, hbspace, hbover, hbne⟩
  unfold findConflicts at h hb'
  cases hl : s.ledgers.get? space with
  | none => simp [hl] at h
  | some l =>
    simp only [hl, Option.elim_some] at h hb'
    exact Ledger.start_le_of_conflicts (hs.sorted hl) h b hb'

/-- **A booking is not added where another one lies.** -/
theorem insertBooking_of_overlap {sp : Space} (hsp : s.spaces.get? b.space = some sp)
    (h : ∃ c ∈ s.bookings, c.space = b.space ∧ c.span.overlaps b.span = true) :
    ∃ holder, s.FirstHolder b.space b.span none holder ∧
      s.insertBooking b = .error (.conflict holder.id) := by
  obtain ⟨c, hc, hspace, hover⟩ := h
  obtain ⟨l, hl⟩ := hs.exists_ledger hsp
  have hmem : c ∈ s.findConflicts b.space b.span none :=
    hs.mem_findConflicts.2 ⟨hc, hspace, hover, by simp⟩
  cases hfound : s.findConflicts b.space b.span none with
  | nil => simp [hfound] at hmem
  | cons holder rest =>
    refine ⟨holder, hs.firstHolder_of_findConflicts hfound, ?_⟩
    rw [insertBooking_of_ledger hl, hfound]

/-- **A booking is not moved to where another one lies.** -/
theorem updateBooking_of_overlap {sp : Space} (hsp : s.spaces.get? b.space = some sp)
    (hold : old ∈ s.bookings) (hid : old.id = b.id)
    (h : ∃ c ∈ s.bookings, c.space = b.space ∧ c.span.overlaps b.span = true ∧ c.id ≠ b.id) :
    ∃ holder, s.FirstHolder b.space b.span (some b.id) holder ∧
      s.updateBooking b = .error (.conflict holder.id) := by
  obtain ⟨s₁, hdelete, hx⟩ := hs.deleteBooking_of_mem hold
  have hs₁ : s₁.Consistent := hx.consistent hs (by simp)
  obtain ⟨rest, hperm, hperm₁, hrest⟩ := hx.exists_rest hs
  simp only [Option.toList_none, List.nil_append, Option.toList_some, List.singleton_append]
    at hperm hperm₁
  -- the bookings that stay are those with other identifiers
  have hstay : ∀ c, c ∈ s₁.bookings ↔ c ∈ s.bookings ∧ c.id ≠ b.id := by
    intro c
    rw [hperm₁.mem_iff]
    constructor
    · intro hc
      exact ⟨(hrest c hc).1, fun heq => (hrest c hc).2 (by simp [hid, heq])⟩
    · rintro ⟨hc, hne⟩
      rcases List.mem_cons.1 (hperm.mem_iff.1 hc) with rfl | hc
      · exact absurd hid hne
      · exact hc
  obtain ⟨c, hc, hspace, hover, hne⟩ := h
  obtain ⟨holder, hholder, hinsert⟩ := hs₁.insertBooking_of_overlap (hx.setup.spaces ▸ hsp)
    ⟨c, (hstay c).2 ⟨hc, hne⟩, hspace, hover⟩
  have hstored := (hstay holder).1 hholder.stored
  refine ⟨holder, ⟨hstored.1, hholder.space_eq, hholder.overlaps, by simpa using hstored.2, ?_⟩, ?_⟩
  · intro d hd hdspace hdover hdne
    exact hholder.first d ((hstay d).2 ⟨hd, by simpa using hdne⟩) hdspace hdover (by simp)
  · rw [hs.updateBooking_eq hold hid, ← hid, hdelete]
    exact hinsert

end Consistent

end SpaceBooking.Store
