import SpaceBooking.Proofs.Runs

/-!
# No double booking

Whatever the search for conflicts reports and whichever calls fail, no instant of a space is booked
twice. The store looks for overlaps itself before each change; a request that was admitted by a
wrong report is turned down there.

* `book_of_overlap`, `rebook_of_overlap` — a slot that is taken stays with the one who holds it, and
  the answer names the holder that starts first.
* `no_double_booking` — the property of all runs.
-/

namespace SpaceBooking

open SpaceBooking.Action Service

variable {c : Conditions} {w : World} {actor : User}

/-- An action is turned down because of a holder and leaves the store as it was. -/
structure TurnedDown {α : Type} (x : Action Failure α) (c : Conditions) (w : World)
    (holder : Booking) : Prop where
  answer : (x c w).1 = .error (.alreadyBooked holder.id)
  kind : (Failure.alreadyBooked holder.id).kind = .conflict
  reason : (Failure.alreadyBooked holder.id).reason = some .slotConflict
  store : (x c w).2.store = w.store

theorem TurnedDown.of_answer {α : Type} {x : Action Failure α} [hx : Cautious x] {holder : Booking}
    (h : (x c w).1 = .error (.alreadyBooked holder.id)) : TurnedDown x c w holder :=
  ⟨h, rfl, rfl, (hx.untouched (Prod.ext h rfl : x c w = (_, (x c w).2))).store⟩

/-- **A request to book a slot that is taken** names the booking on it that starts first. -/
theorem book_of_overlap (hs : w.store.Consistent) {req : BookingRequest} {a : Admitted} {v : World}
    (hadm : admitNew actor req c w = (.ok a, v)) (hu : c.UpFrom v)
    (h : ∃ b ∈ w.store.bookings, b.space = req.space ∧ b.span.overlaps a.span = true) :
    ∃ holder, w.store.FirstHolder req.space a.span none holder ∧
      TurnedDown (book actor req) c w holder := by
  obtain ⟨hv, hctx, -⟩ := admitNew_ok hadm
  have hspace := contextAt_space hs.toOrdered hctx
  have hsp : w.store.spaces.get? a.ctx.space.id = some a.ctx.space := by
    rw [hspace]
    exact (contextAt_ok hctx).1
  obtain ⟨holder, hholder, hinsert⟩ := hs.insertBooking_of_overlap
    (b := a.booking (c.mint v.minted) (approvedAt v.store a.ctx)) hsp (by rwa [← hspace] at h)
  have hplace := placeNew_of_upFrom hu a
  rw [hv.store] at hplace hinsert
  simp only [hinsert] at hplace
  refine ⟨holder, hspace ▸ hholder, .of_answer ?_⟩
  rw [book, measured_fst, bind_of_ok hadm, hplace]
  rfl

/-- **A request to move a booking to a slot that is taken** by another names the one that starts
first. -/
theorem rebook_of_overlap (hs : w.store.Consistent) {id : Id} {req : BookingRequest}
    {old : Booking} {a : Admitted} {u v : World} (hold : storedBooking id c w = (.ok old, u))
    (hadm : admitChange actor old req c u = (.ok a, v)) (hu : c.UpFrom v)
    (h : ∃ b ∈ w.store.bookings, b.space = req.space ∧ b.span.overlaps a.span = true ∧ b.id ≠ id) :
    ∃ holder, w.store.FirstHolder req.space a.span (some id) holder ∧
      TurnedDown (rebook actor id req) c w holder := by
  obtain ⟨hw, hans⟩ := Reads.of_ok hold
  obtain ⟨hv, hctx, -⟩ := admitChange_ok hadm
  obtain ⟨hmem, rfl⟩ := hs.booking?_eq_some_iff.1 (booking?_of_answer hans)
  rw [hw.store] at hctx
  have hspace := contextAt_space hs.toOrdered hctx
  have hsp : w.store.spaces.get? a.ctx.space.id = some a.ctx.space := by
    rw [hspace]
    exact (contextAt_ok hctx).1
  obtain ⟨holder, hholder, hupdate⟩ := hs.updateBooking_of_overlap
    (b := changed v.store old a) hsp hmem rfl (by rwa [← hspace] at h)
  have hplace := placeChange_of_upFrom hu old a
  rw [hv.store, hw.store] at hplace hupdate
  simp only [hupdate] at hplace
  refine ⟨holder, hspace ▸ hholder, .of_answer ?_⟩
  rw [rebook, measured_fst, bind_of_ok hold, bind_of_ok hadm, hplace]
  rfl

/-- **Double booking is impossible.** In every run, with any calls failing and any conflicts
reported, bookings take time and no instant of a space is booked twice. A request that passed
admission although its slot is taken is turned down for the holder that starts first. -/
theorem no_double_booking (h : Reachable Step.Fresh w) :
    (∀ b ∈ w.store.bookings, b.span.start < b.span.stop) ∧
    (∀ space t,
      (w.store.bookings.filter fun b => b.space = space && b.span.contains t).length ≤ 1) ∧
    (∀ c actor req a v, admitNew actor req c w = (.ok a, v) → c.UpFrom v →
      (∃ b ∈ w.store.bookings, b.space = req.space ∧ b.span.overlaps a.span = true) →
      ∃ holder, w.store.FirstHolder req.space a.span none holder ∧
        TurnedDown (book actor req) c w holder) ∧
    (∀ c actor id req old a u v, storedBooking id c w = (.ok old, u) →
      admitChange actor old req c u = (.ok a, v) → c.UpFrom v →
      (∃ b ∈ w.store.bookings, b.space = req.space ∧ b.span.overlaps a.span = true ∧ b.id ≠ id) →
      ∃ holder, w.store.FirstHolder req.space a.span (some id) holder ∧
        TurnedDown (rebook actor id req) c w holder) := by
  refine ⟨h.exclusive.nonempty, h.exclusive.count_le_one, ?_, ?_⟩
  · intro c actor req a v hadm hu hoverlap
    exact book_of_overlap h.consistent hadm hu hoverlap
  · intro c actor id req old a u v hold hadm hu hoverlap
    exact rebook_of_overlap h.consistent hold hadm hu hoverlap

/-- The slot of the desk is asked for a second time, and no conflict is reported. -/
theorem no_double_booking_desk :
    Reachable Step.Fresh Sample.world ∧ ∃ a v holder,
      admitNew Sample.admin Sample.request Sample.stale Sample.world = (.ok a, v) ∧
        TurnedDown (book Sample.admin Sample.request) Sample.stale Sample.world holder := by
  have hpass : (admitNew Sample.admin Sample.request Sample.stale Sample.world).1.toOption.map
      (·.span) = some ⟨1000630800000, 1000641600000⟩ := by decide +kernel
  rcases hadm : admitNew Sample.admin Sample.request Sample.stale Sample.world with ⟨_ | a, v⟩
  · rw [hadm] at hpass
    cases hpass
  · rw [hadm] at hpass
    have hspan : a.span = ⟨1000630800000, 1000641600000⟩ := Option.some.inj hpass
    have hoverlap : ∃ b ∈ Sample.world.store.bookings, b.space = Sample.request.space ∧
        b.span.overlaps ⟨1000630800000, 1000641600000⟩ = true := by decide +kernel
    obtain ⟨-, -, hbook, -⟩ := no_double_booking Sample.reachable_fresh
    obtain ⟨holder, -, hdown⟩ := hbook Sample.stale Sample.admin Sample.request a v hadm
      (fun _ _ _ => rfl) (hspan ▸ hoverlap)
    exact ⟨Sample.reachable_fresh, a, v, holder, rfl, hdown⟩

end SpaceBooking
