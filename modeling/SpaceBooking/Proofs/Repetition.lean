import SpaceBooking.Proofs.Exclusion
import SpaceBooking.Proofs.GatedSpaces

/-!
# Repeating a change

A change that was carried out can be asked for again. The booking is in another place by then and is
left out from there, so admission finds what it found before; and a booking that came to another
space, where it was decided anew whether it waits for approval, now stays on its space as it is.

* `Ledger.remove?_insert`, `Store.Consistent.deleteBooking_of_insertBooking` — removing what was
  added leads back.
* `Store.Consistent.updateBooking_again`, `Store.Consistent.agreeBut_of_updateBooking` — replacing a
  booking by itself changes nothing, and a replacement is not seen by who leaves the booking out.
* `changeAt_eq` — what admission makes of a change, before and after it.
* `rebook_again` — the same call ends with the same booking, stores nothing new, and publishes the
  update once more.
-/

namespace SpaceBooking

open SpaceBooking.Action

/-! ## Adding and removing -/

/-- Taking out what was put in leads back to the ledger. -/
theorem Ledger.remove?_insert {l : Ledger} {b : Booking} (h : l.Sorted)
    (hfresh : ∀ c ∈ l.bookings.toList, c.id ≠ b.id) : (l.insert b).remove? b.id = some l := by
  have hinsert := insert_toList h b
  obtain ⟨l', hremove⟩ : ∃ l', (l.insert b).remove? b.id = some l' :=
    exists_remove? ⟨b, by simp [hinsert], rfl⟩
  obtain ⟨pre, gone, post, hsplit, hid, hleft, hloc⟩ := exists_of_remove? hremove
  -- the bookings with other identifiers are those of the ledger, and no more than are left
  have hothers : l.bookings.toList = (pre ++ post).filter fun c => c.id ≠ b.id := by
    have hfilter := congrArg (List.filter fun c => c.id ≠ b.id) (hinsert.symm.trans hsplit)
    rw [List.filter_append, List.filter_append, List.filter_cons_of_neg (by simp),
      List.filter_cons_of_neg (by simp [hid]), ← List.filter_append, ← List.filter_append,
      List.takeWhile_append_dropWhile, List.filter_eq_self.2 (by simpa using hfresh)] at hfilter
    exact hfilter
  have hlength : (pre ++ post).length = l.bookings.toList.length := by
    have hperm := (insert_perm h b).length_eq
    rw [hsplit, List.perm_middle.length_eq] at hperm
    simpa using hperm
  have hlist : l'.bookings.toList = l.bookings.toList := by
    rw [hleft, hothers]
    exact ((List.filter_sublist).eq_of_length (hothers ▸ hlength.symm)).symm
  rw [hremove]
  rcases l with ⟨location, bookings⟩
  rcases l' with ⟨location', bookings'⟩
  obtain rfl : location' = location := hloc
  obtain rfl : bookings' = bookings := Array.toList_inj.1 hlist
  rfl

namespace Store.Consistent

variable {s s' : Store} {b : Booking} (hs : s.Consistent)

include hs

/-- **Removing a booking that was just added leads back to the store.** -/
theorem deleteBooking_of_insertBooking (hfresh : ∀ c ∈ s.bookings, c.id ≠ b.id)
    (h : s.insertBooking b = .ok s') : s'.deleteBooking b.id = .ok s := by
  obtain ⟨l, hl, -, rfl⟩ := insertBooking_ok h
  have hremove : (l.insert b).remove? b.id = some l :=
    Ledger.remove?_insert (hs.sorted hl) fun c hc => hfresh c (mem_bookings.2 ⟨_, l, hl, hc⟩)
  have hindex : (s.spaceOf.insert b.id b.space).get? b.id = some b.space := by
    simp [Table.get?_insert]
  have hunknown : s.spaceOf.get? b.id = none := by
    cases hfound : s.spaceOf.get? b.id with
    | none => rfl
    | some space =>
      obtain ⟨c, hc, hid, -⟩ := (hs.indexed _ _).1 hfound
      exact absurd hid (hfresh c hc)
  rw [deleteBooking_of_ledger hindex (by rw [Table.get?_insert, if_pos rfl]) hremove]
  simp only [Table.insert_insert, Table.insert_self hl, Table.erase_insert hunknown]

/-- A replacement as a removal and an addition. -/
theorem exists_of_updateBooking (h : s.updateBooking b = .ok s') :
    ∃ s₁, s₁.Consistent ∧ s₁.insertBooking b = .ok s' ∧ (∀ c ∈ s₁.bookings, c.id ≠ b.id) ∧
      AgreeBut s (some b.id) s₁ none := by
  obtain ⟨old, hold, hid⟩ := hs.exists_of_updateBooking_ok h
  obtain ⟨s₁, hdelete, hx⟩ := hs.deleteBooking_of_mem hold
  rw [hs.updateBooking_eq hold hid, ← hid, hdelete] at h
  obtain ⟨rest, -, hperm, hrest⟩ := hx.exists_rest hs
  refine ⟨s₁, hx.consistent hs (by simp), h, ?_, hid ▸ hs.agreeBut_of_deleteBooking hold hdelete⟩
  intro c hc heq
  exact (hrest c (hperm.mem_iff.1 hc)).2 (by simp [hid, heq])

theorem mem_of_updateBooking (h : s.updateBooking b = .ok s') : b ∈ s'.bookings := by
  obtain ⟨old, -, -, hx, -⟩ := hs.updateBooking_exchange h
  obtain ⟨rest, -, hperm⟩ := hx.bookings
  exact hperm.mem_iff.2 (by simp)

/-- **A booking that was replaced can be replaced by the same again, which changes nothing.** -/
theorem updateBooking_again (h : s.updateBooking b = .ok s') : s'.updateBooking b = .ok s' := by
  obtain ⟨s₁, hs₁, hinsert, hfresh, -⟩ := hs.exists_of_updateBooking h
  rw [(hs.updateBooking h).updateBooking_eq (hs.mem_of_updateBooking h) rfl,
    hs₁.deleteBooking_of_insertBooking hfresh hinsert]
  exact hinsert

/-- **Who leaves a booking out does not see that it was replaced.** -/
theorem agreeBut_of_updateBooking (h : s.updateBooking b = .ok s') :
    AgreeBut s (some b.id) s' (some b.id) := by
  obtain ⟨s₁, hs₁, hinsert, hfresh, hgone⟩ := hs.exists_of_updateBooking h
  exact hgone.trans (hs₁.agreeBut_of_insertBooking hfresh hinsert)

end Store.Consistent

/-! ## Admission of a change -/

namespace Service

variable {c : Conditions} {s s' : Store} {w w' : World} {actor : User} {id owner : Id}
  {old b : Booking} {req : BookingRequest} {a : Admitted}

/-- Whether a user is the actor or belongs to the actor's organization. -/
def knownAt (s : Store) (actor : User) (id : Id) : Except Failure Unit :=
  if id = actor.id then .ok ()
  else
    match s.users.get? id with
    | none => .error (.notFound id)
    | some user => if user.org = actor.org then .ok () else .error (.notFound id)

@[simp] theorem answer_knownUser (actor : User) (id : Id) (c : Conditions) (s : Store) :
    (knownUser actor id).answer c s = knownAt s actor id := by
  simp only [knownUser, Repository.user?, answer_ite, answer_bind, answer_lift, answer_ask,
    answer_ofOption, answer_ensure, answer_pure, Except.mapError, Except.bind, knownAt,
    decide_eq_true_eq]
  cases s.users.get? id <;> rfl

/-- What admission makes of the request to change the booking `id` of `owner`. -/
def changeAt (c : Conditions) (s : Store) (actor : User) (id owner : Id) (req : BookingRequest) :
    Except Failure Admitted :=
  (contextAt c s actor req.space).bind fun ctx =>
    (knownAt s actor owner).bind fun _ =>
      (spanAt ctx.zone req.enter req.leave).bind fun span =>
        (checked (Limits.subjectFailure? ctx.space req.subject)).bind fun _ =>
          (checked (obstacle? c s ctx actor owner span (some id) [])).map fun _ =>
            { ctx, owner, span, subject := req.subject }

/-- A change is admitted if the actor sees the booking and may change it, and the rest of the checks
pass, which are not told where the booking lies. -/
theorem answer_admitChange (actor : User) (old : Booking) (req : BookingRequest) (c : Conditions)
    (s : Store) :
    (admitChange actor old req).answer c s =
      (contextAt c s actor old.space).bind fun _ =>
        if old.owner = actor.id || actor.isSpaceAdmin then changeAt c s actor old.id old.owner req
        else .error (.forbidden "not the booking owner") := by
  simp only [admitChange, answer_bind, answer_spaceContext, answer_ensure, answer_knownUser,
    answer_requestSpan, answer_refuse, answer_checkAdmission, answer_pure, changeAt]
  cases contextAt c s actor old.space with
  | error failure => rfl
  | ok ctx => cases (decide (old.owner = actor.id) || actor.isSpaceAdmin) <;> rfl

/-- **Stores that agree but for the booking make the same of its change.** -/
theorem changeAt_eq (h : Store.AgreeBut s (some id) s' (some id)) (hs : s.Ordered)
    (hs' : s'.Ordered) (c : Conditions) (actor : User) (owner : Id) (req : BookingRequest) :
    changeAt c s' actor id owner req = changeAt c s actor id owner req := by
  have hknown : knownAt s' actor owner = knownAt s actor owner := by
    simp only [knownAt, h.setup.users]
  have hobstacle (ctx : SpaceContext) (span : Span) :
      obstacle? c s' ctx actor owner span (some id) [] =
        obstacle? c s ctx actor owner span (some id) [] :=
    (h.obstacle?_eq hs hs' (.inl ⟨rfl, rfl⟩)).symm
  simp only [changeAt, contextAt_of_sameSetup h.setup, hknown, hobstacle]

/-- Without failing calls, what the store says to an admitted change is the answer. -/
theorem rebook_of_reliable (hc : c.Reliable) (hfound : w.store.booking? id = some old)
    (hpass : (admitChange actor old req).answer c w.store = .ok a) :
    (rebook actor id req c w).1 =
      ((w.store.updateBooking (changed w.store old a)).mapError Failure.ofStore).map fun _ =>
        changed w.store old a := by
  obtain ⟨u, hu, hold⟩ := Reads.of_reliable (x := storedBooking id) hc w
  obtain ⟨v, hv, hrun⟩ := Reads.of_reliable (x := admitChange actor old req) hc u
  rw [answer_storedBooking, hfound] at hold
  rw [hu.store, hpass] at hrun
  rw [rebook, measured_fst, bind_of_ok hold, bind_of_ok hrun,
    placeChange_of_upFrom (hc.upFrom v), (hu.trans hv).store]

/-! ## The same call again -/

/-- **A change that was carried out can be repeated.** In every world that can be reached, with a
store in order, the same call ends with the same booking, leaves the store as it is, and publishes
the update again but no request for approval. -/
theorem rebook_again (h : Attainable w) (hc : c.Reliable)
    (hrun : rebook actor id req c w = (.ok b, w')) :
    ∃ w'', rebook actor id req c w' = (.ok b, w'') ∧ w''.store = w'.store ∧
      w''.published = w'.published ++ [.booking .updated b] := by
  have hs := h.consistent
  obtain ⟨old, u, a, v, -, hpass, hu, hv, hfound, hb, s', hupdate, hw'⟩ := rebook_ok hrun
  have hs' : s'.Consistent := hs.updateBooking hupdate
  -- where the booking is now, and what stays of it
  have hid : b.id = old.id := by rw [hb]; rfl
  have howner : b.owner = old.owner := by rw [hb]; rfl
  have hspace : b.space = a.ctx.space.id := by rw [hb]; rfl
  obtain rfl : old.id = id := (hs.booking?_eq_some_iff.1 hfound).2
  have hplaced : s'.booking? old.id = some b :=
    hs'.booking?_eq_some_iff.2 ⟨hs.mem_of_updateBooking hupdate, hid⟩
  -- admission finds what it found
  have hagree : w.store.AgreeBut (some old.id) s' (some old.id) :=
    hid ▸ hs.agreeBut_of_updateBooking hupdate
  obtain ⟨-, hctx, -⟩ := admitChange_ok hpass
  have hans := Reads.answer_of_run hc hpass
  rw [hu.store] at hctx hans
  have hnamed : a.ctx.space.id = req.space := contextAt_space hs.toOrdered hctx
  have hagain : (admitChange actor b req).answer c s' = .ok a := by
    rw [answer_admitChange] at hans ⊢
    rw [hspace, hnamed, contextAt_of_sameSetup hagree.setup, hctx, howner, hid,
      changeAt_eq hagree hs.toOrdered hs'.toOrdered]
    cases hseen : contextAt c w.store actor old.space with
    | error failure =>
      rw [hseen] at hans
      cases hans
    | ok ctx =>
      rw [hseen] at hans
      exact hans
  -- the booking is on the space that was asked for, so its approval is copied
  have hchanged : changed w'.store b a = b := by
    rw [changed, if_pos hspace]
    rw [hb]
    rfl
  have hanswer : (rebook actor old.id req c w').1 = .ok b := by
    rw [rebook_of_reliable hc (hw'.store ▸ hplaced) (hw'.store ▸ hagain), hchanged, hw'.store,
      hs.updateBooking_again hupdate]
    rfl
  obtain ⟨w'', hrun'⟩ : ∃ w'', rebook actor old.id req c w' = (.ok b, w'') :=
    ⟨_, Prod.ext hanswer rfl⟩
  obtain ⟨old', -, -, -, -, -, -, -, hfound', -, s'', hupdate', hw''⟩ := rebook_ok hrun'
  rw [hw'.store] at hfound' hupdate'
  cases hplaced.symm.trans hfound'
  cases (hs.updateBooking_again hupdate).symm.trans hupdate'
  refine ⟨w'', hrun', hw''.store.trans hw'.store.symm, ?_⟩
  rw [hw''.published, movedEvents]
  simp

end Service

namespace Sample

/-- The room is booked; the desk, which has approvers, is free. -/
def roomWorld : World :=
  [.request conditions (.book admin { request with space := room.id })].foldl Step.apply gatedWorld

theorem attainable_roomWorld : Attainable roomWorld := by
  have hgated : Reachable Step.Fresh gatedWorld := Reachable.initial.steps (by decide +kernel)
  have hroom : Reachable Step.Fresh roomWorld := hgated.steps (by decide +kernel)
  exact hroom.attainable

/-- The booking after it moved to the desk. -/
def onDesk : Booking :=
  ⟨.ofNat 100, admin.id, desk.id, ⟨1000641600000, 1000645200000⟩, "", false, none, none⟩

end Sample

namespace Service

/-- The booking moves from the room to the desk and has to be approved there. Moved to the desk
again, it still waits, and nobody is asked twice. -/
theorem rebook_again_desk :
    Attainable Sample.roomWorld ∧ Sample.conditions.Reliable ∧ ∃ b w' w'',
      rebook Sample.admin (.ofNat 100) Sample.later Sample.conditions Sample.roomWorld =
        (.ok b, w') ∧
      w'.published = Sample.roomWorld.published ++
        [.booking .updated b, .booking .approvalRequested b] ∧
      rebook Sample.admin (.ofNat 100) Sample.later Sample.conditions w' = (.ok b, w'') ∧
      w''.store = w'.store ∧ w''.published = w'.published ++ [.booking .updated b] := by
  have hanswer : (rebook Sample.admin (.ofNat 100) Sample.later Sample.conditions
      Sample.roomWorld).1 = .ok Sample.onDesk := by decide +kernel
  have hpublished : (rebook Sample.admin (.ofNat 100) Sample.later Sample.conditions
      Sample.roomWorld).2.published = Sample.roomWorld.published ++
        [.booking .updated Sample.onDesk, .booking .approvalRequested Sample.onDesk] := by
    decide +kernel
  generalize hrun : rebook Sample.admin (.ofNat 100) Sample.later Sample.conditions
    Sample.roomWorld = run at hanswer hpublished
  obtain ⟨answer, w'⟩ := run
  obtain rfl : answer = .ok Sample.onDesk := hanswer
  obtain ⟨w'', hagain, hstore, hagainPublished⟩ :=
    rebook_again Sample.attainable_roomWorld Sample.reliable hrun
  exact ⟨Sample.attainable_roomWorld, Sample.reliable, Sample.onDesk, w', w'', rfl, hpublished,
    hagain, hstore, hagainPublished⟩

end Service

end SpaceBooking
