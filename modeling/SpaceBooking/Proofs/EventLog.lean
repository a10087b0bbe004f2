import Mathlib.Logic.Function.Basic
import SpaceBooking.Proofs.GatedSpaces
import SpaceBooking.Proofs.SeriesFailure

/-!
# The log of events

Whoever starts from the bookings at some time and follows all events from then on knows the bookings
at any later time, with all that they say. This takes that no call fails in between, since a series
can be given up halfway, and that no space is deleted, which is not announced.

* `replayAll` — what somebody knows after reading some events.
* `replayAll_created`, `replayAll_deletions` — reading what is published about a new series, and
  about one that is given up.
* `Announced` — the five ways in which the bookings of two stores can differ, with the events that
  say so.
* `Step.announces` — every step of an orderly run is announced like this.
* `event_log_complete` — the events of an orderly run give the bookings.
-/

namespace SpaceBooking

open SpaceBooking.Action Service Relation

/-! ## Reading events -/

namespace Event

/-- What somebody who knew some bookings knows after an event. -/
def replay (known : Id → Option Booking) : Event → Id → Option Booking
  | booking .created b | booking .updated b | booking .approved b =>
    Function.update known b.id (some b)
  | booking .deleted b | booking .declined b => Function.update known b.id none
  | booking .approvalRequested _ | seriesCreated .. => known
  | seriesDeleted series .. => fun id => (known id).map fun b =>
    if b.series = some series then { b with series := none } else b

/-- What is announced as moved or approved is known as announced. -/
theorem replay_put {change : BookingChange} (h : change = .updated ∨ change = .approved)
    (known : Id → Option Booking) (b : Booking) :
    (booking change b).replay known = Function.update known b.id (some b) := by
  rcases h with rfl | rfl <;> rfl

/-- What is announced as deleted or declined is not known any more. -/
theorem replay_gone {change : BookingChange} (h : change = .deleted ∨ change = .declined)
    (known : Id → Option Booking) (b : Booking) :
    (booking change b).replay known = Function.update known b.id none := by
  rcases h with rfl | rfl <;> rfl

/-- The event is about no change of a booking. -/
def Quiet : Event → Prop
  | booking .approvalRequested _ | seriesCreated .. => True
  | _ => False

theorem Quiet.replay {e : Event} (h : e.Quiet) (known : Id → Option Booking) :
    e.replay known = known := by
  cases e with
  | booking change b =>
    cases change with
    | approvalRequested => rfl
    | created | updated | deleted | approved | declined => cases h
  | seriesCreated => rfl
  | seriesDeleted => cases h

end Event

/-- What somebody who knew some bookings knows after some events. -/
def replayAll (known : Id → Option Booking) (es : List Event) : Id → Option Booking :=
  es.foldl Event.replay known

section Reading

variable (known : Id → Option Booking)

@[simp] theorem replayAll_nil : replayAll known [] = known := rfl

theorem replayAll_cons (e : Event) (es : List Event) :
    replayAll known (e :: es) = replayAll (e.replay known) es := rfl

theorem replayAll_append (es es' : List Event) :
    replayAll known (es ++ es') = replayAll (replayAll known es) es' :=
  List.foldl_append

theorem replayAll_quiet {es : List Event} (h : ∀ e ∈ es, e.Quiet) :
    replayAll known es = known := by
  induction es with
  | nil => rfl
  | cons e es ih =>
    rw [replayAll_cons, (h e List.mem_cons_self).replay]
    exact ih fun e' he' => h e' (List.mem_cons_of_mem e he')

/-- A new booking is known from then on. -/
theorem replayAll_createdEvents (b : Booking) :
    replayAll known (createdEvents b) = Function.update known b.id (some b) := by
  rw [createdEvents, replayAll_cons]
  refine replayAll_quiet _ fun e he => ?_
  split at he
  · cases he
  · cases List.mem_singleton.1 he
    exact True.intro

/-- Of some new bookings, the one with an identifier is known. -/
theorem replayAll_created {bs : List Booking} (hdistinct : (bs.map (·.id)).Nodup) (id : Id) :
    replayAll known (bs.flatMap createdEvents) id = (bs.find? (·.id = id)).or (known id) := by
  induction bs generalizing known with
  | nil => rfl
  | cons b bs ih =>
    rw [List.map_cons, List.nodup_cons] at hdistinct
    obtain ⟨hnew, hrest⟩ := hdistinct
    rw [List.flatMap_cons, replayAll_append, replayAll_createdEvents, ih _ hrest]
    by_cases hid : b.id = id
    · -- no later booking takes its place
      have hnone : bs.find? (·.id = id) = none := by
        rw [List.find?_eq_none]
        intro d hd heq
        have hdid : d.id = b.id := (of_decide_eq_true heq).trans hid.symm
        exact hnew (hdid ▸ List.mem_map_of_mem hd)
      rw [List.find?_cons_of_pos (by simpa using hid), hnone, Option.none_or, ← hid,
        Function.update_self, Option.some_or]
    · rw [List.find?_cons_of_neg (by simpa using hid), Function.update_of_ne (Ne.symm hid)]

/-- Bookings that were deleted are not known any more. -/
theorem replayAll_deletions (now : Int) (bs : List Booking) (id : Id) :
    replayAll known (deletions now bs) id =
      if ∃ b ∈ bs, b.ahead now = true ∧ b.id = id then none else known id := by
  induction bs generalizing known with
  | nil => simp [deletions]
  | cons b bs ih =>
    by_cases hahead : b.ahead now = true
    · have hcons : deletions now (b :: bs) = .booking .deleted b :: deletions now bs := by
        simp only [deletions, List.filter_cons_of_pos hahead, List.map_cons]
      rw [hcons, replayAll_cons, ih]
      by_cases hid : b.id = id
      · have hgone : Event.replay known (.booking .deleted b) id = none := by
          rw [← hid]
          exact Function.update_self ..
        rw [hgone, ite_self, if_pos ⟨b, List.mem_cons_self, hahead, hid⟩]
      · have hkept : Event.replay known (.booking .deleted b) id = known id :=
          Function.update_of_ne (Ne.symm hid) ..
        simp only [hkept, List.mem_cons, exists_eq_or_imp, hid, and_false, false_or]
    · have hcons : deletions now (b :: bs) = deletions now bs := by
        simp only [deletions, List.filter_cons_of_neg hahead]
      simp only [hcons, ih, List.mem_cons, exists_eq_or_imp, hahead, Bool.false_eq_true, false_and,
        false_or]

end Reading

/-! ## What is announced -/

namespace Store

variable {s s' : Store} {b d : Booking} {bs : List Booking} {id : Id}

/-- The ways in which the bookings of a store can change in one go, with the events that say so. -/
inductive Announced (s s' : Store) : List Event → Prop where
  | nothing : s'.booking? = s.booking? → Announced s s' []
  | made (bs : List Booking) (rest : List Event) : (bs.map (·.id)).Nodup →
      (∀ b ∈ bs, s.booking? b.id = none) →
      (∀ id, s'.booking? id = (bs.find? (·.id = id)).or (s.booking? id)) →
      (∀ e ∈ rest, e.Quiet) → Announced s s' (bs.flatMap createdEvents ++ rest)
  | replaced (change : BookingChange) (old b : Booking) (rest : List Event) :
      change = .updated ∨ change = .approved → s.booking? b.id = some old →
      (∀ id, s'.booking? id = if id = b.id then some b else s.booking? id) →
      (∀ e ∈ rest, e.Quiet) → Announced s s' (.booking change b :: rest)
  | removed (change : BookingChange) (b : Booking) : change = .deleted ∨ change = .declined →
      s.booking? b.id = some b →
      (∀ id, s'.booking? id = if id = b.id then none else s.booking? id) →
      Announced s s' [.booking change b]
  /-- A series was given up, of which `bs` were the bookings. -/
  | released (series space : Id) (now : Int) (bs : List Booking) (removed detached : Nat) :
      (∀ b, b ∈ bs ↔ s.booking? b.id = some b ∧ b.series = some series) →
      (∀ id, s'.booking? id = (s.booking? id).bind (·.released series now)) →
      Announced s s' (deletions now bs ++ [.seriesDeleted series space removed detached])

/-- Whether a booking that is stored is among those of a series. -/
theorem exists_linked_iff {series : Id}
    (hbs : ∀ b, b ∈ bs ↔ s.booking? b.id = some b ∧ b.series = some series)
    (hb : s.booking? id = some b) (p : Booking → Prop) :
    (∃ d ∈ bs, p d ∧ d.id = id) ↔ b.series = some series ∧ p b := by
  constructor
  · rintro ⟨d, hd, hp, rfl⟩
    obtain ⟨hstored, hseries⟩ := (hbs d).1 hd
    rw [hb] at hstored
    cases hstored
    exact ⟨hseries, hp⟩
  · rintro ⟨hseries, hp⟩
    have hid := booking?_id hb
    subst hid
    exact ⟨b, (hbs b).2 ⟨hb, hseries⟩, hp, rfl⟩

/-- **Whoever knew the bookings before knows them after the events.** -/
theorem Announced.replay {es : List Event} (h : Announced s s' es) :
    replayAll s.booking? es = s'.booking? := by
  funext id
  cases h with
  | nothing hsame => rw [replayAll_nil, hsame]
  | made bs rest hdistinct _ hafter hquiet =>
    rw [replayAll_append, replayAll_quiet _ hquiet, replayAll_created _ hdistinct, hafter]
  | replaced change old b rest hchange _ hafter hquiet =>
    rw [replayAll_cons, replayAll_quiet _ hquiet, Event.replay_put hchange, Function.update_apply,
      hafter]
  | removed change b hchange _ hafter =>
    rw [replayAll_cons, replayAll_nil, Event.replay_gone hchange, Function.update_apply, hafter]
  | released series space now bs removed detached hbs hafter =>
    rw [replayAll_append, hafter]
    show (replayAll s.booking? (deletions now bs) id).map _ = _
    rw [replayAll_deletions]
    cases hfound : s.booking? id with
    | none => simp
    | some b =>
      simp only [exists_linked_iff hbs hfound (·.ahead now = true), Option.bind_some,
        Booking.released]
      by_cases hseries : b.series = some series
      · by_cases hahead : b.ahead now = true <;> simp [hseries, hahead]
      · simp [hseries]

theorem DiffersAt.booking?_eq {gone new : Option Booking} (h : s.DiffersAt id gone new s')
    (k : Id) : s'.booking? k = if k = id then new else s.booking? k := by
  split
  · rename_i hk
    rw [hk, h.after]
  · rename_i hk
    exact h.others k hk

/-- Bookings that were added to a store are made. -/
theorem Announced.of_perm (hs : s.Consistent) (hs' : s'.Consistent)
    (hperm : s'.bookings.Perm (bs ++ s.bookings)) {rest : List Event}
    (hquiet : ∀ e ∈ rest, e.Quiet) :
    Announced s s' (bs.flatMap createdEvents ++ rest) := by
  have hdistinct := (hperm.map (·.id)).nodup_iff.1 hs'.distinct
  rw [List.map_append, List.nodup_append] at hdistinct
  obtain ⟨hnodup, -, hapart⟩ := hdistinct
  have hnew : ∀ b ∈ bs, s.booking? b.id = none := by
    intro b hb
    refine hs.booking?_eq_none_iff.2 fun d hd heq => ?_
    exact hapart b.id (List.mem_map_of_mem hb) d.id (List.mem_map_of_mem hd) heq.symm
  refine .made bs rest hnodup hnew (fun id => ?_) hquiet
  cases hfind : bs.find? (·.id = id) with
  | some b =>
    have hb : b ∈ bs := List.mem_of_find?_eq_some hfind
    have hid : b.id = id := by simpa using List.find?_some hfind
    rw [Option.some_or]
    exact hs'.booking?_eq_some_iff.2 ⟨hperm.mem_iff.2 (List.mem_append_left _ hb), hid⟩
  | none =>
    rw [List.find?_eq_none] at hfind
    rw [Option.none_or]
    ext d
    rw [hs'.booking?_eq_some_iff, hs.booking?_eq_some_iff, hperm.mem_iff, List.mem_append]
    constructor
    · rintro ⟨hd | hd, hid⟩
      · exact absurd (decide_eq_true hid) (hfind d hd)
      · exact ⟨hd, hid⟩
    · rintro ⟨hd, hid⟩
      exact ⟨.inr hd, hid⟩

/-- A store with the same bookings finds the same. -/
theorem Consistent.booking?_of_perm (hs : s.Consistent) (hs' : s'.Consistent)
    (hperm : s'.bookings.Perm s.bookings) : s'.booking? = s.booking? := by
  funext id
  ext d
  rw [hs'.booking?_eq_some_iff, hs.booking?_eq_some_iff, hperm.mem_iff]

/-- Releasing the bookings of a series acts on each booking by itself. -/
theorem Consistent.booking?_of_released (hs : s.Consistent) (hs' : s'.Consistent) {series : Id}
    {now : Int} (hperm : s'.bookings.Perm (s.bookings.filterMap (·.released series now)))
    (id : Id) : s'.booking? id = (s.booking? id).bind (·.released series now) := by
  ext d
  rw [hs'.booking?_eq_some_iff, hperm.mem_iff, List.mem_filterMap, Option.bind_eq_some_iff]
  constructor
  · rintro ⟨⟨b, hb, hleft⟩, rfl⟩
    have hid : b.id = d.id := by
      rw [(Booking.of_released hleft).2]
    exact ⟨b, hs.booking?_eq_some_iff.2 ⟨hb, hid⟩, hleft⟩
  · rintro ⟨b, hb, hleft⟩
    obtain ⟨hmem, hid⟩ := hs.booking?_eq_some_iff.1 hb
    have hdid : d.id = b.id := by
      rw [(Booking.of_released hleft).2]
    exact ⟨⟨b, hmem, hleft⟩, hdid.trans hid⟩

end Store

/-! ## Requests -/

variable {c : Conditions} {w w' v : World} {actor : User} {id : Id}

/-- What changed between two worlds was published. -/
def World.Announces (w w' : World) : Prop :=
  ∃ es, w'.published = w.published ++ es ∧ w.store.Announced w'.store es

theorem World.Untouched.announces (h : w.Untouched w') : w.Announces w' := by
  refine ⟨[], ?_, .nothing ?_⟩
  · rw [h.published, List.append_nil]
  · rw [h.store]

namespace Service

/-- An action that fails without a trace announces what it does, if its good ends show so. -/
theorem announces_of_ok {α : Type} {x : Action Failure α} [hx : Cautious x]
    (h : ∀ a w', x c w = (.ok a, w') → w.Announces w') : w.Announces (x c w).2 := by
  rcases hrun : x c w with ⟨failure | a, w'⟩
  · exact (hx.untouched hrun).announces
  · exact h a w' hrun

theorem book_announces (hs : w.store.Consistent) {req : BookingRequest}
    (hs' : (book actor req c w).2.store.Consistent) : w.Announces (book actor req c w).2 := by
  refine announces_of_ok fun b w' hrun => ?_
  rw [hrun] at hs'
  obtain ⟨a, v, -, -, -, s, hinsert, hw'⟩ := book_ok hrun
  have hx := Store.insertBooking_exchange hs.toOrdered hinsert
  obtain ⟨rest, hperm, hperm'⟩ := hx.bookings
  rw [← hw'.store] at hperm'
  have hadded : w'.store.bookings.Perm ([b] ++ w.store.bookings) :=
    hperm'.trans (hperm.symm.append_left [b])
  have hquiet : ∀ e ∈ ([] : List Event), e.Quiet := by simp
  have hmade := Store.Announced.of_perm hs hs' hadded hquiet
  have hevents : [b].flatMap createdEvents ++ [] = createdEvents b := by simp
  rw [hevents] at hmade
  exact ⟨createdEvents b, hw'.published, hmade⟩

theorem rebook_announces (hs : w.store.Consistent) {req : BookingRequest} :
    w.Announces (rebook actor id req c w).2 := by
  refine announces_of_ok fun b w' hrun => ?_
  obtain ⟨-, -, old, hcontinues, hdiffers⟩ := (rebook_allOrNothing hs actor id req).all hrun
  obtain ⟨old', u, a, v, -, -, -, -, hold', -, s, -, hw'⟩ := rebook_ok hrun
  have hbefore := hdiffers.before
  rw [hbefore] at hold'
  cases hold'
  have hid : b.id = id := hcontinues.id.trans (Store.booking?_id hbefore)
  subst hid
  refine ⟨movedEvents old b, hw'.published, ?_⟩
  refine .replaced .updated old b _ (.inl rfl) hbefore hdiffers.booking?_eq fun e he => ?_
  split at he
  · cases List.mem_singleton.1 he
    exact True.intro
  · cases he

theorem approve_announces (hs : w.store.Consistent) : w.Announces (approve actor id c w).2 := by
  refine announces_of_ok fun b w' hrun => ?_
  obtain ⟨old, hb, hdiffers⟩ := (approve_allOrNothing hs actor id).all hrun
  obtain ⟨_, s, -, -, -, hw'⟩ := approve_ok hrun
  have hid : b.id = id := by
    rw [hb]
    show old.id = id
    exact Store.booking?_id hdiffers.before
  subst hid
  exact ⟨[.booking .approved b], hw'.published,
    .replaced .approved old b [] (.inr rfl) hdiffers.before hdiffers.booking?_eq (by simp)⟩

/-- A booking that was deleted and announced so. -/
theorem announces_of_deleteBooking (hs : w.store.Consistent) {b : Booking} {s : Store}
    {change : BookingChange} (hchange : change = .deleted ∨ change = .declined)
    (hb : w.store.booking? id = some b) (hdelete : w.store.deleteBooking id = .ok s)
    (hw' : w'.Holds s w.minted (w.published ++ [.booking change b])) : w.Announces w' := by
  have hid := Store.booking?_id hb
  subst hid
  have hdiffers := hs.deleteBooking_differsAt hb hdelete
  rw [← hw'.store] at hdiffers
  exact ⟨_, hw'.published, .removed change b hchange hb hdiffers.booking?_eq⟩

theorem cancel_announces (hs : w.store.Consistent) : w.Announces (cancel actor id c w).2 := by
  refine announces_of_ok fun _ w' hrun => ?_
  obtain ⟨b, s, hb, hdelete, hw'⟩ := cancel_ok hrun
  exact announces_of_deleteBooking hs (.inl rfl) hb hdelete hw'

theorem decline_announces (hs : w.store.Consistent) : w.Announces (decline actor id c w).2 := by
  refine announces_of_ok fun _ w' hrun => ?_
  obtain ⟨b, s, hb, hdelete, hw'⟩ := decline_ok hrun
  exact announces_of_deleteBooking hs (.inr rfl) hb hdelete hw'

theorem bookSeries_announces (hs : w.store.Consistent) {req : SeriesRequest}
    (hs' : (bookSeries actor req c w).2.store.Consistent) :
    w.Announces (bookSeries actor req c w).2 := by
  rcases hrun : bookSeries actor req c w with ⟨o, w'⟩
  rw [hrun] at hs'
  cases bookSeries_run hrun with
  | failed _ hw' _ => exact hw'.announces
  | stuck _ hattempted hmade hw' _ =>
    refine ⟨[], ?_, .nothing ?_⟩
    · rw [hw'.published, hattempted.published, List.append_nil]
    · rw [hw'.store, hattempted.store_of_made hmade]
      rfl
  | dropped hattempted hmade hdelete hw' =>
    refine ⟨[], ?_, .nothing ?_⟩
    · rw [hw'.published, List.append_nil]
    · rw [hw'.store, Store.deleteSeries_seriesOnly hdelete, hattempted.store_of_made hmade]
      rfl
  | kept hattempted _ hw' =>
    have hperm := hattempted.bookings hs.toOrdered
    rw [← hw'.store] at hperm
    refine ⟨_, hw'.published, .of_perm hs hs' hperm fun e he => ?_⟩
    cases List.mem_singleton.1 he
    exact True.intro

/-- Without failing calls a series is given up as a whole or not at all. -/
theorem cancelSeries_announces (hs : w.store.Consistent) (hc : c.Reliable) :
    w.Announces (cancelSeries actor id c w).2 := by
  rcases hrun : cancelSeries actor id c w with ⟨failure | _, w'⟩
  · exact (cancelSeries_untouched hs hc hrun).announces
  · have hremoved := SeriesRemoved.of_through (.refl id c.now hs) hrun
    obtain ⟨row, bs, removed, detached, -, hbs, -, -, -, -, hpublished⟩ := hremoved.events
    rw [List.append_assoc] at hpublished
    refine ⟨_, hpublished, .released id row.space c.now bs removed detached (fun b => ?_) ?_⟩
    · rw [hbs.mem_iff, Store.mem_linked, hs.booking?_eq_some_iff, and_iff_left rfl]
    · exact hs.booking?_of_released hremoved.consistent hremoved.bookings

end Service

/-! ## Runs -/

namespace Administration

variable {s : Store}

/-- No space is deleted. -/
def KeepsSpaces : Administration → Prop
  | deleteSpace _ => False
  | _ => True

theorem bookings_perm {a : Administration} (h : a.KeepsSpaces) (s : Store) :
    (a.apply s).bookings.Perm s.bookings := by
  cases a with
  | deleteSpace => cases h
  | putSpace space approvers allowedBookers => exact Store.putSpace_bookings _ _ _ s
  | putLocation | putUser | addMembership | putSetting => exact .refl _

end Administration

/-- No call fails during the step, nothing wrong is reported, and no space is deleted. -/
def Step.Orderly : Step → Prop
  | request c _ => c.Reliable
  | administration a => a.KeepsSpaces

/-- **What a step changes is announced.** -/
theorem Step.announces {st : Step} (hs : w.store.Consistent) (hs' : (st.apply w).store.Consistent)
    (h : st.Orderly) : w.Announces (st.apply w) := by
  cases st with
  | administration a =>
    refine ⟨[], (List.append_nil _).symm, .nothing ?_⟩
    exact hs.booking?_of_perm hs' (a.bookings_perm h w.store)
  | request c r =>
    cases r with
    | book actor req => exact book_announces hs hs'
    | rebook actor id req => exact rebook_announces hs
    | cancel actor id => exact cancel_announces hs
    | bookSeries actor req => exact bookSeries_announces hs hs'
    | precheckSeries actor req =>
      exact (Reads.unchanged (r := .reliable) (x := precheckSeries actor req) c w).untouched.announces
    | cancelSeries actor id => exact cancelSeries_announces hs h
    | approve actor id => exact approve_announces hs
    | decline actor id => exact decline_announces hs

/-- A run without failing calls in which no space is deleted, from wherever a run can lead. -/
structure OrderlyRun (w : World) (sts : List Step) : Prop where
  reachable : Reachable Step.Fresh w
  fresh : Step.Allowed (fun w st => st.Fresh w) w sts
  orderly : ∀ st ∈ sts, st.Orderly

namespace OrderlyRun

variable {sts : List Step} (h : OrderlyRun w sts)

include h

theorem consistent (n : Nat) : (Step.world w sts n).store.Consistent :=
  (h.reachable.world h.fresh n).consistent

/-- What the next step of the run changes is announced. -/
theorem announces {n : Nat} (hn : n < sts.length) :
    (Step.world w sts n).Announces (Step.world w sts (n + 1)) := by
  have hst : sts[n]? = some sts[n] := List.getElem?_eq_getElem hn
  have hs' := h.consistent (n + 1)
  rw [Step.world_succ hst] at hs' ⊢
  exact Step.announces (h.consistent n) hs' (h.orderly _ (List.getElem_mem hn))

/-- The events of the run so far give what is stored, by induction on the run. -/
theorem replay {n : Nat} (hn : n ≤ sts.length) :
    ∃ es, (Step.world w sts n).published = w.published ++ es ∧
      replayAll w.store.booking? es = (Step.world w sts n).store.booking? := by
  induction n with
  | zero => exact ⟨[], (List.append_nil _).symm, rfl⟩
  | succ n ih =>
    obtain ⟨es, hpublished, hknown⟩ := ih (Nat.le_of_succ_le hn)
    obtain ⟨new, hnew, hannounced⟩ := h.announces hn
    refine ⟨es ++ new, ?_, ?_⟩
    · rw [hnew, hpublished, List.append_assoc]
    · rw [replayAll_append, hknown, hannounced.replay]

end OrderlyRun

/-- **The events are a complete log.** In a run without failing calls in which no space is deleted,
from wherever a run can lead: after each step, whoever knew the bookings at the start and has read
the events since then, in the order in which they were published, knows exactly the stored bookings,
with all that they say. -/
theorem event_log_complete {sts : List Step} (h : OrderlyRun w sts) {n : Nat}
    (hn : n ≤ sts.length) :
    ∃ es, (Step.world w sts n).published = w.published ++ es ∧
      ∀ id b, replayAll w.store.booking? es id = some b ↔
        b ∈ (Step.world w sts n).store.bookings ∧ b.id = id := by
  obtain ⟨es, hpublished, hknown⟩ := h.replay hn
  refine ⟨es, hpublished, fun id b => ?_⟩
  rw [hknown]
  exact (h.consistent n).booking?_eq_some_iff

namespace Sample

/-- The desk is booked every day, the last day moved to the room, and the day before cancelled. -/
def busySteps : List Step :=
  [.administration (.putSpace room [] []), .request conditions (.bookSeries admin daily),
    .request conditions (.rebook admin (.ofNat 103) lastDay),
    .request conditions (.cancel admin (.ofNat 102))]

theorem orderlyRun : OrderlyRun world busySteps where
  reachable := reachable_fresh
  fresh := by decide +kernel
  orderly := by
    intro st hst
    simp only [busySteps, List.mem_cons, List.not_mem_nil, or_false] at hst
    rcases hst with rfl | rfl | rfl | rfl
    · exact True.intro
    · exact reliable
    · exact reliable
    · exact reliable

end Sample

/-- In the end the booking from before and the one in the room are stored, and known. -/
theorem event_log_complete_desk :
    OrderlyRun Sample.world Sample.busySteps ∧
    ((Step.world Sample.world Sample.busySteps 4).store.bookings.map fun b => (b.id, b.space)) =
      [(.ofNat 100, .ofNat 4), (.ofNat 103, .ofNat 5)] ∧
    ∃ es, (Step.world Sample.world Sample.busySteps 4).published = Sample.world.published ++ es ∧
      ∀ id b, replayAll Sample.world.store.booking? es id = some b ↔
        b ∈ (Step.world Sample.world Sample.busySteps 4).store.bookings ∧ b.id = id :=
  ⟨Sample.orderlyRun, by decide +kernel, event_log_complete Sample.orderlyRun (by decide)⟩

end SpaceBooking
