import SpaceBooking.Proofs.Operations
import SpaceBooking.Proofs.Runs

/-!
# Leaving a booking out

A change of a booking is admitted with the booking left out, so that it is not in its own way. The
exclusion is handed to each count and search by itself; together they answer as if the booking had
been deleted before.

* `Store.AgreeBut` — two stores that agree on all bookings but one that may be left out in each.
* `Store.Consistent.agreeBut_of_deleteBooking`, `Store.Consistent.agreeBut_of_insertBooking` — a
  removal and an addition lead to such stores.
* `AgreeBut.obstacle?_eq` — the same stands in the way of a request in both.
* `Attainable` — the worlds that requests and operations of the store lead to, in any order.
* `exclusion_is_absence` — in all of them, admission that leaves a booking out is admission without
  the booking, and a replacement is a removal and an addition.
-/

namespace SpaceBooking

open SpaceBooking.Action

/-! ## Stores that agree -/

namespace Store

variable {s s' t : Store} {exclude exclude' : Option Id} {b : Booking}

/-- The bookings that are not left out. -/
def bookingsBut (s : Store) (exclude : Option Id) : List Booking :=
  s.bookings.filter fun b => some b.id ≠ exclude

theorem bookingsBut_none (s : Store) : s.bookingsBut none = s.bookings :=
  List.filter_eq_self.2 (by simp)

theorem filter_ne_of_ne {bs : List Booking} {id : Id} (h : ∀ b ∈ bs, b.id ≠ id) :
    bs.filter (fun b => some b.id ≠ some id) = bs := by
  rw [List.filter_eq_self]
  intro b hb
  simpa using h b hb

/-- Two stores hold the same, apart from a booking that may be left out in each. -/
structure AgreeBut (s : Store) (exclude : Option Id) (s' : Store) (exclude' : Option Id) :
    Prop where
  setup : s.SameSetup s'
  bookings : (s.bookingsBut exclude).Perm (s'.bookingsBut exclude')
  /-- Conflicts are found in the same order. -/
  conflicts : ∀ space span,
    s.findConflicts space span exclude = s'.findConflicts space span exclude'

namespace AgreeBut

theorem trans {exclude'' : Option Id} (h : AgreeBut s exclude s' exclude')
    (h' : AgreeBut s' exclude' t exclude'') : AgreeBut s exclude t exclude'' where
  setup := h.setup.trans h'.setup
  bookings := h.bookings.trans h'.bookings
  conflicts space span := (h.conflicts space span).trans (h'.conflicts space span)

variable (h : AgreeBut s exclude s' exclude')

include h

/-- Counts that leave the booking out agree. -/
theorem countP_eq (p : Booking → Bool) :
    (s.bookings.countP fun b => p b && decide (some b.id ≠ exclude)) =
      s'.bookings.countP fun b => p b && decide (some b.id ≠ exclude') := by
  have hperm := h.bookings.countP_eq p
  unfold bookingsBut at hperm
  rwa [List.countP_filter, List.countP_filter] at hperm

theorem countOverlapping_eq (hs : s.Ordered) (hs' : s'.Ordered) (user : Id) (span : Span) :
    s.countOverlapping user span exclude = s'.countOverlapping user span exclude' := by
  rw [hs.countOverlapping_eq, hs'.countOverlapping_eq]
  simp only [← Bool.and_assoc]
  exact h.countP_eq fun b => decide (b.owner = user) && b.span.overlaps span

theorem countInLocation_eq (hs : s.Ordered) (hs' : s'.Ordered) (location : Id) (span : Span) :
    s.countInLocation location span exclude = s'.countInLocation location span exclude' := by
  rw [hs.countInLocation_eq, hs'.countInLocation_eq, h.setup.locationOf]
  simp only [← Bool.and_assoc]
  exact h.countP_eq fun b =>
    decide (s.locationOf b.space = some location) && b.span.overlaps span

end AgreeBut

/-! ## Removing and adding -/

namespace Consistent

variable (hs : s.Consistent)

include hs

/-- **A removal leads to a store that agrees but for the booking.** -/
theorem agreeBut_of_deleteBooking (hb : b ∈ s.bookings) (h : s.deleteBooking b.id = .ok s') :
    AgreeBut s (some b.id) s' none where
  setup := .of_deleteBooking hs h
  bookings := by
    obtain ⟨old, hid, hx⟩ := deleteBooking_exchange hs h
    obtain ⟨rest, hperm, hperm', hrest⟩ := hx.exists_rest hs
    have hother : ∀ c ∈ rest, c.id ≠ b.id := by
      intro c hc heq
      have hne := (hrest c hc).2
      rw [Option.map_some, hid, heq] at hne
      exact hne rfl
    have hleft := hperm.filter fun c => some c.id ≠ some b.id
    rw [Option.toList_some, List.singleton_append, List.filter_cons_of_neg (by simp [hid]),
      filter_ne_of_ne hother] at hleft
    rw [bookingsBut_none]
    exact hleft.trans hperm'.symm
  conflicts space span := (hs.findConflicts_of_deleteBooking hb h space span).symm

/-- **An addition leads to a store that agrees but for the booking.** -/
theorem agreeBut_of_insertBooking (hfresh : ∀ c ∈ s.bookings, c.id ≠ b.id)
    (h : s.insertBooking b = .ok s') : AgreeBut s none s' (some b.id) where
  setup := (insertBooking_exchange hs.toOrdered h).setup
  bookings := by
    obtain ⟨rest, hperm, hperm'⟩ := (insertBooking_exchange hs.toOrdered h).bookings
    have hright := (hperm'.trans (hperm.symm.append_left _)).filter fun c => some c.id ≠ some b.id
    rw [Option.toList_some, List.singleton_append, List.filter_cons_of_neg (by simp),
      filter_ne_of_ne hfresh] at hright
    rw [bookingsBut_none]
    exact hright.symm
  conflicts space span := (hs.findConflicts_of_insertBooking hfresh h space span).symm

end Consistent

end Store

/-! ## Admission -/

namespace Store.AgreeBut

open Service

variable {c : Conditions} {s s' : Store} {exclude exclude' : Option Id} {ctx : SpaceContext}
  {actor : User} {owner : Id} {span : Span} {pending : List Span}
  (h : AgreeBut s exclude s' exclude')

include h

theorem holdersAt_eq (hs : s.Ordered) (hs' : s'.Ordered) (space : Id) (span : Span) :
    holdersAt s space span exclude = holdersAt s' space span exclude' := by
  rw [Service.holdersAt_eq hs, Service.holdersAt_eq hs', h.conflicts]

theorem fullAt_eq (hs : s.Ordered) (hs' : s'.Ordered) (location : Location) (span : Span) :
    fullAt s location span exclude = fullAt s' location span exclude' := by
  unfold fullAt
  rw [h.countInLocation_eq hs hs']

/-- A rule that applies is kept in both stores or in none. The cap on bookings ahead counts the
booking that is left out as well, so it has to be skipped or lifted. -/
theorem keepsRule_eq (hs : s.Ordered) (hs' : s'.Ordered)
    (hcap : exclude.isSome ∧ exclude'.isSome ∨ ctx.policy.maxUpcomingPerUser ≤ 0) (rule : Rule) :
    (ctx.policy.applies (candidateFor ctx actor owner span exclude pending c.now) rule &&
      !keepsRule c s ctx.policy ctx.zone
        (candidateFor ctx actor owner span exclude pending c.now) rule) =
    (ctx.policy.applies (candidateFor ctx actor owner span exclude' pending c.now) rule &&
      !keepsRule c s' ctx.policy ctx.zone
        (candidateFor ctx actor owner span exclude' pending c.now) rule) := by
  cases rule with
  | duration | advanceWindow | minDuration => rfl
  | userConcurrent =>
    simp only [Policy.applies, keepsRule, candidateFor, h.countOverlapping_eq hs hs']
    rfl
  | upcomingCap =>
    rcases hcap with ⟨hskip, hskip'⟩ | hlifted
    · simp [Policy.applies, candidateFor, hskip, hskip']
    · simp [keepsRule, withinCap, hlifted]
  | allowedBooker =>
    simp only [Policy.applies, keepsRule, candidateFor, allowedBookersOf, membershipsOf,
      h.setup.allowedBookers, h.setup.memberships]
    rfl

theorem brokenRule?_eq (hs : s.Ordered) (hs' : s'.Ordered)
    (hcap : exclude.isSome ∧ exclude'.isSome ∨ ctx.policy.maxUpcomingPerUser ≤ 0) :
    brokenRule? c s ctx.policy ctx.zone
        (candidateFor ctx actor owner span exclude pending c.now) =
      brokenRule? c s' ctx.policy ctx.zone
        (candidateFor ctx actor owner span exclude' pending c.now) := by
  unfold brokenRule?
  rw [List.find?_filter, List.find?_filter]
  congr 1
  funext rule
  simpa only [Bool.decide_and, Bool.decide_eq_true] using h.keepsRule_eq hs hs' hcap rule

/-- **The same stands in the way of a request in both stores.** -/
theorem obstacle?_eq (hs : s.Ordered) (hs' : s'.Ordered)
    (hcap : exclude.isSome ∧ exclude'.isSome ∨ ctx.policy.maxUpcomingPerUser ≤ 0) :
    obstacle? c s ctx actor owner span exclude pending =
      obstacle? c s' ctx actor owner span exclude' pending := by
  unfold obstacle?
  simp only [h.brokenRule?_eq hs hs' hcap, h.holdersAt_eq hs hs', h.fullAt_eq hs hs']
  rfl

end Store.AgreeBut

/-! ## Requests and operations in any order -/

/-- The worlds that can be reached from an empty store by steps of a run and by operations of the
store past the service. -/
inductive Attainable : World → Prop where
  | initial : Attainable {}
  | step {w : World} (st : Step) : Attainable w → st.Fresh w → Attainable (st.apply w)
  | operation {w : World} (op : Operation) : Attainable w → op.Fresh w.store →
      Attainable { w with store := op.apply w.store }

theorem Attainable.consistent {w : World} (h : Attainable w) : w.store.Consistent := by
  induction h with
  | initial => exact Store.consistent_empty
  | step st _ hfresh ih => exact Step.consistent ih hfresh
  | operation op _ hfresh ih => exact Operation.consistent ih hfresh

theorem Reachable.attainable {w : World} (h : Reachable Step.Fresh w) : Attainable w := by
  induction h with
  | initial => exact .initial
  | step st _ hfresh ih => exact .step st ih hfresh

namespace Sample

/-- The desk as an organization sees it that lets no two bookings of a user overlap, at a location
where one booking at a time is allowed. -/
def oneByOne : SpaceContext where
  space := desk
  location := { location with maxConcurrent := 1 }
  policy := { maxConcurrentPerUser := 1, maxUpcomingPerUser := 0 }
  zone := ZoneTable.universal

/-- An hour more than the booking of the desk. -/
def longer : Span := ⟨1000630800000, 1000645200000⟩

end Sample

namespace Service

variable {w : World}

/-- **Leaving a booking out is the same as not having it.** A stored booking can be deleted, and
after that admission answers what it answered with the booking left out, if the cap on bookings
ahead is lifted and the store is in order: it lets the request pass, or fails for the same reason
and names the same holder. Replacing the booking is deleting it and adding the new one. -/
theorem exclusion_is_absence (h : Attainable w) {b : Booking} (hb : b ∈ w.store.bookings) :
    ∃ s, w.store.deleteBooking b.id = .ok s ∧
      (∀ (c : Conditions) (ctx : SpaceContext) (actor : User) (owner : Id) (span : Span)
        (pending : List Span), c.Reliable → ctx.policy.maxUpcomingPerUser ≤ 0 →
        (checkAdmission ctx actor owner span (some b.id) pending c w).1 =
          (checkAdmission ctx actor owner span none pending c { w with store := s }).1) ∧
      ∀ new : Booking, new.id = b.id → w.store.updateBooking new = s.insertBooking new := by
  have hs := h.consistent
  obtain ⟨s, hdelete, hx⟩ := hs.deleteBooking_of_mem hb
  refine ⟨s, hdelete, ?_, ?_⟩
  · intro c ctx actor owner span pending hc hcap
    obtain ⟨v, -, hwith⟩ := Reads.of_reliable
      (x := checkAdmission ctx actor owner span (some b.id) pending) hc w
    obtain ⟨v', -, hwithout⟩ := Reads.of_reliable
      (x := checkAdmission ctx actor owner span none pending) hc { w with store := s }
    have hagree := hs.agreeBut_of_deleteBooking hb hdelete
    rw [hwith, hwithout, answer_checkAdmission, answer_checkAdmission,
      hagree.obstacle?_eq hs.toOrdered (hx.ordered hs.toOrdered) (.inr hcap)]
  · intro new hid
    rw [hs.updateBooking_eq hb hid.symm, hid, hdelete]
    rfl

/-- The one booking of the desk is to be an hour longer. It is in its own way until it is left out
or deleted. -/
theorem exclusion_is_absence_desk :
    Attainable Sample.world ∧ Sample.conditions.Reliable ∧
    ∃ b ∈ Sample.world.store.bookings, b.span = ⟨1000630800000, 1000641600000⟩ ∧
      (checkAdmission Sample.oneByOne Sample.admin b.owner Sample.longer none []
        Sample.conditions Sample.world).1 = .error (.policy .tooManyAtOnce) ∧
      (checkAdmission Sample.oneByOne Sample.admin b.owner Sample.longer (some b.id) []
        Sample.conditions Sample.world).1 = .ok () ∧
      ∃ s, Sample.world.store.deleteBooking b.id = .ok s ∧
        (checkAdmission Sample.oneByOne Sample.admin b.owner Sample.longer none []
          Sample.conditions { Sample.world with store := s }).1 = .ok () ∧
        Sample.world.store.updateBooking { b with span := Sample.longer } =
          s.insertBooking { b with span := Sample.longer } := by
  have hreached : Attainable Sample.world := Sample.reachable_fresh.attainable
  let b : Booking := ⟨.ofNat 100, .ofNat 2, .ofNat 4, ⟨1000630800000, 1000641600000⟩, "", true,
    none, none⟩
  have hb : b ∈ Sample.world.store.bookings := by decide +kernel
  have hexcluded : (checkAdmission Sample.oneByOne Sample.admin b.owner Sample.longer (some b.id) []
      Sample.conditions Sample.world).1 = .ok () := by decide +kernel
  obtain ⟨s, hdelete, hadmission, hreplace⟩ := exclusion_is_absence hreached hb
  refine ⟨hreached, Sample.reliable, b, hb, rfl, by decide +kernel, hexcluded, s, hdelete, ?_,
    hreplace _ rfl⟩
  rw [← hadmission Sample.conditions Sample.oneByOne Sample.admin b.owner Sample.longer []
    Sample.reliable (by decide)]
  exact hexcluded

end Service

end SpaceBooking
