import SpaceBooking.Proofs.Administration
import SpaceBooking.Proofs.Occurrences
import SpaceBooking.Proofs.SeriesRequests

/-!
# Runs

A run starts with nothing stored and takes steps: requests, each under conditions of its own, and
administration. What calls fail and what is reported as conflicts is up to the conditions; all that
is asked of them is that identifiers are `Fresh`.

* `Request.changes` — a request does nothing to the store but `Store.Change`s.
* `Reachable` — the worlds that runs lead to. Its parameter restricts the steps.
* `Step.world` — the worlds on the way through a list of steps.
* `Reachable.consistent`, `Reachable.exclusive`, `Reachable.keyed` — what holds in all of them.
* `Reachable.located` — what holds in those where spaces keep their location.
-/

namespace SpaceBooking

open SpaceBooking.Action Relation

/-! ## Fresh identifiers -/

/-- The identifiers given out from the `n`-th to before the `m`-th are different from each other and
from those of stored bookings and series. -/
structure Conditions.Fresh (c : Conditions) (s : Store) (n m : Nat) : Prop where
  distinct : ∀ i j, n ≤ i → i < j → j < m → c.mint i ≠ c.mint j
  bookings : ∀ i, n ≤ i → i < m → ∀ b ∈ s.bookings, b.id ≠ c.mint i
  series : ∀ i, n ≤ i → i < m → s.series.get? (c.mint i) = none

namespace Conditions.Fresh

variable {c : Conditions} {s s' : Store} {n m : Nat}

instance (c : Conditions) (s : Store) (n m : Nat) : Decidable (c.Fresh s n m) :=
  decidable_of_iff
    ((∀ j < m, ∀ i < j, n ≤ i → c.mint i ≠ c.mint j) ∧
      (∀ i < m, n ≤ i → ∀ b ∈ s.bookings, b.id ≠ c.mint i) ∧
      ∀ i < m, n ≤ i → s.series.get? (c.mint i) = none)
    ⟨fun ⟨hd, hb, hs⟩ => ⟨fun i j hi hij hj => hd j hj i hij hi, fun i hi him => hb i him hi,
      fun i hi him => hs i him hi⟩,
    fun h => ⟨fun j hj i hij hi => h.distinct i j hi hij hj, fun i him hi => h.bookings i hi him,
      fun i him hi => h.series i hi him⟩⟩

theorem mono {n' m' : Nat} (h : c.Fresh s n m) (hn : n ≤ n') (hm : m' ≤ m) : c.Fresh s n' m' where
  distinct i j hi hij hj := h.distinct i j (Nat.le_trans hn hi) hij (Nat.lt_of_lt_of_le hj hm)
  bookings i hi him := h.bookings i (Nat.le_trans hn hi) (Nat.lt_of_lt_of_le him hm)
  series i hi him := h.series i (Nat.le_trans hn hi) (Nat.lt_of_lt_of_le him hm)

/-- No identifier is given out. -/
theorem of_le (h : m ≤ n) : c.Fresh s n m where
  distinct _ _ hi hij hj := absurd (Nat.lt_of_lt_of_le (hij.trans hj) h) (Nat.not_lt.2 hi)
  bookings _ hi him := absurd (Nat.lt_of_lt_of_le him h) (Nat.not_lt.2 hi)
  series _ hi him := absurd (Nat.lt_of_lt_of_le him h) (Nat.not_lt.2 hi)

/-- The next identifier was used for a booking. -/
theorem insertBooking (h : c.Fresh s n m) {b : Booking} (hid : b.id = c.mint n)
    (hx : s.Exchange none (some b) s') : c.Fresh s' (n + 1) m where
  distinct i j hi := h.distinct i j (Nat.le_of_succ_le hi)
  bookings i hi him d hd := by
    rcases hx.mem_of_mem hd with hd | hd
    · cases hd
      rw [hid]
      exact h.distinct n i (Nat.le_refl _) hi him
    · exact h.bookings i (Nat.le_of_succ_le hi) him d hd
  series i hi him := by
    rw [hx.series]
    exact h.series i (Nat.le_of_succ_le hi) him

/-- The next identifier was used for a series. -/
theorem insertSeries (h : c.Fresh s n m) {series : Series} (hid : series.id = c.mint n) :
    c.Fresh (s.insertSeries series) (n + 1) m where
  distinct i j hi := h.distinct i j (Nat.le_of_succ_le hi)
  bookings i hi := h.bookings i (Nat.le_of_succ_le hi)
  series i hi him := by
    show (s.series.insert series.id series).get? _ = none
    rw [Table.get?_insert, if_neg]
    · exact h.series i (Nat.le_of_succ_le hi) him
    · rw [hid]
      exact h.distinct n i (Nat.le_refl _) hi him

end Conditions.Fresh

/-! ## Requests -/

namespace Action

/-- Whatever comes of the action, it only made changes to the store, and gave out no identifier. -/
class Changing {ε α : Type} (x : Action ε α) : Prop where
  changes : ∀ c w, ReflTransGen Store.Change w.store (x c w).2.store
  minted : ∀ c w, (x c w).2.minted = w.minted

variable {ε α β : Type}

instance changing_of_reads {x : Action ε α} [hx : Reads .reliable x] : Changing x where
  changes c w := by
    rw [(hx.unchanged c w).store]
  minted c w := (hx.unchanged c w).minted

theorem Changing.bind {x : Action ε α} {f : α → Action ε β} (hx : Changing x)
    (hf : ∀ a, Changing (f a)) : Changing (x >>= f) where
  changes c w := by
    have h := hx.changes c w
    rw [bind_apply]
    rcases hrun : x c w with ⟨e | a, v⟩
    · rw [hrun] at h
      exact h
    · rw [hrun] at h
      exact h.trans ((hf a).changes c v)
  minted c w := by
    have h := hx.minted c w
    rw [bind_apply]
    rcases hrun : x c w with ⟨e | a, v⟩
    · rw [hrun] at h
      exact h
    · rw [hrun] at h
      exact ((hf a).minted c v).trans h

theorem changing_change {call : StoreCall} {step : Store → Except StoreError Store}
    (h : ∀ s s', step s = .ok s' → s.Change s') : Changing (change call step) where
  changes c w := by
    rw [change_apply]
    split
    · exact .refl
    · rename_i s _ hs
      exact .single (h _ s hs)
    · exact .refl
  minted c w := by
    rw [change_apply]
    split <;> rfl

instance {x : Action StoreError α} [hx : Changing x] : Changing (liftM x : Action Failure α) where
  changes := hx.changes
  minted := hx.minted

instance (e : Event) : Changing (publish e : Action ε Unit) := ⟨fun _ _ => .refl, fun _ _ => rfl⟩

instance (id : Id) : Changing (Repository.deleteBooking id) :=
  changing_change fun _ _ => .remove id

instance (id : Id) : Changing (Repository.clearSeriesLink id) :=
  changing_change fun _ _ => .unlink id

instance (id : Id) : Changing (Repository.deleteSeries id) :=
  changing_change fun _ _ h => .onSeries (Store.deleteSeries_seriesOnly h)

/-- An action that fails without a trace only made changes, if its good ends show so. -/
theorem Cautious.changes_of_ok {x : Action ε α} (hx : Cautious x) {c : Conditions} {w : World}
    (h : ∀ a w', x c w = (.ok a, w') → ReflTransGen Store.Change w.store w'.store) :
    ReflTransGen Store.Change w.store (x c w).2.store := by
  rcases hrun : x c w with ⟨e | a, v⟩
  · rw [(hx.untouched hrun).store]
  · exact h a v hrun

end Action

namespace Service

variable {c : Conditions} {w w' : World}

theorem book_changes (actor : User) (req : BookingRequest)
    (hfresh : c.Fresh w.store w.minted (book actor req c w).2.minted) :
    ReflTransGen Store.Change w.store (book actor req c w).2.store := by
  refine Cautious.changes_of_ok inferInstance fun b w' hok => ?_
  rw [hok] at hfresh
  obtain ⟨a, v, hadm, -, rfl, s, hs, hw'⟩ := book_ok hok
  obtain ⟨-, -, -, hspan, -⟩ := admitNew_ok hadm
  rw [hw'.store]
  refine .single (.place _ (spanAt_ok hspan).2.1 ?_ hs)
  exact hfresh.bookings w.minted (Nat.le_refl _) (by rw [hw'.minted]; exact Nat.lt_succ_self _)

theorem rebook_changes (actor : User) (id : Id) (req : BookingRequest) :
    ReflTransGen Store.Change w.store (rebook actor id req c w).2.store := by
  refine Cautious.changes_of_ok inferInstance fun b w' hok => ?_
  obtain ⟨old, u, a, v, -, hadm, -, -, hold, rfl, s, hs, hw'⟩ := rebook_ok hok
  obtain ⟨-, -, -, hspan, -⟩ := admitChange_ok hadm
  rw [hw'.store]
  have hid := Store.booking?_id hold
  exact .single (.replace old (changed w.store old a) (hid ▸ hold) (.inl (spanAt_ok hspan).2.1) hs)

theorem approve_changes (actor : User) (id : Id) :
    ReflTransGen Store.Change w.store (approve actor id c w).2.store := by
  refine Cautious.changes_of_ok inferInstance fun b w' hok => ?_
  obtain ⟨old, s, hold, rfl, hs, hw'⟩ := approve_ok hok
  rw [hw'.store]
  have hid := Store.booking?_id hold
  exact .single (.replace old { old with approved := true } (hid ▸ hold) (.inr rfl) hs)

theorem cancel_changes (actor : User) (id : Id) :
    ReflTransGen Store.Change w.store (cancel actor id c w).2.store := by
  refine Cautious.changes_of_ok inferInstance fun b w' hok => ?_
  obtain ⟨b, s, -, hs, hw'⟩ := cancel_ok hok
  rw [hw'.store]
  exact .single (.remove id hs)

theorem decline_changes (actor : User) (id : Id) :
    ReflTransGen Store.Change w.store (decline actor id c w).2.store := by
  refine Cautious.changes_of_ok inferInstance fun b w' hok => ?_
  obtain ⟨b, s, -, hs, hw'⟩ := decline_ok hok
  rw [hw'.store]
  exact .single (.remove id hs)

theorem dissolve_changing (now : Int) (bs : List Booking) : Changing (dissolve now bs) := by
  induction bs with
  | nil => exact inferInstanceAs (Changing (pure (0, 0)))
  | cons b bs ih =>
    unfold dissolve
    split
    · refine .bind inferInstance fun _ => .bind inferInstance fun _ => ?_
      exact .bind ih fun _ => inferInstance
    · exact .bind inferInstance fun _ => .bind ih fun _ => inferInstance

instance (actor : User) (id : Id) : Changing (cancelSeries actor id) := by
  unfold cancelSeries
  refine .bind inferInstance fun series => .bind inferInstance fun _ => ?_
  refine .bind inferInstance fun _ => .bind inferInstance fun now => ?_
  refine .bind inferInstance fun bs => .bind (dissolve_changing now bs) fun _ => ?_
  exact .bind inferInstance fun _ => inferInstance

/-- Booking instances changes the store by one booking at a time. -/
theorem InstanceRun.changes {actor : User} {plan : SeriesPlan} {series : Series} {as : List Attempt}
    (h : InstanceRun c actor plan series w as w') (hs : w.store.Ordered)
    (hfresh : c.Fresh w.store w.minted w'.minted)
    (hspans : ∀ a ∈ as, a.span.start < a.span.stop) :
    ReflTransGen Store.Change w.store w'.store := by
  induction h with
  | done w => exact .refl
  | failed span failure hv _ _ ih =>
    rw [hv.store] at ih
    exact ih hs (hfresh.mono hv.minted (Nat.le_refl _)) fun a ha =>
      hspans a (List.mem_cons_of_mem _ ha)
  | @booked w v w' as s span hinsert hv _ hrun ih =>
    have hx := Store.insertBooking_exchange hs hinsert
    have hlt := hrun.minted_le
    rw [hv.minted] at ih hlt
    rw [hv.store] at ih
    have hplace : w.store.Change s :=
      .place _ (hspans _ List.mem_cons_self) (hfresh.bookings w.minted (Nat.le_refl _) hlt) hinsert
    exact .head hplace (ih (hx.ordered hs) (hfresh.insertBooking rfl hx) fun a ha =>
      hspans a (List.mem_cons_of_mem _ ha))

variable {actor : User} {req : SeriesRequest} {plan : SeriesPlan} {as : List Attempt}

/-- The instances of a series that was laid out take time. -/
theorem Attempted.nonempty (h : Attempted c actor req w plan as w') :
    ∀ a ∈ as, a.span.start < a.span.stop := by
  obtain ⟨u, hplan⟩ := h.planned
  obtain ⟨-, -, -, hfirst, -, -, hspans, -⟩ := planSeries_ok hplan
  obtain ⟨-, -, hshort⟩ := Limits.spanFailure?_eq_none_iff.1 (spanAt_ok hfirst).2.2
  intro a ha
  have hmem : a.span ∈ plan.spans := h.spans ▸ List.mem_map_of_mem ha
  rw [← (instancesAt_ok hspans).1] at hmem
  exact Cadence.occurrences_nonempty (Int.le_trans hshort (by decide)) _ hmem

theorem Attempted.changes (h : Attempted c actor req w plan as w') (hs : w.store.Ordered)
    (hfresh : c.Fresh w.store w.minted w'.minted) :
    ReflTransGen Store.Change w.store w'.store := by
  obtain ⟨v, hv, hrun⟩ := h.run
  have hordered : v.store.Ordered := by
    rw [hv.store]
    exact hs.insertSeries _
  have hinsert : w.store.Change v.store := by
    rw [hv.store]
    exact .onSeries (Store.insertSeries_seriesOnly _ _)
  refine .head hinsert (hrun.changes hordered ?_ h.nonempty)
  rw [hv.store, hv.minted]
  exact hfresh.insertSeries rfl

theorem bookSeries_changes (actor : User) (req : SeriesRequest) (hs : w.store.Ordered)
    (hfresh : c.Fresh w.store w.minted (bookSeries actor req c w).2.minted) :
    ReflTransGen Store.Change w.store (bookSeries actor req c w).2.store := by
  rcases hrun : bookSeries actor req c w with ⟨o, w'⟩
  rw [hrun] at hfresh
  cases bookSeries_run hrun with
  | failed failure hw' _ => rw [hw'.store]
  | stuck failure hattempted _ hw' _ =>
    rw [hw'.store]
    exact hattempted.changes hs (hfresh.mono (Nat.le_refl _) hw'.minted)
  | dropped hattempted _ hdelete hw' =>
    rw [hw'.store]
    rw [hw'.minted] at hfresh
    exact (hattempted.changes hs hfresh).tail
      (.onSeries (Store.deleteSeries_seriesOnly hdelete))
  | kept hattempted _ hw' =>
    rw [hw'.store]
    rw [hw'.minted] at hfresh
    exact hattempted.changes hs hfresh

end Service

/-- What the service is asked to do with bookings. -/
inductive Request where
  | book (actor : User) (req : BookingRequest)
  | rebook (actor : User) (id : Id) (req : BookingRequest)
  | cancel (actor : User) (id : Id)
  | bookSeries (actor : User) (req : SeriesRequest)
  | precheckSeries (actor : User) (req : SeriesRequest)
  | cancelSeries (actor : User) (id : Id)
  | approve (actor : User) (id : Id)
  | decline (actor : User) (id : Id)

namespace Request

/-- The world that a request leaves, however it ends. -/
def apply (c : Conditions) (w : World) : Request → World
  | book actor req => (Service.book actor req c w).2
  | rebook actor id req => (Service.rebook actor id req c w).2
  | cancel actor id => (Service.cancel actor id c w).2
  | bookSeries actor req => (Service.bookSeries actor req c w).2
  | precheckSeries actor req => (Service.precheckSeries actor req c w).2
  | cancelSeries actor id => (Service.cancelSeries actor id c w).2
  | approve actor id => (Service.approve actor id c w).2
  | decline actor id => (Service.decline actor id c w).2

/-- **A request does nothing to the store but changes.** -/
theorem changes {c : Conditions} {w : World} (r : Request) (hs : w.store.Ordered)
    (hfresh : c.Fresh w.store w.minted (r.apply c w).minted) :
    ReflTransGen Store.Change w.store (r.apply c w).store := by
  cases r with
  | book actor req => exact Service.book_changes actor req hfresh
  | rebook actor id req => exact Service.rebook_changes actor id req
  | cancel actor id => exact Service.cancel_changes actor id
  | bookSeries actor req => exact Service.bookSeries_changes actor req hs hfresh
  | precheckSeries actor req =>
    exact Changing.changes (x := Service.precheckSeries actor req) c w
  | cancelSeries actor id => exact Changing.changes (x := Service.cancelSeries actor id) c w
  | approve actor id => exact Service.approve_changes actor id
  | decline actor id => exact Service.decline_changes actor id

end Request

/-! ## Runs -/

/-- One step of a run. -/
inductive Step where
  | request (c : Conditions) (r : Request)
  | administration (a : Administration)

namespace Step

/-- The world after a step. -/
def apply (w : World) : Step → World
  | request c r => r.apply c w
  | administration a => { w with store := a.apply w.store }

/-- The identifiers that the step gives out are fresh. -/
def Fresh (w : World) : Step → Prop
  | request c r => c.Fresh w.store w.minted (r.apply c w).minted
  | administration _ => True

/-- The step does not move a space to another location. -/
def KeepsLocations (w : World) : Step → Prop
  | request _ _ => True
  | administration a => a.KeepsLocations w.store

instance (w : World) (st : Step) : Decidable (st.Fresh w) := by
  cases st <;> unfold Fresh <;> infer_instance

instance (w : World) (st : Step) : Decidable (st.KeepsLocations w) := by
  cases st <;> unfold KeepsLocations <;> infer_instance

/-- Each of some steps in a row satisfies a condition. -/
def Allowed (ok : World → Step → Prop) : World → List Step → Prop
  | _, [] => True
  | w, st :: sts => ok w st ∧ Allowed ok (st.apply w) sts

instance decidableAllowed (ok : World → Step → Prop) [∀ w st, Decidable (ok w st)] :
    ∀ (w : World) (sts : List Step), Decidable (Allowed ok w sts)
  | _, [] => inferInstanceAs (Decidable True)
  | w, st :: sts =>
    have := decidableAllowed ok (st.apply w) sts
    inferInstanceAs (Decidable (_ ∧ _))

/-- The world after the first `k` of some steps. -/
def world (w : World) (sts : List Step) (k : Nat) : World := (sts.take k).foldl apply w

variable {w : World} {sts : List Step} {st : Step} {k : Nat}

theorem world_succ (h : sts[k]? = some st) : world w sts (k + 1) = st.apply (world w sts k) := by
  simp only [world, List.take_add_one, h, Option.toList_some, List.foldl_append, List.foldl_cons,
    List.foldl_nil]

/-- A step that is allowed is so in the world in which it is taken. -/
theorem Allowed.at {ok : World → Step → Prop} (h : Allowed ok w sts) (hst : sts[k]? = some st) :
    ok (world w sts k) st := by
  induction k generalizing w sts with
  | zero =>
    cases sts with
    | nil => cases hst
    | cons first rest =>
      cases hst
      exact h.1
  | succ k ih =>
    cases sts with
    | nil => cases hst
    | cons first rest => exact ih h.2 hst

/-- What every step of a run keeps holds on the whole way. -/
theorem world_induction {P : World → Prop} (hstart : P w)
    (hstep : ∀ k st, sts[k]? = some st → P (world w sts k) → P (st.apply (world w sts k))) :
    ∀ k ≤ sts.length, P (world w sts k) := by
  intro k
  induction k with
  | zero => exact fun _ => hstart
  | succ k ih =>
    intro hk
    have hst : sts[k]? = some sts[k] := List.getElem?_eq_getElem hk
    rw [world_succ hst]
    exact hstep k _ hst (ih (Nat.le_of_succ_le hk))

theorem Allowed.take {ok : World → Step → Prop} (h : Allowed ok w sts) (k : Nat) :
    Allowed ok w (sts.take k) := by
  induction k generalizing w sts with
  | zero => trivial
  | succ k ih =>
    cases sts with
    | nil => trivial
    | cons first rest => exact ⟨h.1, ih h.2⟩

end Step

/-- The worlds that can be reached from an empty store by steps which satisfy a condition. -/
inductive Reachable (ok : World → Step → Prop) : World → Prop where
  | initial : Reachable ok {}
  | step {w : World} (st : Step) : Reachable ok w → ok w st → Reachable ok (st.apply w)

theorem Reachable.mono {ok ok' : World → Step → Prop} (h : ∀ w st, ok w st → ok' w st) {w : World}
    (hw : Reachable ok w) : Reachable ok' w := by
  induction hw with
  | initial => exact .initial
  | step st _ hok ih => exact .step st ih (h _ st hok)

theorem Reachable.steps {ok : World → Step → Prop} {w : World} (hw : Reachable ok w)
    {sts : List Step} (h : Step.Allowed ok w sts) : Reachable ok (sts.foldl Step.apply w) := by
  induction sts generalizing w with
  | nil => exact hw
  | cons st sts ih => exact ih (.step st hw h.1) h.2

/-- Every world on the way is reached. -/
theorem Reachable.world {ok : World → Step → Prop} {w : World} (hw : Reachable ok w)
    {sts : List Step} (h : Step.Allowed ok w sts) (k : Nat) : Reachable ok (Step.world w sts k) :=
  hw.steps (h.take k)

/-- What every change of the store keeps, a request keeps. -/
theorem Store.Consistent.of_changes {s s' : Store} (h : ReflTransGen Store.Change s s')
    (hs : s.Consistent) : s'.Consistent := by
  induction h with
  | refl => exact hs
  | tail _ hstep ih => exact hstep.consistent ih

theorem Store.Exclusive.of_changes {s s' : Store} (h : ReflTransGen Store.Change s s')
    (hs : s.Consistent) (he : s.Exclusive) : s'.Exclusive := by
  induction h with
  | refl => exact he
  | tail hmany hstep ih => exact hstep.exclusive (hs.of_changes hmany) ih

theorem Store.SameSetup.of_changes {s s' : Store} (h : ReflTransGen Store.Change s s')
    (hs : s.Consistent) : s.SameSetup s' := by
  induction h with
  | refl => exact .refl s
  | tail hmany hstep ih => exact ih.trans (hstep.setup (hs.of_changes hmany))

/-- **A step keeps ledgers and index in order.** -/
theorem Step.consistent {w : World} {st : Step} (hs : w.store.Consistent) (hfresh : st.Fresh w) :
    (st.apply w).store.Consistent := by
  cases st with
  | request c r => exact hs.of_changes (r.changes hs.toOrdered hfresh)
  | administration a => exact a.consistent hs

namespace Reachable

variable {w : World}

/-- **In every run ledgers and index stay in order.** -/
theorem consistent (h : Reachable Step.Fresh w) : w.store.Consistent := by
  induction h with
  | initial => exact Store.consistent_empty
  | step st _ hfresh ih => exact Step.consistent ih hfresh

/-- **In every run bookings take time and do not overlap.** -/
theorem exclusive (h : Reachable Step.Fresh w) : w.store.Exclusive := by
  induction h with
  | initial => exact Store.exclusive_empty
  | step st hw hfresh ih =>
    cases st with
    | request c r =>
      exact ih.of_changes (r.changes hw.consistent.toOrdered hfresh) hw.consistent
    | administration a => exact a.exclusive ih

/-- In every run that does not move spaces, the ledgers are those of the spaces' locations. -/
theorem located (h : Reachable (fun w st => st.Fresh w ∧ st.KeepsLocations w) w) :
    w.store.Located := by
  induction h with
  | initial => exact Store.located_empty
  | step st hw hok ih =>
    have hs := (hw.mono fun _ _ => And.left).consistent
    cases st with
    | request c r => exact (Store.SameSetup.of_changes (r.changes hs.toOrdered hok.1) hs).located ih
    | administration a => exact a.located hs ih hok.2

/-- In every run locations are stored under their own identifiers. -/
theorem keyed (h : Reachable Step.Fresh w) : w.store.Keyed := by
  induction h with
  | initial => exact Store.keyed_empty
  | step st hw hfresh ih =>
    have hs := hw.consistent
    cases st with
    | request c r => exact (Store.SameSetup.of_changes (r.changes hs.toOrdered hfresh) hs).keyed ih
    | administration a => exact a.keyed ih

end Reachable

/-! ## A small run -/

namespace Sample

/-- An administrator of the organization with identifier 1. -/
def admin : User := ⟨.ofNat 2, .ofNat 1, .orgAdmin⟩

/-- A location where two bookings may overlap. -/
def location : Location := ⟨.ofNat 3, .ofNat 1, "Main street", "", 2⟩

def desk : Space := ⟨.ofNat 4, .ofNat 3, "Desk", false⟩

def room : Space := ⟨.ofNat 5, .ofNat 3, "Room", false⟩

/-- A time of day on 2001-09-15 and the days after it. -/
def clock (day : Nat) (hour : Fin 24) : LocalTime :=
  { LocalTime.midnight (.clamp (11580 + day)) with
    second := hour * 3600
    second_lt := by omega
    leap_second := by simp [LocalTime.midnight] }

/-- The store is in order, and it is 2001-09-09 in universal time. -/
def conditions : Conditions where
  zones _ := some ZoneTable.universal
  now := 1000000000000
  mint n := .ofNat (100 + n)

theorem reliable : conditions.Reliable := ⟨fun _ _ => rfl, fun _ _ => rfl⟩

/-- Nothing is ever reported as a conflict. -/
def stale : Conditions := { conditions with misreport := fun _ _ => some [] }

/-- The third time that a booking is stored fails. -/
def flaky : Conditions :=
  { conditions with
    outage := fun call n =>
      if call = .insertBooking ∧ n = 2 then some (.unavailable "timeout") else none }

/-- One of the calls to the store fails whenever it is made. -/
def down (call : StoreCall) : Conditions :=
  { conditions with
    outage := fun made _ => if made = call then some (.unavailable "timeout") else none }

def request : BookingRequest := ⟨.ofNat 4, clock 1 9, clock 1 12, "", none⟩

/-- The hour after that. -/
def later : BookingRequest := { request with enter := clock 1 12, leave := clock 1 13 }

/-- Thirteen hours at the desk, 26 days ahead. -/
def excessive : BookingRequest := { request with enter := clock 20 8, leave := clock 20 21 }

/-- One hour on that day. -/
def distant : BookingRequest := { excessive with leave := clock 20 9 }

/-- The desk every day, from a slot which is taken in the run below. -/
def daily : SeriesRequest := ⟨.ofNat 4, clock 1 9, clock 1 12, clock 4 0, .daily 1, "", none⟩

/-- The last of these days, in the room. -/
def lastDay : BookingRequest := ⟨.ofNat 5, clock 3 9, clock 3 12, "", none⟩

def steps : List Step :=
  [.administration (.putLocation location), .administration (.putSpace desk [] []),
    .request conditions (.book admin request)]

/-- A desk with one booking. -/
def world : World := steps.foldl Step.apply {}

theorem reachable : Reachable (fun w st => st.Fresh w ∧ st.KeepsLocations w) world :=
  Reachable.initial.steps (by decide +kernel)

theorem reachable_fresh : Reachable Step.Fresh world := reachable.mono fun _ _ => And.left

end Sample

end SpaceBooking
