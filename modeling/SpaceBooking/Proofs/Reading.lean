import SpaceBooking.Service.Action

/-!
# Actions that only look

Most of what the service does is asking. An action that `Reads` stores nothing, publishes nothing
and gives no identifier out, and what it ends with is its `answer`: a function of the conditions and
the store alone, unless a call to the store failed.

* `World.Unchanged` — two worlds that differ in their tallies at most.
* `Action.Reads` — the class of actions that only look. Its parameter is the conduct of the store
  under which the action ends with its answer or because a call failed.
* `Action.Reads.of_ok`, `Action.Reads.of_upFrom` — a good end is the answer, and without failing
  calls every end is.
* `Action.answer_bind` — the answer of two actions in a row is that of the one and then the other.
-/

namespace SpaceBooking

/-! ## Conditions and worlds -/

/-- How the store behaves towards the service. -/
inductive Conduct where
  /-- Calls may fail, and the search for conflicts may report anything. -/
  | any
  /-- Calls may fail. -/
  | truthful
  | reliable

namespace Conditions

/-- The search for conflicts reports what is stored. -/
def Truthful (c : Conditions) : Prop := ∀ n s, c.misreport n s = none

/-- No call from now on fails. -/
def UpFrom (c : Conditions) (w : World) : Prop :=
  ∀ call n, w.calls.count call ≤ n → c.outage call n = none

/-- The store behaves like this from now on. -/
def Shows (c : Conditions) (w : World) : Conduct → Prop
  | .any => True
  | .truthful => c.Truthful
  | .reliable => c.Truthful ∧ c.UpFrom w

/-- The store is in order: no call fails, and the search reports what is stored. -/
structure Reliable (c : Conditions) : Prop where
  up : ∀ call n, c.outage call n = none
  truthful : c.Truthful

theorem Reliable.upFrom {c : Conditions} (h : c.Reliable) (w : World) : c.UpFrom w :=
  fun call n _ => h.up call n

/-- A call to the store fails at some time, and a request for that reason. -/
def Fails (c : Conditions) (call : StoreCall) (failure : Failure) : Prop :=
  ∃ n e, c.outage call n = some e ∧ failure = Failure.ofStore e

theorem Fails.not_reliable {c : Conditions} {call : StoreCall} {failure : Failure}
    (h : c.Fails call failure) : ¬ c.Reliable := by
  obtain ⟨n, e, hdown, -⟩ := h
  intro hc
  rw [hc.up] at hdown
  cases hdown

/-- The same conditions with a store that is in order. -/
def reliably (c : Conditions) : Conditions :=
  { c with outage := fun _ _ => none, misreport := fun _ _ => none }

theorem reliably_reliable (c : Conditions) : c.reliably.Reliable := ⟨fun _ _ => rfl, fun _ _ => rfl⟩

theorem Reliable.shows {c : Conditions} (h : c.Reliable) (w : World) : ∀ r, c.Shows w r
  | .any => trivial
  | .truthful => h.truthful
  | .reliable => ⟨h.truthful, h.upFrom w⟩

@[simp] theorem reliably_reliably (c : Conditions) : c.reliably.reliably = c.reliably := rfl

@[simp] theorem reliably_config (c : Conditions) : c.reliably.config = c.config := rfl

@[simp] theorem reliably_zones (c : Conditions) : c.reliably.zones = c.zones := rfl

end Conditions

/-- Nothing was stored, published or given out; calls and other things may have been counted. -/
structure World.Unchanged (w w' : World) : Prop where
  store : w'.store = w.store
  minted : w'.minted = w.minted
  published : w'.published = w.published
  calls : ∀ call, w.calls.count call ≤ w'.calls.count call

theorem World.Unchanged.refl (w : World) : w.Unchanged w := ⟨rfl, rfl, rfl, fun _ => Nat.le_refl _⟩

theorem World.Unchanged.trans {u v w : World} (h : u.Unchanged v) (h' : v.Unchanged w) :
    u.Unchanged w :=
  ⟨h'.store.trans h.store, h'.minted.trans h.minted, h'.published.trans h.published,
    fun call => Nat.le_trans (h.calls call) (h'.calls call)⟩

theorem World.Unchanged.exists_eq {w w' : World} (h : w.Unchanged w') :
    ∃ k m, w' = { w with calls := k, metrics := m } := by
  rcases w' with ⟨s, k, n, es, m⟩
  obtain ⟨rfl, rfl, rfl, -⟩ := h
  exact ⟨k, m, rfl⟩

theorem Conditions.Shows.mono {c : Conditions} {w w' : World} (hw : w.Unchanged w') :
    ∀ {r}, c.Shows w r → c.Shows w' r
  | .any, _ => trivial
  | .truthful, h => h
  | .reliable, h => ⟨h.1, fun call n hn => h.2 call n (Nat.le_trans (hw.calls call) hn)⟩

theorem Conditions.UpFrom.mono {c : Conditions} {w w' : World} (h : c.UpFrom w)
    (hw : w.Unchanged w') : c.UpFrom w' :=
  fun call n hn => h call n (Nat.le_trans (hw.calls call) hn)

namespace Action

variable {ε δ α β : Type} {r : Conduct}

/-- What an action ends with when the store is in order and holds `s`. -/
def answer (x : Action ε α) (c : Conditions) (s : Store) : Except ε α :=
  (x c.reliably { store := s }).1

/-- The action only looks, and ends with its answer or because a call failed. -/
class Reads (r : Conduct) (x : Action ε α) : Prop where
  unchanged : ∀ (c : Conditions) (w : World), w.Unchanged (x c w).2
  outcome : ∀ (c : Conditions) (w : World), c.Shows w r → (x c w).1 = x.answer c w.store ∨
    ¬ c.UpFrom w ∧ ∃ e, (x c w).1 = .error e

namespace Reads

variable {x : Action ε α} {c : Conditions} {w w' : World} {a : α} {e : ε}

theorem of_ok [Reads .any x] (h : x c w = (.ok a, w')) :
    w.Unchanged w' ∧ x.answer c w.store = .ok a := by
  have hw := Reads.unchanged (r := .any) (x := x) c w
  have ho := Reads.outcome (r := .any) (x := x) c w trivial
  rw [h] at hw ho
  rcases ho with ho | ⟨-, e, he⟩
  · exact ⟨hw, ho.symm⟩
  · cases he

theorem of_run [hx : Reads .reliable x] {o : Except ε α} (h : x c w = (o, w')) :
    w.Unchanged w' := by
  have hw := hx.unchanged c w
  rwa [h] at hw

theorem of_upFrom [Reads r x] (ht : c.Shows w r) (hu : c.UpFrom w) :
    ∃ w', w.Unchanged w' ∧ x c w = (x.answer c w.store, w') := by
  have hw := Reads.unchanged (r := r) (x := x) c w
  refine ⟨(x c w).2, hw, ?_⟩
  rcases Reads.outcome (r := r) (x := x) c w ht with ho | ⟨hno, -⟩
  · rw [← ho]
  · exact absurd hu hno

theorem of_reliable [Reads .reliable x] (hc : c.Reliable) (w : World) :
    ∃ w', w.Unchanged w' ∧ x c w = (x.answer c w.store, w') :=
  of_upFrom (hc.shows w .reliable) (hc.upFrom w)

theorem answer_of_run [Reads .reliable x] (hc : c.Reliable) {o : Except ε α}
    (h : x c w = (o, w')) : x.answer c w.store = o := by
  obtain ⟨v, -, hrun⟩ := of_reliable (x := x) hc w
  rw [hrun] at h
  exact congrArg Prod.fst h

/-- What holds with failing calls holds without them. -/
instance (priority := low) of_truthful [hx : Reads .truthful x] : Reads .reliable x where
  unchanged := hx.unchanged
  outcome c w h := hx.outcome c w h.1

end Reads

theorem bind_of_ok {x : Action ε α} {f : α → Action ε β} {c : Conditions} {w v : World} {a : α}
    (h : x c w = (.ok a, v)) : (x >>= f) c w = f a c v := by
  rw [bind_apply, h]

theorem bind_bind {γ : Type} (x : Action ε α) (f : α → Action ε β) (g : β → Action ε γ) :
    x >>= f >>= g = x >>= fun a => f a >>= g := by
  funext c w
  simp only [bind_apply]
  rcases x c w with ⟨_ | a, v⟩ <;> rfl

/-! ## The steps -/

instance reads_pure (a : α) : Reads r (pure a : Action ε α) where
  unchanged _ w := .refl w
  outcome _ _ _ := .inl rfl

@[simp] theorem answer_pure (a : α) (c : Conditions) (s : Store) :
    (pure a : Action ε α).answer c s = .ok a := rfl

instance reads_fail (e : ε) : Reads r (fail e : Action ε α) where
  unchanged _ w := .refl w
  outcome _ _ _ := .inl rfl

theorem bind_run_answer {x : Action ε α} {f : α → Action ε β} [∀ a, Reads r (f a)]
    [hx : Reads r x] (c : Conditions) (s : Store) :
    (x >>= f).answer c s = (x.answer c s).bind fun a => (f a).answer c s := by
  obtain ⟨v, hv, hrun⟩ := Reads.of_upFrom (x := x) (r := r) (c.reliably_reliable.shows _ r)
    (c.reliably_reliable.upFrom { store := s })
  have hans : x.answer c.reliably s = x.answer c s := rfl
  unfold answer at hans ⊢
  rw [bind_apply, hrun]
  simp only [answer, Conditions.reliably_reliably]
  cases (x c.reliably { store := s }).1 with
  | error e => rfl
  | ok a =>
    obtain ⟨u, -, hf⟩ := Reads.of_upFrom (x := f a) (r := r) (c.reliably_reliable.shows v r)
      (c.reliably_reliable.upFrom v)
    simp only [Except.bind, hf, answer, Conditions.reliably_reliably, hv.store]

instance reads_bind {x : Action ε α} {f : α → Action ε β} [hx : Reads r x]
    [hf : ∀ a, Reads r (f a)] : Reads r (x >>= f) where
  unchanged c w := by
    have hw := hx.unchanged c w
    rw [bind_apply]
    rcases hrun : x c w with ⟨_ | a, v⟩
    · rw [hrun] at hw
      exact hw
    · rw [hrun] at hw
      exact hw.trans ((hf a).unchanged c v)
  outcome c w ht := by
    have hw := hx.unchanged c w
    have ho := hx.outcome c w ht
    rw [bind_run_answer (r := r), bind_apply]
    rcases hrun : x c w with ⟨e | a, v⟩
    · rw [hrun] at ho
      rcases ho with ho | ⟨hno, -⟩
      · exact .inl (by rw [← ho]; rfl)
      · exact .inr ⟨hno, e, rfl⟩
    · rw [hrun] at hw ho
      rcases ho with ho | ⟨-, e, he⟩
      · rw [← ho]
        rcases (hf a).outcome c v (ht.mono hw) with hfo | ⟨hno, he⟩
        · rw [hw.store] at hfo
          exact .inl hfo
        · exact .inr ⟨fun hu => hno (hu.mono hw), he⟩
      · cases he

theorem Reads.bind {x : Action ε α} {f : α → Action ε β} (hx : Reads r x)
    (hf : ∀ a, Reads r (f a)) : Reads r (x >>= f) :=
  reads_bind

/-- **The answer of two actions in a row** is that of the second after that of the first. -/
@[simp] theorem answer_bind {x : Action ε α} {f : α → Action ε β} [Reads .reliable x]
    [∀ a, Reads .reliable (f a)] (c : Conditions) (s : Store) :
    (x >>= f).answer c s = (x.answer c s).bind fun a => (f a).answer c s :=
  bind_run_answer (r := .reliable) c s

instance reads_ite {p : Prop} [Decidable p] {x y : Action ε α} [hx : Reads r x] [hy : Reads r y] :
    Reads r (if p then x else y) := by
  split
  · exact hx
  · exact hy

theorem answer_ite {p : Prop} [Decidable p] (x y : Action ε α) (c : Conditions) (s : Store) :
    (if p then x else y).answer c s = if p then x.answer c s else y.answer c s := by
  split <;> rfl

instance reads_ensure (ok : Bool) (e : ε) : Reads r (ensure ok e) := by
  unfold ensure
  infer_instance

@[simp] theorem answer_ensure (ok : Bool) (e : ε) (c : Conditions) (s : Store) :
    (ensure ok e).answer c s = if ok then .ok () else .error e := by
  cases ok <;> rfl

instance reads_ofOption (e : ε) (o : Option α) : Reads r (ofOption e o) := by
  cases o
  · exact reads_fail e
  · exact reads_pure _

@[simp] theorem answer_ofOption (e : ε) (o : Option α) (c : Conditions) (s : Store) :
    (ofOption e o).answer c s = o.elim (.error e) .ok := by
  cases o <;> rfl

/-- The conditions may be looked at, but not what the store will do. -/
theorem reads_conditions_bind {f : Conditions → Action ε β} [hf : ∀ c, Reads r (f c)]
    (h : ∀ c, f c.reliably = f c) : Reads r (conditions >>= f) where
  unchanged c w := (hf c).unchanged c w
  outcome c w ht := by
    have heq : (conditions >>= f).answer c w.store = (f c).answer c w.store := by
      rw [← h c]
      rfl
    rw [heq]
    exact (hf c).outcome c w ht

@[simp] theorem answer_conditions_bind (f : Conditions → Action ε β) (c : Conditions) (s : Store) :
    (conditions >>= f).answer c s = (f c.reliably).answer c s := rfl

instance reads_now : Reads r (now : Action ε Int) where
  unchanged _ w := .refl w
  outcome _ _ _ := .inl rfl

@[simp] theorem answer_now (c : Conditions) (s : Store) :
    (now : Action ε Int).answer c s = .ok c.now := rfl

instance reads_count (m : Metric) : Reads r (count m : Action ε Unit) where
  unchanged _ _ := ⟨rfl, rfl, rfl, fun _ => Nat.le_refl _⟩
  outcome _ _ _ := .inl rfl

@[simp] theorem answer_count (m : Metric) (c : Conditions) (s : Store) :
    (count m : Action ε Unit).answer c s = .ok () := rfl

instance reads_withErrors (f : ε → δ) {x : Action ε α} [hx : Reads r x] :
    Reads r (withErrors f x) where
  unchanged c w := hx.unchanged c w
  outcome c w ht := by
    show ((x c w).1.mapError f = ((x c.reliably { store := w.store }).1).mapError f) ∨ _
    rcases hx.outcome c w ht with ho | ⟨hno, e, he⟩
    · exact .inl (by rw [ho]; rfl)
    · refine .inr ⟨hno, f e, ?_⟩
      show (x c w).1.mapError f = _
      rw [he]
      rfl

instance reads_lift {x : Action StoreError α} [Reads r x] :
    Reads r (liftM x : Action Failure α) :=
  reads_withErrors Failure.ofStore

@[simp] theorem answer_lift (x : Action StoreError α) (c : Conditions) (s : Store) :
    (liftM x : Action Failure α).answer c s = (x.answer c s).mapError Failure.ofStore := rfl

-- an attempt does not fail itself, so a failing call can lie behind a good end
instance reads_attempt {x : Action ε α} [hx : Reads .reliable x] :
    Reads .reliable (attempt x : Action δ (Except ε α)) where
  unchanged c w := hx.unchanged c w
  outcome c w ht := by
    rcases hx.outcome c w ht with ho | ⟨hno, -⟩
    · refine .inl ?_
      show Except.ok (x c w).1 = .ok (x.answer c w.store)
      rw [ho]
    · exact absurd ht.2 hno

@[simp] theorem answer_attempt (x : Action ε α) (c : Conditions) (s : Store) :
    (attempt x : Action δ (Except ε α)).answer c s = .ok (x.answer c s) := rfl

/-- A call to the store that is in order passes. -/
theorem reach_apply (call : StoreCall) (c : Conditions) (w : World) :
    reach call c w =
      (match c.outage call (w.calls.count call) with
        | some e => .error e
        | none => .ok (),
        { w with calls := w.calls.bump call }) := by
  unfold reach
  split <;> rename_i h <;> simp only [h]

instance reads_reach (call : StoreCall) : Reads r (reach call) where
  unchanged c w := by
    rw [reach_apply]
    refine ⟨rfl, rfl, rfl, fun j => ?_⟩
    simp only [Tally.count_bump]
    omega
  outcome c w _ := by
    rw [reach_apply]
    cases ho : c.outage call (w.calls.count call) with
    | none => exact .inl rfl
    | some e =>
      refine .inr ⟨fun hu => ?_, e, rfl⟩
      rw [hu call _ (Nat.le_refl _)] at ho
      cases ho

instance reads_store : Reads r (store : Action ε Store) where
  unchanged _ w := .refl w
  outcome _ _ _ := .inl rfl

instance reads_ask (call : StoreCall) (f : Store → α) : Reads r (ask call f) := by
  unfold ask
  infer_instance

@[simp] theorem answer_ask (call : StoreCall) (f : Store → α) (c : Conditions) (s : Store) :
    (ask call f).answer c s = .ok (f s) := rfl

end Action

end SpaceBooking
