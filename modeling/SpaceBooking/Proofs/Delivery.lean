import Mathlib.Algebra.GroupWithZero.Nat
import Mathlib.Data.List.Perm.Basic
import SpaceBooking.Notify.Dispatcher

/-!
# Delivery of notices

Calls that hand events to a dispatcher and steps of its workers may come in any order. A `Trace` is
a dispatcher with what it answered to the calls so far.

What is promised to an accepted event is its `fanOut`: one offer to each sink, in the order of the
sinks. At each moment an accepted event is either `open` — it waits in the queue, or a worker has
offered it to some of the sinks — or its fan-out is complete.

* `Promise` — the offers so far are what is promised, apart from what is open.
* `Promise.accept`, `Promise.offer`, `Promise.finish` — what the moves do to it.
* `Trace.Sound` — what holds of every trace, kept by each move (`Trace.Sound.move`).
* `step_toDo`, `exists_idle` — every step of a worker is progress, so the workers come to rest.
* `delivers_exactly_once` — a dispatcher at rest has offered each accepted event to each sink once
  and in order, and nothing else.
-/

namespace SpaceBooking

namespace Dispatcher

/-! ## Promises -/

/-- The offers that are promised to an accepted event. -/
def fanOut (sinks : List (Event → Bool)) (n : Notice) : List Offer :=
  sinks.mapIdx fun i sink => ⟨n, i, sink n.event⟩

/-- The offers of one accepted event, in order. -/
def offersOf (offers : List Offer) (ticket : Nat) : List Offer :=
  offers.filter fun o => o.notice.ticket = ticket

/-- The notices that are not offered to all sinks yet, with the sink that comes next. -/
def openings (d : Dispatcher) : List Delivery :=
  d.queue.map (⟨·, 0⟩) ++ d.workers.filterMap id

/-- The offers that were made are those that were promised to the accepted events, apart from what
is still open. -/
structure Promise (sinks : List (Event → Bool)) (accepted : List Event) (openings : List Delivery)
    (offers : List Offer) : Prop where
  distinct : (openings.map (·.notice.ticket)).Nodup
  known : ∀ j ∈ openings, accepted[j.notice.ticket]? = some j.notice.event
  within : ∀ j ∈ openings, j.next ≤ sinks.length
  offered : ∀ o ∈ offers, accepted[o.notice.ticket]? = some o.notice.event
  partly : ∀ j ∈ openings,
    offersOf offers j.notice.ticket = (fanOut sinks j.notice).take j.next
  wholly : ∀ i e, accepted[i]? = some e → (∀ j ∈ openings, j.notice.ticket ≠ i) →
    offersOf offers i = fanOut sinks ⟨i, e⟩
  /-- Each accepted event stands for an offer to each sink, made or to come. -/
  total : offers.length + (openings.map fun j => sinks.length - j.next).sum =
    accepted.length * sinks.length

theorem length_fanOut (sinks : List (Event → Bool)) (n : Notice) :
    (fanOut sinks n).length = sinks.length := List.length_mapIdx

theorem offersOf_append (os os' : List Offer) (i : Nat) :
    offersOf (os ++ os') i = offersOf os i ++ offersOf os' i := List.filter_append ..

namespace Promise

variable {sinks : List (Event → Bool)} {accepted : List Event} {js js' : List Delivery}
  {offers : List Offer} {j : Delivery}

theorem nil (sinks : List (Event → Bool)) : Promise sinks [] [] [] where
  distinct := .nil
  known := by simp
  within := by simp
  offered := by simp
  partly := by simp
  wholly := by simp
  total := by simp

/-- It does not matter who has which notice. -/
theorem perm (h : Promise sinks accepted js offers) (hp : js.Perm js') :
    Promise sinks accepted js' offers where
  distinct := (hp.map _).nodup_iff.1 h.distinct
  known j hj := h.known j (hp.mem_iff.2 hj)
  within j hj := h.within j (hp.mem_iff.2 hj)
  offered := h.offered
  partly j hj := h.partly j (hp.mem_iff.2 hj)
  wholly i e hi hno := h.wholly i e hi fun j hj => hno j (hp.mem_iff.1 hj)
  total := by rw [← (hp.map _).sum_nat, h.total]

theorem ticket_lt (h : Promise sinks accepted js offers) (hj : j ∈ js) :
    j.notice.ticket < accepted.length := by
  have hknown := h.known j hj
  rw [List.getElem?_eq_some_iff] at hknown
  exact hknown.1

/-- **An event is accepted**: nothing was offered of it, and all is open. -/
theorem accept (h : Promise sinks accepted js offers) (e : Event) :
    Promise sinks (accepted ++ [e]) (⟨⟨accepted.length, e⟩, 0⟩ :: js) offers := by
  have hkeep : ∀ {i : Nat} {e' : Event}, accepted[i]? = some e' →
      (accepted ++ [e])[i]? = some e' := by
    intro i e' hi
    have hlt : i < accepted.length := (List.getElem?_eq_some_iff.1 hi).1
    rw [List.getElem?_append_left hlt, hi]
  have hnone : offersOf offers accepted.length = [] := by
    unfold offersOf
    rw [List.filter_eq_nil_iff]
    intro o ho
    have hlt := (List.getElem?_eq_some_iff.1 (h.offered o ho)).1
    simp only [decide_eq_true_eq]
    omega
  constructor
  · refine List.nodup_cons.2 ⟨fun hmem => ?_, h.distinct⟩
    obtain ⟨j, hj, heq⟩ := List.mem_map.1 hmem
    have hlt := h.ticket_lt hj
    simp only at heq
    omega
  · intro j hj
    rcases List.mem_cons.1 hj with rfl | hj
    · simp
    · exact hkeep (h.known j hj)
  · intro j hj
    rcases List.mem_cons.1 hj with rfl | hj
    · simp
    · exact h.within j hj
  · intro o ho
    exact hkeep (h.offered o ho)
  · intro j hj
    rcases List.mem_cons.1 hj with rfl | hj
    · simpa using hnone
    · exact h.partly j hj
  · intro i e' hi hno
    have hne : i ≠ accepted.length := fun heq => hno _ List.mem_cons_self heq.symm
    have hlt : i < accepted.length := by
      have hlt := (List.getElem?_eq_some_iff.1 hi).1
      rw [List.length_append, List.length_singleton] at hlt
      omega
    rw [List.getElem?_append_left hlt] at hi
    exact h.wholly i e' hi fun j hj => hno j (List.mem_cons_of_mem _ hj)
  · have htotal := h.total
    simp only [List.map_cons, List.sum_cons, List.length_append, List.length_singleton,
      Nat.add_mul]
    omega

/-- The others that are open have other tickets. -/
theorem ticket_ne (h : Promise sinks accepted (j :: js) offers) :
    ∀ k ∈ js, k.notice.ticket ≠ j.notice.ticket := by
  intro k hk heq
  have hnodup := List.nodup_cons.1 h.distinct
  exact hnodup.1 (List.mem_map.2 ⟨k, hk, heq⟩)

/-- **A notice is offered to the next sink.** -/
theorem offer {sink : Event → Bool} (h : Promise sinks accepted (j :: js) offers)
    (hsink : sinks[j.next]? = some sink) :
    Promise sinks accepted ({ j with next := j.next + 1 } :: js)
      (offers ++ [⟨j.notice, j.next, sink j.notice.event⟩]) := by
  have hlt : j.next < sinks.length := (List.getElem?_eq_some_iff.1 hsink).1
  have hother : ∀ i, i ≠ j.notice.ticket →
      offersOf (offers ++ [⟨j.notice, j.next, sink j.notice.event⟩]) i = offersOf offers i := by
    intro i hi
    rw [offersOf_append]
    simp [offersOf, Ne.symm hi]
  constructor
  · exact h.distinct
  · intro k hk
    rcases List.mem_cons.1 hk with rfl | hk
    · exact h.known j List.mem_cons_self
    · exact h.known k (List.mem_cons_of_mem _ hk)
  · intro k hk
    rcases List.mem_cons.1 hk with rfl | hk
    · exact hlt
    · exact h.within k (List.mem_cons_of_mem _ hk)
  · intro o ho
    rcases List.mem_append.1 ho with ho | ho
    · exact h.offered o ho
    · rw [List.mem_singleton.1 ho]
      exact h.known j List.mem_cons_self
  · intro k hk
    rcases List.mem_cons.1 hk with rfl | hk
    · have hnext : (fanOut sinks j.notice)[j.next]? =
          some ⟨j.notice, j.next, sink j.notice.event⟩ := by
        rw [fanOut, List.getElem?_mapIdx, hsink]
        rfl
      rw [offersOf_append, h.partly j List.mem_cons_self, List.take_add_one, hnext]
      simp [offersOf]
    · rw [hother _ (h.ticket_ne k hk)]
      exact h.partly k (List.mem_cons_of_mem _ hk)
  · intro i e hi hno
    have hne : i ≠ j.notice.ticket := fun heq => hno _ List.mem_cons_self heq.symm
    rw [hother i hne]
    refine h.wholly i e hi fun k hk => ?_
    rcases List.mem_cons.1 hk with rfl | hk
    · exact Ne.symm hne
    · exact hno k (List.mem_cons_of_mem _ hk)
  · have htotal := h.total
    simp only [List.map_cons, List.sum_cons, List.length_append, List.length_singleton]
      at htotal ⊢
    omega

/-- **A notice that was offered to all sinks** is complete. -/
theorem finish (h : Promise sinks accepted (j :: js) offers) (hlast : sinks.length ≤ j.next) :
    Promise sinks accepted js offers where
  distinct := (List.nodup_cons.1 h.distinct).2
  known k hk := h.known k (List.mem_cons_of_mem _ hk)
  within k hk := h.within k (List.mem_cons_of_mem _ hk)
  offered := h.offered
  partly k hk := h.partly k (List.mem_cons_of_mem _ hk)
  wholly i e hi hno := by
    by_cases heq : i = j.notice.ticket
    · subst heq
      have hknown := h.known j List.mem_cons_self
      rw [hi] at hknown
      cases hknown
      rw [h.partly j List.mem_cons_self, List.take_of_length_le (by rwa [length_fanOut])]
    · refine h.wholly i e hi fun k hk => ?_
      rcases List.mem_cons.1 hk with rfl | hk
      · exact Ne.symm heq
      · exact hno k hk
  total := by
    have htotal := h.total
    simp only [List.map_cons, List.sum_cons] at htotal
    omega

end Promise

/-! ## The steps of a worker -/

variable {d : Dispatcher} {w : Nat}

/-- A worker that has nothing to do stays as it is; else it takes the first notice of the queue,
offers the one that it has to the next sink, or is done with it. -/
theorem step_cases (d : Dispatcher) (w : Nat) :
    (d.step w = d ∧ (d.workers[w]? = none ∨ d.workers[w]? = some none ∧ d.queue = [])) ∨
    (∃ n rest, d.workers[w]? = some none ∧ d.queue = n :: rest ∧
      d.step w = { d with queue := rest, workers := d.workers.set w (some ⟨n, 0⟩) }) ∨
    (∃ j sink, d.workers[w]? = some (some j) ∧ d.sinks[j.next]? = some sink ∧
      d.step w = { d.offer j.notice j.next sink with
        workers := d.workers.set w (some { j with next := j.next + 1 }) }) ∨
    ∃ j, d.workers[w]? = some (some j) ∧ d.sinks.length ≤ j.next ∧
      d.step w = { d with workers := d.workers.set w none } := by
  unfold step
  cases hw : d.workers[w]? with
  | none => exact .inl ⟨rfl, .inl rfl⟩
  | some worker =>
    cases worker with
    | none =>
      cases hq : d.queue with
      | nil => exact .inl ⟨rfl, .inr ⟨rfl, rfl⟩⟩
      | cons n rest => exact .inr (.inl ⟨n, rest, rfl, rfl, rfl⟩)
    | some j =>
      cases hs : d.sinks[j.next]? with
      | some sink => exact .inr (.inr (.inl ⟨j, sink, rfl, hs, by simp only [hs]⟩))
      | none =>
        have hlast := List.getElem?_eq_none_iff.1 hs
        exact .inr (.inr (.inr ⟨j, rfl, hlast, by simp only [hs]⟩))

/-- The worker at a place can be told apart from the others. -/
theorem filterMap_set_perm {α : Type} {l : List (Option α)} {old : Option α}
    (h : l[w]? = some old) (new : Option α) :
    ∃ rest, (l.filterMap id).Perm (old.toList ++ rest) ∧
      ((l.set w new).filterMap id).Perm (new.toList ++ rest) := by
  obtain ⟨hlt, rfl⟩ := List.getElem?_eq_some_iff.1 h
  have hcons (o : Option α) (l' : List (Option α)) :
      (o :: l').filterMap id = o.toList ++ l'.filterMap id := by
    cases o <;> simp
  refine ⟨(l.eraseIdx w).filterMap id, ?_, ?_⟩
  · rw [← hcons]
    exact ((List.getElem_cons_eraseIdx_perm hlt).filterMap id).symm
  · rw [← hcons]
    exact (List.set_perm_cons_eraseIdx hlt new).filterMap id

/-- What the steps of a worker do to the promise. -/
theorem Promise.step {accepted : List Event}
    (h : Promise d.sinks accepted d.openings d.offers) (w : Nat) :
    Promise d.sinks accepted (d.step w).openings (d.step w).offers := by
  rcases step_cases d w with ⟨hstep, -⟩ | ⟨n, rest, hw, hq, hstep⟩ | ⟨j, sink, hw, hsink, hstep⟩ |
    ⟨j, hw, hlast, hstep⟩
  · rw [hstep]
    exact h
  · -- the notice goes from the queue to the worker, and is open all the time
    obtain ⟨others, hold, hnew⟩ := filterMap_set_perm hw (some ⟨n, 0⟩)
    rw [hstep]
    refine h.perm ?_
    simp only [openings, hq, List.map_cons]
    refine (hold.append_left _).trans (List.Perm.trans ?_ (hnew.symm.append_left _))
    exact List.perm_middle.symm
  · obtain ⟨others, hold, hnew⟩ := filterMap_set_perm hw (some { j with next := j.next + 1 })
    rw [hstep]
    have hopen : d.openings.Perm (j :: (d.queue.map (⟨·, 0⟩) ++ others)) :=
      (hold.append_left _).trans List.perm_middle
    exact ((h.perm hopen).offer hsink).perm
      (List.perm_middle.symm.trans (hnew.symm.append_left _))
  · obtain ⟨others, hold, hnew⟩ := filterMap_set_perm hw none
    rw [hstep]
    have hopen : d.openings.Perm (j :: (d.queue.map (⟨·, 0⟩) ++ others)) :=
      (hold.append_left _).trans List.perm_middle
    exact ((h.perm hopen).finish hlast).perm (hnew.symm.append_left _)

/-- What a step of a worker leaves as it is; the queue does not get longer. -/
structure Kept (d d' : Dispatcher) : Prop where
  sinks : d'.sinks = d.sinks
  capacity : d'.capacity = d.capacity
  workers : d'.workers.length = d.workers.length
  accepted : d'.accepted = d.accepted
  queue : d'.queue.length ≤ d.queue.length
  dropped : d'.metrics.count .noticeDropped = d.metrics.count .noticeDropped

theorem step_kept (d : Dispatcher) (w : Nat) : Kept d (d.step w) := by
  rcases step_cases d w with ⟨hstep, -⟩ | ⟨n, rest, -, hq, hstep⟩ | ⟨j, sink, -, -, hstep⟩ |
    ⟨j, -, -, hstep⟩
  · rw [hstep]
    exact ⟨rfl, rfl, rfl, rfl, Nat.le_refl _, rfl⟩
  · rw [hstep]
    exact ⟨rfl, rfl, List.length_set, rfl, by simp [hq], rfl⟩
  · rw [hstep]
    refine ⟨rfl, rfl, List.length_set, rfl, Nat.le_refl _, ?_⟩
    simp only [offer, Tally.count_bump]
    cases sink j.notice.event <;> simp
  · rw [hstep]
    exact ⟨rfl, rfl, List.length_set, rfl, Nat.le_refl _, rfl⟩

/-- The counters tell how many offers were taken and how many were not. -/
structure Counted (d : Dispatcher) : Prop where
  delivered : d.metrics.count .noticeDelivered = d.offers.countP (·.taken)
  failed : d.metrics.count .noticeFailed = d.offers.countP (!·.taken)

theorem Counted.step (h : d.Counted) (w : Nat) : (d.step w).Counted := by
  rcases step_cases d w with ⟨hstep, -⟩ | ⟨n, rest, -, -, hstep⟩ | ⟨j, sink, -, -, hstep⟩ |
    ⟨j, -, -, hstep⟩
  · rwa [hstep]
  · rw [hstep]
    exact ⟨h.delivered, h.failed⟩
  · rw [hstep]
    constructor
    · simp only [offer, Tally.count_bump, List.countP_append, h.delivered]
      cases sink j.notice.event <;> simp
    · simp only [offer, Tally.count_bump, List.countP_append, h.failed]
      cases sink j.notice.event <;> simp
  · rw [hstep]
    exact ⟨h.delivered, h.failed⟩

theorem Counted.total (h : d.Counted) :
    d.metrics.count .noticeDelivered + d.metrics.count .noticeFailed = d.offers.length := by
  rw [h.delivered, h.failed, List.length_eq_countP_add_countP (·.taken)]
  simp

/-! ## Traces -/

/-- A call of the dispatcher, or a step of one of its workers. -/
inductive Move where
  | dispatch (e : Event)
  | work (w : Nat)

/-- A dispatcher, and what it answered to the calls so far. -/
structure Trace where
  dispatcher : Dispatcher
  answers : List (Event × Bool)

namespace Trace

/-- The trace after one more move. -/
def move (t : Trace) : Move → Trace
  | .dispatch e =>
    ⟨(t.dispatcher.dispatch e).2, t.answers ++ [(e, (t.dispatcher.dispatch e).1)]⟩
  | .work w => ⟨t.dispatcher.step w, t.answers⟩

/-- The trace after some more moves. -/
def run (t : Trace) (moves : List Move) : Trace := moves.foldl move t

/-- The events that were accepted, in order; the place of each is its ticket. -/
def accepted (t : Trace) : List Event := (t.answers.filter (·.2)).map (·.1)

/-- What a new dispatcher makes of some moves. -/
def start (sinks : List (Event → Bool)) (workers queue : Nat) : Trace :=
  ⟨.start sinks workers queue, []⟩

/-- What holds of every trace. -/
structure Sound (sinks : List (Event → Bool)) (workers queue : Nat) (t : Trace) : Prop where
  sinks_eq : t.dispatcher.sinks = sinks
  capacity_eq : t.dispatcher.capacity = max queue 1
  workers_eq : t.dispatcher.workers.length = max workers 1
  room : t.dispatcher.queue.length ≤ max queue 1
  accepted_eq : t.dispatcher.accepted = t.accepted.length
  promise : Promise sinks t.accepted t.dispatcher.openings t.dispatcher.offers
  counted : t.dispatcher.Counted
  dropped : t.dispatcher.metrics.count .noticeDropped = t.answers.countP (!·.2)

namespace Sound

variable {sinks : List (Event → Bool)} {workers queue : Nat} {t : Trace}

theorem start (sinks : List (Event → Bool)) (workers queue : Nat) :
    Sound sinks workers queue (.start sinks workers queue) where
  sinks_eq := rfl
  capacity_eq := rfl
  workers_eq := List.length_replicate
  room := Nat.zero_le _
  accepted_eq := rfl
  promise := by
    have hnone : (Dispatcher.start sinks workers queue).openings = [] := by
      simp [openings, Dispatcher.start]
    exact hnone.symm ▸ Promise.nil sinks
  counted := ⟨rfl, rfl⟩
  dropped := rfl

/-- **A call is refused exactly if the queue is full.** -/
theorem dispatch_eq_false_iff (h : Sound sinks workers queue t) (e : Event) :
    (t.dispatcher.dispatch e).1 = false ↔ t.dispatcher.queue.length = max queue 1 := by
  have hroom := h.room
  unfold dispatch
  rw [h.capacity_eq]
  split
  · simp only [Bool.true_eq_false, false_iff]
    omega
  · simp only [true_iff]
    omega

theorem accept (h : Sound sinks workers queue t)
    (hroom : t.dispatcher.queue.length < t.dispatcher.capacity) (e : Event) :
    Sound sinks workers queue ⟨{ t.dispatcher with
      queue := t.dispatcher.queue ++ [⟨t.dispatcher.accepted, e⟩],
      accepted := t.dispatcher.accepted + 1 }, t.answers ++ [(e, true)]⟩ := by
  have haccepted (d : Dispatcher) :
      accepted ⟨d, t.answers ++ [(e, true)]⟩ = t.accepted ++ [e] := by
    simp [accepted]
  refine { sinks_eq := h.sinks_eq, capacity_eq := h.capacity_eq, workers_eq := h.workers_eq,
           room := ?_, accepted_eq := ?_, promise := ?_, counted := ?_, dropped := ?_ }
  · rw [h.capacity_eq] at hroom
    simp only [List.length_append, List.length_singleton]
    omega
  · rw [haccepted, List.length_append, List.length_singleton, h.accepted_eq]
  · rw [haccepted]
    refine (h.promise.accept e).perm ?_
    simp only [openings, List.map_append, List.map_cons, List.map_nil, List.append_assoc,
      List.singleton_append, h.accepted_eq]
    exact List.perm_middle.symm
  · exact ⟨h.counted.delivered, h.counted.failed⟩
  · simp [h.dropped]

theorem drop (h : Sound sinks workers queue t) (e : Event) :
    Sound sinks workers queue ⟨{ t.dispatcher with
      metrics := t.dispatcher.metrics.bump .noticeDropped }, t.answers ++ [(e, false)]⟩ := by
  have haccepted (d : Dispatcher) : accepted ⟨d, t.answers ++ [(e, false)]⟩ = t.accepted := by
    simp [accepted]
  refine { sinks_eq := h.sinks_eq, capacity_eq := h.capacity_eq, workers_eq := h.workers_eq,
           room := h.room, accepted_eq := ?_, promise := ?_, counted := ?_, dropped := ?_ }
  · rw [haccepted]
    exact h.accepted_eq
  · rw [haccepted]
    exact h.promise
  · constructor <;> simp [Tally.count_bump, h.counted.delivered, h.counted.failed]
  · simp [Tally.count_bump, h.dropped]

theorem work (h : Sound sinks workers queue t) (w : Nat) :
    Sound sinks workers queue ⟨t.dispatcher.step w, t.answers⟩ := by
  have hkept := step_kept t.dispatcher w
  have hpromise := h.promise
  rw [← h.sinks_eq] at hpromise
  refine { sinks_eq := hkept.sinks.trans h.sinks_eq,
           capacity_eq := hkept.capacity.trans h.capacity_eq,
           workers_eq := hkept.workers.trans h.workers_eq, room := Nat.le_trans hkept.queue h.room,
           accepted_eq := hkept.accepted.trans h.accepted_eq, promise := ?_,
           counted := h.counted.step w, dropped := hkept.dropped.trans h.dropped }
  have hstep := hpromise.step w
  rwa [h.sinks_eq] at hstep

/-- **Each move keeps what holds of a trace.** -/
theorem move (h : Sound sinks workers queue t) (m : Move) :
    Sound sinks workers queue (t.move m) := by
  cases m with
  | dispatch e =>
    unfold Trace.move Dispatcher.dispatch
    by_cases hroom : t.dispatcher.queue.length < t.dispatcher.capacity
    · simp only [hroom, if_true]
      exact h.accept hroom e
    · simp only [hroom, if_false]
      exact h.drop e
  | work w => exact h.work w

/-- So any moves do. -/
theorem run (h : Sound sinks workers queue t) (moves : List Move) :
    Sound sinks workers queue (t.run moves) := by
  induction moves generalizing t with
  | nil => exact h
  | cons m moves ih => exact ih (h.move m)

end Sound

end Trace

/-! ## Progress -/

/-- Nothing waits and nobody works. -/
def Idle (d : Dispatcher) : Prop := d.queue = [] ∧ ∀ worker ∈ d.workers, worker = none

instance (d : Dispatcher) : Decidable d.Idle := inferInstanceAs (Decidable (_ ∧ _))

/-- Nothing is open then. -/
theorem Idle.openings_eq (h : d.Idle) : d.openings = [] := by
  obtain ⟨hqueue, hworkers⟩ := h
  have hnone : d.workers.filterMap id = [] := by
    rw [List.filterMap_eq_nil_iff]
    exact hworkers
  rw [openings, hqueue, hnone, List.map_nil, List.append_nil]

/-- How many steps a worker takes to be done with what it has. -/
def stepsOf (sinks : Nat) : Option Delivery → Nat
  | none => 0
  | some j => sinks - j.next + 1

/-- How many steps a worker would take to do all by itself: for each notice of the queue one to take
it, one for each sink and one to be done with it. -/
def toDo (d : Dispatcher) (w : Nat) : Nat :=
  d.queue.length * (d.sinks.length + 2) + stepsOf d.sinks.length (d.workers[w]?.getD none)

theorem toDo_le_stepsLeft (d : Dispatcher) (w : Nat) : d.toDo w ≤ d.stepsLeft := by
  have hjob (worker : Option Delivery) : stepsOf d.sinks.length worker ≤ d.sinks.length + 1 := by
    cases worker with
    | none => exact Nat.zero_le _
    | some j =>
      show d.sinks.length - j.next + 1 ≤ _
      omega
  have hone : (d.queue.length + 1) * (d.sinks.length + 2) =
      d.queue.length * (d.sinks.length + 2) + (d.sinks.length + 2) := Nat.succ_mul ..
  have hmine := hjob (d.workers[w]?.getD none)
  unfold toDo stepsLeft
  omega

/-- **Each step of a worker is progress.** -/
theorem step_toDo (hw : w < d.workers.length) : (d.step w).toDo w = d.toDo w - 1 := by
  have hat (worker : Option Delivery) : (d.workers.set w worker)[w]? = some worker := by
    rw [List.getElem?_set_self hw]
  rcases step_cases d w with ⟨hstep, hno | ⟨hidle, hqueue⟩⟩ | ⟨n, rest, hidle, hqueue, hstep⟩ |
    ⟨j, sink, hjob, hsink, hstep⟩ | ⟨j, hjob, hlast, hstep⟩
  · rw [List.getElem?_eq_none_iff] at hno
    omega
  · rw [hstep]
    simp [toDo, hidle, hqueue, stepsOf]
  · rw [hstep]
    simp only [toDo, hidle, hqueue, hat, List.length_cons, Nat.add_mul, Option.getD_some, stepsOf]
    omega
  · have hlt : j.next < d.sinks.length := (List.getElem?_eq_some_iff.1 hsink).1
    rw [hstep]
    simp only [toDo, offer, hjob, hat, Option.getD_some, stepsOf]
    omega
  · rw [hstep]
    simp only [toDo, hjob, hat, Option.getD_some, stepsOf]
    omega

/-- The other workers stay as they are. -/
theorem step_workers_of_ne {v : Nat} (hv : w ≠ v) : (d.step w).workers[v]? = d.workers[v]? := by
  rcases step_cases d w with ⟨hstep, -⟩ | ⟨n, rest, -, -, hstep⟩ | ⟨j, sink, -, -, hstep⟩ |
    ⟨j, -, -, hstep⟩ <;> rw [hstep]
  all_goals exact List.getElem?_set_ne hv

/-- A worker that has nothing left to do is idle, and the queue is empty. -/
theorem idle_of_toDo (hw : w < d.workers.length) (h : d.toDo w = 0) :
    d.queue = [] ∧ d.workers[w]? = some none := by
  unfold toDo at h
  rw [Nat.add_eq_zero_iff, Nat.mul_eq_zero, List.length_eq_zero_iff] at h
  refine ⟨h.1.resolve_right (by omega), ?_⟩
  rw [List.getElem?_eq_getElem hw, Option.getD_some] at h
  rw [List.getElem?_eq_getElem hw]
  cases hjob : d.workers[w] with
  | none => rfl
  | some j =>
    rw [hjob] at h
    cases h.2

theorem steps_kept (d : Dispatcher) (w n : Nat) : Kept d (d.steps w n) := by
  induction n generalizing d with
  | zero => exact ⟨rfl, rfl, rfl, rfl, Nat.le_refl _, rfl⟩
  | succ n ih =>
    have hstep := step_kept d w
    have hrest := ih (d.step w)
    exact ⟨hrest.sinks.trans hstep.sinks, hrest.capacity.trans hstep.capacity,
      hrest.workers.trans hstep.workers, hrest.accepted.trans hstep.accepted,
      Nat.le_trans hrest.queue hstep.queue, hrest.dropped.trans hstep.dropped⟩

theorem steps_workers_of_ne {v : Nat} (hv : w ≠ v) (n : Nat) :
    (d.steps w n).workers[v]? = d.workers[v]? := by
  induction n generalizing d with
  | zero => rfl
  | succ n ih => exact ih.trans (step_workers_of_ne hv)

theorem steps_toDo (hw : w < d.workers.length) (n : Nat) :
    (d.steps w n).toDo w = d.toDo w - n := by
  induction n generalizing d with
  | zero => rfl
  | succ n ih =>
    have hw' : w < (d.step w).workers.length := (step_kept d w).workers.symm ▸ hw
    show ((d.step w).steps w n).toDo w = _
    rw [ih hw', step_toDo hw]
    omega

/-- The worker finishes in the steps that it is given. -/
theorem steps_stepsLeft (hw : w < d.workers.length) :
    (d.steps w d.stepsLeft).queue = [] ∧ (d.steps w d.stepsLeft).workers[w]? = some none := by
  refine idle_of_toDo ((steps_kept d w _).workers.symm ▸ hw) ?_
  have hle := toDo_le_stepsLeft d w
  rw [steps_toDo hw]
  omega

/-- After the first `k` workers have had their turns, they are idle, and the queue is empty. -/
theorem turns_idle (d : Dispatcher) (k : Nat) (hk : k ≤ d.workers.length) :
    let d' := (List.range k).foldl (fun d w => d.steps w d.stepsLeft) d
    d'.workers.length = d.workers.length ∧ (0 < k → d'.queue = []) ∧
      ∀ v < k, d'.workers[v]? = some none := by
  induction k with
  | zero => exact ⟨rfl, by simp, by simp⟩
  | succ k ih =>
    obtain ⟨hlength, hqueue, hidle⟩ := ih (by omega)
    rw [List.range_succ, List.foldl_append, List.foldl_cons, List.foldl_nil]
    generalize (List.range k).foldl (fun d w => d.steps w d.stepsLeft) d = d' at *
    obtain ⟨hempty, hdone⟩ := steps_stepsLeft (d := d') (w := k) (by omega)
    refine ⟨(steps_kept d' k _).workers.trans hlength, fun _ => hempty, fun v hv => ?_⟩
    by_cases heq : k = v
    · rw [← heq]
      exact hdone
    · rw [steps_workers_of_ne heq]
      exact hidle v (by omega)

/-- **The workers come to rest** when they take turns. -/
theorem drain_idle (h : 0 < d.workers.length) : d.drain.Idle := by
  obtain ⟨hlength, hqueue, hidle⟩ := turns_idle d d.workers.length (Nat.le_refl _)
  refine ⟨hqueue h, fun worker hworker => ?_⟩
  obtain ⟨v, hv, rfl⟩ := List.mem_iff_getElem.1 hworker
  have hnone : d.drain.workers[v]? = some none := hidle v (hlength ▸ hv)
  rw [List.getElem?_eq_getElem hv] at hnone
  exact Option.some.inj hnone

/-- The turns of the workers are steps, one after the other. -/
theorem exists_turns (d : Dispatcher) (ws : List Nat) :
    ∃ steps : List Nat, ws.foldl (fun d w => d.steps w d.stepsLeft) d = steps.foldl step d := by
  induction ws generalizing d with
  | nil => exact ⟨[], rfl⟩
  | cons w ws ih =>
    have hturn (n : Nat) (d : Dispatcher) :
        d.steps w n = (List.replicate n w).foldl step d := by
      induction n generalizing d with
      | zero => rfl
      | succ n ih => exact ih (d.step w)
    obtain ⟨steps, hsteps⟩ := ih (d.steps w d.stepsLeft)
    refine ⟨List.replicate d.stepsLeft w ++ steps, ?_⟩
    rw [List.foldl_cons, hsteps, List.foldl_append, ← hturn]

theorem Trace.run_work (t : Trace) (ws : List Nat) :
    (t.run (ws.map .work)).dispatcher = ws.foldl step t.dispatcher := by
  induction ws generalizing t with
  | nil => rfl
  | cons w ws ih => exact ih (t.move (.work w))

/-- **From every moment on, steps of the workers alone lead to rest.** -/
theorem Trace.exists_idle (t : Trace) (h : 0 < t.dispatcher.workers.length) :
    ∃ ws : List Nat, (t.run (ws.map .work)).dispatcher.Idle := by
  obtain ⟨ws, hws⟩ := exists_turns t.dispatcher (List.range t.dispatcher.workers.length)
  refine ⟨ws, ?_⟩
  rw [Trace.run_work, ← hws]
  exact drain_idle h

/-! ## Delivery -/

/-- **Each accepted event is offered to each sink once.** Whatever the sinks do with the events, and
in whatever order the dispatcher is called and the workers take their steps: a call is refused
exactly if the queue is full. Steps of the workers lead to rest, and at rest the offers of each
accepted event are its fan-out, there are no other offers, and the counters tell how many offers
were taken, how many were not, and how many calls were refused. -/
theorem delivers_exactly_once (sinks : List (Event → Bool)) (workers queue : Nat)
    (moves : List Move) :
    let t := (Trace.start sinks workers queue).run moves
    t.dispatcher.workers.length = max workers 1 ∧
    (∀ e, (t.dispatcher.dispatch e).1 = false ↔ t.dispatcher.queue.length = max queue 1) ∧
    (t.dispatcher.Idle →
      (∀ i e, t.accepted[i]? = some e →
        offersOf t.dispatcher.offers i = fanOut sinks ⟨i, e⟩) ∧
      (∀ o ∈ t.dispatcher.offers, t.accepted[o.notice.ticket]? = some o.notice.event) ∧
      t.dispatcher.metrics.count .noticeDelivered + t.dispatcher.metrics.count .noticeFailed =
        t.accepted.length * sinks.length) ∧
    t.dispatcher.metrics.count .noticeFailed = t.dispatcher.offers.countP (!·.taken) ∧
    t.dispatcher.metrics.count .noticeDropped = t.answers.countP (!·.2) ∧
    ∃ ws : List Nat, (t.run (ws.map .work)).dispatcher.Idle := by
  intro t
  have h : Trace.Sound sinks workers queue t := (Trace.Sound.start sinks workers queue).run moves
  refine ⟨h.workers_eq, h.dispatch_eq_false_iff, fun hidle => ?_, h.counted.failed, h.dropped, ?_⟩
  · have hpromise := h.promise
    rw [hidle.openings_eq] at hpromise
    refine ⟨fun i e hi => hpromise.wholly i e hi (by simp), hpromise.offered, ?_⟩
    rw [h.counted.total, ← hpromise.total]
    simp
  · refine t.exists_idle ?_
    rw [h.workers_eq]
    omega

end Dispatcher

namespace Sample

/-- A series was booked, with so many instances. -/
def seriesEvent (created : Nat) : Event := .seriesCreated (.ofNat 1) (.ofNat 2) created 0

/-- One sink fails on the first event, and another takes all. There is one place in the queue, which
the second event finds taken; the two workers interleave. -/
def deliveryMoves : List Dispatcher.Move :=
  [.dispatch (seriesEvent 1), .dispatch (seriesEvent 2), .work 1, .dispatch (seriesEvent 3),
    .work 1, .work 0, .work 0, .work 1, .work 0, .work 1, .work 0]

def delivery : Dispatcher.Trace :=
  (Dispatcher.Trace.start [fun e => e ≠ seriesEvent 1, fun _ => true] 2 0).run deliveryMoves

end Sample

/-- The second event is dropped. The first and the third reach both sinks, in turns. -/
theorem Dispatcher.delivers_exactly_once_sample :
    Sample.delivery.dispatcher.Idle ∧
    Sample.delivery.answers.map (·.2) = [true, false, true] ∧
    Sample.delivery.dispatcher.offers.map (fun o => (o.notice.ticket, o.sink, o.taken)) =
      [(0, 0, false), (1, 0, true), (0, 1, true), (1, 1, true)] ∧
    offersOf Sample.delivery.dispatcher.offers 0 =
      [⟨⟨0, Sample.seriesEvent 1⟩, 0, false⟩, ⟨⟨0, Sample.seriesEvent 1⟩, 1, true⟩] ∧
    Sample.delivery.dispatcher.metrics.count .noticeDelivered +
      Sample.delivery.dispatcher.metrics.count .noticeFailed = 2 * 2 := by
  have hidle : Sample.delivery.dispatcher.Idle := by decide +kernel
  obtain ⟨-, -, hrest, -⟩ := delivers_exactly_once
    [fun e => e ≠ Sample.seriesEvent 1, fun _ => true] 2 0 Sample.deliveryMoves
  obtain ⟨hwhole, -, htotal⟩ := hrest hidle
  have hfirst : Sample.delivery.accepted[0]? = some (Sample.seriesEvent 1) := by decide +kernel
  refine ⟨hidle, by decide +kernel, by decide +kernel, hwhole 0 _ hfirst, ?_⟩
  have haccepted : Sample.delivery.accepted.length = 2 := by decide +kernel
  rw [← haccepted]
  exact htotal

end SpaceBooking
