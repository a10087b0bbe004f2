import Mathlib.Data.List.TakeWhile
import SpaceBooking.Store.Ledger

/-!
# Ledgers in order

A ledger is searched by halving and changed in place. As long as it is in the order of start, both
come down to plain list operations:

* `partitionPoint_eq_takeWhile` — on an array in which a property can only stop once, the search by
  halving counts the elements before it stops.
* `Ledger.conflicts_eq_filter` — the conflicts of a span are the bookings that overlap it.
* `Ledger.insert_perm`, `Ledger.exists_of_remove?`, `Ledger.exists_of_modify?` — a change adds,
  removes or alters one booking and keeps the order.
-/

namespace SpaceBooking

/-! ## Search by halving -/

theorem partitionPointFrom_eq {α : Type} {p : α → Bool} {a : Array α} {k lo hi : Nat}
    {h : hi ≤ a.size} (hp : ∀ i (hi : i < a.size), p a[i] = true ↔ i < k) (hlo : lo ≤ k)
    (hhi : k ≤ hi) : partitionPointFrom p a lo hi h = k := by
  fun_induction partitionPointFrom p a lo hi h with
  | case1 lo hi h hlt mid hmid ih =>
    have hk : mid < k := (hp mid (by omega)).1 hmid
    exact ih hk hhi
  | case2 lo hi h hlt mid hmid ih =>
    have hk : ¬ mid < k := fun hk => hmid ((hp mid (by omega)).2 hk)
    exact ih hlo (by omega)
  | case3 lo hi h hlt => omega

theorem dropWhile_forall_not {α : Type} {p : α → Bool} {l : List α}
    (h : l.Pairwise fun x y => p y = true → p x = true) : ∀ x ∈ l.dropWhile p, ¬ p x = true := by
  induction l with
  | nil => simp
  | cons a as ih =>
    obtain ⟨ha, has⟩ := List.pairwise_cons.1 h
    by_cases hpa : p a = true
    · rw [List.dropWhile_cons_of_pos hpa]
      exact ih has
    · rw [List.dropWhile_cons_of_neg hpa]
      intro x hx hpx
      rcases List.mem_cons.1 hx with rfl | hx
      · exact hpa hpx
      · exact hpa (ha x hx hpx)

theorem partitionPoint_of_append {α : Type} {p : α → Bool} {a : Array α} {xs ys : List α}
    (ha : a.toList = xs ++ ys) (hxs : ∀ x ∈ xs, p x = true) (hys : ∀ y ∈ ys, ¬ p y = true) :
    partitionPoint p a = xs.length := by
  obtain ⟨l⟩ := a
  simp only at ha
  subst ha
  refine partitionPointFrom_eq (fun i hi => ?_) (Nat.zero_le _) (by simp)
  simp only [List.getElem_toArray, List.getElem_append]
  split
  · rename_i hlt
    exact iff_of_true (hxs _ (List.getElem_mem hlt)) hlt
  · rename_i hge
    exact iff_of_false (hys _ (List.getElem_mem _)) hge

/-- **The search by halving finds where a property stops**, if no element has it after one that
has it not. -/
theorem partitionPoint_eq_takeWhile {α : Type} {p : α → Bool} {a : Array α}
    (h : a.toList.Pairwise fun x y => p y = true → p x = true) :
    partitionPoint p a = (a.toList.takeWhile p).length :=
  partitionPoint_of_append List.takeWhile_append_dropWhile.symm
    (fun _ hx => List.mem_takeWhile_imp hx) (dropWhile_forall_not h)

theorem take_length_takeWhile {α : Type} (p : α → Bool) (l : List α) :
    l.take (l.takeWhile p).length = l.takeWhile p :=
  (List.prefix_iff_eq_take.1 (List.takeWhile_prefix p)).symm

theorem drop_length_takeWhile {α : Type} (p : α → Bool) (l : List α) :
    l.drop (l.takeWhile p).length = l.dropWhile p := by
  have h := List.take_append_drop (l.takeWhile p).length l
  rw [take_length_takeWhile] at h
  exact List.append_cancel_left (h.trans List.takeWhile_append_dropWhile.symm)

namespace Ledger

/-- The bookings come in the order of start. -/
def Sorted (l : Ledger) : Prop :=
  l.bookings.toList.Pairwise fun a b => a.span.start ≤ b.span.start

variable {l l' : Ledger} {b : Booking} {id : Id} {query : Span} {exclude : Option Id}

theorem Sorted.startsBefore (h : l.Sorted) (t : Int) :
    l.bookings.toList.Pairwise fun a b =>
      decide (b.span.start < t) = true → decide (a.span.start < t) = true := by
  refine List.Pairwise.imp (fun {a b} hab => ?_) h
  simp only [decide_eq_true_eq]
  omega

/-! ## Conflicts -/

theorem overlapping_eq_filter (h : l.Sorted) (query : Span) :
    l.overlapping query = l.bookings.toList.filter fun b => b.span.overlaps query := by
  have hpre := partitionPoint_eq_takeWhile (h.startsBefore query.stop)
  have hpost := dropWhile_forall_not (h.startsBefore query.stop)
  have hsplit := List.takeWhile_append_dropWhile (p := fun b : Booking =>
    decide (b.span.start < query.stop)) (l := l.bookings.toList)
  simp only [overlapping, hpre, Array.toList_extract, List.extract_eq_take_drop, Nat.sub_zero,
    List.drop_zero, take_length_takeWhile]
  rw [← hsplit, List.filter_append, hsplit]
  -- those that start too late overlap nothing before the stop
  have hnone : (l.bookings.toList.dropWhile fun b => decide (b.span.start < query.stop)).filter
      (fun b => b.span.overlaps query) = [] := by
    rw [List.filter_eq_nil_iff]
    intro b hb
    have := hpost b hb
    simp only [decide_eq_true_eq] at this
    simp [Span.overlaps, this]
  rw [hnone, List.append_nil]
  refine List.filter_congr fun b hb => ?_
  have := List.mem_takeWhile_imp hb
  simp only [decide_eq_true_eq] at this
  simp [Span.overlaps, this]

/-- **The conflicts of a span are the bookings that overlap it**, in the order of start. -/
theorem conflicts_eq_filter (h : l.Sorted) (query : Span) (exclude : Option Id) :
    l.conflicts query exclude =
      l.bookings.toList.filter fun b => b.span.overlaps query && decide (some b.id ≠ exclude) := by
  unfold conflicts
  rw [overlapping_eq_filter h, List.filter_filter]
  refine List.filter_congr fun b _ => ?_
  rw [Bool.and_comm]

theorem mem_conflicts (h : l.Sorted) :
    b ∈ l.conflicts query exclude ↔
      b ∈ l.bookings.toList ∧ b.span.overlaps query = true ∧ some b.id ≠ exclude := by
  rw [conflicts_eq_filter h, List.mem_filter, Bool.and_eq_true, decide_eq_true_eq]

/-- The first conflict starts no later than any other. -/
theorem start_le_of_conflicts (h : l.Sorted) {first : Booking} {rest : List Booking}
    (hc : l.conflicts query exclude = first :: rest) :
    ∀ b ∈ l.conflicts query exclude, first.span.start ≤ b.span.start := by
  have hs : (l.conflicts query exclude).Pairwise fun a b => a.span.start ≤ b.span.start := by
    rw [conflicts_eq_filter h]
    exact List.Pairwise.filter _ h
  rw [hc] at hs ⊢
  intro b hb
  rcases List.mem_cons.1 hb with rfl | hb
  · exact Int.le_refl _
  · exact (List.pairwise_cons.1 hs).1 b hb

/-- Leaving out an identifier that no booking has makes no difference. -/
theorem conflicts_of_ne (h : l.Sorted) (hne : ∀ c ∈ l.bookings.toList, c.id ≠ id) (query : Span) :
    l.conflicts query (some id) = l.conflicts query none := by
  rw [conflicts_eq_filter h, conflicts_eq_filter h]
  refine List.filter_congr fun c hc => ?_
  simp [hne c hc]

/-- **Leaving a booking out is searching a ledger that does not have it.** -/
theorem conflicts_leftOut {pre post : List Booking} (h : l.Sorted) (h' : l'.Sorted)
    (hwith : l.bookings.toList = pre ++ b :: post) (hwithout : l'.bookings.toList = pre ++ post)
    (hother : ∀ c ∈ pre ++ post, c.id ≠ b.id) (query : Span) :
    l.conflicts query (some b.id) = l'.conflicts query none := by
  rw [← conflicts_of_ne h' (hwithout ▸ hother), conflicts_eq_filter h, conflicts_eq_filter h',
    hwith, hwithout, List.filter_append, List.filter_append, List.filter_cons_of_neg (by simp)]

/-! ## Changes -/

theorem insert_toList (h : l.Sorted) (b : Booking) :
    (l.insert b).bookings.toList =
      l.bookings.toList.takeWhile (fun c => decide (c.span.start < b.span.start)) ++
        b :: l.bookings.toList.dropWhile (fun c => decide (c.span.start < b.span.start)) := by
  have hpre := partitionPoint_eq_takeWhile (h.startsBefore b.span.start)
  simp only [insert, hpre, Array.toList_append, Array.toList_push, Array.toList_extract,
    List.extract_eq_take_drop, Nat.sub_zero, List.drop_zero, take_length_takeWhile,
    drop_length_takeWhile, List.append_assoc, List.cons_append, List.nil_append]
  rw [List.take_of_length_le]
  rw [← drop_length_takeWhile, List.length_drop, Array.length_toList]

theorem insert_perm (h : l.Sorted) (b : Booking) :
    ((l.insert b).bookings.toList).Perm (b :: l.bookings.toList) := by
  rw [insert_toList h]
  refine List.perm_middle.trans (List.Perm.cons b ?_)
  rw [List.takeWhile_append_dropWhile]

theorem Sorted.insert (h : l.Sorted) (b : Booking) : (l.insert b).Sorted := by
  have hpost := dropWhile_forall_not (h.startsBefore b.span.start)
  unfold Sorted at h ⊢
  rw [insert_toList h]
  have hsplit : (l.bookings.toList.takeWhile (fun c => decide (c.span.start < b.span.start)) ++
      l.bookings.toList.dropWhile (fun c => decide (c.span.start < b.span.start))).Pairwise
        fun a b => a.span.start ≤ b.span.start := by
    rw [List.takeWhile_append_dropWhile]
    exact h
  obtain ⟨hpre, hdrop, hcross⟩ := List.pairwise_append.1 hsplit
  refine List.pairwise_append.2 ⟨hpre, List.pairwise_cons.2 ⟨fun c hc => ?_, hdrop⟩, ?_⟩
  · have := hpost c hc
    simp only [decide_eq_true_eq] at this
    omega
  · intro a ha c hc
    rcases List.mem_cons.1 hc with rfl | hc
    · have := List.mem_takeWhile_imp ha
      simp only [decide_eq_true_eq] at this
      omega
    · exact hcross a ha c hc

theorem toList_split_of_findIdx? {i : Nat} (h : l.bookings.findIdx? (·.id = id) = some i) :
    ∃ pre b post, l.bookings.toList = pre ++ b :: post ∧ b.id = id ∧ pre.length = i := by
  rw [Array.findIdx?_eq_some_iff_getElem] at h
  obtain ⟨hi, hid, -⟩ := h
  refine ⟨l.bookings.toList.take i, l.bookings[i], l.bookings.toList.drop (i + 1), ?_, ?_, ?_⟩
  · rw [← Array.getElem_toList (by simpa using hi), List.getElem_cons_drop,
      List.take_append_drop]
  · simpa using hid
  · simp only [List.length_take, Array.length_toList]
    omega

/-- What is left after a removal are the other bookings, in their order. -/
theorem exists_of_remove? (h : l.remove? id = some l') :
    ∃ pre b post, l.bookings.toList = pre ++ b :: post ∧ b.id = id ∧
      l'.bookings.toList = pre ++ post ∧ l'.location = l.location := by
  obtain ⟨i, hi, rfl⟩ := Option.map_eq_some_iff.1 h
  obtain ⟨pre, b, post, hsplit, hid, rfl⟩ := toList_split_of_findIdx? hi
  refine ⟨pre, b, post, hsplit, hid, ?_, rfl⟩
  simp [hsplit, List.eraseIdx_append_of_length_le]

/-- A change of one booking leaves the others as they are. -/
theorem exists_of_modify? {f : Booking → Booking} (h : l.modify? id f = some l') :
    ∃ pre b post, l.bookings.toList = pre ++ b :: post ∧ b.id = id ∧
      l'.bookings.toList = pre ++ f b :: post ∧ l'.location = l.location := by
  obtain ⟨i, hi, rfl⟩ := Option.map_eq_some_iff.1 h
  obtain ⟨pre, b, post, hsplit, hid, rfl⟩ := toList_split_of_findIdx? hi
  refine ⟨pre, b, post, hsplit, hid, ?_, rfl⟩
  simp [hsplit, List.modify_eq_take_cons_drop]

theorem exists_findIdx? (h : ∃ b ∈ l.bookings.toList, b.id = id) :
    ∃ i, l.bookings.findIdx? (·.id = id) = some i := by
  obtain ⟨b, hb, hid⟩ := h
  cases hi : l.bookings.findIdx? (·.id = id) with
  | none =>
    rw [Array.findIdx?_eq_none_iff] at hi
    simpa [hid] using hi b (by simpa using hb)
  | some i => exact ⟨i, rfl⟩

/-- A booking that is there can be removed. -/
theorem exists_remove? (h : ∃ b ∈ l.bookings.toList, b.id = id) : ∃ l', l.remove? id = some l' := by
  obtain ⟨i, hi⟩ := exists_findIdx? h
  exact ⟨_, by simp [remove?, hi]; rfl⟩

/-- A booking that is there can be changed. -/
theorem exists_modify? (f : Booking → Booking) (h : ∃ b ∈ l.bookings.toList, b.id = id) :
    ∃ l', l.modify? id f = some l' := by
  obtain ⟨i, hi⟩ := exists_findIdx? h
  exact ⟨_, by simp [modify?, hi]; rfl⟩

@[simp] theorem insert_location (l : Ledger) (b : Booking) : (l.insert b).location = l.location :=
  rfl

end Ledger

end SpaceBooking
