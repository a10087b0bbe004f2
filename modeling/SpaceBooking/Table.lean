import SpaceBooking.Id

/-!
# Tables keyed by identifier

A `Table α` holds at most one value for each identifier and lists its entries in ascending order of
identifier. Two tables with the same look-ups are equal (`Table.ext_get?`), so a table is as good as
the partial function `Table.get?`.
-/

namespace SpaceBooking

/-- Values by identifier, in ascending order of identifier. -/
structure Table (α : Type) where
  entries : List (Id × α)
  sorted : entries.Pairwise fun a b => a.1 < b.1

namespace Table

variable {α : Type}

/-- Sets the value of `k` in a list of entries, at its place in the order. -/
def putEntry (k : Id) (v : α) : List (Id × α) → List (Id × α)
  | [] => [(k, v)]
  | e :: es =>
    if k < e.1 then (k, v) :: e :: es
    else if k = e.1 then (k, v) :: es
    else e :: putEntry k v es

theorem mem_putEntry {k : Id} {v : α} {e : Id × α} {es : List (Id × α)}
    (h : e ∈ putEntry k v es) : e = (k, v) ∨ e ∈ es := by
  induction es with
  | nil => simpa [putEntry] using h
  | cons a as ih =>
    unfold putEntry at h
    split at h
    · simpa using h
    · split at h
      · rcases List.mem_cons.1 h with h | h
        · exact .inl h
        · exact .inr (List.mem_cons_of_mem _ h)
      · rcases List.mem_cons.1 h with h | h
        · exact .inr (h ▸ List.mem_cons_self)
        · exact (ih h).imp_right (List.mem_cons_of_mem _)

theorem putEntry_sorted (k : Id) (v : α) {es : List (Id × α)}
    (h : es.Pairwise fun a b => a.1 < b.1) : (putEntry k v es).Pairwise fun a b => a.1 < b.1 := by
  induction es with
  | nil => simp [putEntry]
  | cons a as ih =>
    obtain ⟨ha, has⟩ := List.pairwise_cons.1 h
    unfold putEntry
    split
    · next hk =>
      refine List.pairwise_cons.2 ⟨fun b hb => ?_, h⟩
      rcases List.mem_cons.1 hb with rfl | hb
      · exact hk
      · exact Id.lt_trans hk (ha b hb)
    · next hk =>
      split
      · next he => exact List.pairwise_cons.2 ⟨fun b hb => he ▸ ha b hb, has⟩
      · next he =>
        refine List.pairwise_cons.2 ⟨fun b hb => ?_, ih has⟩
        rcases mem_putEntry hb with rfl | hb
        · exact Id.lt_of_not_lt_of_ne hk he
        · exact ha b hb

/-- The table without entries. -/
def empty : Table α := ⟨[], .nil⟩

instance : EmptyCollection (Table α) := ⟨empty⟩

instance : Inhabited (Table α) := ⟨empty⟩

/-- The value of an identifier, if it has one. -/
def get? (t : Table α) (k : Id) : Option α := (t.entries.find? fun e => e.1 = k).map (·.2)

/-- Sets the value of an identifier, new or not. -/
def insert (t : Table α) (k : Id) (v : α) : Table α :=
  ⟨putEntry k v t.entries, putEntry_sorted k v t.sorted⟩

/-- Removes an identifier; nothing happens if it has no value. -/
def erase (t : Table α) (k : Id) : Table α :=
  ⟨t.entries.filter fun e => e.1 ≠ k, t.sorted.filter _⟩

/-- Whether an identifier has a value. -/
def contains (t : Table α) (k : Id) : Bool := (t.get? k).isSome

/-- How many identifiers have a value. -/
def size (t : Table α) : Nat := t.entries.length

/-- The values in ascending order of identifier. -/
def values (t : Table α) : List α := t.entries.map (·.2)

@[simp] theorem get?_empty (k : Id) : (∅ : Table α).get? k = none := rfl

theorem find?_putEntry (k : Id) (v : α) (j : Id) (es : List (Id × α)) :
    ((putEntry k v es).find? fun e => e.1 = j).map (·.2) =
      if k = j then some v else (es.find? fun e => e.1 = j).map (·.2) := by
  induction es with
  | nil => by_cases h : k = j <;> simp [putEntry, h]
  | cons a as ih =>
    unfold putEntry
    split
    · by_cases h : k = j <;> simp [List.find?_cons, h]
    · split
      · next he => by_cases h : k = j <;> simp [h, ← he]
      · next he =>
        by_cases ha : a.1 = j
        · have : k ≠ j := fun h => he (h.trans ha.symm)
          simp [ha, this]
        · simpa [List.find?_cons, ha] using ih

/-- A look-up after an insertion finds the new value there and the old ones elsewhere. -/
theorem get?_insert (t : Table α) (k : Id) (v : α) (j : Id) :
    (t.insert k v).get? j = if k = j then some v else t.get? j :=
  find?_putEntry k v j t.entries

/-- A look-up after a removal finds nothing there and the old values elsewhere. -/
theorem get?_erase (t : Table α) (k j : Id) :
    (t.erase k).get? j = if k = j then none else t.get? j := by
  obtain ⟨es, hs⟩ := t
  simp only [get?, erase]
  clear hs
  induction es with
  | nil => simp
  | cons a as ih =>
    by_cases hk : a.1 = k
    · rw [List.filter_cons_of_neg (by simpa using hk), ih]
      by_cases hj : k = j
      · simp [hj]
      · simp [hk, hj]
    · rw [List.filter_cons_of_pos (by simpa using hk)]
      by_cases hj : a.1 = j
      · have : k ≠ j := fun h => hk (hj.trans h.symm)
        simp [hj, this]
      · simpa [hj] using ih

/-- What is found after an insertion is the new value, or was found before. -/
theorem get?_of_insert {t : Table α} {k j : Id} {v w : α} (h : (t.insert k v).get? j = some w) :
    (k = j ∧ v = w) ∨ t.get? j = some w := by
  rw [get?_insert] at h
  split at h
  · rename_i hk
    exact .inl ⟨hk, Option.some.inj h⟩
  · exact .inr h

/-- What is found after a removal was found before. -/
theorem get?_of_erase {t : Table α} {k j : Id} {w : α} (h : (t.erase k).get? j = some w) :
    k ≠ j ∧ t.get? j = some w := by
  rw [get?_erase] at h
  split at h
  · cases h
  · rename_i hk
    exact ⟨hk, h⟩

/-- An entry is listed exactly if a look-up finds it. -/
theorem mem_entries_iff (t : Table α) (k : Id) (v : α) :
    (k, v) ∈ t.entries ↔ t.get? k = some v := by
  obtain ⟨es, hs⟩ := t
  simp only [get?]
  induction es with
  | nil => simp
  | cons a as ih =>
    obtain ⟨ha, has⟩ := List.pairwise_cons.1 hs
    have ih := ih has
    by_cases h : a.1 = k
    · subst h
      simp only [List.mem_cons, List.find?_cons, decide_true, Option.map_some, Option.some.injEq]
      constructor
      · rintro (h | h)
        · rw [← h]
        · exact absurd (ha _ h) (Id.lt_irrefl _)
      · intro h; exact .inl (by rw [← h])
    · simp only [List.mem_cons, List.find?_cons, h, decide_false]
      rw [← ih]
      exact ⟨fun hm => hm.resolve_left fun e => h (by rw [← e]), .inr⟩

/-- Tables with the same look-ups are equal. -/
theorem ext_get? {s t : Table α} (h : ∀ k, s.get? k = t.get? k) : s = t := by
  have hm : ∀ e, e ∈ s.entries ↔ e ∈ t.entries := fun ⟨k, v⟩ => by
    rw [mem_entries_iff, mem_entries_iff, h]
  obtain ⟨es, hs⟩ := s
  obtain ⟨fs, ht⟩ := t
  simp only [Table.mk.injEq]
  clear h
  simp only at hm
  induction es generalizing fs with
  | nil =>
    cases fs with
    | nil => rfl
    | cons b bs => exact absurd ((hm b).2 List.mem_cons_self) List.not_mem_nil
  | cons a as ih =>
    cases fs with
    | nil => exact absurd ((hm a).1 List.mem_cons_self) List.not_mem_nil
    | cons b bs =>
      obtain ⟨ha, has⟩ := List.pairwise_cons.1 hs
      obtain ⟨hb, hbs⟩ := List.pairwise_cons.1 ht
      have hab : a = b := by
        rcases List.mem_cons.1 ((hm a).1 List.mem_cons_self) with h | h
        · exact h
        rcases List.mem_cons.1 ((hm b).2 List.mem_cons_self) with h' | h'
        · exact h'.symm
        · exact absurd (Id.lt_trans (hb a h) (ha b h')) (Id.lt_irrefl _)
      subst hab
      have htail : ∀ e, e ∈ as ↔ e ∈ bs := fun e => by
        constructor
        · intro he
          rcases List.mem_cons.1 ((hm e).1 (List.mem_cons_of_mem _ he)) with h | h
          · exact absurd (h ▸ ha e he) (Id.lt_irrefl _)
          · exact h
        · intro he
          rcases List.mem_cons.1 ((hm e).2 (List.mem_cons_of_mem _ he)) with h | h
          · exact absurd (h ▸ hb e he) (Id.lt_irrefl _)
          · exact h
      rw [ih has bs hbs htail]

end Table

end SpaceBooking
