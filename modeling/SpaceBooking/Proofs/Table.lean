import Mathlib.Data.List.Perm.Basic
import SpaceBooking.Table

/-!
# The values of a table

* `Table.mem_values_iff` — the values are what look-ups find.
* `Table.nodup_keys`, `Table.map_values` — no identifier is listed twice, whether it is taken from an
  entry or from a value that knows its own.
* `Table.insert_values_perm`, `Table.values_perm_of_get?` — up to order, a table holds the value of
  one identifier and the values of the others.
-/

namespace SpaceBooking.Table

variable {α : Type} {t : Table α} {k : Id} {v : α}

theorem mem_values_iff : v ∈ t.values ↔ ∃ k, t.get? k = some v := by
  simp only [values, List.mem_map, Prod.exists, mem_entries_iff, exists_eq_right]

/-- No identifier is listed twice. -/
theorem nodup_keys (t : Table α) : (t.entries.map (·.1)).Nodup := by
  refine List.pairwise_map.2 (t.sorted.imp fun hlt heq => ?_)
  rw [heq] at hlt
  exact Id.lt_irrefl _ hlt

/-- If each value knows its identifier, the values tell the identifiers. -/
theorem map_values {f : α → Id} (h : ∀ k v, t.get? k = some v → f v = k) :
    t.values.map f = t.entries.map (·.1) := by
  rw [values, List.map_map]
  exact List.map_congr_left fun e he => h e.1 e.2 ((mem_entries_iff t e.1 e.2).1 he)

theorem filter_of_lt {es : List (Id × α)} (h : ∀ e ∈ es, k < e.1) :
    es.filter (fun e => e.1 ≠ k) = es := by
  rw [List.filter_eq_self]
  intro e he
  have hlt := h e he
  simp only [ne_eq, decide_not, Bool.not_eq_true', decide_eq_false_iff_not]
  rintro rfl
  exact Id.lt_irrefl _ hlt

theorem putEntry_perm {es : List (Id × α)} (h : es.Pairwise fun a b => a.1 < b.1) :
    (putEntry k v es).Perm ((k, v) :: es.filter fun e => e.1 ≠ k) := by
  induction es with
  | nil => simp [putEntry]
  | cons a as ih =>
    obtain ⟨ha, has⟩ := List.pairwise_cons.1 h
    unfold putEntry
    split
    · rename_i hk
      rw [filter_of_lt]
      intro e he
      rcases List.mem_cons.1 he with rfl | he
      · exact hk
      · exact Id.lt_trans hk (ha e he)
    · split
      · rename_i he
        rw [List.filter_cons_of_neg (by simp [he]), filter_of_lt (he ▸ ha)]
      · rename_i he
        rw [List.filter_cons_of_pos (by simpa using Ne.symm he)]
        exact ((ih has).cons a).trans (List.Perm.swap _ _ _)

/-- An insertion leaves the values of the other identifiers and adds one. -/
theorem insert_values_perm (t : Table α) (k : Id) (v : α) :
    (t.insert k v).values.Perm (v :: (t.erase k).values) := by
  have := (putEntry_perm (k := k) (v := v) t.sorted).map (·.2)
  simpa [values, insert, erase] using this

theorem insert_self (h : t.get? k = some v) : t.insert k v = t := by
  apply ext_get?
  intro j
  rw [get?_insert]
  split
  · rename_i hj
    rw [← hj, h]
  · rfl

theorem values_perm_of_get? (h : t.get? k = some v) : t.values.Perm (v :: (t.erase k).values) := by
  have := insert_values_perm t k v
  rwa [insert_self h] at this

theorem insert_insert (t : Table α) (k : Id) (u v : α) :
    (t.insert k u).insert k v = t.insert k v := by
  apply ext_get?
  intro j
  simp only [get?_insert]
  split <;> rfl

theorem insert_erase (t : Table α) (k : Id) (v : α) : (t.erase k).insert k v = t.insert k v := by
  apply ext_get?
  intro j
  simp only [get?_insert, get?_erase]
  split <;> rfl

theorem erase_of_get?_eq_none (h : t.get? k = none) : t.erase k = t := by
  apply ext_get?
  intro j
  rw [get?_erase]
  split
  · rename_i hj
    rw [← hj, h]
  · rfl

theorem erase_insert (h : t.get? k = none) : (t.insert k v).erase k = t := by
  apply ext_get?
  intro j
  rw [get?_erase, get?_insert]
  split
  · rename_i hj
    rw [← hj, h]
  · rfl

end SpaceBooking.Table
