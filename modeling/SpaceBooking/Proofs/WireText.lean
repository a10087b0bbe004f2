import Mathlib.Tactic.IntervalCases
import SpaceBooking.Proofs.Decimals
import SpaceBooking.Wire.Text

/-!
# Wire values are read back from their text

The reader gets exactly what was rendered, for the values that hold whole numbers only.

* `Reader.text?_renderText` — a text between quotes, with what follows it.
* `Reader.number?_toString` — a number, before what cannot be a part of it.
* `Reader.items?_renderItems`, `Reader.fields?_renderFields` — what stands between brackets. The
  fuel that is left is more than the length of what is still to be read.
* `Reader.reads_of_flat` — a value, with what follows it.
* `read?_render` — a value that takes up the whole text and is not too deep.
-/

namespace SpaceBooking.Wire

/-! ## Values without fractions -/

/-- The value has no number with a fraction, and at most `d` lists and records inside one
another. -/
inductive Value.Flat : Nat → Value → Prop
  | null (d : Nat) : Flat d null
  | bool (d : Nat) (b : Bool) : Flat d (bool b)
  | int (d : Nat) (n : Int) : Flat d (int n)
  | text (d : Nat) (s : String) : Flat d (text s)
  | list {d : Nat} {items : List Value} (h : ∀ v ∈ items, Flat d v) : Flat (d + 1) (list items)
  | record {d : Nat} {fields : List (String × Value)} (h : ∀ f ∈ fields, Flat d f.2) :
    Flat (d + 1) (record fields)

namespace Value

variable {d d' : Nat} {v : Value}

theorem Flat.mono (h : Flat d v) : d ≤ d' → Flat d' v := by
  induction h generalizing d' with
  | null => exact fun _ => .null d'
  | bool _ b => exact fun _ => .bool d' b
  | int _ n => exact fun _ => .int d' n
  | text _ s => exact fun _ => .text d' s
  | list _ ih =>
    intro hle
    obtain ⟨e, rfl⟩ := Nat.exists_eq_add_of_le' (Nat.lt_of_lt_of_le (Nat.succ_pos _) hle)
    exact .list fun v hv => ih v hv (Nat.le_of_succ_le_succ hle)
  | record _ ih =>
    intro hle
    obtain ⟨e, rfl⟩ := Nat.exists_eq_add_of_le' (Nat.lt_of_lt_of_le (Nat.succ_pos _) hle)
    exact .record fun f hf => ih f hf (Nat.le_of_succ_le_succ hle)

theorem itemsDepth_le {items : List Value} (h : ∀ v ∈ items, v.depth ≤ d) :
    itemsDepth items ≤ d := by
  induction items with
  | nil => exact Nat.zero_le d
  | cons v vs ih =>
    have hv := h v List.mem_cons_self
    have hvs := ih fun w hw => h w (List.mem_cons_of_mem v hw)
    exact Nat.max_le.2 ⟨hv, hvs⟩

theorem fieldsDepth_le {fields : List (String × Value)} (h : ∀ f ∈ fields, f.2.depth ≤ d) :
    fieldsDepth fields ≤ d := by
  induction fields with
  | nil => exact Nat.zero_le d
  | cons f fs ih =>
    have hf := h f List.mem_cons_self
    have hfs := ih fun g hg => h g (List.mem_cons_of_mem f hg)
    exact Nat.max_le.2 ⟨hf, hfs⟩

theorem Flat.depth_le (h : Flat d v) : v.depth ≤ d := by
  induction h with
  | list _ ih => exact Nat.succ_le_succ (itemsDepth_le ih)
  | record _ ih => exact Nat.succ_le_succ (fieldsDepth_le ih)
  | _ => exact Nat.zero_le _

end Value

/-! ## Texts -/

namespace Reader

/-- The four digits of a character below the blank. -/
theorem unit?_hex4 {n : Nat} (h : n < 0x20) (rest : List Char) :
    unit? (hex4 n ++ rest) = some (n, rest) := by
  interval_cases n <;> rfl

/-- A character is read back, and takes one step. -/
theorem text?_escaped (fuel : Nat) (acc : List Char) (c : Char) (rest : List Char) :
    text? (fuel + 1) acc (escaped c ++ rest) = text? fuel (c :: acc) rest := by
  unfold escaped
  split
  · rfl
  · rfl
  · rfl
  · rfl
  · rfl
  · rename_i hquote hback hn hr ht
    split
    · rename_i hlow
      have hescape : escape? ('u' :: (hex4 c.toNat ++ rest)) = some (c, rest) := by
        have hhigh : (decide (0xd800 ≤ c.toNat) && decide (c.toNat < 0xdc00)) = false := by
          rw [Bool.and_eq_false_iff, decide_eq_false_iff_not]
          exact .inl (by omega)
        have hlowhalf : (decide (0xdc00 ≤ c.toNat) && decide (c.toNat < 0xe000)) = false := by
          rw [Bool.and_eq_false_iff, decide_eq_false_iff_not]
          exact .inl (by omega)
        simp only [escape?, unit?_hex4 hlow, Option.bind_eq_bind, Option.bind_some, hhigh,
          hlowhalf, Option.pure_def, Char.ofNat_toNat, Bool.false_eq_true, if_false]
      show text? (fuel + 1) acc ('\\' :: ('u' :: (hex4 c.toNat ++ rest))) = _
      rw [text?, hescape, Option.bind_some]
    · rename_i hlow
      show text? (fuel + 1) acc (c :: rest) = _
      rw [text?, if_neg hlow]
      · exact hquote
      · exact hback

/-- **The characters of a text are read back** up to the closing quote. -/
theorem text?_flatMap (s acc rest : List Char) {fuel : Nat} (h : s.length < fuel) :
    text? fuel acc (s.flatMap escaped ++ '"' :: rest) =
      some (String.ofList (acc.reverse ++ s), rest) := by
  induction s generalizing acc fuel with
  | nil =>
    obtain ⟨fuel, rfl⟩ := Nat.exists_eq_add_of_le' h
    rw [List.append_nil]
    rfl
  | cons c s ih =>
    obtain ⟨fuel, rfl⟩ := Nat.exists_eq_add_of_le' (Nat.zero_lt_of_lt h)
    have hrest : s.length < fuel := Nat.lt_of_succ_lt_succ h
    rw [List.flatMap_cons, List.append_assoc, text?_escaped, ih (c :: acc) hrest,
      List.reverse_cons, List.append_assoc, List.singleton_append]

/-! ## Numbers -/

/-- What follows a value cannot be taken for a part of a number. -/
def Ends (rest : List Char) : Prop := rest.takeWhile inNumber = []

theorem ends_nil : Ends [] := rfl

theorem ends_cons {c : Char} (h : inNumber c = false) (rest : List Char) : Ends (c :: rest) := by
  simp [Ends, h]

theorem inNumber_of_isDigit {c : Char} (h : c.isDigit = true) : inNumber c = true := by
  simp [inNumber, h]

/-- A number is written with the characters of numbers. -/
theorem inNumber_toString (n : Int) : ∀ c ∈ (toString n).toList, inNumber c = true := by
  have hdigits (m : Nat) : ∀ c ∈ m.repr.toList, inNumber c = true := by
    intro c hc
    rw [Nat.toList_repr] at hc
    exact inNumber_of_isDigit (Nat.isDigit_of_mem_toDigits (by decide) (by decide) hc)
  rw [Int.toString_eq_repr, Int.repr_eq_if]
  split
  · exact hdigits n.toNat
  · intro c hc
    rw [String.toList_append] at hc
    rcases List.mem_append.1 hc with hc | hc
    · rw [List.mem_singleton.1 hc]
      rfl
    · exact hdigits (-n).toNat c hc

theorem toString_ne_nil (n : Int) : (toString n).toList ≠ [] := by
  have hdigits (m : Nat) : m.repr.toList ≠ [] := by
    rw [Nat.toList_repr]
    exact Nat.toDigits_ne_nil
  rw [Int.toString_eq_repr, Int.repr_eq_if]
  split
  · exact hdigits n.toNat
  · rw [String.toList_append, ne_eq, List.append_eq_nil_iff]
    exact fun h => hdigits _ h.2

/-- Digits are read as a number without a sign. -/
theorem whole?_toDigits (n : Nat) : whole? (Nat.toDigits 10 n) = some (n : Int) := by
  have hread : Text.digits? (Nat.toDigits 10 n) = some n := Text.digits?_toDigits n
  have hdigits : ∀ c ∈ Nat.toDigits 10 n, c.isDigit = true :=
    fun c => Nat.isDigit_of_mem_toDigits (by decide) (by decide)
  unfold whole?
  split
  · rename_i heq
    rw [heq] at hdigits
    exact absurd (hdigits '-' List.mem_cons_self) (by decide)
  · rw [hread]
    rfl

/-- A whole number is read back. -/
theorem whole?_toString (n : Int) : whole? (toString n).toList = some n := by
  rw [Int.toString_eq_repr, Int.repr_eq_if]
  split
  · rename_i hpos
    rw [Nat.toList_repr, whole?_toDigits, Int.toNat_of_nonneg hpos]
  · rename_i hneg
    rw [String.toList_append, Nat.toList_repr]
    show (Text.digits? (Nat.toDigits 10 (-n).toNat)).map Int.negOfNat = some n
    rw [Text.digits?_toDigits, Option.map_some, Int.negOfNat_eq, Int.ofNat_eq_natCast,
      Int.toNat_of_nonneg (by omega), Int.neg_neg]

/-- No number is written as minus zero. -/
theorem toString_ne_minus_zero (n : Int) : toString n ≠ "-0" := by
  intro h
  have hread : whole? (toString n).toList = some n := whole?_toString n
  have hzero : whole? "-0".toList = some 0 := by cbv
  rw [h, hzero, Option.some.injEq] at hread
  rw [← hread] at h
  exact absurd h (by decide)

/-- **A number is read back.** -/
theorem number?_toString (n : Int) {rest : List Char} (h : Ends rest) :
    number? ((toString n).toList ++ rest) = some (.int n, rest) := by
  have hwritten : ((toString n).toList ++ rest).takeWhile inNumber = (toString n).toList := by
    rw [List.takeWhile_append_of_pos (inNumber_toString n), h, List.append_nil]
  unfold number?
  simp only [hwritten, String.ofList_toList, toString_ne_minus_zero, if_false, whole?_toString,
    List.drop_left]
  cases hcs : (toString n).toList with
  | nil => exact absurd hcs (toString_ne_nil n)
  | cons c cs => rfl

/-! ## What stands between brackets -/

/-- What may stand between values. -/
def blanks : List Char := [' ', '\n', '\r', '\t']

/-- Nothing is passed over in front of what is not a blank. -/
theorem skip_cons {c : Char} (h : c ∉ blanks) (cs : List Char) :
    skip (c :: cs) = c :: cs := by
  simp only [blanks, List.mem_cons, List.not_mem_nil, or_false, not_or] at h
  simp [skip, h]

theorem not_blank_of_inNumber {c : Char} (h : inNumber c = true) : c ∉ blanks := by
  intro hmem
  simp only [blanks, List.mem_cons, List.not_mem_nil, or_false] at hmem
  rcases hmem with rfl | rfl | rfl | rfl <;> exact absurd h (by decide)

/-- Texts with commas between them. -/
def separated (texts : List String) : List Char := (",".intercalate texts).toList

theorem separated_singleton (s : String) : separated [s] = s.toList := by
  simp [separated]

theorem separated_cons_cons (s t : String) (texts : List String) :
    separated (s :: t :: texts) = s.toList ++ ',' :: separated (t :: texts) := by
  simp [separated, String.intercalate_cons_cons]

theorem toList_renderText (s : String) :
    (renderText s).toList = '"' :: (s.toList.flatMap escaped ++ ['"']) := String.toList_ofList

theorem toList_render_list (items : List Value) :
    (Value.list items).render.toList = '[' :: (separated (renderItems items) ++ [']']) := by
  simp [Value.render, separated]

theorem toList_render_record (fields : List (String × Value)) :
    (Value.record fields).render.toList =
      '\x7b' :: (separated (renderFields fields) ++ ['\x7d']) := by
  simp [Value.render, separated]

/-- The reader gets the value from its text and stops where the text ends. -/
def Reads (v : Value) : Prop :=
  ∀ (fuel : Nat) (rest : List Char), v.render.toList.length < fuel → Ends rest →
    value? fuel (v.render.toList ++ rest) = some (v, rest)

/-- A text between quotes is read back. -/
theorem text?_renderText (s : String) (rest : List Char) {fuel : Nat}
    (h : s.toList.length < fuel) :
    text? fuel [] (s.toList.flatMap escaped ++ '"' :: rest) = some (s, rest) := by
  rw [text?_flatMap s.toList [] rest h, List.reverse_nil, List.nil_append, String.ofList_toList]

/-- Escapes make a text no shorter. -/
theorem length_le_flatMap (s : List Char) : s.length ≤ (s.flatMap escaped).length := by
  induction s with
  | nil => exact Nat.le_refl 0
  | cons c s ih =>
    have hone : 1 ≤ (escaped c).length := by
      unfold escaped
      split <;> try split
      all_goals simp
    rw [List.flatMap_cons, List.length_append, List.length_cons]
    omega

/-- **The items of a list are read back** if each of them is. -/
theorem items?_renderItems {v : Value} {vs : List Value} (h : ∀ w ∈ v :: vs, Reads w) {fuel : Nat}
    (hfuel : (separated (renderItems (v :: vs))).length + 1 < fuel) (acc : List Value)
    (rest : List Char) :
    items? fuel acc (separated (renderItems (v :: vs)) ++ ']' :: rest) =
      some (acc.reverse ++ v :: vs, rest) := by
  induction vs generalizing v acc fuel with
  | nil =>
    obtain ⟨fuel, rfl⟩ := Nat.exists_eq_add_of_le' (Nat.zero_lt_of_lt hfuel)
    simp only [renderItems, separated_singleton] at hfuel ⊢
    have hv := h v List.mem_cons_self fuel (']' :: rest) (by omega) (ends_cons rfl rest)
    rw [items?, hv]
    show some ((v :: acc).reverse, rest) = _
    rw [List.reverse_cons]
  | cons w ws ih =>
    obtain ⟨fuel, rfl⟩ := Nat.exists_eq_add_of_le' (Nat.zero_lt_of_lt hfuel)
    simp only [renderItems, separated_cons_cons, List.length_append, List.length_cons,
      List.append_assoc, List.cons_append] at hfuel ih ⊢
    have hv := h v List.mem_cons_self fuel
      (',' :: (separated (w.render :: renderItems ws) ++ ']' :: rest)) (by omega) (ends_cons rfl _)
    have hws : ∀ u ∈ w :: ws, Reads u := fun u hu => h u (List.mem_cons_of_mem v hu)
    rw [items?, hv]
    show items? fuel (v :: acc) (separated (w.render :: renderItems ws) ++ ']' :: rest) = _
    rw [ih hws (by omega), List.reverse_cons, List.append_assoc, List.singleton_append]

/-- The name and the value of a field are read back, if its value is. -/
theorem exists_field {k : String} {v : Value} (h : Reads v) {fuel : Nat}
    (hfuel : (renderText k ++ ":" ++ v.render).toList.length < fuel) {c : Char}
    (hc : inNumber c = false) (rest : List Char) :
    ∃ cs more, skip ((renderText k ++ ":" ++ v.render).toList ++ c :: rest) = '"' :: cs ∧
      text? (fuel + 1) [] cs = some (k, ':' :: more) ∧ value? fuel more = some (v, c :: rest) := by
  have hlength := length_le_flatMap k.toList
  simp only [String.toList_append, toList_renderText, List.length_append, List.length_cons] at hfuel
  have hwritten : (renderText k ++ ":" ++ v.render).toList ++ c :: rest =
      '"' :: (k.toList.flatMap escaped ++ '"' :: ':' :: (v.render.toList ++ c :: rest)) := by
    simp [toList_renderText]
  refine ⟨_, v.render.toList ++ c :: rest, ?_, text?_renderText k _ (by omega),
    h fuel _ (by omega) (ends_cons hc rest)⟩
  rw [hwritten, skip_cons (by decide)]

theorem fields?_last {k : String} {v : Value} (h : Reads v) {fuel : Nat}
    (hfuel : (renderText k ++ ":" ++ v.render).toList.length < fuel)
    (acc : List (String × Value)) (rest : List Char) :
    fields? (fuel + 1) acc ((renderText k ++ ":" ++ v.render).toList ++ '\x7d' :: rest) =
      some (((k, v) :: acc).reverse, rest) := by
  obtain ⟨cs, more, hstart, hkey, hv⟩ := exists_field h hfuel (c := '\x7d') rfl rest
  have hcolon : skip (':' :: more) = ':' :: more := skip_cons (by decide) more
  have hclose : skip ('\x7d' :: rest) = '\x7d' :: rest := skip_cons (by decide) rest
  rw [fields?, hstart]
  simp only [hkey, hcolon, hv, hclose]

theorem fields?_next {k : String} {v : Value} (h : Reads v) {fuel : Nat}
    (hfuel : (renderText k ++ ":" ++ v.render).toList.length < fuel)
    (acc : List (String × Value)) (rest : List Char) :
    fields? (fuel + 1) acc ((renderText k ++ ":" ++ v.render).toList ++ ',' :: rest) =
      fields? fuel ((k, v) :: acc) rest := by
  obtain ⟨cs, more, hstart, hkey, hv⟩ := exists_field h hfuel (c := ',') rfl rest
  have hcolon : skip (':' :: more) = ':' :: more := skip_cons (by decide) more
  have hcomma : skip (',' :: rest) = ',' :: rest := skip_cons (by decide) rest
  rw [fields?, hstart]
  simp only [hkey, hcolon, hv, hcomma]

/-- **The fields of a record are read back** if each of their values is. -/
theorem fields?_renderFields {f : String × Value} {fs : List (String × Value)}
    (h : ∀ g ∈ f :: fs, Reads g.2) {fuel : Nat}
    (hfuel : (separated (renderFields (f :: fs))).length + 1 < fuel)
    (acc : List (String × Value)) (rest : List Char) :
    fields? fuel acc (separated (renderFields (f :: fs)) ++ '\x7d' :: rest) =
      some (acc.reverse ++ f :: fs, rest) := by
  induction fs generalizing f acc fuel with
  | nil =>
    obtain ⟨fuel, rfl⟩ := Nat.exists_eq_add_of_le' (Nat.zero_lt_of_lt hfuel)
    simp only [renderFields, separated_singleton] at hfuel ⊢
    rw [fields?_last (h f List.mem_cons_self) (by omega), List.reverse_cons]
  | cons g gs ih =>
    obtain ⟨fuel, rfl⟩ := Nat.exists_eq_add_of_le' (Nat.zero_lt_of_lt hfuel)
    have hgs : ∀ u ∈ g :: gs, Reads u.2 := fun u hu => h u (List.mem_cons_of_mem f hu)
    simp only [renderFields, separated_cons_cons, List.length_append, List.length_cons,
      List.append_assoc, List.cons_append] at hfuel ih ⊢
    rw [fields?_next (h f List.mem_cons_self) (by omega), ih hgs (by omega), List.reverse_cons,
      List.append_assoc, List.singleton_append]

/-! ## Values -/

/-- What starts a value is neither a blank nor the end of a list. -/
theorem exists_cons_render {d : Nat} {v : Value} (h : v.Flat d) :
    ∃ c cs, v.render.toList = c :: cs ∧ c ∉ blanks ∧ c ≠ ']' := by
  cases h with
  | null => exact ⟨'n', "ull".toList, rfl, by decide, by decide⟩
  | bool _ b =>
    cases b with
    | true => exact ⟨'t', "rue".toList, rfl, by decide, by decide⟩
    | false => exact ⟨'f', "alse".toList, rfl, by decide, by decide⟩
  | int _ n =>
    obtain ⟨c, cs, hcs⟩ := List.exists_cons_of_ne_nil (toString_ne_nil n)
    have hc : inNumber c = true := inNumber_toString n c (hcs ▸ List.mem_cons_self)
    refine ⟨c, cs, hcs, not_blank_of_inNumber hc, ?_⟩
    rintro rfl
    exact absurd hc (by decide)
  | text _ s => exact ⟨'"', _, toList_renderText s, by decide, by decide⟩
  | list => exact ⟨'[', _, toList_render_list _, by decide, by decide⟩
  | record => exact ⟨'\x7b', _, toList_render_record _, by decide, by decide⟩

/-- What starts with a character of numbers is read as a number. -/
theorem value?_of_inNumber {c : Char} (h : inNumber c = true) (fuel : Nat) (cs : List Char) :
    value? (fuel + 1) (c :: cs) = number? (c :: cs) := by
  rw [value?, skip_cons (not_blank_of_inNumber h)]
  split <;> first | rfl | (rename_i heq; cases heq; exact absurd h (by decide))

/-- A list is read back if its items are. -/
theorem reads_list {items : List Value} (h : ∀ v ∈ items, Reads v)
    (hstart : ∀ v ∈ items, ∃ c cs, v.render.toList = c :: cs ∧ c ∉ blanks ∧ c ≠ ']') :
    Reads (.list items) := by
  intro fuel rest hfuel _
  obtain ⟨fuel, rfl⟩ := Nat.exists_eq_add_of_le' (Nat.zero_lt_of_lt hfuel)
  simp only [toList_render_list, List.length_cons, List.length_append, List.length_nil,
    List.cons_append, List.append_assoc, List.nil_append] at hfuel ⊢
  rw [value?, skip_cons (by decide)]
  cases items with
  | nil => rfl
  | cons v vs =>
    obtain ⟨c, cs, hv, hblank, hclose⟩ := hstart v List.mem_cons_self
    obtain ⟨more, hmore⟩ : ∃ more, separated (renderItems (v :: vs)) ++ ']' :: rest =
        c :: more := by
      cases vs with
      | nil => exact ⟨_, by rw [renderItems, renderItems, separated_singleton, hv]; rfl⟩
      | cons w ws => exact ⟨_, by rw [renderItems, renderItems, separated_cons_cons, hv]; rfl⟩
    have hitems : items? fuel [] (separated (renderItems (v :: vs)) ++ ']' :: rest) =
        some (v :: vs, rest) := items?_renderItems h (by omega) [] rest
    rw [hmore] at hitems ⊢
    simp only [skip_cons hblank]
    split
    · rename_i heq
      cases heq
      exact absurd rfl hclose
    · rw [hitems]
      rfl

/-- A record is read back if the values of its fields are. -/
theorem reads_record {fields : List (String × Value)} (h : ∀ f ∈ fields, Reads f.2) :
    Reads (.record fields) := by
  intro fuel rest hfuel _
  obtain ⟨fuel, rfl⟩ := Nat.exists_eq_add_of_le' (Nat.zero_lt_of_lt hfuel)
  simp only [toList_render_record, List.length_cons, List.length_append, List.length_nil,
    List.cons_append, List.append_assoc, List.nil_append] at hfuel ⊢
  rw [value?, skip_cons (by decide)]
  cases fields with
  | nil => rfl
  | cons f fs =>
    obtain ⟨more, hmore⟩ : ∃ more, separated (renderFields (f :: fs)) ++ '\x7d' :: rest =
        '"' :: more := by
      cases fs with
      | nil => exact ⟨_, by simp [renderFields, separated_singleton, toList_renderText]; rfl⟩
      | cons g gs => exact ⟨_, by simp [renderFields, separated_cons_cons, toList_renderText]; rfl⟩
    have hfields : fields? fuel [] (separated (renderFields (f :: fs)) ++ '\x7d' :: rest) =
        some (f :: fs, rest) := fields?_renderFields h (by omega) [] rest
    rw [hmore] at hfields ⊢
    have hskip : skip ('"' :: more) = '"' :: more := skip_cons (by decide) more
    simp only [hskip]
    show (fields? fuel [] ('"' :: more)).map (fun x => (Value.record x.1, x.2)) = _
    rw [hfields]
    rfl

/-- **A value without fractions is read back** from its text, whatever follows it. -/
theorem reads_of_flat {d : Nat} {v : Value} (h : v.Flat d) : Reads v := by
  induction h with
  | null =>
    intro fuel rest hfuel _
    obtain ⟨fuel, rfl⟩ := Nat.exists_eq_add_of_le' (Nat.zero_lt_of_lt hfuel)
    rfl
  | bool _ b =>
    intro fuel rest hfuel _
    obtain ⟨fuel, rfl⟩ := Nat.exists_eq_add_of_le' (Nat.zero_lt_of_lt hfuel)
    cases b <;> rfl
  | int _ n =>
    intro fuel rest hfuel hrest
    obtain ⟨fuel, rfl⟩ := Nat.exists_eq_add_of_le' (Nat.zero_lt_of_lt hfuel)
    have hread := number?_toString n hrest
    show value? (fuel + 1) ((toString n).toList ++ rest) = _
    obtain ⟨c, cs, hcs⟩ := List.exists_cons_of_ne_nil (toString_ne_nil n)
    have hc : inNumber c = true := inNumber_toString n c (hcs ▸ List.mem_cons_self)
    rw [hcs] at hread ⊢
    rw [List.cons_append, value?_of_inNumber hc]
    exact hread
  | text _ s =>
    intro fuel rest hfuel _
    obtain ⟨fuel, rfl⟩ := Nat.exists_eq_add_of_le' (Nat.zero_lt_of_lt hfuel)
    have hlength := length_le_flatMap s.toList
    have hwritten : (Value.text s).render.toList = _ := toList_renderText s
    simp only [hwritten, List.length_cons, List.length_append, List.cons_append,
      List.append_assoc, List.nil_append] at hfuel ⊢
    rw [value?, skip_cons (by decide)]
    simp only [text?_renderText s rest (by omega : s.toList.length < fuel + 1)]
    rfl
  | list hitems ih => exact reads_list ih fun v hv => exists_cons_render (hitems v hv)
  | record _ ih => exact reads_record ih

end Reader

/-- **A value without fractions is read back** from the text that it is rendered as. -/
theorem read?_render {v : Value} (h : v.Flat maxDepth) : read? v.render = some v := by
  have hread := Reader.reads_of_flat h (v.render.toList.length + 1) [] (Nat.lt_succ_self _)
    Reader.ends_nil
  rw [List.append_nil] at hread
  unfold read?
  simp only [hread]
  have hdone : (Reader.skip []).isEmpty = true := rfl
  rw [hdone, Bool.true_and, if_pos (decide_eq_true h.depth_le)]

end SpaceBooking.Wire
