import Mathlib.Data.List.DropRight
import Mathlib.Data.Option.Defs
import SpaceBooking.Proofs.Runs
import SpaceBooking.Proofs.WallClock

/-!
# Padded zone names

The name of a zone can be set in three places, and white space around it is easily typed. The names
of a location and of its organization are trimmed when they are used, so that padding them makes no
difference. The fallback of the service is only checked for not being blank. When neither of the
other two names is set, it is looked up as it is, with its padding.

* `Text.PaddedTo`, `Text.Unpadded` — a text with white space around it, and one without.
  `Text.PaddedTo.trim_eq` and `Text.unpadded_iff` say what trimming has to do with them.
* `ZoneSetup` — the places where the name of a zone is set; `ZoneSetup.name_eq` says which is used.
* `zone_name_ignores_padding` — padding is without effect, unless it is that of a fallback in use.
* `ZoneSetup.zone_of_padded_fallback` — which is then not found in a table of names without padding.
-/

namespace SpaceBooking

/-! ## Trimming -/

namespace Text

variable {cs before after : List Char} {s t : String} {c : Char}

/-- A text neither starts nor ends with white space. -/
structure Unpadded (s : String) : Prop where
  start : ∀ c ∈ s.toList.head?, isBlank c = false
  stop : ∀ c ∈ s.toList.getLast?, isBlank c = false

/-- The second text is the first with white space around it, or none. -/
def PaddedTo (s t : String) : Prop :=
  ∃ before after, blank before = true ∧ blank after = true ∧ t = before ++ s ++ after

theorem blank_iff : blank s = true ↔ ∀ c ∈ s.toList, isBlank c = true := List.all_eq_true

theorem trimChars_eq (cs : List Char) :
    trimChars cs = (cs.dropWhile isBlank).rdropWhile isBlank := rfl

theorem trimChars_eq_nil_iff : trimChars cs = [] ↔ ∀ c ∈ cs, isBlank c = true := by
  rw [trimChars_eq, List.rdropWhile_eq_nil_iff, ← List.dropWhile_eq_nil_iff,
    List.dropWhile_idempotent isBlank, List.dropWhile_eq_nil_iff]

theorem isBlank_head?_trimChars (h : c ∈ (trimChars cs).head?) : isBlank c = false := by
  obtain ⟨cut, hcut⟩ := List.rdropWhile_prefix isBlank (cs.dropWhile isBlank)
  rw [← trimChars_eq] at hcut
  have hhead := List.head?_dropWhile_not isBlank cs
  rwa [← hcut, List.head?_append, Option.mem_def.1 h, Option.some_or] at hhead

theorem isBlank_getLast?_trimChars (h : c ∈ (trimChars cs).getLast?) : isBlank c = false := by
  obtain ⟨hne, rfl⟩ := List.mem_getLast?_eq_getLast h
  exact Bool.eq_false_iff.2 (List.rdropWhile_last_not isBlank _ hne)

theorem trimChars_append (hbefore : ∀ c ∈ before, isBlank c = true)
    (hafter : ∀ c ∈ after, isBlank c = true) :
    trimChars (before ++ cs ++ after) = trimChars cs := by
  have hend (l : List Char) : (l ++ after).rdropWhile isBlank = l.rdropWhile isBlank := by
    rw [List.rdropWhile, List.reverse_append,
      List.dropWhile_append_of_pos (by simpa using hafter), List.rdropWhile]
  rw [trimChars_eq, trimChars_eq, List.append_assoc, List.dropWhile_append_of_pos hbefore,
    List.dropWhile_append]
  split
  · next hnil =>
    -- all of `cs` is blank, so that `after` goes from the front as well
    rw [List.isEmpty_iff.1 hnil, List.dropWhile_eq_nil_iff.2 hafter]
  · exact hend _

theorem trim_eq_empty_iff : trim s = "" ↔ blank s = true := by
  rw [trim, String.ofList_eq_empty_iff, trimChars_eq_nil_iff, blank_iff]

theorem unpadded_trim (s : String) : Unpadded (trim s) where
  start c hc := isBlank_head?_trimChars (by rwa [trim, String.toList_ofList] at hc)
  stop c hc := isBlank_getLast?_trimChars (by rwa [trim, String.toList_ofList] at hc)

theorem PaddedTo.trim_eq (h : PaddedTo s t) : trim t = trim s := by
  obtain ⟨before, after, hbefore, hafter, rfl⟩ := h
  rw [trim, String.toList_append, String.toList_append,
    trimChars_append (blank_iff.1 hbefore) (blank_iff.1 hafter), trim]

theorem Unpadded.trim_eq (h : Unpadded s) : trim s = s := by
  have hstart : s.toList.dropWhile isBlank = s.toList := by
    rw [List.dropWhile_eq_self_iff]
    intro hlen
    simp [h.start _ (List.head?_eq_getElem?.trans (List.getElem?_eq_getElem hlen))]
  have hstop : s.toList.rdropWhile isBlank = s.toList := by
    rw [List.rdropWhile_eq_self_iff]
    intro hne
    simp [h.stop _ (List.getLast?_eq_some_getLast hne)]
  rw [trim, trimChars_eq, hstart, hstop, String.ofList_toList]

theorem unpadded_iff : Unpadded s ↔ trim s = s :=
  ⟨Unpadded.trim_eq, fun h => h ▸ unpadded_trim s⟩

instance (s : String) : Decidable (Unpadded s) := decidable_of_iff' _ unpadded_iff

theorem PaddedTo.blank_eq (h : PaddedTo s t) : blank t = blank s := by
  rw [Bool.eq_iff_iff, ← trim_eq_empty_iff, ← trim_eq_empty_iff, h.trim_eq]

/-- A text without the white space around it, if it is not blank. -/
def trimmed? (s : String) : Option String := if trim s = "" then none else some (trim s)

theorem unpadded_of_trimmed? (h : trimmed? s = some t) : Unpadded t ∧ blank t = false := by
  unfold trimmed? at h
  split at h
  · cases h
  · next hne =>
    cases h
    refine ⟨unpadded_trim s, Bool.eq_false_iff.2 fun hblank => hne ?_⟩
    rwa [← trim_eq_empty_iff, (unpadded_trim s).trim_eq] at hblank

theorem PaddedTo.trimmed?_eq (h : PaddedTo s t) : trimmed? t = trimmed? s := by
  rw [trimmed?, trimmed?, h.trim_eq]

/-! ### Texts that may be missing -/

variable {o o' : Option String}

theorem bind_trimmed?_filter (o : Option String) :
    (o.filter (!blank ·)).bind trimmed? = o.bind trimmed? := by
  cases o with
  | none => rfl
  | some s =>
    rw [Option.filter_some]
    split
    · rfl
    · next hblank =>
      simp only [Bool.not_eq_true, Bool.not_eq_false'] at hblank
      rw [Option.bind_none, Option.bind_some, trimmed?, if_pos (trim_eq_empty_iff.2 hblank)]

theorem bind_trimmed?_eq (h : Option.Rel PaddedTo o o') : o'.bind trimmed? = o.bind trimmed? := by
  cases h with
  | none => rfl
  | some hs => rw [Option.bind_some, Option.bind_some, hs.trimmed?_eq]

theorem trim_getD_filter (h : Option.Rel PaddedTo o o') (default : String) :
    trim ((o'.filter (!blank ·)).getD default) = trim ((o.filter (!blank ·)).getD default) := by
  cases h with
  | none => rfl
  | some hs =>
    rw [Option.filter_some, Option.filter_some, hs.blank_eq]
    split
    · exact hs.trim_eq
    · rfl

end Text

/-! ## The name that is chosen -/

/-- A zone is named by its location, the location's organization, or failing these the fallback. -/
theorem zoneName_eq (location : String) (organization : Option String) (fallback : String) :
    zoneName location organization fallback =
      ((Text.trimmed? location).or (organization.bind Text.trimmed?)).getD fallback := by
  by_cases hl : Text.trim location = ""
  · cases organization with
    | none => simp [zoneName, Text.trimmed?, hl]
    | some shared =>
      by_cases hs : Text.trim shared = "" <;> simp [zoneName, Text.trimmed?, hl, hs]
  · simp [zoneName, Text.trimmed?, hl]

/-- The variable with the name of the zone of locations that do not have another one. -/
def Config.zoneVariable : String := "DESKBOOK_DEFAULT_TIMEZONE"

/-- The places where the name of a zone is set: the environment of the service, the settings in the
store, and the location. -/
structure ZoneSetup where
  environment : String → Option String
  store : Store
  location : Location

namespace ZoneSetup

variable {x y : ZoneSetup}

def ofVariable (x : ZoneSetup) : Option String := x.environment Config.zoneVariable

def ofOrganization (x : ZoneSetup) : Option String :=
  x.store.text? x.location.org SettingKey.defaultZoneName

def fallback (x : ZoneSetup) : String := (Config.ofVariables x.environment).fallbackZoneName

/-- The name of the zone at the location. -/
def name (x : ZoneSetup) : String :=
  zoneName x.location.zoneName (x.store.policyOf x.location.org).defaultZoneName x.fallback

/-- The zone at the location, as requests find it. -/
def zone (x : ZoneSetup) (c : Conditions) : Except Failure Zone :=
  (Service.zoneOf x.location (x.store.policyOf x.location.org)).answer
    { c with config := Config.ofVariables x.environment } x.store

/-- What the location or else its organization calls the zone, without white space around it. -/
def own? (x : ZoneSetup) : Option String :=
  (Text.trimmed? x.location.zoneName).or (x.ofOrganization.bind Text.trimmed?)

/-- White space is put around the three names. -/
structure PaddedTo (x y : ZoneSetup) : Prop where
  location : Text.PaddedTo x.location.zoneName y.location.zoneName
  organization : Option.Rel Text.PaddedTo x.ofOrganization y.ofOrganization
  fallback : Option.Rel Text.PaddedTo x.ofVariable y.ofVariable

theorem fallback_eq (x : ZoneSetup) :
    x.fallback = (x.ofVariable.filter (!Text.blank ·)).getD "UTC" := rfl

theorem zone_eq (x : ZoneSetup) (c : Conditions) :
    x.zone c = (c.zones x.name).elim (.error (.invalidTimeZone x.name)) .ok :=
  Service.answer_zoneOf _ _ _ _

theorem name_eq (x : ZoneSetup) : x.name = x.own?.getD x.fallback := by
  -- the policy already leaves a blank name out
  rw [name, zoneName_eq, own?, ← Text.bind_trimmed?_filter x.ofOrganization]
  rfl

theorem unpadded_own {own : String} (h : x.own? = some own) :
    Text.Unpadded own ∧ Text.blank own = false := by
  rcases Option.or_eq_some_iff.1 h with hl | ⟨-, ho⟩
  · exact Text.unpadded_of_trimmed? hl
  · obtain ⟨shared, -, hshared⟩ := Option.bind_eq_some_iff.1 ho
    exact Text.unpadded_of_trimmed? hshared

theorem blank_fallback (x : ZoneSetup) : Text.blank x.fallback = false := by
  rw [fallback_eq]
  cases hset : x.ofVariable.filter (!Text.blank ·) with
  | none => decide
  | some value => simpa using (Option.filter_eq_some_iff.1 hset).2

theorem PaddedTo.own?_eq (h : x.PaddedTo y) : y.own? = x.own? := by
  rw [own?, own?, h.location.trimmed?_eq, Text.bind_trimmed?_eq h.organization]

theorem PaddedTo.trim_fallback (h : x.PaddedTo y) :
    Text.trim y.fallback = Text.trim x.fallback :=
  Text.trim_getD_filter h.fallback _

/-- A padded fallback in use is not found in a table of names without padding. -/
theorem zone_of_padded_fallback {c : Conditions}
    (htable : ∀ name, (c.zones name).isSome = true → Text.Unpadded name)
    (hown : x.own? = none) (hpadded : ¬ Text.Unpadded x.fallback) :
    x.zone c = .error (.invalidTimeZone x.fallback) := by
  have hname : x.name = x.fallback := by rw [name_eq, hown, Option.getD_none]
  have hmissing : c.zones x.fallback = none :=
    Option.not_isSome_iff_eq_none.1 fun hsome => hpadded (htable _ hsome)
  rw [zone_eq, hname, hmissing, Option.elim_none]

end ZoneSetup

/-- The names of the standard table have no white space around them. -/
theorem ZoneTable.unpadded_of_standard {name : String} (h : (standard name).isSome = true) :
    Text.Unpadded name := by
  have hall : ∀ e ∈ entries, Text.Unpadded e.1 := by decide +kernel
  obtain ⟨z, hz⟩ := Option.isSome_iff_exists.1 h
  exact hall (name, z) (mem_entries_of_standard hz)

open ZoneSetup in
/-- **Padding a zone name.** The name that applies at a location is not blank. It has no white space
around it if it is that of the location or its organization, and then it does not matter how the
three names are padded. Otherwise it is the fallback, padded as that is, and only what is between
does not depend on the padding. -/
theorem zone_name_ignores_padding {x y : ZoneSetup} (h : x.PaddedTo y) :
    Text.blank x.name = false ∧
      (Text.Unpadded x.name ↔ x.own?.isSome = true ∨ Text.Unpadded x.fallback) ∧
      Text.trim y.name = Text.trim x.name ∧
      (y.name = x.name ↔ x.own?.isSome = true ∨ y.fallback = x.fallback) ∧
      (x.own?.isSome = true ∨ y.fallback = x.fallback → ∀ c, y.zone c = x.zone c) := by
  have hname : y.name = x.name ↔ x.own?.isSome = true ∨ y.fallback = x.fallback := by
    rw [name_eq, name_eq, h.own?_eq]
    cases x.own? <;> simp
  refine ⟨?_, ?_, ?_, hname, fun hsame c => by rw [zone_eq, zone_eq, hname.2 hsame]⟩
  · rw [name_eq]
    cases hown : x.own? with
    | none => exact x.blank_fallback
    | some own => exact (unpadded_own hown).2
  · rw [name_eq]
    cases hown : x.own? with
    | none => simp
    | some own => simp [(unpadded_own hown).1]
  · rw [name_eq, name_eq, h.own?_eq]
    cases x.own? with
    | none => exact h.trim_fallback
    | some own => rfl

namespace Sample

/-- The names set for the location, its organization, which may have none, and the service. -/
def zoneSetup (own : String) (shared : Option String) (fallback : String) : ZoneSetup where
  environment key := if key = Config.zoneVariable then some fallback else none
  store := shared.elim {} fun name =>
    Store.putSetting {} location.org SettingKey.defaultZoneName (.text name)
  location := { location with zoneName := own }

variable {own own' fallback fallback' : String} {shared shared' : Option String}

theorem ofOrganization_zoneSetup : (zoneSetup own shared fallback).ofOrganization = shared := by
  cases shared <;> rfl

theorem zoneSetup_paddedTo (hown : Text.PaddedTo own own')
    (hshared : Option.Rel Text.PaddedTo shared shared')
    (hfallback : Text.PaddedTo fallback fallback') :
    (zoneSetup own shared fallback).PaddedTo (zoneSetup own' shared' fallback') where
  location := hown
  organization := by rwa [ofOrganization_zoneSetup, ofOrganization_zoneSetup]
  fallback := .some hfallback

end Sample

open Sample in
/-- The organization's name is used however the names are padded. -/
theorem zone_name_ignores_padding_shared :
    (zoneSetup "" (some "Europe/London") "UTC").PaddedTo
        (zoneSetup " " (some " Europe/London\n") " UTC ") ∧
      Text.Unpadded (zoneSetup "" (some "Europe/London") "UTC").name ∧
      ∀ c, (zoneSetup " " (some " Europe/London\n") " UTC ").zone c =
        (zoneSetup "" (some "Europe/London") "UTC").zone c := by
  have hpadded : (zoneSetup "" (some "Europe/London") "UTC").PaddedTo
      (zoneSetup " " (some " Europe/London\n") " UTC ") :=
    zoneSetup_paddedTo ⟨" ", "", by decide, by decide, by decide⟩
      (.some ⟨" ", "\n", by decide, by decide, by decide⟩)
      ⟨" ", " ", by decide, by decide, by decide⟩
  have hown : (zoneSetup "" (some "Europe/London") "UTC").own?.isSome = true := by decide +kernel
  obtain ⟨-, hname, -, -, hzone⟩ := zone_name_ignores_padding hpadded
  exact ⟨hpadded, hname.2 (.inl hown), hzone (.inl hown)⟩

open Sample in
/-- **A padded fallback fails.** If neither a location nor its organization names a zone, the zone
is found for the fallback "Europe/Berlin", but with a space on either side it is not. -/
theorem padded_fallback_fails :
    (¬ ∀ x : ZoneSetup, Text.blank x.name = false ∧ Text.Unpadded x.name) ∧
      ¬ ∀ (x y : ZoneSetup) (c : Conditions) (z : Zone), x.PaddedTo y → x.zone c = .ok z →
        y.zone c = .ok z := by
  have hown : (zoneSetup "" none " Europe/Berlin ").own? = none := by decide +kernel
  have hfallback : ¬ Text.Unpadded (zoneSetup "" none " Europe/Berlin ").fallback := by
    decide +kernel
  constructor
  · intro hunpadded
    have hname := (hunpadded (zoneSetup "" none " Europe/Berlin ")).2
    rw [ZoneSetup.name_eq, hown, Option.getD_none] at hname
    exact hfallback hname
  · intro hkept
    let c := { conditions with zones := ZoneTable.standard }
    have hpadded : (zoneSetup "" none "Europe/Berlin").PaddedTo
        (zoneSetup "" none " Europe/Berlin ") :=
      zoneSetup_paddedTo ⟨"", "", by decide, by decide, by decide⟩ .none
        ⟨" ", " ", by decide, by decide, by decide⟩
    have hfound : (zoneSetup "" none "Europe/Berlin").zone c =
        .ok ZoneTable.centralEurope.zone := by
      rw [ZoneSetup.zone_eq]
      rfl
    have hlost : (zoneSetup "" none " Europe/Berlin ").zone c =
        .error (.invalidTimeZone (zoneSetup "" none " Europe/Berlin ").fallback) :=
      ZoneSetup.zone_of_padded_fallback (fun _ => ZoneTable.unpadded_of_standard) hown hfallback
    cases hlost.symm.trans (hkept _ _ c _ hpadded hfound)

end SpaceBooking
