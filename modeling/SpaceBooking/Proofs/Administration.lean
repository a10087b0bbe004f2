import SpaceBooking.Proofs.Changes

/-!
# Administration

What is done to the store apart from requests: setting up locations, spaces, users, groups and
policies, and removing spaces with their bookings.

* `Administration.apply` — one step of the administration. A removal of a space that does not exist
  changes nothing.
* `Administration.consistent`, `Administration.exclusive` — every step keeps the bookings in order.
* `Administration.located` — so does every step that does not move a space to another location.
* `Administration.keyed` — locations are stored under their own identifiers.
-/

namespace SpaceBooking

namespace Store

variable {s s' : Store} {id : Id}

/-! ## Opening a space -/

section PutSpace

variable (space : Space) (approvers allowedBookers : List Id)

theorem putSpace_ledgers_of_none (h : s.ledgers.get? space.id = none) :
    (s.putSpace space approvers allowedBookers).ledgers =
      s.ledgers.insert space.id (.opened space.location) := by
  simp [putSpace, Table.contains, h]

theorem putSpace_ledgers_of_some {l : Ledger} (h : s.ledgers.get? space.id = some l) :
    (s.putSpace space approvers allowedBookers).ledgers = s.ledgers := by
  simp [putSpace, Table.contains, h]

theorem putSpace_ledgers (s : Store) (k : Id) :
    (s.putSpace space approvers allowedBookers).ledgers.get? k =
      (s.ledgers.get? k).or (if space.id = k then some (.opened space.location) else none) := by
  cases hl : s.ledgers.get? space.id with
  | none =>
    rw [putSpace_ledgers_of_none _ _ _ hl, Table.get?_insert]
    split
    · rename_i hk
      rw [← hk, hl, Option.none_or]
    · rw [Option.or_none]
  | some l =>
    rw [putSpace_ledgers_of_some _ _ _ hl]
    split
    · rename_i hk
      rw [← hk, hl, Option.some_or]
    · rw [Option.or_none]

theorem putSpace_bookings (s : Store) :
    (s.putSpace space approvers allowedBookers).bookings.Perm s.bookings := by
  unfold bookings
  cases hl : s.ledgers.get? space.id with
  | some l => rw [putSpace_ledgers_of_some _ _ _ hl]
  | none =>
    have := bookings_insert_perm s space.id (.opened space.location)
    rw [putSpace_ledgers_of_none _ _ _ hl]
    rwa [elsewhere, Table.erase_of_get?_eq_none hl] at this

variable {space approvers allowedBookers}

theorem putSpace_ledger_cases {k : Id} {l : Ledger}
    (h : (s.putSpace space approvers allowedBookers).ledgers.get? k = some l) :
    s.ledgers.get? k = some l ∨
      s.ledgers.get? k = none ∧ space.id = k ∧ l = .opened space.location := by
  rw [putSpace_ledgers] at h
  cases hl : s.ledgers.get? k with
  | some l' =>
    rw [hl, Option.some_or] at h
    exact .inl h
  | none =>
    rw [hl, Option.none_or] at h
    split at h
    · rename_i hk
      cases h
      exact .inr ⟨rfl, hk, rfl⟩
    · cases h

theorem putSpace_consistent (hs : s.Consistent) :
    (s.putSpace space approvers allowedBookers).Consistent where
  sorted h := by
    rcases putSpace_ledger_cases h with h | ⟨-, -, rfl⟩
    · exact hs.sorted h
    · exact .nil
  placed h := by
    rcases putSpace_ledger_cases h with h | ⟨-, -, rfl⟩
    · exact hs.placed h
    · simp [Ledger.opened]
  opened k := by
    rw [putSpace_ledgers]
    show ((s.spaces.insert space.id space).get? k).isSome = _
    rw [Table.get?_insert]
    split
    · simp
    · simp [hs.opened]
  named h := by
    rcases Table.get?_of_insert (t := s.spaces) h with ⟨hk, rfl⟩ | hold
    · exact hk
    · exact hs.named hold
  distinct :=
    ((putSpace_bookings space approvers allowedBookers s).map (·.id)).nodup_iff.2 hs.distinct
  indexed k sp := by
    simp only [(putSpace_bookings space approvers allowedBookers s).mem_iff]
    exact hs.indexed k sp

theorem putSpace_exclusive (he : s.Exclusive) :
    (s.putSpace space approvers allowedBookers).Exclusive where
  nonempty b hb := he.nonempty b ((putSpace_bookings _ _ _ s).mem_iff.1 hb)
  apart := ((putSpace_bookings _ _ _ s).pairwise_iff Booking.Apart.symm).2 he.apart

theorem putSpace_located (hs : s.Consistent) (hl : s.Located)
    (h : ∀ old, s.spaces.get? space.id = some old → old.location = space.location) :
    (s.putSpace space approvers allowedBookers).Located := by
  intro k sp l hsp hget
  have hsp : (s.spaces.insert space.id space).get? k = some sp := hsp
  rw [Table.get?_insert] at hsp
  rcases putSpace_ledger_cases hget with hget | ⟨-, hk, rfl⟩
  · split at hsp
    · rename_i hk
      cases hsp
      subst hk
      have hopen := hs.opened space.id
      rw [hget, Option.isSome_some] at hopen
      obtain ⟨old, hold⟩ := Option.isSome_iff_exists.1 hopen
      rw [hl hold hget, h old hold]
    · exact hl hsp hget
  · rw [if_pos hk] at hsp
    cases hsp
    rfl

end PutSpace

/-! ## Closing a space -/

theorem get?_foldl_erase (bs : List Booking) (t : Table Id) (k : Id) :
    (bs.foldl (fun t b => t.erase b.id) t).get? k =
      if ∃ b ∈ bs, b.id = k then none else t.get? k := by
  induction bs generalizing t with
  | nil => simp
  | cons b bs ih =>
    rw [List.foldl_cons, ih, Table.get?_erase]
    by_cases hb : b.id = k
    · simp [hb]
    · simp [hb]

/-- The bookings that go with a space. -/
def onSpace (s : Store) (id : Id) : List Booking :=
  (s.ledgers.get? id).elim [] (·.bookings.toList)

theorem bookings_perm_onSpace (s : Store) (id : Id) :
    s.bookings.Perm (s.onSpace id ++ s.elsewhere id) := by
  unfold onSpace
  cases hl : s.ledgers.get? id with
  | some l => exact bookings_perm hl
  | none =>
    rw [elsewhere, Table.erase_of_get?_eq_none hl]
    exact .refl _

theorem deleteSpace_ok (h : s.deleteSpace id = .ok s') :
    s' = { s with
      spaces := s.spaces.erase id
      approvers := s.approvers.erase id
      allowedBookers := s.allowedBookers.erase id
      ledgers := s.ledgers.erase id
      spaceOf := (s.onSpace id).foldl (fun t b => t.erase b.id) s.spaceOf } := by
  unfold deleteSpace at h
  split at h
  · cases h
    rfl
  · cases h

theorem deleteSpace_bookings (h : s.deleteSpace id = .ok s') : s'.bookings = s.elsewhere id := by
  rw [deleteSpace_ok h]
  rfl

theorem deleteSpace_sublist (h : s.deleteSpace id = .ok s') :
    ∃ bs, s.bookings.Perm bs ∧ s'.bookings.Sublist bs := by
  refine ⟨_, bookings_perm_onSpace s id, ?_⟩
  rw [deleteSpace_bookings h]
  exact List.sublist_append_right _ _

theorem deleteSpace_indexed (hs : s.Consistent) (k space : Id) :
    ((s.onSpace id).foldl (fun t b => t.erase b.id) s.spaceOf).get? k = some space ↔
      ∃ b ∈ s.elsewhere id, b.id = k ∧ b.space = space := by
  have hperm := bookings_perm_onSpace s id
  rw [get?_foldl_erase]
  split
  · rename_i hgone
    obtain ⟨b, hb, rfl⟩ := hgone
    simp only [reduceCtorEq, false_iff, not_exists, not_and]
    intro c hc hid _
    have hnodup := (hperm.map (·.id)).nodup_iff.1 hs.distinct
    rw [List.map_append] at hnodup
    have hkept : b.id ∈ (s.elsewhere id).map (·.id) := hid ▸ List.mem_map_of_mem hc
    exact List.disjoint_of_nodup_append hnodup (List.mem_map_of_mem hb) hkept
  · rename_i hkept
    rw [hs.indexed]
    constructor
    · rintro ⟨b, hb, rfl, hspace⟩
      refine ⟨b, ?_, rfl, hspace⟩
      rcases List.mem_append.1 (hperm.mem_iff.1 hb) with hb | hb
      · exact absurd ⟨b, hb, rfl⟩ hkept
      · exact hb
    · rintro ⟨b, hb, hid, hspace⟩
      exact ⟨b, hperm.mem_iff.2 (List.mem_append_right _ hb), hid, hspace⟩

theorem deleteSpace_consistent (hs : s.Consistent) (h : s.deleteSpace id = .ok s') :
    s'.Consistent where
  sorted hl := by
    rw [deleteSpace_ok h] at hl
    exact hs.sorted (Table.get?_of_erase hl).2
  placed hl := by
    rw [deleteSpace_ok h] at hl
    exact hs.placed (Table.get?_of_erase hl).2
  opened k := by
    rw [deleteSpace_ok h, Table.get?_erase, Table.get?_erase]
    split
    · rfl
    · exact hs.opened k
  named hsp := by
    rw [deleteSpace_ok h] at hsp
    exact hs.named (Table.get?_of_erase hsp).2
  distinct := by
    obtain ⟨bs, hperm, hsub⟩ := deleteSpace_sublist h
    exact ((hperm.map (·.id)).nodup_iff.1 hs.distinct).sublist (hsub.map _)
  indexed k space := by
    rw [deleteSpace_bookings h, deleteSpace_ok h]
    exact deleteSpace_indexed hs k space

theorem deleteSpace_exclusive (he : s.Exclusive) (h : s.deleteSpace id = .ok s') :
    s'.Exclusive := by
  obtain ⟨bs, hperm, hsub⟩ := deleteSpace_sublist h
  exact ⟨fun b hb => he.nonempty b (hperm.mem_iff.2 (hsub.subset hb)),
    ((hperm.pairwise_iff Booking.Apart.symm).1 he.apart).sublist hsub⟩

theorem deleteSpace_located (hl : s.Located) (h : s.deleteSpace id = .ok s') : s'.Located := by
  intro k sp l hsp hget
  rw [deleteSpace_ok h] at hsp hget
  exact hl (Table.get?_of_erase hsp).2 (Table.get?_of_erase hget).2

end Store

/-! ## The steps -/

/-- What the administration does. -/
inductive Administration where
  | putLocation (l : Location)
  | putSpace (space : Space) (approvers allowedBookers : List Id)
  | deleteSpace (id : Id)
  | putUser (u : User)
  | addMembership (user group : Id)
  | putSetting (org : Id) (key : String) (value : Setting)

namespace Administration

variable {s : Store}

/-- The store after a step of the administration. -/
def apply (s : Store) : Administration → Store
  | putLocation l => s.putLocation l
  | putSpace space approvers allowedBookers => s.putSpace space approvers allowedBookers
  | deleteSpace id =>
    match s.deleteSpace id with
    | .ok s' => s'
    | .error _ => s
  | putUser u => s.putUser u
  | addMembership user group => s.addMembership user group
  | putSetting org key value => s.putSetting org key value

/-- A space that exists is not moved to another location. -/
def KeepsLocations (s : Store) : Administration → Prop
  | putSpace space _ _ => ∀ old, s.spaces.get? space.id = some old → old.location = space.location
  | _ => True

instance (s : Store) (a : Administration) : Decidable (a.KeepsLocations s) := by
  cases a with
  | putSpace space _ _ =>
    exact decidable_of_iff (∀ old ∈ s.spaces.get? space.id, old.location = space.location) Iff.rfl
  | _ => exact inferInstanceAs (Decidable True)

theorem consistent (hs : s.Consistent) (a : Administration) : (a.apply s).Consistent := by
  cases a with
  | putSpace space approvers allowedBookers => exact Store.putSpace_consistent hs
  | deleteSpace id =>
    cases h : s.deleteSpace id with
    | ok s' =>
      simp only [apply, h]
      exact Store.deleteSpace_consistent hs h
    | error e =>
      simp only [apply, h]
      exact hs
  | putLocation | putUser | addMembership | putSetting =>
    exact Store.SameLedgers.consistent (s := s) ⟨rfl, rfl, rfl⟩ hs

/-- The administration makes no bookings. -/
theorem mem_of_mem {b : Booking} {a : Administration} (hb : b ∈ (a.apply s).bookings) :
    b ∈ s.bookings := by
  cases a with
  | putSpace space approvers allowedBookers =>
    exact (Store.putSpace_bookings space approvers allowedBookers s).mem_iff.1 hb
  | deleteSpace id =>
    cases h : s.deleteSpace id with
    | ok s' =>
      simp only [apply, h] at hb
      obtain ⟨bs, hperm, hsub⟩ := Store.deleteSpace_sublist h
      exact hperm.mem_iff.2 (hsub.subset hb)
    | error e =>
      simp only [apply, h] at hb
      exact hb
  | putLocation | putUser | addMembership | putSetting => exact hb

theorem exclusive (he : s.Exclusive) (a : Administration) : (a.apply s).Exclusive := by
  cases a with
  | putSpace space approvers allowedBookers => exact Store.putSpace_exclusive he
  | deleteSpace id =>
    cases h : s.deleteSpace id with
    | ok s' =>
      simp only [apply, h]
      exact Store.deleteSpace_exclusive he h
    | error e =>
      simp only [apply, h]
      exact he
  | putLocation | putUser | addMembership | putSetting =>
    exact Store.SameLedgers.exclusive (s := s) ⟨rfl, rfl, rfl⟩ he

theorem located (hs : s.Consistent) (hl : s.Located) {a : Administration}
    (hkeeps : a.KeepsLocations s) : (a.apply s).Located := by
  cases a with
  | putSpace space approvers allowedBookers => exact Store.putSpace_located hs hl hkeeps
  | deleteSpace id =>
    cases h : s.deleteSpace id with
    | ok s' =>
      simp only [apply, h]
      exact Store.deleteSpace_located hl h
    | error e =>
      simp only [apply, h]
      exact hl
  | putLocation | putUser | addMembership | putSetting =>
    exact Store.SameLedgers.located (s := s) ⟨rfl, rfl, rfl⟩ hl

theorem keyed (hk : s.Keyed) (a : Administration) : (a.apply s).Keyed := by
  intro id l hl
  cases a with
  | putLocation location =>
    rcases Table.get?_of_insert (t := s.locations) hl with ⟨hid, rfl⟩ | hold
    · exact hid
    · exact hk hold
  | deleteSpace space =>
    cases h : s.deleteSpace space with
    | ok s' =>
      simp only [apply, h] at hl
      rw [Store.deleteSpace_ok h] at hl
      exact hk hl
    | error e =>
      simp only [apply, h] at hl
      exact hk hl
  | putSpace | putUser | addMembership | putSetting => exact hk hl

end Administration

end SpaceBooking
