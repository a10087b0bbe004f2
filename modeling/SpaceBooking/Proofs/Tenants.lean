import SpaceBooking.Proofs.Effects

/-!
# Tenants

Organizations share one store, and nobody changes what lies on the spaces of another organization.
For most effects this is so because the right to the space was looked at. A series, though, is given
up with all its bookings, wherever they have been moved to. That they never leave the organization
of the series is an invariant of runs: it holds for a new instance, and a booking is moved only by
somebody who has the right to both spaces.

* `Store.LinksAgree` — a booking that is in a series finds the row of the series, and agrees with it.
* `Atlas` — where spaces are and whose locations are. A run that keeps to it moves neither.
* `Effect.linksAgree`, `Effect.spares` — what one effect keeps, and what it does not touch.
* `tenant_integrity` — no request touches a booking or series of another organization.
-/

namespace SpaceBooking

open Relation

namespace Store

variable {s s' : Store} {b : Booking} {id org other : Id} {gone new : Option Booking}

/-! ## Bookings and their series -/

/-- Each booking that is in a series finds the row of the series, and the two agree. -/
def LinksAgree (agree : Booking → Series → Prop) (s : Store) : Prop :=
  ∀ b ∈ s.bookings, ∀ id, b.series = some id → ∃ row, s.series.get? id = some row ∧ agree b row

theorem linksAgree_empty (agree : Booking → Series → Prop) : LinksAgree agree {} := by
  intro b hb
  simp [mem_bookings] at hb

section LinksAgree

variable {agree : Booking → Series → Prop}

theorem LinksAgree.exchange (hs : s.LinksAgree agree) (hx : Exchange s gone new s')
    (hnew : ∀ b, new = some b → ∀ id, b.series = some id →
      ∃ row, s.series.get? id = some row ∧ agree b row) : s'.LinksAgree agree := by
  intro d hd id hid
  rw [hx.series]
  rcases hx.mem_of_mem hd with heq | hold
  · exact hnew d heq id hid
  · exact hs d hold id hid

/-- A row that is added takes the place of no other. -/
theorem LinksAgree.insertSeries (hs : s.LinksAgree agree) {row : Series}
    (hnone : s.series.get? row.id = none) : (s.insertSeries row).LinksAgree agree := by
  intro d hd id hid
  obtain ⟨row', hrow', hagree⟩ := hs d hd id hid
  have hne : row.id ≠ id := by
    rintro rfl
    rw [hnone] at hrow'
    cases hrow'
  have hkept : (s.insertSeries row).series.get? id = s.series.get? id :=
    (Table.get?_insert _ _ _ _).trans (if_neg hne)
  exact ⟨row', hkept.trans hrow', hagree⟩

theorem LinksAgree.unlinks (hs : s.LinksAgree agree) (hunlinks : s.Unlinks id s') :
    s'.LinksAgree agree := by
  intro d hd id' hid
  rw [hunlinks.series]
  rcases hunlinks.came d hd with hold | ⟨old, -, heq⟩
  · exact hs d hold id' hid
  · rw [heq] at hid
    cases hid

/-- A row that is erased is that of no booking. -/
theorem LinksAgree.eraseSeries (hs : s.LinksAgree agree) (hlinked : s.linked id = []) :
    LinksAgree agree { s with series := s.series.erase id } := by
  intro d hd id' hid
  obtain ⟨row, hrow, hagree⟩ := hs d hd id' hid
  have hne : id ≠ id' := by
    rintro rfl
    have hmem : d ∈ s.linked id := mem_linked.2 ⟨hd, hid⟩
    rw [hlinked] at hmem
    cases hmem
  have hkept : (s.series.erase id).get? id' = s.series.get? id' :=
    (Table.get?_erase _ _ _).trans (if_neg hne)
  exact ⟨row, hkept.trans hrow, hagree⟩

/-- **What one effect keeps.** An instance agrees with its series when it is made, and a booking
still does after it was moved inside the organization. -/
theorem Effect.linksAgree (h : Effect org s s') (hs : s.LinksAgree agree)
    (hjoins : ∀ b row, b.space = row.space → b.owner = row.owner → agree b row)
    (hmoves : ∀ old b row, s.orgOf old.space = some org → s.orgOf b.space = some org →
      b.Continues old → agree old row → agree b row) :
    s'.LinksAgree agree := by
  cases h with
  | booked b _ hnew hx =>
    refine hs.exchange hx ?_
    rintro _ ⟨⟩ id hid
    obtain ⟨row, hrow, hspace, howner⟩ := hnew id hid
    exact ⟨row, hrow, hjoins b row hspace howner⟩
  | changed old b horg horg' hcontinues hx =>
    refine hs.exchange hx ?_
    rintro _ ⟨⟩ id hid
    obtain ⟨row, hrow, hagree⟩ := hs old hx.gone_mem id (hcontinues.series ▸ hid)
    exact ⟨row, hrow, hmoves old b row horg horg' hcontinues hagree⟩
  | removed old _ hx => exact hs.exchange hx (fun b hb => nomatch hb)
  | opened row _ hnone hs' =>
    subst hs'
    exact hs.insertSeries hnone
  | released gone row _ _ hunlinks => exact hs.unlinks hunlinks
  | closed gone row _ _ hlinked hs' =>
    subst hs'
    exact hs.eraseSeries hlinked

end LinksAgree

/-! ## What is not touched -/

/-- What lies on the spaces of an organization is the same in both stores. -/
structure Spares (org : Id) (s s' : Store) : Prop where
  orgs : ∀ space, s'.orgOf space = s.orgOf space
  bookings : ∀ b : Booking, s.orgOf b.space = some org → (b ∈ s'.bookings ↔ b ∈ s.bookings)
  series : ∀ (id : Id) (row : Series), s.orgOf row.space = some org →
    (s'.series.get? id = some row ↔ s.series.get? id = some row)

theorem Spares.refl (org : Id) (s : Store) : s.Spares org s :=
  ⟨fun _ => rfl, fun _ _ => Iff.rfl, fun _ _ _ => Iff.rfl⟩

theorem Spares.trans {s'' : Store} (h : Spares org s s') (h' : Spares org s' s'') :
    Spares org s s'' where
  orgs space := (h'.orgs space).trans (h.orgs space)
  bookings b hb := (h'.bookings b ((h.orgs _).trans hb)).trans (h.bookings b hb)
  series id row hrow := (h'.series id row ((h.orgs _).trans hrow)).trans (h.series id row hrow)

/-- An exchange does not touch other bookings. -/
theorem Exchange.mem_iff (hx : Exchange s gone new s') (hgone : gone ≠ some b)
    (hnew : new ≠ some b) : b ∈ s'.bookings ↔ b ∈ s.bookings := by
  obtain ⟨rest, hperm, hperm'⟩ := hx.bookings
  rw [hperm.mem_iff, hperm'.mem_iff]
  simp only [List.mem_append, Option.mem_toList, hgone, hnew, false_or]

theorem Exchange.spares (hx : Exchange s gone new s')
    (hgone : ∀ d, gone = some d → s.orgOf d.space ≠ some other)
    (hnew : ∀ d, new = some d → s.orgOf d.space ≠ some other) : s.Spares other s' where
  orgs := hx.setup.orgOf
  bookings b hb := hx.mem_iff (fun heq => hgone b heq hb) fun heq => hnew b heq hb
  series id row _ := by rw [hx.series]

/-- A row that is added is a row of another organization. -/
theorem insertSeries_spares {row : Series} (hnone : s.series.get? row.id = none)
    (horg : s.orgOf row.space ≠ some other) : s.Spares other (s.insertSeries row) where
  orgs _ := rfl
  bookings _ _ := Iff.rfl
  series id row' hrow' := by
    have hget : (s.insertSeries row).series.get? id =
        if row.id = id then some row else s.series.get? id := Table.get?_insert _ _ _ _
    rw [hget]
    split
    · rename_i hid
      subst hid
      rw [hnone]
      constructor
      · rintro ⟨⟩
        exact absurd hrow' horg
      · rintro ⟨⟩
    · exact Iff.rfl

theorem Unlinks.spares (hunlinks : s.Unlinks id s')
    (hlinked : ∀ b ∈ s.linked id, s.orgOf b.space ≠ some other) : s.Spares other s' where
  orgs := hunlinks.setup.orgOf
  bookings b hb := by
    refine ⟨fun hmem => ?_, fun hmem => hunlinks.stayed b hmem fun hid => ?_⟩
    · rcases hunlinks.came b hmem with hold | ⟨old, hold, heq⟩
      · exact hold
      · rw [heq] at hb
        exact absurd hb (hlinked old hold)
    · exact hlinked b (mem_linked.2 ⟨hmem, hid⟩) hb
  series _ _ _ := by rw [hunlinks.series]

/-- So is a row that is erased. -/
theorem eraseSeries_spares {row : Series} (hrow : s.series.get? id = some row)
    (horg : s.orgOf row.space ≠ some other) :
    s.Spares other { s with series := s.series.erase id } where
  orgs _ := rfl
  bookings _ _ := Iff.rfl
  series id' row' hrow' := by
    show (s.series.erase id).get? id' = some row' ↔ _
    rw [Table.get?_erase]
    split
    · rename_i hid
      subst hid
      rw [hrow]
      constructor
      · rintro ⟨⟩
      · rintro ⟨⟩
        exact absurd hrow' horg
    · exact Iff.rfl

end Store

/-! ## Where spaces are -/

/-- Where each space is, and whose each location is. -/
structure Atlas where
  place : Id → Id
  home : Id → Id

namespace Atlas

/-- Whose a space is. -/
def org (m : Atlas) (space : Id) : Id := m.home (m.place space)

variable {m : Atlas} {s s' : Store} {space org other : Id}

/-- Spaces and locations are where the atlas has them, and the bookings of a series lie on spaces of
the organization of the series. -/
structure Governs (m : Atlas) (s : Store) : Prop where
  spaces : ∀ {id sp}, s.spaces.get? id = some sp → sp.location = m.place id
  locations : ∀ {id l}, s.locations.get? id = some l → l.org = m.home id
  links : s.LinksAgree fun b row => m.org b.space = m.org row.space

namespace Governs

theorem orgOf (h : m.Governs s) (horg : s.orgOf space = some org) : m.org space = org := by
  obtain ⟨sp, hsp, hrest⟩ := Option.bind_eq_some_iff.1 horg
  obtain ⟨l, hl, rfl⟩ := Option.map_eq_some_iff.1 hrest
  rw [Atlas.org, ← h.spaces hsp, h.locations hl]

theorem of_effect (h : m.Governs s) (he : s.Effect org s') : m.Governs s' where
  spaces hsp := h.spaces (he.setup.spaces ▸ hsp)
  locations hl := h.locations (he.setup.locations ▸ hl)
  links := by
    refine he.linksAgree h.links (fun b row hspace _ => congrArg m.org hspace) ?_
    intro old b row hold hb _ hagree
    exact (h.orgOf hb).trans ((h.orgOf hold).symm.trans hagree)

theorem of_effects (h : m.Governs s) (he : ReflTransGen (Store.Effect org) s s') :
    m.Governs s' := by
  induction he with
  | refl => exact h
  | tail _ hlast ih => exact ih.of_effect hlast

/-- The bookings of a series lie on spaces of its organization. -/
theorem org_of_linked (h : m.Governs s) {id : Id} {row : Series}
    (hrow : s.series.get? id = some row) (horg : s.orgOf row.space = some org) {b : Booking}
    (hb : b ∈ s.linked id) (hother : s.orgOf b.space = some other) : other = org := by
  obtain ⟨hmem, hid⟩ := Store.mem_linked.1 hb
  obtain ⟨row', hrow', hagree⟩ := h.links b hmem id hid
  rw [hrow] at hrow'
  cases hrow'
  calc other
    _ = m.org b.space := (h.orgOf hother).symm
    _ = m.org row.space := hagree
    _ = org := h.orgOf horg

/-- **What one effect does not touch**: whatever lies on spaces of other organizations. -/
theorem spares (h : m.Governs s) (he : s.Effect org s') (hne : other ≠ org) :
    s.Spares other s' := by
  have hforeign : ∀ {space}, s.orgOf space = some org → s.orgOf space ≠ some other := by
    intro space horg hother
    rw [horg] at hother
    exact hne (Option.some.inj hother).symm
  cases he with
  | booked b horg _ hx =>
    refine hx.spares (fun d hd => nomatch hd) ?_
    rintro d ⟨⟩
    exact hforeign horg
  | changed old b horg horg' _ hx =>
    refine hx.spares ?_ ?_
    · rintro d ⟨⟩
      exact hforeign horg
    · rintro d ⟨⟩
      exact hforeign horg'
  | removed old horg hx =>
    refine hx.spares ?_ (fun d hd => nomatch hd)
    rintro d ⟨⟩
    exact hforeign horg
  | opened row horg hnone hs' =>
    subst hs'
    exact Store.insertSeries_spares hnone (hforeign horg)
  | released id row hrow horg hunlinks =>
    exact hunlinks.spares fun b hb hother => hne (h.org_of_linked hrow horg hb hother)
  | closed gone row hrow horg _ hs' =>
    subst hs'
    exact Store.eraseSeries_spares hrow (hforeign horg)

theorem spares_many (h : m.Governs s) (he : ReflTransGen (Store.Effect org) s s')
    (hne : other ≠ org) : s.Spares other s' := by
  induction he with
  | refl => exact .refl other s
  | tail hmany hlast ih => exact ih.trans ((h.of_effects hmany).spares hlast hne)

end Governs

end Atlas

/-! ## Runs -/

namespace Administration

variable {s : Store}

/-- The administration has nothing to do with series. -/
theorem series_eq (a : Administration) (s : Store) : (a.apply s).series = s.series := by
  cases a with
  | deleteSpace id =>
    cases h : s.deleteSpace id with
    | ok s' =>
      simp only [apply, h]
      rw [Store.deleteSpace_ok h]
    | error e => simp only [apply, h]
  | putSpace | putLocation | putUser | addMembership | putSetting => rfl

theorem linksAgree {agree : Booking → Series → Prop} (hs : s.LinksAgree agree)
    (a : Administration) : (a.apply s).LinksAgree agree := by
  intro b hb id hid
  rw [a.series_eq]
  exact hs b (a.mem_of_mem hb) id hid

/-- Spaces and locations are put where the atlas has them. -/
def KeepsTo (m : Atlas) : Administration → Prop
  | putSpace space _ _ => space.location = m.place space.id
  | putLocation l => l.org = m.home l.id
  | _ => True

instance (m : Atlas) : ∀ a : Administration, Decidable (a.KeepsTo m)
  | putSpace space _ _ => inferInstanceAs (Decidable (space.location = m.place space.id))
  | putLocation l => inferInstanceAs (Decidable (l.org = m.home l.id))
  | deleteSpace _ | putUser _ | addMembership _ _ | putSetting _ _ _ =>
    inferInstanceAs (Decidable True)

theorem governs {m : Atlas} (h : m.Governs s) {a : Administration} (hkeeps : a.KeepsTo m) :
    m.Governs (a.apply s) := by
  have hlinks := a.linksAgree h.links
  cases a with
  | putSpace space approvers allowedBookers =>
    refine ⟨fun {id sp} hsp => ?_, h.locations, hlinks⟩
    rcases Table.get?_of_insert (t := s.spaces) hsp with ⟨rfl, rfl⟩ | hold
    · exact hkeeps
    · exact h.spaces hold
  | putLocation loc =>
    refine ⟨h.spaces, fun {id l} hl => ?_, hlinks⟩
    rcases Table.get?_of_insert (t := s.locations) hl with ⟨rfl, rfl⟩ | hold
    · exact hkeeps
    · exact h.locations hold
  | deleteSpace gone =>
    cases hdelete : s.deleteSpace gone with
    | error e =>
      simp only [apply, hdelete]
      exact h
    | ok s' =>
      simp only [apply, hdelete] at hlinks ⊢
      refine ⟨fun {id sp} hsp => ?_, fun {id l} hl => ?_, hlinks⟩
      · rw [Store.deleteSpace_ok hdelete] at hsp
        exact h.spaces (Table.get?_of_erase hsp).2
      · rw [Store.deleteSpace_ok hdelete] at hl
        exact h.locations hl
  | putUser | addMembership | putSetting => exact ⟨h.spaces, h.locations, hlinks⟩

end Administration

/-- Spaces and locations are put where the atlas has them. -/
def Step.KeepsTo (m : Atlas) : Step → Prop
  | request _ _ => True
  | administration a => a.KeepsTo m

instance (m : Atlas) : ∀ st : Step, Decidable (st.KeepsTo m)
  | .request _ _ => inferInstanceAs (Decidable True)
  | .administration a => inferInstanceAs (Decidable (a.KeepsTo m))

/-- In a run that keeps to an atlas, the atlas governs every store. -/
theorem Reachable.governs {m : Atlas} {w : World}
    (h : Reachable (fun w st => st.Fresh w ∧ st.KeepsTo m) w) : m.Governs w.store := by
  induction h with
  | initial =>
    exact ⟨fun hsp => by simp at hsp, fun hl => by simp at hl, Store.linksAgree_empty _⟩
  | step st hw hok ih =>
    cases st with
    | request c r =>
      have hs := (hw.mono fun _ _ => And.left).consistent
      exact ih.of_effects (r.effects hs hok.1)
    | administration a => exact a.governs ih hok.2

/-- **Tenants are kept apart.** In a run in which spaces keep their locations and locations their
organizations, whichever calls fail and whatever is reported as conflicts: no request adds, changes
or removes a booking on a space of an organization that is not the actor's, nor the row of a series
on such a space. -/
theorem tenant_integrity {m : Atlas} {w : World}
    (h : Reachable (fun w st => st.Fresh w ∧ st.KeepsTo m) w) {c : Conditions} {r : Request}
    (hfresh : c.Fresh w.store w.minted (r.apply c w).minted) {org : Id}
    (horg : org ≠ r.actor.org) : w.store.Spares org (r.apply c w).store := by
  have hs := (h.mono fun _ _ => And.left).consistent
  exact h.governs.spares_many (r.effects hs hfresh) horg

namespace Sample

/-- A location of another organization. -/
def annex : Location := ⟨.ofNat 8, .ofNat 9, "Side street", "", 0⟩

def hall : Space := ⟨.ofNat 10, .ofNat 8, "Hall", false⟩

/-- An administrator of the organization with identifier 9. -/
def neighbour : User := ⟨.ofNat 12, .ofNat 9, .orgAdmin⟩

def atlas : Atlas where
  place space := if space = hall.id then annex.id else location.id
  home l := if l = annex.id then annex.org else location.org

/-- The desk is booked every day and the last day moved to the room, and the neighbours have booked
their hall. -/
def sharedSteps : List Step :=
  [.administration (.putLocation location), .administration (.putLocation annex),
    .administration (.putSpace desk [] []), .administration (.putSpace room [] []),
    .administration (.putSpace hall [] []),
    .request conditions (.book neighbour { request with space := hall.id }),
    .request conditions (.bookSeries admin daily),
    .request conditions (.rebook admin (.ofNat 104) lastDay)]

def shared : World := sharedSteps.foldl Step.apply {}

theorem reachable_shared : Reachable (fun w st => st.Fresh w ∧ st.KeepsTo atlas) shared :=
  Reachable.initial.steps (by decide +kernel)

end Sample

/-- The series is given up: its bookings at the desk are deleted, and so is the one that was moved to
the room. The booking of the hall stays. -/
theorem tenant_integrity_hall :
    Reachable (fun w st => st.Fresh w ∧ st.KeepsTo Sample.atlas) Sample.shared ∧
    (Sample.shared.store.bookings.map fun b => (b.id, b.space, b.series)) =
      [(.ofNat 102, .ofNat 4, some (.ofNat 101)), (.ofNat 103, .ofNat 4, some (.ofNat 101)),
        (.ofNat 104, .ofNat 5, some (.ofNat 101)), (.ofNat 100, .ofNat 10, none)] ∧
    Sample.shared.store.orgOf (.ofNat 10) = some (.ofNat 9) ∧
    ∃ w', Service.cancelSeries Sample.admin (.ofNat 101) Sample.conditions Sample.shared =
        (.ok (), w') ∧
      w'.store.bookings.map (·.id) = [.ofNat 100] ∧
      Sample.shared.store.Spares (.ofNat 9) w'.store := by
  have hs := (Sample.reachable_shared.mono fun _ _ => And.left).consistent
  have hstored : (Sample.shared.store.series.get? (.ofNat 101)).any fun row => decide
      (Service.MayCancel Sample.conditions Sample.shared.store Sample.admin row) := by
    decide +kernel
  obtain ⟨row, hrow, hmay⟩ := (Option.any_eq_true _ _).1 hstored
  have hok := Service.cancelSeries_of_mayCancel hs Sample.reliable hrow (of_decide_eq_true hmay)
  rcases hrun : Service.cancelSeries Sample.admin (.ofNat 101) Sample.conditions Sample.shared
    with ⟨o, w'⟩
  rw [hrun] at hok
  cases hok
  have happly : (Request.cancelSeries Sample.admin (.ofNat 101)).apply Sample.conditions
      Sample.shared = w' := congrArg Prod.snd hrun
  refine ⟨Sample.reachable_shared, by decide +kernel, by decide +kernel, w', rfl, ?_, ?_⟩
  · have hleft : (Sample.shared.store.bookings.filterMap (·.released (.ofNat 101)
        Sample.conditions.now)).map (·.id) = [.ofNat 100] := by decide +kernel
    have hremoved := SeriesRemoved.of_through (.refl _ _ hs) hrun
    exact List.perm_singleton.1 (hleft ▸ hremoved.bookings.map (·.id))
  · have hminted : w'.minted = Sample.shared.minted := by
      have h := Action.Changing.minted (x := Service.cancelSeries Sample.admin (.ofNat 101))
        Sample.conditions Sample.shared
      rwa [hrun] at h
    rw [← happly] at hminted ⊢
    exact tenant_integrity Sample.reachable_shared (.of_le (Nat.le_of_eq hminted))
      (by decide +kernel)

end SpaceBooking
