import SpaceBooking.Proofs.WrittenNames
import SpaceBooking.Proofs.WrittenTimes
import SpaceBooking.Wire.Codec

/-!
# Wire forms are read back

What is written as a wire value is read back as it was, for every type that has a wire form. `Fits`
is the range that a type with numbers has: 64 bits with a sign, or 32 without. `Value.without`
leaves out fields, and `MayOmit` says which may be: those that hold what stands for a missing field.

* `Value.get_of_field`, `Value.getOption_of_field`, `Value.getD_of_field`, `Value.list?_ofList` —
  what a field or a list is read as.
* `Booking.ofWire?_without` — a booking, with or without the fields that hold nothing.
* `Cadence.ofKind?_kind` — a rule, from a record that its fields stand in.
* `BookingRequest.ofWire?_without`, `SeriesRequest.ofWire?_without` — requests.
* `Event.ofWire?_toWire` — events of every kind.
-/

namespace SpaceBooking

open Wire

/-! ## Fields -/

namespace Wire.Value

variable {α : Type} {v : Value} {key : String} {keys : List String}
  {fields : List (String × Value)} {read : Value → Option α} {write : α → Value}

/-- A record without some of its fields. -/
def without (keys : List String) : Value → Value
  | record fields => record (fields.filter fun f => f.1 ∉ keys)
  | v => v

/-- Nothing is left out for no keys. -/
theorem without_nil (v : Value) : v.without [] = v := by
  cases v with
  | record fields =>
    show record (fields.filter _) = _
    rw [List.filter_eq_self.2 (by simp)]
  | _ => rfl

theorem lookup_filter (fields : List (String × Value)) (keys : List String) (key : String) :
    (fields.filter fun f => f.1 ∉ keys).lookup key =
      if key ∈ keys then none else fields.lookup key := by
  induction fields with
  | nil => simp
  | cons f fields ih =>
    obtain ⟨k, v⟩ := f
    by_cases hk : k ∈ keys
    · rw [List.filter_cons_of_neg (by simpa using hk), ih]
      by_cases hkey : key ∈ keys
      · rw [if_pos hkey, if_pos hkey]
      · have hne : (key == k) = false := by
          rw [beq_eq_false_iff_ne]
          rintro rfl
          exact hkey hk
        rw [if_neg hkey, if_neg hkey, List.lookup_cons, hne]
    · rw [List.filter_cons_of_pos (by simpa using hk), List.lookup_cons, List.lookup_cons, ih]
      by_cases heq : key = k
      · subst heq
        rw [BEq.rfl]
        exact (if_neg hk).symm
      · rw [beq_eq_false_iff_ne.2 heq]

/-- **A field that is left out is missing**, and the others are there. -/
theorem field?_without (fields : List (String × Value)) (keys : List String) (key : String) :
    ((record fields).without keys).field? key =
      if key ∈ keys then none else (record fields).field? key :=
  lookup_filter fields keys key

theorem get_without (h : key ∉ keys) (read : Value → Option α) :
    ((record fields).without keys).get key read = (record fields).get key read := by
  unfold get
  rw [field?_without, if_neg h]

/-- A field that is left out has to hold what it stands for when it is missing. -/
theorem field?_without_or {p : Prop} (h : key ∈ keys → p) :
    ((record fields).without keys).field? key = (record fields).field? key ∨
      ((record fields).without keys).field? key = none ∧ p := by
  rw [field?_without]
  by_cases hkey : key ∈ keys
  · rw [if_pos hkey]
    exact .inr ⟨rfl, h hkey⟩
  · rw [if_neg hkey]
    exact .inl rfl

/-- A field is read as what was written. -/
theorem get_of_field {w : Value} {a : α} (h : v.field? key = some w) (hread : read w = some a) :
    v.get key read = some a := by
  rw [get, h, Option.bind_some, hread]

theorem getOption_of_ne_null {w : Value} (h : v.field? key = some w) (hw : w ≠ null)
    (read : Value → Option α) : v.getOption key read = (read w).map some := by
  unfold getOption
  rw [h]
  cases w with
  | null => exact absurd rfl hw
  | _ => rfl

/-- An optional field is read as what was written, or as nothing if it is missing. -/
theorem getOption_of_field {o : Option α}
    (h : v.field? key = some (ofOption write o) ∨ v.field? key = none ∧ o = none)
    (hread : ∀ a, read (write a) = some a) (hnull : ∀ a, write a ≠ null) :
    v.getOption key read = some o := by
  rcases h with h | ⟨h, rfl⟩
  · cases o with
    | none =>
      unfold getOption
      rw [h]
      rfl
    | some a =>
      rw [getOption_of_ne_null h (hnull a)]
      show (read (write a)).map some = _
      rw [hread, Option.map_some]
  · unfold getOption
    rw [h]

/-- A field with a default is read as what was written, or as the default if it is missing. -/
theorem getD_of_field {w : Value} {a default : α}
    (h : v.field? key = some w ∨ v.field? key = none ∧ a = default) (hread : read w = some a) :
    v.getD key default read = some a := by
  unfold getD
  rcases h with h | ⟨h, rfl⟩
  · rw [h]
    exact hread
  · rw [h]

/-- A list is read as what was written. -/
theorem list?_ofList {as : List α} (hread : ∀ a ∈ as, read (write a) = some a) :
    (ofList write as).list? read = some as := by
  unfold ofList list?
  induction as with
  | nil => rfl
  | cons a as ih =>
    have hrest := ih fun b hb => hread b (List.mem_cons_of_mem _ hb)
    simp only [List.map_cons, List.mapM_cons, hread a List.mem_cons_self, Option.bind_eq_bind,
      Option.bind_some, hrest, Option.pure_def]

end Wire.Value

/-! ## Ranges -/

/-- The number has 32 bits without a sign. -/
def Wire.Is32 (n : Nat) : Prop := n < 0x100000000

theorem Wire.Value.nat32?_int {n : Nat} (h : Is32 n) : (Value.int n).nat32? = some n := by
  unfold nat32?
  exact nat?_int h

def Span.Fits (s : Span) : Prop := Word.Fits s.start ∧ Word.Fits s.stop

def Location.Fits (l : Location) : Prop := Is32 l.maxConcurrent

def Booking.Fits (b : Booking) : Prop := b.span.Fits

def Cadence.Fits (c : Cadence) : Prop := Is32 c.cycle

def Series.Fits (s : Series) : Prop := s.cadence.Fits ∧ s.first.Fits ∧ Word.Fits s.stop

def SeriesRequest.Fits (r : SeriesRequest) : Prop := r.cadence.Fits

def Event.Fits : Event → Prop
  | .booking _ b => b.Fits
  | .seriesCreated _ _ created failed => Is32 created ∧ Is32 failed
  | .seriesDeleted _ _ removed detached => Is32 removed ∧ Is32 detached

/-! ## Names and numbers -/

@[simp] theorem Id.ofWire?_toWire (id : Id) : ofWire? (toWire id) = some id := by
  show (Value.text id.text).text?.bind Id.ofText? = some id
  rw [Value.text?, Option.bind_some, id.ofText?_text]

@[simp] theorem LocalTime.ofWire?_toWire (t : LocalTime) : ofWire? (toWire t) = some t := by
  show (Value.text t.text).text?.bind LocalTime.ofText? = some t
  rw [Value.text?, Option.bind_some, t.ofText?_text]

@[simp] theorem Weekday.ofWire?_toWire (d : Weekday) : ofWire? (toWire d) = some d := by
  show (Value.text d.text).text?.bind Weekday.ofName? = some d
  rw [Value.text?, Option.bind_some, d.ofName?_text]

@[simp] theorem Role.ofWire?_toWire (r : Role) : ofWire? (toWire r) = some r := by
  cases r <;> rfl

@[simp] theorem ApprovalState.ofWire?_toWire (s : ApprovalState) : ofWire? (toWire s) = some s := by
  cases s <;> rfl

@[simp] theorem WeekdaySet.ofWire?_toWire (s : WeekdaySet) : ofWire? (toWire s) = some s := by
  have hlist : (Value.ofList toWire s.toList).list? ofWire? = some s.toList :=
    Value.list?_ofList fun d _ => d.ofWire?_toWire
  show ((Value.ofList toWire s.toList).list? ofWire?).map WeekdaySet.ofList = some s
  rw [hlist, Option.map_some, s.ofList_toList]

/-! ## Records -/

theorem Span.ofWire?_toWire {s : Span} (h : s.Fits) : ofWire? (toWire s) = some s := by
  have hkeyed : (toWire s).keyed? ["start", "end"] [] = some (toWire s) := rfl
  have hstart : (toWire s).get "start" Value.int64? = some s.start :=
    Value.get_of_field rfl (Value.int64?_int h.1)
  have hstop : (toWire s).get "end" Value.int64? = some s.stop :=
    Value.get_of_field rfl (Value.int64?_int h.2)
  generalize toWire s = v at *
  delta instOnWireSpan
  simp only [hkeyed, hstart, hstop, Option.bind_eq_bind, Option.bind_some, Option.pure_def]

theorem User.ofWire?_toWire (u : User) : ofWire? (toWire u) = some u := by
  have hkeyed : (toWire u).keyed? ["id", "org_id", "role"] [] = some (toWire u) := rfl
  have hid : (toWire u).get "id" ofWire? = some u.id :=
    Value.get_of_field rfl u.id.ofWire?_toWire
  have horg : (toWire u).get "org_id" ofWire? = some u.org :=
    Value.get_of_field rfl u.org.ofWire?_toWire
  have hrole : (toWire u).get "role" ofWire? = some u.role :=
    Value.get_of_field rfl u.role.ofWire?_toWire
  generalize toWire u = v at *
  delta instOnWireUser
  simp only [hkeyed, hid, horg, hrole, Option.bind_eq_bind, Option.bind_some, Option.pure_def]

theorem Location.ofWire?_toWire {l : Location} (h : l.Fits) : ofWire? (toWire l) = some l := by
  have hkeyed : (toWire l).keyed? ["id", "org_id", "name", "timezone", "max_concurrent_bookings"]
      [] = some (toWire l) := rfl
  have hid : (toWire l).get "id" ofWire? = some l.id :=
    Value.get_of_field rfl l.id.ofWire?_toWire
  have horg : (toWire l).get "org_id" ofWire? = some l.org :=
    Value.get_of_field rfl l.org.ofWire?_toWire
  have hname : (toWire l).get "name" Value.text? = some l.name := rfl
  have hzone : (toWire l).get "timezone" Value.text? = some l.zoneName := rfl
  have hcap : (toWire l).get "max_concurrent_bookings" Value.nat32? = some l.maxConcurrent :=
    Value.get_of_field rfl (Value.nat32?_int h)
  generalize toWire l = v at *
  delta instOnWireLocation
  simp only [hkeyed, hid, horg, hname, hzone, hcap, Option.bind_eq_bind, Option.bind_some,
    Option.pure_def]

theorem Space.ofWire?_toWire (s : Space) : ofWire? (toWire s) = some s := by
  have hkeyed : (toWire s).keyed? ["id", "location_id", "name", "require_subject"] [] =
      some (toWire s) := rfl
  have hid : (toWire s).get "id" ofWire? = some s.id :=
    Value.get_of_field rfl s.id.ofWire?_toWire
  have hlocation : (toWire s).get "location_id" ofWire? = some s.location :=
    Value.get_of_field rfl s.location.ofWire?_toWire
  have hname : (toWire s).get "name" Value.text? = some s.name := rfl
  have hsubject : (toWire s).get "require_subject" Value.bool? = some s.requiresSubject := rfl
  generalize toWire s = v at *
  delta instOnWireSpace
  simp only [hkeyed, hid, hlocation, hname, hsubject, Option.bind_eq_bind, Option.bind_some,
    Option.pure_def]

/-- The fields of these keys hold nothing, so they may be left out. -/
def Booking.MayOmit (b : Booking) (keys : List String) : Prop :=
  ∀ key ∈ keys, key = "recurring_id" ∧ b.series = none ∨
    key = "calendar_event_id" ∧ b.calendarEvent = none

/-- **A booking is read back**, whether the fields that hold nothing are written or left out. -/
theorem Booking.ofWire?_without {b : Booking} (h : b.Fits) {keys : List String}
    (homit : b.MayOmit keys) : ofWire? ((toWire b).without keys) = some b := by
  have hget {α : Type} {key : String} {read : Value → Option α}
      (hkey : key ≠ "recurring_id" ∧ key ≠ "calendar_event_id") :
      ((toWire b).without keys).get key read = (toWire b).get key read := by
    refine Value.get_without (fun hmem => ?_) read
    rcases homit key hmem with ⟨heq, -⟩ | ⟨heq, -⟩
    · exact hkey.1 heq
    · exact hkey.2 heq
  have hkeyed : ((toWire b).without keys).keyed? ["id", "user_id", "space_id", "span", "subject",
      "approved", "recurring_id", "calendar_event_id"] [] = some ((toWire b).without keys) := rfl
  have hid : ((toWire b).without keys).get "id" ofWire? = some b.id :=
    (hget (by decide)).trans (Value.get_of_field rfl b.id.ofWire?_toWire)
  have howner : ((toWire b).without keys).get "user_id" ofWire? = some b.owner :=
    (hget (by decide)).trans (Value.get_of_field rfl b.owner.ofWire?_toWire)
  have hspace : ((toWire b).without keys).get "space_id" ofWire? = some b.space :=
    (hget (by decide)).trans (Value.get_of_field rfl b.space.ofWire?_toWire)
  have hspan : ((toWire b).without keys).get "span" ofWire? = some b.span :=
    (hget (by decide)).trans (Value.get_of_field rfl (Span.ofWire?_toWire h))
  have hsubject : ((toWire b).without keys).get "subject" Value.text? = some b.subject :=
    (hget (by decide)).trans rfl
  have happroved : ((toWire b).without keys).get "approved" Value.bool? = some b.approved :=
    (hget (by decide)).trans rfl
  have hseries : ((toWire b).without keys).getOption "recurring_id" ofWire? = some b.series := by
    refine Value.getOption_of_field (Value.field?_without_or fun hmem => ?_) Id.ofWire?_toWire
      (by simp [toWire])
    rcases homit _ hmem with ⟨-, hnone⟩ | ⟨heq, -⟩
    · exact hnone
    · exact absurd heq (by decide)
  have hcalendar : ((toWire b).without keys).getOption "calendar_event_id" Value.text? =
      some b.calendarEvent := by
    refine Value.getOption_of_field (Value.field?_without_or fun hmem => ?_) (fun _ => rfl)
      (by simp)
    rcases homit _ hmem with ⟨heq, -⟩ | ⟨-, hnone⟩
    · exact absurd heq (by decide)
    · exact hnone
  generalize (toWire b).without keys = v at *
  delta instOnWireBooking
  simp only [hkeyed, hid, howner, hspace, hspan, hsubject, happroved, hseries, hcalendar,
    Option.bind_eq_bind, Option.bind_some, Option.pure_def]

theorem Booking.ofWire?_toWire {b : Booking} (h : b.Fits) : ofWire? (toWire b) = some b := by
  rw [← (toWire b).without_nil]
  exact ofWire?_without h fun _ hmem => absurd hmem List.not_mem_nil

/-! ## Rules and requests -/

/-- The name of the kind of a rule. -/
def Cadence.kind : Cadence → String
  | daily _ => "daily"
  | weekly _ _ => "weekly"

/-- **A rule is read back from its fields**, wherever they stand. -/
theorem Cadence.ofKind?_kind {c : Cadence} (h : c.Fits) {v : Value}
    (hrecord : ∀ required, v.keyed? required [] = some v)
    (hcycle : v.field? "cycle" = some (.int c.cycle))
    (hdays : ∀ n days, c = .weekly n days → v.field? "weekdays" = some (toWire days)) :
    Cadence.ofKind? c.kind v = some c := by
  have hread : v.get "cycle" Value.nat32? = some c.cycle :=
    Value.get_of_field hcycle (Value.nat32?_int h)
  cases c with
  | daily n =>
    simp only [kind, ofKind?, if_true, hrecord, hread, Option.bind_eq_bind, Option.bind_some,
      Option.pure_def]
    rfl
  | weekly n days =>
    have hset : v.get "weekdays" ofWire? = some days :=
      Value.get_of_field (hdays n days rfl) days.ofWire?_toWire
    have hne : ¬ "weekly" = "daily" := by decide
    simp only [kind, ofKind?, hne, if_false, if_true, hrecord, hread, hset, Option.bind_eq_bind,
      Option.bind_some, Option.pure_def]
    rfl

theorem Cadence.ofWire?_toWire {c : Cadence} (h : c.Fits) : ofWire? (toWire c) = some c := by
  have htag : (toWire c).tagged? "cadence" = some (.text c.kind, toWire c) := by cases c <;> rfl
  have hkind : Cadence.ofKind? c.kind (toWire c) = some c := by
    refine ofKind?_kind h (fun _ => rfl) (by cases c <;> rfl) ?_
    rintro n days rfl
    rfl
  generalize toWire c = v at *
  delta instOnWireCadence
  simp only [htag, Value.text?, hkind, Option.bind_eq_bind, Option.bind_some]

theorem Series.ofWire?_toWire {s : Series} (h : s.Fits) : ofWire? (toWire s) = some s := by
  have hkeyed : (toWire s).keyed? ["id", "user_id", "space_id", "subject", "cadence", "first",
      "end"] [] = some (toWire s) := rfl
  have hid : (toWire s).get "id" ofWire? = some s.id :=
    Value.get_of_field rfl s.id.ofWire?_toWire
  have howner : (toWire s).get "user_id" ofWire? = some s.owner :=
    Value.get_of_field rfl s.owner.ofWire?_toWire
  have hspace : (toWire s).get "space_id" ofWire? = some s.space :=
    Value.get_of_field rfl s.space.ofWire?_toWire
  have hsubject : (toWire s).get "subject" Value.text? = some s.subject := rfl
  have hcadence : (toWire s).get "cadence" ofWire? = some s.cadence :=
    Value.get_of_field rfl (Cadence.ofWire?_toWire h.1)
  have hfirst : (toWire s).get "first" ofWire? = some s.first :=
    Value.get_of_field rfl (Span.ofWire?_toWire h.2.1)
  have hstop : (toWire s).get "end" Value.int64? = some s.stop :=
    Value.get_of_field rfl (Value.int64?_int h.2.2)
  generalize toWire s = v at *
  delta instOnWireSeries
  simp only [hkeyed, hid, howner, hspace, hsubject, hcadence, hfirst, hstop, Option.bind_eq_bind,
    Option.bind_some, Option.pure_def]

/-- What a request leaves out: the subject if it is empty, and whom to book for if nobody. -/
def MayOmit (subject : String) (onBehalfOf : Option Id) (keys : List String) : Prop :=
  ∀ key ∈ keys, key = "subject" ∧ subject = "" ∨ key = "on_behalf_of" ∧ onBehalfOf = none

theorem MayOmit.not_mem {subject : String} {onBehalfOf : Option Id} {keys : List String}
    (h : MayOmit subject onBehalfOf keys) {key : String}
    (hkey : key ≠ "subject" ∧ key ≠ "on_behalf_of") : key ∉ keys := by
  intro hmem
  rcases h key hmem with ⟨heq, -⟩ | ⟨heq, -⟩
  · exact hkey.1 heq
  · exact hkey.2 heq

theorem mayOmit_nil (subject : String) (onBehalfOf : Option Id) : MayOmit subject onBehalfOf [] :=
  fun _ hmem => absurd hmem List.not_mem_nil

/-- The subject is read back, whether it is written or left out. -/
theorem MayOmit.getD_subject {subject : String} {onBehalfOf : Option Id} {keys : List String}
    (h : MayOmit subject onBehalfOf keys) {fields : List (String × Value)}
    (hfield : (Value.record fields).field? "subject" = some (.text subject)) :
    ((Value.record fields).without keys).getD "subject" "" Value.text? = some subject := by
  have hmissing : "subject" ∈ keys → subject = "" := by
    intro hmem
    rcases h _ hmem with ⟨-, hempty⟩ | ⟨heq, -⟩
    · exact hempty
    · exact absurd heq (by decide)
  have hread : (Value.text subject).text? = some subject := rfl
  refine Value.getD_of_field ?_ hread
  rw [← hfield]
  exact Value.field?_without_or hmissing

/-- Whom to book for is read back, whether it is written or left out. -/
theorem MayOmit.getOption_onBehalfOf {subject : String} {onBehalfOf : Option Id}
    {keys : List String} (h : MayOmit subject onBehalfOf keys) {fields : List (String × Value)}
    (hfield : (Value.record fields).field? "on_behalf_of" = some (.ofOption toWire onBehalfOf)) :
    ((Value.record fields).without keys).getOption "on_behalf_of" ofWire? = some onBehalfOf := by
  have hmissing : "on_behalf_of" ∈ keys → onBehalfOf = none := by
    intro hmem
    rcases h _ hmem with ⟨heq, -⟩ | ⟨-, hnone⟩
    · exact absurd heq (by decide)
    · exact hnone
  refine Value.getOption_of_field ?_ Id.ofWire?_toWire (by simp [toWire])
  rw [← hfield]
  exact Value.field?_without_or hmissing

/-- **A request is read back**, with or without what it may leave out. -/
theorem BookingRequest.ofWire?_without {r : BookingRequest} {keys : List String}
    (homit : MayOmit r.subject r.onBehalfOf keys) :
    ofWire? ((toWire r).without keys) = some r := by
  have hget {α : Type} {key : String} {read : Value → Option α}
      (hkey : key ≠ "subject" ∧ key ≠ "on_behalf_of") :
      ((toWire r).without keys).get key read = (toWire r).get key read :=
    Value.get_without (homit.not_mem hkey) read
  have hkeyed : ((toWire r).without keys).keyed? ["space_id", "enter", "leave"]
      ["subject", "on_behalf_of"] = some ((toWire r).without keys) := rfl
  have hspace : ((toWire r).without keys).get "space_id" ofWire? = some r.space :=
    (hget (by decide)).trans (Value.get_of_field rfl r.space.ofWire?_toWire)
  have henter : ((toWire r).without keys).get "enter" ofWire? = some r.enter :=
    (hget (by decide)).trans (Value.get_of_field rfl r.enter.ofWire?_toWire)
  have hleave : ((toWire r).without keys).get "leave" ofWire? = some r.leave :=
    (hget (by decide)).trans (Value.get_of_field rfl r.leave.ofWire?_toWire)
  have hsubject : ((toWire r).without keys).getD "subject" "" Value.text? = some r.subject :=
    homit.getD_subject rfl
  have hbehalf : ((toWire r).without keys).getOption "on_behalf_of" ofWire? = some r.onBehalfOf :=
    homit.getOption_onBehalfOf rfl
  generalize (toWire r).without keys = v at *
  delta instOnWireBookingRequest
  simp only [hkeyed, hspace, henter, hleave, hsubject, hbehalf, Option.bind_eq_bind,
    Option.bind_some, Option.pure_def]

theorem BookingRequest.ofWire?_toWire (r : BookingRequest) : ofWire? (toWire r) = some r := by
  rw [← (toWire r).without_nil]
  exact ofWire?_without (mayOmit_nil _ _)

/-- The fields of a request for a series that stand after those of its rule, or are of the rule. -/
theorem SeriesRequest.field?_toWire (r : SeriesRequest) :
    (toWire r).field? "cadence" = some (.text r.cadence.kind) ∧
      (toWire r).field? "cycle" = some (.int r.cadence.cycle) ∧
      (∀ n days, r.cadence = .weekly n days →
        (toWire r).field? "weekdays" = some (toWire days)) ∧
      (toWire r).field? "subject" = some (.text r.subject) ∧
      (toWire r).field? "on_behalf_of" = some (.ofOption toWire r.onBehalfOf) := by
  obtain ⟨space, enter, leave, stop, cadence, subject, onBehalfOf⟩ := r
  cases cadence with
  | daily n => exact ⟨rfl, rfl, (by rintro _ _ ⟨⟩), rfl, rfl⟩
  | weekly n days => exact ⟨rfl, rfl, (by rintro _ _ ⟨⟩; rfl), rfl, rfl⟩

/-- **A request for a series is read back**, the fields of its rule among its own. -/
theorem SeriesRequest.ofWire?_without {r : SeriesRequest} (h : r.Fits) {keys : List String}
    (homit : MayOmit r.subject r.onBehalfOf keys) :
    ofWire? ((toWire r).without keys) = some r := by
  obtain ⟨hkind, hcycle, hdays, hsubject, hbehalf⟩ := r.field?_toWire
  have hfield {key : String} (hkey : key ≠ "subject" ∧ key ≠ "on_behalf_of") :
      ((toWire r).without keys).field? key = (toWire r).field? key :=
    (Value.field?_without _ _ _).trans (if_neg (homit.not_mem hkey))
  have hspace : ((toWire r).without keys).get "space_id" ofWire? = some r.space :=
    Value.get_of_field (hfield (by decide)) r.space.ofWire?_toWire
  have henter : ((toWire r).without keys).get "enter" ofWire? = some r.enter :=
    Value.get_of_field (hfield (by decide)) r.enter.ofWire?_toWire
  have hleave : ((toWire r).without keys).get "leave" ofWire? = some r.leave :=
    Value.get_of_field (hfield (by decide)) r.leave.ofWire?_toWire
  have hstop : ((toWire r).without keys).get "end" ofWire? = some r.stop :=
    Value.get_of_field (hfield (by decide)) r.stop.ofWire?_toWire
  have hkind : ((toWire r).without keys).get "cadence" Cadence.kind? = some r.cadence.kind :=
    Value.get_of_field ((hfield (by decide)).trans hkind) rfl
  have hcadence : Cadence.ofKind? r.cadence.kind ((toWire r).without keys) = some r.cadence :=
    Cadence.ofKind?_kind h (fun _ => rfl) ((hfield (by decide)).trans hcycle)
      fun n days hweekly => (hfield (by decide)).trans (hdays n days hweekly)
  have hsubject : ((toWire r).without keys).getD "subject" "" Value.text? = some r.subject :=
    homit.getD_subject hsubject
  have hbehalf : ((toWire r).without keys).getOption "on_behalf_of" ofWire? =
      some r.onBehalfOf := homit.getOption_onBehalfOf hbehalf
  generalize (toWire r).without keys = v at *
  delta instOnWireSeriesRequest
  simp only [hspace, henter, hleave, hstop, hkind, hcadence, hsubject, hbehalf,
    Option.bind_eq_bind, Option.bind_some, Option.pure_def]

theorem SeriesRequest.ofWire?_toWire {r : SeriesRequest} (h : r.Fits) :
    ofWire? (toWire r) = some r := by
  rw [← (toWire r).without_nil]
  exact ofWire?_without h (mayOmit_nil _ _)

/-! ## Events -/

/-- The form of an event about a booking that is written as `v`. -/
def bookingEvent (change : BookingChange) (v : Value) : Value :=
  .record [("type", .text change.label), ("booking", v)]

/-- **An event about a booking is read back** if the booking is. -/
theorem ofWire?_bookingEvent (change : BookingChange) {b : Booking} {v : Value}
    (h : ofWire? v = some b) : ofWire? (bookingEvent change v) = some (Event.booking change b) := by
  have htag : (bookingEvent change v).tagged? "type" =
      some (.text change.label, bookingEvent change v) := rfl
  have hkeyed : (bookingEvent change v).keyed? ["booking"] [] = some (bookingEvent change v) := rfl
  have hbooking : (bookingEvent change v).get "booking" ofWire? = some b :=
    Value.get_of_field rfl h
  have hchange : change.label ≠ "series_created" ∧ change.label ≠ "series_deleted" ∧
      (BookingChange.all.find? fun c => c.label = change.label) = some change := by
    cases change <;> exact ⟨by decide, by decide, rfl⟩
  obtain ⟨hcreated, hdeleted, hfound⟩ := hchange
  generalize bookingEvent change v = v at *
  delta instOnWireEvent
  simp only [htag, hkeyed, hbooking, Value.text?, hcreated, hdeleted, hfound, if_false,
    Option.bind_eq_bind, Option.bind_some, Option.pure_def]

theorem Event.ofWire?_toWire {e : Event} (h : e.Fits) : ofWire? (toWire e) = some e := by
  cases e with
  | booking change b => exact ofWire?_bookingEvent change (Booking.ofWire?_toWire h)
  | seriesCreated series space created failed =>
    generalize hv : toWire (Event.seriesCreated series space created failed) = v
    have htag : v.tagged? "type" = some (.text "series_created", v) := hv ▸ rfl
    have hkeyed : v.keyed? ["series_id", "space_id", "created", "failed"] [] = some v := hv ▸ rfl
    have hseries : v.get "series_id" ofWire? = some series :=
      Value.get_of_field (hv ▸ rfl) series.ofWire?_toWire
    have hspace : v.get "space_id" ofWire? = some space :=
      Value.get_of_field (hv ▸ rfl) space.ofWire?_toWire
    have hfirst : v.get "created" Value.nat32? = some created :=
      Value.get_of_field (hv ▸ rfl) (Value.nat32?_int h.1)
    have hsecond : v.get "failed" Value.nat32? = some failed :=
      Value.get_of_field (hv ▸ rfl) (Value.nat32?_int h.2)
    delta instOnWireEvent
    simp only [htag, hkeyed, hseries, hspace, hfirst, hsecond, Value.text?, if_true,
      Option.bind_eq_bind, Option.bind_some, Option.pure_def]
  | seriesDeleted series space removed detached =>
    generalize hv : toWire (Event.seriesDeleted series space removed detached) = v
    have htag : v.tagged? "type" = some (.text "series_deleted", v) := hv ▸ rfl
    have hkeyed : v.keyed? ["series_id", "space_id", "removed", "detached"] [] = some v := hv ▸ rfl
    have hseries : v.get "series_id" ofWire? = some series :=
      Value.get_of_field (hv ▸ rfl) series.ofWire?_toWire
    have hspace : v.get "space_id" ofWire? = some space :=
      Value.get_of_field (hv ▸ rfl) space.ofWire?_toWire
    have hfirst : v.get "removed" Value.nat32? = some removed :=
      Value.get_of_field (hv ▸ rfl) (Value.nat32?_int h.1)
    have hsecond : v.get "detached" Value.nat32? = some detached :=
      Value.get_of_field (hv ▸ rfl) (Value.nat32?_int h.2)
    have hne : ¬ "series_deleted" = "series_created" := by decide
    delta instOnWireEvent
    simp only [htag, hkeyed, hseries, hspace, hfirst, hsecond, hne, Value.text?, if_true, if_false,
      Option.bind_eq_bind, Option.bind_some, Option.pure_def]

end SpaceBooking
