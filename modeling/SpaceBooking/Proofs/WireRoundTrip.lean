import SpaceBooking.Proofs.WireForms
import SpaceBooking.Proofs.WireText

/-!
# Things go over the wire and come back

Wire forms are shallow and hold whole numbers only, so that the text of a form is read back as the
form (`read?_render`), and the form as what was written.

* `Value.ReadsAs` — a form is read as a thing, and so is its text.
* `wire_forms_read_back` — this holds for every type that has a wire form.
-/

namespace SpaceBooking

open Wire

namespace Wire.Value

variable {α : Type} {d : Nat} {v : Value}

/-- The form is read as `a`, and so is the text that it is rendered as. -/
def ReadsAs [OnWire α] (v : Value) (a : α) : Prop :=
  ofWire? v = some a ∧ (read? v.render).bind ofWire? = some a

theorem readsAs_of_flat [OnWire α] {a : α} (hflat : v.Flat maxDepth) (h : ofWire? v = some a) :
    v.ReadsAs a := by
  refine ⟨h, ?_⟩
  rw [read?_render hflat, Option.bind_some, h]

/-! ## Forms without fractions -/

attribute [simp] Flat.null Flat.bool Flat.int Flat.text

@[simp] theorem flat_record {fields : List (String × Value)} :
    (record fields).Flat (d + 1) ↔ ∀ f ∈ fields, f.2.Flat d :=
  ⟨fun h => by cases h; assumption, .record⟩

@[simp] theorem flat_ofOption {write : α → Value} (h : ∀ a, (write a).Flat d) (o : Option α) :
    (ofOption write o).Flat d := by
  cases o with
  | none => exact .null d
  | some a => exact h a

theorem flat_ofList {write : α → Value} (h : ∀ a, (write a).Flat d) (as : List α) :
    (ofList write as).Flat (d + 1) := by
  refine .list fun v hv => ?_
  obtain ⟨a, -, rfl⟩ := List.mem_map.1 hv
  exact h a

/-- Fields may be left out. -/
theorem Flat.without (h : v.Flat d) (keys : List String) : (v.without keys).Flat d := by
  cases h with
  | record hfields => exact .record fun f hf => hfields f (List.mem_filter.1 hf).1
  | null => exact .null d
  | bool _ b => exact .bool d b
  | int _ n => exact .int d n
  | text _ s => exact .text d s
  | list hitems => exact .list hitems

end Wire.Value

open Wire.Value

/-! ## Forms and their texts -/

theorem Id.length_text (id : Id) : id.text.length = 26 := by
  simp [text, length_digits, width]

@[simp] theorem Id.flat_toWire (d : Nat) (id : Id) : (toWire id).Flat d := .text d id.text

theorem Id.readsAs (id : Id) : (toWire id).ReadsAs id :=
  readsAs_of_flat (id.flat_toWire _) id.ofWire?_toWire

@[simp] theorem LocalTime.flat_toWire (d : Nat) (t : LocalTime) : (toWire t).Flat d :=
  .text d t.text

theorem LocalTime.readsAs (t : LocalTime) : (toWire t).ReadsAs t :=
  readsAs_of_flat (t.flat_toWire _) t.ofWire?_toWire

@[simp] theorem Role.flat_toWire (d : Nat) (r : Role) : (toWire r).Flat d := .text d r.text

theorem Role.readsAs (r : Role) : (toWire r).ReadsAs r :=
  readsAs_of_flat (r.flat_toWire _) r.ofWire?_toWire

theorem ApprovalState.readsAs (s : ApprovalState) : (toWire s).ReadsAs s :=
  readsAs_of_flat (.text _ s.text) s.ofWire?_toWire

@[simp] theorem WeekdaySet.flat_toWire (d : Nat) (s : WeekdaySet) : (toWire s).Flat (d + 1) :=
  flat_ofList (fun day => .text d day.text) s.toList

theorem WeekdaySet.readsAs (s : WeekdaySet) : (toWire s).ReadsAs s :=
  readsAs_of_flat (s.flat_toWire _) s.ofWire?_toWire

@[simp] theorem Span.flat_toWire (d : Nat) (s : Span) : (toWire s).Flat (d + 1) := by
  simp [toWire]

theorem Span.readsAs {s : Span} (h : s.Fits) : (toWire s).ReadsAs s :=
  readsAs_of_flat (s.flat_toWire _) (ofWire?_toWire h)

theorem User.readsAs (u : User) : (toWire u).ReadsAs u := by
  have hflat : (toWire u).Flat 1 := by simp [toWire]
  exact readsAs_of_flat (hflat.mono (by decide)) u.ofWire?_toWire

theorem Location.readsAs {l : Location} (h : l.Fits) : (toWire l).ReadsAs l := by
  have hflat : (toWire l).Flat 1 := by simp [toWire]
  exact readsAs_of_flat (hflat.mono (by decide)) (ofWire?_toWire h)

theorem Space.readsAs (s : Space) : (toWire s).ReadsAs s := by
  have hflat : (toWire s).Flat 1 := by simp [toWire]
  exact readsAs_of_flat (hflat.mono (by decide)) s.ofWire?_toWire

theorem Booking.flat_toWire (b : Booking) : (toWire b).Flat 2 := by
  simp [toWire]

theorem Booking.readsAs {b : Booking} (h : b.Fits) : (toWire b).ReadsAs b :=
  readsAs_of_flat (b.flat_toWire.mono (by decide)) (ofWire?_toWire h)

theorem Booking.readsAs_without {b : Booking} (h : b.Fits) {keys : List String}
    (homit : b.MayOmit keys) : ((toWire b).without keys).ReadsAs b :=
  readsAs_of_flat ((b.flat_toWire.without keys).mono (by decide)) (ofWire?_without h homit)

theorem Cadence.flat_fields (c : Cadence) : ∀ f ∈ c.fields, f.2.Flat 1 := by
  cases c <;> simp [fields]

theorem Cadence.readsAs {c : Cadence} (h : c.Fits) : (toWire c).ReadsAs c := by
  have hflat : (toWire c).Flat 2 := .record c.flat_fields
  exact readsAs_of_flat (hflat.mono (by decide)) (ofWire?_toWire h)

theorem Series.readsAs {s : Series} (h : s.Fits) : (toWire s).ReadsAs s := by
  have hflat : (toWire s).Flat 3 := by simpa [toWire] using s.cadence.flat_fields
  exact readsAs_of_flat (hflat.mono (by decide)) (ofWire?_toWire h)

theorem BookingRequest.flat_toWire (r : BookingRequest) : (toWire r).Flat 1 := by
  simp [toWire]

theorem BookingRequest.readsAs (r : BookingRequest) : (toWire r).ReadsAs r :=
  readsAs_of_flat (r.flat_toWire.mono (by decide)) r.ofWire?_toWire

theorem BookingRequest.readsAs_without (r : BookingRequest) {keys : List String}
    (homit : MayOmit r.subject r.onBehalfOf keys) : ((toWire r).without keys).ReadsAs r :=
  readsAs_of_flat ((r.flat_toWire.without keys).mono (by decide)) (ofWire?_without homit)

theorem SeriesRequest.flat_toWire (r : SeriesRequest) : (toWire r).Flat 2 := by
  simp only [toWire, flat_record, List.forall_mem_append]
  exact ⟨⟨by simp, r.cadence.flat_fields⟩, by simp⟩

/-- The fields of a rule stand among those of the request for a series. -/
theorem SeriesRequest.field?_of_rule (r : SeriesRequest) :
    ∀ f ∈ r.cadence.fields, (toWire r).field? f.1 = some f.2 := by
  obtain ⟨space, enter, leave, stop, cadence, subject, onBehalfOf⟩ := r
  cases cadence <;> simp [toWire, Cadence.fields, field?, List.lookup_cons]

theorem SeriesRequest.readsAs {r : SeriesRequest} (h : r.Fits) : (toWire r).ReadsAs r :=
  readsAs_of_flat (r.flat_toWire.mono (by decide)) (ofWire?_toWire h)

theorem SeriesRequest.readsAs_without {r : SeriesRequest} (h : r.Fits) {keys : List String}
    (homit : MayOmit r.subject r.onBehalfOf keys) : ((toWire r).without keys).ReadsAs r :=
  readsAs_of_flat ((r.flat_toWire.without keys).mono (by decide)) (ofWire?_without h homit)

theorem flat_bookingEvent (change : BookingChange) {v : Value} (h : v.Flat 2) :
    (bookingEvent change v).Flat 3 := by
  simp [bookingEvent, h]

theorem Event.flat_toWire (e : Event) : (toWire e).Flat 3 := by
  cases e with
  | booking change b => exact flat_bookingEvent change b.flat_toWire
  | seriesCreated => simp [toWire]
  | seriesDeleted => simp [toWire]

theorem Event.field?_type (e : Event) : (toWire e).field? "type" = some (.text e.label) := by
  cases e <;> rfl

theorem Event.readsAs {e : Event} (h : e.Fits) : (toWire e).ReadsAs e :=
  readsAs_of_flat (e.flat_toWire.mono (by decide)) (ofWire?_toWire h)

/-- An event about a booking, with or without the fields that hold nothing. -/
theorem Event.readsAs_without (change : BookingChange) {b : Booking} (h : b.Fits)
    {keys : List String} (homit : b.MayOmit keys) :
    (bookingEvent change ((toWire b).without keys)).ReadsAs (Event.booking change b) := by
  have hflat : (bookingEvent change ((toWire b).without keys)).Flat 3 :=
    flat_bookingEvent change (b.flat_toWire.without keys)
  exact readsAs_of_flat (hflat.mono (by decide))
    (ofWire?_bookingEvent change (Booking.ofWire?_without h homit))

/-! ## Every wire form -/

/-- **What goes over the wire comes back**: whatever has a wire form is read back from it, and from
the text of the form. Optional fields that hold nothing may be left out or be written as nothing,
the subject of a request may be left out if it is empty, the fields of a rule stand among those of
the request for a series, and an event is told by its tag. -/
theorem wire_forms_read_back :
    (∀ id : Id, id.text.length = 26 ∧ (toWire id).ReadsAs id) ∧
    (∀ t : LocalTime, (toWire t).ReadsAs t) ∧
    (∀ s : Span, s.Fits → (toWire s).ReadsAs s) ∧
    (∀ r : Role, (toWire r).ReadsAs r) ∧
    (∀ u : User, (toWire u).ReadsAs u) ∧
    (∀ l : Location, l.Fits → (toWire l).ReadsAs l) ∧
    (∀ s : Space, (toWire s).ReadsAs s) ∧
    (∀ b : Booking, b.Fits → (toWire b).ReadsAs b ∧
      ∀ keys, b.MayOmit keys → ((toWire b).without keys).ReadsAs b) ∧
    (∀ s : ApprovalState, (toWire s).ReadsAs s) ∧
    (∀ s : WeekdaySet, (toWire s).ReadsAs s) ∧
    (∀ c : Cadence, c.Fits → (toWire c).ReadsAs c) ∧
    (∀ s : Series, s.Fits → (toWire s).ReadsAs s) ∧
    (∀ r : BookingRequest, (toWire r).ReadsAs r ∧
      ∀ keys, MayOmit r.subject r.onBehalfOf keys → ((toWire r).without keys).ReadsAs r) ∧
    (∀ r : SeriesRequest, r.Fits →
      (∀ f ∈ r.cadence.fields, (toWire r).field? f.1 = some f.2) ∧ (toWire r).ReadsAs r ∧
        ∀ keys, MayOmit r.subject r.onBehalfOf keys → ((toWire r).without keys).ReadsAs r) ∧
    (∀ e : Event, e.Fits →
      (toWire e).field? "type" = some (.text e.label) ∧ (toWire e).ReadsAs e) ∧
    (∀ change, ∀ b : Booking, b.Fits → ∀ keys, b.MayOmit keys →
      (bookingEvent change ((toWire b).without keys)).ReadsAs (Event.booking change b)) := by
  refine ⟨fun id => ⟨id.length_text, id.readsAs⟩, LocalTime.readsAs, fun _ => Span.readsAs,
    Role.readsAs, User.readsAs, fun _ => Location.readsAs, Space.readsAs,
    fun _ h => ⟨Booking.readsAs h, fun _ => Booking.readsAs_without h⟩, ApprovalState.readsAs,
    WeekdaySet.readsAs, fun _ => Cadence.readsAs, fun _ => Series.readsAs,
    fun r => ⟨r.readsAs, fun _ => r.readsAs_without⟩, fun r h => ?_, fun e h => ?_,
    fun change b h keys homit => ?_⟩
  · exact ⟨r.field?_of_rule, SeriesRequest.readsAs h, fun _ => SeriesRequest.readsAs_without h⟩
  · exact ⟨e.field?_type, Event.readsAs h⟩
  · exact Event.readsAs_without change h homit

namespace Sample

/-- A request from the first day of the calendar to the leap second at its end. -/
def longRequest : SeriesRequest where
  space := .ofNat 0xffffffffffffffffffffffffffffffff
  enter := .ofSeconds (Date.first.day * daySeconds) 1000000
  leave := .ofSeconds (Date.first.day * daySeconds + 3600) 1
  stop := (LocalTime.ofClock? .last 23 59 60 500000000).getD (.midnight .last)
  cadence := .weekly 0xffffffff (.ofList [.saturday, .sunday])
  subject := ""
  onBehalfOf := none

/-- A booking from the first instant that has a number to the last. -/
def longBooking : Booking where
  id := .ofNat 0
  owner := .ofNat 1
  space := .ofNat 2
  span := ⟨-0x8000000000000000, 0x7fffffffffffffff⟩
  subject := "a \"quoted\" name\n"
  approved := false
  series := none
  calendarEvent := some ""

end Sample

/-- A request and an event at the ends of their ranges, with fields left out. -/
theorem wire_forms_read_back_long :
    Sample.longRequest.space.text = "7ZZZZZZZZZZZZZZZZZZZZZZZZZ" ∧
    Sample.longRequest.enter.text = "-262143-01-01T00:00:00.001" ∧
    Sample.longRequest.leave.text = "-262143-01-01T01:00:00.000000001" ∧
    Sample.longRequest.stop.text = "+262142-12-31T23:59:60.500" ∧
    ((toWire Sample.longRequest).without ["subject", "on_behalf_of"]).ReadsAs
      Sample.longRequest ∧
    (bookingEvent .declined ((toWire Sample.longBooking).without ["recurring_id"])).ReadsAs
      (Event.booking .declined Sample.longBooking) := by
  obtain ⟨-, -, -, -, -, -, -, -, -, -, -, -, -, hrequest, -, hevent⟩ := wire_forms_read_back
  have hcycle : Sample.longRequest.Fits := by
    show 0xffffffff < 0x100000000
    decide
  have hspan : Sample.longBooking.Fits := by
    constructor <;> constructor <;> decide
  have homit : MayOmit "" none ["subject", "on_behalf_of"] := by
    simp [MayOmit]
  have hseries : Sample.longBooking.MayOmit ["recurring_id"] := by
    simp [Booking.MayOmit, Sample.longBooking]
  exact ⟨by decide +kernel, by decide +kernel, by decide +kernel, by decide +kernel,
    (hrequest _ hcycle).2.2 _ homit, hevent .declined _ hspan _ hseries⟩

end SpaceBooking
