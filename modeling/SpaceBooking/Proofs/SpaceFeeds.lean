import SpaceBooking.Notify.Hub
import SpaceBooking.Proofs.EventLog

/-!
# What followers of a space know

An event goes to the followers of the one space that it names, and a booking that is moved is
announced where it comes to, not where it leaves. So who follows a space and never lags learns of
every booking on it, but keeps those that were moved elsewhere.

* `Following` — a receiver that follows a space and never lags, between other receivers.
* `Following.received_eq` — it receives the events that name the space, each once and in order.
* `Fed`, `Announced.fed` — what one announcement means on one feed.
* `MovedOff` — a step of the run moved a booking off a space, and it has not come back.
* `space_feed_tells` — on the feed of a space are the bookings on it, and those that were moved off.
* `space_feed_keeps_moved` — a booking that was moved can be on the feed although the space is free.
-/

namespace SpaceBooking

open SpaceBooking.Action Service

/-! ## Receiving -/

/-- The events that go to the followers of a space. -/
def feedOf (space : Id) (es : List Event) : List Event := es.filter (·.space = space)

theorem feedOf_append (space : Id) (es es' : List Event) :
    feedOf space (es ++ es') = feedOf space es ++ feedOf space es' :=
  List.filter_append ..

/-- A receiver follows a space since the events `es`, and has received `got`. It never lagged: no
event was gone when it received what waited. -/
inductive Following (space : Id) : List Event → Hub → Receiver → List Event → Prop where
  | start (hub : Hub) : Following space [] (hub.subscribe space).2 (hub.subscribe space).1 []
  | sent {es got : List Event} {hub : Hub} {r : Receiver} (e : Event) :
      Following space es hub r got → Following space (es ++ [e]) (hub.send e.space e) r got
  /-- Somebody else follows a space. -/
  | joined {es got : List Event} {hub : Hub} {r : Receiver} (other : Id) :
      Following space es hub r got → Following space es (hub.subscribe other).2 r got
  | received {es got : List Event} {hub : Hub} {r : Receiver} :
      Following space es hub r got → (hub.receive r).1.missed = 0 →
      Following space es hub (hub.receive r).2 (got ++ (hub.receive r).1.events)

/-- A channel keeps the latest events. -/
theorem Channel.kept_send_suffix (c : Channel) (e : Event) :
    (c.send e).kept <:+ c.kept ++ [e] := by
  simp only [Channel.send, List.drop_suffix]

namespace Hub

theorem get?_send (hub : Hub) (space k : Id) (e : Event) :
    (hub.send space e).channels.get? k =
      if space = k then (hub.channels.get? k).map (·.send e) else hub.channels.get? k := by
  cases hchannel : hub.channels.get? space with
  | none =>
    have hsend : hub.send space e = hub := by simp only [send, hchannel]
    rw [hsend]
    split
    · rename_i hk
      rw [← hk, hchannel, Option.map_none]
    · rfl
  | some channel =>
    have hsend : (hub.send space e).channels = hub.channels.insert space (channel.send e) := by
      simp only [send, hchannel]
    rw [hsend, Table.get?_insert]
    split
    · rename_i hk
      rw [← hk, hchannel, Option.map_some]
    · rfl

/-- Following a space does nothing to the channels that are there. -/
theorem get?_subscribe {hub : Hub} {k : Id} {channel : Channel}
    (h : hub.channels.get? k = some channel) (space : Id) :
    (hub.subscribe space).2.channels.get? k = some channel := by
  show (hub.channels.insert space _).get? k = _
  rw [Table.get?_insert]
  split
  · rename_i hk
    rw [hk, h, Option.getD_some]
  · exact h

end Hub

namespace Following

variable {space : Id} {es got : List Event} {hub : Hub} {r : Receiver}

/-- Many events in a row. -/
theorem sentAll (h : Following space es hub r got) (es' : List Event) :
    Following space (es ++ es') (hub.sendAll es') r got := by
  induction es' generalizing es hub with
  | nil =>
    rw [List.append_nil]
    exact h
  | cons e es' ih =>
    have hrest := ih (h.sent e)
    rw [List.append_assoc] at hrest
    exact hrest

/-- Of a list that ends with some events, what is left after as many as were received are exactly
the others. -/
theorem append_drop_eq {older kept feed got : List Event} (hgot : got <+: feed)
    (hkept : kept <:+ older ++ feed) (hroom : feed.length - got.length ≤ kept.length) :
    got ++ kept.drop (kept.length - (feed.length - got.length)) = feed := by
  obtain ⟨rest, rfl⟩ := hgot
  rw [List.length_append] at hroom ⊢
  have hrest : rest <:+ older ++ (got ++ rest) :=
    (List.suffix_append got rest).trans (List.suffix_append older _)
  have hdrop : kept.drop (kept.length - (got.length + rest.length - got.length)) <:+
      older ++ (got ++ rest) := (List.drop_suffix _ kept).trans hkept
  have hlength : (kept.drop (kept.length - (got.length + rest.length - got.length))).length =
      rest.length := by
    rw [List.length_drop]
    omega
  have hsuffix := List.suffix_of_suffix_length_le hdrop hrest (Nat.le_of_eq hlength)
  rw [hsuffix.eq_of_length hlength]

/-- The place of the receiver on the feed: it has received the events up to its position, and the
channel keeps the latest. -/
structure Placed (space : Id) (es : List Event) (hub : Hub) (r : Receiver) (got : List Event)
    (channel : Channel) : Prop where
  space_eq : r.space = space
  channel_eq : hub.channels.get? space = some channel
  received : got <+: feedOf space es
  positions : ∃ base, r.position = base + got.length ∧
    channel.sent = base + (feedOf space es).length
  kept : ∃ older, channel.kept <:+ older ++ feedOf space es

namespace Placed

variable {channel : Channel}

theorem start (hub : Hub) (space : Id) :
    Placed space [] (hub.subscribe space).2 (hub.subscribe space).1 []
      ((hub.channels.get? space).getD {}) where
  space_eq := rfl
  channel_eq := (Table.get?_insert _ _ _ _).trans (if_pos rfl)
  received := List.prefix_refl _
  positions := ⟨_, rfl, rfl⟩
  kept := ⟨((hub.channels.get? space).getD {}).kept, [], (List.append_nil _).symm⟩

/-- An event for the space comes to the end of the feed. -/
theorem send (h : Placed space es hub r got channel) {e : Event} (he : e.space = space) :
    Placed space (es ++ [e]) (hub.send e.space e) r got (channel.send e) := by
  have hfeed : feedOf space (es ++ [e]) = feedOf space es ++ [e] := by
    rw [feedOf_append]
    simp [feedOf, he]
  obtain ⟨base, hposition, hsent⟩ := h.positions
  obtain ⟨older, before, hkept⟩ := h.kept
  refine ⟨h.space_eq, ?_, ?_, ⟨base, hposition, ?_⟩, ⟨older, ?_⟩⟩
  · rw [Hub.get?_send, if_pos he, h.channel_eq, Option.map_some]
  · rw [hfeed]
    exact h.received.trans (List.prefix_append _ _)
  · rw [hfeed, List.length_append]
    show channel.sent + 1 = _
    rw [hsent, List.length_singleton]
    omega
  · have hlast : channel.kept ++ [e] <:+ older ++ feedOf space es ++ [e] :=
      ⟨before, by rw [← List.append_assoc, hkept]⟩
    rw [hfeed, ← List.append_assoc]
    exact (channel.kept_send_suffix e).trans hlast

/-- An event for another space does not reach the feed. -/
theorem send_other (h : Placed space es hub r got channel) {e : Event} (he : e.space ≠ space) :
    Placed space (es ++ [e]) (hub.send e.space e) r got channel := by
  have hfeed : feedOf space (es ++ [e]) = feedOf space es := by
    rw [feedOf_append]
    simp [feedOf, he]
  refine ⟨h.space_eq, ?_, hfeed ▸ h.received, hfeed ▸ h.positions, hfeed ▸ h.kept⟩
  rw [Hub.get?_send, if_neg he]
  exact h.channel_eq

/-- What a receiver that does not lag finds is the rest of the feed. -/
theorem append_events (h : Placed space es hub r got channel)
    (hlag : (hub.receive r).1.missed = 0) :
    got ++ (hub.receive r).1.events = feedOf space es ∧
      (hub.receive r).2 = ⟨space, channel.sent⟩ := by
  obtain ⟨base, hposition, hsent⟩ := h.positions
  obtain ⟨older, hkept⟩ := h.kept
  have hreceive : hub.receive r = (channel.receive r.position, ⟨space, channel.sent⟩) := by
    have hspace := h.space_eq
    have hchannel := h.channel_eq
    subst hspace
    simp only [Hub.receive, hchannel]
  have hwaiting : channel.sent - r.position = (feedOf space es).length - got.length := by omega
  rw [hreceive] at hlag ⊢
  simp only [Channel.receive, hwaiting] at hlag ⊢
  exact ⟨append_drop_eq h.received hkept (Nat.sub_eq_zero_iff_le.1 hlag), trivial⟩

end Placed

/-- **The receiver keeps its place**, by induction on what happens. -/
theorem placed (h : Following space es hub r got) : ∃ channel, Placed space es hub r got channel := by
  induction h with
  | start hub => exact ⟨_, .start hub space⟩
  | sent e _ ih =>
    obtain ⟨channel, hplaced⟩ := ih
    by_cases he : e.space = space
    · exact ⟨_, hplaced.send he⟩
    · exact ⟨channel, hplaced.send_other he⟩
  | joined other _ ih =>
    obtain ⟨channel, hplaced⟩ := ih
    exact ⟨channel, hplaced.space_eq, Hub.get?_subscribe hplaced.channel_eq other,
      hplaced.received, hplaced.positions, hplaced.kept⟩
  | received _ hlag ih =>
    obtain ⟨channel, hplaced⟩ := ih
    obtain ⟨heq, hnext⟩ := hplaced.append_events hlag
    obtain ⟨base, -, hsent⟩ := hplaced.positions
    refine ⟨channel, ?_, hplaced.channel_eq, ⟨[], ?_⟩, ⟨base, ?_, hsent⟩, hplaced.kept⟩
    · rw [hnext]
    · rw [heq, List.append_nil]
    · rw [hnext, heq]
      exact hsent

/-- **A receiver that never lags receives its feed**: the events that name the space, each once and
in the order in which they were sent. -/
theorem received_eq (h : Following space es hub r got) (hlag : (hub.receive r).1.missed = 0) :
    got ++ (hub.receive r).1.events = feedOf space es := by
  obtain ⟨channel, hplaced⟩ := h.placed
  exact (hplaced.append_events hlag).1

end Following

/-! ## One announcement on one feed -/

section Feeds

variable {space : Id}

theorem feedOf_created (space : Id) (bs : List Booking) :
    feedOf space (bs.flatMap createdEvents) =
      (bs.filter (·.space = space)).flatMap createdEvents := by
  induction bs with
  | nil => rfl
  | cons b bs ih =>
    have hspaces : ∀ e ∈ createdEvents b, e.space = b.space := by
      intro e he
      rcases List.mem_cons.1 he with rfl | he
      · rfl
      · split at he
        · cases he
        · cases List.mem_singleton.1 he
          rfl
    rw [List.flatMap_cons, feedOf_append, ih]
    by_cases hon : b.space = space
    · have hall : feedOf space (createdEvents b) = createdEvents b := by
        refine List.filter_eq_self.2 fun e he => ?_
        simpa [hspaces e he] using hon
      rw [hall, List.filter_cons_of_pos (by simpa using hon), List.flatMap_cons]
    · have hnone : feedOf space (createdEvents b) = [] := by
        refine List.filter_eq_nil_iff.2 fun e he => ?_
        simpa [hspaces e he] using hon
      rw [hnone, List.filter_cons_of_neg (by simpa using hon), List.nil_append]

theorem feedOf_deletions (space : Id) (now : Int) (bs : List Booking) :
    feedOf space (deletions now bs) = deletions now (bs.filter (·.space = space)) := by
  unfold feedOf deletions
  rw [List.filter_map, List.filter_comm]
  rfl

theorem feedOf_quiet {es : List Event} (h : ∀ e ∈ es, e.Quiet) :
    ∀ e ∈ feedOf space es, e.Quiet :=
  fun e he => h e (List.mem_filter.1 he).1

theorem isSome_find?_filter (bs : List Booking) (space id : Id) :
    ((bs.filter (·.space = space)).find? (·.id = id)).isSome ↔
      ∃ b ∈ bs, b.space = space ∧ b.id = id := by
  simp only [List.find?_isSome, List.mem_filter, decide_eq_true_eq, and_assoc]

/-- Nothing is learned on the feed of a space from an event that names another. -/
theorem replayAll_feedOf_cons (known : Id → Option Booking) (e : Event) (es : List Event) :
    replayAll known (feedOf space (e :: es)) =
      replayAll (if e.space = space then e.replay known else known) (feedOf space es) := by
  by_cases hon : e.space = space
  · have hcons : feedOf space (e :: es) = e :: feedOf space es :=
      List.filter_cons_of_pos (decide_eq_true hon)
    rw [hcons, if_pos hon, replayAll_cons]
  · have hcons : feedOf space (e :: es) = feedOf space es :=
      List.filter_cons_of_neg (by simpa using hon)
    rw [hcons, if_neg hon]

end Feeds

namespace Store

variable {s s' : Store} {space other id : Id} {known : Id → Option Booking}

/-- Where the booking of an identifier is. -/
def spaceAt (s : Store) (id : Id) : Option Id := (s.booking? id).map (·.space)

theorem Consistent.spaceAt_eq_some_iff (hs : s.Consistent) :
    s.spaceAt id = some space ↔ s.BookedOn id space := by
  rw [spaceAt, Option.map_eq_some_iff]
  constructor
  · rintro ⟨b, hb, hspace⟩
    obtain ⟨hmem, hid⟩ := hs.booking?_eq_some_iff.1 hb
    exact ⟨b, hmem, hid, hspace⟩
  · rintro ⟨b, hb, hid, hspace⟩
    exact ⟨b, hs.booking?_eq_some_iff.2 ⟨hb, hid⟩, hspace⟩

/-- Whether a follower of a space knows a booking after a change: it is on the space now, or was
known and has not gone from the space altogether. -/
def Fed (s s' : Store) (space id : Id) (before after : Option Booking) : Prop :=
  after.isSome ↔ s'.spaceAt id = some space ∨
    before.isSome ∧ (s.spaceAt id = some space → (s'.spaceAt id).isSome)

variable {before after : Option Booking}

/-- A booking that is where it was is known as before. -/
theorem Fed.of_same (hknown : s.spaceAt id = some space → before.isSome) (hafter : after = before)
    (hsame : s'.spaceAt id = s.spaceAt id) : Fed s s' space id before after := by
  rw [Fed, hsame, hafter]
  constructor
  · intro hbefore
    refine .inr ⟨hbefore, fun hon => ?_⟩
    rw [hon, Option.isSome_some]
  · rintro (hon | ⟨hbefore, -⟩)
    · exact hknown hon
    · exact hbefore

/-- A booking that came to a space is known there. -/
theorem Fed.of_put (hput : s'.spaceAt id = some other)
    (hafter : after.isSome ↔ other = space ∨ before.isSome) :
    Fed s s' space id before after := by
  rw [Fed, hput, hafter, Option.some.injEq, Option.isSome_some]
  simp

/-- A booking that is gone is not known any more where it was. -/
theorem Fed.of_gone (hon : s.spaceAt id = some other) (hgone : s'.spaceAt id = none)
    (hafter : after.isSome ↔ other ≠ space ∧ before.isSome) :
    Fed s s' space id before after := by
  rw [Fed, hon, hgone, hafter, Option.some.injEq]
  constructor
  · rintro ⟨hne, hbefore⟩
    exact .inr ⟨hbefore, fun heq => absurd heq hne⟩
  · rintro (hnone | ⟨hbefore, hstays⟩)
    · cases hnone
    · refine ⟨fun heq => ?_, hbefore⟩
      have := hstays heq
      cases this

/-- New bookings are known on the feeds of their spaces. -/
theorem fed_created {bs : List Booking} (hdistinct : (bs.map (·.id)).Nodup)
    (hafter : ∀ id, s'.booking? id = (bs.find? (·.id = id)).or (s.booking? id))
    (hknown : s.spaceAt id = some space → (known id).isSome) :
    Fed s s' space id (known id)
      (replayAll known (feedOf space (bs.flatMap createdEvents)) id) := by
  have hdistinct' : ((bs.filter (·.space = space)).map (·.id)).Nodup :=
    hdistinct.sublist (List.filter_sublist.map _)
  rw [feedOf_created, replayAll_created _ hdistinct']
  cases hfind : bs.find? (·.id = id) with
  | none =>
    have hothers := List.find?_eq_none.1 hfind
    have hnone : (bs.filter (·.space = space)).find? (·.id = id) = none :=
      List.find?_eq_none.2 fun b hb => hothers b (List.mem_filter.1 hb).1
    rw [hnone, Option.none_or]
    refine .of_same hknown rfl ?_
    rw [spaceAt, spaceAt, hafter, hfind, Option.none_or]
  | some b =>
    have hb : b ∈ bs := List.mem_of_find?_eq_some hfind
    have hid : b.id = id := by simpa using List.find?_some hfind
    have hput : s'.spaceAt id = some b.space := by
      rw [spaceAt, hafter, hfind, Option.some_or, Option.map_some]
    refine .of_put hput ?_
    rw [Option.isSome_or, Bool.or_eq_true, isSome_find?_filter]
    refine or_congr_left ⟨?_, fun hon => ⟨b, hb, hon, hid⟩⟩
    rintro ⟨d, hd, hon, hdid⟩
    rw [← List.inj_on_of_nodup_map hdistinct hd hb (hdid.trans hid.symm)]
    exact hon

/-- When a series is given up, its bookings ahead are not known any more where they were. -/
theorem fed_deletions {series : Id} {now : Int} {bs : List Booking}
    (hbs : ∀ b, b ∈ bs ↔ s.booking? b.id = some b ∧ b.series = some series)
    (hafter : ∀ id, s'.booking? id = (s.booking? id).bind (·.released series now))
    (hknown : s.spaceAt id = some space → (known id).isSome) :
    Fed s s' space id (known id) (replayAll known (feedOf space (deletions now bs)) id) := by
  have hmem : ∀ d, d ∈ bs.filter (·.space = space) ↔ d ∈ bs ∧ d.space = space := by simp
  rw [feedOf_deletions, replayAll_deletions]
  simp only [hmem, and_assoc]
  cases hfound : s.booking? id with
  | none =>
    have hnone : ¬∃ d ∈ bs, d.space = space ∧ d.ahead now = true ∧ d.id = id := by
      rintro ⟨d, hd, -, -, rfl⟩
      rw [((hbs d).1 hd).1] at hfound
      cases hfound
    rw [if_neg hnone]
    refine .of_same hknown rfl ?_
    rw [spaceAt, spaceAt, hafter, hfound, Option.bind_none]
  | some b =>
    have hlinked := exists_linked_iff hbs hfound fun d => d.space = space ∧ d.ahead now = true
    have hon : s.spaceAt id = some b.space := by
      rw [spaceAt, hfound, Option.map_some]
    simp only [and_assoc] at hlinked
    simp only [hlinked]
    cases hleft : b.released series now with
    | none =>
      obtain ⟨hseries, hahead⟩ := Booking.released_eq_none_iff.1 hleft
      have hgone : s'.spaceAt id = none := by
        rw [spaceAt, hafter, hfound, Option.bind_some, hleft, Option.map_none]
      refine .of_gone hon hgone ?_
      by_cases hspace : b.space = space <;> simp [hspace, hseries, hahead]
    | some d =>
      have hkept : ¬(b.series = some series ∧ b.space = space ∧ b.ahead now = true) := by
        rintro ⟨hseries, -, hahead⟩
        rw [Booking.released_eq_none_iff.2 ⟨hseries, hahead⟩] at hleft
        cases hleft
      rw [if_neg hkept]
      refine .of_same hknown rfl ?_
      rw [hon, spaceAt, hafter, hfound, Option.bind_some, hleft, Option.map_some,
        (Booking.of_released hleft).2]

/-- **What one announcement means on one feed**, provided that the bookings on the space were
known. -/
theorem Announced.fed {es : List Event} (h : Announced s s' es)
    (hknown : ∀ id, s.spaceAt id = some space → (known id).isSome) (id : Id) :
    Fed s s' space id (known id) (replayAll known (feedOf space es) id) := by
  cases h with
  | nothing hsame =>
    refine .of_same (hknown id) rfl ?_
    rw [spaceAt, spaceAt, hsame]
  | made bs rest hdistinct _ hafter hquiet =>
    rw [feedOf_append, replayAll_append, replayAll_quiet _ (feedOf_quiet hquiet)]
    exact fed_created hdistinct hafter (hknown id)
  | replaced change old b rest hchange hold hafter hquiet =>
    rw [replayAll_feedOf_cons, replayAll_quiet _ (feedOf_quiet hquiet), Event.replay_put hchange]
    show Fed s s' space id (known id)
      ((if b.space = space then Function.update known b.id (some b) else known) id)
    by_cases hid : id = b.id
    · subst hid
      have hput : s'.spaceAt b.id = some b.space := by
        rw [spaceAt, hafter, if_pos rfl, Option.map_some]
      refine .of_put hput ?_
      by_cases hon : b.space = space <;> simp [hon]
    · have hsame : s'.spaceAt id = s.spaceAt id := by
        rw [spaceAt, spaceAt, hafter, if_neg hid]
      refine .of_same (hknown id) ?_ hsame
      rw [ite_apply, Function.update_of_ne hid, ite_self]
  | removed change b hchange hb hafter =>
    rw [replayAll_feedOf_cons, Event.replay_gone hchange]
    show Fed s s' space id (known id)
      ((if b.space = space then Function.update known b.id none else known) id)
    by_cases hid : id = b.id
    · subst hid
      have hon : s.spaceAt b.id = some b.space := by
        rw [spaceAt, hb, Option.map_some]
      have hgone : s'.spaceAt b.id = none := by
        rw [spaceAt, hafter, if_pos rfl, Option.map_none]
      refine .of_gone hon hgone ?_
      by_cases hspace : b.space = space <;> simp [hspace]
    · have hsame : s'.spaceAt id = s.spaceAt id := by
        rw [spaceAt, spaceAt, hafter, if_neg hid]
      refine .of_same (hknown id) ?_ hsame
      rw [ite_apply, Function.update_of_ne hid, ite_self]
  | released series row now bs removed detached hbs hafter =>
    -- that the series is gone takes no booking from the feed
    have hsome : (replayAll known
        (feedOf space (deletions now bs ++ [.seriesDeleted series row removed detached])) id).isSome =
        (replayAll known (feedOf space (deletions now bs)) id).isSome := by
      rw [feedOf_append, replayAll_append, replayAll_feedOf_cons]
      split
      · exact Option.isSome_map
      · rfl
    rw [Fed, hsome]
    exact fed_deletions hbs hafter (hknown id)

end Store

/-! ## Runs -/

section Runs

variable {w : World} {sts : List Step} {n : Nat} {space id : Id}

/-- Some step of the run moved the booking off the space, and it has not come back since. -/
def MovedOff (w : World) (sts : List Step) (n : Nat) (id space : Id) : Prop :=
  ∃ i < n, (Step.world w sts i).store.BookedOn id space ∧
    (∃ other, other ≠ space ∧ (Step.world w sts (i + 1)).store.BookedOn id other) ∧
    ∀ k, i < k → k ≤ n → ¬(Step.world w sts k).store.BookedOn id space

theorem movedOff_succ : MovedOff w sts (n + 1) id space ↔
    ¬(Step.world w sts (n + 1)).store.BookedOn id space ∧
      ((Step.world w sts n).store.BookedOn id space ∧
        (∃ other, other ≠ space ∧ (Step.world w sts (n + 1)).store.BookedOn id other) ∨
      MovedOff w sts n id space) := by
  constructor
  · rintro ⟨i, hi, hon, helsewhere, haway⟩
    refine ⟨haway (n + 1) hi (Nat.le_refl _), ?_⟩
    rcases Nat.lt_succ_iff_lt_or_eq.1 hi with hlt | rfl
    · exact .inr ⟨i, hlt, hon, helsewhere, fun k hk hkn => haway k hk (Nat.le_succ_of_le hkn)⟩
    · exact .inl ⟨hon, helsewhere⟩
  · rintro ⟨hnot, ⟨hon, helsewhere⟩ | ⟨i, hi, hon, helsewhere, haway⟩⟩
    · refine ⟨n, Nat.lt_succ_self n, hon, helsewhere, fun k hk hkn => ?_⟩
      rwa [Nat.le_antisymm hkn hk]
    · refine ⟨i, Nat.lt_succ_of_lt hi, hon, helsewhere, fun k hk hkn => ?_⟩
      rcases Nat.le_succ_iff.1 hkn with hle | rfl
      · exact haway k hk hle
      · exact hnot

/-- A booking that was moved off a space is not on it. -/
theorem MovedOff.not_bookedOn (h : MovedOff w sts n id space) :
    ¬(Step.world w sts n).store.BookedOn id space := by
  obtain ⟨i, hi, -, -, haway⟩ := h
  exact haway n hi (Nat.le_refl n)

/-- **What the events for a space tell**, by induction on the run: which bookings are on the space,
and which were moved off it. -/
theorem OrderlyRun.fed (h : OrderlyRun w sts) (hempty : w.store.bookings = [])
    (hn : n ≤ sts.length) :
    ∃ es, (Step.world w sts n).published = w.published ++ es ∧
      ∀ id, (replayAll (fun _ => none) (feedOf space es) id).isSome ↔
        (Step.world w sts n).store.BookedOn id space ∨ MovedOff w sts n id space := by
  induction n with
  | zero =>
    refine ⟨[], (List.append_nil _).symm, fun id => iff_of_false (by simp [feedOf]) ?_⟩
    rintro (⟨b, hb, -⟩ | ⟨i, hi, -⟩)
    · have hb' : b ∈ w.store.bookings := hb
      rw [hempty] at hb'
      cases hb'
    · exact Nat.not_lt_zero i hi
  | succ n ih =>
    obtain ⟨es, hpublished, hknown⟩ := ih (Nat.le_of_succ_le hn)
    obtain ⟨new, hnew, hannounced⟩ := h.announces hn
    refine ⟨es ++ new, ?_, fun id => ?_⟩
    · rw [hnew, hpublished, List.append_assoc]
    · have hs := h.consistent n
      have hs' := h.consistent (n + 1)
      have hon : ∀ id, (Step.world w sts n).store.spaceAt id = some space →
          (replayAll (fun _ => none) (feedOf space es) id).isSome :=
        fun id hid => (hknown id).2 (.inl (hs.spaceAt_eq_some_iff.1 hid))
      have hstep := hannounced.fed hon id
      rw [Store.Fed, hs.spaceAt_eq_some_iff, hs'.spaceAt_eq_some_iff, hknown] at hstep
      rw [feedOf_append, replayAll_append, hstep, movedOff_succ]
      -- where the booking was, and where it is
      by_cases hafter : (Step.world w sts (n + 1)).store.BookedOn id space
      · exact iff_of_true (.inl hafter) (.inl hafter)
      simp only [hafter, false_or, not_false_eq_true, true_and]
      by_cases hbefore : (Step.world w sts n).store.BookedOn id space
      · have hstays : ((Step.world w sts (n + 1)).store.spaceAt id).isSome ↔
            ∃ other, other ≠ space ∧ (Step.world w sts (n + 1)).store.BookedOn id other := by
          simp only [Option.isSome_iff_exists, hs'.spaceAt_eq_some_iff]
          refine exists_congr fun other => ⟨fun hother => ⟨?_, hother⟩, And.right⟩
          rintro rfl
          exact hafter hother
        have hmoved : ¬MovedOff w sts n id space := fun h => h.not_bookedOn hbefore
        simp only [hbefore, hmoved, hstays, true_and, true_imp_iff, or_false]
      · simp only [hbefore, false_or, false_imp_iff, and_true, false_and]

/-- **What the feed of a space tells.** In a run without failing calls in which no space is deleted
and that starts without bookings: after each step, whoever has followed a space since the start and
never lagged knows exactly the bookings on it, and those that a step moved off it and that have not
come back. -/
theorem space_feed_tells (h : OrderlyRun w sts) (hempty : w.store.bookings = [])
    (hn : n ≤ sts.length) {es got : List Event}
    (hpublished : (Step.world w sts n).published = w.published ++ es) {hub : Hub} {r : Receiver}
    (hfollows : Following space es hub r got) (hlag : (hub.receive r).1.missed = 0) (id : Id) :
    (replayAll (fun _ => none) (got ++ (hub.receive r).1.events) id).isSome ↔
      (Step.world w sts n).store.BookedOn id space ∨ MovedOff w sts n id space := by
  obtain ⟨es', hpublished', hfed⟩ := h.fed hempty hn
  rw [hpublished] at hpublished'
  rw [hfollows.received_eq hlag, List.append_cancel_left hpublished']
  exact hfed id

namespace Sample

/-- The desk is booked for two mornings, and the first moved to the room. -/
def movingSteps : List Step :=
  [.administration (.putLocation location), .administration (.putSpace desk [] []),
    .administration (.putSpace room [] []), .request conditions (.book admin request),
    .request conditions (.book admin later), .request conditions (.rebook admin (.ofNat 100) lastDay)]

theorem orderlyRun_moving : OrderlyRun {} movingSteps where
  reachable := .initial
  fresh := by decide +kernel
  orderly := by
    intro st hst
    simp only [movingSteps, List.mem_cons, List.not_mem_nil, or_false] at hst
    rcases hst with rfl | rfl | rfl | rfl | rfl | rfl
    · exact True.intro
    · exact True.intro
    · exact True.intro
    · exact reliable
    · exact reliable
    · exact reliable

/-- The events of the run. -/
def movingEvents : List Event := (Step.world {} movingSteps 6).published

theorem published_moving :
    (Step.world {} movingSteps 6).published = ({} : World).published ++ movingEvents :=
  (List.nil_append movingEvents).symm

/-- Somebody follows the desk from the start. -/
def follower : Receiver := (Hub.subscribe {} desk.id).1

def hub : Hub := (Hub.subscribe {} desk.id).2.sendAll movingEvents

theorem following : Following desk.id movingEvents hub follower [] := by
  have hstart : Following desk.id [] (Hub.subscribe {} desk.id).2 follower [] := .start {}
  have hsent := hstart.sentAll movingEvents
  rw [List.nil_append] at hsent
  exact hsent

theorem receive_missed : (hub.receive follower).1.missed = 0 := by decide +kernel

end Sample

/-- The second morning at the desk is known, and so is the first, which is in the room by now. -/
theorem space_feed_tells_desk :
    OrderlyRun {} Sample.movingSteps ∧ ({} : World).store.bookings = [] ∧
    Following Sample.desk.id Sample.movingEvents Sample.hub Sample.follower [] ∧
    (Sample.hub.receive Sample.follower).1.missed = 0 ∧
    ((Step.world {} Sample.movingSteps 6).store.bookings.map fun b => (b.id, b.space)) =
      [(.ofNat 101, .ofNat 4), (.ofNat 100, .ofNat 5)] ∧
    ∀ id, (replayAll (fun _ => none)
        ([] ++ (Sample.hub.receive Sample.follower).1.events) id).isSome ↔
      (Step.world {} Sample.movingSteps 6).store.BookedOn id Sample.desk.id ∨
        MovedOff {} Sample.movingSteps 6 id Sample.desk.id :=
  ⟨Sample.orderlyRun_moving, rfl, Sample.following, Sample.receive_missed, by decide +kernel,
    space_feed_tells Sample.orderlyRun_moving rfl (by decide) Sample.published_moving
      Sample.following Sample.receive_missed⟩

/-- **A booking that was moved stays on the feed**: whoever has followed the desk knows the booking
that is in the room. -/
theorem space_feed_keeps_moved :
    OrderlyRun {} Sample.movingSteps ∧ ({} : World).store.bookings = [] ∧
    (Step.world {} Sample.movingSteps 6).published = ({} : World).published ++ Sample.movingEvents ∧
    Following Sample.desk.id Sample.movingEvents Sample.hub Sample.follower [] ∧
    (Sample.hub.receive Sample.follower).1.missed = 0 ∧
    ¬∀ id, (replayAll (fun _ => none)
        ([] ++ (Sample.hub.receive Sample.follower).1.events) id).isSome ↔
      (Step.world {} Sample.movingSteps 6).store.BookedOn id Sample.desk.id := by
  refine ⟨Sample.orderlyRun_moving, rfl, Sample.published_moving, Sample.following, Sample.receive_missed, ?_⟩
  intro hexact
  have hknown : (replayAll (fun _ => none)
      ([] ++ (Sample.hub.receive Sample.follower).1.events) (.ofNat 100)).isSome := by
    decide +kernel
  have haway : ¬(Step.world {} Sample.movingSteps 6).store.BookedOn (.ofNat 100) Sample.desk.id := by
    decide +kernel
  exact haway ((hexact _).1 hknown)

end Runs

end SpaceBooking
