import SpaceBooking.Event
import SpaceBooking.Table

/-!
# Live feeds

Whoever follows a space receives its events from then on. A `Hub` has a `Channel` for each space
that was ever followed. A channel keeps its latest 256 events for receivers that lag behind; one
that lags further misses the events before them and is told how many.
-/

namespace SpaceBooking

/-- How many events a channel keeps. -/
def Channel.capacity : Nat := 256

/-- The feed of a space: how many events were sent, and the latest of them in order. -/
structure Channel where
  sent : Nat := 0
  kept : List Event := []

/-- A follower of a space, who has received the first `position` events of its channel. -/
structure Receiver where
  space : Id
  position : Nat

/-- What a receiver finds: how many events it missed, and those that it did not. -/
structure Received where
  missed : Nat
  events : List Event

/-- The feeds of all spaces. -/
structure Hub where
  channels : Table Channel := ∅

namespace Channel

/-- Sends an event. -/
def send (c : Channel) (e : Event) : Channel where
  sent := c.sent + 1
  kept := (c.kept ++ [e]).drop (c.kept.length + 1 - capacity)

/-- What is there for a receiver of the first `position` events. -/
def receive (c : Channel) (position : Nat) : Received :=
  let waiting := c.sent - position
  { missed := waiting - c.kept.length, events := c.kept.drop (c.kept.length - waiting) }

end Channel

namespace Hub

/-- Follows a space from now on. -/
def subscribe (h : Hub) (space : Id) : Receiver × Hub :=
  let channel := (h.channels.get? space).getD {}
  (⟨space, channel.sent⟩, { h with channels := h.channels.insert space channel })

/-- Sends an event to those who follow a space. If nobody ever did, it is lost. -/
def send (h : Hub) (space : Id) (e : Event) : Hub :=
  match h.channels.get? space with
  | some channel => { h with channels := h.channels.insert space (channel.send e) }
  | none => h

/-- Sends each of some events to those who follow the space that it names. -/
def sendAll (h : Hub) (es : List Event) : Hub := es.foldl (fun h e => h.send e.space e) h

/-- Everything that waits for a receiver. -/
def receive (h : Hub) (r : Receiver) : Received × Receiver :=
  match h.channels.get? r.space with
  | some channel => (channel.receive r.position, { r with position := channel.sent })
  | none => (⟨0, []⟩, r)

end Hub

end SpaceBooking
