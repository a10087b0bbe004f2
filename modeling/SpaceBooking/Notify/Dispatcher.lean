import SpaceBooking.Event
import SpaceBooking.Metric
import SpaceBooking.Tally

/-!
# Notices

Events are also handed to sinks outside, such as mail. A `Dispatcher` has a queue of bounded length
and a number of workers. A worker takes the first event from the queue and offers it to every sink
in turn, whether or not the sinks before took it. An event that finds the queue full is dropped.

Every accepted event gets a ticket, so that equal events can be told apart. `Dispatcher.offers` is
the record of all offers in order.
-/

namespace SpaceBooking

/-- An event that was accepted, with its number. -/
structure Notice where
  ticket : Nat
  event : Event
  deriving DecidableEq

/-- One offer of a notice to the sink at a place of the list, and whether the sink took it. -/
structure Offer where
  notice : Notice
  sink : Nat
  taken : Bool
  deriving DecidableEq

/-- What a worker is at: a notice, and the sink that is offered it next. -/
structure Delivery where
  notice : Notice
  next : Nat
  deriving DecidableEq

structure Dispatcher where
  /-- For each sink, the events that it takes. -/
  sinks : List (Event → Bool)
  capacity : Nat
  workers : List (Option Delivery)
  queue : List Notice := []
  /-- How many events were accepted. -/
  accepted : Nat := 0
  offers : List Offer := []
  metrics : Tally Metric := ∅

namespace Dispatcher

/-- A dispatcher with idle workers. There is one worker and one place in the queue at least. -/
def start (sinks : List (Event → Bool)) (workers queue : Nat) : Dispatcher where
  sinks := sinks
  capacity := max queue 1
  workers := List.replicate (max workers 1) none

/-- Queues an event, or drops it if the queue is full. -/
def dispatch (d : Dispatcher) (e : Event) : Bool × Dispatcher :=
  if d.queue.length < d.capacity then
    (true, { d with queue := d.queue ++ [⟨d.accepted, e⟩], accepted := d.accepted + 1 })
  else (false, { d with metrics := d.metrics.bump .noticeDropped })

/-- Queues some events in order, or drops those that find the queue full. -/
def dispatchAll (d : Dispatcher) (es : List Event) : Dispatcher :=
  es.foldl (fun d e => (d.dispatch e).2) d

/-- Offers a notice to the sink at a place of the list. -/
def offer (d : Dispatcher) (n : Notice) (i : Nat) (sink : Event → Bool) : Dispatcher :=
  let taken := sink n.event
  { d with
    offers := d.offers ++ [⟨n, i, taken⟩]
    metrics := d.metrics.bump (if taken then .noticeDelivered else .noticeFailed) }

/-- One step of the worker at a place of the list: it takes a notice from the queue, or offers the
one it has to the next sink, or is done with it. -/
def step (d : Dispatcher) (w : Nat) : Dispatcher :=
  match d.workers[w]? with
  | none => d
  | some none =>
    match d.queue with
    | [] => d
    | n :: rest => { d with queue := rest, workers := d.workers.set w (some ⟨n, 0⟩) }
  | some (some job) =>
    match d.sinks[job.next]? with
    | some sink =>
      { d.offer job.notice job.next sink with
        workers := d.workers.set w (some { job with next := job.next + 1 }) }
    | none => { d with workers := d.workers.set w none }

/-- Some steps of one worker. -/
def steps (d : Dispatcher) (w : Nat) : Nat → Dispatcher
  | 0 => d
  | n + 1 => (d.step w).steps w n

/-- More steps than one worker can take before it is idle and the queue is empty. -/
def stepsLeft (d : Dispatcher) : Nat := (d.queue.length + 1) * (d.sinks.length + 2)

/-- Lets the workers finish, one after the other. -/
def drain (d : Dispatcher) : Dispatcher :=
  (List.range d.workers.length).foldl (fun d w => d.steps w d.stepsLeft) d

end Dispatcher

end SpaceBooking
