import Balancer.WorkQueue.Delayed

/-!
# Waiting for items

What a consumer that asks for an item receives: the item, the end of a queue that is shut down
and drained, or nothing yet. A consumer may wait for a limited time, or stay at the queue and
take one item as soon as one is visible.
-/

namespace Balancer

/-- The answer to a consumer that asks for an item. -/
inductive Received (α : Type) where
  | item (item : α)
  | ended
  | pending
  deriving DecidableEq

/-- A consumer that stays at the queue. -/
inductive Consumer (α : Type) where
  | absent
  | waiting
  | served (answer : Received α)
  deriving DecidableEq

namespace DelayQueue

variable {α : Type} [DecidableEq α]

/-- Ask for an item without waiting. -/
def poll (queue : DelayQueue α) : Received α × DelayQueue α :=
  match queue.take with
  | some (item, rest) => (.item item, rest)
  | none => (if queue.queue.shuttingDown then .ended else .pending, queue)

/-- Ask for an item at each of the moments in turn, until there is an answer. -/
def pollAt (queue : DelayQueue α) : List Nat → Received α × DelayQueue α
  | [] => queue.poll
  | moment :: rest =>
    match queue.poll with
    | (.pending, queue) => (queue.reach moment).pollAt rest
    | answered => answered

/-- Ask for an item and wait for it for a limited time; what becomes due at the end still
counts. -/
def pollFor (queue : DelayQueue α) (timeout : Nat) : Received α × DelayQueue α :=
  let deadline := queue.clock + timeout
  queue.pollAt (queue.moments deadline ++ [deadline])

/-- Let a waiting consumer act. -/
def serve (queue : DelayQueue α) (consumer : Consumer α) : DelayQueue α × Consumer α :=
  match consumer with
  | .waiting =>
    match queue.poll with
    | (.pending, queue) => (queue, .waiting)
    | (answer, queue) => (queue, .served answer)
  | other => (queue, other)

/-- Let time pass up to a moment, with a consumer that acts first and at each moment when items
are due. -/
def advanceServing (queue : DelayQueue α) (consumer : Consumer α) (moment : Nat) :
    DelayQueue α × Consumer α :=
  (queue.moments moment ++ [moment]).foldl
    (fun state due => (state.1.reach due).serve state.2) (queue.serve consumer)

/-- Let a consumer act and collect what it has received; a waiting consumer stays. -/
def collect (queue : DelayQueue α) (consumer : Consumer α) :
    Option (Received α) × DelayQueue α × Consumer α :=
  match queue.serve consumer with
  | (queue, .absent) => (none, queue, .absent)
  | (queue, .waiting) => (some .pending, queue, .waiting)
  | (queue, .served answer) => (some answer, queue, .absent)

end DelayQueue

end Balancer
