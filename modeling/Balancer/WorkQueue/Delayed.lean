import Balancer.Backoff
import Balancer.WorkQueue

/-!
# Delayed additions

A work queue on a clock that counts milliseconds. A requeued item is added when its backoff delay
has passed, with the effect that adding has at that moment; a delay of nothing adds at once.
Items that are due at the same moment are added in the order of the requests.

The timers belong to the runtime, which is assumed to do three things: it polls a spawned timer
before the clock moves, so that the delay counts from the request; it fires a timer at its deadline
and not later; and it fires timers with the same deadline in the order of the requests.
-/

namespace Balancer

/-- An item that waits for the moment when it is due, requested at the moment `since`. -/
structure Delayed (α : Type) where
  item : α
  since : Nat
  due : Nat
  deriving DecidableEq

/-- A work queue with a clock and the delayed items, in the order of the requests. -/
structure DelayQueue (α : Type) where
  queue : WorkQueue α := {}
  backoff : Backoff
  clock : Nat := 0
  delayed : List (Delayed α) := []
  deriving DecidableEq

namespace DelayQueue

variable {α : Type} [DecidableEq α]

/-- Add an item now. -/
def add (queue : DelayQueue α) (item : α) : DelayQueue α :=
  { queue with queue := queue.queue.add item }

/-- Add several items now, in order. -/
def addAll (queue : DelayQueue α) (items : List α) : DelayQueue α :=
  { queue with queue := queue.queue.addAll items }

/-- Count a requeue of an item and add the item after the backoff delay, for which a timer is
spawned. Nothing happens after shutdown. The deadline of the timer is reckoned from the moment of
the call, since the runtime polls the timer before the clock moves. -/
def requeue (queue : DelayQueue α) (item : α) : DelayQueue α :=
  if queue.queue.shuttingDown then queue
  else
    let attempt := queue.queue.requeueCount item
    let counted := queue.queue.countRequeue item
    if queue.backoff.delay attempt = 0 then { queue with queue := counted.add item }
    else
      { queue with
        queue := counted
        delayed := queue.delayed ++
          [{ item
             since := queue.clock
             due := queue.clock + queue.backoff.delayMillis attempt }] }

/-- Mark an item as processed. -/
def done (queue : DelayQueue α) (item : α) : DelayQueue α :=
  { queue with queue := queue.queue.done item }

/-- Reset the requeue count of an item; what is delayed stays delayed. -/
def forget (queue : DelayQueue α) (item : α) : DelayQueue α :=
  { queue with queue := queue.queue.forget item }

/-- Accept no further items. -/
def shutDown (queue : DelayQueue α) : DelayQueue α :=
  { queue with queue := queue.queue.shutDown }

/-- Hand out the first visible item. -/
def take (queue : DelayQueue α) : Option (α × DelayQueue α) :=
  queue.queue.take.map fun taken => (taken.1, { queue with queue := taken.2 })

/-- The number of requeues of an item since it was last forgotten. -/
def requeueCount (queue : DelayQueue α) (item : α) : Nat :=
  queue.queue.requeueCount item

/-- The number of visible items. -/
def size (queue : DelayQueue α) : Nat :=
  queue.queue.visible.length

/-- The first moment when a delayed item is due. -/
def nextDue (queue : DelayQueue α) : Option Nat :=
  (queue.delayed.map (·.due)).min?

/-- What is due by a moment, in the order of the requests. -/
def dueBy (queue : DelayQueue α) (moment : Nat) : List (Delayed α) :=
  queue.delayed.filter fun entry => decide (entry.due ≤ moment)

/-- Move the clock to a moment, where the given items are added in place of what is due. -/
def reachAdding (queue : DelayQueue α) (moment : Nat) (items : List α) : DelayQueue α :=
  { queue with
    queue := queue.queue.addAll items
    clock := moment
    delayed := queue.delayed.filter fun entry => decide (moment < entry.due) }

/-- Move the clock to a moment and add what is due by then. -/
def reach (queue : DelayQueue α) (moment : Nat) : DelayQueue α :=
  queue.reachAdding moment ((queue.dueBy moment).map (·.item))

/-- Move the clock to a moment and add what is due by then, together with items that were
requested for this moment at the moment `since`. -/
def reachWith (queue : DelayQueue α) (moment since : Nat) (items : List α) : DelayQueue α :=
  let earlier := (queue.dueBy moment).filter fun entry => decide (entry.since < since)
  let later := (queue.dueBy moment).filter fun entry => decide (since ≤ entry.since)
  queue.reachAdding moment (earlier.map (·.item) ++ items ++ later.map (·.item))

/-- The moments up to the given one at which delayed items are due, in ascending order. -/
def moments (queue : DelayQueue α) (last : Nat) : List Nat :=
  ((queue.delayed.map (·.due)).filter fun due => decide (due ≤ last)).mergeSort
    fun a b => decide (a ≤ b)

/-- Let time pass up to a moment, stopping at each moment when delayed items are due. -/
def advanceTo (queue : DelayQueue α) (moment : Nat) : DelayQueue α :=
  ((queue.moments moment).foldl reach queue).reach moment

end DelayQueue

end Balancer
