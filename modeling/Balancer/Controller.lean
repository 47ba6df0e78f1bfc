import Balancer.Config
import Balancer.Worker.Loop

/-!
# The controller

The worker on a clock, with the periodic jobs and the end of its work. The periodic timer starts
when the controller first acts. Its first firing lifts the cleanup barrier, and each later one
looks for vanished ports and then cleans up.

At the shutdown signal, which is seen before any further job, the worker stops accepting jobs,
executes the visible ones and is gone. Between the moments when something is due nothing happens.
-/

namespace Balancer

/-- The shutdown signal: whether it was raised, and whether its sender is still there. -/
structure ShutdownSignal where
  raised : Bool := false
  senderHeld : Bool := true
  deriving DecidableEq

/-- Whether the signal tells to stop. A sender that is gone does too. -/
def ShutdownSignal.stops (signal : ShutdownSignal) : Bool :=
  signal.raised || !signal.senderHeld

/-- A controller. The period is counted in milliseconds; `nextTick` is the moment when the
periodic timer fires next, once it runs. -/
structure Controller where
  worker : Worker
  period : Nat
  nextTick : Option Nat := none
  barrierRequested : Bool := false
  signal : ShutdownSignal := {}
  finished : Bool := false
  deriving DecidableEq

namespace Controller

/-- Create a controller, which tracks every port on offer. A pool that cannot be asked offers
none. -/
def create (config : Config) (cluster : Cluster) (pool : Pool) (pusher : Pusher) : Controller :=
  let offered :=
    match PortPool.available pool with
    | .ok portIds => portIds
    | .error _ => []
  { worker := Worker.start (Allocator.track {} offered) cluster pool pusher config.backoff.policy
    period := config.cleanupSeconds * 1000 }

/-- The jobs of a firing of the periodic timer. -/
def periodicJobs (controller : Controller) : List Job :=
  if controller.barrierRequested then [.syncAvailablePorts, .cleanup] else [.removeCleanupBarrier]

/-- Add a job, as a producer does. -/
def enqueue (controller : Controller) (job : Job) : Controller :=
  { controller with worker := controller.worker.enqueue job }

/-- A service was added or updated. -/
def serviceChanged (controller : Controller) (id : ServiceId) : Controller :=
  controller.enqueue (.syncService id)

/-- A service was deleted; `annotations` are its last known ones. -/
def serviceDeleted (controller : Controller) (id : ServiceId) (annotations : Annotations) :
    Controller :=
  controller.enqueue (.removeService id annotations)

/-- Something else that the forwarding model depends on changed. -/
def surroundingsChanged (controller : Controller) : Controller :=
  controller.enqueue .pushConfig

/-- Send a value over the shutdown signal. Answers whether anyone listens, or nothing if the
sender is gone. -/
def sendShutdown (controller : Controller) (value : Bool) : Option Bool × Controller :=
  if !controller.signal.senderHeld then (none, controller)
  else if controller.finished then (some false, controller)
  else (some true, { controller with signal := { controller.signal with raised := value } })

/-- Drop the sender of the shutdown signal. Answers whether it was still there. -/
def dropShutdown (controller : Controller) : Bool × Controller :=
  (controller.signal.senderHeld,
    { controller with signal := { controller.signal with senderHeld := false } })

/-- Start the periodic timer unless it runs. -/
def startTimer (controller : Controller) : Controller :=
  match controller.nextTick with
  | some _ => controller
  | none =>
    { controller with nextTick := some (controller.worker.jobs.clock + controller.period) }

/-- Stop accepting jobs, execute the visible ones and end. -/
def finish (controller : Controller) : Controller :=
  let worker := controller.worker
  let closed := { worker with jobs := worker.jobs.shutDown }
  { controller with worker := closed.runUntilIdle.2, finished := true }

/-- Do everything that can be done at the present moment. -/
def act (controller : Controller) : Controller :=
  if controller.finished then controller
  else
    let started := controller.startTimer
    if started.signal.stops then started.finish
    else { started with worker := started.worker.runUntilIdle.2 }

/-- The next moment when a delayed job is due or the periodic timer fires. -/
def nextMoment (controller : Controller) : Option Nat :=
  let due := controller.worker.jobs.nextDue
  if controller.finished then due
  else
    match due, controller.nextTick with
    | some a, some b => some (min a b)
    | some a, none => some a
    | none, tick => tick

/-- Whether the periodic timer fires at a moment. -/
def ticksAt (controller : Controller) (moment : Nat) : Bool :=
  decide (controller.nextTick = some moment) && !controller.finished

/-- Move the clock to a moment, where delayed jobs become visible and the periodic timer may fire.
A firing counts as requested one period before, when the timer was set. -/
def reach (controller : Controller) (moment : Nat) : Controller :=
  let worker := controller.worker
  if controller.ticksAt moment then
    let jobs := worker.jobs.reachWith moment (moment - controller.period) controller.periodicJobs
    { controller with
      worker := { worker with jobs }
      nextTick := some (moment + controller.period)
      barrierRequested := true }
  else { controller with worker := { worker with jobs := worker.jobs.reach moment } }

/-- Let time pass up to the last moment, acting at each moment when something is due. The limit
bounds the number of moments; there is at most one for each millisecond. -/
def elapse : Nat → Controller → Nat → Controller
  | 0, controller, last => controller.reach last
  | limit + 1, controller, last =>
    match controller.nextMoment with
    | none => controller.reach last
    | some moment =>
      if moment ≤ last then elapse limit (controller.reach moment).act last
      else controller.reach last

/-- Act at the present moment, then let the given number of milliseconds pass. -/
def advance (controller : Controller) (millis : Nat) : Controller :=
  elapse millis controller.act (controller.worker.jobs.clock + millis)

end Controller

end Balancer
