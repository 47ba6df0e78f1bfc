import Balancer.Cluster
import Balancer.Job
import Balancer.Pool
import Balancer.WorkQueue.Delayed

/-!
# The state of the worker

The worker owns the allocator and reaches the cluster, the pool, the agents and the job queue.
After every job it publishes a view of the allocator, and it keeps a history of what it ran.
-/

namespace Balancer

/-- The view of the allocator that is published after every job. -/
structure Snapshot where
  assignments : Assignment := ∅
  usedPorts : List String := []
  cleanupsAllowed : Bool := false
  deriving DecidableEq

/-- An executed job. For a failure it has the error and the number of failures since the job last
succeeded, this one included. -/
structure JobRun where
  job : Job
  failure : Option (JobError × Nat) := none
  deriving DecidableEq

/-- The worker with everything that its jobs reach. `history` lists the executed jobs in order. -/
structure Worker where
  allocator : Allocator := {}
  cluster : Cluster := {}
  pool : Pool
  pusher : Pusher := {}
  jobs : DelayQueue Job
  cleanupsAllowed : Bool := false
  published : Snapshot := {}
  history : List JobRun := []
  deriving DecidableEq

/-- The worker after a job or a part of one, and the error if it failed. -/
abbrev Outcome := Worker × Option JobError

namespace Worker

/-- Add a job. -/
def enqueue (worker : Worker) (job : Job) : Worker :=
  { worker with jobs := worker.jobs.add job }

/-- Log an event of a service. -/
def record (worker : Worker) (id : ServiceId) (event : ServiceEvent) : Worker :=
  { worker with cluster := worker.cluster.record id event }

/-- Persist the annotations of a service. -/
def updateService (worker : Worker) (service : Service) : Outcome :=
  match worker.cluster.update service with
  | .error cause => (worker, some (.store cause))
  | .ok cluster => ({ worker with cluster }, none)

/-- Persist the status of a service. -/
def updateStatus (worker : Worker) (service : Service) : Outcome :=
  match worker.cluster.updateStatus service with
  | .error cause => (worker, some (.store cause))
  | .ok cluster => ({ worker with cluster }, none)

/-- Continue after a part of a job unless it failed. -/
def followedBy (outcome : Outcome) (next : Worker → Outcome) : Outcome :=
  match outcome with
  | (worker, none) => next worker
  | failed => failed

/-- The present view of the allocator. -/
def snapshot (worker : Worker) : Snapshot :=
  { assignments := worker.allocator.assignment
    usedPorts := worker.allocator.usedPorts
    cleanupsAllowed := worker.cleanupsAllowed }

/-- Publish the present view of the allocator. -/
def publish (worker : Worker) : Worker :=
  { worker with published := worker.snapshot }

end Worker

end Balancer
