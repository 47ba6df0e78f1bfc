import Balancer.Worker.Maintenance
import Balancer.Worker.Sync

/-!
# The worker

The one executor of jobs. It runs each job to its end before it takes the next one. A job that
fails keeps the effects it had until then and is tried again after a backoff delay; a job that
succeeds starts over with the shortest delay.
-/

namespace Balancer

namespace Worker

/-- Run a job. -/
def run (worker : Worker) : Job → Outcome
  | .syncService id => worker.syncService id
  | .removeService id annotations => worker.removeService id annotations
  | .removeCleanupBarrier => ({ worker with cleanupsAllowed := true }, none)
  | .cleanup => worker.cleanup
  | .pushConfig => worker.pushConfig
  | .syncAvailablePorts => worker.syncAvailablePorts

/-- Forget a job that succeeded, or requeue one that failed. The number of the attempt, which is
logged only, is one more than the count of the requeues. Since the count stays at `requeueLimit`, it
is at most 2^32, one more than a counter of 32 bits holds: there the sum of the greatest count and
one overflows, and here it does not. -/
def settle (outcome : Outcome) (job : Job) : Worker :=
  let worker := outcome.1
  match outcome.2 with
  | none =>
    { worker with jobs := worker.jobs.forget job, history := worker.history ++ [{ job }] }
  | some error =>
    let attempts := worker.jobs.requeueCount job + 1
    { worker with
      jobs :=
        match job.failurePolicy with
        | .requeue => worker.jobs.requeue job
        | .drop => worker.jobs.forget job
      history := worker.history ++ [{ job, failure := some (error, attempts) }] }

/-- Execute a job that was handed out. -/
def execute (worker : Worker) (job : Job) : Worker :=
  let settled := settle (worker.run job) job
  { settled with jobs := settled.jobs.done job }.publish

/-- Execute the next visible job, if there is one. -/
def step (worker : Worker) : Option Worker :=
  worker.jobs.take.map fun taken => { worker with jobs := taken.2 }.execute taken.1

/-- A worker with an allocator, its surroundings and an empty queue, which publishes its first
view. -/
def start (allocator : Allocator) (cluster : Cluster) (pool : Pool) (pusher : Pusher)
    (backoff : Backoff) : Worker :=
  { allocator, cluster, pool, pusher, jobs := { backoff } : Worker }.publish

end Worker

end Balancer
