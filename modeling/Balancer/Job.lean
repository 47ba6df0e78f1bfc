import Balancer.Forwarding.Generation
import Balancer.Push
import Balancer.Text.Quoted

/-!
# Jobs

The units of work of the controller. A job carries only what it needs to be run again at any
time, and equal jobs are one while they are pending.
-/

namespace Balancer

/-- A unit of work. -/
inductive Job where
  /-- Bring the mapping, the annotations and the status of a service up to date. -/
  | syncService (id : ServiceId)
  /-- Forget a deleted service, given its last known annotations. -/
  | removeService (id : ServiceId) (annotations : Annotations)
  /-- Allow cleanups from now on. -/
  | removeCleanupBarrier
  /-- Delete the ports without allocations. -/
  | cleanup
  /-- Generate the forwarding model and push it to the agents. -/
  | pushConfig
  /-- Drop the ports that vanished, and track those on offer. -/
  | syncAvailablePorts
  deriving DecidableEq

/-- What happens to a job that failed. -/
inductive FailurePolicy where
  | drop
  | requeue
  deriving DecidableEq

/-- Why a job failed. -/
inductive JobError where
  | barrierActive
  | allocator (cause : AllocatorError)
  | pool (cause : PoolError)
  | store (cause : StoreError)
  | generation (cause : GenerationError)
  | push (cause : PushError)
  deriving DecidableEq

/-- The text of a job error. -/
def JobError.message : JobError → String
  | .barrierActive => "cleanup barrier is in place"
  | .allocator cause => cause.message
  | .pool cause => "L3 port backend error: " ++ cause.message
  | .store cause => cause.message
  | .generation cause => "model generation failed: " ++ cause.message
  | .push cause => "config push failed: " ++ cause.message

namespace FailurePolicy

/-- The name of a policy. -/
def name : FailurePolicy → String
  | .drop => "Drop"
  | .requeue => "RequeueTail"

/-- Whether the job is queued again. -/
def isRequeue : FailurePolicy → Bool
  | .drop => false
  | .requeue => true

end FailurePolicy

namespace Job

/-- The text of a job. -/
def text : Job → String
  | .syncService id => "SyncService(" ++ Text.quoted id.key ++ ")"
  | .removeService id _ => "RemoveService(" ++ Text.quoted id.key ++ ")"
  | .removeCleanupBarrier => "RemoveCleanupBarrier"
  | .cleanup => "Cleanup"
  | .pushConfig => "PushConfig"
  | .syncAvailablePorts => "SyncAvailablePorts"

/-- Every job that fails is tried again. -/
def failurePolicy (_ : Job) : FailurePolicy :=
  .requeue

end Job

end Balancer
