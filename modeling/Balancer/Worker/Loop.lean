import Balancer.Worker

/-!
# Running jobs

Running until no job is visible, and repeating the synchronisation of one service until it no
longer changes. Jobs that wait for their backoff delay are not waited for. The number of jobs is
bounded by the size of the queue and of the records; the bound leaves room for jobs that are
requeued without a delay.
-/

namespace Balancer

namespace Worker

/-- More jobs than can be executed before the queue is idle. -/
def jobBound (worker : Worker) : Nat :=
  let size := worker.jobs.size + worker.allocator.records.size + 1
  let bound := 5 * size * size
  bound * bound

/-- Execute visible jobs, at most the given number. Answers how many there were. -/
def runAtMost : Nat → Worker → Nat × Worker
  | 0, worker => (0, worker)
  | limit + 1, worker =>
    match worker.step with
    | none => (0, worker)
    | some next =>
      let result := runAtMost limit next
      (result.1 + 1, result.2)

/-- Execute jobs until none is visible. Answers how many there were. -/
def runUntilIdle (worker : Worker) : Nat × Worker :=
  runAtMost worker.jobBound worker

/-- Request the synchronisation of a service and run until idle. -/
def sync (worker : Worker) (id : ServiceId) : Worker :=
  ((worker.enqueue (.syncService id)).runUntilIdle).2

/-- Repeat the synchronisation of a service until its version no longer changes, at most the given
number of times. Answers the number of rounds. -/
def converge : Nat → Worker → ServiceId → Nat × Worker
  | 0, worker, _ => (0, worker)
  | limit + 1, worker, id =>
    let synced := worker.sync id
    if (synced.cluster.store.get? id).map Service.version =
        (worker.cluster.store.get? id).map Service.version then (1, synced)
    else
      let result := converge limit synced id
      (result.1 + 1, result.2)

end Worker

end Balancer
