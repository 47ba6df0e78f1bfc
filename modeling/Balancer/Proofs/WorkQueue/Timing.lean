import Mathlib
import Balancer.Proofs.Backoff.Delays
import Balancer.Proofs.WorkQueue.Elapsing
import Balancer.Proofs.WorkQueue.Integrity

/-!
# The timing of requeues

A queue is called in any order while its clock advances. A requeue counts one more attempt for its
item and asks for an addition of the item: at once if there is no delay, and otherwise when the
delay of the attempt has passed. Several requests for one item may be outstanding, and nothing
cancels them.

The attempt that a requeue counts and the moment when it adds can be read off the calls alone. So
the queue does what a queue without timers does on which every requested addition is made at its
moment, with the effect that an addition has then.

That timers fire at their deadlines, and simultaneous ones in the order of the requests, is assumed
of the runtime and not proved here. What is proved is which timers there are, for which deadlines,
and what an addition does when one of them fires.
-/

namespace Balancer

namespace WorkQueue

variable {α : Type} [DecidableEq α]

/-- The queue without the counts of the requeues. -/
def uncounted (queue : WorkQueue α) : WorkQueue α :=
  { queue with requeues := [] }

omit [DecidableEq α] in
@[simp] theorem shuttingDown_uncounted (queue : WorkQueue α) :
    queue.uncounted.shuttingDown = queue.shuttingDown :=
  rfl

@[simp] theorem uncounted_countRequeue (queue : WorkQueue α) (item : α) :
    (queue.countRequeue item).uncounted = queue.uncounted :=
  rfl

@[simp] theorem uncounted_forget (queue : WorkQueue α) (item : α) :
    (queue.forget item).uncounted = queue.uncounted :=
  rfl

/-- The number of the requeues of an item is read off the counts. -/
theorem requeueCount_congr {queue other : WorkQueue α} (h : queue.requeues = other.requeues)
    (item : α) : queue.requeueCount item = other.requeueCount item :=
  congrArg (fun counts => (counts.lookup item).getD 0) h

/-- An addition does not look at the counts. -/
@[simp] theorem uncounted_add (queue : WorkQueue α) (item : α) :
    (queue.add item).uncounted = queue.uncounted.add item := by
  by_cases hnew : queue.shuttingDown = true ∨ item ∈ queue.pending
  · simp [add, uncounted, hnew]
  · by_cases hbusy : item ∈ queue.processing
    · simp [add, uncounted, hnew, hbusy]
    · simp [add, uncounted, hnew, hbusy]

/-- Several additions do not look at the counts. -/
@[simp] theorem uncounted_addAll (queue : WorkQueue α) (items : List α) :
    (queue.addAll items).uncounted = queue.uncounted.addAll items := by
  induction items generalizing queue with
  | nil => rfl
  | cons item rest ih =>
    change ((queue.add item).addAll rest).uncounted = (queue.uncounted.add item).addAll rest
    rw [ih, uncounted_add]

/-- The end of processing does not look at the counts. -/
@[simp] theorem uncounted_done (queue : WorkQueue α) (item : α) :
    (queue.done item).uncounted = queue.uncounted.done item := by
  by_cases hpending : item ∈ queue.pending
  · simp [done, uncounted, hpending]
  · simp [done, uncounted, hpending]

/-- The handing out of an item does not look at the counts. -/
theorem uncounted_take (queue : WorkQueue α) :
    ((queue.take.map Prod.snd).getD queue).uncounted =
      (queue.uncounted.take.map Prod.snd).getD queue.uncounted := by
  unfold take
  cases hvisible : queue.visible with
  | nil => simp [uncounted, hvisible]
  | cons item rest => simp [uncounted, hvisible]

/-- The passing of time does not look at the counts. -/
@[simp] theorem uncounted_pass (entries : List (Delayed α)) (moment : Nat) (queue : WorkQueue α)
    (millis : Nat) :
    (queue.pass entries moment millis).uncounted = queue.uncounted.pass entries moment millis := by
  induction millis with
  | zero => rfl
  | succ millis ih => simp only [pass, uncounted_addAll, ih]

end WorkQueue

namespace TimedCall

variable {α : Type} [DecidableEq α]

/-- What the clock shows after a history, which lists the calls with the latest first. -/
def moment : List (TimedCall α) → Nat
  | [] => 0
  | .advance millis :: earlier => moment earlier + millis
  | _ :: earlier => moment earlier

/-- The number of requeues of an item since it was last forgotten, up to the end of the queue. -/
def attempts (item : α) : List (TimedCall α) → Nat
  | [] => 0
  | call :: earlier =>
    if call = .forget item then 0
    else if call = .requeue item ∧ .shutDown ∉ earlier then attempts item earlier + 1
    else attempts item earlier

/-- The addition that is requested when an item is requeued after a history. -/
def request (backoff : Backoff) (earlier : List (TimedCall α)) (item : α) : Delayed α where
  item := item
  since := moment earlier
  due := moment earlier + backoff.delay (attempts item earlier) / nanosPerMilli

/-- The additions that are requested in a history, in order. -/
def requests (backoff : Backoff) : List (TimedCall α) → List (Delayed α)
  | [] => []
  | .requeue item :: earlier =>
    if .shutDown ∈ earlier then requests backoff earlier
    else requests backoff earlier ++ [request backoff earlier item]
  | _ :: earlier => requests backoff earlier

/-- The queue without timers on which the requested additions are made at their moments. -/
def replay (backoff : Backoff) : List (TimedCall α) → WorkQueue α
  | [] => {}
  | call :: earlier =>
    let queue := replay backoff earlier
    match call with
    | .add item => queue.add item
    | .requeue item =>
      if (request backoff earlier item).due = moment earlier then queue.add item else queue
    | .take => (queue.take.map Prod.snd).getD queue
    | .done item => queue.done item
    | .forget _ => queue
    | .shutDown => queue.shutDown
    | .advance millis => queue.pass (requests backoff earlier) (moment earlier) millis

end TimedCall

namespace Backoff

variable {backoff : Backoff}

/-- The count of the requeues stops where the delays have long stopped growing. -/
theorem delay_min_requeueLimit (backoff : Backoff) (attempt : Nat) :
    backoff.delay (min attempt requeueLimit) = backoff.delay attempt := by
  have hlimit : 64 ≤ requeueLimit := by decide
  have hmin : min (min attempt requeueLimit) 64 = min attempt 64 := by omega
  unfold delay
  rw [hmin]

/-- A delay of whole milliseconds is not rounded. -/
theorem delayMillis_eq_div {attempt : Nat} (hwhole : nanosPerMilli ∣ backoff.delay attempt) :
    backoff.delayMillis attempt = backoff.delay attempt / nanosPerMilli := by
  obtain ⟨millis, hmillis⟩ := hwhole
  unfold delayMillis
  rw [hmillis]
  simp only [nanosPerMilli]
  omega

/-- The delays of a policy that counts milliseconds are whole, as long as they fit into 64 bits. -/
theorem whole_ofMillis {base max : Nat} (h : max * nanosPerMilli < word64Count) (attempt : Nat) :
    nanosPerMilli ∣ (ofMillis base max).delay attempt := by
  have hmax : (ofMillis base max).max < word128Count := h.trans (by decide)
  have hexact : (ofMillis base max).exactDelay attempt < word64Count :=
    (exactDelay_le_max _ attempt).trans_lt h
  rw [delay_eq_mod hmax, Nat.mod_eq_of_lt hexact, exactDelay, min_def]
  split
  · exact (Nat.dvd_mul_left nanosPerMilli base).mul_right _
  · exact Nat.dvd_mul_left nanosPerMilli max

end Backoff

namespace TimedCall

variable {α : Type} [DecidableEq α]

/-- A requeue before the end of the queue is one more attempt for its item. -/
theorem attempts_requeue (item other : α) (earlier : List (TimedCall α)) :
    attempts other (.requeue item :: earlier) =
      if other = item ∧ .shutDown ∉ earlier then attempts other earlier + 1
      else attempts other earlier := by
  simp [attempts, eq_comm]

/-- Only requeues and resets change the number of the attempts. -/
theorem attempts_cons {item : α} {call : TimedCall α} (hrequeue : call ≠ .requeue item)
    (hforget : call ≠ .forget item) (earlier : List (TimedCall α)) :
    attempts item (call :: earlier) = attempts item earlier := by
  simp [attempts, hrequeue, hforget]

/-- No call cancels a request. -/
theorem requests_append (backoff : Backoff) (later earlier : List (TimedCall α)) :
    ∃ rest, requests backoff (later ++ earlier) = requests backoff earlier ++ rest := by
  induction later with
  | nil => exact ⟨[], (List.append_nil _).symm⟩
  | cons call later ih =>
    obtain ⟨rest, hrest⟩ := ih
    cases call with
    | requeue item =>
      by_cases hshut : .shutDown ∈ later ++ earlier
      · exact ⟨rest, (if_pos hshut).trans hrest⟩
      · refine ⟨rest ++ [request backoff (later ++ earlier) item], (if_neg hshut).trans ?_⟩
        rw [← List.append_assoc, ← hrest]
        rfl
    | _ => exact ⟨rest, hrest⟩

/-- A request is for now exactly if there is no delay. -/
theorem request_due_eq_iff {backoff : Backoff} {earlier : List (TimedCall α)} {item : α}
    (hwhole : nanosPerMilli ∣ backoff.delay (attempts item earlier)) :
    (request backoff earlier item).due = moment earlier ↔
      backoff.delay (attempts item earlier) = 0 := by
  obtain ⟨millis, hmillis⟩ := hwhole
  simp only [request, hmillis, nanosPerMilli]
  omega

/-- The queue without timers is closed by the first end of the queue. -/
theorem shuttingDown_replay (backoff : Backoff) (history : List (TimedCall α)) :
    (replay backoff history).shuttingDown = true ↔ .shutDown ∈ history := by
  induction history with
  | nil => simp [replay]
  | cons call earlier ih =>
    rw [List.mem_cons, ← ih]
    cases call with
    | add item => simp [replay]
    | requeue item =>
      simp only [replay]
      split <;> simp
    | take =>
      cases htake : (replay backoff earlier).take with
      | none => simp [replay, htake]
      | some taken => simp [replay, htake, WorkQueue.shuttingDown_take htake]
    | done item => simp [replay]
    | forget item => simp [replay]
    | shutDown => simp [replay, WorkQueue.shutDown]
    | advance millis => simp [replay]

end TimedCall

namespace DelayQueue

open TimedCall
open WorkQueue (dueAt)

variable {α : Type} [DecidableEq α] {backoff : Backoff} {queue : DelayQueue α}

/-- What the history of the calls says of a queue: what its clock shows, how often each item was
requeued, which requests are outstanding, and all that it would be without timers. -/
structure Timely (queue : DelayQueue α) (backoff : Backoff) (history : List (TimedCall α)) :
    Prop where
  policy : queue.backoff = backoff
  clock : queue.clock = moment history
  requeueCount : ∀ item, queue.requeueCount item = min (attempts item history) requeueLimit
  outstanding : queue.delayed = (requests backoff history).filter fun entry =>
    decide (moment history < entry.due)
  items : queue.queue.uncounted = replay backoff history

/-- A queue is closed once its end was called. -/
theorem Timely.shuttingDown_iff {history : List (TimedCall α)} (h : queue.Timely backoff history) :
    queue.queue.shuttingDown = true ↔ .shutDown ∈ history := by
  rw [← shuttingDown_replay backoff history, ← h.items, WorkQueue.shuttingDown_uncounted]

/-- The outstanding requests are due in the future. -/
theorem Timely.clock_lt_due {history : List (TimedCall α)} (h : queue.Timely backoff history) :
    ∀ entry ∈ queue.delayed, queue.clock < entry.due := by
  intro entry hentry
  rw [h.outstanding] at hentry
  rw [h.clock]
  exact of_decide_eq_true (List.mem_filter.mp hentry).2

/-- After its end a queue ignores requeues. -/
theorem Timely.requeue_of_shutDown {earlier : List (TimedCall α)}
    (h : queue.Timely backoff earlier) (hshut : .shutDown ∈ earlier) (item : α) :
    (queue.requeue item).Timely backoff (.requeue item :: earlier) := by
  have hclosed : queue.queue.shuttingDown = true := h.shuttingDown_iff.mpr hshut
  have hsame : queue.requeue item = queue := if_pos hclosed
  rw [hsame]
  refine ⟨h.policy, h.clock, fun other => ?_, ?_, ?_⟩
  · rw [attempts_requeue, if_neg fun hnew => hnew.2 hshut]
    exact h.requeueCount other
  · rw [requests, if_pos hshut]
    exact h.outstanding
  · have hreplay : (replay backoff earlier).shuttingDown = true :=
      (shuttingDown_replay backoff earlier).mpr hshut
    rw [replay, WorkQueue.add_of_shuttingDown _ item hreplay, ite_self]
    exact h.items

/-- Before its end a queue counts a requeue, and adds the item or keeps the request. -/
theorem Timely.requeue_eq (hwhole : ∀ attempt, nanosPerMilli ∣ backoff.delay attempt)
    {earlier : List (TimedCall α)} (h : queue.Timely backoff earlier) (hopen : .shutDown ∉ earlier)
    (item : α) :
    queue.requeue item =
      if (request backoff earlier item).due = moment earlier then
        { queue with queue := (queue.queue.countRequeue item).add item }
      else
        { queue with
          queue := queue.queue.countRequeue item
          delayed := queue.delayed ++ [request backoff earlier item] } := by
  have hnotClosed : ¬queue.queue.shuttingDown = true := fun hclosed =>
    hopen (h.shuttingDown_iff.mp hclosed)
  have hcount : queue.queue.requeueCount item = min (attempts item earlier) requeueLimit :=
    h.requeueCount item
  have hdelay : queue.backoff.delay (queue.queue.requeueCount item) =
      backoff.delay (attempts item earlier) := by
    rw [h.policy, hcount, Backoff.delay_min_requeueLimit]
  have hmillis : queue.backoff.delayMillis (queue.queue.requeueCount item) =
      backoff.delay (attempts item earlier) / nanosPerMilli := by
    rw [← Backoff.delayMillis_eq_div (hwhole _), Backoff.delayMillis, hdelay, Backoff.delayMillis]
  unfold DelayQueue.requeue
  rw [if_neg hnotClosed]
  refine if_congr ?_ rfl ?_
  · rw [hdelay, request_due_eq_iff (hwhole _)]
  · rw [hmillis, h.clock]
    rfl

/-- A requeue before the end of the queue is counted. -/
theorem Timely.requeueCount_countRequeue {earlier : List (TimedCall α)}
    (h : queue.Timely backoff earlier) (hopen : .shutDown ∉ earlier) (item other : α) :
    (queue.queue.countRequeue item).requeueCount other =
      min (attempts other (.requeue item :: earlier)) requeueLimit := by
  have hcount : ∀ item, queue.queue.requeueCount item = min (attempts item earlier) requeueLimit :=
    h.requeueCount
  rw [WorkQueue.requeueCount_countRequeue, attempts_requeue, hcount, hcount]
  by_cases heq : other = item
  · subst heq
    rw [if_pos rfl, if_pos ⟨rfl, hopen⟩]
    omega
  · rw [if_neg heq, if_neg fun hnew => heq hnew.1]

/-- A requeue keeps the queue in accordance with the history. -/
theorem Timely.requeue (hwhole : ∀ attempt, nanosPerMilli ∣ backoff.delay attempt)
    {earlier : List (TimedCall α)} (h : queue.Timely backoff earlier) (item : α) :
    (queue.requeue item).Timely backoff (.requeue item :: earlier) := by
  by_cases hshut : .shutDown ∈ earlier
  · exact h.requeue_of_shutDown hshut item
  have hcounted := h.requeueCount_countRequeue hshut item
  have hrequests : requests backoff (.requeue item :: earlier) =
      requests backoff earlier ++ [request backoff earlier item] := if_neg hshut
  rw [h.requeue_eq hwhole hshut item]
  by_cases hdue : (request backoff earlier item).due = moment earlier
  · rw [if_pos hdue]
    refine ⟨h.policy, h.clock, fun other => ?_, ?_, ?_⟩
    · rw [← hcounted other]
      exact WorkQueue.requeueCount_congr (WorkQueue.requeues_addAll _ [item]) other
    · change queue.delayed =
        List.filter (fun entry : Delayed α => decide (moment earlier < entry.due)) _
      rw [hrequests, List.filter_append, ← h.outstanding]
      simp [hdue]
    · rw [replay, if_pos hdue, ← h.items, ← queue.queue.uncounted_countRequeue item]
      exact WorkQueue.uncounted_add _ item
  · have hlate : moment earlier < (request backoff earlier item).due :=
      lt_of_le_of_ne (Nat.le_add_right _ _) (Ne.symm hdue)
    rw [if_neg hdue]
    refine ⟨h.policy, h.clock, hcounted, ?_, ?_⟩
    · change _ = List.filter (fun entry : Delayed α => decide (moment earlier < entry.due)) _
      rw [hrequests, List.filter_append, ← h.outstanding]
      simp [hlate]
    · rw [replay, if_neg hdue, ← h.items]
      exact queue.queue.uncounted_countRequeue item

/-- When milliseconds pass, the requests that become due are met. -/
theorem Timely.advance {earlier : List (TimedCall α)} (h : queue.Timely backoff earlier)
    (millis : Nat) :
    (queue.advanceTo (queue.clock + millis)).Timely backoff (.advance millis :: earlier) := by
  rw [advanceTo_eq millis h.clock_lt_due]
  have hdue : ∀ due, queue.clock < due → due ≤ queue.clock + millis →
      WorkQueue.dueAt queue.delayed due = WorkQueue.dueAt (requests backoff earlier) due := by
    intro due hlate _
    rw [h.outstanding]
    exact WorkQueue.dueAt_filter (h.clock ▸ hlate)
  refine ⟨h.policy, congrArg (· + millis) h.clock, fun item => ?_, ?_, ?_⟩
  · rw [attempts_cons (by simp) (by simp), ← h.requeueCount item]
    exact WorkQueue.requeueCount_congr (WorkQueue.requeues_pass _ _ _ millis) item
  · change queue.delayed.filter _ = (requests backoff earlier).filter _
    rw [h.outstanding, h.clock, List.filter_filter]
    apply List.filter_congr
    intro entry _
    by_cases hlate : moment earlier + millis < entry.due
    · simp [moment, hlate, (Nat.le_add_right (moment earlier) millis).trans_lt hlate]
    · simp [moment, hlate]
  · change (queue.queue.pass queue.delayed queue.clock millis).uncounted = _
    rw [WorkQueue.uncounted_pass, h.items, WorkQueue.pass_congr hdue, h.clock]
    rfl

/-- A call that neither requeues nor resets nor lets time pass acts as on a queue without timers. -/
theorem Timely.of_timeless {earlier : List (TimedCall α)} (h : queue.Timely backoff earlier)
    {call : TimedCall α} {inner : WorkQueue α} (hrequeue : ∀ item, call ≠ .requeue item)
    (hforget : ∀ item, call ≠ .forget item) (hadvance : ∀ millis, call ≠ .advance millis)
    (hcounts : inner.requeues = queue.queue.requeues)
    (hitems : inner.uncounted = replay backoff (call :: earlier)) :
    { queue with queue := inner }.Timely backoff (call :: earlier) := by
  have hmoment : moment (call :: earlier) = moment earlier := by
    cases call <;> first | rfl | exact absurd rfl (hadvance _)
  have hrequests : requests backoff (call :: earlier) = requests backoff earlier := by
    cases call <;> first | rfl | exact absurd rfl (hrequeue _)
  refine ⟨h.policy, h.clock.trans hmoment.symm, fun item => ?_, ?_, hitems⟩
  · rw [attempts_cons (hrequeue item) (hforget item), ← h.requeueCount item]
    exact WorkQueue.requeueCount_congr hcounts item
  · rw [hmoment, hrequests]
    exact h.outstanding

/-- Every call keeps the queue in accordance with the history. -/
theorem Timely.called (hwhole : ∀ attempt, nanosPerMilli ∣ backoff.delay attempt)
    {earlier : List (TimedCall α)} (h : queue.Timely backoff earlier) (call : TimedCall α) :
    (queue.called call).Timely backoff (call :: earlier) := by
  cases call with
  | add item =>
    refine h.of_timeless (by simp) (by simp) (by simp) (WorkQueue.requeues_addAll _ [item]) ?_
    rw [replay, ← h.items]
    exact WorkQueue.uncounted_add _ item
  | requeue item => exact h.requeue hwhole item
  | take =>
    rw [called_take]
    refine h.of_timeless (by simp) (by simp) (by simp) ?_ ?_
    · unfold WorkQueue.take
      split <;> rfl
    · rw [replay, ← h.items]
      exact WorkQueue.uncounted_take _
  | done item =>
    refine h.of_timeless (by simp) (by simp) (by simp) (WorkQueue.requeues_done _ item) ?_
    rw [replay, ← h.items]
    exact WorkQueue.uncounted_done _ item
  | forget item =>
    refine ⟨h.policy, h.clock, fun other => ?_, h.outstanding,
      (queue.queue.uncounted_forget item).trans h.items⟩
    have hother : queue.queue.requeueCount other = min (attempts other earlier) requeueLimit :=
      h.requeueCount other
    refine (WorkQueue.requeueCount_forget queue.queue item other).trans ?_
    by_cases heq : other = item
    · simp [attempts, heq]
    · rw [if_neg heq, attempts_cons (by simp) (by simpa using Ne.symm heq), hother]
  | shutDown =>
    refine h.of_timeless (by simp) (by simp) (by simp) rfl ?_
    rw [replay, ← h.items]
    rfl
  | advance millis => exact h.advance millis

/-- After every history a new queue is in accordance with it. -/
theorem timely_during (hwhole : ∀ attempt, nanosPerMilli ∣ backoff.delay attempt)
    (history : List (TimedCall α)) :
    ((fresh backoff).during history).Timely backoff history := by
  induction history with
  | nil => exact ⟨rfl, rfl, fun _ => rfl, rfl, rfl⟩
  | cons call earlier ih => exact ih.called hwhole call

/-- What a new queue holds after a history, besides the counts of the requeues. -/
def contents (backoff : Backoff) (history : List (TimedCall α)) : WorkQueue α :=
  ((fresh backoff).during history).queue.uncounted

/-- What becomes of a requeue before the end of the queue, if further calls follow. -/
structure OnTime (backoff : Backoff) (later : List (TimedCall α)) (item : α)
    (earlier : List (TimedCall α)) : Prop where
  /-- It is the next attempt for its item. -/
  counted : ((fresh backoff).during (.requeue item :: earlier)).requeueCount item =
    min (attempts item earlier + 1) requeueLimit
  /-- The call adds the item if there is no delay, and otherwise it only counts. -/
  atOnce : contents backoff (.requeue item :: earlier) =
    if backoff.delay (attempts item earlier) = 0 then (contents backoff earlier).add item
    else contents backoff earlier
  /-- Whatever is called later, the request stays until it is due. -/
  outstanding : moment (later ++ .requeue item :: earlier) < (request backoff earlier item).due →
    request backoff earlier item ∈
      ((fresh backoff).during (later ++ .requeue item :: earlier)).delayed
  /-- In the millisecond at the end of which the request is due the item is added, behind those
  that were requested earlier for the same moment. The runtime is assumed to have polled the timer
  of the request before the clock moved, to fire it at its deadline, and to fire simultaneous timers
  in the order of the requests. -/
  met : ∀ millis,
    moment (later ++ .requeue item :: earlier) + millis + 1 = (request backoff earlier item).due →
    ∃ behind, contents backoff (.advance (millis + 1) :: (later ++ .requeue item :: earlier)) =
      (((contents backoff (.advance millis :: (later ++ .requeue item :: earlier))).addAll
        (dueAt (requests backoff earlier) (request backoff earlier item).due)).add item).addAll
          behind

/-- Every requeue before the end of the queue is met at its moment. -/
theorem onTime (hwhole : ∀ attempt, nanosPerMilli ∣ backoff.delay attempt)
    (later : List (TimedCall α)) (item : α) {earlier : List (TimedCall α)}
    (hopen : .shutDown ∉ earlier) : OnTime backoff later item earlier := by
  have hcontents : ∀ history : List (TimedCall α),
      contents backoff history = replay backoff history := fun history =>
    (timely_during hwhole history).items
  have hrequests : requests backoff (.requeue item :: earlier) =
      requests backoff earlier ++ [request backoff earlier item] := if_neg hopen
  obtain ⟨rest, hkept⟩ := requests_append backoff later (.requeue item :: earlier)
  rw [hrequests, List.append_assoc, List.singleton_append] at hkept
  constructor
  · rw [(timely_during hwhole _).requeueCount, attempts_requeue, if_pos ⟨rfl, hopen⟩]
  · rw [hcontents, hcontents, replay]
    exact if_congr (request_due_eq_iff (hwhole _)) rfl rfl
  · intro hlate
    rw [(timely_during hwhole _).outstanding, hkept]
    refine List.mem_filter.mpr ⟨?_, decide_eq_true hlate⟩
    exact List.mem_append_right _ List.mem_cons_self
  · intro millis hdue
    refine ⟨dueAt rest (request backoff earlier item).due, ?_⟩
    have hnow : dueAt (requests backoff (later ++ .requeue item :: earlier))
        (request backoff earlier item).due =
        dueAt (requests backoff earlier) (request backoff earlier item).due ++
          item :: dueAt rest (request backoff earlier item).due := by
      rw [hkept]
      simp [dueAt, request]
    rw [hcontents, hcontents]
    change WorkQueue.addAll _
      (dueAt _ (moment (later ++ .requeue item :: earlier) + millis + 1)) = _
    rw [hdue, hnow]
    exact List.foldl_append

/-- However calls and the passing of time interleave, the queue is what the calls say: each item was
requeued as often as it was since it was last forgotten, each request is outstanding until it is due
and is then met, and the rest is as on a queue without timers. Time may pass in parts, and waiting
consumers call nothing that a consumer without patience could not call. -/
theorem requeues_on_time (hwhole : ∀ attempt, nanosPerMilli ∣ backoff.delay attempt)
    (history : List (TimedCall α)) :
    let after := fun history => (fresh backoff).during history
    (after history).Timely backoff history ∧
    (∀ later item earlier, history = later ++ .requeue item :: earlier → .shutDown ∉ earlier →
      OnTime backoff later item earlier) ∧
    (∀ first second, after (.advance (first + second) :: history) =
      after (.advance second :: .advance first :: history)) ∧
    (∀ timeout, ∃ calls, (∀ call ∈ calls, call.Patient) ∧
      ((after history).pollFor timeout).2 = after (calls ++ history)) ∧
    (∀ consumer millis, ∃ calls, (∀ call ∈ calls, call.Patient) ∧
      ((after history).advanceServing consumer ((after history).clock + millis)).1 =
        after (calls ++ history)) := by
  intro after
  have htimely : (after history).Timely backoff history := timely_during hwhole history
  have hahead := htimely.clock_lt_due
  have hpaced := fun millis => paced_moments hahead (Nat.le_add_right (after history).clock millis)
  have hcontinued : ∀ calls, (after history).during calls = after (calls ++ history) :=
    fun calls => ((fresh backoff).during_append calls history).symm
  refine ⟨htimely, ?_, fun first second => ?_, fun timeout => ?_, fun consumer millis => ?_⟩
  · rintro later item earlier rfl hopen
    exact onTime hwhole later item hopen
  · have hfirst : (after (.advance first :: history)).Timely backoff _ := htimely.advance first
    have hsecond := advanceTo_eq second hfirst.clock_lt_due
    have hparts : after (.advance first :: history) = (after history).elapse first :=
      advanceTo_eq first hahead
    calc after (.advance (first + second) :: history)
        = (after history).elapse (first + second) := advanceTo_eq (first + second) hahead
      _ = ((after history).elapse first).elapse second := elapse_add _ first second
      _ = after (.advance second :: .advance first :: history) := by
          rw [← hparts]
          exact hsecond.symm
  · obtain ⟨calls, hpatient, hcalls⟩ := (hpaced timeout).exists_during_pollAt
    exact ⟨calls, hpatient, hcalls.trans (hcontinued calls)⟩
  · obtain ⟨calls, hpatient, hcalls⟩ := (hpaced millis).exists_during_serving consumer
    exact ⟨calls, hpatient, hcalls.trans (hcontinued calls)⟩

/-- An item is requeued three times while it is processed, and forgotten before the third time. The
first and the third request come to one addition, which waits for the end of the processing; the
second one is still outstanding when the item has been processed twice. -/
def rushed : List (TimedCall Nat) :=
  [.advance 9, .done 1, .take, .done 1, .advance 4, .advance 6, .requeue 1, .forget 1, .requeue 1,
    .advance 4, .requeue 1, .take, .add 1]

/-- The outstanding request is met in the next millisecond. -/
theorem requeues_on_time_rushed :
    let after := fun history => (fresh (.ofMillis 10 1000)).during history
    (∀ attempt, nanosPerMilli ∣ (Backoff.ofMillis 10 1000).delay attempt) ∧
      (after rushed).clock = 23 ∧ (after rushed).requeueCount 1 = 1 ∧
      (after rushed).delayed = [{ item := 1, since := 4, due := 24 }] ∧
      (after rushed).queue.visible = [] ∧ (after (.advance 1 :: rushed)).queue.visible = [1] := by
  have hwhole : ∀ attempt, nanosPerMilli ∣ (Backoff.ofMillis 10 1000).delay attempt :=
    Backoff.whole_ofMillis (by decide)
  obtain ⟨hbefore, -⟩ := requeues_on_time hwhole rushed
  obtain ⟨hafter, -⟩ := requeues_on_time hwhole (.advance 1 :: rushed)
  refine ⟨hwhole, hbefore.clock, ?_, ?_, ?_, ?_⟩
  · exact (hbefore.requeueCount 1).trans (by decide)
  · exact hbefore.outstanding.trans (by decide)
  · exact (congrArg WorkQueue.visible hbefore.items).trans (by decide)
  · exact (congrArg WorkQueue.visible hafter.items).trans (by decide)

end DelayQueue

end Balancer
