import Mathlib
import Balancer.Proofs.WorkQueue.Coherence
import Balancer.WorkQueue.Consumer

/-!
# How time passes on a queue

The clock stops at each moment when something is due, and all that is due is added there. This comes
to the same as if the milliseconds passed one after the other and at each the items were added that
are due at it. So time may pass in parts, and what is due is added in the millisecond at which it is
due, neither before nor after.

A consumer that waits is served when the clock stops. It makes the calls of a consumer that asks at
each of these moments and does not wait.
-/

namespace Balancer

/-- Something that is done to a queue on a clock. -/
inductive TimedCall (α : Type) where
  | add (item : α)
  | requeue (item : α)
  | take
  | done (item : α)
  | forget (item : α)
  | shutDown
  /-- Milliseconds pass in which nothing is called. -/
  | advance (millis : Nat)
  deriving DecidableEq

namespace WorkQueue

variable {α : Type} [DecidableEq α]

/-- The items that are requested for a moment, in the order of the requests. -/
def dueAt (entries : List (Delayed α)) (moment : Nat) : List α :=
  (entries.filter fun entry => decide (entry.due = moment)).map (·.item)

/-- Let milliseconds pass from a moment on: at each the items that are requested for it are
added. -/
def pass (entries : List (Delayed α)) (moment : Nat) (queue : WorkQueue α) : Nat → WorkQueue α
  | 0 => queue
  | millis + 1 =>
    (pass entries moment queue millis).addAll (dueAt entries (moment + millis + 1))

/-- The passing of time counts no requeue. -/
@[simp] theorem requeues_pass (entries : List (Delayed α)) (moment : Nat) (queue : WorkQueue α)
    (millis : Nat) : (queue.pass entries moment millis).requeues = queue.requeues := by
  induction millis with
  | zero => rfl
  | succ millis ih => exact (requeues_addAll _ _).trans ih

/-- The passing of time does not reopen or close a queue. -/
@[simp] theorem shuttingDown_pass (entries : List (Delayed α)) (moment : Nat)
    (queue : WorkQueue α) (millis : Nat) :
    (queue.pass entries moment millis).shuttingDown = queue.shuttingDown := by
  induction millis with
  | zero => rfl
  | succ millis ih => exact (shuttingDown_addAll _ _).trans ih

/-- Time may pass in two parts. -/
theorem pass_add (entries : List (Delayed α)) (moment : Nat) (queue : WorkQueue α)
    (first second : Nat) :
    queue.pass entries moment (first + second) =
      (queue.pass entries moment first).pass entries (moment + first) second := by
  induction second with
  | zero => rfl
  | succ second ih =>
    have hmoment : moment + (first + second) + 1 = moment + first + second + 1 := by omega
    change (queue.pass entries moment (first + second)).addAll
      (dueAt entries (moment + (first + second) + 1)) = _
    rw [ih, hmoment]
    rfl

/-- Only the requests for the moments that pass matter. -/
theorem pass_congr {entries others : List (Delayed α)} {moment millis : Nat}
    (h : ∀ due, moment < due → due ≤ moment + millis → dueAt entries due = dueAt others due)
    (queue : WorkQueue α) : queue.pass entries moment millis = queue.pass others moment millis := by
  induction millis with
  | zero => rfl
  | succ millis ih =>
    have hearlier := ih fun due hafter hdue => h due hafter (by omega)
    simp only [pass, hearlier, h (moment + millis + 1) (by omega) le_rfl]

/-- Nothing happens while nothing is due. -/
theorem pass_of_idle {entries : List (Delayed α)} {moment millis : Nat}
    (h : ∀ due, moment < due → due ≤ moment + millis → dueAt entries due = [])
    (queue : WorkQueue α) : queue.pass entries moment millis = queue := by
  induction millis with
  | zero => rfl
  | succ millis ih =>
    have hearlier := ih fun due hafter hdue => h due hafter (by omega)
    have hnow := h (moment + millis + 1) (by omega) le_rfl
    rw [pass, hearlier, hnow]
    rfl

omit [DecidableEq α] in
/-- Requests for earlier moments do not matter. -/
theorem dueAt_filter {entries : List (Delayed α)} {moment due : Nat} (h : moment < due) :
    dueAt (entries.filter fun entry => decide (moment < entry.due)) due = dueAt entries due := by
  unfold dueAt
  rw [List.filter_filter]
  congr 2
  funext entry
  by_cases hdue : entry.due = due
  · simp [hdue, h]
  · simp [hdue]

omit [DecidableEq α] in
/-- Nothing is due at a moment which nothing is requested for. -/
theorem dueAt_eq_nil {entries : List (Delayed α)} {due : Nat}
    (h : ∀ entry ∈ entries, entry.due ≠ due) : dueAt entries due = [] := by
  unfold dueAt
  rw [List.map_eq_nil_iff, List.filter_eq_nil_iff]
  simpa using h

end WorkQueue

/-- Whether a call is one of those that a waiting consumer makes. -/
def TimedCall.Patient {α : Type} : TimedCall α → Prop
  | .take | .advance _ => True
  | _ => False

namespace DelayQueue

open WorkQueue (dueAt)

variable {α : Type} [DecidableEq α] {queue : DelayQueue α}

/-- The queue after milliseconds that pass one after the other. -/
def elapse (queue : DelayQueue α) (millis : Nat) : DelayQueue α :=
  { queue with
    queue := queue.queue.pass queue.delayed queue.clock millis
    clock := queue.clock + millis
    delayed := queue.delayed.filter fun entry => decide (queue.clock + millis < entry.due) }

/-- Time may pass in two parts. -/
theorem elapse_add (queue : DelayQueue α) (first second : Nat) :
    queue.elapse (first + second) = (queue.elapse first).elapse second := by
  have hpassed : ∀ due, queue.clock + first < due → due ≤ queue.clock + first + second →
      dueAt queue.delayed due = dueAt (queue.elapse first).delayed due := fun due hlate _ =>
    (WorkQueue.dueAt_filter hlate).symm
  have hqueue : queue.queue.pass queue.delayed queue.clock (first + second) =
      ((queue.elapse first).elapse second).queue := by
    rw [WorkQueue.pass_add, WorkQueue.pass_congr hpassed]
    rfl
  have hdelayed : (queue.delayed.filter fun entry =>
      decide (queue.clock + (first + second) < entry.due)) =
        ((queue.elapse first).elapse second).delayed := by
    change _ = (queue.delayed.filter fun entry => decide (queue.clock + first < entry.due)).filter
      fun entry => decide (queue.clock + first + second < entry.due)
    rw [List.filter_filter]
    apply List.filter_congr
    intro entry _
    rw [← Bool.decide_and, decide_eq_decide]
    omega
  rw [elapse, hqueue, hdelayed, ← Nat.add_assoc]
  rfl

/-- The stops on the way of the clock: they ascend from now on, and between them nothing is due. -/
structure Paced (queue : DelayQueue α) (stops : List Nat) : Prop where
  ahead : ∀ entry ∈ queue.delayed, queue.clock < entry.due
  ascending : (queue.clock :: stops).Pairwise (· ≤ ·)
  complete : ∀ entry ∈ queue.delayed, ∀ stop ∈ stops, entry.due ≤ stop → entry.due ∈ stops

omit [DecidableEq α] in
/-- Nothing is due before the first stop. -/
theorem Paced.due_eq {stop : Nat} {rest : List Nat} (h : queue.Paced (stop :: rest)) :
    ∀ entry ∈ queue.delayed, entry.due ≤ stop → entry.due = stop := by
  intro entry hentry hdue
  have hascending := (List.pairwise_cons.mp (List.pairwise_cons.mp h.ascending).2).1
  rcases List.mem_cons.mp (h.complete entry hentry stop List.mem_cons_self hdue) with heq | hrest
  · exact heq
  · exact le_antisymm hdue (hascending _ hrest)

/-- Reaching the first stop is the passing of the milliseconds until then. -/
theorem Paced.reach_eq {stop : Nat} {rest : List Nat} (h : queue.Paced (stop :: rest)) :
    queue.reach stop = queue.elapse (stop - queue.clock) := by
  have hclock : queue.clock ≤ stop :=
    (List.pairwise_cons.mp h.ascending).1 stop List.mem_cons_self
  have hfirst := h.due_eq
  obtain ⟨millis, rfl⟩ := Nat.exists_eq_add_of_le hclock
  have hdue : (queue.dueBy (queue.clock + millis)).map (·.item) =
      dueAt queue.delayed (queue.clock + millis) := by
    unfold dueBy dueAt
    congr 1
    apply List.filter_congr
    intro entry hentry
    exact decide_eq_decide.mpr ⟨hfirst entry hentry, fun heq => heq.le⟩
  have hqueue : queue.queue.addAll (dueAt queue.delayed (queue.clock + millis)) =
      queue.queue.pass queue.delayed queue.clock millis := by
    cases millis with
    | zero =>
      have hnone : dueAt queue.delayed queue.clock = [] :=
        WorkQueue.dueAt_eq_nil fun entry hentry => (h.ahead entry hentry).ne'
      rw [Nat.add_zero, hnone]
      rfl
    | succ millis =>
      have hidle : queue.queue.pass queue.delayed queue.clock millis = queue.queue := by
        apply WorkQueue.pass_of_idle
        intro due _ hdue
        apply WorkQueue.dueAt_eq_nil
        intro entry hentry heq
        have hnow := hfirst entry hentry (by omega)
        omega
      rw [WorkQueue.pass, hidle]
      rfl
  rw [Nat.add_sub_cancel_left, reach, reachAdding, hdue, hqueue]
  rfl

/-- The other stops lie ahead when the first one is reached. -/
theorem Paced.tail {stop : Nat} {rest : List Nat} (h : queue.Paced (stop :: rest)) :
    (queue.reach stop).Paced rest := by
  have hleft : ∀ entry ∈ (queue.reach stop).delayed, entry ∈ queue.delayed ∧ stop < entry.due := by
    intro entry hentry
    simpa [reach, reachAdding] using hentry
  refine ⟨fun entry hentry => (hleft entry hentry).2, (List.pairwise_cons.mp h.ascending).2,
    fun entry hentry other hother hdue => ?_⟩
  obtain ⟨hmem, hlate⟩ := hleft entry hentry
  have hstop := h.complete entry hmem other (List.mem_cons_of_mem stop hother) hdue
  exact (List.mem_cons.mp hstop).resolve_left hlate.ne'

/-- To go through all the stops is to let the milliseconds pass until the last one. -/
theorem Paced.foldl_reach {last : Nat} (stops : List Nat) (h : queue.Paced (stops ++ [last])) :
    (stops ++ [last]).foldl reach queue = queue.elapse (last - queue.clock) := by
  induction stops generalizing queue with
  | nil => exact h.reach_eq
  | cons stop rest ih =>
    have hclock : queue.clock ≤ stop :=
      (List.pairwise_cons.mp h.ascending).1 stop List.mem_cons_self
    have hstop : stop ≤ last :=
      (List.pairwise_cons.mp h.tail.ascending).1 last (by simp)
    calc ((stop :: rest) ++ [last]).foldl reach queue
        = (queue.reach stop).elapse (last - stop) := ih h.tail
      _ = (queue.elapse (stop - queue.clock)).elapse (last - stop) := by rw [h.reach_eq]
      _ = queue.elapse (last - queue.clock) := by
          rw [← elapse_add]
          congr 1
          omega

omit [DecidableEq α] in
/-- The moments when something is due are such stops. -/
theorem paced_moments {last : Nat} (hahead : ∀ entry ∈ queue.delayed, queue.clock < entry.due)
    (hlast : queue.clock ≤ last) : queue.Paced (queue.moments last ++ [last]) := by
  have hmem : ∀ stop, stop ∈ queue.moments last ↔
      (∃ entry ∈ queue.delayed, entry.due = stop) ∧ stop ≤ last := by
    intro stop
    simp [moments]
  have hsorted : (queue.moments last).Pairwise (· ≤ ·) := by
    have htrans : ∀ a b c : Nat, decide (a ≤ b) = true → decide (b ≤ c) = true →
        decide (a ≤ c) = true := by
      simpa using fun a b c => Nat.le_trans
    have htotal : ∀ a b : Nat, (decide (a ≤ b) || decide (b ≤ a)) = true := by
      simpa using Nat.le_total
    have hsorted := List.pairwise_mergeSort htrans htotal
      ((queue.delayed.map (·.due)).filter fun due => decide (due ≤ last))
    simpa [moments] using hsorted
  refine ⟨hahead, List.pairwise_cons.mpr ⟨fun stop hstop => ?_, ?_⟩, ?_⟩
  · rcases List.mem_append.mp hstop with hstop | hstop
    · obtain ⟨⟨entry, hentry, rfl⟩, -⟩ := (hmem stop).mp hstop
      exact (hahead entry hentry).le
    · rwa [List.mem_singleton.mp hstop]
  · refine List.pairwise_append.mpr ⟨hsorted, List.pairwise_singleton _ _, ?_⟩
    intro stop hstop other hother
    rw [List.mem_singleton.mp hother]
    exact ((hmem stop).mp hstop).2
  · intro entry hentry stop hstop hdue
    apply List.mem_append_left
    refine (hmem entry.due).mpr ⟨⟨entry, hentry, rfl⟩, hdue.trans ?_⟩
    rcases List.mem_append.mp hstop with hstop | hstop
    · exact ((hmem stop).mp hstop).2
    · exact (List.mem_singleton.mp hstop).le

/-- When time passes, the queue does what it does when the milliseconds pass one after the
other. -/
theorem advanceTo_eq (millis : Nat) (hahead : ∀ entry ∈ queue.delayed, queue.clock < entry.due) :
    queue.advanceTo (queue.clock + millis) = queue.elapse millis := by
  have hpaced := paced_moments hahead (Nat.le_add_right queue.clock millis)
  have hreached := hpaced.foldl_reach
  rw [Nat.add_sub_cancel_left, List.foldl_append] at hreached
  exact hreached

/-- The queue after it was called. -/
def called (queue : DelayQueue α) : TimedCall α → DelayQueue α
  | .add item => queue.add item
  | .requeue item => queue.requeue item
  | .take => (queue.take.map Prod.snd).getD queue
  | .done item => queue.done item
  | .forget item => queue.forget item
  | .shutDown => queue.shutDown
  | .advance millis => queue.advanceTo (queue.clock + millis)

/-- The queue after a history, which lists the calls with the latest first. -/
def during (start : DelayQueue α) : List (TimedCall α) → DelayQueue α
  | [] => start
  | call :: earlier => (start.during earlier).called call

/-- A history that continues an earlier one. -/
theorem during_append (start : DelayQueue α) (later earlier : List (TimedCall α)) :
    start.during (later ++ earlier) = (start.during earlier).during later := by
  induction later with
  | nil => rfl
  | cons call later ih => exact congrArg (·.called call) ih

/-- To ask for an item touches neither the clock nor what is delayed. -/
theorem called_take (queue : DelayQueue α) :
    queue.called .take =
      { queue with queue := (queue.queue.take.map Prod.snd).getD queue.queue } := by
  unfold called take
  cases queue.queue.take <;> rfl

/-- The first stop is reached when time passes. -/
theorem Paced.called_advance {stop : Nat} {rest : List Nat} (h : queue.Paced (stop :: rest)) :
    queue.called (.advance (stop - queue.clock)) = queue.reach stop :=
  (advanceTo_eq _ h.ahead).trans h.reach_eq.symm

/-- A consumer that asks is answered as by a call, and nothing happens if there is no answer yet. -/
theorem poll_spec (queue : DelayQueue α) :
    queue.poll.2 = queue.called .take ∧ (queue.poll.1 = .pending → queue.poll.2 = queue) := by
  unfold poll called
  cases queue.take with
  | none => exact ⟨rfl, fun _ => rfl⟩
  | some taken => exact ⟨rfl, fun hpending => by cases hpending⟩

/-- A consumer that asks at each stop makes the calls of a consumer that does not wait. -/
theorem Paced.exists_during_pollAt {stops : List Nat} (h : queue.Paced stops) :
    ∃ calls, (∀ call ∈ calls, call.Patient) ∧ (queue.pollAt stops).2 = queue.during calls := by
  induction stops generalizing queue with
  | nil => exact ⟨[.take], by simp [TimedCall.Patient], queue.poll_spec.1⟩
  | cons stop rest ih =>
    obtain ⟨hcalled, hpending⟩ := queue.poll_spec
    unfold pollAt
    split
    · next after hpoll =>
      rw [hpoll] at hpending
      obtain rfl : after = queue := hpending rfl
      obtain ⟨calls, hpatient, hduring⟩ := ih h.tail
      refine ⟨calls ++ [.advance (stop - after.clock)], ?_, ?_⟩
      · intro call hcall
        rcases List.mem_append.mp hcall with hcall | hcall
        · exact hpatient call hcall
        · rw [List.mem_singleton.mp hcall]
          trivial
      · rw [during_append, hduring, during, during, h.called_advance]
    · exact ⟨[.take], by simp [TimedCall.Patient], hcalled⟩

/-- A consumer that stays at the queue asks, or it does nothing. -/
theorem serve_cases (queue : DelayQueue α) (consumer : Consumer α) :
    (queue.serve consumer).1 = queue ∨ (queue.serve consumer).1 = queue.called .take := by
  obtain ⟨hcalled, hpending⟩ := queue.poll_spec
  unfold serve
  split
  · split
    · exact Or.inl (by simp_all)
    · exact Or.inr (by simp_all)
  · exact Or.inl rfl

/-- To serve a consumer that stays at the queue is at most one call. -/
theorem exists_during_serve (queue : DelayQueue α) (consumer : Consumer α) :
    ∃ calls, (∀ call ∈ calls, call.Patient) ∧
      (queue.serve consumer).1 = queue.during calls := by
  rcases queue.serve_cases consumer with hsame | htaken
  · exact ⟨[], by simp, hsame⟩
  · exact ⟨[.take], by simp [TimedCall.Patient], htaken⟩

/-- To serve such a consumer does not change the way of the clock. -/
theorem Paced.serve {stops : List Nat} (h : queue.Paced stops) (consumer : Consumer α) :
    (queue.serve consumer).1.Paced stops := by
  rcases queue.serve_cases consumer with hsame | htaken
  · rwa [hsame]
  · rw [htaken, called_take]
    exact ⟨h.ahead, h.ascending, h.complete⟩

/-- A consumer that stays at the queue while time passes makes such calls as well. -/
theorem Paced.exists_during_serving {stops : List Nat} (h : queue.Paced stops)
    (consumer : Consumer α) :
    ∃ calls, (∀ call ∈ calls, call.Patient) ∧
      (stops.foldl (fun state due => (state.1.reach due).serve state.2)
        (queue.serve consumer)).1 = queue.during calls := by
  induction stops generalizing queue consumer with
  | nil => exact queue.exists_during_serve consumer
  | cons stop rest ih =>
    obtain ⟨first, hfirst, hserve⟩ := queue.exists_during_serve consumer
    obtain ⟨later, hlater, hduring⟩ := ih (h.serve consumer).tail (queue.serve consumer).2
    have hreached := (h.serve consumer).called_advance
    refine ⟨later ++ .advance (stop - (queue.serve consumer).1.clock) :: first, ?_, ?_⟩
    · intro call hcall
      rcases List.mem_append.mp hcall with hcall | hcall
      · exact hlater call hcall
      rcases List.mem_cons.mp hcall with rfl | hcall
      · trivial
      · exact hfirst call hcall
    · rw [during_append, during, ← hserve, hreached]
      exact hduring

end DelayQueue

end Balancer
