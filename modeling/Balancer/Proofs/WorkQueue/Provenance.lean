import Mathlib
import Balancer.Proofs.WorkQueue.Integrity

/-!
# Items that nobody asked for

A queue lacks an item that is neither visible nor pending nor delayed. It goes on lacking the item
until the item is added or requeued, and meanwhile it does not hand the item out.
-/

namespace Balancer

namespace WorkQueue

variable {α : Type} [DecidableEq α] {queue : WorkQueue α} {item : α}

/-- Whether an item is neither visible nor pending. -/
def Unseen (queue : WorkQueue α) (item : α) : Prop :=
  item ∉ queue.visible ∧ item ∉ queue.pending

/-- The addition of another item shows only that item. -/
theorem Unseen.add (h : queue.Unseen item) {other : α} (hother : item ≠ other) :
    (queue.add other).Unseen item := by
  unfold WorkQueue.add
  split
  · exact h
  · have hpending : item ∉ other :: queue.pending := by simp [hother, h.2]
    split
    · exact ⟨h.1, hpending⟩
    · exact ⟨by simp [hother, h.1], hpending⟩

/-- Additions of other items show only those items. -/
theorem Unseen.addAll (h : queue.Unseen item) {items : List α} (hitems : item ∉ items) :
    (queue.addAll items).Unseen item := by
  induction items generalizing queue with
  | nil => exact h
  | cons other rest ih =>
    obtain ⟨hother, hrest⟩ := not_or.mp (fun hmem => hitems (List.mem_cons.mpr hmem))
    exact ih (h.add hother) hrest

/-- The end of processing shows only items that are pending. -/
theorem Unseen.done (h : queue.Unseen item) (other : α) : (queue.done other).Unseen item := by
  unfold WorkQueue.done
  split
  · next hpending =>
    have hother : item ≠ other := fun heq => h.2 (heq ▸ hpending)
    exact ⟨by simp [hother, h.1], h.2⟩
  · exact h

/-- A queue hands out another item than one that it does not show. -/
theorem Unseen.take (h : queue.Unseen item) {taken : α} {rest : WorkQueue α}
    (htake : queue.take = some (taken, rest)) : taken ≠ item ∧ rest.Unseen item := by
  obtain ⟨others, hvisible, rfl⟩ := take_eq_some htake
  have hshown : item ∉ taken :: others := hvisible ▸ h.1
  obtain ⟨htaken, hothers⟩ := not_or.mp (fun hmem => hshown (List.mem_cons.mpr hmem))
  exact ⟨Ne.symm htaken, hothers, fun hpending => h.2 (List.mem_of_mem_erase hpending)⟩

end WorkQueue

namespace DelayQueue

variable {α : Type} [DecidableEq α] {queue : DelayQueue α} {item : α}

/-- Whether an item is neither visible nor pending nor delayed. -/
structure Lacks (queue : DelayQueue α) (item : α) : Prop where
  unseen : queue.queue.Unseen item
  delayed : ∀ entry ∈ queue.delayed, entry.item ≠ item

omit [DecidableEq α] in
/-- A new queue lacks every item. -/
theorem lacks_fresh (backoff : Backoff) (item : α) : (fresh backoff).Lacks item :=
  ⟨⟨List.not_mem_nil, List.not_mem_nil⟩, fun _ hentry => absurd hentry List.not_mem_nil⟩

/-- Additions of other items. -/
theorem Lacks.addAll (h : queue.Lacks item) {items : List α} (hitems : item ∉ items) :
    (queue.addAll items).Lacks item :=
  ⟨h.unseen.addAll hitems, h.delayed⟩

/-- The addition of another item. -/
theorem Lacks.add (h : queue.Lacks item) {other : α} (hother : item ≠ other) :
    (queue.add other).Lacks item :=
  ⟨h.unseen.add hother, h.delayed⟩

/-- The end of a delay. -/
theorem Lacks.expire (h : queue.Lacks item) (entry : Delayed α) :
    (queue.expire entry).Lacks item := by
  unfold DelayQueue.expire
  split
  · next hentry =>
    refine ⟨h.unseen.add (Ne.symm (h.delayed entry hentry)), fun other hother => ?_⟩
    exact h.delayed other (List.mem_of_mem_erase hother)
  · exact h

/-- The end of all delays that have passed by a moment. -/
theorem Lacks.reach (h : queue.Lacks item) (moment : Nat) : (queue.reach moment).Lacks item := by
  refine ⟨h.unseen.addAll fun hdue => ?_, fun entry hentry => ?_⟩
  · obtain ⟨entry, hentry, heq⟩ := List.mem_map.mp hdue
    exact h.delayed entry (List.mem_of_mem_filter hentry) heq
  · exact h.delayed entry (List.mem_of_mem_filter hentry)

/-- The requeue of another item. -/
theorem Lacks.requeue (h : queue.Lacks item) {other : α} (hother : item ≠ other) :
    (queue.requeue other).Lacks item := by
  unfold DelayQueue.requeue
  split
  · exact h
  · have hcounted : (queue.queue.countRequeue other).Unseen item := h.unseen
    dsimp only
    split
    · exact ⟨hcounted.add hother, h.delayed⟩
    · refine ⟨hcounted, fun entry hentry => ?_⟩
      rcases List.mem_append.mp hentry with hentry | hentry
      · exact h.delayed entry hentry
      · rw [List.mem_singleton.mp hentry]
        exact Ne.symm hother

/-- The reset of the count of any item. -/
theorem Lacks.forget (h : queue.Lacks item) (other : α) : (queue.forget other).Lacks item :=
  ⟨h.unseen, h.delayed⟩

omit [DecidableEq α] in
/-- The end of the queue. -/
theorem Lacks.shutDown (h : queue.Lacks item) : queue.shutDown.Lacks item :=
  ⟨h.unseen, h.delayed⟩

/-- The end of the processing of any item. -/
theorem Lacks.done (h : queue.Lacks item) (other : α) : (queue.done other).Lacks item :=
  ⟨h.unseen.done other, h.delayed⟩

/-- The next item that is handed out is another one. -/
theorem Lacks.take (h : queue.Lacks item) {taken : α} {rest : DelayQueue α}
    (htake : queue.take = some (taken, rest)) : taken ≠ item ∧ rest.Lacks item := by
  obtain ⟨inner, hinner, rfl⟩ := take_eq_some htake
  obtain ⟨htaken, hunseen⟩ := h.unseen.take hinner
  exact ⟨htaken, hunseen, h.delayed⟩

end DelayQueue

end Balancer
