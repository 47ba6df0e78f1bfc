import Mathlib
import Balancer.WorkQueue.Delayed

/-!
# Items that wait

An item waits while it is pending or delayed. Until the queue is shut down, an added or requeued
item waits, and only the handing out of the item itself ends its waiting. So nothing waits any
more once the queue is quiescent.
-/

namespace Balancer

namespace WorkQueue

variable {α : Type} [DecidableEq α] {queue : WorkQueue α}

/-- Every pending item is visible, or becomes so when its processing is done. -/
def Sound (queue : WorkQueue α) : Prop :=
  ∀ item ∈ queue.pending, item ∈ queue.visible ∨ item ∈ queue.processing

/-- Adding an item does not reopen or close the queue. -/
@[simp] theorem shuttingDown_add (queue : WorkQueue α) (item : α) :
    (queue.add item).shuttingDown = queue.shuttingDown := by
  unfold add
  split
  · rfl
  · split <;> rfl

/-- An added item is pending besides those pending before. -/
theorem mem_pending_add_of_mem {item other : α} (h : other ∈ queue.pending) :
    other ∈ (queue.add item).pending := by
  unfold add
  split
  · exact h
  · split <;> exact List.mem_cons_of_mem item h

/-- Adding several items does not reopen or close the queue. -/
@[simp] theorem shuttingDown_addAll (queue : WorkQueue α) (items : List α) :
    (queue.addAll items).shuttingDown = queue.shuttingDown := by
  induction items generalizing queue with
  | nil => rfl
  | cons item rest ih => exact (ih (queue.add item)).trans (shuttingDown_add queue item)

/-- Items that may be added are pending afterwards. -/
theorem mem_pending_addAll (items : List α) (other : α) (hopen : queue.shuttingDown = false) :
    other ∈ (queue.addAll items).pending ↔ other ∈ items ∨ other ∈ queue.pending := by
  induction items generalizing queue with
  | nil => simp [addAll]
  | cons item rest ih =>
    have hrest := @ih (queue.add item) (by rwa [shuttingDown_add])
    rw [mem_pending_add queue item other hopen] at hrest
    rw [List.mem_cons, or_assoc, or_left_comm]
    exact hrest

/-- An added item is visible, in processing, or pending already. -/
theorem Sound.add (hqueue : queue.Sound) (item : α) : (queue.add item).Sound := by
  intro other hother
  unfold WorkQueue.add at hother ⊢
  split at hother
  · next h => rw [if_pos h]; exact hqueue other hother
  · next h =>
    rw [if_neg h]
    split at hother
    · next hprocessing =>
      rw [if_pos hprocessing]
      rcases List.mem_cons.mp hother with rfl | hold
      · exact Or.inr hprocessing
      · exact hqueue other hold
    · next hprocessing =>
      rw [if_neg hprocessing]
      rcases List.mem_cons.mp hother with rfl | hold
      · exact Or.inl (List.mem_append_right _ (List.mem_singleton_self other))
      · exact (hqueue other hold).imp (List.mem_append_left _) id

/-- Adding several items keeps the pending items in view. -/
theorem Sound.addAll (hqueue : queue.Sound) (items : List α) : (queue.addAll items).Sound := by
  induction items generalizing queue with
  | nil => exact hqueue
  | cons item rest ih => exact ih (hqueue.add item)

/-- Handing out an item keeps the pending items in view: it moves to those in processing. -/
theorem Sound.take (hqueue : queue.Sound) {item : α} {rest : WorkQueue α}
    (h : queue.take = some (item, rest)) : rest.Sound := by
  unfold WorkQueue.take at h
  split at h
  · cases h
  · next first others hvisible =>
    cases h
    intro other hother
    have hview := hqueue other (List.mem_of_mem_erase hother)
    rw [hvisible] at hview
    rcases hview with hvisible | hprocessing
    · rcases List.mem_cons.mp hvisible with rfl | hothers
      · exact Or.inr List.mem_insert_self
      · exact Or.inl hothers
    · exact Or.inr (List.mem_insert_of_mem hprocessing)

/-- The end of processing keeps the pending items in view: the item itself becomes visible. -/
theorem Sound.done (hqueue : queue.Sound) (item : α) : (queue.done item).Sound := by
  intro other hother
  unfold WorkQueue.done at hother ⊢
  by_cases hpending : item ∈ queue.pending
  · simp only [if_pos hpending] at hother ⊢
    by_cases hsame : other = item
    · subst hsame
      exact Or.inl (List.mem_append_right _ (List.mem_singleton_self other))
    · refine (hqueue other hother).imp (List.mem_append_left _) fun hprocessing => ?_
      exact (List.mem_erase_of_ne hsame).mpr hprocessing
  · simp only [if_neg hpending] at hother ⊢
    have hsame : other ≠ item := fun heq => hpending (heq ▸ hother)
    exact (hqueue other hother).imp id (List.mem_erase_of_ne hsame).mpr

/-- The items that stay pending when one is handed out. -/
theorem mem_pending_take {item other : α} {rest : WorkQueue α}
    (h : queue.take = some (item, rest)) (hother : other ∈ queue.pending) (hne : other ≠ item) :
    other ∈ rest.pending := by
  unfold take at h
  split at h
  · cases h
  · cases h
    exact (List.mem_erase_of_ne hne).mpr hother

/-- The end of processing leaves the pending items pending. -/
@[simp] theorem pending_done (queue : WorkQueue α) (item : α) :
    (queue.done item).pending = queue.pending := by
  unfold done
  split <;> rfl

/-- The end of processing does not reopen or close the queue. -/
@[simp] theorem shuttingDown_done (queue : WorkQueue α) (item : α) :
    (queue.done item).shuttingDown = queue.shuttingDown := by
  unfold done
  split <;> rfl

/-- The end of the processing of an item. -/
@[simp] theorem processing_done (queue : WorkQueue α) (item : α) :
    (queue.done item).processing = queue.processing.erase item := by
  unfold done
  split <;> rfl

/-- The end of the processing of an item leaves the counts of requeues alone. -/
@[simp] theorem requeues_done (queue : WorkQueue α) (item : α) :
    (queue.done item).requeues = queue.requeues := by
  unfold done
  split <;> rfl

/-- Handing out an item does not reopen or close the queue. -/
theorem shuttingDown_take {item : α} {rest : WorkQueue α} (h : queue.take = some (item, rest)) :
    rest.shuttingDown = queue.shuttingDown := by
  unfold take at h
  split at h
  · cases h
  · cases h
    rfl

end WorkQueue

namespace DelayQueue

variable {α : Type} [DecidableEq α] {queue : DelayQueue α}

/-- Whether an item is pending, or is going to be once its delay has passed. -/
def Waits (queue : DelayQueue α) (item : α) : Prop :=
  item ∈ queue.queue.pending ∨ ∃ entry ∈ queue.delayed, entry.item = item

/-- Nothing is visible, in processing or delayed, and further items are accepted. -/
structure Quiescent (queue : DelayQueue α) : Prop where
  visible : queue.queue.visible = []
  processing : queue.queue.processing = []
  delayed : queue.delayed = []
  accepting : queue.queue.shuttingDown = false

instance (queue : DelayQueue α) : Decidable queue.Quiescent :=
  decidable_of_iff
    (queue.queue.visible = [] ∧ queue.queue.processing = [] ∧ queue.delayed = [] ∧
      queue.queue.shuttingDown = false)
    ⟨fun h => ⟨h.1, h.2.1, h.2.2.1, h.2.2.2⟩,
      fun h => ⟨h.visible, h.processing, h.delayed, h.accepting⟩⟩

omit [DecidableEq α] in
/-- Nothing waits in a quiescent queue. -/
theorem Quiescent.not_waits (h : queue.Quiescent) (hqueue : queue.queue.Sound) (item : α) :
    ¬queue.Waits item := by
  intro hwaits
  rcases hwaits with hpending | ⟨entry, hentry, -⟩
  · have hview := hqueue item hpending
    rw [h.visible, h.processing] at hview
    simp at hview
  · rw [h.delayed] at hentry
    cases hentry

/-- What an operation on the queue keeps: the queue stays open if it was, its pending items stay
in view, and what waits goes on waiting. -/
structure Extends (before after : DelayQueue α) : Prop where
  shuttingDown : after.queue.shuttingDown = before.queue.shuttingDown
  sound : before.queue.Sound → after.queue.Sound
  waits : before.queue.shuttingDown = false → ∀ item, before.Waits item → after.Waits item

omit [DecidableEq α] in
/-- Doing nothing keeps everything. -/
theorem Extends.refl (queue : DelayQueue α) : queue.Extends queue :=
  ⟨rfl, id, fun _ _ => id⟩

omit [DecidableEq α] in
/-- Operations that follow each other keep what each of them keeps. -/
theorem Extends.trans {first second third : DelayQueue α} (h : first.Extends second)
    (h' : second.Extends third) : first.Extends third := by
  refine ⟨h'.shuttingDown.trans h.shuttingDown, h'.sound ∘ h.sound, fun hopen item hitem => ?_⟩
  exact h'.waits (h.shuttingDown.trans hopen) item (h.waits hopen item hitem)

/-- Adding an item lets the others wait. -/
theorem extends_add (queue : DelayQueue α) (item : α) : queue.Extends (queue.add item) := by
  refine ⟨queue.queue.shuttingDown_add item, fun hqueue => hqueue.add item, fun _ other => ?_⟩
  exact Or.imp WorkQueue.mem_pending_add_of_mem id

/-- An added item waits. -/
theorem waits_add (hopen : queue.queue.shuttingDown = false) (item : α) :
    (queue.add item).Waits item :=
  Or.inl ((WorkQueue.mem_pending_add queue.queue item item hopen).mpr (Or.inl rfl))

/-- Adding several items lets the others wait. -/
theorem extends_addAll (queue : DelayQueue α) (items : List α) :
    queue.Extends (queue.addAll items) := by
  induction items generalizing queue with
  | nil => exact .refl queue
  | cons item rest ih => exact (queue.extends_add item).trans (ih (queue.add item))

/-- Each of several added items waits. -/
theorem waits_addAll (hopen : queue.queue.shuttingDown = false) {items : List α} {item : α}
    (hitem : item ∈ items) : (queue.addAll items).Waits item :=
  Or.inl ((WorkQueue.mem_pending_addAll items item hopen).mpr (Or.inl hitem))

/-- Resetting the count of an item lets the others wait. -/
theorem extends_forget (queue : DelayQueue α) (item : α) : queue.Extends (queue.forget item) :=
  ⟨rfl, id, fun _ _ => id⟩

/-- The end of processing lets every item wait. -/
theorem extends_done (queue : DelayQueue α) (item : α) : queue.Extends (queue.done item) := by
  refine ⟨queue.queue.shuttingDown_done item, fun hqueue => hqueue.done item, fun _ other => ?_⟩
  refine Or.imp (fun hpending => ?_) id
  exact (queue.queue.pending_done item).symm ▸ hpending

/-- A requeue adds the item at once, or delays it. -/
theorem extends_requeue (queue : DelayQueue α) (item : α) : queue.Extends (queue.requeue item) := by
  unfold requeue
  split
  · exact .refl queue
  · dsimp only
    split
    · have hcounted : queue.Extends { queue with queue := queue.queue.countRequeue item } :=
        ⟨rfl, id, fun _ _ => id⟩
      exact hcounted.trans (extends_add _ item)
    · refine ⟨rfl, id, fun _ other hother => ?_⟩
      rcases hother with hpending | ⟨entry, hentry, heq⟩
      · exact Or.inl hpending
      · exact Or.inr ⟨entry, List.mem_append_left _ hentry, heq⟩

/-- A requeued item waits. -/
theorem waits_requeue (hopen : queue.queue.shuttingDown = false) (item : α) :
    (queue.requeue item).Waits item := by
  unfold requeue
  rw [if_neg (by rw [hopen]; exact Bool.false_ne_true)]
  dsimp only
  split
  · have hcounted : (queue.queue.countRequeue item).shuttingDown = false := hopen
    exact Or.inl ((WorkQueue.mem_pending_add _ item item hcounted).mpr (Or.inl rfl))
  · exact Or.inr ⟨_, List.mem_append_right _ (List.mem_singleton_self _), rfl⟩

/-- Reaching a moment makes the items that are due pending. -/
theorem extends_reach (queue : DelayQueue α) (moment : Nat) :
    queue.Extends (queue.reach moment) := by
  refine ⟨queue.queue.shuttingDown_addAll _, fun hqueue => hqueue.addAll _, ?_⟩
  intro hopen item hwaits
  rcases hwaits with hpending | ⟨entry, hentry, rfl⟩
  · exact Or.inl ((WorkQueue.mem_pending_addAll _ item hopen).mpr (Or.inr hpending))
  · by_cases hdue : entry.due ≤ moment
    · refine Or.inl ((WorkQueue.mem_pending_addAll _ _ hopen).mpr (Or.inl ?_))
      exact List.mem_map_of_mem (List.mem_filter.mpr ⟨hentry, decide_eq_true hdue⟩)
    · refine Or.inr ⟨entry, List.mem_filter.mpr ⟨hentry, decide_eq_true ?_⟩, rfl⟩
      omega

/-- The delay of one item passes, whatever the clock says. -/
def expire (queue : DelayQueue α) (entry : Delayed α) : DelayQueue α :=
  if entry ∈ queue.delayed then
    { queue with queue := queue.queue.add entry.item, delayed := queue.delayed.erase entry }
  else queue

/-- An item whose delay has passed is pending. -/
theorem extends_expire (queue : DelayQueue α) (entry : Delayed α) :
    queue.Extends (queue.expire entry) := by
  unfold expire
  split
  · refine ⟨queue.queue.shuttingDown_add _, fun hqueue => hqueue.add _, ?_⟩
    intro hopen item hwaits
    rcases hwaits with hpending | ⟨other, hother, rfl⟩
    · exact Or.inl (WorkQueue.mem_pending_add_of_mem hpending)
    · by_cases hsame : other = entry
      · subst hsame
        exact Or.inl ((WorkQueue.mem_pending_add _ _ _ hopen).mpr (Or.inl rfl))
      · exact Or.inr ⟨other, (List.mem_erase_of_ne hsame).mpr hother, rfl⟩
  · exact .refl queue

/-- Handing out an item touches neither the clock nor what is delayed. -/
theorem take_eq_some {item : α} {rest : DelayQueue α} (h : queue.take = some (item, rest)) :
    ∃ inner, queue.queue.take = some (item, inner) ∧ rest = { queue with queue := inner } := by
  obtain ⟨⟨taken, inner⟩, htake, heq⟩ := Option.map_eq_some_iff.mp h
  cases heq
  exact ⟨inner, htake, rfl⟩

/-- A queue hands out an item as long as one is visible. -/
theorem take_eq_none_iff (queue : DelayQueue α) :
    queue.take = none ↔ queue.queue.visible = [] :=
  Option.map_eq_none_iff.trans (WorkQueue.take_eq_none_iff _)

/-- Handing out an item lets the other ones wait. -/
theorem waits_take {item other : α} {rest : DelayQueue α} (h : queue.take = some (item, rest))
    (hother : queue.Waits other) (hne : other ≠ item) : rest.Waits other := by
  obtain ⟨inner, htake, rfl⟩ := take_eq_some h
  exact hother.imp (fun hpending => WorkQueue.mem_pending_take htake hpending hne) id

/-- Handing out an item does not reopen or close the queue, and keeps the pending items in view. -/
theorem sound_take {item : α} {rest : DelayQueue α} (h : queue.take = some (item, rest)) :
    rest.queue.shuttingDown = queue.queue.shuttingDown ∧
      (queue.queue.Sound → rest.queue.Sound) := by
  obtain ⟨inner, htake, rfl⟩ := take_eq_some h
  exact ⟨WorkQueue.shuttingDown_take htake, fun hqueue => hqueue.take htake⟩

end DelayQueue

end Balancer
