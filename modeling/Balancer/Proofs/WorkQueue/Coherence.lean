import Mathlib
import Balancer.Proofs.WorkQueue.Waiting

/-!
# How the lists of a queue fit together

No item is in a list twice. A visible item is pending and nobody processes it, and a pending item
is visible or in processing. Every operation keeps this, provided that only items in processing are
marked as processed: an item that is added while it is processed stays out of view until the end.
-/

namespace Balancer

namespace WorkQueue

variable {α : Type} [DecidableEq α] {queue : WorkQueue α}

/-- The lists of a queue fit together: none has an item twice, and the pending items are the
visible ones, which nobody processes, and some of those in processing. -/
structure Coherent (queue : WorkQueue α) : Prop where
  visible_nodup : queue.visible.Nodup
  pending_nodup : queue.pending.Nodup
  processing_nodup : queue.processing.Nodup
  pending_of_visible : ∀ item ∈ queue.visible, item ∈ queue.pending
  idle_of_visible : ∀ item ∈ queue.visible, item ∉ queue.processing
  sound : queue.Sound

omit [DecidableEq α] in
/-- The lists of a queue without items fit together. -/
theorem coherent_empty : ({} : WorkQueue α).Coherent := by
  constructor <;> simp [Sound]

omit [DecidableEq α] in
/-- Only the three lists count. -/
theorem Coherent.of_eq {other : WorkQueue α} (h : queue.Coherent)
    (hvisible : other.visible = queue.visible) (hpending : other.pending = queue.pending)
    (hprocessing : other.processing = queue.processing) : other.Coherent := by
  obtain ⟨hvisibleNodup, hpendingNodup, hprocessingNodup, hadded, hidle, hsound⟩ := h
  constructor <;> simp_all [Sound]

/-- An added item becomes pending, and visible unless it is processed. -/
theorem Coherent.add (h : queue.Coherent) (item : α) : (queue.add item).Coherent := by
  have hsound := h.sound.add item
  unfold WorkQueue.add at hsound ⊢
  split
  · exact h
  · next hnew =>
    rw [if_neg hnew] at hsound
    have hpending : item ∉ queue.pending := fun hmem => hnew (Or.inr hmem)
    have hvisible : item ∉ queue.visible := fun hmem => hpending (h.pending_of_visible item hmem)
    have hnodup : (item :: queue.pending).Nodup := List.nodup_cons.mpr ⟨hpending, h.pending_nodup⟩
    have hshown : (queue.visible ++ [item]).Nodup :=
      List.concat_eq_append ▸ h.visible_nodup.concat hvisible
    split
    · next hprocessing =>
      rw [if_pos hprocessing] at hsound
      exact ⟨h.visible_nodup, hnodup, h.processing_nodup,
        fun other hother => List.mem_cons_of_mem item (h.pending_of_visible other hother),
        h.idle_of_visible, hsound⟩
    · next hprocessing =>
      rw [if_neg hprocessing] at hsound
      refine ⟨hshown, hnodup, h.processing_nodup, fun other hother => ?_, fun other hother => ?_,
        hsound⟩
      · rcases List.mem_append.mp hother with hother | hother
        · exact List.mem_cons_of_mem item (h.pending_of_visible other hother)
        · exact List.mem_cons.mpr (Or.inl (List.mem_singleton.mp hother))
      · rcases List.mem_append.mp hother with hother | hother
        · exact h.idle_of_visible other hother
        · rwa [List.mem_singleton.mp hother]

/-- Adding several items keeps the lists fitting together. -/
theorem Coherent.addAll (h : queue.Coherent) (items : List α) : (queue.addAll items).Coherent := by
  induction items generalizing queue with
  | nil => exact h
  | cons item rest ih => exact ih (h.add item)

/-- A queue hands out its first visible item, which moves to those in processing. -/
theorem take_eq_some {item : α} {rest : WorkQueue α} (h : queue.take = some (item, rest)) :
    ∃ others, queue.visible = item :: others ∧ rest =
      { queue with
        visible := others
        pending := queue.pending.erase item
        processing := queue.processing.insert item } := by
  unfold take at h
  split at h
  · cases h
  · next first others hvisible =>
    cases h
    exact ⟨others, hvisible, rfl⟩

/-- An item is never handed out while it is processed. -/
theorem Coherent.not_mem_processing (h : queue.Coherent) {item : α} {rest : WorkQueue α}
    (htake : queue.take = some (item, rest)) : item ∉ queue.processing := by
  obtain ⟨others, hvisible, -⟩ := take_eq_some htake
  exact h.idle_of_visible item (by rw [hvisible]; exact List.mem_cons_self)

/-- An item that is handed out is neither visible nor pending any more. -/
theorem Coherent.take (h : queue.Coherent) {item : α} {rest : WorkQueue α}
    (htake : queue.take = some (item, rest)) : rest.Coherent := by
  have hsound := h.sound.take htake
  obtain ⟨others, hvisible, rfl⟩ := take_eq_some htake
  have hnodup : (item :: others).Nodup := hvisible ▸ h.visible_nodup
  have hother : ∀ other ∈ others, other ≠ item ∧ other ∈ queue.visible := by
    intro other hmem
    refine ⟨fun heq => (List.nodup_cons.mp hnodup).1 (heq ▸ hmem), ?_⟩
    rw [hvisible]
    exact List.mem_cons_of_mem item hmem
  refine ⟨(List.nodup_cons.mp hnodup).2, h.pending_nodup.erase item, h.processing_nodup.insert,
    fun other hmem => ?_, fun other hmem hprocessing => ?_, hsound⟩
  · obtain ⟨hne, hshown⟩ := hother other hmem
    exact (List.mem_erase_of_ne hne).mpr (h.pending_of_visible other hshown)
  · obtain ⟨hne, hshown⟩ := hother other hmem
    rcases List.mem_insert_iff.mp hprocessing with heq | hold
    · exact hne heq
    · exact h.idle_of_visible other hshown hold

/-- An item that was added while it was processed becomes visible at the end. -/
theorem Coherent.done (h : queue.Coherent) {item : α} (hitem : item ∈ queue.processing) :
    (queue.done item).Coherent := by
  have hsound := h.sound.done item
  have hvisible : item ∉ queue.visible := fun hmem => h.idle_of_visible item hmem hitem
  have hshown : (queue.visible ++ [item]).Nodup :=
    List.concat_eq_append ▸ h.visible_nodup.concat hvisible
  have hended : item ∉ queue.processing.erase item := h.processing_nodup.not_mem_erase
  have hidle : ∀ other ∈ queue.visible, other ∉ queue.processing.erase item := fun other hother =>
    fun hmem => h.idle_of_visible other hother (List.mem_of_mem_erase hmem)
  unfold WorkQueue.done at hsound ⊢
  by_cases hpending : item ∈ queue.pending
  · rw [if_pos hpending] at hsound ⊢
    refine ⟨hshown, h.pending_nodup, h.processing_nodup.erase item,
      fun other hother => ?_, fun other hother => ?_, hsound⟩
    · rcases List.mem_append.mp hother with hother | hother
      · exact h.pending_of_visible other hother
      · rwa [List.mem_singleton.mp hother]
    · rcases List.mem_append.mp hother with hother | hother
      · exact hidle other hother
      · rwa [List.mem_singleton.mp hother]
  · rw [if_neg hpending] at hsound ⊢
    exact ⟨h.visible_nodup, h.pending_nodup, h.processing_nodup.erase item, h.pending_of_visible,
      hidle, hsound⟩

/-- A pending item is visible, or the end of its processing makes it so. -/
theorem Coherent.mem_pending_iff (h : queue.Coherent) (item : α) :
    item ∈ queue.pending ↔
      item ∈ queue.visible ∨ item ∈ queue.processing ∧ item ∈ (queue.done item).visible := by
  constructor
  · intro hpending
    refine (h.sound item hpending).imp id fun hprocessing => ⟨hprocessing, ?_⟩
    unfold WorkQueue.done
    rw [if_pos hpending]
    exact List.mem_append_right _ (List.mem_singleton_self item)
  · rintro (hvisible | ⟨hprocessing, hdone⟩)
    · exact h.pending_of_visible item hvisible
    · by_contra hpending
      unfold WorkQueue.done at hdone
      rw [if_neg hpending] at hdone
      exact h.idle_of_visible item hdone hprocessing

/-- Additions show some of the added items, behind those that are visible. -/
theorem visible_addAll (queue : WorkQueue α) (items : List α) :
    ∃ shown, shown.Sublist items ∧ (queue.addAll items).visible = queue.visible ++ shown := by
  induction items generalizing queue with
  | nil => exact ⟨[], List.Sublist.refl [], (List.append_nil _).symm⟩
  | cons item rest ih =>
    obtain ⟨shown, hshown, hvisible⟩ := ih (queue.add item)
    change ((queue.add item).addAll rest).visible = _ at hvisible
    rw [visible_add] at hvisible
    split at hvisible
    · exact ⟨shown, hshown.cons item, hvisible⟩
    · exact ⟨item :: shown, hshown.cons_cons item, hvisible.trans (List.append_assoc _ _ _)⟩

/-- Additions show their items behind those that are visible. -/
theorem visible_prefix_addAll (queue : WorkQueue α) (items : List α) :
    queue.visible <+: (queue.addAll items).visible := by
  obtain ⟨shown, -, hvisible⟩ := queue.visible_addAll items
  exact ⟨shown, hvisible.symm⟩

/-- Adding makes at most the item itself pending. -/
theorem pending_add (queue : WorkQueue α) (item : α) :
    (queue.add item).pending =
      if queue.shuttingDown ∨ item ∈ queue.pending then queue.pending
      else item :: queue.pending := by
  unfold add
  split
  · rfl
  · split <;> rfl

/-- Additions make at most the added items pending, and none of them twice. -/
theorem pending_addAll (items : List α) (hpending : queue.pending.Nodup) :
    (queue.addAll items).pending.Nodup ∧
      ∀ item ∈ (queue.addAll items).pending, item ∈ queue.pending ∨ item ∈ items := by
  induction items generalizing queue with
  | nil => exact ⟨hpending, fun item hitem => Or.inl hitem⟩
  | cons first rest ih =>
    have hadded : (queue.add first).pending.Nodup ∧
        ∀ item ∈ (queue.add first).pending, item ∈ queue.pending ∨ item = first := by
      rw [pending_add]
      split
      · exact ⟨hpending, fun item hitem => Or.inl hitem⟩
      · next hnew =>
        refine ⟨List.nodup_cons.mpr ⟨fun hmem => hnew (Or.inr hmem), hpending⟩, ?_⟩
        exact fun item hitem => (List.mem_cons.mp hitem).symm
    obtain ⟨hnodup, hmem⟩ := ih hadded.1
    refine ⟨hnodup, fun item hitem => ?_⟩
    rcases hmem item hitem with hitem | hitem
    · exact (hadded.2 item hitem).imp id fun heq => List.mem_cons.mpr (Or.inl heq)
    · exact Or.inr (List.mem_cons_of_mem first hitem)

/-- Additions start no processing. -/
@[simp] theorem processing_addAll (queue : WorkQueue α) (items : List α) :
    (queue.addAll items).processing = queue.processing := by
  induction items generalizing queue with
  | nil => rfl
  | cons item rest ih =>
    refine (ih (queue.add item)).trans ?_
    unfold add
    split
    · rfl
    · split <;> rfl

/-- Additions count no requeue. -/
@[simp] theorem requeues_addAll (queue : WorkQueue α) (items : List α) :
    (queue.addAll items).requeues = queue.requeues := by
  induction items generalizing queue with
  | nil => rfl
  | cons item rest ih =>
    refine (ih (queue.add item)).trans ?_
    unfold add
    split
    · rfl
    · split <;> rfl

/-- Additions to a queue that is shut down change nothing. -/
theorem addAll_of_shuttingDown (items : List α) (h : queue.shuttingDown = true) :
    queue.addAll items = queue := by
  induction items with
  | nil => rfl
  | cons item rest ih =>
    change (queue.add item).addAll rest = queue
    rw [add_of_shuttingDown queue item h, ih]

/-- The end of the processing of an item shows at most this item, behind the visible ones. -/
theorem visible_prefix_done (queue : WorkQueue α) (item : α) :
    queue.visible <+: (queue.done item).visible := by
  unfold done
  split
  · exact List.prefix_append _ _
  · exact List.prefix_rfl

/-- Additions and the counts of the requeues do not meet. -/
theorem add_countRequeue (queue : WorkQueue α) (item other : α) :
    (queue.countRequeue item).add other = (queue.add other).countRequeue item := by
  let counted := queue.countRequeue item
  by_cases hnew : queue.shuttingDown = true ∨ other ∈ queue.pending
  · have hcounted : counted.shuttingDown = true ∨ other ∈ counted.pending := hnew
    rw [add, if_pos hcounted, add, if_pos hnew]
  have hcounted : ¬(counted.shuttingDown = true ∨ other ∈ counted.pending) := hnew
  by_cases hbusy : other ∈ queue.processing
  · have hbusy' : other ∈ counted.processing := hbusy
    rw [add, if_neg hcounted, if_pos hbusy', add, if_neg hnew, if_pos hbusy]
    rfl
  · have hbusy' : other ∉ counted.processing := hbusy
    rw [add, if_neg hcounted, if_neg hbusy', add, if_neg hnew, if_neg hbusy]
    rfl

/-- Several additions and the counts of the requeues do not meet. -/
theorem addAll_countRequeue (queue : WorkQueue α) (item : α) (items : List α) :
    (queue.countRequeue item).addAll items = (queue.addAll items).countRequeue item := by
  induction items generalizing queue with
  | nil => rfl
  | cons other rest ih =>
    change ((queue.countRequeue item).add other).addAll rest = _
    rw [add_countRequeue, ih]
    rfl

end WorkQueue

end Balancer
