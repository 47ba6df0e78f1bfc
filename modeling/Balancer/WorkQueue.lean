import Balancer.Word

/-!
# The work queue

A queue of items without duplicates. An item is pending from the moment it is added until it is
handed out; adding a pending item changes nothing. An item that is added while it is being
processed becomes visible when its processing is done, so it is never handed out twice at the
same time. After shutdown nothing is added any more, and the visible items are still handed out.

Each item has a count of its requeues since it was last forgotten.
-/

namespace Balancer

/-- The greatest requeue count; it stays there. -/
def requeueLimit : Nat :=
  word32Count - 1

/-- A work queue. `visible` lists the items to hand out, in order; `pending` the items that were
added and not handed out since; `processing` the items handed out and not done. -/
structure WorkQueue (α : Type) where
  visible : List α := []
  pending : List α := []
  processing : List α := []
  requeues : List (α × Nat) := []
  shuttingDown : Bool := false
  deriving DecidableEq

namespace WorkQueue

variable {α : Type} [DecidableEq α]

/-- Add an item. -/
def add (queue : WorkQueue α) (item : α) : WorkQueue α :=
  if queue.shuttingDown ∨ item ∈ queue.pending then queue
  else if item ∈ queue.processing then { queue with pending := item :: queue.pending }
  else { queue with pending := item :: queue.pending, visible := queue.visible ++ [item] }

/-- Add several items in order. -/
def addAll (queue : WorkQueue α) (items : List α) : WorkQueue α :=
  items.foldl add queue

/-- Hand out the first visible item. -/
def take (queue : WorkQueue α) : Option (α × WorkQueue α) :=
  match queue.visible with
  | [] => none
  | item :: rest =>
    some (item,
      { queue with
        visible := rest
        pending := queue.pending.erase item
        processing := queue.processing.insert item })

/-- Mark an item as processed; it becomes visible if it was added meanwhile. -/
def done (queue : WorkQueue α) (item : α) : WorkQueue α :=
  let rest := { queue with processing := queue.processing.erase item }
  if item ∈ queue.pending then { rest with visible := queue.visible ++ [item] } else rest

/-- The number of requeues of an item since it was last forgotten. -/
def requeueCount (queue : WorkQueue α) (item : α) : Nat :=
  (queue.requeues.lookup item).getD 0

/-- Count one more requeue of an item. -/
def countRequeue (queue : WorkQueue α) (item : α) : WorkQueue α :=
  { queue with
    requeues := (item, min (queue.requeueCount item + 1) requeueLimit) ::
      queue.requeues.filter fun entry => decide (entry.1 ≠ item) }

/-- Reset the requeue count of an item. -/
def forget (queue : WorkQueue α) (item : α) : WorkQueue α :=
  { queue with requeues := queue.requeues.filter fun entry => decide (entry.1 ≠ item) }

/-- Accept no further items. -/
def shutDown (queue : WorkQueue α) : WorkQueue α :=
  { queue with shuttingDown := true }

/-- Whether no item is visible. -/
def isEmpty (queue : WorkQueue α) : Bool :=
  queue.visible.isEmpty

/-- Adding to a queue that is shut down changes nothing. -/
theorem add_of_shuttingDown (queue : WorkQueue α) (item : α) (h : queue.shuttingDown = true) :
    queue.add item = queue := by
  simp [add, h]

/-- An item that may be added is pending afterwards. -/
theorem mem_pending_add (queue : WorkQueue α) (item other : α)
    (h : queue.shuttingDown = false) :
    other ∈ (queue.add item).pending ↔ other = item ∨ other ∈ queue.pending := by
  unfold add
  by_cases hpending : item ∈ queue.pending
  · simp only [hpending, or_true, if_true]
    constructor
    · exact Or.inr
    · rintro (rfl | hother)
      · exact hpending
      · exact hother
  · split
    · simp_all
    · split <;> simp

/-- Adding shows at most the item itself, at the end. -/
theorem visible_add (queue : WorkQueue α) (item : α) :
    (queue.add item).visible =
      if queue.shuttingDown ∨ item ∈ queue.pending ∨ item ∈ queue.processing then queue.visible
      else queue.visible ++ [item] := by
  unfold add
  split
  · next h => rw [if_pos (h.imp id Or.inl)]
  · next h =>
    rw [not_or] at h
    split
    · next hprocessing => rw [if_pos (Or.inr (Or.inr hprocessing))]
    · next hprocessing => simp [h.1, h.2, hprocessing]

/-- A queue hands out its first visible item. -/
theorem take_eq_none_iff (queue : WorkQueue α) : queue.take = none ↔ queue.visible = [] := by
  unfold take
  split <;> simp_all

/-- Looking up an item among the entries of other items. -/
theorem lookup_filter_ne (entries : List (α × Nat)) (item other : α) :
    (entries.filter fun entry => decide (entry.1 ≠ item)).lookup other =
      if other = item then none else entries.lookup other := by
  induction entries with
  | nil => simp
  | cons entry rest ih =>
    obtain ⟨key, count⟩ := entry
    by_cases hkey : key = item
    · subst hkey
      rw [List.filter_cons_of_neg (by simp), ih]
      by_cases h : other = key
      · simp [h]
      · have hb : (other == key) = false := by simpa using h
        rw [if_neg h, if_neg h, List.lookup_cons, hb]
    · rw [List.filter_cons_of_pos (by simpa using hkey), List.lookup_cons, List.lookup_cons]
      by_cases h : other = key
      · have hitem : other ≠ item := fun e => hkey (h.symm.trans e)
        have hb : (other == key) = true := by simpa using h
        rw [hb, if_neg hitem]
      · have hb : (other == key) = false := by simpa using h
        rw [hb]
        exact ih

/-- The count of an item after one more requeue. -/
theorem requeueCount_countRequeue (queue : WorkQueue α) (item other : α) :
    (queue.countRequeue item).requeueCount other =
      if other = item then min (queue.requeueCount item + 1) requeueLimit
      else queue.requeueCount other := by
  by_cases h : other = item
  · simp [countRequeue, requeueCount, h]
  · have hb : (other == item) = false := by simpa using h
    simp only [countRequeue, requeueCount, List.lookup_cons, hb, if_neg h]
    rw [lookup_filter_ne, if_neg h]

/-- The count of an item after one was forgotten. -/
theorem requeueCount_forget (queue : WorkQueue α) (item other : α) :
    (queue.forget item).requeueCount other =
      if other = item then 0 else queue.requeueCount other := by
  simp only [forget, requeueCount]
  rw [lookup_filter_ne]
  split <;> rfl

end WorkQueue

end Balancer
