import Mathlib
import Balancer.Proofs.WorkQueue.Coherence

/-!
# The integrity of the queue

Producers, timers and consumers use a queue in any order, and any number of items may be held at
once. A consumer marks an item as processed only if it was handed the item and has not marked it
since, and then the lists of the queue fit together throughout.

So the items are handed out in the order in which they became visible, and each item exactly once
for every addition that did not find it pending.
-/

namespace Balancer

/-- Something that is done to a queue. -/
inductive QueueEvent (α : Type) where
  /-- A producer adds an item. -/
  | add (item : α)
  /-- A producer adds an item behind its backoff delay. -/
  | requeue (item : α)
  /-- The delay of one item passes. -/
  | expire (entry : Delayed α)
  /-- The clock moves, and the delays that have passed by then end in the order of the requests. -/
  | reach (moment : Nat)
  /-- A consumer asks for an item. -/
  | take
  /-- A consumer marks an item as processed. -/
  | done (item : α)
  /-- The requeues of an item are forgotten. -/
  | forget (item : α)
  /-- The queue accepts no further items. -/
  | shutDown
  deriving DecidableEq

namespace DelayQueue

variable {α : Type} [DecidableEq α] {queue : DelayQueue α}

/-- The queue after something was done to it. -/
def after (queue : DelayQueue α) : QueueEvent α → DelayQueue α
  | .add item => queue.add item
  | .requeue item => queue.requeue item
  | .expire entry => queue.expire entry
  | .reach moment => queue.reach moment
  | .take => (queue.take.map Prod.snd).getD queue
  | .done item => queue.done item
  | .forget item => queue.forget item
  | .shutDown => queue.shutDown

/-- The queue after a history, which lists what was done with the latest first. -/
def through (start : DelayQueue α) : List (QueueEvent α) → DelayQueue α
  | [] => start
  | event :: earlier => (start.through earlier).after event

/-- The items that are added at an event, in order. A requeue adds its item at once if there is no
delay. -/
def adds (queue : DelayQueue α) : QueueEvent α → List α
  | .add item => [item]
  | .requeue item => if queue.backoff.delay (queue.requeueCount item) = 0 then [item] else []
  | .expire entry => if queue.delayed.contains entry then [entry.item] else []
  | .reach moment => (queue.dueBy moment).map (·.item)
  | _ => []

/-- The items that are handed out at an event. -/
def hands (queue : DelayQueue α) : QueueEvent α → List α
  | .take => (queue.take.map Prod.fst).toList
  | _ => []

/-- The items that are visible after an event and were not before, in order. -/
def shows (queue : DelayQueue α) (event : QueueEvent α) : List α :=
  (queue.after event).queue.visible.filter fun item => decide (item ∉ queue.queue.visible)

/-- The items that were handed out in a history, in order. -/
def handed (start : DelayQueue α) : List (QueueEvent α) → List α
  | [] => []
  | event :: earlier => start.handed earlier ++ (start.through earlier).hands event

/-- The items that became visible in a history, in order. -/
def shown (start : DelayQueue α) : List (QueueEvent α) → List α
  | [] => []
  | event :: earlier => start.shown earlier ++ (start.through earlier).shows event

/-- Whether an event adds an item that is not pending to a queue that accepts it. -/
def Renews (queue : DelayQueue α) (item : α) (event : QueueEvent α) : Prop :=
  queue.queue.shuttingDown = false ∧ item ∉ queue.queue.pending ∧ item ∈ queue.adds event

instance (queue : DelayQueue α) (item : α) (event : QueueEvent α) :
    Decidable (queue.Renews item event) :=
  inferInstanceAs (Decidable (_ ∧ _ ∧ _))

/-- How often in a history an item was added that was not pending. -/
def renewals (start : DelayQueue α) (item : α) : List (QueueEvent α) → Nat
  | [] => 0
  | event :: earlier =>
    start.renewals item earlier + if (start.through earlier).Renews item event then 1 else 0

/-- Whether a consumer may do something: an item is marked as processed only if it was handed out
more often than it was marked. -/
def Permits (start : DelayQueue α) (earlier : List (QueueEvent α)) : QueueEvent α → Prop
  | .done item => earlier.count (.done item) < (start.handed earlier).count item
  | _ => True

/-- Everything in a history was permitted when it was done. -/
def Permitted (start : DelayQueue α) : List (QueueEvent α) → Prop
  | [] => True
  | event :: earlier => start.Permitted earlier ∧ start.Permits earlier event

instance (start : DelayQueue α) (earlier : List (QueueEvent α)) (event : QueueEvent α) :
    Decidable (start.Permits earlier event) :=
  match event with
  | .done item => inferInstanceAs (Decidable (earlier.count (.done item) < _))
  | .add _ | .requeue _ | .expire _ | .reach _ | .take | .forget _ | .shutDown => .isTrue trivial

instance decidablePermitted (start : DelayQueue α) :
    (history : List (QueueEvent α)) → Decidable (start.Permitted history)
  | [] => .isTrue trivial
  | event :: earlier =>
    have := decidablePermitted start earlier
    inferInstanceAs (Decidable (start.Permitted earlier ∧ start.Permits earlier event))

/-- A history that continues an earlier one. -/
theorem through_append (start : DelayQueue α) (later earlier : List (QueueEvent α)) :
    start.through (later ++ earlier) = (start.through earlier).through later := by
  induction later with
  | nil => rfl
  | cons event later ih => exact congrArg (·.after event) ih

/-- A requeue is counted, and the item is added at once if there is no delay. -/
theorem queue_requeue (queue : DelayQueue α) (hopen : queue.queue.shuttingDown = false) (item : α) :
    (queue.requeue item).queue =
      (queue.queue.countRequeue item).addAll (queue.adds (.requeue item)) := by
  by_cases hdelay : queue.backoff.delay (queue.requeueCount item) = 0
  · have hadds : queue.adds (.requeue item) = [item] := if_pos hdelay
    unfold requeueCount at hdelay
    simp [requeue, hopen, hdelay, hadds, WorkQueue.addAll]
  · have hadds : queue.adds (.requeue item) = [] := if_neg hdelay
    unfold requeueCount at hdelay
    simp [requeue, hopen, hdelay, hadds, WorkQueue.addAll]

/-- Besides the consumers, everything acts on the lists of the queue as the additions do. -/
theorem lists_after (queue : DelayQueue α) {event : QueueEvent α} (htake : event ≠ .take)
    (hdone : ∀ item, event ≠ .done item) :
    (queue.after event).queue.visible = (queue.queue.addAll (queue.adds event)).visible ∧
      (queue.after event).queue.pending = (queue.queue.addAll (queue.adds event)).pending ∧
      (queue.after event).queue.processing = queue.queue.processing := by
  rw [← WorkQueue.processing_addAll queue.queue (queue.adds event)]
  cases event with
  | add item => exact ⟨rfl, rfl, rfl⟩
  | requeue item =>
    cases hshut : queue.queue.shuttingDown with
    | true =>
      rw [WorkQueue.addAll_of_shuttingDown _ hshut]
      simp [after, requeue, hshut]
    | false =>
      have hafter : (queue.after (.requeue item)).queue = _ := queue.queue_requeue hshut item
      rw [hafter, WorkQueue.addAll_countRequeue]
      exact ⟨rfl, rfl, rfl⟩
  | expire entry =>
    by_cases hentry : entry ∈ queue.delayed
    · simp [after, expire, adds, hentry, WorkQueue.addAll]
    · simp [after, expire, adds, hentry, WorkQueue.addAll]
  | reach moment => exact ⟨rfl, rfl, rfl⟩
  | take => exact absurd rfl htake
  | done item => exact absurd rfl (hdone item)
  | forget item => exact ⟨rfl, rfl, rfl⟩
  | shutDown => exact ⟨rfl, rfl, rfl⟩

/-- What becomes of the queue when a consumer asks for an item: nothing if no item is visible, and
otherwise the first one is handed out. -/
theorem take_cases (queue : DelayQueue α) :
    queue.hands .take = [] ∧ queue.after .take = queue ∨
      ∃ item rest, queue.queue.take = some (item, rest) ∧ queue.hands .take = [item] ∧
        (queue.after .take).queue = rest := by
  simp only [hands, after, take]
  cases queue.queue.take with
  | none => exact Or.inl ⟨rfl, rfl⟩
  | some taken => exact Or.inr ⟨taken.1, taken.2, rfl, rfl, rfl⟩

/-- Every permitted event keeps the lists fitting together. -/
theorem coherent_after (h : queue.queue.Coherent) {event : QueueEvent α}
    (hdone : ∀ item, event = .done item → item ∈ queue.queue.processing) :
    (queue.after event).queue.Coherent := by
  by_cases htake : event = .take
  · subst htake
    rcases queue.take_cases with ⟨-, hafter⟩ | ⟨item, rest, htake, -, hafter⟩
    · rwa [hafter]
    · rw [hafter]
      exact h.take htake
  by_cases hmark : ∃ item, event = .done item
  · obtain ⟨item, rfl⟩ := hmark
    exact h.done (hdone item rfl)
  · obtain ⟨hvisible, hpending, hprocessing⟩ :=
      queue.lists_after htake fun item heq => hmark ⟨item, heq⟩
    have hadded := h.addAll (queue.adds event)
    refine hadded.of_eq hvisible hpending ?_
    rw [hprocessing, WorkQueue.processing_addAll]

/-- The end of a list without repetitions is what a beginning of it lacks. -/
theorem filter_not_mem_of_prefix {before after : List α} (h : before <+: after)
    (hnodup : after.Nodup) :
    before ++ after.filter (fun item => decide (item ∉ before)) = after := by
  obtain ⟨rest, rfl⟩ := h
  have hrest : ∀ item ∈ rest, item ∉ before := fun item hitem hbefore =>
    (List.nodup_append.mp hnodup).2.2 item hbefore item hitem rfl
  rw [List.filter_append, List.filter_eq_nil_iff.mpr (by simp),
    List.filter_eq_self.mpr (by simpa using hrest), List.nil_append]

/-- Items are handed out from the front of the visible ones, and shown at the end. -/
theorem hands_append_visible {event : QueueEvent α}
    (hafter : (queue.after event).queue.Coherent) :
    queue.hands event ++ (queue.after event).queue.visible =
      queue.queue.visible ++ queue.shows event := by
  by_cases htake : event = .take
  · subst htake
    rcases queue.take_cases with ⟨hhands, hsame⟩ | ⟨item, rest, htake, hhands, hsame⟩
    · simp [hhands, hsame, shows]
    · obtain ⟨others, hvisible, hrest⟩ := WorkQueue.take_eq_some htake
      have hothers : (queue.after .take).queue.visible = others := by rw [hsame, hrest]
      have hshows : queue.shows .take = [] := by
        rw [shows, hothers, hvisible, List.filter_eq_nil_iff]
        simp +contextual
      rw [hhands, hothers, hshows, hvisible, List.append_nil, List.singleton_append]
  have hhands : queue.hands event = [] := by
    cases event <;> first | rfl | exact absurd rfl htake
  have hprefix : queue.queue.visible <+: (queue.after event).queue.visible := by
    by_cases hmark : ∃ item, event = .done item
    · obtain ⟨item, rfl⟩ := hmark
      exact queue.queue.visible_prefix_done item
    · rw [(queue.lists_after htake fun item heq => hmark ⟨item, heq⟩).1]
      exact queue.queue.visible_prefix_addAll _
  rw [hhands, List.nil_append, shows, filter_not_mem_of_prefix hprefix hafter.visible_nodup]

/-- An event that is no taking hands nothing out. -/
theorem hands_eq_nil {event : QueueEvent α} (htake : event ≠ .take) : queue.hands event = [] := by
  cases event with
  | take => exact absurd rfl htake
  | _ => rfl

/-- What is pending after an event that is no taking: besides what was pending, what is added. -/
theorem mem_pending_after {event : QueueEvent α} (htake : event ≠ .take) (item : α) :
    item ∈ (queue.after event).queue.pending ↔
      item ∈ queue.queue.pending ∨
        queue.queue.shuttingDown = false ∧ item ∈ queue.adds event := by
  by_cases hmark : ∃ item, event = .done item
  · obtain ⟨item, rfl⟩ := hmark
    simp [after, done, adds]
  · rw [(queue.lists_after htake fun item heq => hmark ⟨item, heq⟩).2.1]
    cases hshut : queue.queue.shuttingDown with
    | true => simp [WorkQueue.addAll_of_shuttingDown _ hshut]
    | false => simp [WorkQueue.mem_pending_addAll _ _ hshut, or_comm]

/-- An item is handed out of those pending, and renewed into them. -/
theorem count_hands_add_pending (h : queue.queue.Coherent) {event : QueueEvent α}
    (hafter : (queue.after event).queue.Coherent) (item : α) :
    (queue.hands event).count item + (queue.after event).queue.pending.count item =
      queue.queue.pending.count item + if queue.Renews item event then 1 else 0 := by
  by_cases htake : event = .take
  · subst htake
    have hrenews : ¬queue.Renews item .take := fun hrenews => by cases hrenews.2.2
    rw [if_neg hrenews, Nat.add_zero]
    rcases queue.take_cases with ⟨hhands, hsame⟩ | ⟨taken, rest, htake, hhands, hsame⟩
    · rw [hhands, hsame, List.count_nil, Nat.zero_add]
    · obtain ⟨others, hvisible, rfl⟩ := WorkQueue.take_eq_some htake
      have htaken : taken ∈ queue.queue.pending :=
        h.pending_of_visible taken (hvisible ▸ List.mem_cons_self)
      have hperm := (List.perm_cons_erase htaken).count_eq item
      rw [hhands, hsame, ← List.count_append]
      exact hperm.symm
  · rw [hands_eq_nil htake, List.count_nil, Nat.zero_add, h.pending_nodup.count,
      hafter.pending_nodup.count]
    simp only [mem_pending_after htake, Renews]
    by_cases hpending : item ∈ queue.queue.pending <;> simp [hpending]

/-- An item is handed out into those in processing, and marked out of them. -/
theorem count_hands_add_processing (h : queue.queue.Coherent) {event : QueueEvent α}
    (hdone : ∀ item, event = .done item → item ∈ queue.queue.processing) (item : α) :
    (queue.hands event).count item + queue.queue.processing.count item =
      [event].count (.done item) + (queue.after event).queue.processing.count item := by
  by_cases htake : event = .take
  · subst htake
    have hcount : [QueueEvent.take].count (.done item) = 0 := by simp
    rw [hcount, Nat.zero_add]
    rcases queue.take_cases with ⟨hhands, hsame⟩ | ⟨taken, rest, htake, hhands, hsame⟩
    · rw [hhands, hsame, List.count_nil, Nat.zero_add]
    · have hidle := h.not_mem_processing htake
      obtain ⟨others, hvisible, rfl⟩ := WorkQueue.take_eq_some htake
      rw [hhands, hsame, List.insert_of_not_mem hidle, ← List.count_append]
      rfl
  rw [hands_eq_nil htake, List.count_nil, Nat.zero_add]
  by_cases hmark : ∃ item, event = .done item
  · obtain ⟨marked, rfl⟩ := hmark
    have hprocessing : (queue.after (.done marked)).queue.processing =
        queue.queue.processing.erase marked := by
      simp only [after, done, WorkQueue.done]
      split <;> rfl
    have hperm := (List.perm_cons_erase (hdone marked rfl)).count_eq item
    rw [hprocessing, hperm, List.count_cons, List.count_singleton, Nat.add_comm]
    simp only [beq_iff_eq, QueueEvent.done.injEq]
  · have hcount : [event].count (.done item) = 0 := by
      rw [List.count_eq_zero, List.mem_singleton]
      exact fun heq => hmark ⟨item, heq.symm⟩
    rw [(queue.lists_after htake fun item heq => hmark ⟨item, heq⟩).2.2, hcount, Nat.zero_add]

/-- A new queue, without items. -/
def fresh (backoff : Backoff) : DelayQueue α :=
  { backoff }

/-- What a history from a new queue has brought about: the lists fit together, the items in
processing are those handed out and not marked since, what was handed out and what is visible
together are what became visible, and each item was handed out once for each time it was added
anew, unless it is pending. -/
structure Tallied (start : DelayQueue α) (history : List (QueueEvent α)) : Prop where
  coherent : (start.through history).queue.Coherent
  held : ∀ item, (start.handed history).count item =
    history.count (.done item) + (start.through history).queue.processing.count item
  ordered : start.handed history ++ (start.through history).queue.visible = start.shown history
  renewed : ∀ item, (start.handed history).count item +
    (start.through history).queue.pending.count item = start.renewals item history

/-- Where the books agree, an item that may be marked is in processing. -/
theorem Tallied.mem_processing {start : DelayQueue α} {history : List (QueueEvent α)}
    (h : start.Tallied history) {event : QueueEvent α} (hpermits : start.Permits history event) :
    ∀ item, event = .done item → item ∈ (start.through history).queue.processing := by
  rintro item rfl
  have hheld := h.held item
  change _ < _ at hpermits
  exact List.count_pos_iff.mp (by omega)

/-- Every permitted event keeps the books. -/
theorem Tallied.after {start : DelayQueue α} {history : List (QueueEvent α)}
    (h : start.Tallied history) {event : QueueEvent α} (hpermits : start.Permits history event) :
    start.Tallied (event :: history) := by
  have hdone := h.mem_processing hpermits
  have hcoherent := coherent_after h.coherent hdone
  refine ⟨hcoherent, fun item => ?_, ?_, fun item => ?_⟩
  · have hstep := count_hands_add_processing h.coherent hdone item
    have hheld := h.held item
    have hdones : (event :: history).count (.done item) =
        history.count (.done item) + [event].count (.done item) := by
      rw [List.count_cons, List.count_singleton]
    rw [hdones]
    simp only [handed, through, List.count_append]
    omega
  · simp only [handed, shown, through]
    rw [List.append_assoc, hands_append_visible hcoherent, ← List.append_assoc, h.ordered]
  · have hstep := count_hands_add_pending h.coherent hcoherent item
    have hrenewed := h.renewed item
    simp only [handed, renewals, through, List.count_append]
    omega

/-- Every permitted history from a new queue keeps the books. -/
theorem tallied_through (backoff : Backoff) {history : List (QueueEvent α)}
    (h : (fresh backoff).Permitted history) : (fresh backoff).Tallied history := by
  induction history with
  | nil =>
    refine ⟨WorkQueue.coherent_empty, fun item => ?_, rfl, fun item => ?_⟩
    · simp [handed, through, fresh]
    · simp [handed, renewals, through, fresh]
  | cons event earlier ih => exact (ih h.1).after h.2

/-- A pending item stays pending until it is handed out. -/
theorem mem_handed_or_pending {item : α} (hitem : item ∈ queue.queue.pending)
    (later : List (QueueEvent α)) :
    item ∈ queue.handed later ∨ item ∈ (queue.through later).queue.pending := by
  induction later with
  | nil => exact Or.inr hitem
  | cons event earlier ih =>
    rcases ih with hhanded | hpending
    · exact Or.inl (List.mem_append_left _ hhanded)
    by_cases htake : event = .take
    · subst htake
      simp only [handed, through]
      rcases (queue.through earlier).take_cases with
        ⟨-, hsame⟩ | ⟨taken, rest, htake, hhands, hsame⟩
      · rw [hsame]
        exact Or.inr hpending
      · rw [hsame, hhands]
        by_cases heq : item = taken
        · exact Or.inl (List.mem_append_right _ (List.mem_singleton.mpr heq))
        · exact Or.inr (WorkQueue.mem_pending_take htake hpending heq)
    · exact Or.inr ((mem_pending_after htake item).mpr (Or.inl hpending))

/-- What can be relied on after a history from a new queue. -/
structure Intact (start : DelayQueue α) (history : List (QueueEvent α)) : Prop where
  /-- No item is visible twice. -/
  visible_nodup : (start.through history).queue.visible.Nodup
  /-- No visible item is in processing. -/
  idle : ∀ item ∈ (start.through history).queue.visible,
    item ∉ (start.through history).queue.processing
  /-- An item was handed out as often as it was marked as processed, and once more if it is in
  processing. -/
  held : ∀ item, (start.handed history).count item = history.count (.done item) +
    if item ∈ (start.through history).queue.processing then 1 else 0
  /-- An item is pending if it is visible or the end of its processing would make it so. -/
  pending_iff : ∀ item, item ∈ (start.through history).queue.pending ↔
    item ∈ (start.through history).queue.visible ∨
      item ∈ (start.through history).queue.processing ∧
        item ∈ ((start.through history).done item).queue.visible
  /-- The item that is handed out next is not in processing. -/
  exclusive : ∀ item rest, (start.through history).take = some (item, rest) →
    item ∉ (start.through history).queue.processing
  /-- The items were handed out in the order in which they became visible, and those that were not
  handed out are visible in this order. -/
  ordered : start.handed history ++ (start.through history).queue.visible = start.shown history
  /-- An item was handed out once for each addition that did not find it pending, except for the
  last one if it is pending. -/
  once : ∀ item, (start.handed history).count item +
    (if item ∈ (start.through history).queue.pending then 1 else 0) = start.renewals item history
  /-- Whatever was added before the end of the queue was handed out since or is pending. -/
  kept : ∀ later event earlier item, history = later ++ event :: earlier →
    (start.through earlier).queue.shuttingDown = false → item ∈ (start.through earlier).adds event →
      item ∈ (start.through (event :: earlier)).handed later ∨
        item ∈ (start.through history).queue.pending

/-- However producers, timers and consumers interleave, and however many items are held at once, no
item is lost, doubled or handed out while it is processed. -/
theorem intact_through (backoff : Backoff) {history : List (QueueEvent α)}
    (h : (fresh backoff).Permitted history) : (fresh backoff).Intact history := by
  have htallied := tallied_through backoff h
  have hcoherent := htallied.coherent
  refine ⟨hcoherent.visible_nodup, hcoherent.idle_of_visible, fun item => ?_,
    hcoherent.mem_pending_iff, fun item rest htake => ?_, htallied.ordered, fun item => ?_, ?_⟩
  · rw [htallied.held, hcoherent.processing_nodup.count]
  · obtain ⟨inner, hinner, -⟩ := take_eq_some htake
    exact hcoherent.not_mem_processing hinner
  · rw [← htallied.renewed, hcoherent.pending_nodup.count]
  · rintro later event earlier item rfl hopen hadds
    rw [through_append]
    have htake : event ≠ .take := by
      rintro rfl
      cases hadds
    exact mem_handed_or_pending ((mem_pending_after htake item).mpr (Or.inr ⟨hopen, hadds⟩)) later

/-- Two items are held at once, one of them is added twice meanwhile, the other one is requeued, and
the queue is shut down while an item is visible. -/
def readded : List (QueueEvent String) :=
  [.take, .shutDown, .reach 60000, .done "b", .requeue "b", .take, .done "a", .take, .add "a",
    .add "a", .take, .add "b", .add "a"]

/-- The item that was added twice while it was held is handed out again after its processing. -/
theorem intact_through_readded :
    (fresh (α := String) .standard).Permitted readded ∧
      (fresh (α := String) .standard).Intact readded ∧
      (fresh (α := String) .standard).handed readded = ["a", "b", "a", "b"] := by
  have hpermitted : (fresh (α := String) .standard).Permitted readded := by decide +kernel
  exact ⟨hpermitted, intact_through .standard hpermitted, by decide +kernel⟩

end DelayQueue

end Balancer
