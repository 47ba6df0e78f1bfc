import Mathlib
import Balancer.Store

/-!
# Updates that are based on a version

Several writers call the store in any order. A writer reads an object, changes it and persists it,
and the store takes the update if it still holds an object in the version that was read. The version
goes up by one with every write, but the store forgets it when the object is deleted.

So an update is refused if the object was written since it was read, with one exception: the object
was deleted and has been written again up to the same version. Then the update overwrites what its
writer has never seen.
-/

namespace Balancer

/-- The part of an object that an update persists. -/
inductive Portion where
  /-- The kind, the annotations and the ports. -/
  | declared
  /-- The published status. -/
  | status
  deriving DecidableEq

/-- A stored object with one part of another one. -/
def Portion.carry : Portion → Service → Service → Service
  | .declared, basis, stored =>
    { stored with kind := basis.kind, annotations := basis.annotations, ports := basis.ports }
  | .status, basis, stored => { stored with ingress := basis.ingress }

/-- A call of the store. -/
inductive StoreCall where
  | put (service : Service)
  | delete (id : ServiceId)
  | update (portion : Portion) (basis : Service)
  | failWrites (failing : Bool)
  | setNodes (nodes : List String)
  | record (id : ServiceId) (event : ServiceEvent)

/-- What a call does to the object of a service. -/
inductive StoreEffect where
  | written
  | removed
  deriving DecidableEq

/-- The version of an object after an effect: a removed object has none, and a written one has the
next version, beginning with one. -/
def StoreEffect.version : StoreEffect → Option Nat → Option Nat
  | .written, held => some (held.getD 0 + 1)
  | .removed, _ => none

namespace Store

/-- Persist a part of an object. -/
def persist (store : Store) : Portion → Service → Except StoreError (Service × Store)
  | .declared, basis => store.update basis
  | .status, basis => store.updateStatus basis

/-- The store after a call. -/
def after (store : Store) : StoreCall → Store
  | .put service => (store.put service).2
  | .delete id => (store.delete id).2
  | .update portion basis =>
    match store.persist portion basis with
    | .ok (_, written) => written
    | .error _ => store
  | .failWrites writesFailing => { store with writesFailing }
  | .setNodes nodes => { store with nodes }
  | .record id event => store.record id event

/-- The store after a history, which lists the calls with the latest first. -/
def through (start : Store) : List StoreCall → Store
  | [] => start
  | call :: earlier => (start.through earlier).after call

/-- The version in which an object is stored. -/
def heldVersion (store : Store) (id : ServiceId) : Option Nat :=
  (store.get? id).map Service.version

/-- The effect of a call on the object of a service, if the call changes what is stored there. -/
def effect (store : Store) (id : ServiceId) (call : StoreCall) : Option StoreEffect :=
  if (store.after call).get? id = store.get? id then none
  else if ((store.after call).get? id).isSome then some .written
  else some .removed

/-- The effects of a history on the object of a service, the latest first. -/
def effects (start : Store) (id : ServiceId) : List StoreCall → List StoreEffect
  | [] => []
  | call :: earlier =>
    ((start.through earlier).effect id call).toList ++ start.effects id earlier

/-- Whether a store holds an object for a service and is otherwise as before. -/
structure Replaces (before : Store) (object : Service) (id : ServiceId) (after : Store) :
    Prop where
  object : after.get? id = some object
  others : ∀ other, other ≠ id → after.get? other = before.get? other
  nodes : after.nodes = before.nodes
  events : after.events = before.events
  writesFailing : after.writesFailing = before.writesFailing

variable {store : Store} {id : ServiceId}

/-- Persisting a part of an object is a write that carries this part over. -/
theorem persist_eq_write (store : Store) (portion : Portion) (basis : Service) :
    store.persist portion basis = store.write basis (portion.carry basis) := by
  cases portion <;> rfl

/-- A part of an object is persisted exactly if the store takes writes and holds the object in the
version that the update is based on. -/
theorem persist_eq_ok_iff (store : Store) (portion : Portion) (basis : Service) :
    (∃ result, store.persist portion basis = .ok result) ↔
      store.writesFailing = false ∧ store.heldVersion basis.id = some basis.version := by
  rw [persist_eq_write]
  simp only [Prod.exists, write_eq_ok_iff, heldVersion, Option.map_eq_some_iff]
  constructor
  · rintro ⟨_, _, htakes, stored, hstored, hversion, -⟩
    exact ⟨htakes, stored, hstored, hversion⟩
  · rintro ⟨htakes, stored, hstored, hversion⟩
    exact ⟨_, _, htakes, stored, hstored, hversion, rfl, rfl⟩

/-- What an update does that succeeds: the stored object gets one part of the given one and the next
version, and nothing else changes. -/
theorem replaces_of_persist {portion : Portion} {basis written : Service} {after : Store}
    (h : store.persist portion basis = .ok (written, after)) :
    ∃ stored, store.get? basis.id = some stored ∧
      written = { portion.carry basis stored with version := stored.version + 1 } ∧
      store.Replaces written basis.id after := by
  rw [persist_eq_write, write_eq_ok_iff] at h
  obtain ⟨-, stored, hstored, -, hwritten, rfl⟩ := h
  refine ⟨stored, hstored, hwritten, ?_, fun other hother => ?_, rfl, rfl, rfl⟩
  · exact Std.ExtTreeMap.getElem?_insert_self
  · simp only [get?, Std.ExtTreeMap.getElem?_insert, Std.LawfulEqOrd.compare_eq_iff_eq,
      if_neg (Ne.symm hother)]

/-- A call that changes nothing about an object has no effect on it. -/
theorem effect_of_eq {call : StoreCall} (h : (store.after call).get? id = store.get? id) :
    store.effect id call = none :=
  if_pos h

/-- A call that stores an object in the next version has written it. -/
theorem effect_of_written {call : StoreCall} {object : Service}
    (hobject : (store.after call).get? id = some object)
    (hversion : object.version = store.versionOf id + 1) :
    store.effect id call = some .written := by
  have hchanged : (store.after call).get? id ≠ store.get? id := by
    rw [hobject]
    intro hsame
    rw [versionOf, ← hsame] at hversion
    exact absurd hversion (Nat.ne_of_lt (Nat.lt_succ_self _))
  rw [effect, if_neg hchanged, if_pos (Option.isSome_of_eq_some hobject)]

/-- A put writes the object that it puts, whatever is stored. -/
theorem effect_put (store : Store) (service : Service) (id : ServiceId) :
    store.effect id (.put service) = if id = service.id then some .written else none := by
  have hafter := store.get?_put service id
  split
  · next hid =>
    rw [if_pos hid] at hafter
    exact effect_of_written hafter (hid ▸ rfl)
  · next hid =>
    rw [if_neg hid] at hafter
    exact effect_of_eq hafter

/-- A deletion removes an object that is stored. -/
theorem effect_delete (store : Store) (deleted id : ServiceId) :
    store.effect id (.delete deleted) =
      if id = deleted ∧ (store.get? id).isSome then some .removed else none := by
  have hafter := store.get?_delete deleted id
  split
  · next h =>
    rw [if_pos h.1] at hafter
    have hchanged : (store.after (.delete deleted)).get? id ≠ store.get? id := by
      intro hsame
      have hnone : store.get? id = none := hsame.symm.trans hafter
      rw [hnone] at h
      cases h.2
    have hgone : ¬((store.after (.delete deleted)).get? id).isSome := by
      simp only [after, hafter, Option.isSome_none, Bool.false_eq_true, not_false_eq_true]
    rw [effect, if_neg hchanged, if_neg hgone]
  · next h =>
    refine effect_of_eq (hafter.trans ?_)
    split
    · next hid =>
      have hnone : ¬(store.get? id).isSome := fun hsome => h ⟨hid, hsome⟩
      exact (Option.not_isSome_iff_eq_none.mp hnone).symm
    · rfl

/-- An update that succeeds writes the object that it is based on, and one that fails does
nothing. -/
theorem effect_update (store : Store) (portion : Portion) (basis : Service) (id : ServiceId) :
    store.effect id (.update portion basis) =
      match store.persist portion basis with
      | .ok _ => if id = basis.id then some .written else none
      | .error _ => none := by
  cases hpersist : store.persist portion basis with
  | error error => exact effect_of_eq (by simp only [after, hpersist])
  | ok result =>
    obtain ⟨written, rest⟩ := result
    obtain ⟨stored, hstored, hwritten, hreplaces⟩ := replaces_of_persist hpersist
    have hafter : store.after (.update portion basis) = rest := by simp only [after, hpersist]
    dsimp only
    split
    · next hid =>
      subst hid
      refine effect_of_written (hafter ▸ hreplaces.object) ?_
      rw [hwritten, versionOf, hstored]
      rfl
    · next hid => exact effect_of_eq (hafter ▸ hreplaces.others id hid)

/-- The version of an object follows from the one before and the effect of the call. -/
theorem heldVersion_after (store : Store) (id : ServiceId) (call : StoreCall) :
    (store.after call).heldVersion id =
      (store.effect id call).toList.foldr StoreEffect.version (store.heldVersion id) := by
  cases call with
  | put service =>
    rw [effect_put, heldVersion, after, get?_put]
    split
    · next hid =>
      subst hid
      rfl
    · rfl
  | delete deleted =>
    rw [effect_delete, heldVersion, heldVersion, after, get?_delete]
    by_cases hid : id = deleted
    · cases store.get? id with
      | none => simp
      | some object => simp [hid, StoreEffect.version]
    · simp [hid]
  | update portion basis =>
    rw [effect_update]
    cases hpersist : store.persist portion basis with
    | error error =>
      simp only [after, hpersist]
      rfl
    | ok result =>
      obtain ⟨written, rest⟩ := result
      obtain ⟨stored, hstored, hwritten, hreplaces⟩ := replaces_of_persist hpersist
      simp only [after, hpersist]
      by_cases hid : id = basis.id
      · rw [if_pos hid, hid, heldVersion, heldVersion, hreplaces.object, hstored, hwritten]
        rfl
      · rw [if_neg hid, heldVersion, hreplaces.others id hid]
        rfl
  | _ => rw [effect_of_eq rfl]; rfl

/-- The version of an object follows from the one at the start and the effects of the history. -/
theorem heldVersion_through (start : Store) (id : ServiceId) (history : List StoreCall) :
    (start.through history).heldVersion id =
      (start.effects id history).foldr StoreEffect.version (start.heldVersion id) := by
  induction history with
  | nil => rfl
  | cons call earlier ih =>
    simp only [through, effects, List.foldr_append]
    rw [heldVersion_after, ih]

end Store

namespace StoreEffect

/-- Whether an object was removed and has been written again since, up to a version. -/
def Restored (version : Nat) (effects : List StoreEffect) : Prop :=
  0 < version ∧ ∃ earlier, effects = List.replicate version .written ++ .removed :: earlier

/-- Every write adds one to the version. -/
theorem foldr_replicate_written (count : Nat) (held : Option Nat) :
    (List.replicate count StoreEffect.written).foldr version held =
      if count = 0 then held else some (held.getD 0 + count) := by
  induction count with
  | zero => rfl
  | succ count ih =>
    rw [List.replicate_succ, List.foldr_cons, ih, if_neg (Nat.succ_ne_zero count)]
    split
    · next hzero =>
      subst hzero
      rfl
    · rfl

/-- The latest effects are writes, back to the latest removal if there was one. -/
theorem eq_replicate_append (effects : List StoreEffect) :
    ∃ count, effects = List.replicate count .written ∨
      ∃ earlier, effects = List.replicate count .written ++ .removed :: earlier := by
  induction effects with
  | nil => exact ⟨0, Or.inl rfl⟩
  | cons effect effects ih =>
    cases effect with
    | removed => exact ⟨0, Or.inr ⟨effects, rfl⟩⟩
    | written =>
      obtain ⟨count, rfl | ⟨earlier, rfl⟩⟩ := ih
      · exact ⟨count + 1, Or.inl rfl⟩
      · exact ⟨count + 1, Or.inr ⟨earlier, rfl⟩⟩

/-- An object is back at its version exactly if nothing had an effect on it, or if it was removed
and has been written again up to this version. -/
theorem foldr_version_eq_iff (version : Nat) (effects : List StoreEffect) :
    effects.foldr StoreEffect.version (some version) = some version ↔
      effects = [] ∨ Restored version effects := by
  constructor
  · intro h
    obtain ⟨count, rfl | ⟨earlier, rfl⟩⟩ := eq_replicate_append effects
    · rw [foldr_replicate_written] at h
      split at h
      · next hzero => exact Or.inl (congrArg (List.replicate · _) hzero)
      · next hwritten =>
        have hsame : version + count = version := Option.some.inj h
        exact absurd (Nat.add_eq_left.mp hsame) hwritten
    · rw [List.foldr_append, List.foldr_cons, foldr_replicate_written] at h
      split at h
      · cases h
      · next hwritten =>
        have hsame : count = version := (Nat.zero_add count).symm.trans (Option.some.inj h)
        subst hsame
        exact Or.inr ⟨Nat.pos_of_ne_zero hwritten, earlier, rfl⟩
  · rintro (rfl | ⟨hpositive, earlier, rfl⟩)
    · rfl
    · rw [List.foldr_append, List.foldr_cons, foldr_replicate_written, if_neg hpositive.ne']
      exact congrArg some (Nat.zero_add version)

end StoreEffect

namespace Store

/-- An update overwrites what was not seen only if the object was removed and restored. For every
store, every object read from it and every history since, an update that is based on the object is
taken exactly if the store takes writes and either nothing has had an effect on the object since, or
it was removed and has been written again up to the version that was read. An update that fails
changes nothing, and one that succeeds changes one part of the object and its version. -/
theorem persist_taken_iff {start : Store} {seen basis : Service}
    (hseen : start.get? basis.id = some seen) (hversion : basis.version = seen.version)
    (since : List StoreCall) (portion : Portion) :
    let store := start.through since
    let effects := start.effects basis.id since
    ((∃ result, store.persist portion basis = .ok result) ↔
      store.writesFailing = false ∧ (effects = [] ∨ StoreEffect.Restored basis.version effects)) ∧
    ((∃ error, store.persist portion basis = .error error) ↔
      store.after (.update portion basis) = store) ∧
    ∀ written after, store.persist portion basis = .ok (written, after) →
      store.after (.update portion basis) = after ∧
      ∃ stored, store.get? basis.id = some stored ∧
        written = { portion.carry basis stored with version := stored.version + 1 } ∧
        store.Replaces written basis.id after := by
  intro store effects
  have hheld : start.heldVersion basis.id = some basis.version := by
    rw [heldVersion, hseen, hversion]
    rfl
  refine ⟨?_, ⟨?_, fun hsame => ?_⟩,
    fun written after hpersist => ⟨?_, replaces_of_persist hpersist⟩⟩
  · rw [persist_eq_ok_iff, heldVersion_through, hheld, StoreEffect.foldr_version_eq_iff]
  · rintro ⟨error, hpersist⟩
    simp only [Store.after, hpersist]
  · -- Had the update succeeded, the version would not be the same.
    cases hpersist : store.persist portion basis with
    | error error => exact ⟨error, rfl⟩
    | ok result =>
      have hwritten := store.effect_update portion basis basis.id
      rw [effect_of_eq (by rw [hsame]), hpersist] at hwritten
      simp at hwritten
  · simp only [Store.after, hpersist]

/-- A user creates a service. -/
def created : Store :=
  through {} [.put (.loadBalancer ⟨"ns", "web"⟩ [{ protocol := .tcp, port := 80 }])]

/-- The user deletes the service and creates it anew with another port. -/
def recreation : List StoreCall :=
  [.put (.loadBalancer ⟨"ns", "web"⟩ [{ protocol := .tcp, port := 443 }]), .delete ⟨"ns", "web"⟩]

/-- A change of the first object, by a writer who has not seen the second one. -/
def belated : Service :=
  { Service.loadBalancer ⟨"ns", "web"⟩ [{ protocol := .tcp, port := 80 }] with
    annotations := Std.ExtTreeMap.empty.insert "team" "edge"
    version := 1 }

/-- The writer has read the first object. -/
theorem get?_created :
    created.get? ⟨"ns", "web"⟩ = some { belated with annotations := ∅ } := by
  decide +kernel

/-- Since then the object was removed and written once. -/
theorem effects_recreation :
    created.effects ⟨"ns", "web"⟩ recreation = [.written, .removed] := by
  decide +kernel

/-- The belated update is taken, and the port of the second object is lost. -/
theorem persist_taken_iff_recreated :
    StoreEffect.Restored belated.version (created.effects belated.id recreation) ∧
      ((created.through recreation).get? belated.id).map (·.ports) =
        some [{ protocol := .tcp, port := 443 }] ∧
      ∃ written after,
        (created.through recreation).persist .declared belated = .ok (written, after) ∧
          (created.through recreation).Replaces written belated.id after ∧
          written.ports = [{ protocol := .tcp, port := 80 }] ∧ written.version = 2 := by
  have hrestored : StoreEffect.Restored belated.version
      (created.effects belated.id recreation) :=
    ⟨Nat.one_pos, [], effects_recreation⟩
  have hseen : created.get? belated.id = some { belated with annotations := ∅ } := get?_created
  obtain ⟨htaken, -, hreplaces⟩ := persist_taken_iff hseen rfl recreation .declared
  obtain ⟨⟨written, after⟩, hpersist⟩ := htaken.mpr ⟨rfl, Or.inr hrestored⟩
  obtain ⟨-, stored, hstored, hwritten, hrest⟩ := hreplaces written after hpersist
  have hversion : ((created.through recreation).get? belated.id).map Service.version = some 1 := by
    decide +kernel
  rw [hstored] at hversion
  refine ⟨hrestored, by decide +kernel, written, after, hpersist, hrest, ?_, ?_⟩
  · rw [hwritten]
    rfl
  · rw [hwritten]
    exact congrArg (· + 1) (Option.some.inj hversion)

/-- So not every update that is taken has seen everything that happened to its object. -/
theorem exists_lost_update :
    ¬∀ (before since : List StoreCall) (seen basis : Service) (portion : Portion),
      (through {} before).get? basis.id = some seen → basis.version = seen.version →
        (∃ result, ((through {} before).through since).persist portion basis = .ok result) →
          (through {} before).effects basis.id since = [] := by
  intro hall
  have htaken : ∃ result, (created.through recreation).persist .declared belated = .ok result :=
    (persist_eq_ok_iff _ _ _).mpr ⟨rfl, by decide +kernel⟩
  have hnone := hall _ recreation _ belated .declared get?_created rfl htaken
  cases effects_recreation.symm.trans hnone

end Store

end Balancer
