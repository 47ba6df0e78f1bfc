import Balancer.Event
import Balancer.Service

/-!
# The cluster store

The authoritative service objects, the node addresses and the log of events. Users put and
delete objects; the controller updates them, either the annotations and the declared part or the
published status, and an update succeeds only if it is based on the stored version. Versions count
up without a bound: no object lives through the 2^64 updates after which a counter of 64 bits ends.
-/

namespace Balancer

/-- Why the store refuses a call. -/
inductive StoreError where
  | notFound (id : ServiceId)
  /-- The update names another version than the stored one. -/
  | conflict (id : ServiceId) (stored given : Nat)
  | writesFailing
  | readsFailing
  deriving DecidableEq

namespace StoreError

/-- The text of a store error. -/
def message : StoreError → String
  | .notFound id => "service " ++ id.key ++ " not found"
  | .conflict id stored given =>
    "conflicting update of service " ++ id.key ++ ": expected version " ++ toString stored ++
      ", got " ++ toString given
  | .writesFailing => "cluster store error: store is failing writes"
  | .readsFailing => "cluster store error: store is failing reads"

/-- Whether the error is a conflict of versions. -/
def isConflict : StoreError → Bool
  | .conflict _ _ _ => true
  | _ => false

end StoreError

/-- The content of the store. -/
structure Store where
  services : Std.ExtTreeMap ServiceId Service := ∅
  nodes : List String := []
  events : List (ServiceId × ServiceEvent) := []
  writesFailing : Bool := false
  deriving DecidableEq

namespace Store

/-- The stored object of a service. -/
def get? (store : Store) (id : ServiceId) : Option Service :=
  store.services[id]?

/-- The version of the stored object, which is zero where there is none. -/
def versionOf (store : Store) (id : ServiceId) : Nat :=
  ((store.get? id).map Service.version).getD 0

/-- Create or replace an object as a user does. Answers the stored object. -/
def put (store : Store) (service : Service) : Service × Store :=
  let stored := { service with version := store.versionOf service.id + 1 }
  (stored, { store with services := store.services.insert service.id stored })

/-- Delete an object. Answers it if it was there. -/
def delete (store : Store) (id : ServiceId) : Option Service × Store :=
  (store.get? id, { store with services := store.services.erase id })

/-- Change the stored object if the update is based on its version. -/
def write (store : Store) (basis : Service) (change : Service → Service) :
    Except StoreError (Service × Store) :=
  if store.writesFailing then .error .writesFailing
  else
    match store.get? basis.id with
    | none => .error (.notFound basis.id)
    | some stored =>
      if stored.version = basis.version then
        let written := { change stored with version := stored.version + 1 }
        .ok (written, { store with services := store.services.insert basis.id written })
      else .error (.conflict basis.id stored.version basis.version)

/-- Persist the kind, the annotations and the ports of an object. -/
def update (store : Store) (service : Service) : Except StoreError (Service × Store) :=
  store.write service fun stored =>
    { stored with
      kind := service.kind
      annotations := service.annotations
      ports := service.ports }

/-- Persist the status of an object. -/
def updateStatus (store : Store) (service : Service) : Except StoreError (Service × Store) :=
  store.write service fun stored => { stored with ingress := service.ingress }

/-- Log an event. -/
def record (store : Store) (id : ServiceId) (event : ServiceEvent) : Store :=
  { store with events := store.events ++ [(id, event)] }

/-- The events of one service, in order. -/
def eventsOf (store : Store) (id : ServiceId) : List ServiceEvent :=
  (store.events.filter fun entry => decide (entry.1 = id)).map (·.2)

/-- The stored objects after an object was put. -/
theorem get?_put (store : Store) (service : Service) (id : ServiceId) :
    (store.put service).2.get? id =
      if id = service.id then some { service with version := store.versionOf service.id + 1 }
      else store.get? id := by
  simp only [put, get?, Std.ExtTreeMap.getElem?_insert, Std.LawfulEqOrd.compare_eq_iff_eq]
  simp [eq_comm]

/-- The stored objects after an object was deleted. -/
theorem get?_delete (store : Store) (deleted id : ServiceId) :
    (store.delete deleted).2.get? id = if id = deleted then none else store.get? id := by
  simp only [delete, get?, Std.ExtTreeMap.getElem?_erase, Std.LawfulEqOrd.compare_eq_iff_eq]
  simp [eq_comm]

/-- A write succeeds exactly when the store takes writes and holds the object in the version that
the write is based on; it then stores the changed object in the next version. -/
theorem write_eq_ok_iff (store after : Store) (basis written : Service)
    (change : Service → Service) :
    store.write basis change = .ok (written, after) ↔
      store.writesFailing = false ∧ ∃ stored, store.get? basis.id = some stored ∧
        stored.version = basis.version ∧
        written = { change stored with version := stored.version + 1 } ∧
        after = { store with services := store.services.insert basis.id written } := by
  unfold write
  cases hfail : store.writesFailing with
  | true => simp
  | false =>
    cases hget : store.get? basis.id with
    | none => simp
    | some stored =>
      by_cases hversion : stored.version = basis.version
      · simp only [hversion, Bool.false_eq_true, if_false, if_true, Except.ok.injEq,
          Prod.mk.injEq, true_and, Option.some.injEq, exists_eq_left']
        constructor
        · rintro ⟨rfl, rfl⟩
          exact ⟨rfl, rfl⟩
        · rintro ⟨rfl, rfl⟩
          exact ⟨rfl, rfl⟩
      · simp [hversion]

end Store

end Balancer
