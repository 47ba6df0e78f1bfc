import Balancer.Store

/-!
# Revisions of service objects

What a user changes on a stored object: some of its fields, some of its annotations. The revised
object is put back, so its version goes up by one.
-/

namespace Balancer

/-- A change of a service object. A field that is not given stays; given annotations are set
before the ones listed in `unset` are removed. -/
structure Revision where
  kind : Option ServiceKind := none
  ports : Option (List ServicePort) := none
  ingress : Option (List IngressEntry) := none
  annotations : Annotations := ∅
  unset : List String := []

/-- Apply a revision. -/
def Service.revise (service : Service) (revision : Revision) : Service :=
  { service with
    kind := revision.kind.getD service.kind
    ports := revision.ports.getD service.ports
    ingress := revision.ingress.getD service.ingress
    annotations := revision.unset.foldl (fun annotations name => annotations.erase name)
      (service.annotations.insertMany revision.annotations.toList) }

/-- Revise the stored object. Answers the new object, or nothing if there is none. -/
def Store.edit (store : Store) (id : ServiceId) (revision : Revision) : Option Service × Store :=
  match store.get? id with
  | none => (none, store)
  | some service =>
    let result := store.put (service.revise revision)
    (some result.1, result.2)

end Balancer
