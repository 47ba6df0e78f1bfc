import Std.Data.ExtTreeMap
import Std.Data.ExtTreeSet
import Balancer.Text.Separated

/-!
# Service identifiers

A service is identified by its namespace and its name. The written form is the key
`namespace/name`, which is read by dividing it at its first slash: a name may hold slashes, a
namespace may not. Identifiers are ordered by namespace, then by name, each by code point.
-/

namespace Balancer

/-- The stable identity of a service. -/
structure ServiceId where
  ns : String
  name : String
  deriving DecidableEq

/-- The parts of a service key. -/
inductive KeyPart where
  | ns
  | name
  deriving DecidableEq

/-- Why a text is not a service key. -/
inductive KeyError where
  | noSeparator (key : String)
  | emptyPart (part : KeyPart) (key : String)
  deriving DecidableEq

/-- The name of a key part in messages. -/
def KeyPart.label : KeyPart → String
  | .ns => "namespace"
  | .name => "name"

/-- The text of a key error. -/
def KeyError.message : KeyError → String
  | .noSeparator key => "not a valid namespace/name key: '" ++ key ++ "'"
  | .emptyPart part key => "service key has an empty " ++ part.label ++ ": '" ++ key ++ "'"

namespace ServiceId

/-- The key `namespace/name`. -/
def key (id : ServiceId) : String :=
  id.ns ++ "/" ++ id.name

/-- Read a key; the namespace is checked before the name. -/
def ofKey (key : String) : Except KeyError ServiceId :=
  match Text.cut '/' key with
  | none => .error (.noSeparator key)
  | some (ns, name) =>
    if ns = "" then .error (.emptyPart .ns key)
    else if name = "" then .error (.emptyPart .name key)
    else .ok { ns, name }

instance : Ord ServiceId where
  compare := compareLex (compareOn ServiceId.ns) (compareOn ServiceId.name)

instance : Std.TransOrd ServiceId :=
  inferInstanceAs (Std.TransCmp (compareLex (compareOn ServiceId.ns) (compareOn ServiceId.name)))

instance : Std.LawfulEqOrd ServiceId where
  eq_of_compare {a b} h := by
    obtain ⟨h₁, h₂⟩ := Ordering.then_eq_eq.mp h
    cases a
    cases b
    cases Std.LawfulEqOrd.eq_of_compare h₁
    cases Std.LawfulEqOrd.eq_of_compare h₂
    rfl

/-- The given identifiers in ascending order, each once. -/
def sortedDistinct (ids : List ServiceId) : List ServiceId :=
  (Std.ExtTreeSet.ofList ids compare).toList

end ServiceId

end Balancer
