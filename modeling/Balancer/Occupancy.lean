import Balancer.ServiceId
import Balancer.Transport

/-!
# Occupancy of an L3 port

Which port numbers are taken on one network resource, and by which service. Only the number
counts: requests for the same number conflict whatever their protocols.
-/

namespace Balancer

/-- The owners of the taken port numbers. -/
structure Occupancy where
  owners : Std.ExtTreeMap UInt16 ServiceId := ∅
  deriving DecidableEq

namespace Occupancy

/-- Whether every requested number is free or held by the given owner. -/
def fits (occupancy : Occupancy) (ports : List TransportPort) (owner : Option ServiceId) : Bool :=
  ports.all fun port =>
    match occupancy.owners[port.number]? with
    | none => true
    | some holder => decide (some holder = owner)

/-- Whether no number is taken. -/
def isEmpty (occupancy : Occupancy) : Bool :=
  occupancy.owners.isEmpty

/-- Give one number to an owner, whoever held it before. -/
def assign (occupancy : Occupancy) (number : UInt16) (owner : ServiceId) : Occupancy :=
  { owners := occupancy.owners.insert number owner }

/-- Give every requested number to an owner. -/
def occupy (occupancy : Occupancy) (owner : ServiceId) (ports : List TransportPort) : Occupancy :=
  ports.foldl (fun result port => result.assign port.number owner) occupancy

/-- Take back every number of an owner. -/
def release (occupancy : Occupancy) (owner : ServiceId) : Occupancy :=
  { owners := occupancy.owners.filter fun _ holder => decide (holder ≠ owner) }

/-- How many numbers an owner holds. -/
def heldBy (occupancy : Occupancy) (owner : ServiceId) : Nat :=
  (occupancy.owners.values.filter fun holder => decide (holder = owner)).length

/-- The taken numbers in ascending order, with their owners. -/
def toList (occupancy : Occupancy) : List (UInt16 × ServiceId) :=
  occupancy.owners.toList

/-- The owner of a number after it was assigned. -/
theorem owners_assign (occupancy : Occupancy) (number other : UInt16) (owner : ServiceId) :
    (occupancy.assign number owner).owners[other]? =
      if other = number then some owner else occupancy.owners[other]? := by
  simp only [assign, Std.ExtTreeMap.getElem?_insert, Std.LawfulEqOrd.compare_eq_iff_eq]
  simp [eq_comm]

/-- The owner of a number after a set of ports was occupied. -/
theorem owners_occupy (occupancy : Occupancy) (owner : ServiceId) (ports : List TransportPort)
    (number : UInt16) :
    (occupancy.occupy owner ports).owners[number]? =
      if number ∈ ports.map (·.number) then some owner else occupancy.owners[number]? := by
  induction ports generalizing occupancy with
  | nil => simp [occupy]
  | cons port rest ih =>
    have h := ih (occupancy.assign port.number owner)
    simp only [occupy, List.foldl_cons, List.map_cons, List.mem_cons] at h ⊢
    rw [h, owners_assign]
    by_cases hrest : number ∈ rest.map (·.number)
    · simp [hrest]
    · by_cases hport : number = port.number
      · simp [hport]
      · simp [hrest, hport]

/-- The owner of a number after an owner's numbers were taken back. -/
theorem owners_release (occupancy : Occupancy) (owner : ServiceId) (number : UInt16) :
    (occupancy.release owner).owners[number]? =
      occupancy.owners[number]?.filter fun holder => decide (holder ≠ owner) := by
  simp [release]

end Occupancy

end Balancer
