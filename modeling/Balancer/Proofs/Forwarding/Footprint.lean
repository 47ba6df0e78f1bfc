import Mathlib
import Balancer.Forwarding.Generation
import Balancer.Proofs.Containers

/-!
# What the forwarding model depends on

The model of an assignment depends on the nodes, on the ports that the assigned services declare,
and on the addresses of the assigned ports. Sources that agree on these give the same model, and a
source that gives a model at all knows every one of the addresses.
-/

namespace Balancer

/-- Bringing texts in order keeps exactly the same texts. -/
theorem mem_sortedDistinct (texts : List String) (text : String) :
    text ∈ sortedDistinct texts ↔ text ∈ texts := by
  rw [sortedDistinct, Std.ExtTreeSet.mem_toList, Std.ExtTreeSet.mem_ofList]
  simp

namespace Assignment

/-- The assigned ports are those that some service is assigned to. -/
theorem mem_ports_iff (assignment : Assignment) (portId : String) :
    portId ∈ assignment.ports ↔ ∃ id : ServiceId, assignment[id]? = some portId := by
  rw [ports, mem_sortedDistinct, mem_values_iff]

/-- The services on a port are those assigned to it. -/
theorem mem_servicesOn_iff (assignment : Assignment) (portId : String) (id : ServiceId) :
    id ∈ assignment.servicesOn portId ↔ assignment[id]? = some portId := by
  simp only [servicesOn, List.mem_map, List.mem_filter, Prod.exists, decide_eq_true_eq,
    Std.ExtTreeMap.mem_toList_iff_getElem?_eq_some]
  constructor
  · intro hservice
    obtain ⟨_, _, ⟨hassigned, rfl⟩, rfl⟩ := hservice
    exact hassigned
  · intro hassigned
    exact ⟨id, portId, ⟨hassigned, rfl⟩, rfl⟩

end Assignment

namespace ModelSource

/-- Two sources agree on everything that the model of an assignment depends on. -/
structure Agree (assignment : Assignment) (source other : ModelSource) : Prop where
  nodes : source.nodes = other.nodes
  ports : ∀ (id : ServiceId) (portId : String), assignment[id]? = some portId →
    (source.service id).map (Option.map Service.ports) =
      (other.service id).map (Option.map Service.ports)
  addresses : ∀ (id : ServiceId) (portId : String), assignment[id]? = some portId →
    source.address portId = other.address portId

variable {source other : ModelSource} {nodes : List String} {assignment : Assignment}

/-- The forwards of services depend on the ports that they declare. -/
theorem forwards_congr (ids : List ServiceId)
    (h : ∀ id ∈ ids, (source.service id).map (Option.map Service.ports) =
      (other.service id).map (Option.map Service.ports)) :
    source.forwards nodes ids = other.forwards nodes ids := by
  induction ids with
  | nil => rfl
  | cons id rest ih =>
    have hrest := ih fun other hother => h other (List.mem_cons_of_mem id hother)
    have hid := h id List.mem_cons_self
    simp only [forwards, hrest]
    cases hfirst : source.service id with
    | error cause =>
      cases hsecond : other.service id with
      | error cause' =>
        rw [hfirst, hsecond] at hid
        cases hid
        rfl
      | ok found =>
        rw [hfirst, hsecond] at hid
        cases hid
    | ok found =>
      cases hsecond : other.service id with
      | error cause =>
        rw [hfirst, hsecond] at hid
        cases hid
      | ok found' =>
        rw [hfirst, hsecond] at hid
        have hports : found.map Service.ports = found'.map Service.ports := Except.ok.inj hid
        have hforwards : found.map (fun service => service.forwards nodes) =
            found'.map (fun service => service.forwards nodes) := by
          have hsplit (service : Option Service) :
              service.map (fun service => service.forwards nodes) =
                (service.map Service.ports).map fun ports => ports.filterMap fun port =>
                  port.nodePort.map fun nodePort =>
                    { protocol := port.protocol, inboundPort := port.port
                      destinations := nodes, destinationPort := nodePort } := by
            cases service <;> rfl
          rw [hsplit, hsplit, hports]
        dsimp only
        rw [hforwards]

/-- Sources that agree give the same entries. -/
theorem Agree.entries_eq (h : Agree assignment source other) (portIds : List String)
    (hassigned : ∀ portId ∈ portIds, portId ∈ Assignment.ports assignment) :
    source.entries nodes assignment portIds = other.entries nodes assignment portIds := by
  induction portIds with
  | nil => rfl
  | cons portId rest ih =>
    have hrest := ih fun other hother => hassigned other (List.mem_cons_of_mem portId hother)
    obtain ⟨id, hid⟩ := (Assignment.mem_ports_iff _ _).mp (hassigned portId List.mem_cons_self)
    have hforwards : source.forwards nodes (Assignment.servicesOn assignment portId) =
        other.forwards nodes (Assignment.servicesOn assignment portId) := by
      apply forwards_congr
      intro id hid
      exact h.ports id portId ((Assignment.mem_servicesOn_iff _ _ _).mp hid)
    unfold entries entry
    rw [h.addresses id portId hid, hforwards, hrest]

/-- Sources that agree give the same model. -/
theorem Agree.generate_eq (h : Agree assignment source other) :
    source.generate assignment = other.generate assignment := by
  unfold generate
  rw [h.nodes]
  cases other.nodes with
  | error cause => rfl
  | ok nodes => simp only [h.entries_eq _ fun _ => id]

/-- A source that gives the entries of ports knows their addresses. -/
theorem address_of_entries_eq_ok {portIds : List String} {entries : List IngressAddress}
    (h : source.entries nodes assignment portIds = .ok entries) :
    ∀ portId ∈ portIds, ∃ address, source.address portId = .ok address := by
  induction portIds generalizing entries with
  | nil => simp
  | cons portId rest ih =>
    unfold ModelSource.entries entry at h
    cases haddress : source.address portId with
    | error cause => simp [haddress] at h
    | ok address =>
      rw [haddress] at h
      dsimp only at h
      split at h
      · cases h
      · obtain ⟨others, hothers, -⟩ := map_eq_ok h
        intro portId' hportId'
        rcases List.mem_cons.mp hportId' with rfl | hrest
        · exact ⟨address, haddress⟩
        · exact ih hothers portId' hrest

end ModelSource

end Balancer
