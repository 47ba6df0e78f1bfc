import Mathlib
import Balancer.Proofs.Forwarding.Entries

/-!
# The one model of an assignment

What the model of an assignment holds can be said without saying how it is brought in order. It has
one entry for each assigned port, and an entry has one forward for each port with a node port that a
service on it declares. The entries are in the order of the ports, and the forwards in an order in
which no two of them are alike. So there is only one such model. It is the one that is generated,
and none is generated exactly if something that has to be read cannot be read.
-/

namespace Balancer

/-- A forward with its origin: the service that it stems from, and the place of its port among those
that the service declares. -/
structure TracedForward where
  id : ServiceId
  place : Nat
  forward : PortForward
  deriving DecidableEq

/-- Forwards are ordered by inbound port, protocol, service and place. -/
instance : Ord TracedForward where
  compare :=
    compareLex (compareOn fun traced => traced.forward.inboundPort.toNat) <|
      compareLex (compareOn fun traced => traced.forward.protocol.rank) <|
        compareLex (compareOn TracedForward.id) (compareOn TracedForward.place)

instance : Std.TransOrd TracedForward :=
  inferInstanceAs <| Std.TransCmp <|
    compareLex (compareOn fun traced : TracedForward => traced.forward.inboundPort.toNat) <|
      compareLex (compareOn fun traced => traced.forward.protocol.rank) <|
        compareLex (compareOn TracedForward.id) (compareOn TracedForward.place)

namespace TracedForward

/-- Whether the origin of a forward comes before that of another one: the service does, or in the
same service the place. -/
def Precedes (a b : TracedForward) : Prop :=
  compare a.id b.id = .lt ∨ a.id = b.id ∧ a.place < b.place

/-- A forward comes before another one if its inbound port and its protocol do, and if these are the
same, its origin does. -/
theorem compare_eq_lt {a b : TracedForward} (h : a.forward.precedes b.forward = true)
    (horigin : b.forward.precedes a.forward = true → a.Precedes b) : compare a b = .lt := by
  change (compare a.forward.inboundPort.toNat b.forward.inboundPort.toNat).then
    ((compare a.forward.protocol.rank b.forward.protocol.rank).then
      ((compare a.id b.id).then (compare a.place b.place))) = .lt
  simp only [Ordering.then_eq_lt, Nat.compare_eq_lt, Std.LawfulEqOrd.compare_eq_iff_eq]
  simp only [PortForward.precedes, Bool.or_eq_true, Bool.and_eq_true, decide_eq_true_eq,
    UInt16.lt_iff_toNat_lt, ← UInt16.toNat_inj] at h horigin
  rcases h with hport | ⟨hport, hprotocol⟩
  · exact Or.inl hport
  · refine Or.inr ⟨hport, ?_⟩
    rcases Nat.lt_or_eq_of_le hprotocol with hless | hprotocol
    · exact Or.inl hless
    · exact Or.inr ⟨hprotocol, horigin (Or.inr ⟨hport.symm, hprotocol.ge⟩)⟩

end TracedForward

/-- Forwards can be compared by inbound port and protocol. -/
theorem PortForward.precedes_trans (a b c : PortForward) (hab : a.precedes b = true)
    (hbc : b.precedes c = true) : a.precedes c = true := by
  simp only [precedes, Bool.or_eq_true, Bool.and_eq_true, decide_eq_true_eq,
    UInt16.lt_iff_toNat_lt, ← UInt16.toNat_inj] at hab hbc ⊢
  omega

/-- Of two forwards one can stand before the other. -/
theorem PortForward.precedes_total (a b : PortForward) :
    (a.precedes b || b.precedes a) = true := by
  simp only [precedes, Bool.or_eq_true, Bool.and_eq_true, decide_eq_true_eq,
    UInt16.lt_iff_toNat_lt, ← UInt16.toNat_inj]
  omega

/-- The forwards of a service with their origins. -/
def Service.traced (service : Service) (targets : List String) (id : ServiceId) :
    List TracedForward :=
  service.ports.zipIdx.filterMap fun declared => declared.1.nodePort.map fun nodePort =>
    { id
      place := declared.2
      forward :=
        { protocol := declared.1.protocol
          inboundPort := declared.1.port
          destinations := targets
          destinationPort := nodePort } }

namespace Service

variable (service : Service) (targets : List String) (id : ServiceId)

/-- The forwards of a service, without their origins. -/
theorem map_forward_traced :
    (service.traced targets id).map TracedForward.forward = service.forwards targets := by
  have hports : service.ports = service.ports.zipIdx.map Prod.fst := (List.zipIdx_map_fst 0 _).symm
  rw [forwards, hports, List.filterMap_map, traced, List.map_filterMap]
  simp [Function.comp_def]

/-- A service has one forward for each declared port that has a node port. -/
theorem mem_traced_iff (traced : TracedForward) :
    traced ∈ service.traced targets id ↔
      traced.id = id ∧ ∃ port nodePort, service.ports[traced.place]? = some port ∧
        port.nodePort = some nodePort ∧
        traced.forward =
          { protocol := port.protocol
            inboundPort := port.port
            destinations := targets
            destinationPort := nodePort } := by
  obtain ⟨tracedId, place, forward⟩ := traced
  simp only [Service.traced, List.mem_filterMap, List.mem_zipIdx_iff_getElem?,
    Option.map_eq_some_iff, Prod.exists, TracedForward.mk.injEq]
  constructor
  · rintro ⟨port, index, hport, nodePort, hnodePort, rfl, rfl, rfl⟩
    exact ⟨rfl, port, nodePort, hport, hnodePort, rfl⟩
  · rintro ⟨rfl, port, nodePort, hport, hnodePort, rfl⟩
    exact ⟨port, place, hport, nodePort, hnodePort, rfl, rfl, rfl⟩

/-- The forwards of a service stand in the order of declaration. -/
theorem pairwise_traced :
    (service.traced targets id).Pairwise fun a b => a.id = b.id ∧ a.place < b.place := by
  have hplaces : service.ports.zipIdx.Pairwise fun a b => a.2 < b.2 := by
    rw [← List.pairwise_map (f := Prod.snd) (R := (· < ·)), List.zipIdx_map_snd]
    exact List.pairwise_lt_range' 1
  refine hplaces.filterMap _ fun a b hlt first hfirst second hsecond => ?_
  obtain ⟨_, -, rfl⟩ := Option.map_eq_some_iff.mp hfirst
  obtain ⟨_, -, rfl⟩ := Option.map_eq_some_iff.mp hsecond
  exact ⟨rfl, hlt⟩

end Service

/-- The forwards of stored services with their origins. -/
def tracedOf (stored : ServiceId → Option Service) (targets : List String)
    (ids : List ServiceId) : List TracedForward :=
  ids.flatMap fun id => ((stored id).map fun service => service.traced targets id).getD []

section Traced

variable {stored : ServiceId → Option Service} {targets : List String} {ids : List ServiceId}

/-- The forwards of stored services, without their origins. -/
theorem map_forward_tracedOf :
    (tracedOf stored targets ids).map TracedForward.forward =
      (forwardsOf stored targets ids).map Prod.snd := by
  simp only [tracedOf, forwardsOf, List.map_flatMap]
  congr 1
  funext id
  cases stored id with
  | none => rfl
  | some service => simp [Service.map_forward_traced, Function.comp_def]

/-- The stored services have one forward for each declared port that has a node port. -/
theorem mem_tracedOf_iff (traced : TracedForward) :
    traced ∈ tracedOf stored targets ids ↔
      traced.id ∈ ids ∧ ∃ service port nodePort, stored traced.id = some service ∧
        service.ports[traced.place]? = some port ∧ port.nodePort = some nodePort ∧
        traced.forward =
          { protocol := port.protocol
            inboundPort := port.port
            destinations := targets
            destinationPort := nodePort } := by
  rw [tracedOf, List.mem_flatMap]
  constructor
  · rintro ⟨id, hid, htraced⟩
    cases hstored : stored id with
    | none => simp [hstored] at htraced
    | some service =>
      simp only [hstored, Option.map_some, Option.getD_some, Service.mem_traced_iff] at htraced
      obtain ⟨rfl, port, nodePort, hport⟩ := htraced
      exact ⟨hid, service, port, nodePort, hstored, hport⟩
  · rintro ⟨hid, service, port, nodePort, hstored, hport⟩
    refine ⟨traced.id, hid, ?_⟩
    simp only [hstored, Option.map_some, Option.getD_some]
    exact (service.mem_traced_iff targets traced.id traced).mpr ⟨rfl, port, nodePort, hport⟩

/-- The forwards of services in ascending order stand in the order of their origins. -/
theorem pairwise_tracedOf (h : ids.Pairwise fun a b => compare a b = .lt) :
    (tracedOf stored targets ids).Pairwise TracedForward.Precedes := by
  have hof (id : ServiceId) (traced : TracedForward)
      (htraced : traced ∈ ((stored id).map fun service => service.traced targets id).getD []) :
      traced.id = id := by
    cases hstored : stored id with
    | none => simp [hstored] at htraced
    | some service =>
      simp only [hstored, Option.map_some, Option.getD_some, Service.mem_traced_iff] at htraced
      exact htraced.1
  refine List.pairwise_flatMap.mpr ⟨fun id _ => ?_, h.imp fun {a b} hlt x hx y hy => ?_⟩
  · cases stored id with
    | none => exact .nil
    | some service => exact (service.pairwise_traced targets id).imp Or.inr
  · refine Or.inl ?_
    rwa [hof a x hx, hof b y hy]

end Traced

namespace ModelSource

variable {source : ModelSource} {assignment : Assignment} {targets : List String}
  {portId : String} {entry : IngressAddress} {model : ForwardingModel}

/-- Whether a forward is called for on a port. Its service is assigned to the port and stored, and
at the place of the forward it declares a port that has a node port. The forward goes from the
declared port to the node port on all targets. -/
def CallsFor (source : ModelSource) (assignment : Assignment) (targets : List String)
    (portId : String) (traced : TracedForward) : Prop :=
  assignment[traced.id]? = some portId ∧
    ∃ service port nodePort, source.service traced.id = .ok (some service) ∧
      service.ports[traced.place]? = some port ∧ port.nodePort = some nodePort ∧
      traced.forward =
        { protocol := port.protocol
          inboundPort := port.port
          destinations := targets
          destinationPort := nodePort }

/-- What the entry of a port is: it has the address of the port, and its forwards are those called
for, each once, in their order. -/
structure Renders (source : ModelSource) (assignment : Assignment) (targets : List String)
    (portId : String) (entry : IngressAddress) : Prop where
  address : source.address portId = .ok entry.address
  forwards : ∃ traced, Enumerates traced (source.CallsFor assignment targets portId) ∧
    entry.forwards = traced.map TracedForward.forward

/-- What the model of an assignment is: it has the entries of the assigned ports, each once, in
ascending order, with the nodes in ascending order as targets, each once. Every assigned service can
be read, also if it is not stored. -/
structure Exact (source : ModelSource) (assignment : Assignment) (model : ForwardingModel) :
    Prop where
  entries : ∃ nodes targets portIds, source.nodes = .ok nodes ∧
    Enumerates targets (· ∈ nodes) ∧
    Enumerates portIds (fun portId => ∃ id : ServiceId, assignment[id]? = some portId) ∧
    List.Forall₂ (source.Renders assignment targets) portIds model.ingress
  services : ∀ (id : ServiceId) (portId : String), assignment[id]? = some portId →
    ∃ found, source.service id = .ok found

/-- A port has one entry only. -/
theorem Renders.unique {other : IngressAddress} (h : source.Renders assignment targets portId entry)
    (h' : source.Renders assignment targets portId other) : entry = other := by
  obtain ⟨traced, htraced, hforwards⟩ := h.forwards
  obtain ⟨traced', htraced', hforwards'⟩ := h'.forwards
  obtain ⟨address, forwards⟩ := entry
  obtain ⟨address', forwards'⟩ := other
  cases Except.ok.inj (h.address.symm.trans h'.address)
  rw [htraced.unique htraced'] at hforwards
  cases hforwards.trans hforwards'.symm
  rfl

/-- An assignment has one model only. -/
theorem Exact.unique {other : ForwardingModel} (h : source.Exact assignment model)
    (h' : source.Exact assignment other) : model = other := by
  obtain ⟨nodes, targets, portIds, hnodes, htargets, hportIds, hentries⟩ := h.entries
  obtain ⟨nodes', targets', portIds', hnodes', htargets', hportIds', hentries'⟩ := h'.entries
  cases Except.ok.inj (hnodes.symm.trans hnodes')
  cases htargets.unique htargets'
  cases hportIds.unique hportIds'
  have hunique : Relator.RightUnique (source.Renders assignment targets) :=
    fun _ _ _ hentry hother => hentry.unique hother
  have hingress : model.ingress = other.ingress := hunique.forall₂ hentries hentries'
  cases model
  cases other
  exact congrArg _ hingress

/-- The service that a source has, if it answers. -/
def stored (source : ModelSource) (id : ServiceId) : Option Service :=
  match source.service id with
  | .ok found => found
  | .error _ => none

/-- A source that answers, answers with the service that it has. -/
theorem service_eq_stored {id : ServiceId} (h : ∃ found, source.service id = .ok found) :
    source.service id = .ok (source.stored id) := by
  obtain ⟨found, hfound⟩ := h
  rw [stored, hfound]

/-- Brought in order, the forwards of the services on a port are those called for. -/
theorem enumerates_callsFor (hservices : ∀ id : ServiceId, assignment[id]? = some portId →
      ∃ found, source.service id = .ok found) :
    Enumerates
      ((tracedOf source.stored targets (Assignment.servicesOn assignment portId)).mergeSort
        fun a b => a.forward.precedes b.forward)
      (source.CallsFor assignment targets portId) := by
  have hids := Assignment.enumerates_servicesOn assignment portId
  refine ⟨?_, fun traced => ?_⟩
  · have horigins :
        (tracedOf source.stored targets (Assignment.servicesOn assignment portId)).Pairwise
          TracedForward.Precedes := pairwise_tracedOf hids.ascending
    have hsorted := pairwise_mergeSort_of_pairwise
      (fun a b c : TracedForward => a.forward.precedes_trans b.forward c.forward)
      (fun a b : TracedForward => a.forward.precedes_total b.forward) horigins
    exact hsorted.imp fun h => TracedForward.compare_eq_lt h.1 h.2
  · rw [List.mem_mergeSort, mem_tracedOf_iff, hids.mem_iff]
    refine and_congr_right fun hid => ?_
    rw [service_eq_stored (hservices traced.id hid)]
    simp only [Except.ok.injEq]

/-- A port with a known address has the right entry if the services on it can be read. -/
theorem exists_entry {address : String} (haddress : source.address portId = .ok address)
    (hservices : ∀ id : ServiceId, assignment[id]? = some portId →
      ∃ found, source.service id = .ok found) :
    ∃ entry, source.entry targets assignment portId = .ok entry ∧
      source.Renders assignment targets portId entry := by
  have hstored : ∀ id ∈ Assignment.servicesOn assignment portId,
      source.service id = .ok (source.stored id) :=
    fun id hid => service_eq_stored
      (hservices id ((Assignment.mem_servicesOn_iff assignment portId id).mp hid))
  refine ⟨{ address, forwards := ((forwardsOf source.stored targets
    (Assignment.servicesOn assignment portId)).map Prod.snd).mergeSort PortForward.precedes },
    ?_, haddress, _, enumerates_callsFor hservices, ?_⟩
  · rw [ModelSource.entry, haddress, forwards_eq_ok hstored]
    rfl
  · rw [← map_forward_tracedOf]
    symm
    apply List.map_mergeSort
    intro _ _ _ _
    rfl

/-- A port has an entry exactly if its address is known and the services on it can be read, and the
entry is the right one. -/
theorem entry_eq_ok_iff :
    source.entry targets assignment portId = .ok entry ↔
      source.Renders assignment targets portId entry ∧
        ∀ id : ServiceId, assignment[id]? = some portId →
          ∃ found, source.service id = .ok found := by
  constructor
  · intro hentry
    obtain ⟨haddress, forwards, hforwards, -⟩ := entry_eq_ok hentry
    have hservices : ∀ id : ServiceId, assignment[id]? = some portId →
        ∃ found, source.service id = .ok found :=
      fun id hid => service_of_forwards_eq_ok hforwards id
        ((Assignment.mem_servicesOn_iff assignment portId id).mpr hid)
    obtain ⟨right, hright, hrenders⟩ :
        ∃ right, source.entry targets assignment portId = .ok right ∧
          source.Renders assignment targets portId right := exists_entry haddress hservices
    cases Except.ok.inj (hentry.symm.trans hright)
    exact ⟨hrenders, hservices⟩
  · rintro ⟨hrenders, hservices⟩
    obtain ⟨right, hright, hrenders'⟩ := exists_entry hrenders.address hservices
    rw [hright, hrenders.unique hrenders']

/-- The ports of an assignment are listed in ascending order. -/
theorem enumerates_ports (assignment : Assignment) :
    Enumerates assignment.ports fun portId => ∃ id : ServiceId, assignment[id]? = some portId where
  ascending := (enumerates_sortedDistinct assignment.values).ascending
  mem_iff := Assignment.mem_ports_iff assignment

/-- A model is generated exactly if it is the model of the assignment. -/
theorem generate_eq_ok_iff :
    source.generate assignment = .ok model ↔ source.Exact assignment model := by
  constructor
  · intro h
    unfold generate at h
    split at h
    · cases h
    · next nodes hnodes =>
      obtain ⟨entries, hentries, rfl⟩ := map_eq_ok h
      rw [entries_eq_ok_iff] at hentries
      refine ⟨⟨nodes, _, _, hnodes, enumerates_sortedDistinct nodes, enumerates_ports assignment,
        hentries.imp fun _ _ hentry => (entry_eq_ok_iff.mp hentry).1⟩, fun id portId hid => ?_⟩
      have hportId := (Assignment.mem_ports_iff assignment portId).mpr ⟨id, hid⟩
      obtain ⟨entry, hentry⟩ := exists_of_forall₂ hentries hportId
      exact (entry_eq_ok_iff.mp hentry).2 id hid
  · intro h
    obtain ⟨nodes, targets, portIds, hnodes, htargets, hportIds, hentries⟩ := h.entries
    cases htargets.unique (enumerates_sortedDistinct nodes)
    cases hportIds.unique (enumerates_ports assignment)
    have hingress : source.entries (sortedDistinct nodes) assignment (Assignment.ports assignment) =
        .ok model.ingress :=
      entries_eq_ok_iff.mpr <| hentries.imp fun portId _ hrenders =>
        entry_eq_ok_iff.mpr ⟨hrenders, fun id hid => h.services id portId hid⟩
    rw [generate, hnodes]
    simp only [hingress]
    rfl

/-- A model is generated exactly if the nodes, the assigned services and the addresses of the
assigned ports can be read. -/
theorem exists_generate_iff :
    (∃ model, source.generate assignment = .ok model) ↔
      (∃ nodes, source.nodes = .ok nodes) ∧
        ∀ (id : ServiceId) (portId : String), assignment[id]? = some portId →
          (∃ found, source.service id = .ok found) ∧
            ∃ address, source.address portId = .ok address := by
  constructor
  · rintro ⟨model, hmodel⟩
    rw [generate_eq_ok_iff] at hmodel
    obtain ⟨nodes, targets, portIds, hnodes, -, hportIds, hentries⟩ := hmodel.entries
    refine ⟨⟨nodes, hnodes⟩, fun id portId hid => ⟨hmodel.services id portId hid, ?_⟩⟩
    obtain ⟨entry, hrenders⟩ := exists_of_forall₂ hentries ((hportIds.mem_iff portId).mpr ⟨id, hid⟩)
    exact ⟨entry.address, hrenders.address⟩
  · rintro ⟨⟨nodes, hnodes⟩, hreads⟩
    have hentry : ∀ portId ∈ Assignment.ports assignment, ∃ entry,
        source.entry (sortedDistinct nodes) assignment portId = .ok entry := by
      intro portId hportId
      obtain ⟨id, hid⟩ := (Assignment.mem_ports_iff assignment portId).mp hportId
      obtain ⟨address, haddress⟩ := (hreads id portId hid).2
      obtain ⟨entry, hentry, -⟩ := exists_entry haddress fun id hid => (hreads id portId hid).1
      exact ⟨entry, hentry⟩
    obtain ⟨entries, hentries⟩ := exists_forall₂ hentry
    refine ⟨{ ingress := entries }, ?_⟩
    rw [generate, hnodes]
    simp only [entries_eq_ok_iff.mpr hentries]
    rfl

/-- The entries depend on the nodes only through the targets. -/
theorem entries_with_nodes (answer : Except StoreError (List String)) (portIds : List String) :
    { source with nodes := answer }.entries targets assignment portIds =
      source.entries targets assignment portIds := by
  induction portIds with
  | nil => rfl
  | cons portId rest ih =>
    have hforwards : { source with nodes := answer }.forwards targets
        (Assignment.servicesOn assignment portId) =
          source.forwards targets (Assignment.servicesOn assignment portId) :=
      forwards_congr _ fun _ _ => rfl
    simp only [entries, entry, hforwards, ih]

/-- The generated model is the one model of the assignment. It depends on the nodes only as a set.
None is generated exactly if the nodes or an assigned service cannot be read, or the address of an
assigned port cannot be obtained. -/
theorem generate_exact (source : ModelSource) (assignment : Assignment) :
    (∀ model, source.generate assignment = .ok model ↔ source.Exact assignment model) ∧
      (∀ nodes nodes' : List String, (∀ node, node ∈ nodes ↔ node ∈ nodes') →
        { source with nodes := .ok nodes }.generate assignment =
          { source with nodes := .ok nodes' }.generate assignment) ∧
      ((∃ error, source.generate assignment = .error error) ↔
        (∃ cause, source.nodes = .error cause) ∨
          ∃ (id : ServiceId) (portId : String), assignment[id]? = some portId ∧
            ((∃ cause, source.service id = .error cause) ∨
              ∃ cause, source.address portId = .error cause)) := by
  refine ⟨fun model => generate_eq_ok_iff, fun nodes nodes' hsame => ?_, ?_⟩
  · have htargets : sortedDistinct nodes = sortedDistinct nodes' := by
      refine (enumerates_sortedDistinct nodes).unique ⟨?_, fun node => ?_⟩
      · exact (enumerates_sortedDistinct nodes').ascending
      · rw [mem_sortedDistinct, hsame]
    simp only [generate, entries_with_nodes, htargets]
  · simp only [exists_error_iff, exists_generate_iff]
    grind

end ModelSource

end Balancer
