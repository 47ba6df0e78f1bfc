import Mathlib
import Balancer.Forwarding.Codec
import Balancer.Proofs.Containers
import Balancer.Proofs.Service.Keys

/-!
# Reading back what is written

The wire formats of services and of the forwarding model. Each record is read back from what is
written for it, since each of its fields is: by the reader of the field's type, under the same name.
The empty balancing policy is not written and is what is read in its place.

A forwarding model is always read back. A service is read back exactly if its identifier is, which
is written as one key, and if its version has 64 bits. Every service that was read has such an
identifier and such a version, in whatever form it was received.
-/

namespace Balancer

namespace Json

/-- The value of a member of an object. -/
def member? (value : Json) (name : String) : Option Json :=
  match value with
  | .obj members => members.lookup name
  | _ => none

variable {α : Type} {read : Json → Option α} {name other : String} {value : Json}
  {fields : List (String × Json)}

/-- A required field is read where it stands, behind fields of other names. -/
@[simp] theorem required_cons :
    required read ((other, value) :: fields) name =
      if name = other then read value else required read fields name := by
  unfold required
  by_cases h : name = other
  · simp [h]
  · rw [List.lookup_cons, beq_false_of_ne h, if_neg h]

/-- A field with a default is read where it stands, behind fields of other names. -/
@[simp] theorem withDefault_cons {default : α} :
    withDefault default read ((other, value) :: fields) name =
      if name = other then read value else withDefault default read fields name := by
  unfold withDefault
  by_cases h : name = other
  · simp [h]
  · rw [List.lookup_cons, beq_false_of_ne h, if_neg h]

/-- A field that is missing has its default. -/
@[simp] theorem withDefault_nil {default : α} : withDefault default read [] name = some default :=
  rfl

/-- The fields of an object are its members. -/
@[simp] theorem fields?_obj {order : List String} : fields? order (.obj fields) = some fields :=
  rfl

/-- A string is read back. -/
@[simp] theorem text?_str {text : String} : text? (.str text) = some text :=
  rfl

/-- A number is read back exactly if it is below the limit. -/
theorem nat?_int_eq_some_iff {limit number : Nat} :
    nat? limit (.int number) = some number ↔ number < limit := by
  simp [nat?]

/-- A number that is read is below the limit. -/
theorem lt_of_nat? {limit number : Nat} (h : nat? limit value = some number) : number < limit := by
  unfold nat? at h
  split at h
  · split at h
    · next hlt =>
      cases h
      exact hlt
    · cases h
  · cases h

/-- A 16-bit number that may be missing is read back. -/
theorem option?_getD_map_ofWord16 (word : Option UInt16) :
    option? word16? ((word.map ofWord16).getD .null) = some word := by
  cases word with
  | none => rfl
  | some word =>
    change (word16? (ofWord16 word)).map some = _
    rw [word16?_ofWord16]
    rfl

end Json

/-- A protocol is read back. -/
@[simp] theorem Protocol.ofJson?_toJson (protocol : Protocol) :
    ofJson? protocol.toJson = some protocol :=
  (ofName?_eq_some_iff protocol.name protocol).mpr rfl

/-- A kind of service is read back. -/
@[simp] theorem ServiceKind.ofJson?_toJson (kind : ServiceKind) :
    ofJson? kind.toJson = some kind :=
  (ofName?_eq_some_iff kind.name kind).mpr rfl

/-- An identifier that is readable is read back. -/
theorem ServiceId.Readable.ofJson?_toJson {id : ServiceId} (h : id.Readable) :
    ofJson? id.toJson = some id := by
  rw [ofJson?, toJson, Json.text?_str, Option.bind_some, h.ofKey_key]
  rfl

/-- An identifier that is read is readable. -/
theorem ServiceId.readable_of_ofJson? {value : Json} {id : ServiceId}
    (h : ofJson? value = some id) : id.Readable := by
  obtain ⟨key, -, hkey⟩ := Option.bind_eq_some_iff.mp h
  cases hread : ofKey key with
  | error error =>
    rw [hread] at hkey
    cases hkey
  | ok read =>
    rw [hread] at hkey
    cases hkey
    exact (ofKey_eq_ok_iff.mp hread).1

/-- A port of a service is read back, with or without a port on the nodes. -/
theorem ServicePort.ofJson?_toJson (port : ServicePort) : ofJson? port.toJson = some port := by
  simp [ofJson?, toJson, Json.word16?_ofWord16, Json.option?_getD_map_ofWord16]

/-- An entry of the status is read back. -/
theorem IngressEntry.ofJson?_toJson (entry : IngressEntry) : ofJson? entry.toJson = some entry := by
  simp [ofJson?, toJson]

/-- Annotations are read back. -/
theorem Annotations.ofJson?_toJson (annotations : Annotations) :
    ofJson? (toJson annotations) = some annotations := by
  have hentries : (annotations.toList.map fun entry => (entry.1, Json.str entry.2)).mapM entry? =
      some annotations.toList := by
    rw [List.mapM_map]
    exact List.mapM_pure.trans (congrArg some (List.map_id _))
  rw [toJson, ofJson?, hentries]
  exact congrArg some (ofList_toList annotations)

namespace Service

variable {service : Service}

/-- A service with a readable identifier and a version of 64 bits is read back. -/
theorem ofJson?_toJson (hid : service.id.Readable) (hversion : service.version < word64Count) :
    ofJson? service.toJson = some service := by
  simp [ofJson?, toJson, hid.ofJson?_toJson, Annotations.ofJson?_toJson,
    Json.list?_arr_map _ _ ServicePort.ofJson?_toJson,
    Json.list?_arr_map _ _ IngressEntry.ofJson?_toJson, Json.nat?_int_eq_some_iff.mpr hversion]

/-- A service that is read has a readable identifier and a version of 64 bits. -/
theorem readable_of_ofJson? {value : Json} (h : ofJson? value = some service) :
    service.id.Readable ∧ service.version < word64Count := by
  simp only [ofJson?, Option.bind_eq_bind, Option.bind_eq_some_iff, Option.pure_def,
    Option.some.injEq] at h
  obtain ⟨fields, -, id, hid, kind, -, annotations, -, ports, -, ingress, -, version, hversion,
    rfl⟩ := h
  obtain ⟨idValue, -, hid⟩ := Option.bind_eq_some_iff.mp hid
  refine ⟨ServiceId.readable_of_ofJson? hid, ?_⟩
  unfold Json.withDefault at hversion
  split at hversion
  · cases hversion
    exact Nat.two_pow_pos 64
  · exact Json.lt_of_nat? hversion

end Service

namespace PortForward

/-- A forward is read back, with or without a policy. -/
theorem ofJson?_toJson (forward : PortForward) : ofJson? forward.toJson = some forward := by
  have hdestinations := Json.list?_arr_map _ _ (fun _ => Json.text?_str) forward.destinations
  obtain ⟨protocol, inboundPort, destinations, destinationPort, policy⟩ := forward
  by_cases h : policy = ""
  · simp_all [ofJson?, toJson, Json.word16?_ofWord16]
  · simp_all [ofJson?, toJson, Json.word16?_ofWord16]

/-- The policy is written exactly if it is not empty. -/
theorem member?_policy_toJson (forward : PortForward) :
    forward.toJson.member? "policy" =
      if forward.policy = "" then none else some (.str forward.policy) := by
  by_cases h : forward.policy = ""
  · simp [Json.member?, toJson, h, List.lookup]
  · simp [Json.member?, toJson, h, List.lookup]

end PortForward

/-- The forwards of an address are read back. -/
theorem IngressAddress.ofJson?_toJson (entry : IngressAddress) :
    ofJson? entry.toJson = some entry := by
  simp [ofJson?, toJson, Json.list?_arr_map _ _ PortForward.ofJson?_toJson]

/-- A forwarding model is read back. -/
theorem ForwardingModel.ofJson?_toJson (model : ForwardingModel) :
    ofJson? model.toJson = some model := by
  simp [ofJson?, toJson, Json.list?_arr_map _ _ IngressAddress.ofJson?_toJson]

/-- Every forwarding model is read back from what is written for it, where exactly the policies that
are not empty are written. A service is read back exactly if its namespace is free of slashes,
neither part of its identifier is empty, and its version has 64 bits. A service that was read from
any value is read again from what is written for it. -/
theorem wire_formats_exact :
    (∀ model : ForwardingModel, ForwardingModel.ofJson? model.toJson = some model) ∧
    (∀ forward : PortForward, forward.toJson.member? "policy" =
      if forward.policy = "" then none else some (.str forward.policy)) ∧
    (∀ service : Service, Service.ofJson? service.toJson = some service ↔
      service.id.Readable ∧ service.version < word64Count) ∧
    ∀ (value : Json) (service : Service), Service.ofJson? value = some service →
      Service.ofJson? service.toJson = some service := by
  refine ⟨ForwardingModel.ofJson?_toJson, PortForward.member?_policy_toJson, fun service => ?_,
    fun value service h => ?_⟩
  · exact ⟨Service.readable_of_ofJson?, fun h => Service.ofJson?_toJson h.1 h.2⟩
  · obtain ⟨hid, hversion⟩ := Service.readable_of_ofJson? h
    exact Service.ofJson?_toJson hid hversion

/-- A service that was received in a short form, as an array with the defaults left out and its kind
as an object, is read again from the full form. -/
theorem wire_formats_exact_shorthand :
    ∃ service : Service,
      Service.ofJson? (.arr [.str "apps/web/1", .obj [("LoadBalancer", .null)]]) = some service ∧
      service.id = { ns := "apps", name := "web/1" } ∧
      Service.ofJson? service.toJson = some service := by
  have hread : Service.ofJson? (.arr [.str "apps/web/1", .obj [("LoadBalancer", .null)]]) =
      some { id := { ns := "apps", name := "web/1" }, kind := .loadBalancer } := by
    decide
  exact ⟨_, hread, rfl, wire_formats_exact.2.2.2 _ _ hread⟩

end Balancer
