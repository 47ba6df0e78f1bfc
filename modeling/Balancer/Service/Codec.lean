import Balancer.Json
import Balancer.Service

/-!
# The wire format of service objects

A service is written with all its fields. It is read from a record whose fields other than the
identifier and the kind have defaults; the identifier is one string, its key.
-/

namespace Balancer

/-- Write a protocol as its canonical name. -/
def Protocol.toJson (protocol : Protocol) : Json :=
  .str protocol.name

/-- Read a protocol from its canonical name. -/
def Protocol.ofJson? (value : Json) : Option Protocol :=
  value.choice?.bind Protocol.ofName?

/-- Write an identifier as its key. -/
def ServiceId.toJson (id : ServiceId) : Json :=
  .str id.key

/-- Read an identifier from its key. -/
def ServiceId.ofJson? (value : Json) : Option ServiceId :=
  value.text?.bind fun key => (ServiceId.ofKey key).toOption

/-- Write a service kind as its name. -/
def ServiceKind.toJson (kind : ServiceKind) : Json :=
  .str kind.name

/-- Read a service kind from its name. -/
def ServiceKind.ofJson? (value : Json) : Option ServiceKind :=
  value.choice?.bind ServiceKind.ofName?

/-- Write a service port; a missing node port is written as the null value. -/
def ServicePort.toJson (port : ServicePort) : Json :=
  .obj [("protocol", port.protocol.toJson), ("port", .ofWord16 port.port),
    ("node_port", (port.nodePort.map Json.ofWord16).getD .null)]

/-- Read a service port. -/
def ServicePort.ofJson? (value : Json) : Option ServicePort := do
  let fields ← value.fields? ["protocol", "port", "node_port"]
  let protocol ← Json.required Protocol.ofJson? fields "protocol"
  let port ← Json.required Json.word16? fields "port"
  let nodePort ← Json.withDefault none (Json.option? Json.word16?) fields "node_port"
  return { protocol, port, nodePort }

/-- Write a status entry. -/
def IngressEntry.toJson (entry : IngressEntry) : Json :=
  .obj [("ip", .str entry.ip), ("hostname", .str entry.hostname)]

/-- Read a status entry. -/
def IngressEntry.ofJson? (value : Json) : Option IngressEntry := do
  let fields ← value.fields? ["ip", "hostname"]
  let ip ← Json.withDefault "" Json.text? fields "ip"
  let hostname ← Json.withDefault "" Json.text? fields "hostname"
  return { ip, hostname }

namespace Annotations

/-- Write annotations as an object. -/
def toJson (annotations : Annotations) : Json :=
  .obj (annotations.toList.map fun entry => (entry.1, .str entry.2))

/-- Read one annotation. -/
def entry? (member : String × Json) : Option (String × String) :=
  member.2.text?.map fun text => (member.1, text)

/-- Read annotations from an object whose members are all strings. -/
def ofJson? : Json → Option Annotations
  | .obj members => (members.mapM entry?).map (Std.ExtTreeMap.ofList · compare)
  | _ => none

end Annotations

namespace Service

/-- The names of the fields of a service, in the order of declaration. -/
def fieldOrder : List String :=
  ["id", "service_type", "annotations", "ports", "ingress", "resource_version"]

/-- Write a service. -/
def toJson (service : Service) : Json :=
  .obj [("id", service.id.toJson), ("service_type", service.kind.toJson),
    ("annotations", Annotations.toJson service.annotations),
    ("ports", .arr (service.ports.map ServicePort.toJson)),
    ("ingress", .arr (service.ingress.map IngressEntry.toJson)),
    ("resource_version", .int service.version)]

/-- Read a service. -/
def ofJson? (value : Json) : Option Service := do
  let fields ← value.fields? fieldOrder
  let id ← Json.required ServiceId.ofJson? fields "id"
  let kind ← Json.required ServiceKind.ofJson? fields "service_type"
  let annotations ← Json.withDefault ∅ Annotations.ofJson? fields "annotations"
  let ports ← Json.withDefault [] (Json.list? ServicePort.ofJson?) fields "ports"
  let ingress ← Json.withDefault [] (Json.list? IngressEntry.ofJson?) fields "ingress"
  let version ← Json.withDefault 0 (Json.nat? word64Count) fields "resource_version"
  return { id, kind, annotations, ports, ingress, version }

end Service

end Balancer
