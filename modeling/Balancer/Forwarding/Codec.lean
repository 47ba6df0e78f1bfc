import Balancer.Forwarding
import Balancer.Service.Codec

/-!
# The wire format of the forwarding model

All fields are required except the balancing policy, which is empty when it is missing and is
written only when it is not empty.
-/

namespace Balancer

namespace PortForward

/-- The names of the fields of a forward, in the order of declaration. -/
def fieldOrder : List String :=
  ["protocol", "inbound-port", "destination-addresses", "destination-port", "policy"]

/-- Write a forward. -/
def toJson (forward : PortForward) : Json :=
  .obj ([("protocol", forward.protocol.toJson), ("inbound-port", .ofWord16 forward.inboundPort),
    ("destination-addresses", .arr (forward.destinations.map Json.str)),
    ("destination-port", .ofWord16 forward.destinationPort)] ++
    if forward.policy = "" then [] else [("policy", .str forward.policy)])

/-- Read a forward. -/
def ofJson? (value : Json) : Option PortForward := do
  let fields ← value.fields? fieldOrder
  let protocol ← Json.required Protocol.ofJson? fields "protocol"
  let inboundPort ← Json.required Json.word16? fields "inbound-port"
  let destinations ← Json.required (Json.list? Json.text?) fields "destination-addresses"
  let destinationPort ← Json.required Json.word16? fields "destination-port"
  let policy ← Json.withDefault "" Json.text? fields "policy"
  return { protocol, inboundPort, destinations, destinationPort, policy }

end PortForward

/-- Write the forwards of one address. -/
def IngressAddress.toJson (entry : IngressAddress) : Json :=
  .obj [("address", .str entry.address), ("ports", .arr (entry.forwards.map PortForward.toJson))]

/-- Read the forwards of one address. -/
def IngressAddress.ofJson? (value : Json) : Option IngressAddress := do
  let fields ← value.fields? ["address", "ports"]
  let address ← Json.required Json.text? fields "address"
  let forwards ← Json.required (Json.list? PortForward.ofJson?) fields "ports"
  return { address, forwards }

/-- Write a forwarding model. -/
def ForwardingModel.toJson (model : ForwardingModel) : Json :=
  .obj [("ingress", .arr (model.ingress.map IngressAddress.toJson))]

/-- Read a forwarding model. -/
def ForwardingModel.ofJson? (value : Json) : Option ForwardingModel := do
  let fields ← value.fields? ["ingress"]
  let ingress ← Json.required (Json.list? IngressAddress.ofJson?) fields "ingress"
  return { ingress }

end Balancer
