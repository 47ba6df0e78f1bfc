/-!
# Transport ports

What a service asks for on its address: port numbers, each with a transport protocol.
-/

namespace Balancer

/-- A transport protocol. -/
inductive Protocol where
  | tcp
  | udp
  | sctp
  deriving DecidableEq

/-- A text that names no protocol. -/
structure UnknownProtocol where
  text : String
  deriving DecidableEq

/-- The text of the error. -/
def UnknownProtocol.message (error : UnknownProtocol) : String :=
  "unknown protocol: '" ++ error.text ++ "'"

namespace Protocol

/-- The canonical name, in upper case. -/
def name : Protocol → String
  | .tcp => "TCP"
  | .udp => "UDP"
  | .sctp => "SCTP"

/-- The protocol with exactly this canonical name. -/
def ofName? (name : String) : Option Protocol :=
  if name = "TCP" then some .tcp
  else if name = "UDP" then some .udp
  else if name = "SCTP" then some .sctp
  else none

/-- Read a protocol name in any mixture of ASCII upper and lower case letters. -/
def ofText (text : String) : Except UnknownProtocol Protocol :=
  match ofName? (text.map Char.toUpper) with
  | some protocol => .ok protocol
  | none => .error { text }

/-- The place of a protocol in the order of forwards. -/
def rank : Protocol → Nat
  | .tcp => 0
  | .udp => 1
  | .sctp => 2

/-- Only the canonical name is read back. -/
theorem ofName?_eq_some_iff (name : String) (protocol : Protocol) :
    ofName? name = some protocol ↔ name = protocol.name := by
  unfold ofName?
  split
  · cases protocol <;> simp_all [Protocol.name]
  · split
    · cases protocol <;> simp_all [Protocol.name]
    · split
      · cases protocol <;> simp_all [Protocol.name]
      · cases protocol <;> simp_all [Protocol.name]

end Protocol

/-- A port number with its protocol. -/
structure TransportPort where
  protocol : Protocol
  number : UInt16
  deriving DecidableEq

/-- The written form, such as `TCP/80`. -/
def TransportPort.text (port : TransportPort) : String :=
  port.protocol.name ++ "/" ++ toString port.number.toNat

end Balancer
