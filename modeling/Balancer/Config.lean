import Balancer.Backoff.Jitter
import Balancer.Pool
import Balancer.Push
import Balancer.Text.Blank
import Balancer.Text.Real
import Balancer.Text.Separated

/-!
# Configuration

The settings of the controller, read from named variables. A variable that is not set has a
default. The checks are made in a fixed order, and the first one that fails is the error. Only
the settings of the chosen kind of pool are looked at.
-/

namespace Balancer

/-- The variables that configure the controller. -/
inductive Variable where
  | cleanupInterval
  | requeueBase
  | requeueMax
  | requeueJitter
  | portManager
  | staticAddresses
  | externalBlock
  | internalBlock
  | agentUrls
  | agentTimeout
  deriving DecidableEq

/-- The name of a variable. -/
def Variable.name : Variable → String
  | .cleanupInterval => "LBAAS_CLEANUP_INTERVAL_SECS"
  | .requeueBase => "LBAAS_REQUEUE_BASE_MS"
  | .requeueMax => "LBAAS_REQUEUE_MAX_SECS"
  | .requeueJitter => "LBAAS_REQUEUE_JITTER"
  | .portManager => "LBAAS_PORT_MANAGER"
  | .staticAddresses => "LBAAS_STATIC_ADDRESSES"
  | .externalBlock => "LBAAS_MEMORY_EXTERNAL_PREFIX"
  | .internalBlock => "LBAAS_MEMORY_INTERNAL_PREFIX"
  | .agentUrls => "LBAAS_AGENT_URLS"
  | .agentTimeout => "LBAAS_AGENT_TIMEOUT_MS"

/-- Why a configuration is refused. -/
inductive ConfigError where
  | badNumeral (var : Variable) (cause : Text.NumeralError)
  | badReal (var : Variable) (cause : Text.RealError)
  | zeroInterval
  | zeroBase
  | maxBelowBase
  | infiniteJitter
  | badAddress (text : String)
  | noAddresses
  | badBlock (var : Variable) (cause : BlockError)
  | unknownPool (text : String)
  | badAgentUrl (url : String)
  deriving DecidableEq

/-- The text of a configuration error, with its cause if it has one. -/
def ConfigError.message : ConfigError → String
  | .badNumeral var cause => var.name ++ " has an invalid value.: " ++ cause.message
  | .badReal var cause => var.name ++ " has an invalid value.: " ++ cause.message
  | .zeroInterval => Variable.name .cleanupInterval ++ " must be greater than zero."
  | .zeroBase => Variable.name .requeueBase ++ " must be greater than zero."
  | .maxBelowBase =>
    Variable.name .requeueMax ++ " must not be smaller than " ++ Variable.name .requeueBase ++ "."
  | .infiniteJitter => Variable.name .requeueJitter ++ " must be a finite number."
  | .badAddress text =>
    "Invalid address in " ++ Variable.name .staticAddresses ++ ": " ++ text ++
      ": invalid IPv4 address syntax"
  | .noAddresses =>
    Variable.name .staticAddresses ++
      " must list at least one IPv4 address for the static port manager."
  | .badBlock var cause => var.name ++ " must be an IPv4 CIDR.: " ++ cause.message
  | .unknownPool text =>
    Variable.name .portManager ++ " must be 'static' or 'memory', got '" ++ text ++ "'."
  | .badAgentUrl url =>
    Variable.name .agentUrls ++ " entries must be http(s) URLs, got '" ++ url ++ "'."

/-- The pool to use. -/
inductive PoolChoice where
  | fixed (addresses : List Ipv4)
  | dynamic (external internal : Block)
  deriving DecidableEq

/-- An empty pool as chosen. -/
def PoolChoice.build : PoolChoice → Pool
  | .fixed addresses => .fixed { addresses }
  | .dynamic external internal => .dynamic (DynamicPool.empty external internal none)

/-- The settings of the controller. -/
structure Config where
  cleanupSeconds : Nat
  backoff : JitteredBackoff
  pool : PoolChoice
  agents : Agents
  agentTimeoutMillis : Nat

namespace Config

/-- What the variables are set to. -/
abbrev Lookup := String → Option String

/-- Read a variable that holds a 64-bit number, between blanks. -/
def readNumber (lookup : Lookup) (var : Variable) : Except ConfigError (Option Nat) :=
  match lookup var.name with
  | none => .ok none
  | some text =>
    match Text.readNumeral word64Count (Text.trim text) with
    | .ok value => .ok (some value)
    | .error cause => .error (.badNumeral var cause)

/-- The seconds between cleanups. -/
def readInterval (lookup : Lookup) : Except ConfigError Nat := do
  let seconds := (← readNumber lookup .cleanupInterval).getD 907
  if seconds = 0 then throw .zeroInterval
  return seconds

/-- The delays of requeued jobs. -/
def readBackoff (lookup : Lookup) : Except ConfigError Backoff := do
  let base := (← readNumber lookup .requeueBase).map (· * nanosPerMilli)
  let max := (← readNumber lookup .requeueMax).map (· * nanosPerSecond)
  let policy : Backoff :=
    { base := base.getD Backoff.standard.base, max := max.getD Backoff.standard.max }
  if policy.base = 0 then throw .zeroBase
  if policy.max < policy.base then throw .maxBelowBase
  return policy

/-- The jitter factor as it is given. -/
def readJitter (lookup : Lookup) : Except ConfigError Float :=
  match lookup (Variable.name .requeueJitter) with
  | none => .ok 0.0
  | some text =>
    match Text.readReal (Text.trim text) with
    | .error cause => .error (.badReal .requeueJitter cause)
    | .ok jitter => if jitter.isFinite then .ok jitter else .error .infiniteJitter

/-- The addresses of a list of written addresses. -/
def readAddresses : List String → Except ConfigError (List Ipv4)
  | [] => .ok []
  | text :: rest =>
    match Ipv4.ofText? text with
    | none => .error (.badAddress text)
    | some address => (readAddresses rest).map (address :: ·)

/-- A block, between blanks. -/
def readBlock (lookup : Lookup) (var : Variable) (default : String) : Except ConfigError Block :=
  match Block.ofText (Text.trim ((lookup var.name).getD default)) with
  | .ok block => .ok block
  | .error cause => .error (.badBlock var cause)

/-- The settings of a fixed pool: at least one address. -/
def readFixed (lookup : Lookup) : Except ConfigError PoolChoice := do
  let listed := (lookup (Variable.name .staticAddresses)).getD ""
  let addresses ← readAddresses (Text.listItems listed)
  if addresses = [] then throw .noAddresses
  return .fixed addresses

/-- The settings of a dynamic pool. -/
def readDynamic (lookup : Lookup) : Except ConfigError PoolChoice := do
  let external ← readBlock lookup .externalBlock "198.18.0.0/24"
  let internal ← readBlock lookup .internalBlock "198.19.0.0/24"
  return .dynamic external internal

/-- The kind of pool, which is not trimmed, and its settings. -/
def readPool (lookup : Lookup) : Except ConfigError PoolChoice :=
  let kind := (lookup (Variable.name .portManager)).getD "static"
  if kind = "static" then readFixed lookup
  else if kind = "memory" then readDynamic lookup
  else .error (.unknownPool kind)

/-- Whether a text starts as the address of an agent does. -/
def isAgentUrl (url : String) : Bool :=
  "http://".toList.isPrefixOf url.toList || "https://".toList.isPrefixOf url.toList

/-- The agents to push to. -/
def readAgents (lookup : Lookup) : Except ConfigError Agents :=
  let urls := Text.listItems ((lookup (Variable.name .agentUrls)).getD "")
  match urls.find? (!isAgentUrl ·) with
  | some url => .error (.badAgentUrl url)
  | none => .ok { bases := urls }

/-- Load the configuration. -/
def load (lookup : Lookup) : Except ConfigError Config := do
  let cleanupSeconds ← readInterval lookup
  let policy ← readBackoff lookup
  let jitter ← readJitter lookup
  let pool ← readPool lookup
  let agents ← readAgents lookup
  let agentTimeoutMillis := (← readNumber lookup .agentTimeout).getD 5000
  let backoff := JitteredBackoff.make policy jitter
  return { cleanupSeconds, backoff, pool, agents, agentTimeoutMillis }

end Config

end Balancer
