import Balancer.Forwarding

/-!
# Pushing the model to the agents

The model is posted to every agent in turn, also after a failure, and the push fails with the
texts of all failures. A model counts as delivered only when every agent took it.
-/

namespace Balancer

/-- The failure of a push: the number of agents and the texts of those that failed. -/
structure PushError where
  total : Nat
  failures : List String
  deriving DecidableEq

/-- The text of a push error. -/
def PushError.message (error : PushError) : String :=
  toString error.failures.length ++ " of " ++ toString error.total ++ " agents failed: " ++
    "; ".intercalate error.failures

/-- The agents by their base addresses. -/
structure Agents where
  bases : List String
  deriving DecidableEq

namespace Agents

/-- The address that an agent takes the model at: the slashes at the end of its base address are
dropped. -/
def applyAddress (base : String) : String :=
  String.ofList (base.toList.reverse.dropWhile (· = '/')).reverse ++ "/v1/apply"

/-- Post to every agent; `post` answers the reason why a request to an address failed. -/
def push (agents : Agents) (post : String → Option String) : Option PushError :=
  let failures := agents.bases.filterMap fun base =>
    (post (applyAddress base)).map fun reason => applyAddress base ++ ": " ++ reason
  if failures = [] then none else some { total := agents.bases.length, failures }

/-- Post to agents whose addresses no request can be made for. -/
def pushUnusable (agents : Agents) : Option PushError :=
  agents.push fun _ => some "builder error"

end Agents

/-- The receiving side of pushes: how a push fails at present, and the models taken so far. -/
structure Pusher where
  failure : Option PushError := none
  received : List ForwardingModel := []
  deriving DecidableEq

namespace Pusher

/-- Push a model. -/
def push (pusher : Pusher) (model : ForwardingModel) : Except PushError Pusher :=
  match pusher.failure with
  | some error => .error error
  | none => .ok { pusher with received := pusher.received ++ [model] }

end Pusher

end Balancer
