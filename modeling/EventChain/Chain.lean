import EventChain.Action
import EventChain.Condition.Reader
import EventChain.Transform

/-!
# Chains and their nodes

A `Chain` is the header of a pipeline and a `Node` one of its stored steps, which names the
next one by its identifier. `Node.step` reads the config of a node as the `Step` that its
type asks for; a type that is not known gives a step that does nothing.
-/

namespace EventChain

/-- How often a scheduler tries a chain and how long it waits in between. -/
structure RetryPolicy where
  attempts : Value
  delay : Value

structure Chain where
  id : Value
  name : Value
  tenant : Value
  enabled : Value
  priority : Value
  retry : RetryPolicy
  description : Value

/-- A chain of which only the identifier and the name are known. -/
def Chain.named (id name : Value) : Chain :=
  ⟨id, name, .null, .boolean true, .int 0, ⟨.int 1, .number (.float .zero)⟩, .null⟩

/-- A stored step. `type` may be any value; `next` is null at the end of the chain. -/
structure Node where
  id : Value
  chain : Value
  type : Value
  name : Value
  config : Value
  next : Value

inductive Step where
  | filter (node : Value) (condition : Condition)
  | transform (node : Value) (transform : Transform)
  | action (node : Value) (action : Action)
  | unknown (node : Value) (type : String) (config : Value)

def Step.node : Step → Value
  | filter node _ | transform node _ | action node _ | unknown node _ _ => node

/-- Attributes a config error to a node. -/
def Failure.attribute (node : Value) : Failure → Failure
  | .config e => .ofConfig (e.withNode node)
  | failure => failure

/-- The result of a computation whose config errors belong to a node. -/
def attributed {α : Type} (node : Value) : Except Failure α → Except Failure α
  | .ok a => pure a
  | .error failure => throw (failure.attribute node)

/-- Reads the config of a node; `readFilter` reads that of a filter. -/
def Node.step (readFilter : Value → Except Failure Condition) (node : Node) :
    Except Failure Step :=
  match node.type with
  | .text "filter" => attributed node.id do return .filter node.id (← readFilter node.config)
  | .text "transform" => attributed node.id do
    return .transform node.id (← Transform.read node.config)
  | .text "action" => attributed node.id do return .action node.id (← Action.read node.config)
  | type => return .unknown node.id (← limited type.plain) node.config

end EventChain
