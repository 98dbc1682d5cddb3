import EventChain.Condition.Operator
import EventChain.Json.Reader
import EventChain.Pattern.Fault
import EventChain.Value.Display

/-!
# Failures

`ConfigFault` is what can be wrong with a chain or with the config of one of its nodes, and a
`ConfigError` adds the node and the key. A `Failure` is any reason why an operation of the
engine has no result. A message fails to exist where it would show an integer with too many
digits; that is then the failure.
-/

namespace EventChain

inductive ConfigFault where
  | json (fault : Json.Fault)
  -- Conditions
  | conditionNotObject (found : Value)
  | compoundType (found : Value)
  | noConditions
  | noField
  | operatorNotText (found : Value)
  | unknownOperator (name : String)
  | noOperand (op : Operator)
  | arrayNeeded (op : Operator)
  | durationNeeded (op : Operator) (found : Value)
  | durationUnreadable (op : Operator)
  | patternNotText (found : Value)
  | badPattern (found : Value) (pattern : String) (invalid : Pattern.Invalid)
  | boundsShape (found : Value)
  | boundsNotNumeric (found : Value)
  | boundsNeeded
  | notCondition (found : Value)
  -- Transforms
  | transformNotObject
  | transformWithoutField
  | operationNotText (found : Value)
  | operandNotNumeric (found : Value)
  | divisionByZero
  | unknownOperation (name : String)
  -- Actions
  | actionNotObject
  -- Chains
  | duplicateNode (chain : Value)
  | foreignNode (own chain : Value)
  | unknownLink (target : Value)
  | noHead (chain : Value)
  | manyHeads (chain : Value) (heads : List Value)
  | loop (chain node : Value)
  | tooManyNodes (chain : Value) (limit : Int)
  | loopOutside (chain : Value) (nodes : List Value)
  /-- A message from elsewhere. -/
  | other (message : String)

namespace ConfigFault

def message : ConfigFault → Except DigitLimit String
  | json fault => pure ("config is not valid JSON: " ++ fault.message)
  | conditionNotObject found => pure ("expression must be an object, got " ++ found.typeName)
  | compoundType found => return "compound type must be AND or OR, got " ++ (← found.display)
  | noConditions => pure "compound expression requires a non-empty 'expressions' array"
  | noField => pure "expression requires a non-empty 'field'"
  | operatorNotText found => return "operator must be a string, got " ++ (← found.display)
  | unknownOperator name => pure ("unknown operator " ++ Text.quote name)
  | noOperand op => pure ("operator " ++ Text.quote op.name ++ " requires a 'value'")
  | arrayNeeded op => pure ("operator " ++ Text.quote op.name ++ " requires an array value")
  | durationNeeded op found =>
    return "operator " ++ Text.quote op.name ++ " requires a non-negative duration in seconds, got "
      ++ (← found.display)
  | durationUnreadable op => pure (Text.quote op.name ++ " requires a duration in seconds")
  | patternNotText found => return "'matches' requires a string pattern, got " ++ (← found.display)
  | badPattern found pattern invalid =>
    return "invalid regular expression " ++ (← found.display) ++ ": "
      ++ invalid.message pattern.toList
  | boundsShape found =>
    return "'between' requires a [low, high] array, got " ++ (← found.display)
  | boundsNotNumeric found =>
    return "'between' bounds must be numeric, got " ++ (← found.display)
  | boundsNeeded => pure "'between' requires a [low, high] array"
  | notCondition found => pure ("not an expression node: " ++ found.typeName)
  | transformNotObject => pure "transform config must be an object"
  | transformWithoutField => pure "transform requires a non-empty 'field'"
  | operationNotText found =>
    return "transform operation must be a string, got " ++ (← found.display)
  | operandNotNumeric found =>
    return "transform operand must be numeric, got " ++ (← found.display)
  | divisionByZero => pure "cannot divide by zero"
  | unknownOperation name => pure ("unknown transform operation " ++ Text.quote name)
  | actionNotObject => pure "action config must be an object"
  | duplicateNode chain => return "duplicate node id in chain " ++ (← chain.plain)
  | foreignNode own chain =>
    return "node belongs to chain " ++ (← own.plain) ++ ", not " ++ (← chain.plain)
  | unknownLink target => return "links to unknown node " ++ (← target.plain)
  | noHead chain =>
    return "chain " ++ (← chain.plain) ++ " has no head: every node is a link target"
  | manyHeads chain heads =>
    return "chain " ++ (← chain.plain) ++ " has " ++ toString heads.length
      ++ " nodes without an incoming link, expected exactly one head: "
      ++ (← (Value.array heads).display)
  | loop chain node =>
    return "chain " ++ (← chain.plain) ++ " loops back to node " ++ (← node.plain)
  | tooManyNodes chain limit =>
    return "chain " ++ (← chain.plain) ++ " exceeds the limit of " ++ (← Number.intText limit)
      ++ " nodes"
  | loopOutside chain nodes =>
    return "chain " ++ (← chain.plain) ++ " has nodes looping outside the main path: "
      ++ (← (Value.array nodes).display)
  | other message => pure message

end ConfigFault

/-- A fault with the node it belongs to, null for none, and the key inside the node's config.
`cyclic` names the chain where links loop or run past the limit. -/
structure ConfigError where
  fault : ConfigFault
  node : Value
  path : Option String
  cyclic : Option Value

namespace ConfigError

/-- The fault after the node and the key, as far as they are known. -/
def message (e : ConfigError) : Except DigitLimit String := do
  let text ← e.fault.message
  let shown ← e.node.plain
  let node := if e.node.isNull then [] else ["node " ++ shown]
  let path := match e.path with
    | some p => if p.isEmpty then [] else [p]
    | none => []
  pure (": ".intercalate (node ++ path ++ [text]))

/-- The same error attributed to a node. It is no longer one of a cyclic chain. -/
def withNode (e : ConfigError) (node : Value) : ConfigError := ⟨e.fault, node, e.path, none⟩

end ConfigError

/-- The counters of deadlines that expired. -/
inductive TimeoutCode where
  | dataCollection
  | chain
  | worker
  | action
  deriving DecidableEq, Repr

namespace TimeoutCode

def label : TimeoutCode → String
  | dataCollection => "DATA_COLLECTION_TIMEOUT"
  | chain => "RULE_CHAIN_TIMEOUT"
  | worker => "WORKER_TIMEOUT"
  | action => "EXTERNAL_ACTION_TIMEOUT"

def all : List TimeoutCode := [dataCollection, chain, worker, action]

def ofLabel? (label : String) : Option TimeoutCode := all.find? (·.label = label)

end TimeoutCode

/-- A deadline around an execution that expired. -/
structure Overrun where
  message : String
  code : TimeoutCode
  context : Record

/-- What lies beyond the numbers that can be represented. -/
inductive Excess where
  | operand
  | quotient
  | repetition
  deriving DecidableEq, Repr

def Excess.message : Excess → String
  | operand => "int too large to convert to float"
  | quotient => "integer division result too large for a float"
  | repetition => "the repetition number is too large"

inductive Failure where
  | config (error : ConfigError)
  | chainNotFound (chain : Value)
  | overrun (overrun : Overrun)
  | digitLimit (limit : DigitLimit)
  | excess (excess : Excess)
  /-- A pattern with the flags for the ASCII and for the full alphabet together. -/
  | alphabets
  | undecodable (fault : Text.DecodeFault)
  /-- An array or an object where an identifier is needed. -/
  | notAnIdentifier (found : Value)
  /-- A job that names no chain. -/
  | noChain
  /-- A batch of which fewer than no jobs may run at once. -/
  | negativeConcurrency
  /-- An order to stop, and the value that it came with. -/
  | interrupted (name : String) (detail : Value)
  /-- A wait that nothing ends. -/
  | endless

namespace Failure

/-- A config error, or the digit limit where it has no message. -/
def ofConfig (e : ConfigError) : Failure :=
  match e.message with
  | .ok _ => config e
  | .error limit => digitLimit limit

def message : Failure → Except DigitLimit String
  | config e => e.message
  | chainNotFound chain => return "Rule chain " ++ (← chain.plain) ++ " not found"
  | overrun o => pure o.message
  | digitLimit limit => pure limit.message
  | excess e => pure e.message
  | alphabets => pure "ASCII and UNICODE flags are incompatible"
  | undecodable fault => pure fault.message
  | notAnIdentifier found => pure ("unhashable type: " ++ Text.quote found.typeName)
  | noChain => pure "'chain_id'"
  | negativeConcurrency => pure "Semaphore initial value must be >= 0"
  | interrupted _ detail => detail.plain
  | endless => pure "waits for ever"

/-- The name of the kind of failure. -/
def label : Failure → String
  | config e => if e.cyclic.isSome then "CyclicChainError" else "ConfigurationError"
  | chainNotFound _ => "ChainNotFoundError"
  | overrun _ => "ExecutionTimeoutError"
  | digitLimit _ | alphabets | negativeConcurrency => "ValueError"
  | excess _ => "OverflowError"
  | undecodable _ => "UnicodeDecodeError"
  | notAnIdentifier _ => "TypeError"
  | noChain => "KeyError"
  | interrupted name _ => name
  | endless => "Endless"

/-- The code under which a batch reports a failure: that of the deadline that expired, or else the
name of its kind. -/
def code : Failure → String
  | overrun o => o.code.label
  | failure => failure.label

/-- Whether the failure is an error, which a handler of errors takes. -/
def isError : Failure → Bool
  | interrupted _ _ | endless => false
  | _ => true

end Failure

/-- Fails with a fault at a key of a config. -/
def refuse {α : Type} (fault : ConfigFault) (path : Option String) : Except Failure α :=
  throw (.ofConfig ⟨fault, .null, path, none⟩)

/-- The result of a computation that only the digit limit can fail. -/
def limited {α : Type} : Except DigitLimit α → Except Failure α
  | .ok a => pure a
  | .error limit => throw (.digitLimit limit)

end EventChain
