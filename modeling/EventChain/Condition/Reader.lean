import EventChain.Condition.Basic
import EventChain.Config

/-!
# Reading conditions

`Condition.read` reads a decoded config as a condition and refuses everything that can be
found wrong without a record, at the path of the key that is wrong. A compound condition is
checked itself before its parts, and those in their order.
-/

namespace EventChain

namespace Record

theorem sizeOf_get?_lt {r : Record} {key : String} {v : Value} (h : r.get? key = some v) :
    sizeOf v < sizeOf r := by
  induction r with
  | nil => simp [get?] at h
  | cons entry rest ih =>
    obtain ⟨k, w⟩ := entry
    simp only [get?] at h
    split at h
    · cases h
      simp only [List.cons.sizeOf_spec, Prod.mk.sizeOf_spec]
      omega
    · have := ih h
      simp only [List.cons.sizeOf_spec, Prod.mk.sizeOf_spec]
      omega

end Record

namespace Condition

/-- The connective that a value names in letters of any case. -/
def connective? : Value → Option Connective
  | .text s =>
    match String.ofList (Text.upper s.toList) with
    | "AND" => some .all
    | "OR" => some .any
    | _ => none
  | _ => none

/-- A pattern read from text; faults of the text are faults of the config at a path. -/
def readPattern (found : Value) (source path : String) : Except Failure Pattern :=
  match Pattern.read source with
  | .ok pattern => pure pattern
  | .error (.invalid invalid) => refuse (.badPattern found source invalid) path
  | .error .repetitionTooLarge => throw (.excess .repetition)
  | .error .alphabets => throw .alphabets
  | .error (.digitLimit limit) => throw (.digitLimit limit)

/-- Reads the operand of an operator, with the pattern it holds. -/
def readOperand (op : Operator) (v : Value) (path : String) :
    Except Failure (Value × Option Pattern) :=
  match op.shape with
  | .unary => pure (.null, none)
  | .any => pure (v, none)
  | .array => match v with
    | .array items => pure (.array items, none)
    | _ => refuse (.arrayNeeded op) path
  | .bounds => match v with
    | .array [low, high] => match Config.operand? low, Config.operand? high with
      | some a, some b => pure (.array [.number a, .number b], none)
      | _, _ => refuse (.boundsNotNumeric v) path
    | _ => refuse (.boundsShape v) path
  | .duration => match Config.operand? v with
    | some n =>
      if n.less (.int 0) then refuse (.durationNeeded op v) path else pure (.number n, none)
    | none => refuse (.durationNeeded op v) path
  | .pattern => match v with
    | .text source => do
      let pattern ← readPattern v source path
      pure (v, some pattern)
    | _ => refuse (.patternNotText v) path

/-- Reads a leaf. The field may stand under the key "key". -/
def readLeaf (r : Record) (path : String) : Except Failure Leaf := do
  let named := match r.get? "field" with
    | some v => v
    | none => r.get "key"
  match Config.name? named with
  | none => refuse .noField (keyPath path "field")
  | some field =>
    match r.get "operator" with
    | .text name =>
      match Operator.ofName? name with
      | none => refuse (.unknownOperator name) (keyPath path "operator")
      | some op =>
        if op.shape = .unary then pure ⟨field, op, .null, path, none⟩
        else match r.get? "value" with
          | none => refuse (.noOperand op) (keyPath path "value")
          | some v =>
            let (operand, pattern) ← readOperand op v (keyPath path "value")
            pure ⟨field, op, operand, path, pattern⟩
    | v => refuse (.operatorNotText v) (keyPath path "operator")

mutual

/-- Reads a decoded config as the condition at a path. -/
def readAt (path : String) : Value → Except Failure Condition
  | .object r =>
    if Record.has r "type" || Record.has r "expressions" then
      match connective? (Record.get r "type") with
      | none => refuse (.compoundType (Record.get r "type")) (keyPath path "type")
      | some connective =>
        match h : Record.get? r "expressions" with
        | some (.array (first :: rest)) => do
          have := Record.sizeOf_get?_lt h
          let parts ← readParts path 0 (first :: rest)
          pure (.compound connective parts path)
        | _ => refuse .noConditions (keyPath path "expressions")
    else do
      let leaf ← readLeaf r path
      pure (.leaf leaf)
  | v => refuse (.conditionNotObject v) (if path.isEmpty then none else some path)
termination_by v => sizeOf v
decreasing_by
  simp only [Value.array.sizeOf_spec, Value.object.sizeOf_spec, List.cons.sizeOf_spec] at *
  omega

/-- Reads the parts of the compound condition at a path, from the `i`-th on. -/
def readParts (path : String) (i : Nat) : List Value → Except Failure (List Condition)
  | [] => pure []
  | v :: rest => do
    let part ← readAt (partPath path i) v
    let parts ← readParts path (i + 1) rest
    pure (part :: parts)
termination_by vs => sizeOf vs

end

def read (config : Value) : Except Failure Condition := do
  readAt "" (← Config.decode config)

end Condition

end EventChain
