import EventChain.Condition.Operator
import EventChain.Pattern.Reader
import EventChain.Value.Basic

/-!
# Conditions

A `Condition` is a tree of connectives over leaves; a leaf compares a field of a record with
an operand. Every part knows its `path`: the chain of indices that leads to it from the
root of the config it was read from.
-/

namespace EventChain

structure Leaf where
  field : String
  op : Operator
  operand : Value
  path : String
  /-- The operand of a pattern operator, read once. -/
  pattern : Option Pattern
  deriving Inhabited

inductive Condition where
  | leaf (leaf : Leaf)
  | compound (connective : Connective) (parts : List Condition) (path : String)
  /-- A value that stands where a condition belongs. -/
  | misplaced (value : Value)
  deriving Inhabited

namespace Condition

/-- The path of a key below a path. -/
def keyPath (path key : String) : String := if path.isEmpty then key else path ++ "." ++ key

/-- The path of a part of a compound condition. -/
def partPath (path : String) (i : Nat) : String :=
  keyPath path ("expressions[" ++ toString i ++ "]")

end Condition

end EventChain
