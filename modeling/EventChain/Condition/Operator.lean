/-!
# Operators of conditions

The closed set of operators that a leaf of a condition can have, by the shape of the operand
that each one takes.
-/

namespace EventChain

inductive Operator where
  | isNull
  | isNotNull
  | isEmpty
  | isNotEmpty
  | isNumber
  | isString
  | isBoolean
  | isArray
  | greater
  | greaterOrEqual
  | less
  | lessOrEqual
  | equal
  | notEqual
  | between
  | contains
  | notContains
  | startsWith
  | endsWith
  | matchesPattern
  | isIn
  | notIn
  | hasAll
  | hasAny
  | hasNone
  | olderThan
  | newerThan
  | inLast
  deriving DecidableEq, Repr, Inhabited

namespace Operator

def name : Operator → String
  | isNull => "isNull"
  | isNotNull => "isNotNull"
  | isEmpty => "isEmpty"
  | isNotEmpty => "isNotEmpty"
  | isNumber => "isNumber"
  | isString => "isString"
  | isBoolean => "isBoolean"
  | isArray => "isArray"
  | greater => ">"
  | greaterOrEqual => ">="
  | less => "<"
  | lessOrEqual => "<="
  | equal => "=="
  | notEqual => "!="
  | between => "between"
  | contains => "contains"
  | notContains => "notContains"
  | startsWith => "startsWith"
  | endsWith => "endsWith"
  | matchesPattern => "matches"
  | isIn => "in"
  | notIn => "notIn"
  | hasAll => "hasAll"
  | hasAny => "hasAny"
  | hasNone => "hasNone"
  | olderThan => "olderThan"
  | newerThan => "newerThan"
  | inLast => "inLast"

def all : List Operator :=
  [isNull, isNotNull, isEmpty, isNotEmpty, isNumber, isString, isBoolean, isArray, greater,
    greaterOrEqual, less, lessOrEqual, equal, notEqual, between, contains, notContains, startsWith,
    endsWith, matchesPattern, isIn, notIn, hasAll, hasAny, hasNone, olderThan, newerThan, inLast]

/-- The operator with a name. -/
def ofName? (name : String) : Option Operator := all.find? (·.name = name)

/-- What operand an operator takes. -/
inductive Shape where
  /-- None at all. -/
  | unary
  /-- Anything. -/
  | any
  | array
  | bounds
  | duration
  | pattern
  deriving DecidableEq, Repr

def shape : Operator → Shape
  | isNull | isNotNull | isEmpty | isNotEmpty | isNumber | isString | isBoolean | isArray => .unary
  | isIn | notIn | hasAll | hasAny | hasNone => .array
  | between => .bounds
  | olderThan | newerThan | inLast => .duration
  | matchesPattern => .pattern
  | greater | greaterOrEqual | less | lessOrEqual | equal | notEqual | contains | notContains
  | startsWith | endsWith => .any

/-- Operators about the presence of a field, which hold of absent fields too. -/
def isPresence : Operator → Bool
  | isNull | isNotNull | isEmpty | isNotEmpty => true
  | _ => false

theorem ofName?_name (op : Operator) : ofName? op.name = some op := by
  cases op <;> rfl

end Operator

/-- How a compound condition combines its parts. -/
inductive Connective where
  | all
  | any
  deriving DecidableEq, Repr, Inhabited

def Connective.name : Connective → String
  | all => "AND"
  | any => "OR"

end EventChain
