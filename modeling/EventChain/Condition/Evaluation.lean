import EventChain.Condition.Reader
import EventChain.Lookup
import EventChain.Pattern.Search
import EventChain.Value.Equality

/-!
# Evaluating conditions

`Condition.holds` decides whether a record satisfies a condition at an instant. Apart from
the operators about presence, no operator holds of a field that is null or absent. A
condition that was read from a config fails only for integers with too many digits; one
made by hand also for operands of the wrong shape.
-/

namespace EventChain

/-- Whether characters occur in a row among others. -/
def Text.occurs (part : List Char) : List Char → Bool
  | [] => part.isEmpty
  | c :: rest => part.isPrefixOf (c :: rest) || occurs part rest

def Text.contains (text part : String) : Bool := occurs part.toList text.toList

namespace Leaf

/-- Fails at a key of the leaf. -/
def refuse {α : Type} (leaf : Leaf) (fault : ConfigFault) (key : String) : Except Failure α :=
  EventChain.refuse fault (some (Condition.keyPath leaf.path key))

/-- Compares the numbers that two values count as; false unless both count as one. -/
def compare (test : Number → Number → Bool) (v operand : Value) : Except Failure Bool := do
  let a ← limited v.toNumber
  let b ← limited operand.toNumber
  pure (match a, b with
    | some a, some b => test a b
    | _, _ => false)

def holdsBetween (leaf : Leaf) (v : Value) : Except Failure Bool :=
  match leaf.operand with
  | .array [low, high] => do
    let n ← limited v.toNumber
    let low ← limited low.toNumber
    let high ← limited high.toNumber
    pure (match n, low, high with
      | some n, some low, some high => low.atMost n && n.atMost high
      | _, _, _ => false)
  | _ => leaf.refuse .boundsNeeded "value"

/-- Tests the text that a value counts as against the text of the operand. -/
def holdsText (leaf : Leaf) (test : String → String → Bool) (v : Value) : Except Failure Bool := do
  let text ← limited v.toText
  let part ← limited leaf.operand.toText
  pure (test text part)

def holdsMatches (leaf : Leaf) (v : Value) : Except Failure Bool := do
  let text ← limited v.toText
  match leaf.pattern with
  | some pattern => pure (pattern.search text)
  | none =>
    let source ← limited leaf.operand.toText
    let pattern ← Condition.readPattern leaf.operand source (Condition.keyPath leaf.path "value")
    pure (pattern.search text)

/-- Tests the items of the operand, which has to be an array. -/
def withItems (leaf : Leaf) (test : List Value → Bool) : Except Failure Bool :=
  match leaf.operand with
  | .array items => pure (test items)
  | _ => leaf.refuse (.arrayNeeded leaf.op) "value"

/-- Whether an array has an item that equals a value strictly. -/
def present (members : List Value) (item : Value) : Bool :=
  members.any (·.strictEquals .apart item)

/-- Tests the members of a value against the items of the operand; false unless it is an array. -/
def holdsSet (leaf : Leaf) (test : List Value → List Value → Bool) (v : Value) :
    Except Failure Bool :=
  leaf.withItems fun items => match v with
    | .array members => test members items
    | _ => false

/-- The age of a timestamp in seconds. -/
def age (now t : Timestamp) : Number :=
  let micros := now.instant - t.instant
  .float (.ofQuotient (decide (micros < 0)) micros.natAbs 1000000)

/-- Tests the age of a timestamp against the operand; false of a value that is no timestamp. -/
def holdsAge (leaf : Leaf) (test : Number → Number → Bool) (now : Timestamp) (v : Value) :
    Except Failure Bool := do
  match ← limited leaf.operand.toNumber with
  | none => leaf.refuse (.durationUnreadable leaf.op) "value"
  | some seconds => match v.toTimestamp with
    | some t => pure (test (age now t) seconds)
    | none =>
      -- A value that is no timestamp is reported, and a report shows it.
      let _ ← limited v.display
      pure false

/-- Whether a value that is not null satisfies the operator of a leaf. -/
def holdsOf (leaf : Leaf) (now : Timestamp) (v : Value) : Except Failure Bool :=
  match leaf.op with
  | .isNull => pure false
  | .isNotNull => pure true
  | .isEmpty => pure v.isEmpty
  | .isNotEmpty => pure (!v.isEmpty)
  | .isNumber => pure (v.kind = .number)
  | .isString => pure (v.kind = .string)
  | .isBoolean => pure (v.kind = .boolean)
  | .isArray => pure (v.kind = .array)
  | .greater => compare (fun a b => b.less a) v leaf.operand
  | .greaterOrEqual => compare (fun a b => b.atMost a) v leaf.operand
  | .less => compare Number.less v leaf.operand
  | .lessOrEqual => compare Number.atMost v leaf.operand
  | .equal => limited (v.looseEquals .apart leaf.operand)
  | .notEqual => return !(← limited (v.looseEquals .apart leaf.operand))
  | .between => leaf.holdsBetween v
  | .contains => leaf.holdsText Text.contains v
  | .notContains => leaf.holdsText (fun text part => !Text.contains text part) v
  | .startsWith => leaf.holdsText (fun text part => part.toList.isPrefixOf text.toList) v
  | .endsWith => leaf.holdsText (fun text part => part.toList.isSuffixOf text.toList) v
  | .matchesPattern => leaf.holdsMatches v
  | .isIn => leaf.withItems fun items => items.any (v.strictEquals .apart ·)
  | .notIn => leaf.withItems fun items => !items.any (v.strictEquals .apart ·)
  | .hasAll => leaf.holdsSet (fun members items => items.all (present members)) v
  | .hasAny => leaf.holdsSet (fun members items => items.any (present members)) v
  | .hasNone => leaf.holdsSet (fun members items => !items.any (present members)) v
  | .olderThan => leaf.holdsAge (fun age seconds => seconds.less age) now v
  | .newerThan => leaf.holdsAge (fun age seconds => age.less seconds) now v
  | .inLast =>
    leaf.holdsAge (fun age seconds => (Number.int 0).atMost age && age.atMost seconds) now v

def holds (leaf : Leaf) (now : Timestamp) (r : Record) : Except Failure Bool :=
  let v := r.lookup leaf.field
  if v.isNull then pure (leaf.op = .isNull || leaf.op = .isEmpty) else leaf.holdsOf now v

end Leaf

namespace Condition

mutual

/-- Whether a record satisfies a condition at an instant. -/
def holds (now : Timestamp) (r : Record) : Condition → Except Failure Bool
  | .leaf l => l.holds now r
  | .compound .all parts _ => allHold now r parts
  | .compound .any parts _ => anyHolds now r parts
  | .misplaced v => refuse (.notCondition v) none

/-- Whether all parts hold; those after the first that does not are not looked at. -/
def allHold (now : Timestamp) (r : Record) : List Condition → Except Failure Bool
  | [] => pure true
  | c :: rest => do
    if ← c.holds now r then allHold now r rest else pure false

/-- Whether a part holds; those after the first that does are not looked at. -/
def anyHolds (now : Timestamp) (r : Record) : List Condition → Except Failure Bool
  | [] => pure false
  | c :: rest => do
    if ← c.holds now r then pure true else anyHolds now r rest

end

/-- Reads a config as a condition and evaluates it. -/
def evaluate (config : Value) (now : Timestamp) (r : Record) : Except Failure Bool := do
  (← read config).holds now r

end Condition

end EventChain
