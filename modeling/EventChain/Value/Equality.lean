import EventChain.Value.Coercion

/-!
# Equality of values

`Value.agrees` compares contents: numbers by value, a boolean counting as 0 or 1, objects
whatever the order of their entries. `Value.strictEquals` asks for the same kind besides.
`Value.looseEquals` coerces first: an array or an object is then equal to nothing but itself.
-/

namespace EventChain

/-- Whether two operands were read apart from one another or are one value given twice. -/
inductive Operands where
  | apart
  | one
  deriving DecidableEq, Repr

namespace Value

/-- The number that a boolean or a number is when contents are compared. -/
def quantity? : Value → Option Number
  | boolean b => some (.int (if b then 1 else 0))
  | number n => some n
  | _ => none

mutual

/-- Equality of contents between values that were read apart. -/
def agrees : Value → Value → Bool
  | null, null => true
  | text a, text b => a == b
  | array a, array b => agreeItems a b
  | timestamp a, timestamp b => a.equals b
  | object a, object b => a.length == b.length && agreeEntries a b
  | bytes a, bytes b => a == b
  | a, b => match a.quantity?, b.quantity? with
    | some m, some n => m.equals n
    | _, _ => false

def agreeItems : List Value → List Value → Bool
  | [], [] => true
  | v :: vs, w :: ws => agrees v w && agreeItems vs ws
  | _, _ => false

/-- Whether every entry has its counterpart in the other object. -/
def agreeEntries : List (String × Value) → Record → Bool
  | [], _ => true
  | (k, v) :: rest, other =>
    (match other.get? k with
      | some w => agrees v w
      | none => false) && agreeEntries rest other

end

/-- Equality of contents; a container and a foreign value given twice equal themselves. -/
def contentsEqual : Operands → Value → Value → Bool
  | .apart, a, b => a.agrees b
  | .one, a, b => match a with
    | array _ | object _ | foreign _ => true
    | _ => a.agrees b

/-- Equality of kind and contents. -/
def strictEquals (operands : Operands) (a b : Value) : Bool :=
  a.kind = b.kind && contentsEqual operands a b

/-- Whether two containers are one. Bytes of at most one octet are kept once only. -/
def identical (operands : Operands) : Value → Value → Bool
  | bytes a, bytes b => operands = .one || (a.length ≤ 1 && a == b)
  | _, _ => operands = .one

/-- The number that a boolean or a timestamp is replaced by before a loose comparison. -/
def replacement? : Value → Option Number
  | boolean b => some (.int (if b then 1 else 0))
  | timestamp t => some (.float t.milliseconds)
  | _ => none

/-- Loose equality of values that are no booleans, and no timestamps unless both are. -/
def looseSettled (operands : Operands) : Value → Value → Except DigitLimit Bool
  | null, b => pure b.isNull
  | a, null => pure a.isNull
  | timestamp a, timestamp b => pure (a.equals b)
  | number a, number b => pure (a.equals b)
  | text a, text b => pure (a == b)
  | number a, text b => pure (textIsNumber b a)
  | text a, number b => pure (textIsNumber a b)
  | array a, array b => pure (identical operands (array a) (array b))
  | array a, number b => do
    let shown ← toText (array a)
    pure (textIsNumber shown b)
  | number a, array b => do
    let shown ← toText (array b)
    pure (textIsNumber shown a)
  | array a, text b => do
    let shown ← toText (array a)
    pure (shown == b)
  | text a, array b => do
    let shown ← toText (array b)
    pure (a == shown)
  | a, b => pure (a.kind = .object && b.kind = .object && identical operands a b)
where
  /-- Whether a text reads as a given finite number. -/
  textIsNumber (s : String) (n : Number) : Bool :=
    match Number.ofText? s, n.finite? with
    | some m, some n => m.equals n
    | _, _ => false

/-- Loose equality. A boolean counts as its number, and so does a timestamp beside anything but
a timestamp; null equals only null. -/
def looseEquals (operands : Operands) (a b : Value) : Except DigitLimit Bool :=
  if a.isNull || b.isNull then pure (a.isNull && b.isNull)
  else
    let bothTimes := a.kind = .timestamp && b.kind = .timestamp
    let settle (v : Value) : Value :=
      if bothTimes then v else (v.replacement?.map number).getD v
    looseSettled operands (settle a) (settle b)

end Value

end EventChain
