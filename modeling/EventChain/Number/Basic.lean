import EventChain.Number.Decimal

/-!
# Numbers of event records

A `Number` is an integer of any size or a binary64 value. The two are compared exactly, by
the place each takes on the extended rational line. Arithmetic on integers is exact; with a
float on either side both become floats first, and a quotient is always a float.
-/

namespace EventChain

inductive Number where
  | int (n : Int)
  | float (x : Binary64)
  deriving DecidableEq, Repr, Inhabited

/-- A place on the rational line closed by two infinities. -/
inductive Place where
  | below
  | finite (q : Rat)
  | above
  deriving DecidableEq, Repr

namespace Place

def lt : Place → Place → Bool
  | .finite p, .finite q => decide (p < q)
  | below, below | above, above => false
  | below, _ | _, above => true
  | _, below | above, _ => false

def le (a b : Place) : Bool := a = b || a.lt b

end Place

/-- Why a sum, difference, product or quotient has no value. -/
inductive ArithmeticFault where
  /-- An integer operand lies beyond the largest float. -/
  | operandTooLarge
  /-- The quotient of two integers lies beyond the largest float. -/
  | quotientTooLarge
  | divisionByZero
  deriving DecidableEq, Repr

/-- Decimal text of an integer is limited in its number of digits. -/
inductive DigitLimit where
  | writing
  | reading (digits : Nat)
  deriving DecidableEq, Repr

namespace DigitLimit

/-- The most digits that an integer's text may have. -/
def most : Nat := 4300

def message (fault : DigitLimit) : String :=
  "Exceeds the limit (4300 digits) for integer string conversion"
    ++ (match fault with
      | writing => ""
      | reading digits => ": value has " ++ toString digits ++ " digits")
    ++ "; use sys.set_int_max_str_digits() to increase the limit"

end DigitLimit

namespace Number

/-- The place of a number on the line; none for the value that is no number. -/
def place? : Number → Option Place
  | int n => some (.finite n)
  | float .nan => none
  | float (.infinite negative) => some (if negative then .below else .above)
  | float x@(.finite _ _) => x.toRat?.map .finite

def compareWith (test : Place → Place → Bool) (a b : Number) : Bool :=
  match a.place?, b.place? with
  | some p, some q => test p q
  | _, _ => false

/-- Equality by value: the integer 2 equals the float 2.0, and nan equals nothing. -/
def equals (a b : Number) : Bool := compareWith (fun p q => decide (p = q)) a b

def less (a b : Number) : Bool := compareWith Place.lt a b

def atMost (a b : Number) : Bool := compareWith Place.le a b

def isZero (a : Number) : Bool := a.equals (.int 0)

/-- The float nearest to a number. -/
def toFloat : Number → Except ArithmeticFault Binary64
  | float x => pure x
  | int n =>
    let x := Binary64.ofInt n
    if x.isFinite then pure x else throw .operandTooLarge

/-- Whether a number of seconds is more than a clock takes: a positive integer too large for a
float. -/
def isTooLong : Number → Bool
  | int n => decide (0 < n) && !(Binary64.ofInt n).isFinite
  | float _ => false

/-- Applies the exact operation to two integers, the float one to all other operands. -/
def combine (exact : Int → Int → Int) (rounded : Binary64 → Binary64 → Binary64) :
    Number → Number → Except ArithmeticFault Number
  | int a, int b => pure (.int (exact a b))
  | a, b => do
    let x ← a.toFloat
    let y ← b.toFloat
    pure (.float (rounded x y))

def add : Number → Number → Except ArithmeticFault Number := combine (· + ·) Binary64.add
def sub : Number → Number → Except ArithmeticFault Number := combine (· - ·) Binary64.sub
def mul : Number → Number → Except ArithmeticFault Number := combine (· * ·) Binary64.mul

/-- The quotient, rounded once. The quotient of two integers is rounded from the exact one. -/
def div : Number → Number → Except ArithmeticFault Number
  | int a, int b =>
    if b = 0 then throw .divisionByZero
    else
      let x := Binary64.ofQuotient (decide (a < 0) != decide (b < 0)) a.natAbs b.natAbs
      if x.isFinite then pure (.float x) else throw .quotientTooLarge
  | a, b => do
    let x ← a.toFloat
    let y ← b.toFloat
    match x.div? y with
    | some z => pure (.float z)
    | none => throw .divisionByZero

/-- An integer where the number is integral, the number itself elsewhere. -/
def normalize : Number → Number
  | int n => .int n
  | float x => match x.toInt? with
    | some n => .int n
    | none => .float x

/-- Decimal text of an integer. -/
def intText (n : Int) : Except DigitLimit String :=
  let digits := Nat.toDigits 10 n.natAbs
  if DigitLimit.most < digits.length then throw .writing
  else pure ((if n < 0 then "-" else "") ++ String.ofList digits)

def text : Number → Except DigitLimit String
  | int n => intText n
  | float x => pure x.text

end Number

end EventChain
