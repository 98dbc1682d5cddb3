import EventChain.Field.Basic
import EventChain.Number.Reading
import EventChain.Text.Encoding

/-!
# Scalar fields

The readers of integers, floats, booleans and texts. They are lenient: text counts as the
number or the truth value that it spells, an integral float as an integer, and a truth value
as zero or one. Numerals are of the ASCII script, and an underscore may stand between digits.
-/

namespace EventChain

namespace Numeral

def isPositiveDigit (c : Char) : Bool := '1' ≤ c && c ≤ '9'

/-- Drops leading zeros, and underscores after them, down to the last character before a point or
the end; `last` is the latest one dropped. -/
def dropZerosAfter (last : Char) : List Char → Option (List Char)
  | [] => some [last]
  | c :: rest =>
    if c = '0' ∨ c = '_' then dropZerosAfter c rest
    else if isPositiveDigit c then some (c :: rest)
    else if c = '.' then some (last :: c :: rest)
    else none

/-- A numeral without leading zeros; a negative one is left as it is. -/
def dropZeros : List Char → Option (List Char)
  | '0' :: rest => dropZerosAfter '0' rest
  | c :: rest => if isPositiveDigit c ∨ c = '-' then some (c :: rest) else none
  | [] => none

/-- A numeral without a fraction of zeros. -/
def dropZeroFraction (cs : List Char) : List Char :=
  match cs.dropWhile (· ≠ '.') with
  | _ :: fraction => if fraction.all (· = '0') then cs.takeWhile (· ≠ '.') else cs
  | [] => cs

def hasDoubleUnderscore : List Char → Bool
  | '_' :: '_' :: _ => true
  | _ :: rest => hasDoubleUnderscore rest
  | [] => false

/-- A numeral without the underscores between its characters, none where there are none or where
one is out of place. -/
def dropUnderscores? (cs : List Char) : Option (List Char) :=
  if !cs.contains '_' || cs.head? = some '_' || cs.getLast? = some '_' || hasDoubleUnderscore cs
  then none
  else some (cs.filter (· ≠ '_'))

/-- Reads digits as an integer: at least one, and no zero before others. -/
def plainDigits (cs : List Char) : Except FieldFault Nat :=
  if cs.isEmpty ∨ cs.any (!·.isDigit) = true ∨ (cs.head? = some '0' ∧ cs.length ≠ 1) then
    throw .badInteger
  else if DigitLimit.most < cs.length then throw .hugeInteger
  else pure (Decimal.ofDigits (cs.map fun c => c.toNat - 48))

/-- Reads a text as an integer: a sign, digits, and perhaps a fraction of zeros. -/
def lenientInt (cs : List Char) : Except FieldFault Int := do
  let cs := Text.trimSpace cs
  let cs := match cs with
    | '+' :: '-' :: _ => cs
    | '+' :: rest => rest
    | _ => cs
  match dropZeros cs with
  | none => throw .badInteger
  | some cs =>
    let cs := dropZeroFraction cs
    match (dropUnderscores? cs).getD cs with
    | '-' :: digits => return -(← plainDigits digits : Nat)
    | digits => return (← plainDigits digits : Nat)

/-- Reads a text as a float: a decimal numeral, or a word for infinity or no number. -/
def plainFloat? (cs : List Char) : Option Binary64 :=
  let (negative, body) := sign cs
  match String.ofList (body.map Char.toLower) with
  | "inf" | "infinity" => some (.infinite negative)
  | "nan" => some .nan
  | _ => if cs.all (·.toNat < 128) then float? cs else none

def lenientFloat? (cs : List Char) : Option Binary64 :=
  (plainFloat? (Text.trimSpace cs)).or ((dropUnderscores? cs).bind plainFloat?)

/-- The truth value that a word spells. -/
def truth? (cs : List Char) : Option Bool :=
  match String.ofList (cs.map Char.toLower) with
  | "0" | "off" | "f" | "false" | "n" | "no" => some false
  | "1" | "on" | "t" | "true" | "y" | "yes" => some true
  | _ => none

/-- Integers that fit into 64 bits with a sign. -/
def isWord (n : Int) : Bool := -0x8000000000000000 ≤ n && n < 0x8000000000000000

/-- The integer of an integral float. -/
def ofIntegral (x : Binary64) : Except FieldFault Int :=
  match x.toRat? with
  | none => throw .notFinite
  | some q =>
    if q.den ≠ 1 then throw .fractional
    else if -0x8000000000000000 < q.num ∧ q.num < 0x8000000000000000 then pure q.num
    else throw .hugeInteger

end Numeral

namespace Field

/-- The characters of a text or of bytes that hold one; none for other values. Bytes that hold no
text have the fault `bad`. -/
def characters? (bad : FieldFault) : Value → Option (Except FieldFault (List Char))
  | .text s =>
    some (if s.toList.any (Text.loneHalf? · |>.isSome) then throw .undecodable else pure s.toList)
  | .bytes octets =>
    some (match Text.decodeFrom .utf8 octets.length 0 octets with
      | .ok cs => if cs.any (Text.loneHalf? · |>.isSome) then throw bad else pure cs
      | .error _ => throw bad)
  | _ => none

def integer (v : Value) : Except FieldFault Int :=
  match v, characters? .badInteger v with
  | .number (.int n), _ => pure n
  | .boolean b, _ => pure (if b then 1 else 0)
  | .number (.float x), _ => Numeral.ofIntegral x
  | _, some cs => do Numeral.lenientInt (← cs)
  | _, none => throw .notInteger

def float (v : Value) : Except FieldFault Binary64 :=
  match v, characters? .badFloat v with
  | .number n, _ => match n.toFloat with
    | .ok x => pure x
    | .error _ => throw .notFloat
  | .boolean b, _ => pure (.ofInt (if b then 1 else 0))
  | _, some cs => do
    match Numeral.lenientFloat? (← cs) with
    | some x => pure x
    | none => throw .badFloat
  | _, none => throw .notFloat

/-- The truth value of an integer. -/
def truthOf : Int → Except FieldFault Bool
  | 0 => pure false
  | 1 => pure true
  | _ => throw .badBoolean

def boolean (v : Value) : Except FieldFault Bool :=
  match v, characters? .badBoolean v with
  | .boolean b, _ => pure b
  | .number (.int n), _ => if Numeral.isWord n then truthOf n else throw .notBoolean
  | .number (.float x), _ =>
    match Numeral.ofIntegral x with
    | .ok n => truthOf n
    | .error _ => throw .notBoolean
  | _, some cs => do
    match Numeral.truth? (← cs) with
    | some b => pure b
    | none => throw .badBoolean
  | _, none => throw .notBoolean

def text (v : Value) : Except FieldFault String :=
  match v, characters? .undecodable v with
  | .text s, _ => pure s
  | _, some cs => return String.ofList (← cs)
  | _, none => throw .notText

/-- Reads an integer that is at least a bound. -/
def integerFrom (least : Int) (v : Value) : Except FieldFault Int := do
  let n ← integer v
  if n < least then throw .tooSmall else pure n

/-- Reads a float that is not below zero. -/
def floatFromZero (v : Value) : Except FieldFault Binary64 := do
  let x ← float v
  if (Number.float x).less (.int 0) then throw .tooSmall else pure x

/-- Reads an identifier: text is kept as it is, and other values are read as an integer. -/
def identifier (v : Value) : Checked Value :=
  match v with
  | .text s => .valid (.text s)
  | _ => .either ((Value.int <$> single integer v).below (.name "int"))
    ((Value.text <$> single text v).below (.name "str"))

end Field

end EventChain
