import EventChain.Number.Reading
import EventChain.Time.Iso
import EventChain.Value.Display

/-!
# Coercions

What a value counts as where a number, a text or a point in time is asked for:
`Value.toNumber`, `Value.toText` and `Value.toTimestamp`. A value that counts as no number is
`none`. Writing an integer can fail for its number of digits, so every coercion that passes
through text can.
-/

namespace EventChain

/-- The coerced text of a number: a float that is integral is written as an integer. -/
def Number.coercedText : Number → Except DigitLimit String
  | .int n => intText n
  | .float x => match x with
    | .nan => pure "NaN"
    | .infinite negative => pure (if negative then "-Infinity" else "Infinity")
    | .finite _ _ => match x.toInt? with
      | some n => intText n
      | none => pure x.text

/-- A number itself if it is finite. -/
def Number.finite? : Number → Option Number
  | .int n => some (.int n)
  | .float x => if x.isFinite then some (.float x) else none

namespace Timestamp

def milliseconds (t : Timestamp) : Binary64 := t.seconds.mul (.ofInt 1000)

/-- The UTC timestamp a finite number of seconds after the start of 1970, to the nearest
microsecond, a half going to the even one. The fraction is scaled as a float. -/
def ofSeconds? (seconds : Binary64) : Option Timestamp := do
  let q ← seconds.toRat?
  let whole : Int := if q < 0 then -(-q).floor else q.floor
  let scaled := (Binary64.ofRat (q - whole)).mul (.ofInt 1000000)
  let micros ← scaled.toRat?
  let rounded : Int := roundQuotient micros.num.natAbs micros.den
  ofInstant? (whole * 1000000 + (if micros < 0 then -rounded else rounded))

end Timestamp

namespace Value

mutual

/-- The text of a value: an array is the texts of its items with commas between them, null
among them being empty. -/
def toText : Value → Except DigitLimit String
  | null => pure "null"
  | boolean b => pure (if b then "true" else "false")
  | number n => n.coercedText
  | text s => pure s
  | array items => do
    let shown ← itemTexts items
    pure (",".intercalate shown)
  | timestamp t => pure t.iso
  | object _ => pure "[object Object]"
  | bytes octets => pure (Text.quoteBytes octets)
  | foreign s => pure s

def itemTexts : List Value → Except DigitLimit (List String)
  | [] => pure []
  | null :: rest => do
    let others ← itemTexts rest
    pure ("" :: others)
  | v :: rest => do
    let shown ← toText v
    let others ← itemTexts rest
    pure (shown :: others)

end

/-- The number that a value counts as, if it counts as one. An array counts as its text does. -/
def toNumber : Value → Except DigitLimit (Option Number)
  | null => pure none
  | boolean b => pure (some (.int (if b then 1 else 0)))
  | number n => pure n.finite?
  | text s => pure (Number.ofText? s)
  | array items => do
    let shown ← toText (.array items)
    pure (Number.ofText? shown)
  | timestamp t => pure (some (.float t.milliseconds))
  | object _ | bytes _ | foreign _ => pure none

/-- The number of milliseconds since the start of 1970 as seconds. -/
def secondsOfMillis? (n : Number) : Option Binary64 :=
  match n.div (.int 1000) with
  | .ok (.float x) => some x
  | _ => none

/-- The point in time that a value counts as: a timestamp, ISO 8601 text, a final Z standing for
the offset of UTC, or a number of milliseconds since the start of 1970. -/
def toTimestamp : Value → Option Timestamp
  | timestamp t => some t.asUtc
  | number n => (secondsOfMillis? n).bind Timestamp.ofSeconds?
  | text s =>
    let cs := Text.trim s.toList
    let cs := if cs.getLast? = some 'Z' then cs.dropLast ++ "+00:00".toList else cs
    (Timestamp.ofIso? cs).map Timestamp.asUtc
  | _ => none

end Value

end EventChain
