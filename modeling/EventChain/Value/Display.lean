import EventChain.Text.Quoted
import EventChain.Value.Basic

/-!
# Values shown in messages

`Value.display` writes a value unambiguously, with quotes around text; `Value.plain` writes
text and timestamps as they are and everything else like `display`. Both fail where an
integer has more digits than decimal text may have.
-/

namespace EventChain

namespace Timestamp

/-- A span of time in days, seconds and microseconds, the parts that are zero left out. -/
def displaySpan (micros : Int) : String :=
  let days := micros / dayMicros
  let rest := (micros % dayMicros).toNat
  let parts :=
    (if days = 0 then [] else ["days=" ++ toString days])
      ++ (if rest / 1000000 = 0 then [] else ["seconds=" ++ toString (rest / 1000000)])
      ++ (if rest % 1000000 = 0 then [] else ["microseconds=" ++ toString (rest % 1000000)])
  "datetime.timedelta(" ++ (if parts.isEmpty then "0" else ", ".intercalate parts) ++ ")"

def displayOffset (o : Offset) : String :=
  if o = .utc then "datetime.timezone.utc" else "datetime.timezone(" ++ displaySpan o.micros ++ ")"

/-- The fields of a timestamp; seconds and microseconds only as far as they are not zero. -/
def display (t : Timestamp) : String :=
  let tail := if t.time.micro ≠ 0 then [t.time.second, t.time.micro]
    else if t.time.second ≠ 0 then [t.time.second] else []
  let fields := [t.date.year, t.date.month, t.date.day, t.time.hour, t.time.minute] ++ tail
  "datetime.datetime(" ++ ", ".intercalate (fields.map toString)
    ++ (match t.offset with | some o => ", tzinfo=" ++ displayOffset o | none => "") ++ ")"

end Timestamp

namespace Value

mutual

/-- The text of a value that tells it from every value of another kind. -/
def display : Value → Except DigitLimit String
  | null => pure "None"
  | boolean b => pure (if b then "True" else "False")
  | number n => n.text
  | text s => pure (Text.quote s)
  | array items => do
    let shown ← displayItems items
    pure ("[" ++ ", ".intercalate shown ++ "]")
  | timestamp t => pure t.display
  | object entries => do
    let shown ← displayEntries entries
    pure ("\x7b" ++ ", ".intercalate shown ++ "\x7d")
  | bytes octets => pure (Text.quoteBytes octets)
  | foreign s => pure s

def displayItems : List Value → Except DigitLimit (List String)
  | [] => pure []
  | v :: rest => do
    let shown ← display v
    let others ← displayItems rest
    pure (shown :: others)

def displayEntries : List (String × Value) → Except DigitLimit (List String)
  | [] => pure []
  | (k, v) :: rest => do
    let shown ← display v
    let others ← displayEntries rest
    pure ((Text.quote k ++ ": " ++ shown) :: others)

end

/-- The text of a value for a reader: text as it is, a timestamp with a blank between date and
time. -/
def plain : Value → Except DigitLimit String
  | text s => pure s
  | timestamp t => pure (t.isoWith " ")
  | v => v.display

/-- The name of a value's type in messages. -/
def typeName : Value → String
  | null => "NoneType"
  | boolean _ => "bool"
  | number (.int _) => "int"
  | number (.float _) => "float"
  | text _ => "str"
  | array _ => "list"
  | timestamp _ => "datetime"
  | object _ => "dict"
  | bytes _ => "bytes"
  | foreign _ => "Opaque"

end Value

end EventChain
