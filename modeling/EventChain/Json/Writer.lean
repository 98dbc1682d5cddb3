import EventChain.Text.Quoted
import EventChain.Value.Basic

/-!
# Writing JSON text

`Json.write` writes a value with a blank after every comma and colon and with escapes for
all that is not ASCII; `Json.writeIndented` puts every item and every entry on a line of its
own. Timestamps, bytes and foreign values have no JSON form.
-/

namespace EventChain.Json

/-- Why a value has no JSON text. -/
inductive WriteFault where
  | digitLimit (limit : DigitLimit)
  | noForm (value : Value)

/-- The escapes of a code from U+10000 up: the two halves of its surrogate pair. -/
def surrogates (code : Nat) : String :=
  let n := code - 0x10000
  "\\u" ++ Text.hex 4 (0xD800 + n / 1024) ++ "\\u" ++ Text.hex 4 (0xDC00 + n % 1024)

def writeChar (c : Char) : String :=
  if c = '"' then "\\\""
  else if c = '\\' then "\\\\"
  else if c = '\n' then "\\n"
  else if c = '\r' then "\\r"
  else if c = '\t' then "\\t"
  else if c = '\x0c' then "\\f"
  else if c = '\x08' then "\\b"
  else if 0x20 ≤ c.toNat ∧ c.toNat < 0x7F then c.toString
  else match Text.loneHalf? c with
    | some half => "\\u" ++ Text.hex 4 half
    | none => if c.toNat < 0x10000 then "\\u" ++ Text.hex 4 c.toNat else surrogates c.toNat

def writeString (s : String) : String := "\"" ++ String.join (s.toList.map writeChar) ++ "\""

def writeFloat : Binary64 → String
  | .nan => "NaN"
  | .infinite negative => if negative then "-Infinity" else "Infinity"
  | x@(.finite _ _) => x.text

def writeNumber : Number → Except WriteFault String
  | .int n => match Number.intText n with
    | .ok s => pure s
    | .error limit => throw (.digitLimit limit)
  | .float x => pure (writeFloat x)

mutual

def write : Value → Except WriteFault String
  | .null => pure "null"
  | .boolean b => pure (if b then "true" else "false")
  | .number n => writeNumber n
  | .text s => pure (writeString s)
  | .array items => do
    let shown ← writeItems items
    pure ("[" ++ ", ".intercalate shown ++ "]")
  | .object entries => do
    let shown ← writeEntries entries
    pure ("\x7b" ++ ", ".intercalate shown ++ "\x7d")
  | v@(.timestamp _) | v@(.bytes _) | v@(.foreign _) => throw (.noForm v)

def writeItems : List Value → Except WriteFault (List String)
  | [] => pure []
  | v :: rest => do
    let shown ← write v
    let others ← writeItems rest
    pure (shown :: others)

def writeEntries : List (String × Value) → Except WriteFault (List String)
  | [] => pure []
  | (k, v) :: rest => do
    let shown ← write v
    let others ← writeEntries rest
    pure ((writeString k ++ ": " ++ shown) :: others)

end

/-- A line break and the blanks of a depth. -/
def lineBreak (depth : Nat) : String := "\n" ++ String.ofList (List.replicate (2 * depth) ' ')

/-- Parts between two brackets, each on a line of its own. -/
def writeLines (depth : Nat) (opening closing : String) : List String → String
  | [] => opening ++ closing
  | parts => opening ++ lineBreak (depth + 1)
      ++ ("," ++ lineBreak (depth + 1)).intercalate parts ++ lineBreak depth ++ closing

mutual

/-- Writes a value that stands at a depth. -/
def writeIndented (depth : Nat) : Value → Except WriteFault String
  | .array items => do
    let shown ← indentedItems (depth + 1) items
    pure (writeLines depth "[" "]" shown)
  | .object entries => do
    let shown ← indentedEntries (depth + 1) entries
    pure (writeLines depth "\x7b" "\x7d" shown)
  | v => write v

def indentedItems (depth : Nat) : List Value → Except WriteFault (List String)
  | [] => pure []
  | v :: rest => do
    let shown ← writeIndented depth v
    let others ← indentedItems depth rest
    pure (shown :: others)

def indentedEntries (depth : Nat) : List (String × Value) → Except WriteFault (List String)
  | [] => pure []
  | (k, v) :: rest => do
    let shown ← writeIndented depth v
    let others ← indentedEntries depth rest
    pure ((writeString k ++ ": " ++ shown) :: others)

end

end EventChain.Json
