import EventChain.Text.Encoding
import EventChain.Number.Reading
import EventChain.Value.Basic

/-!
# Reading JSON text

`Json.parseText` reads a text as one value. Integers stay apart from floats, the constants NaN,
Infinity and -Infinity are floats, and of two entries of an object with one key the later
one counts. Text that is no JSON is refused with the first thing that was missing from it.
-/

namespace EventChain.Json

/-- What is wrong with a text, or a number of digits beyond the limit on integers. -/
inductive Fault where
  | expectingValue
  | expectingName
  | expectingColon
  | expectingComma
  | extraData
  | unterminatedString
  | invalidControl
  | invalidEscape
  | invalidUnicodeEscape
  | byteOrderMark
  | digitLimit (limit : DigitLimit)
  deriving DecidableEq, Repr

def Fault.message : Fault → String
  | expectingValue => "Expecting value"
  | expectingName => "Expecting property name enclosed in double quotes"
  | expectingColon => "Expecting ':' delimiter"
  | expectingComma => "Expecting ',' delimiter"
  | extraData => "Extra data"
  | unterminatedString => "Unterminated string starting at"
  | invalidControl => "Invalid control character at"
  | invalidEscape => "Invalid \\escape"
  | invalidUnicodeEscape => "Invalid \\uXXXX escape"
  | byteOrderMark => "Unexpected UTF-8 BOM (decode using utf-8-sig)"
  | digitLimit limit => limit.message

def isSpace (c : Char) : Bool := c = ' ' || c = '\t' || c = '\n' || c = '\r'

def skipSpace (cs : List Char) : List Char := cs.dropWhile isSpace

def hex4? (a b c d : Char) : Option Nat := do
  let a ← Text.hexDigit? a
  let b ← Text.hexDigit? b
  let c ← Text.hexDigit? c
  let d ← Text.hexDigit? d
  some (((a * 16 + b) * 16 + c) * 16 + d)

/-- The character that a letter after a backslash stands for. -/
def escaped? : Char → Option Char
  | '"' => some '"'
  | '\\' => some '\\'
  | '/' => some '/'
  | 'b' => some '\x08'
  | 'f' => some '\x0c'
  | 'n' => some '\n'
  | 'r' => some '\r'
  | 't' => some '\t'
  | _ => none

def isHighHalf (code : Nat) : Bool := 0xD800 ≤ code && code < 0xDC00

def isLowHalf (code : Nat) : Bool := 0xDC00 ≤ code && code < 0xE000

/-- Reads the characters of a string after its opening quote, and the text after the closing
one. `read` holds the characters so far, the latest first. -/
def stringFrom (read : List Char) : List Char → Except Fault (List Char × List Char)
  | [] => throw .unterminatedString
  | '"' :: rest => pure (read.reverse, rest)
  | ['\\'] => throw .unterminatedString
  | '\\' :: 'u' :: a :: b :: c :: d :: next :: rest =>
    match hex4? a b c d with
    | none => throw .invalidUnicodeEscape
    | some high =>
      match next, rest with
      | '\\', 'u' :: e :: f :: g :: h :: after :: tail =>
        if isHighHalf high then
          match hex4? e f g h with
          | none => throw .invalidUnicodeEscape
          | some low =>
            if isLowHalf low then
              stringFrom (Char.ofNat (0x10000 + (high - 0xD800) * 1024 + (low - 0xDC00)) :: read)
                (after :: tail)
            else stringFrom (Text.ofCode high :: read)
              ('\\' :: 'u' :: e :: f :: g :: h :: after :: tail)
        else stringFrom (Text.ofCode high :: read)
          ('\\' :: 'u' :: e :: f :: g :: h :: after :: tail)
      | next, rest => stringFrom (Text.ofCode high :: read) (next :: rest)
  | '\\' :: 'u' :: _ => throw .invalidUnicodeEscape
  | '\\' :: c :: rest =>
    match escaped? c with
    | some e => stringFrom (e :: read) rest
    | none => throw .invalidEscape
  | c :: rest =>
    if c.toNat < 0x20 then throw .invalidControl else stringFrom (c :: read) rest
termination_by cs => cs.length

/-- Splits leading digits of the ASCII script off. -/
def asciiDigits (cs : List Char) : List Nat × List Char :=
  ((cs.takeWhile Char.isDigit).map (·.toNat - 48), cs.dropWhile Char.isDigit)

/-- Reads an exponent if a whole one stands there. -/
def exponent? : List Char → Option (Int × List Char)
  | [] => none
  | c :: rest =>
    if c = 'e' ∨ c = 'E' then
      let (negative, body) := Numeral.sign rest
      match asciiDigits body with
      | ([], _) => none
      | (ds, tail) =>
        let n : Int := Decimal.ofDigits ds
        some (if negative then -n else n, tail)
    else none

/-- Reads a number: an integer of at most `limit` digits, or a float where a fraction or an
exponent follows. -/
def number (limit : Option Nat) (cs : List Char) : Except Fault (Value × List Char) :=
  let (negative, body) := match cs with
    | '-' :: rest => (true, rest)
    | _ => (false, cs)
  let (whole, rest) := match body with
    | '0' :: rest => ([0], rest)
    | _ => asciiDigits body
  if whole.isEmpty then throw .expectingValue
  else
    let (fraction, rest) := match rest with
      | '.' :: tail => match asciiDigits tail with
        | ([], _) => ([], rest)
        | found => found
      | _ => ([], rest)
    match exponent? rest with
    | some (e, tail) =>
      let d : Decimal := ⟨Decimal.ofDigits (whole ++ fraction), e - fraction.length⟩
      pure (.number (.float (.ofDecimal negative d)), tail)
    | none =>
      if fraction.isEmpty then
        if limit.any (· < whole.length) then throw (.digitLimit (.reading whole.length))
        else
          let n : Int := Decimal.ofDigits whole
          pure (.int (if negative then -n else n), rest)
      else
        let d : Decimal := ⟨Decimal.ofDigits (whole ++ fraction), -fraction.length⟩
        pure (.number (.float (.ofDecimal negative d)), rest)

mutual

/-- Reads the value at the start of a text; `depth` bounds the number of values in it. -/
def value (limit : Option Nat) : Nat → List Char → Except Fault (Value × List Char)
  | 0, _ => throw .expectingValue
  | depth + 1, cs =>
    match cs with
    | '"' :: rest => do
      let (s, tail) ← stringFrom [] rest
      pure (.text (String.ofList s), tail)
    | '\x7b' :: rest =>
      match skipSpace rest with
      | '\x7d' :: tail => pure (.object [], tail)
      | rest => do
        let (entries, tail) ← entriesFrom limit depth rest
        pure (.object (Record.ofEntries entries), tail)
    | '[' :: rest =>
      match skipSpace rest with
      | ']' :: tail => pure (.array [], tail)
      | rest => do
        let (items, tail) ← itemsFrom limit depth rest
        pure (.array items, tail)
    | 'n' :: 'u' :: 'l' :: 'l' :: rest => pure (.null, rest)
    | 't' :: 'r' :: 'u' :: 'e' :: rest => pure (.boolean true, rest)
    | 'f' :: 'a' :: 'l' :: 's' :: 'e' :: rest => pure (.boolean false, rest)
    | 'N' :: 'a' :: 'N' :: rest => pure (.number (.float .nan), rest)
    | 'I' :: 'n' :: 'f' :: 'i' :: 'n' :: 'i' :: 't' :: 'y' :: rest =>
      pure (.number (.float (.infinite false)), rest)
    | '-' :: 'I' :: 'n' :: 'f' :: 'i' :: 'n' :: 'i' :: 't' :: 'y' :: rest =>
      pure (.number (.float (.infinite true)), rest)
    | cs => number limit cs

/-- Reads the items of an array up to its closing bracket. -/
def itemsFrom (limit : Option Nat) : Nat → List Char → Except Fault (List Value × List Char)
  | 0, _ => throw .expectingValue
  | depth + 1, cs => do
    let (item, rest) ← value limit depth cs
    match skipSpace rest with
    | ']' :: tail => pure ([item], tail)
    | ',' :: tail => do
      let (items, tail) ← itemsFrom limit depth (skipSpace tail)
      pure (item :: items, tail)
    | _ => throw .expectingComma

/-- Reads the entries of an object up to its closing brace. -/
def entriesFrom (limit : Option Nat) :
    Nat → List Char → Except Fault (List (String × Value) × List Char)
  | 0, _ => throw .expectingName
  | depth + 1, cs =>
    match cs with
    | '"' :: rest => do
      let (key, rest) ← stringFrom [] rest
      match skipSpace rest with
      | ':' :: rest => do
        let (v, rest) ← value limit depth (skipSpace rest)
        match skipSpace rest with
        | '\x7d' :: tail => pure ([(String.ofList key, v)], tail)
        | ',' :: tail => do
          let (entries, tail) ← entriesFrom limit depth (skipSpace tail)
          pure ((String.ofList key, v) :: entries, tail)
        | _ => throw .expectingComma
      | _ => throw .expectingColon
    | _ => throw .expectingName

end

/-- Reads characters as one value, integers having at most `limit` digits. -/
def parse (limit : Option Nat) (cs : List Char) : Except Fault Value := do
  let (v, rest) ← value limit (2 * cs.length + 2) (skipSpace cs)
  if (skipSpace rest).isEmpty then pure v else throw .extraData

/-- Reads a text, which must not start with a byte order mark. -/
def parseText (limit : Option Nat) (cs : List Char) : Except Fault Value :=
  match cs with
  | '\ufeff' :: _ => throw .byteOrderMark
  | _ => parse limit cs

end EventChain.Json
