import EventChain.Text.Printable

/-!
# Quoted text

`Text.quote` writes text between quotes with escapes, the way a value is shown inside a
message: single quotes unless the text holds one and no double quote, and an escape for
every unprintable character. `Text.quoteBytes` does the same for bytes.

A half of a surrogate pair is no character. One that stands alone in JSON text is carried as
the private-use character `0x101800` places above it, and written as the half it stands for.
-/

namespace EventChain.Text

/-- The private-use character that carries a lone half of a surrogate pair. -/
def loneHalf (code : Nat) : Char := Char.ofNat (code + 0x101800)

/-- The code of the lone half that a character carries. -/
def loneHalf? (c : Char) : Option Nat :=
  if 0x10F000 ≤ c.toNat ∧ c.toNat < 0x10F800 then some (c.toNat - 0x101800) else none

/-- The code of a character, or of the half that it carries. -/
def code (c : Char) : Nat := (loneHalf? c).getD c.toNat

/-- Whether text has a UTF-8 form: lone halves have none. -/
def isEncodable (cs : List Char) : Bool := cs.all fun c => (loneHalf? c).isNone

/-- A number in lower-case hexadecimal of at least `width` digits. -/
def hex (width n : Nat) : String :=
  let digits := Nat.toDigits 16 n
  String.ofList (List.replicate (width - digits.length) '0' ++ digits)

/-- A character inside text that is quoted with `mark`. -/
def escape (mark c : Char) : String :=
  if c = mark ∨ c = '\\' then "\\" ++ c.toString
  else if c = '\n' then "\\n"
  else if c = '\r' then "\\r"
  else if c = '\t' then "\\t"
  else match loneHalf? c with
    | some code => "\\u" ++ hex 4 code
    | none =>
      if isPrintable c then c.toString
      else if c.toNat < 0x100 then "\\x" ++ hex 2 c.toNat
      else if c.toNat < 0x10000 then "\\u" ++ hex 4 c.toNat
      else "\\U" ++ hex 8 c.toNat

/-- The quotes around a text: double ones only where they spare an escape. -/
def quoteMark (cs : List Char) : Char :=
  if cs.contains '\'' && !cs.contains '"' then '"' else '\''

def quote (text : String) : String :=
  let cs := text.toList
  let mark := quoteMark cs
  mark.toString ++ String.join (cs.map (escape mark)) ++ mark.toString

/-- A byte as it is shown: an ASCII character, or an escape. -/
def escapeByte (mark : Char) (b : UInt8) : String :=
  if b.toNat < 0x7F then
    let c := Char.ofNat b.toNat
    if 0x20 ≤ b.toNat ∨ c = '\n' ∨ c = '\r' ∨ c = '\t' then escape mark c
    else "\\x" ++ hex 2 b.toNat
  else "\\x" ++ hex 2 b.toNat

def quoteBytes (bytes : List UInt8) : String :=
  let mark := quoteMark (bytes.map fun b => Char.ofNat b.toNat)
  "b" ++ mark.toString ++ String.join (bytes.map (escapeByte mark)) ++ mark.toString

end EventChain.Text
