import EventChain.Text.Quoted

/-!
# Bytes of JSON text

`Text.decode` reads bytes as text in the encoding that `Encoding.detect` finds from a mark or
from where the zeros are among the first bytes. Halves of surrogate pairs that stand alone
are let through; anything else that is no text is a `DecodeFault`.
-/

namespace EventChain.Text

inductive Encoding where
  | utf8
  | utf16 (bigEndian : Bool)
  | utf32 (bigEndian : Bool)
  deriving DecidableEq, Repr

namespace Encoding

def name : Encoding → String
  | utf8 => "utf-8"
  | utf16 bigEndian => if bigEndian then "utf-16-be" else "utf-16-le"
  | utf32 bigEndian => if bigEndian then "utf-32-be" else "utf-32-le"

/-- The encoding of a JSON text and the number of bytes that a mark takes. -/
def detect : List UInt8 → Encoding × Nat
  | 0 :: 0 :: 0xFE :: 0xFF :: _ => (utf32 true, 4)
  | 0xFF :: 0xFE :: 0 :: 0 :: _ => (utf32 false, 4)
  | 0xFE :: 0xFF :: _ => (utf16 true, 2)
  | 0xFF :: 0xFE :: _ => (utf16 false, 2)
  | 0xEF :: 0xBB :: 0xBF :: _ => (utf8, 3)
  | a :: b :: c :: d :: _ =>
    if a = 0 then (if b = 0 then utf32 true else utf16 true, 0)
    else if b = 0 then (if c = 0 ∧ d = 0 then utf32 false else utf16 false, 0)
    else (utf8, 0)
  | [a, b] => (if a = 0 then utf16 true else if b = 0 then utf16 false else utf8, 0)
  | _ => (utf8, 0)

end Encoding

/-- Bytes from `start` on, `width` of them, that are no text in the encoding. -/
structure DecodeFault where
  encoding : Encoding
  octet : UInt8
  start : Nat
  width : Nat
  reason : String
  deriving DecidableEq, Repr

def DecodeFault.message (fault : DecodeFault) : String :=
  "'" ++ fault.encoding.name ++ "' codec can't decode "
    ++ (if fault.width = 1 then "byte 0x" ++ hex 2 fault.octet.toNat ++ " in position "
          ++ toString fault.start
        else "bytes in position " ++ toString fault.start ++ "-"
          ++ toString (fault.start + fault.width - 1))
    ++ ": " ++ fault.reason

/-- The character of a code, a lone half of a surrogate pair included. -/
def ofCode (code : Nat) : Char :=
  if 0xD800 ≤ code ∧ code < 0xE000 then loneHalf code else Char.ofNat code

def isTail (b : UInt8) : Bool := 0x80 ≤ b && b ≤ 0xBF

/-- What the bytes of one character say: its code and their number, or how many of them are at
fault and why. -/
inductive Sequence where
  | code (n width : Nat)
  | fault (width : Nat) (reason : String)

/-- Reads the first character of UTF-8 bytes. -/
def utf8Sequence : List UInt8 → Sequence
  | [] => .fault 0 ""
  | a :: rest =>
    let n := a.toNat
    let bits (b : UInt8) : Nat := b.toNat % 64
    if n < 0x80 then .code n 1
    else if n < 0xC2 ∨ 0xF5 ≤ n then .fault 1 "invalid start byte"
    else if n < 0xE0 then
      match rest with
      | [] => .fault 1 "unexpected end of data"
      | b :: _ => if isTail b then .code ((n - 0xC0) * 64 + bits b) 2
        else .fault 1 "invalid continuation byte"
    else if n < 0xF0 then
      match rest with
      | [] => .fault 1 "unexpected end of data"
      | b :: rest =>
        if !isTail b || (n = 0xE0 && b < 0xA0) then .fault 1 "invalid continuation byte"
        else match rest with
          | [] => if n = 0xED ∧ 0xA0 ≤ b then .fault 1 "invalid continuation byte"
            else .fault 2 "unexpected end of data"
          | c :: _ => if isTail c then .code (((n - 0xE0) * 64 + bits b) * 64 + bits c) 3
            else if n = 0xED ∧ 0xA0 ≤ b then .fault 1 "invalid continuation byte"
            else .fault 2 "invalid continuation byte"
    else
      match rest with
      | [] => .fault 1 "unexpected end of data"
      | b :: rest =>
        if !isTail b || (n = 0xF0 && b < 0x90) || (n = 0xF4 && 0x90 ≤ b) then
          .fault 1 "invalid continuation byte"
        else match rest with
          | [] => .fault 2 "unexpected end of data"
          | c :: rest =>
            if !isTail c then .fault 2 "invalid continuation byte"
            else match rest with
              | [] => .fault 3 "unexpected end of data"
              | d :: _ =>
                if isTail d then
                  .code ((((n - 0xF0) * 64 + bits b) * 64 + bits c) * 64 + bits d) 4
                else .fault 3 "invalid continuation byte"

/-- The unit of two bytes in their order. -/
def pair (bigEndian : Bool) (a b : UInt8) : Nat :=
  if bigEndian then a.toNat * 256 + b.toNat else b.toNat * 256 + a.toNat

/-- Reads the first character of UTF-16 bytes. -/
def utf16Sequence (bigEndian : Bool) : List UInt8 → Sequence
  | a :: b :: rest =>
    let unit := pair bigEndian a b
    if 0xD800 ≤ unit ∧ unit < 0xDC00 then
      match rest with
      | c :: d :: _ =>
        let low := pair bigEndian c d
        if 0xDC00 ≤ low ∧ low < 0xE000 then
          .code (0x10000 + (unit - 0xD800) * 1024 + (low - 0xDC00)) 4
        else .code unit 2
      | _ => .code unit 2
    else .code unit 2
  | rest => .fault rest.length "truncated data"

/-- Reads the first character of UTF-32 bytes. -/
def utf32Sequence (bigEndian : Bool) : List UInt8 → Sequence
  | a :: b :: c :: d :: _ =>
    let code := if bigEndian then pair true a b * 65536 + pair true c d
      else pair false c d * 65536 + pair false a b
    if code < 0x110000 then .code code 4 else .fault 4 "code point not in range(0x110000)"
  | rest => .fault rest.length "truncated data"

def Encoding.sequence : Encoding → List UInt8 → Sequence
  | utf8 => utf8Sequence
  | utf16 bigEndian => utf16Sequence bigEndian
  | utf32 bigEndian => utf32Sequence bigEndian

/-- Decodes bytes that stand `position` bytes after the mark; `steps` bounds the characters. -/
def decodeFrom (encoding : Encoding) : Nat → Nat → List UInt8 → Except DecodeFault (List Char)
  | _, _, [] => pure []
  | 0, _, _ => pure []
  | steps + 1, position, octets@(first :: _) =>
    match encoding.sequence octets with
    | .code n width => do
      let rest ← decodeFrom encoding steps (position + width) (octets.drop width)
      pure (ofCode n :: rest)
    | .fault width reason => throw ⟨encoding, first, position, width, reason⟩

/-- Reads the bytes of a JSON text as characters. -/
def decode (octets : List UInt8) : Except DecodeFault (List Char) :=
  let (encoding, mark) := Encoding.detect octets
  decodeFrom encoding octets.length 0 (octets.drop mark)

end EventChain.Text
