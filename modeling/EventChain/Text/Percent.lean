import EventChain.Text.Digit
import EventChain.Text.Encoding
import EventChain.Text.Quoted

/-!
# Percent encoding

`Text.percentEncode` writes text as letters, digits, marks that are safe, and escapes for all
other bytes of its UTF-8 form; `Text.percentDecode` reads escapes back. Bytes that are no
UTF-8 are read as replacement characters.
-/

namespace EventChain.Text

def isUnreserved (c : Char) : Bool :=
  c.isAlphanum || c = '_' || c = '.' || c = '-' || c = '~'

def percentByte (b : UInt8) : String :=
  "%" ++ String.ofList ((hex 2 b.toNat).toList.map Char.toUpper)

/-- Escapes all characters but the unreserved ones and those of `safe`. -/
def percentEncode (safe : List Char) (cs : List Char) : String :=
  String.join (cs.map fun c =>
    if isUnreserved c || safe.contains c then c.toString
    else String.join (c.toString.toUTF8.toList.map percentByte))

/-- The bytes of ASCII text. An escape that is not complete stands for itself. -/
def escapedBytes : List Char → List UInt8
  | [] => []
  | '%' :: a :: b :: rest =>
    match hexDigit? a, hexDigit? b with
    | some high, some low => UInt8.ofNat (16 * high + low) :: escapedBytes rest
    | _, _ => 0x25 :: escapedBytes (a :: b :: rest)
  | c :: rest => UInt8.ofNat c.toNat :: escapedBytes rest

/-- Reads UTF-8, with a replacement character for each part that is none; `steps` bounds the
characters. -/
def decodeReplacing : Nat → List UInt8 → List Char
  | _, [] | 0, _ => []
  | steps + 1, octets =>
    match utf8Sequence octets with
    | .code n width =>
      if (loneHalf? (ofCode n)).isSome then '\ufffd' :: decodeReplacing steps (octets.drop 1)
      else ofCode n :: decodeReplacing steps (octets.drop width)
    | .fault width _ => '\ufffd' :: decodeReplacing steps (octets.drop (max width 1))

/-- Reads escapes. The escapes between two characters beyond ASCII are read together; `run` holds
the ASCII characters since the last one beyond, the latest first. -/
def percentDecodeFrom (run : List Char) : List Char → List Char
  | [] => flush run
  | c :: rest =>
    if c.toNat < 128 then percentDecodeFrom (c :: run) rest
    else flush run ++ c :: percentDecodeFrom [] rest
where
  /-- The characters of the escapes and ASCII characters gathered so far. -/
  flush (run : List Char) : List Char :=
    let octets := escapedBytes run.reverse
    decodeReplacing octets.length octets

def percentDecode (cs : List Char) : List Char := percentDecodeFrom [] cs

end EventChain.Text
