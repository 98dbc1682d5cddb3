import EventChain.Failure
import EventChain.Value.Coercion

/-!
# Configs of nodes

The config of a node is a value, or a text or bytes that hold it as JSON. `Config.decode`
gives the value in either case, null being an empty object, and `Config.operand?` reads an
operand that has to be a number.
-/

namespace EventChain.Config

/-- The failure of a text that is no JSON. -/
def ofJson {α : Type} : Except Json.Fault α → Except Failure α
  | .ok a => pure a
  | .error (.digitLimit limit) => throw (.digitLimit limit)
  | .error fault => refuse (.json fault) none

def decode : Value → Except Failure Value
  | .null => pure (.object [])
  | .text s => ofJson (Json.parseText DigitLimit.most s.toList)
  | .bytes octets =>
    match Text.decode octets with
    | .ok cs => ofJson (Json.parse DigitLimit.most cs)
    | .error fault => throw (.undecodable fault)
  | v => pure v

/-- A finite number, or a text that is not blank and reads as one. -/
def operand? : Value → Option Number
  | .number n => n.finite?
  | .text s => if (Text.trim s.toList).isEmpty then none else Number.ofText? s
  | _ => none

/-- A text that is not empty. -/
def name? : Value → Option String
  | .text s => if s.isEmpty then none else some s
  | _ => none

end EventChain.Config
