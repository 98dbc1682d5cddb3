import EventChain.Text.Cased
import EventChain.Text.Letter

/-!
# Text in lower case

Every letter becomes the one that is its lower case, with two exceptions: a capital I with a
dot keeps the dot as a mark of its own, and a capital sigma at the end of a word becomes the
final one.
-/

namespace EventChain.Text

/-- Whether the first character that is not passed over is a letter with a case. -/
def casedNext : List Char → Bool
  | [] => false
  | c :: rest => if isCaseIgnorable c then casedNext rest else isCased c

/-- The lower case of a character between others, of which those before it come latest first. -/
def lowerAt (before : List Char) (c : Char) (after : List Char) : List Char :=
  if c = 'İ' then ['i', '\u0307']
  else if c = 'Σ' then [if casedNext before && !casedNext after then 'ς' else 'σ']
  else [Char.ofNat (lowerCode c.toNat)]

def lowerFrom (before : List Char) : List Char → List Char
  | [] => []
  | c :: after => lowerAt before c after ++ lowerFrom (c :: before) after

def lower (cs : List Char) : List Char := lowerFrom [] cs

end EventChain.Text
