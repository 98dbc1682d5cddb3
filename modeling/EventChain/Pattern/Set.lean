import EventChain.Pattern.Escape

/-!
# Sets of characters

A set is written between brackets: characters, ranges and escapes. A closing bracket that comes
first is an item like others.
-/

namespace EventChain.Pattern

def tokenItem : Token → Read Item
  | .plain c => pure (.literal (Text.code c))
  | .escape c => setEscape c

/-- Reads the items of a set up to its closing bracket; `opened` is where the set starts. -/
def setItems (opened : Nat) : Nat → List Item → Read (List Item)
  | 0, _ => refuseAt .unterminatedSet opened
  | steps + 1, items => do
    match ← take with
    | none => refuseAt .unterminatedSet opened
    | some low =>
      if low = .plain ']' && !items.isEmpty then pure items
      else
        let first ← tokenItem low
        if ← accept '-' then
          match ← take with
          | none => refuseAt .unterminatedSet opened
          | some (.plain ']') => pure (items ++ [first, .literal 45])
          | some high =>
            let last ← tokenItem high
            let bad : Read (List Item) :=
              refuse (.badRange low.chars high.chars) (low.chars.length + 1 + high.chars.length)
            match first, last with
            | .literal a, .literal b =>
              if b < a then bad else setItems opened steps (items ++ [.range a b])
            | _, _ => bad
        else setItems opened steps (items ++ [first])

def set : Read Node := do
  let opened := (← tell) - 1
  let negated ← accept '^'
  let items ← setItems opened ((← get).text.size + 1) []
  match items with
  | [.literal code] => pure (if negated then .notLiteral code else .literal code)
  | _ => pure (.set negated items)

end EventChain.Pattern
