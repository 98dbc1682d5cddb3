import EventChain.Number.Basic
import EventChain.Pattern.Escape

/-!
# Repeats

The counts of a repeat between braces, the mark that says how it repeats, and what it applies
to: the last node read, which must not be an anchor or a repeat itself.
-/

namespace EventChain.Pattern

/-- The first repetition count that is too large. -/
def repeatBound : Nat := 4294967295

def count (digits : List Char) : Read (Option Nat) :=
  if digits.isEmpty then pure none
  else if DigitLimit.most < digits.length then throw (.digitLimit (.reading digits.length))
  else
    let n := numeral 10 digits
    if repeatBound ≤ n then throw .repetitionTooLarge else pure (some n)

/-- Reads the counts of a repeat after its opening brace; none if they are no counts, which
leaves the brace a character like others. -/
def counts : Read (Option (Nat × Option Nat)) := do
  let here ← tell
  if (← peek) = some (.plain '\x7d') then pure none
  else
    let size := (← get).text.size
    let low ← takeWhile Char.isDigit size
    let high ← if ← accept ',' then takeWhile Char.isDigit size else pure low
    if ← accept '\x7d' then
      let least ← count low
      let most ← count high
      let least := least.getD 0
      match most with
      | some n => if n < least then refuseAt .repeatOrder here else pure (some (least, some n))
      | none => pure (some (least, none))
    else
      modify ({ · with index := here })
      advance
      pure none

/-- Reads the mark after a quantifier that says how it repeats. -/
def repeatMode : Read Mode := do
  if ← accept '?' then return .lazy
  if ← accept '+' then return .possessive
  return .greedy

/-- Repeats the last node read. `start` is where the repeat stands. -/
def repeatLast (start least : Nat) (most : Option Nat) : List Node → Read (List Node)
  | [] | .anchor _ :: _ => refuseAt .emptyRepeat start
  | .repeated _ _ _ _ :: _ => refuseAt .repeatedRepeat start
  | item :: rest => do
    let body := match item with
      | .scoped on off body => if on = .none ∧ off = .none then body else [item]
      | _ => [item]
    let mode ← repeatMode
    pure (.repeated mode least most body :: rest)

end EventChain.Pattern
