/-!
# Sets of characters as ranges

A `Ranges` table lists the code points of a set as closed ranges in ascending order;
`Ranges.contains` looks a character up by halving the table.
-/

namespace EventChain.Text

/-- Closed ranges of code points, ascending and apart from one another. -/
abbrev Ranges := Array (Nat × Nat)

/-- Looks for the range of `code` among those from `low` up to `high`, within `steps` halvings. -/
def Ranges.search (ranges : Ranges) (code : Nat) : Nat → Nat → Nat → Bool
  | 0, _, _ => false
  | steps + 1, low, high =>
    if low < high then
      let middle := (low + high) / 2
      match ranges[middle]? with
      | none => false
      | some (first, last) =>
        if code < first then ranges.search code steps low middle
        else if last < code then ranges.search code steps (middle + 1) high
        else true
    else false

def Ranges.contains (ranges : Ranges) (c : Char) : Bool :=
  ranges.search c.toNat (ranges.size.log2 + 1) 0 ranges.size

end EventChain.Text
