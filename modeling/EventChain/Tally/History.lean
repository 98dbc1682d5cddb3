import EventChain.Tally

/-!
# Tallies in use

A tally takes one entry after the other: an expired deadline, under its code or under the label of
one, or that all counters start again.
-/

namespace EventChain

namespace Tally

inductive Entry where
  | record (code : TimeoutCode) (ms : Number)
  | recordLabel (label : String) (ms : Number)
  /-- All counters start again. -/
  | reset
  deriving DecidableEq, Repr

def take (t : Tally) : Entry → Tally × Except Failure Unit
  | .record code ms => t.record code ms
  | .recordLabel label ms => t.recordLabel label ms
  | .reset => (.empty, pure ())

def play (t : Tally) : List Entry → Tally × List (Except Failure Unit)
  | [] => (t, [])
  | entry :: rest =>
    let (after, outcome) := t.take entry
    let (last, outcomes) := after.play rest
    (last, outcome :: outcomes)

end Tally

end EventChain
