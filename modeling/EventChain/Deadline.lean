import EventChain.Failure

/-!
# Deadlines

A timeout is a number of seconds, or nothing; `Timeout.span?` is the span that it allows, none where
it sets no limit, and fails where no clock can be set to it. A `Deadline` stands around a
computation: its code, its span, and the failure that the computation ends with when it expires. Of
two deadlines that expire together the outer one counts.
-/

namespace EventChain

abbrev Timeout := Option Number

namespace Timeout

/-- The seconds that a timeout allows; a timeout that is not positive sets no limit. -/
def span? : Timeout → Except Excess (Option Rat)
  | none => pure none
  | some n =>
    if n.isTooLong then throw .operand
    else match n.place? with
      | some (.finite q) => pure (if 0 < q then some q else none)
      | _ => pure none

def text : Timeout → Except DigitLimit String
  | none => pure "None"
  | some n => n.text

end Timeout

structure Deadline where
  code : TimeoutCode
  span : Rat
  failure : Failure

/-- A deadline with the moment at which it expires. -/
structure Cut where
  moment : Rat
  deadline : Deadline

namespace Deadline

/-- The failure of a timeout, or the digit limit where it cannot be shown. -/
def failureOf (code : TimeoutCode) (what : String) (context : Record) (n : Number) : Failure :=
  match n.text with
  | .ok shown => .overrun ⟨what ++ " timed out after " ++ shown ++ "s", code,
      context ++ [("timeout", .number n)]⟩
  | .error limit => .digitLimit limit

/-- The deadline that a timeout sets, none where it sets no limit. -/
def ofTimeout? (code : TimeoutCode) (what : String) (context : Record) (timeout : Timeout) :
    Except Excess (Option Deadline) := do
  match ← timeout.span?, timeout with
  | some span, some n => pure (some ⟨code, span, failureOf code what context n⟩)
  | _, _ => pure none

/-- Which of two deadlines cuts a computation off, and when, counted from the start of the inner
one. The outer one began `offset` seconds earlier. -/
def cut? (outer : Option Deadline) (offset : Rat) (inner : Option Deadline) : Option Cut :=
  match outer.map fun d => (⟨d.span - offset, d⟩ : Cut), inner.map fun d => (⟨d.span, d⟩ : Cut) with
  | some o, some i => if o.moment ≤ i.moment then some o else some i
  | o, i => o.or i

end Deadline

end EventChain
