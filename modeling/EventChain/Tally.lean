import EventChain.Failure

/-!
# Tallies of expired deadlines

A `Tally` counts expired deadlines by their code and keeps how long each of the latest ones
had lasted. A `Histogram` of a code counts the durations kept that are at most a bound.
-/

namespace EventChain

/-- The deadlines of one code. `durations` are seconds, the latest first. -/
structure Counter where
  count : Nat
  durations : List Binary64
  deriving DecidableEq, Repr

namespace Counter

def zero : Counter := ⟨0, []⟩

/-- How many durations are kept. -/
def kept : Nat := 1000

def push (c : Counter) (duration : Binary64) : Counter :=
  ⟨c.count + 1, (duration :: c.durations).take kept⟩

/-- Counts a deadline whose duration has no number of seconds. -/
def pushUntimed (c : Counter) : Counter := { c with count := c.count + 1 }

/-- How many of the durations kept are at most a number of seconds. -/
def within (c : Counter) (bound : Nat) : Nat :=
  (c.durations.filter fun d => (Number.float d).atMost (.int bound)).length

/-- The bounds of a histogram, in seconds. -/
def bounds : List Nat := [1, 5, 10, 30, 60]

/-- The number of durations within each bound, and at last of all of them. -/
def histogram (c : Counter) : List (String × Nat) :=
  (bounds.map fun bound => ("le_" ++ toString bound, c.within bound))
    ++ [("le_inf", c.durations.length)]

end Counter

abbrev Tally := TimeoutCode → Counter

namespace Tally

def empty : Tally := fun _ => .zero

def update (t : Tally) (code : TimeoutCode) (c : Counter) : Tally :=
  fun other => if other = code then c else t other

/-- Seconds of a number of milliseconds. -/
def seconds (ms : Number) : Except Excess Binary64 :=
  match ms.div (.int 1000) with
  | .ok (.float x) => pure x
  | .ok (.int _) | .error .divisionByZero | .error .operandTooLarge => throw .operand
  | .error .quotientTooLarge => throw .quotient

/-- Counts a deadline that lasted a number of milliseconds. One that has no number of seconds is
counted too, and reported. -/
def record (t : Tally) (code : TimeoutCode) (ms : Number) : Tally × Except Failure Unit :=
  match seconds ms with
  | .ok duration => (t.update code ((t code).push duration), pure ())
  | .error excess => (t.update code (t code).pushUntimed, throw (.excess excess))

/-- Counts a deadline by the label of its code. Unknown labels are ignored. -/
def recordLabel (t : Tally) (label : String) (ms : Number) : Tally × Except Failure Unit :=
  match TimeoutCode.ofLabel? label with
  | some code => t.record code ms
  | none => (t, pure ())

/-- Milliseconds of a span of seconds as a float. -/
def milliseconds (span : Rat) : Number := .float ((Binary64.ofRat span).mul (.ofInt 1000))

/-- Counts deadlines that lasted spans of seconds. -/
def recordAll (t : Tally) (expired : List (TimeoutCode × Rat)) : Tally :=
  expired.foldl (fun t (code, span) => (t.record code (milliseconds span)).1) t

/-- The counter that a label names; that of an unknown one is zero. -/
def counter (t : Tally) (label : String) : Counter :=
  match TimeoutCode.ofLabel? label with
  | some code => t code
  | none => .zero

end Tally

end EventChain
