/-!
# Pools

A pool has a number of places, and tasks wait in line for one. `Pool.finishOrder` is the
order in which the tasks end when each keeps its place for the span of time it takes. A task
without a span keeps its place for ever.
-/

namespace EventChain.Pool

variable {α : Type}

/-- A task in its place, and the moment at which it ends. -/
structure Running (α : Type) where
  finish : Rat
  task : α

/-- The task that ends first, and the others in their order. Of several the one that took its
place first ends first. -/
def earliest? : List (Running α) → Option (Running α × List (Running α))
  | [] => none
  | r :: rest => match earliest? rest with
    | none => some (r, [])
    | some (first, others) =>
      if r.finish ≤ first.finish then some (r, rest) else some (first, r :: others)

/-- A task that takes a place at a moment, as far as it is one that ends. -/
def enter (span : α → Option Rat) (moment : Rat) (task : α) : Option (Running α) :=
  (span task).map fun seconds => ⟨moment + seconds, task⟩

/-- Runs the tasks that end, in their places, to their ends. Each end lets the first task in line
in. Every round ends one task, so as many rounds as tasks suffice. -/
def drain (span : α → Option Rat) : Nat → List (Running α) → List α → List α
  | 0, _, _ => []
  | rounds + 1, running, waiting =>
    match earliest? running with
    | none => []
    | some (ended, others) =>
      ended.task :: match waiting with
        | [] => drain span rounds others []
        | next :: rest => drain span rounds (others ++ (enter span ended.finish next).toList) rest

/-- The order in which tasks end in a pool of so many places. -/
def finishOrder (places : Nat) (span : α → Option Rat) (tasks : List α) : List α :=
  drain span tasks.length ((tasks.take places).filterMap (enter span 0)) (tasks.drop places)

end EventChain.Pool
