import EventChain.Run
import EventChain.Tally

/-!
# The service of stored chains

A `Service` finds the chain of a call, loads it and runs it under the deadline of chains,
inside a deadline of the caller if there is one. What calls leave behind is kept in a
`Ledger`: the tally of expired deadlines and the results that were published.
-/

namespace EventChain

/-- A chain as it is stored, and the seconds that loading it takes. -/
structure StoredChain where
  chain : Chain
  nodes : List Node
  loading : Rat

structure Service where
  engine : Engine
  chains : List StoredChain
  /-- The timeout of a call that names none. -/
  timeout : Timeout

namespace Service

open Engine (Outcome)

/-- The timeout of a chain in seconds unless another is set. -/
def standardTimeout : Number := .float (.ofInt 30)

def find? (s : Service) (id : Value) : Option StoredChain :=
  s.chains.find? (·.chain.id.agrees id)

/-- The deadline around the run of a chain. -/
def deadline? (chain : Chain) (timeout : Timeout) : Except Excess (Option Deadline) :=
  Deadline.ofTimeout? .chain "Rule chain execution"
    [("chainId", chain.id), ("chainName", chain.name)] timeout

/-- The failure of a chain that does not exist, or the digit limit where it cannot be shown. -/
def notFound (id : Value) : Failure :=
  match id.plain with
  | .ok _ => .chainNotFound id
  | .error limit => .digitLimit limit

/-- Runs a chain that has been loaded; the caller's deadline began with the loading. -/
def run (s : Service) (stored : StoredChain) (event : Record) (timeout : Timeout)
    (now : Timestamp) (outer : Option Deadline) : Outcome :=
  match deadline? stored.chain (timeout.or s.timeout) with
  | .error excess => ⟨.error (.excess excess), ⟨stored.loading, [], []⟩⟩
  | .ok inner =>
    let outcome := s.engine.execute stored.chain stored.nodes event now
      (Deadline.cut? outer stored.loading inner)
    { outcome with log.elapsed := stored.loading + outcome.log.elapsed }

/-- Loads and runs the chain of an identifier. -/
def execute (s : Service) (id : Value) (event : Record) (timeout : Timeout)
    (now : Timestamp) (outer : Option Deadline) : Outcome :=
  match s.find? id, outer with
  | none, _ => ⟨.error (notFound id), .empty⟩
  | some stored, none => s.run stored event timeout now none
  | some stored, some deadline =>
    if deadline.span ≤ stored.loading then
      ⟨.error deadline.failure, ⟨deadline.span, [], [(deadline.code, deadline.span)]⟩⟩
    else s.run stored event timeout now outer

end Service

/-- What the calls so far have left behind. -/
structure Ledger where
  tally : Tally
  published : List RunResult

namespace Ledger

def empty : Ledger := ⟨.empty, []⟩

/-- Enters what a call came to: the deadlines that expired, and its result if it has one. -/
def enter (ledger : Ledger) (outcome : Engine.Outcome) : Ledger :=
  ⟨ledger.tally.recordAll outcome.log.expired,
    match outcome.result with
    | .ok result => ledger.published ++ [result]
    | .error _ => ledger.published⟩

end Ledger

end EventChain
