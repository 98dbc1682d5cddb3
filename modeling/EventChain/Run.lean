import EventChain.Condition.Evaluation
import EventChain.Device.Dispatch
import EventChain.Route

/-!
# Runs of a chain

An `Engine` walks a route with one record. `Engine.visit` is a single step: it reads the step
of a node and filters, transforms or acts on the record. `Engine.run` visits the stops in
order until a filter does not pass, a step fails, or a deadline cuts the run off, and leaves
a trace of what it did. Beside the result it keeps a `Log`: the time that has passed, the
commands that were sent, and the deadlines that expired.
-/

namespace EventChain

/-- The limits that an engine keeps to. -/
structure Policy where
  maxNodes : Int
  actionTimeout : Timeout
  strictTransforms : Bool

namespace Policy

def standard : Policy := ⟨Route.standardLimit, none, false⟩

/-- The seconds that an action may take where no timeout is set. -/
def standardActionTimeout : Number := .float (.ofInt 10)

end Policy

structure Engine where
  policy : Policy
  dispatcher : Dispatcher
  /-- Reads the config of a filter. -/
  readFilter : Value → Except Failure Condition

/-- The dispatcher of an engine that was given none: it has no gateway. -/
def Policy.dispatcher (policy : Policy) : Dispatcher :=
  ⟨none, some (policy.actionTimeout.getD Policy.standardActionTimeout)⟩

inductive RunStatus where
  | completed
  | haltedByFilter
  | emptyChain
  deriving DecidableEq, Repr

def RunStatus.name : RunStatus → String
  | completed => "completed"
  | haltedByFilter => "halted_by_filter"
  | emptyChain => "empty_chain"

/-- What one node did. -/
inductive TraceEntry where
  | filter (node : Value) (passed : Bool)
  | transform (node : Value) (before after : Record)
  | action (node : Value) (result : ActionResult)
  | unknown (node : Value) (type : String)

namespace TraceEntry

def node : TraceEntry → Value
  | filter node _ | transform node _ _ | action node _ | unknown node _ => node

/-- Whether an entry is an action that did not succeed. -/
def isFailedAction : TraceEntry → Bool
  | action _ result => result.status ≠ .success
  | _ => false

end TraceEntry

structure RunResult where
  chain : Value
  status : RunStatus
  trace : List TraceEntry
  record : Record

namespace RunResult

def halted (r : RunResult) : Bool := r.status = .haltedByFilter

/-- The nodes of the actions that did not succeed. -/
def failedActions (r : RunResult) : List Value :=
  (r.trace.filter TraceEntry.isFailedAction).map TraceEntry.node

end RunResult

/-- What a run does beside its result: seconds passed, commands sent in order, and each deadline
that expired with its code and the seconds it had lasted. -/
structure Log where
  elapsed : Rat
  sent : List Command
  expired : List (TimeoutCode × Rat)

namespace Log

def empty : Log := ⟨0, [], []⟩

/-- The log after an action; no time is added for one that never ends. -/
def perform (log : Log) (p : Performance) : Log :=
  let elapsed := p.elapsed.getD 0
  ⟨log.elapsed + elapsed, log.sent ++ p.sent.toList,
    log.expired ++ (if p.timedOut then [(.action, elapsed)] else [])⟩

/-- Whether an action that begins now has not ended before a moment. -/
def isOvertaken (log : Log) (p : Performance) (moment : Rat) : Bool :=
  p.elapsed.all fun elapsed => moment ≤ log.elapsed + elapsed

/-- The log of a run that was cut off while it waited for an action. -/
def interrupt (log : Log) (p : Performance) (cut : Cut) : Log :=
  ⟨cut.moment, log.sent ++ p.sent.toList, log.expired ++ [(cut.deadline.code, cut.deadline.span)]⟩

end Log

/-- A run between two nodes. -/
structure RunState where
  record : Record
  trace : List TraceEntry
  log : Log

namespace RunState

def push (s : RunState) (entry : TraceEntry) : RunState := { s with trace := s.trace ++ [entry] }

end RunState

/-- What a visit leads to. -/
inductive Visit where
  | goOn (s : RunState)
  | halt (s : RunState)
  | fail (failure : Failure) (log : Log)

namespace Engine

/-- Whether a record passes a filter; config errors belong to its node. -/
def passes (now : Timestamp) (node : Value) (condition : Condition) (r : Record) :
    Except Failure Bool :=
  attributed node (condition.holds now r)

/-- Transforms a record and reports the new value of the field, which fails where the report
cannot show it. -/
def transformed (engine : Engine) (node : Value) (t : Transform) (r : Record) :
    Except Failure Record := do
  let after ← attributed node (t.apply engine.policy.strictTransforms r)
  let _ ← limited (after.get t.field).display
  pure after

/-- Visits a node whose step is read. An action that has not ended when the deadline expires is
cut off. One that ends at that very moment is taken to be cut off too, though a clock may let it
come first: nothing is to be read off such a tie. -/
def visitStep (engine : Engine) (now : Timestamp) (cut : Option Cut) (s : RunState) :
    Step → Visit
  | .filter node condition =>
    match passes now node condition s.record with
    | .error failure => .fail failure s.log
    | .ok true => .goOn (s.push (.filter node true))
    | .ok false => .halt (s.push (.filter node false))
  | .transform node t =>
    match engine.transformed node t s.record with
    | .error failure => .fail failure s.log
    | .ok after => .goOn { s.push (.transform node s.record after) with record := after }
  | .action node action =>
    let dispatcher := engine.dispatcher.after s.log.sent
    let p := dispatcher.perform action s.record engine.policy.actionTimeout
    let log := s.log.perform p
    match cut with
    | some cut =>
      if s.log.isOvertaken p cut.moment then .fail cut.deadline.failure (s.log.interrupt p cut)
      else acted node p log
    | none => acted node p log
  | .unknown node type _ => .goOn (s.push (.unknown node type))
where
  /-- An action that was waited for to its end. -/
  acted (node : Value) (p : Performance) (log : Log) : Visit :=
    match p.result with
    | .ok result => .goOn { s.push (.action node result) with log := log }
    | .error failure => .fail failure log

/-- A visit whose end is reported under the identifier of the node, which fails where the report
cannot show it. -/
def reported (node : Value) (visit : Visit) : Visit :=
  match node.plain with
  | .ok _ => visit
  | .error limit => match visit with
    | .goOn s | .halt s => .fail (.digitLimit limit) s.log
    | .fail _ _ => visit

def visit (engine : Engine) (now : Timestamp) (cut : Option Cut) (node : Node)
    (s : RunState) : Visit :=
  match node.step engine.readFilter with
  | .error failure => .fail failure s.log
  | .ok step => reported step.node (engine.visitStep now cut s step)

/-- What a run comes to. -/
structure Outcome where
  result : Except Failure RunResult
  log : Log

/-- Whether the run has an end. -/
def Outcome.ends (outcome : Outcome) : Bool :=
  match outcome.result with
  | .error .endless => false
  | _ => true

def walk (engine : Engine) (chain : Value) (now : Timestamp) (cut : Option Cut) :
    List Stop → RunState → Outcome
  | [], s => ⟨.ok ⟨chain, .completed, s.trace, s.record⟩, s.log⟩
  | stop :: rest, s =>
    match engine.visit now cut stop.node s with
    | .goOn s => engine.walk chain now cut rest s
    | .halt s => ⟨.ok ⟨chain, .haltedByFilter, s.trace, s.record⟩, s.log⟩
    | .fail failure log => ⟨.error failure, log⟩

/-- Runs a route on an event. The run is reported under the identifier of the chain first. -/
def run (engine : Engine) (route : Route) (event : Record) (now : Timestamp)
    (cut : Option Cut) : Outcome :=
  match route.chain.id.plain with
  | .error limit => ⟨.error (.digitLimit limit), .empty⟩
  | .ok _ =>
    if route.isEmpty then ⟨.ok ⟨route.chain.id, .emptyChain, [], event⟩, .empty⟩
    else engine.walk route.chain.id now cut route.stops ⟨event, [], .empty⟩

/-- Builds the route of a chain and runs it. -/
def execute (engine : Engine) (chain : Chain) (nodes : List Node) (event : Record)
    (now : Timestamp) (cut : Option Cut) : Outcome :=
  match Route.build chain nodes engine.policy.maxNodes with
  | .error failure => ⟨.error failure, .empty⟩
  | .ok route => engine.run route event now cut

end Engine

end EventChain
