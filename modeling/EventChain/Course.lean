import EventChain.Run

/-!
# Runs among others

A `Course` is a run between two stops, or what it came to. Runs that go on side by side take turns:
`Engine.turn` lets one visit its next stop, after all commands that the gateway was sent by any of
them, and gives the commands that the visit sends.
-/

namespace EventChain

/-- A run with a stop ahead, or what a run came to. -/
inductive Course where
  | underway (stop : Stop) (rest : List Stop) (s : RunState)
  | ended (outcome : Engine.Outcome)

namespace Visit

def log : Visit → Log
  | goOn s | halt s => s.log
  | fail _ log => log

/-- The visit of a run that has sent commands before. -/
def after (sent : List Command) : Visit → Visit
  | goOn s => .goOn { s with log.sent := sent ++ s.log.sent }
  | halt s => .halt { s with log.sent := sent ++ s.log.sent }
  | fail failure log => .fail failure { log with sent := sent ++ log.sent }

end Visit

namespace Course

def log : Course → Log
  | underway _ _ s => s.log
  | ended outcome => outcome.log

def ahead : Course → Nat
  | underway _ rest _ => rest.length + 1
  | ended _ => 0

/-- How a run goes on after the visit of a stop. -/
def onward (chain : Value) (rest : List Stop) : Visit → Course
  | .goOn s => match rest with
    | [] => .ended ⟨.ok ⟨chain, .completed, s.trace, s.record⟩, s.log⟩
    | stop :: rest => .underway stop rest s
  | .halt s => .ended ⟨.ok ⟨chain, .haltedByFilter, s.trace, s.record⟩, s.log⟩
  | .fail failure log => .ended ⟨.error failure, log⟩

end Course

/-- Begins a run of a route on an event. -/
def Route.depart (route : Route) (event : Record) : Course :=
  match route.chain.id.plain with
  | .error limit => .ended ⟨.error (.digitLimit limit), .empty⟩
  | .ok _ => match route.stops with
    | [] => .ended ⟨.ok ⟨route.chain.id, .emptyChain, [], event⟩, .empty⟩
    | stop :: rest => .underway stop rest ⟨event, [], .empty⟩

namespace Engine

/-- Visits a node of which the step was read, or could not be. -/
def visitRead (engine : Engine) (now : Timestamp) (cut : Option Cut)
    (read : Except Failure Step) (s : RunState) : Visit :=
  match read with
  | .error failure => .fail failure s.log
  | .ok step => reported step.node (engine.visitStep now cut s step)

/-- The turn of a run at a stop of which the step was read, or could not be: the commands that it
sends, and how it goes on. The gateway was sent others before, which the log of the run lacks. -/
def turn (engine : Engine) (earlier : List Command) (chain : Value) (now : Timestamp)
    (cut : Option Cut) (read : Except Failure Step) (rest : List Stop) (s : RunState) :
    List Command × Course :=
  let among : Engine := { engine with dispatcher := engine.dispatcher.after earlier }
  let visit := among.visitRead now cut read { s with log.sent := [] }
  (visit.log.sent, .onward chain rest (visit.after s.log.sent))

end Engine

end EventChain
