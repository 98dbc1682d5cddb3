import EventChain.Broadcast
import EventChain.Service

/-!
# Sessions

A `Session` is a service in use. It answers one call after the other: a result goes to the caller
and to the audience, a failure to the caller alone, and the deadlines that expired are entered in
the ledger. Between two calls other chains may be stored, and the listeners may change their mind
about what they do with news.
-/

namespace EventChain

/-- A call of the chain of an identifier, or of a chain that has been loaded. -/
inductive Service.Call where
  | execute (id : Value) (event : Record) (timeout : Timeout) (now : Timestamp)
  | run (chain : Chain) (nodes : List Node) (event : Record) (timeout : Timeout) (now : Timestamp)

/-- What a call comes to that no deadline of the caller stands around. -/
def Service.answer (s : Service) : Call → Engine.Outcome
  | .execute id event timeout now => s.execute id event timeout now none
  | .run chain nodes event timeout now => s.run ⟨chain, nodes, 0⟩ event timeout now none

structure Session where
  service : Service
  audience : Audience
  /-- The commands that the gateway of the service was sent. -/
  sent : List Command
  ledger : Ledger

namespace Session

/-- A call, with the chains that are stored by then and what the listeners do with news of it. -/
structure Turn where
  stored : List StoredChain
  call : Service.Call
  reaction : Listener → Reaction

/-- What a call came to, and the news of it that was heard, in order. -/
structure Answer where
  outcome : Engine.Outcome
  news : List (Listener × RunResult)

/-- A session in which nothing has been asked yet. -/
def begin (service : Service) (audience : Audience) : Session := ⟨service, audience, [], .empty⟩

/-- The service with the chains that are stored, after the commands that were sent. -/
def serving (s : Session) (stored : List StoredChain) : Service :=
  { s.service with
    chains := stored
    engine.dispatcher := s.service.engine.dispatcher.after s.sent }

/-- Emits the result of a call, which fails where the emission does. -/
def announce (audience : Audience) (reaction : Listener → Reaction) (outcome : Engine.Outcome) :
    Audience × Answer :=
  match outcome.result with
  | .ok result =>
    let (after, calls, ended) := audience.emit result reaction
    (after,
      ⟨{ outcome with result := ended.map fun _ => result }, calls.map fun c => (c.1, result)⟩)
  | .error _ => (audience, ⟨outcome, []⟩)

def take (s : Session) (turn : Turn) : Session × Answer :=
  let outcome := (s.serving turn.stored).answer turn.call
  let (audience, answer) := announce s.audience turn.reaction outcome
  (⟨s.service, audience, s.sent ++ outcome.log.sent, s.ledger.enter answer.outcome⟩, answer)

def play (s : Session) : List Turn → Session × List Answer
  | [] => (s, [])
  | turn :: rest =>
    let (after, answer) := s.take turn
    let (last, answers) := after.play rest
    (last, answer :: answers)

end Session

end EventChain
