import EventChain.Audience
import EventChain.Run

/-!
# Broadcasts

An audience in use. It answers one request after the other: a listener subscribes or unsubscribes,
or the result of a run is emitted. A result goes to a copy of the list of listeners that is taken
before the first of them is called; each is called in turn, a call that fails is reported, and the
next one is made. Only the order to stop ends an emission, and a report that cannot show the chain.
-/

namespace EventChain

/-- Why the call of a listener fails: for a reason of its own, because it may not subscribe or
unsubscribe whom it wants to, or because it gives the order to stop. -/
inductive Mishap where
  | own
  | subscription (fault : SubscriptionFault)
  | interruption (name : String)
  deriving DecidableEq, Repr

namespace Audience

inductive Request where
  | subscribe (who : Listener)
  | unsubscribe (who : Listener)
  /-- A result, with what the listeners do when they hear of it. -/
  | emit (result : RunResult) (reaction : Listener → Reaction)

/-- Why a request fails. -/
inductive Rejection where
  | subscription (fault : SubscriptionFault)
  | emission (failure : Failure)

/-- What a request came to, and the listeners that were called, each with how its call ended. -/
structure Answer where
  outcome : Except Rejection Unit
  calls : List (Listener × Except Mishap Unit)

/-- Who was called, in order. -/
def Answer.heard (answer : Answer) : List Listener := answer.calls.map Prod.fst

/-- The audience after a change that may be refused, and whether it was. -/
def settle (a : Audience) :
    Except SubscriptionFault Audience → Audience × Except SubscriptionFault Unit
  | .ok after => (after, pure ())
  | .error fault => (a, throw fault)

/-- Calls a listener: the audience after the call, and how it ended. -/
def call (reaction : Listener → Reaction) (a : Audience) (who : Listener) :
    Audience × Except Mishap Unit :=
  match reaction who with
  | .listen => (a, pure ())
  | .fail => (a, throw .own)
  | .leave =>
    let (after, outcome) := a.settle (a.unsubscribe who)
    (after, outcome.mapError .subscription)
  | .bring other =>
    let (after, outcome) := a.settle (a.subscribe other)
    (after, outcome.mapError .subscription)
  | .interrupt name => (a, throw (.interruption name))

/-- What the call of a listener leads to: a mishap is reported under the identifier of the chain,
which fails where the report cannot show it, and an order to stop is passed on. -/
def handled (chain : Value) : Except Mishap Unit → Except Failure Unit
  | .ok () => pure ()
  | .error (.interruption name) => throw (.interrupted name (.text ""))
  | .error _ => do
    let _ ← limited chain.plain

/-- Calls some listeners in order, until what a call leads to is a failure. -/
def callAll (reaction : Listener → Reaction) (chain : Value) (a : Audience) :
    List Listener → Audience × List (Listener × Except Mishap Unit) × Except Failure Unit
  | [] => (a, [], pure ())
  | who :: rest =>
    let (after, outcome) := a.call reaction who
    match handled chain outcome with
    | .error failure => (after, [(who, outcome)], throw failure)
    | .ok () =>
      let (last, calls, ended) := after.callAll reaction chain rest
      (last, (who, outcome) :: calls, ended)

/-- Emits a result. The emission is reported under the identifier of the chain first. -/
def emit (a : Audience) (result : RunResult) (reaction : Listener → Reaction) :
    Audience × List (Listener × Except Mishap Unit) × Except Failure Unit :=
  match limited result.chain.plain with
  | .error failure => (a, [], throw failure)
  | .ok _ => a.callAll reaction result.chain a.listeners

def take (a : Audience) : Request → Audience × Answer
  | .subscribe who =>
    let (after, outcome) := a.settle (a.subscribe who)
    (after, ⟨outcome.mapError .subscription, []⟩)
  | .unsubscribe who =>
    let (after, outcome) := a.settle (a.unsubscribe who)
    (after, ⟨outcome.mapError .subscription, []⟩)
  | .emit result reaction =>
    let (after, calls, ended) := a.emit result reaction
    (after, ⟨ended.mapError .emission, calls⟩)

def play (a : Audience) : List Request → Audience × List Answer
  | [] => (a, [])
  | request :: rest =>
    let (after, answer) := a.take request
    let (last, answers) := after.play rest
    (last, answer :: answers)

end Audience

end EventChain
