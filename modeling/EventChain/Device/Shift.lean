import EventChain.Run
import EventChain.Tally

/-!
# Shifts of a dispatcher

A `Shift` is a dispatcher in use. It performs one call after the other, each after the commands that
its gateway was sent before, and the deadlines that expired are counted in its tally.
-/

namespace EventChain

/-- An action to perform for a record, under a timeout of its own or that of the dispatcher. -/
structure Dispatcher.Call where
  action : Action
  record : Record
  timeout : Timeout

structure Shift where
  dispatcher : Dispatcher
  /-- What the calls did so far. -/
  log : Log

namespace Shift

def begin (dispatcher : Dispatcher) : Shift := ⟨dispatcher, .empty⟩

/-- The deadlines that expired so far. -/
def tally (s : Shift) : Tally := Tally.empty.recordAll s.log.expired

def take (s : Shift) (call : Dispatcher.Call) : Shift × Except Failure ActionResult :=
  let p := (s.dispatcher.after s.log.sent).perform call.action call.record call.timeout
  (⟨s.dispatcher, s.log.perform p⟩, p.result)

def play (s : Shift) : List Dispatcher.Call → Shift × List (Except Failure ActionResult)
  | [] => (s, [])
  | call :: rest =>
    let (after, result) := s.take call
    let (last, results) := after.play rest
    (last, result :: results)

end Shift

end EventChain
