import EventChain.Action
import EventChain.Deadline
import EventChain.Device.Gateway

/-!
# Dispatching actions

A `Dispatcher` sends the command of an action through its gateway, if it has one, and turns what
happens into an `ActionResult`: an acknowledgement, a refusal, a fault, a malformed reply or a
deadline that expired. Only an order to stop passes through it. `Dispatcher.perform` gives the
result with the seconds it took.
-/

namespace EventChain

inductive ActionStatus where
  | success
  | error
  | skipped
  deriving DecidableEq, Repr

def ActionStatus.name : ActionStatus → String
  | success => "success"
  | error => "error"
  | skipped => "skipped"

structure ActionResult where
  status : ActionStatus
  command : Value
  /-- The record as the action saw it. -/
  record : Record
  response : Reply
  error : Option String
  code : Option TimeoutCode

structure Dispatcher where
  gateway : Option Gateway
  defaultTimeout : Timeout

/-- What became of an action: the seconds it took, `none` if it never ends, the command that was
sent, whether it counts as timed out, and its result. There is no result where a report could not
show a value, or the device gave the order to stop. -/
structure Performance where
  elapsed : Option Rat
  sent : Option Command
  timedOut : Bool
  result : Except Failure ActionResult

namespace Dispatcher

def after (d : Dispatcher) (earlier : List Command) : Dispatcher :=
  { d with gateway := d.gateway.map (·.after earlier) }

def timedOutResult (action : Action) (r : Record) (timeout : Timeout) :
    Except Failure ActionResult := do
  let shown ← limited timeout.text
  pure ⟨.error, action.command, r, .none, "Timeout after " ++ shown ++ "s", TimeoutCode.action⟩

/-- The result of a reply that came in time. -/
def repliedResult (action : Action) (r : Record) (reply : Reply) : Except Failure ActionResult := do
  match reply.acknowledgement? with
  | none =>
    -- A malformed reply is reported, and a report shows it.
    match reply with
    | .value v => let _ ← limited v.display
    | _ => pure ()
    pure ⟨.error, action.command, r, reply, "Malformed reply", none⟩
  | some a =>
    if a.ack.isTruthy then pure ⟨.success, action.command, r, .value a.response, none, none⟩
    else pure ⟨.error, action.command, r, .value a.response, "Command not acknowledged", none⟩

/-- The result of a fault that came in time. A timeout that the device reports counts as that of the
action. -/
def faultedResult (action : Action) (r : Record) (timeout : Timeout) (fault : DeviceFault) :
    Except Failure ActionResult :=
  match fault.kind with
  | .timeout => timedOutResult action r timeout
  | .interruption name => throw (.interrupted name fault.detail)
  | kind => do
    let shown ← limited fault.message
    pure ⟨.error, action.command, r, .none, kind.name ++ ": " ++ shown, none⟩

/-- An action whose command was sent, and that is waited for without a deadline. -/
def awaited (action : Action) (r : Record) (timeout : Timeout) (command : Command)
    (response : Response) : Performance :=
  match response.delay, response.result with
  | none, _ => ⟨none, command, false, throw .endless⟩
  | some delay, .ok reply => ⟨delay, command, false, repliedResult action r reply⟩
  | some delay, .error fault =>
    ⟨delay, command, fault.kind = .timeout, faultedResult action r timeout fault⟩

/-- Sends the command of an action. The timeout of the call counts before that of the
dispatcher; a reply that comes when the deadline expires comes too late. Where no clock can be set
to the timeout, nothing is sent. -/
def perform (d : Dispatcher) (action : Action) (r : Record) (timeout : Timeout) :
    Performance :=
  match d.gateway with
  | none => ⟨some 0, none, false, pure ⟨.skipped, action.command, r, .none, none, none⟩⟩
  | some gateway =>
    let timeout : Timeout := timeout.or d.defaultTimeout
    let command : Command := ⟨action.device, action.command⟩
    let response := gateway.send command
    match timeout.span? with
    | .error excess =>
      ⟨some 0, none, false, pure ⟨.error, action.command, r, .none,
        (Failure.excess excess).label ++ ": " ++ excess.message, none⟩⟩
    | .ok none => awaited action r timeout command response
    | .ok (some limit) =>
      if response.isLate limit then ⟨limit, command, true, timedOutResult action r timeout⟩
      else awaited action r timeout command response

end Dispatcher

end EventChain
