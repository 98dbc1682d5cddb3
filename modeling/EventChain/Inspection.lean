import EventChain.Document
import EventChain.Json.Writer
import EventChain.Report
import EventChain.Settings

/-!
# Inspections

An inspection runs a chain document on one event without any device: every command is
acknowledged. It shows the report of the run and a line for each command.
-/

namespace EventChain

inductive InspectionFault where
  | document (faults : List PlacedFault)
  | run (failure : Failure)
  | unwritable (fault : Json.WriteFault)

structure Inspection where
  report : Value
  lines : List String

namespace Inspection

/-- The gateway that acknowledges every command at once. -/
def gateway : Gateway := .scripted ⟨.boolean true, .null, .int 0, none⟩ []

def engine : Engine := ⟨Settings.standard.policy, ⟨gateway, none⟩, Condition.read⟩

/-- A reply as the report shows it. -/
def shownReply : Reply → Value
  | .value v => v
  | .attributes entries => .object entries
  | .acknowledged a => a.response

/-- The line of a command that was sent. -/
def line (command : Command) : Except Json.WriteFault String :=
  return "sent to " ++ command.device.getD "None" ++ ": " ++ (← Json.write command.payload)

/-- Runs a chain document on an event. -/
def run (document : Value) (event : Record) (now : Timestamp) :
    Except InspectionFault Inspection :=
  match Document.chain document with
  | .faulty faults => throw (.document faults)
  | .valid (chain, nodes) =>
    let outcome := engine.execute chain nodes event now none
    match outcome.result, outcome.log.sent.mapM line with
    | .error failure, _ => throw (.run failure)
    | .ok _, .error fault => throw (.unwritable fault)
    | .ok result, .ok lines => pure ⟨.object (result.report shownReply), lines⟩

end Inspection

end EventChain
