import EventChain.Inspection
import EventChain.Json.Reader
import Std.Time.DateTime.Timestamp

/-!
# Command line

Takes the files of a chain document and of an event, runs the chain on the event and prints
the report and a line for each command.
-/

namespace EventChain.CommandLine

def usage : String := "usage: eventchain CHAIN EVENT"

/-- The text of faults in a document, one a line. -/
def faultLines (faults : List PlacedFault) : List String :=
  faults.map fun f =>
    ".".intercalate (f.place.map fun
      | .name s => s
      | .index n => toString n) ++ ": " ++ f.fault.label

def failureText (failure : Failure) : String :=
  failure.label ++ ": " ++ (match failure.message with
    | .ok s => s
    | .error limit => limit.message)

/-- The lines to print, or the text of what went wrong. -/
def output (document event : String) (now : Timestamp) : Except String (List String) := do
  let read (text : String) : Except String Value :=
    match Json.parseText DigitLimit.most text.toList with
    | .ok v => pure v
    | .error fault => throw ("not JSON: " ++ fault.message)
  let document ← read document
  let event ← read event
  let record ← match event with
    | .object entries => pure entries
    | v => throw ("an event must be an object, got " ++ v.typeName)
  match Inspection.run document record now with
  | .error (.document faults) => throw ("\n".intercalate (faultLines faults))
  | .error (.run failure) => throw (failureText failure)
  | .error (.unwritable _) => throw "the report has no JSON form"
  | .ok inspection =>
    match Json.writeIndented 0 inspection.report with
    | .ok report => pure (report :: inspection.lines)
    | .error _ => throw "the report has no JSON form"

end EventChain.CommandLine

open EventChain in
def main (args : List String) : IO UInt32 := do
  match args with
  | [chainFile, eventFile] =>
    let clock ← Std.Time.Timestamp.now
    match Timestamp.ofInstant? (clock.toNanosecondsSinceUnixEpoch.toInt / 1000) with
    | none => IO.eprintln "the clock is beyond the calendar"; return 1
    | some now =>
      let document ← IO.FS.readFile chainFile
      let event ← IO.FS.readFile eventFile
      match CommandLine.output document event now with
      | .ok lines => lines.forM IO.println; return 0
      | .error text => IO.eprintln text; return 1
  | _ => IO.println CommandLine.usage; return 1
