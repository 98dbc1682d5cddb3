import EventChain.Run

/-!
# Reports of runs

The report of a run is the value that shows its result: what each node did, the final
record, and for every action its outcome. `reply` shows the reply of a device.
-/

namespace EventChain

def ActionResult.report (reply : Reply → Value) (r : ActionResult) : Record :=
  [("status", .text r.status.name), ("commandEcho", r.command),
    ("recordSnapshot", .object r.record), ("deviceResponse", reply r.response),
    ("error", .ofText? r.error), ("errorCode", .ofText? (r.code.map TimeoutCode.label))]

def TraceEntry.report (reply : Reply → Value) : TraceEntry → Record
  | filter node passed =>
    [("nodeId", node), ("type", .text "filter"), ("passed", .boolean passed)]
  | transform node before after =>
    [("nodeId", node), ("type", .text "transform"), ("previousRecord", .object before),
      ("newRecord", .object after)]
  | action node result =>
    [("nodeId", node), ("type", .text "action"), ("actionResult", .object (result.report reply))]
  | unknown node type =>
    [("nodeId", node), ("type", .text "unknown"), ("typeTag", .text type)]

def RunResult.report (reply : Reply → Value) (r : RunResult) : Record :=
  [("chainId", r.chain), ("status", .text r.status.name),
    ("trace", .array (r.trace.map fun entry => .object (entry.report reply))),
    ("finalRecord", .object r.record)]

end EventChain
