import EventChain.Proofs.Device.Shift

/-!
# Timeouts that a call reports

A call shows the code of a timeout, and is counted with the time that it took, in two cases: the
deadline in force expired, and then the call took as long as that; or the device raised a timeout of
its own, which it can do under any deadline and under none. A fault of any other kind is reported by
its name, without a code, and leaves the counters as they are (`Shift.take_reports`).
-/

namespace EventChain

namespace Dispatcher

variable {d : Dispatcher} {call : Call}

/-- The device raises a fault, and that before the deadline in force. -/
def Raises (d : Dispatcher) (call : Call) (fault : DeviceFault) : Prop :=
  ∃ gateway ∈ d.gateway, d.InTime gateway call.action call.timeout ∧
    (gateway.send (commandOf call.action)).result = .error fault

def RaisesTimeout (d : Dispatcher) (call : Call) : Prop :=
  ∃ fault, d.Raises call fault ∧ fault.kind = .timeout

theorem Raises.unique {fault other : DeviceFault} (h : d.Raises call fault)
    (h' : d.Raises call other) : fault = other := by
  obtain ⟨gateway, hg, -, hr⟩ := h
  obtain ⟨gateway', hg', -, hr'⟩ := h'
  cases hg.symm.trans hg'
  cases hr.symm.trans hr'
  rfl

/-- There is a gateway that never answers, and no deadline is in force. -/
def Hangs (d : Dispatcher) (call : Call) : Prop :=
  ∃ gateway ∈ d.gateway, (d.inForce call.timeout).span? = .ok none ∧
    (gateway.send (commandOf call.action)).delay = none

/-- What a performance tells of the time that an action took, and of what the device raises. -/
structure Timed (d : Dispatcher) (call : Call) (p : Performance) : Prop where
  timedOut : p.timedOut = true ↔ d.Expires call ∨ d.RaisesTimeout call
  code : ∀ result, p.result = .ok result → (result.code = some .action ↔ p.timedOut = true)
  expired : d.Expires call →
    ∃ limit, (d.inForce call.timeout).span? = .ok (some limit) ∧ p.elapsed = some limit
  raised : ∀ fault, d.Raises call fault →
    p.result = faultedResult call.action call.record (d.inForce call.timeout) fault
  hangs : d.Hangs call → p.result = .error .endless

end Dispatcher

namespace Shift

variable {s : Shift} {call : Dispatcher.Call}

def current (s : Shift) : Dispatcher := s.dispatcher.after s.log.sent

end Shift

end EventChain
