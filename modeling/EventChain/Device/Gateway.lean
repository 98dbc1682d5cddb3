import EventChain.Device.Reply
import EventChain.Failure

/-!
# Gateways

A `Gateway` stands between the engine and its devices: it takes a command and after a delay
gives a reply or fails, unless it never answers. A scripted gateway answers each device as its
script says; a transport answers as it pleases, also by the commands that it was sent before. Time
is measured in seconds as rationals.
-/

namespace EventChain

inductive DeviceFaultKind where
  | runtime
  | value
  | connection
  | timeout
  | key
  | os
  | configuration
  | engine
  | other (name : String)
  /-- The end of an iteration, which no call can raise: it comes out as an error of the runtime. -/
  | iterationEnd
  /-- No error but an order to stop, such as a cancellation, which no handler of errors takes. -/
  | interruption (name : String)
  deriving DecidableEq, Repr

namespace DeviceFaultKind

def name : DeviceFaultKind → String
  | runtime | iterationEnd => "RuntimeError"
  | value => "ValueError"
  | connection => "ConnectionError"
  | timeout => "TimeoutError"
  | key => "KeyError"
  | os => "OSError"
  | configuration => "ConfigurationError"
  | engine => "RuleEngineError"
  | other name | interruption name => name

/-- The kinds that have a name of their own. -/
def all : List DeviceFaultKind :=
  [runtime, value, connection, timeout, key, os, configuration, engine]

def ofName? (name : String) : Option DeviceFaultKind := all.find? (·.name = name)

end DeviceFaultKind

/-- What a device raises, and the value that it raises it with. -/
structure DeviceFault where
  kind : DeviceFaultKind
  detail : Value

/-- The text of a fault; a missing key is shown in quotes. -/
def DeviceFault.message (fault : DeviceFault) : Except DigitLimit String :=
  match fault.kind with
  | .key => fault.detail.display
  | .iterationEnd => pure "coroutine raised StopIteration"
  | _ => fault.detail.plain

/-- How a scripted device behaves: it waits, then fails or acknowledges. -/
structure Behaviour where
  ack : Value
  response : Value
  delay : Number
  fault : Option DeviceFault

/-- Seconds that a number of seconds lasts, at least 0; `none` where it never ends. -/
def Number.seconds (n : Number) : Option Rat :=
  match n.place? with
  | some (.finite q) => some (if q < 0 then 0 else q)
  | some .above => none
  | some .below | none => some 0

structure Command where
  device : Option String
  payload : Value

/-- What comes back, and after how many seconds; with the delay `none` it never does. -/
structure Response where
  delay : Option Rat
  result : Except DeviceFault Reply

/-- Whether nothing has come back before a number of seconds has passed. -/
def Response.isLate (response : Response) (limit : Rat) : Bool := response.delay.all (limit ≤ ·)

inductive Gateway where
  /-- Answers every command with one reply at once. -/
  | constant (reply : Reply)
  | scripted (standard : Behaviour) (scripts : List (Option String × Behaviour))
  /-- Answers a command that comes after others. -/
  | transport (answer : List Command → Command → Response)

namespace Gateway

/-- The gateway once it was sent commands. -/
def after (earlier : List Command) : Gateway → Gateway
  | transport answer => transport fun later => answer (earlier ++ later)
  | gateway => gateway

/-- The scripted gateway with a script added, which takes the place of an earlier one. -/
def script (standard : Behaviour) (scripts : List (Option String × Behaviour))
    (device : Option String) (behaviour : Behaviour) : Gateway :=
  scripted standard ((device, behaviour) :: scripts.filter (·.1 ≠ device))

/-- Sends a command. A scripted gateway reports each command, which fails where the report
cannot show it, and fails to wait where the delay is too long for a clock. -/
def send : Gateway → Command → Response
  | constant reply, _ => ⟨some 0, .ok reply⟩
  | scripted standard scripts, command =>
    match command.payload.display with
    | .error limit => ⟨some 0, .error ⟨.value, .text limit.message⟩⟩
    | .ok _ =>
      let behaviour := (scripts.lookup command.device).getD standard
      if behaviour.delay.isTooLong then
        ⟨some 0, .error ⟨.other (Failure.excess .operand).label, .text Excess.operand.message⟩⟩
      else
        ⟨behaviour.delay.seconds, match behaviour.fault with
          | some fault => .error fault
          | none => .ok (.acknowledged ⟨behaviour.ack, behaviour.response⟩)⟩
  | transport answer, command =>
    let response := answer [] command
    ⟨response.delay.map fun delay => if delay < 0 then 0 else delay, response.result⟩

end Gateway

end EventChain
