import EventChain.Config

/-!
# Actions

An action sends a command to a device. The command is the entry "command" of the config, or
else the whole config; the device may be named under several keys.
-/

namespace EventChain

structure Action where
  command : Value
  device : Option String
  /-- The config that the action was read from. -/
  config : Record

namespace Action

/-- The keys that can name the device, the first that is there and not null counting. -/
def deviceKeys : List String := ["deviceId", "deviceUUID", "UUID", "uuid"]

/-- The text of the first value under the keys that is not null. -/
def deviceOf (r : Record) : List String → Except DigitLimit (Option String)
  | [] => pure none
  | key :: rest =>
    let v := r.get key
    if v.isNull then deviceOf r rest else return some (← v.plain)

def read (config : Value) : Except Failure Action := do
  match ← Config.decode config with
  | .object r =>
    let device ← limited (deviceOf r deviceKeys)
    pure ⟨(Record.get? r "command").getD (.object r), device, r⟩
  | _ => refuse .actionNotObject none

end Action

end EventChain
