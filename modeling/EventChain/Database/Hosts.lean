import EventChain.Database.Url

/-!
# Hosts in a query

The query of a URL can name hosts and ports of a server: several hosts each with its port after
a colon, or hosts and ports in lists of their own with commas. `DatabaseUrl.checkHosts` refuses
what cannot be put together.
-/

namespace EventChain.DatabaseUrl

inductive HostsFault where
  /-- Ports stand both after the hosts and in a list of their own. -/
  | mixed
  | badPort
  | unequal
  | noHost
  | noPort
  /-- Every host has more than one colon. -/
  | manyParts
  deriving DecidableEq, Repr

def HostsFault.message : HostsFault → String
  | mixed => "ports are given in two ways"
  | badPort => "a port is no integer"
  | unequal => "there are not as many ports as hosts"
  | noHost => "a host is missing"
  | noPort => "a port is missing"
  | manyParts => "too many values to unpack (expected 2)"

/-- Hosts with their ports as they are written. -/
structure Hosts where
  hosts : List (List Char)
  ports : List (List Char)

/-- Splits a host with its port after a colon, if it is written in letters, digits, dots and
hyphens. -/
def splitPort? (cs : List Char) : Option (List Char × List Char) :=
  let cs := if cs.getLast? = some '\n' then cs.dropLast else cs
  let isHost (c : Char) := c.isAlphanum || c = '-' || c = '.'
  match cs.dropWhile isHost with
  | [] => some (cs, [])
  | ':' :: port => if port.all Text.isDigit then some (cs.takeWhile isHost, port) else none
  | _ => none

/-- The hosts of a query with the ports that stand after them, none for ports that are not with
the hosts. -/
def namedHosts (url : DatabaseUrl) :
    Except HostsFault (List (List Char) × Option (List (List Char))) :=
  match url.values "host" with
  | [] => pure ([], none)
  | [found] => match found.splitOn ',' with
    | [host] => match splitPort? host with
      | some (host, port) => pure ([host], some [port])
      | none => pure ([host], none)
    | hosts => pure (hosts, none)
  | several =>
    let parts := several.map fun host =>
      if host.contains ':' then host.splitOn ':' else [host, []]
    if parts.all (2 < ·.length) then throw .manyParts
    else pure (parts.map (·.headD []), some (parts.map fun p => p.getD 1 []))

/-- The ports that stand in a list of their own. -/
def listedPorts (url : DatabaseUrl) : Option (List (List Char)) :=
  match url.values "port" with
  | [] => none
  | [found] => some (found.splitOn ',')
  | several => some several

/-- A port as it is written, none for an empty one. -/
def readPortText (cs : List Char) : Except HostsFault (Option Int) :=
  if cs.isEmpty then pure none
  else match Numeral.groupedInt cs with
    | .ok n => pure (some n)
    | .error _ => throw .badPort

/-- The hosts and the ports that a query names. -/
def hostsAndPorts (url : DatabaseUrl) :
    Except HostsFault (List (List Char) × Option (List (Option Int))) := do
  let (hosts, own) ← url.namedHosts
  let written ← match own, url.listedPorts with
    | some _, some _ => throw .mixed
    | some ports, none => pure (some ports)
    | none, listed => pure listed
  match written with
  | none => pure (hosts, none)
  | some written => do
    let ports ← written.mapM readPortText
    if hosts.length ≤ 1 && ports.length ≤ 1 || hosts.length = ports.length then
      pure (hosts, some ports)
    else throw .unequal

/-- Refuses several hosts of which one is empty or has no port. -/
def checkHosts : List (List Char) → Option (List (Option Int)) → Except HostsFault Unit
  | hosts@(_ :: _ :: _), ports =>
    if hosts.any (·.isEmpty) then throw .noHost
    else if (ports.getD [none]).any (·.getD 0 = 0) then throw .noPort
    else pure ()
  | _, _ => pure ()

end EventChain.DatabaseUrl
