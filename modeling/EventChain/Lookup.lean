import EventChain.Value.Basic

/-!
# Looking fields up

A field is named by its key, or by a dotted path that walks nested objects. A key that is
present as it is named always wins.
-/

namespace EventChain.Record

/-- The value at the end of a path of keys, null where the path breaks off. -/
def walk : Value → List String → Value
  | v, [] => v
  | .object entries, key :: rest =>
    match get? entries key with
    | some v => walk v rest
    | none => .null
  | _, _ :: _ => .null

/-- The keys of a dotted path. -/
def keysOf (name : String) : List String := (name.toList.splitOn '.').map String.ofList

/-- The value of a field, null if there is none. A name without a dot is a path of one key. -/
def lookup (r : Record) (name : String) : Value :=
  match r.get? name with
  | some v => v
  | none => walk (.object r) (keysOf name)

end EventChain.Record
