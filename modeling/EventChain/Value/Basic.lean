import EventChain.Number.Basic
import EventChain.Time.Timestamp

/-!
# Values of event records

A `Value` is what a field of a record, an entry of a config or an identifier holds. Its
`Kind` decides how it is coerced and compared. Objects keep their entries in order;
`Record.get?` and `Record.set` read and write one by its key.
-/

namespace EventChain

/-- A value of no known kind, `foreign`, has a text and nothing else. -/
inductive Value where
  | null
  | boolean (b : Bool)
  | number (n : Number)
  | text (s : String)
  | array (items : List Value)
  | timestamp (t : Timestamp)
  | object (entries : List (String × Value))
  | bytes (octets : List UInt8)
  | foreign (text : String)
  deriving Inhabited

/-- The entries of an event, or of any object. -/
abbrev Record := List (String × Value)

inductive Kind where
  | null
  | number
  | string
  | boolean
  | array
  | timestamp
  | object
  deriving DecidableEq, Repr

def Kind.name : Kind → String
  | null => "null"
  | number => "number"
  | string => "string"
  | boolean => "boolean"
  | array => "array"
  | timestamp => "timestamp"
  | object => "object"

namespace Record

def get? : Record → String → Option Value
  | [], _ => none
  | (k, v) :: rest, key => if k = key then some v else get? rest key

def has (r : Record) (key : String) : Bool := (r.get? key).isSome

/-- The value at a key, null if there is none. -/
def get (r : Record) (key : String) : Value := (r.get? key).getD .null

/-- Puts a value at a key: in place of the one that is there, else at the end. -/
def set : Record → String → Value → Record
  | [], key, value => [(key, value)]
  | (k, v) :: rest, key, value =>
    if k = key then (k, value) :: rest else (k, v) :: set rest key value

/-- The entries in order, a later entry taking the place of an earlier one with its key. -/
def ofEntries (entries : List (String × Value)) : Record :=
  entries.foldl (fun r (k, v) => r.set k v) []

end Record

namespace Value

def int (n : Int) : Value := .number (.int n)

/-- A text, or null for none. -/
def ofText? : Option String → Value
  | some s => .text s
  | none => .null

/-- The kind of a value. Bytes and foreign values count as objects. -/
def kind : Value → Kind
  | null => .null
  | boolean _ => .boolean
  | number _ => .number
  | text _ => .string
  | array _ => .array
  | timestamp _ => .timestamp
  | object _ | bytes _ | foreign _ => .object

def isNull : Value → Bool
  | null => true
  | _ => false

/-- Whether a value is null or holds nothing. A foreign value has no size and is not empty. -/
def isEmpty : Value → Bool
  | null => true
  | text s => s.isEmpty
  | array items => items.isEmpty
  | object entries => entries.isEmpty
  | bytes octets => octets.isEmpty
  | boolean _ | number _ | timestamp _ | foreign _ => false

/-- Whether a value counts as true where a yes or no is asked for: all but null, false, zero and
what is empty. -/
def isTruthy : Value → Bool
  | boolean b => b
  | number n => !n.isZero
  | v => !v.isEmpty

end Value

end EventChain
