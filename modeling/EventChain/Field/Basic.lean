import EventChain.Value.Basic

/-!
# Fields with faults

A document is read field by field, and every field that is wrong is reported: `Checked` is
a value, or the faults found with their places. Reading two fields reports the faults of
both, those of the first one first.
-/

namespace EventChain

inductive FieldFault where
  | missing
  | unknown
  | notObject
  | notArray
  | notText
  | undecodable
  | notInteger
  | badInteger
  | hugeInteger
  | fractional
  | notFinite
  | notFloat
  | badFloat
  | notBoolean
  | badBoolean
  | tooSmall
  deriving DecidableEq, Repr

def FieldFault.label : FieldFault → String
  | missing => "missing"
  | unknown => "extra_forbidden"
  | notObject => "model_type"
  | notArray => "list_type"
  | notText => "string_type"
  | undecodable => "string_unicode"
  | notInteger => "int_type"
  | badInteger => "int_parsing"
  | hugeInteger => "int_parsing_size"
  | fractional => "int_from_float"
  | notFinite => "finite_number"
  | notFloat => "float_type"
  | badFloat => "float_parsing"
  | notBoolean => "bool_type"
  | badBoolean => "bool_parsing"
  | tooSmall => "greater_than_equal"

/-- A step into a document: to the value under a name or to an item of an array. -/
inductive Key where
  | name (s : String)
  | index (n : Nat)
  deriving DecidableEq, Repr

/-- A fault, and the keys that lead to the value that is wrong. -/
structure PlacedFault where
  place : List Key
  fault : FieldFault
  deriving DecidableEq, Repr

inductive Checked (α : Type) where
  | valid (a : α)
  | faulty (faults : List PlacedFault)

namespace Checked

variable {α β : Type}

/-- Applies a function, with the faults of both sides. -/
def apply : Checked (α → β) → (Unit → Checked α) → Checked β
  | valid f, x => match x () with
    | valid a => valid (f a)
    | faulty faults => faulty faults
  | faulty faults, x => match x () with
    | valid _ => faulty faults
    | faulty others => faulty (faults ++ others)

instance : Applicative Checked where
  pure := valid
  seq := apply

def ofExcept : Except FieldFault α → Checked α
  | .ok a => valid a
  | .error fault => faulty [⟨[], fault⟩]

/-- Moves the faults below a key. -/
def below (key : Key) : Checked α → Checked α
  | valid a => valid a
  | faulty faults => faulty (faults.map fun f => { f with place := key :: f.place })

/-- The first of two readings that succeeds, or the faults of both. -/
def either : Checked α → Checked α → Checked α
  | valid a, _ => valid a
  | faulty _, valid a => valid a
  | faulty faults, faulty others => faulty (faults ++ others)

end Checked

namespace Field

variable {α : Type}

/-- Reads a value that has at most one fault. -/
def single (reader : Value → Except FieldFault α) (v : Value) : Checked α := .ofExcept (reader v)

/-- Reads the value under the first of some names that is there. Where none is, the field has its
standard value or is missing under the first name. -/
def read (r : Record) (names : List String) (standard : Option α) (reader : Value → Checked α) :
    Checked α :=
  match names.find? r.has, standard with
  | some name, _ => (reader (r.get name)).below (.name name)
  | none, some a => .valid a
  | none, none => .faulty [⟨[.name (names.headD "")], .missing⟩]

/-- Reads null as nothing. -/
def nullable (reader : Value → Checked α) : Value → Checked (Option α)
  | .null => .valid none
  | v => some <$> reader v

/-- Reads items that are numbered from `i` on. -/
def items (reader : Value → Checked α) (i : Nat) : List Value → Checked (List α)
  | [] => .valid []
  | v :: rest => List.cons <$> (reader v).below (.index i) <*> items reader (i + 1) rest

def array (reader : Value → Checked α) : Value → Checked (List α)
  | .array vs => items reader 0 vs
  | _ => .faulty [⟨[], .notArray⟩]

def object (reader : Record → Checked α) : Value → Checked α
  | .object r => reader r
  | _ => .faulty [⟨[], .notObject⟩]

end Field

end EventChain
