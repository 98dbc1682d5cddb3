import EventChain.Config

/-!
# Transforms

A transform adds, subtracts, multiplies or divides one field of a record by an operand. A
field that counts as no number is left as it is, and so is every field under an operation
that is not known, unless transforms are strict.
-/

namespace EventChain

inductive Operation where
  | add
  | subtract
  | multiply
  | divide
  deriving DecidableEq, Repr

namespace Operation

def name : Operation → String
  | add => "add"
  | subtract => "subtract"
  | multiply => "multiply"
  | divide => "divide"

def all : List Operation := [add, subtract, multiply, divide]

def ofName? (name : String) : Option Operation := all.find? (·.name = name)

def apply : Operation → Number → Number → Except ArithmeticFault Number
  | add => Number.add
  | subtract => Number.sub
  | multiply => Number.mul
  | divide => Number.div

end Operation

/-- The operation is kept by its name, which need not be known. -/
structure Transform where
  field : String
  operation : String
  operand : Number

namespace Transform

def read (config : Value) : Except Failure Transform := do
  match ← Config.decode config with
  | .object r =>
    match Config.name? (Record.get r "field") with
    | none => refuse .transformWithoutField "field"
    | some field =>
      match Record.get r "operation" with
      | .text operation =>
        let v := Record.get r "operand"
        match Config.operand? v with
        | none => refuse (.operandNotNumeric v) "operand"
        | some operand =>
          if operation = Operation.divide.name ∧ operand.isZero = true then
            refuse .divisionByZero "operand"
          else pure ⟨field, operation, operand⟩
      | v => refuse (.operationNotText v) "operation"
  | _ => refuse .transformNotObject none

/-- Applies a transform to a record, an integral result being kept as an integer. -/
def apply (t : Transform) (strict : Bool) (r : Record) : Except Failure Record :=
  match Operation.ofName? t.operation with
  | none => if strict then refuse (.unknownOperation t.operation) "operation" else pure r
  | some operation => do
    match ← limited (r.get t.field).toNumber with
    | none =>
      -- A field that is passed over is reported, and a report shows it.
      let _ ← limited (r.get t.field).display
      pure r
    | some current =>
      match operation.apply current t.operand with
      | .ok result => pure (r.set t.field (.number result.normalize))
      | .error .divisionByZero => refuse .divisionByZero "operand"
      | .error .operandTooLarge => throw (.excess .operand)
      | .error .quotientTooLarge => throw (.excess .quotient)

end Transform

end EventChain
