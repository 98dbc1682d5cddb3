import EventChain.Chain

/-!
# Rows of stored chains and nodes

A `ChainRow` and a `NodeRow` are what is stored, under an identifier that the store gives
out. A draft is a row that has not been saved; `ChainRow.chain` and `NodeRow.node` are what
an engine gets of a row.
-/

namespace EventChain

/-- An integer or null. -/
def Value.ofInt? : Option Int → Value
  | some n => .int n
  | none => .null

/-- What is written into a row, or looked for in one. -/
inductive Cell where
  | integer (n : Int)
  | text (s : String)

inductive CellFault where
  /-- An integer of more than 64 bits. -/
  | integerTooLarge
  /-- A text that has no UTF-8 form. -/
  | unencodable
  deriving DecidableEq, Repr

def CellFault.message : CellFault → String
  | integerTooLarge => "integer too large"
  | unencodable => "text without UTF-8 form"

namespace Cell

/-- Whether an integer fits into 64 bits with a sign. -/
def fits (n : Int) : Bool := -0x8000000000000000 ≤ n && n < 0x8000000000000000

def check : Cell → Except CellFault Unit
  | integer n => if fits n then pure () else throw .integerTooLarge
  | text s =>
    if Text.isEncodable s.toList then pure () else throw .unencodable

/-- Refuses the first of some cells that cannot be written. -/
def checkAll (cells : List Cell) : Except CellFault Unit := cells.forM check

end Cell

structure ChainRow where
  id : Int
  tenant : Option Int
  name : String
  description : Option String
  enabled : Bool
  priority : Int
  attempts : Int
  delay : Binary64
  deriving DecidableEq

structure NodeRow where
  id : Int
  chain : Int
  name : String
  type : String
  /-- JSON text. -/
  config : Option String
  next : Option Int
  deriving DecidableEq

/-- A chain before it is saved. What is null gets its standard value with the saving, as far as
it has one. -/
structure ChainDraft where
  tenant : Option Int
  name : Option String
  description : Option String
  enabled : Option Bool
  priority : Option Int
  attempts : Option Int
  delay : Option Number

structure NodeDraft where
  chain : Option Int
  name : Option String
  type : Option String
  config : Value
  next : Option Int

/-- The cells of a draft, in the order of the columns. -/
def ChainDraft.cells (draft : ChainDraft) : List Cell :=
  draft.tenant.toList.map .integer ++ draft.name.toList.map .text
    ++ draft.description.toList.map .text
    ++ [.integer (draft.priority.getD 0), .integer (draft.attempts.getD 1)]
    ++ (match draft.delay with
      | some (.int n) => [.integer n]
      | _ => [])

/-- The cells of a draft whose config is stored as `config`. -/
def NodeDraft.cells (draft : NodeDraft) (config : Option String) : List Cell :=
  draft.name.toList.map .text ++ draft.chain.toList.map .integer ++ draft.type.toList.map .text
    ++ config.toList.map .text ++ draft.next.toList.map .integer

namespace ChainDraft

/-- A draft of which nothing is given: only whether it is enabled and its priority are set. -/
def blank : ChainDraft := ⟨none, none, none, some true, some 0, none, none⟩

/-- A draft of a chain that is tried once. -/
def standard : ChainDraft := { blank with attempts := some 1, delay := some (.float .zero) }

/-- What an engine gets of a draft. -/
def chain (draft : ChainDraft) (id : Option Int) : Chain where
  id := .ofInt? id
  name := .ofText? draft.name
  tenant := .ofInt? draft.tenant
  enabled := (draft.enabled.map Value.boolean).getD .null
  priority := .ofInt? draft.priority
  retry := ⟨.ofInt? draft.attempts, (draft.delay.map Value.number).getD .null⟩
  description := .ofText? draft.description

end ChainDraft

/-- What an engine gets of a chain. -/
def ChainRow.chain (row : ChainRow) : Chain where
  id := .int row.id
  name := .text row.name
  tenant := .ofInt? row.tenant
  enabled := .boolean row.enabled
  priority := .int row.priority
  retry := ⟨.int row.attempts, .number (.float row.delay)⟩
  description := .ofText? row.description

/-- What an engine gets of a node: its config is the text that is stored. -/
def NodeRow.node (row : NodeRow) : Node where
  id := .int row.id
  chain := .int row.chain
  type := .text row.type
  name := .text row.name
  config := .ofText? row.config
  next := .ofInt? row.next

end EventChain
