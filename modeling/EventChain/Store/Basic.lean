import EventChain.Json.Writer
import EventChain.Service
import EventChain.Store.Row

/-!
# The store of chains

A `Store` holds the rows of chains and of nodes in ascending order of their identifiers. A
new identifier follows the greatest one in use. A row without a name is refused, and so is a
node whose name another node of its chain has; a refused row changes nothing. Nodes may
belong to chains that do not exist, and links may lead to nodes that do not.
-/

namespace EventChain

structure Store where
  chains : List ChainRow
  nodes : List NodeRow

inductive StoreFault where
  | noChainName
  | noDelay
  | noNodeName
  | noNodeChain
  | noNodeType
  | duplicateName
  | cell (fault : CellFault)
  | config (fault : Json.WriteFault)

def StoreFault.message : StoreFault → String
  | noChainName => "NOT NULL constraint failed: rule_chains.name"
  | noDelay => "NOT NULL constraint failed: rule_chains.retry_delay"
  | noNodeName => "NOT NULL constraint failed: rule_chain_nodes.name"
  | noNodeChain => "NOT NULL constraint failed: rule_chain_nodes.rule_chain_id"
  | noNodeType => "NOT NULL constraint failed: rule_chain_nodes.type"
  | duplicateName =>
    "UNIQUE constraint failed: rule_chain_nodes.name, rule_chain_nodes.rule_chain_id"
  | cell fault => fault.message
  | config (.digitLimit limit) => limit.message
  | config (.noForm v) => "no JSON form: " ++ v.typeName

namespace Store

def empty : Store := ⟨[], []⟩

/-- Refuses cells that cannot be written. -/
def checkCells (cells : List Cell) : Except StoreFault Unit :=
  match Cell.checkAll cells with
  | .ok () => pure ()
  | .error fault => throw (.cell fault)

/-- The identifier after the greatest of some. -/
def nextId (ids : List Int) : Int := ids.foldl max 0 + 1

/-- The float that a number of seconds is stored as. The negative zero is stored as zero. -/
def storedDelay : Number → Binary64
  | .float x => if x.isZero then .zero else x
  | .int n => .ofInt n

/-- Saves a new chain. A delay that is no number counts as null. -/
def createChain (s : Store) (draft : ChainDraft) : Except StoreFault (Store × ChainRow) := do
  checkCells draft.cells
  let delay := storedDelay (draft.delay.getD (.float .zero))
  match draft.name with
  | none => throw .noChainName
  | some name =>
    if delay.isNan then throw .noDelay
    else
      let row : ChainRow := ⟨nextId (s.chains.map (·.id)), draft.tenant, name, draft.description,
        draft.enabled.getD true, draft.priority.getD 0, draft.attempts.getD 1, delay⟩
      pure ({ s with chains := s.chains ++ [row] }, row)

def chain? (s : Store) (id : Int) : Option ChainRow := s.chains.find? (·.id = id)

/-- The nodes of a chain in the order of their identifiers. -/
def nodesOf (s : Store) (chain : Int) : List NodeRow := s.nodes.filter (·.chain = chain)

def getChain (s : Store) (id : Int) : Except StoreFault (Option ChainRow) := do
  checkCells [.integer id]
  pure (s.chain? id)

/-- Whether a chain comes before another in a list: the highest priority first, and of one priority
the least identifier. -/
def precedes (a b : ChainRow) : Bool :=
  b.priority < a.priority || (a.priority = b.priority && a.id ≤ b.id)

/-- The chains, of one tenant if one is given. -/
def listChains (s : Store) (tenant : Option Int) : Except StoreFault (List ChainRow) := do
  checkCells (tenant.toList.map .integer)
  let rows := match tenant with
    | none => s.chains
    | some t => s.chains.filter (·.tenant = some t)
  pure (rows.mergeSort precedes)

/-- Deletes a chain with its nodes; says whether there was one. -/
def deleteChain (s : Store) (id : Int) : Except StoreFault (Store × Bool) := do
  match ← s.getChain id with
  | none => pure (s, false)
  | some _ => pure (⟨s.chains.filter (·.id ≠ id), s.nodes.filter (·.chain ≠ id)⟩, true)

/-- The text that a config is stored as: null and text as they are, other values as JSON. -/
def storedConfig : Value → Except StoreFault (Option String)
  | .null => pure none
  | .text s => pure (some s)
  | v => match Json.write v with
    | .ok s => pure (some s)
    | .error fault => throw (.config fault)

def createNode (s : Store) (draft : NodeDraft) : Except StoreFault (Store × NodeRow) := do
  let config ← storedConfig draft.config
  checkCells (draft.cells config)
  match draft.name, draft.chain, draft.type with
  | none, _, _ => throw .noNodeName
  | some _, none, _ => throw .noNodeChain
  | some _, some _, none => throw .noNodeType
  | some name, some chain, some type =>
    if s.nodes.any fun row => row.name = name && row.chain = chain then throw .duplicateName
    else
      let row : NodeRow := ⟨nextId (s.nodes.map (·.id)), chain, name, type, config, draft.next⟩
      pure ({ s with nodes := s.nodes ++ [row] }, row)

def listNodes (s : Store) (chain : Int) : Except StoreFault (List NodeRow) := do
  checkCells [.integer chain]
  pure (s.nodesOf chain)

/-- Sets the link of a node; none if there is no such node. -/
def link (s : Store) (node : Int) (next : Option Int) :
    Except StoreFault (Store × Option NodeRow) := do
  checkCells [.integer node]
  match s.nodes.find? (·.id = node) with
  | none => pure (s, none)
  | some row =>
    checkCells (next.toList.map .integer)
    let linked := { row with next }
    pure ({ s with nodes := s.nodes.map fun r => if r.id = node then linked else r }, some linked)

/-- A chain with its nodes as an engine gets them. -/
def loadSnapshot (s : Store) (id : Int) : Except StoreFault (Option (Chain × List Node)) := do
  match ← s.getChain id with
  | none => pure none
  | some row =>
    let nodes ← s.listNodes id
    pure (some (row.chain, nodes.map NodeRow.node))

/-- The service of the chains that are stored. Loading takes no time. -/
def service (s : Store) (engine : Engine) : Service where
  engine := engine
  chains := s.chains.map fun row => ⟨row.chain, (s.nodesOf row.id).map NodeRow.node, 0⟩
  timeout := some Service.standardTimeout

end Store

end EventChain
