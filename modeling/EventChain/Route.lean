import EventChain.Chain
import EventChain.Value.Equality

/-!
# Routes

A `Route` is the order in which the nodes of a chain are visited. `Route.build` follows the
links from the one node that no link leads to, and refuses nodes that do not form one path:
two nodes of one identifier, a node of another chain, a link to nowhere, no first node or
more than one, a link back, more nodes than the limit, and nodes on a loop of their own.
-/

namespace EventChain

/-- Fails for an array or an object, which cannot identify a node. -/
def Value.checkIdentifier : Value → Except Failure Unit
  | v@(.array _) | v@(.object _) => throw (.notAnIdentifier v)
  | _ => pure ()

/-- A node on a route, with the identifier under which it was reached. -/
structure Stop where
  id : Value
  node : Node

structure Route where
  chain : Chain
  stops : List Stop

namespace Route

def size (route : Route) : Nat := route.stops.length

def isEmpty (route : Route) : Bool := route.stops.isEmpty

/-- The most nodes of a route unless another limit is given. -/
def standardLimit : Int := 1000

/-- The first place of a node with an identifier. -/
def indexOf? (nodes : List Node) (id : Value) : Option Nat := nodes.findIdx? (·.id.agrees id)

/-- Refuses a chain for a fault of a node. -/
def refuseNode {α : Type} (fault : ConfigFault) (node : Value) (path : Option String) :
    Except Failure α :=
  throw (.ofConfig ⟨fault, node, path, none⟩)

/-- Refuses a chain whose links loop or run past the limit. -/
def refuseCycle {α : Type} (chain : Chain) (fault : ConfigFault) (node : Value) :
    Except Failure α :=
  throw (.ofConfig ⟨fault, node, none, some chain.id⟩)

/-- Refuses a second node with an identifier, and a node of another chain, identifiers of chains
being compared as text. -/
def checkNodes (chain : Chain) (earlier : List Node) : List Node → Except Failure Unit
  | [] => pure ()
  | node :: rest => do
    node.id.checkIdentifier
    if (indexOf? earlier node.id).isSome then refuseNode (.duplicateNode chain.id) node.id none
    if !node.chain.isNull && !chain.id.isNull then
      let own ← limited node.chain.plain
      let whole ← limited chain.id.plain
      if own ≠ whole then refuseNode (.foreignNode node.chain chain.id) node.id none
    checkNodes chain (earlier ++ [node]) rest

/-- Refuses a link to no node. -/
def checkLinks (nodes : List Node) : List Node → Except Failure Unit
  | [] => pure ()
  | node :: rest => do
    if !node.next.isNull then
      node.next.checkIdentifier
      if (indexOf? nodes node.next).isNone then
        refuseNode (.unknownLink node.next) node.id "nextNodeId"
    checkLinks nodes rest

/-- Whether a link of some node leads to an identifier. -/
def isTarget (nodes : List Node) (id : Value) : Bool :=
  nodes.any fun node => !node.next.isNull && node.next.agrees id

/-- Follows the links from the node at `index`, which was reached as `id`. `visited` holds the
places so far, the latest first; each step adds one, so as many steps as nodes suffice. -/
def follow (chain : Chain) (nodes : List Node) (limit : Int) :
    Nat → Value → Nat → List (Value × Nat) → Except Failure (List (Value × Nat))
  | steps, id, index, visited =>
    if id.isNull then pure visited.reverse
    else if visited.any (·.2 = index) then refuseCycle chain (.loop chain.id id) id
    else if limit ≤ visited.length then refuseCycle chain (.tooManyNodes chain.id limit) id
    else
      let visited := (id, index) :: visited
      let next := match nodes[index]? with
        | some node => node.next
        | none => .null
      match steps, indexOf? nodes next with
      | steps + 1, some i => follow chain nodes limit steps next i visited
      | _, _ => pure visited.reverse

/-- Puts the nodes of a chain in the order of their links. -/
def build (chain : Chain) (nodes : List Node) (limit : Int) : Except Failure Route :=
  if nodes.isEmpty then pure ⟨chain, []⟩
  else do
    checkNodes chain [] nodes
    checkLinks nodes nodes
    match nodes.zipIdx.filter fun (node, _) => !isTarget nodes node.id with
    | [] => refuseCycle chain (.noHead chain.id) .null
    | [(head, index)] =>
      let visited ← follow chain nodes limit nodes.length head.id index []
      let missed := nodes.zipIdx.filter fun (_, i) => !visited.any (·.2 = i)
      match missed with
      | [] => pure ⟨chain, visited.filterMap fun (id, i) => nodes[i]?.map (⟨id, ·⟩)⟩
      | (first, _) :: _ =>
        refuseCycle chain (.loopOutside chain.id (missed.map (·.1.id))) first.id
    | heads@((_, _) :: (second, _) :: _) =>
      refuseNode (.manyHeads chain.id (heads.map (·.1.id))) second.id none

/-- Reads the nodes of a route in order; the first that cannot be read fails. -/
def validate (readFilter : Value → Except Failure Condition) (route : Route) :
    Except Failure Unit :=
  route.stops.forM fun stop => do let _ ← stop.node.step readFilter

end Route

end EventChain
