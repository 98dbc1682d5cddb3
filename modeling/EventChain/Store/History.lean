import EventChain.Store.Basic

/-!
# The history of a store

A `Call` is an operation that may change a store, and an `Event` what it came to. A call that is
refused changes nothing. `Store.play` makes one call after the other and keeps the `History` of
them, from which `History.chains` and `History.nodes` tell what is stored.
-/

namespace EventChain

namespace Store

inductive Call where
  | createChain (draft : ChainDraft)
  | createNode (draft : NodeDraft)
  | link (node : Int) (next : Option Int)
  | deleteChain (chain : Int)

inductive Event where
  | chainCreated (row : ChainRow)
  | nodeCreated (row : NodeRow)
  | linked (row : NodeRow)
  | chainDeleted (chain : Int)
  /-- There is no chain or no node of the identifier. -/
  | missed
  | refused (fault : StoreFault)

def Event.deletes (chain : Int) : Event → Bool
  | .chainDeleted id => id = chain
  | _ => false

/-- The store and the event after an operation that may be refused. -/
def settle {α : Type} (s : Store) (event : α → Event) :
    Except StoreFault (Store × α) → Store × Event
  | .ok (after, a) => (after, event a)
  | .error fault => (s, .refused fault)

def perform (s : Store) : Call → Store × Event
  | .createChain draft => s.settle .chainCreated (s.createChain draft)
  | .createNode draft => s.settle .nodeCreated (s.createNode draft)
  | .link node next =>
    s.settle (fun row? => (row?.map Event.linked).getD .missed) (s.link node next)
  | .deleteChain chain =>
    s.settle (fun found => if found then .chainDeleted chain else .missed) (s.deleteChain chain)

end Store

/-- Calls with what they came to, the first call first. -/
abbrev History := List (Store.Call × Store.Event)

namespace Store

def play (s : Store) : List Call → Store × History
  | [] => (s, [])
  | call :: rest =>
    let (after, event) := s.perform call
    let (last, history) := after.play rest
    (last, (call, event) :: history)

end Store

namespace History

def deletes (chain : Int) (h : History) : Bool := h.any (·.2.deletes chain)

/-- The link of a node after a call, given the link before. -/
def linkAfter (node : Int) (link : Option Int) : Store.Call × Store.Event → Option Int
  | (.link id next, .linked _) => if id = node then next else link
  | _ => link

/-- The link of a node after some calls, given the link before. -/
def linkOf (node : Int) (link : Option Int) (h : History) : Option Int :=
  h.foldl (linkAfter node) link

/-- The chains that were created and not deleted since, each with its draft. -/
def chains : History → List (ChainDraft × ChainRow)
  | [] => []
  | (.createChain draft, .chainCreated row) :: later =>
    if deletes row.id later then chains later else (draft, row) :: chains later
  | _ :: later => chains later

/-- The nodes that were created for a chain and not deleted with it since, each with its draft and
the link it has by now. -/
def nodes (chain : Int) : History → List (NodeDraft × NodeRow)
  | [] => []
  | (.createNode draft, .nodeCreated row) :: later =>
    if row.chain = chain ∧ ¬ deletes chain later then
      (draft, { row with next := linkOf row.id draft.next later }) :: nodes chain later
    else nodes chain later
  | _ :: later => nodes chain later

end History

end EventChain
