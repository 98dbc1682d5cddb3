import EventChain.Proofs.Failure
import EventChain.Route
import Mathlib.Data.List.Forall2

/-!
# What a route is built from

Routes are built from the identifiers, chains and links of nodes alone: `places` is the order of the
nodes by their places in storage, and `places_skeleton` says that it does not change when everything
else is left out of the nodes. Two chains of the same links are refused with the same error or have
routes that stop at the same places (`build_of_skeleton`).
-/

namespace EventChain

/-- The node of which only the identifier, the chain and the link are left. -/
def Node.skeleton (node : Node) : Node :=
  ⟨node.id, node.chain, .null, .null, .null, node.next⟩

namespace Route

variable {chain : Chain} {nodes others : List Node} {limit : Int}

def headsOf (nodes : List Node) : List (Node × Nat) :=
  nodes.zipIdx.filter fun (node, _) => !isTarget nodes node.id

/-- The nodes that are not among the places visited, with their own. -/
def missedBy (nodes : List Node) (visited : List (Value × Nat)) : List (Node × Nat) :=
  nodes.zipIdx.filter fun (_, i) => !visited.any (·.2 = i)

/-- The places of the nodes of a chain in the order of their links, each with the identifier under
which it is reached. -/
def places (chain : Chain) (nodes : List Node) (limit : Int) :
    Except Failure (List (Value × Nat)) :=
  if nodes.isEmpty then pure []
  else do
    checkNodes chain [] nodes
    checkLinks nodes nodes
    match headsOf nodes with
    | [] => refuseCycle chain (.noHead chain.id) .null
    | [(head, index)] =>
      let visited ← follow chain nodes limit nodes.length head.id index []
      match missedBy nodes visited with
      | [] => pure visited
      | missed@((first, _) :: _) =>
        refuseCycle chain (.loopOutside chain.id (missed.map (·.1.id))) first.id
    | heads@((_, _) :: (second, _) :: _) =>
      refuseNode (.manyHeads chain.id (heads.map (·.1.id))) second.id none

def stopsAt (nodes : List Node) (visited : List (Value × Nat)) : List Stop :=
  visited.filterMap fun (id, i) => nodes[i]?.map (⟨id, ·⟩)

theorem build_eq_places :
    build chain nodes limit =
      (do let visited ← places chain nodes limit; pure ⟨chain, stopsAt nodes visited⟩) := by
  unfold build places
  split
  · rfl
  · cases checkNodes chain [] nodes with
    | error failure => rfl
    | ok _ =>
    cases checkLinks nodes nodes with
    | error failure => rfl
    | ok _ =>
    rw [← headsOf]
    simp only [bind, Except.bind]
    rcases headsOf nodes with _ | ⟨⟨head, index⟩, _ | ⟨⟨second, i⟩, rest⟩⟩
    · rfl
    · simp only
      cases follow chain nodes limit nodes.length head.id index [] with
      | error failure => rfl
      | ok visited =>
        simp only [missedBy]
        generalize nodes.zipIdx.filter (fun x => !visited.any fun y => y.2 = x.2) = missed
        cases missed <;> rfl
    · rfl

/-! ## Skeletons -/

@[simp] theorem skeleton_id (node : Node) : node.skeleton.id = node.id := rfl
@[simp] theorem skeleton_chain (node : Node) : node.skeleton.chain = node.chain := rfl
@[simp] theorem skeleton_next (node : Node) : node.skeleton.next = node.next := rfl

@[simp] theorem indexOf?_skeleton (id : Value) :
    indexOf? (nodes.map Node.skeleton) id = indexOf? nodes id := by
  simp [indexOf?, List.findIdx?_map, Function.comp_def]

@[simp] theorem isTarget_skeleton (id : Value) :
    isTarget (nodes.map Node.skeleton) id = isTarget nodes id := by
  simp [isTarget, List.any_map, Function.comp_def]

theorem checkNodes_skeleton (earlier : List Node) :
    checkNodes chain (earlier.map Node.skeleton) (nodes.map Node.skeleton) =
      checkNodes chain earlier nodes := by
  induction nodes generalizing earlier with
  | nil => rfl
  | cons node rest ih =>
    have hrest : checkNodes chain (earlier.map Node.skeleton ++ [node.skeleton])
        (rest.map Node.skeleton) = checkNodes chain (earlier ++ [node]) rest := by
      simpa using ih (earlier ++ [node])
    simp only [List.map_cons, checkNodes, indexOf?_skeleton, skeleton_id, skeleton_chain, hrest]

theorem checkLinks_skeleton :
    checkLinks (nodes.map Node.skeleton) (others.map Node.skeleton) = checkLinks nodes others := by
  induction others with
  | nil => rfl
  | cons node rest ih =>
    simp only [List.map_cons, checkLinks, ih, indexOf?_skeleton, skeleton_id, skeleton_next]

theorem follow_skeleton (steps index : Nat) (id : Value) (visited : List (Value × Nat)) :
    follow chain (nodes.map Node.skeleton) limit steps id index visited =
      follow chain nodes limit steps id index visited := by
  induction steps generalizing id index visited with
  | zero =>
    unfold follow
    cases hn : nodes[index]? <;> simp
  | succ steps ih =>
    unfold follow
    cases hn : nodes[index]? with
    | none =>
      simp only [List.getElem?_map, hn, Option.map_none, indexOf?_skeleton]
      cases indexOf? nodes .null <;> simp only [ih]
    | some node =>
      simp only [List.getElem?_map, hn, Option.map_some, indexOf?_skeleton, skeleton_next]
      cases indexOf? nodes node.next <;> simp only [ih]

theorem headsOf_skeleton :
    headsOf (nodes.map Node.skeleton) = (headsOf nodes).map (Prod.map Node.skeleton id) := by
  simp [headsOf, List.zipIdx_map, List.filter_map, Function.comp_def]

theorem missedBy_skeleton (visited : List (Value × Nat)) :
    missedBy (nodes.map Node.skeleton) visited =
      (missedBy nodes visited).map (Prod.map Node.skeleton id) := by
  simp [missedBy, List.zipIdx_map, List.filter_map, Function.comp_def]

theorem places_skeleton :
    places chain (nodes.map Node.skeleton) limit = places chain nodes limit := by
  have hchecked : checkNodes chain [] (nodes.map Node.skeleton) = checkNodes chain [] nodes :=
    checkNodes_skeleton []
  unfold places
  rw [hchecked, checkLinks_skeleton, headsOf_skeleton, List.isEmpty_map, List.length_map]
  split
  · rfl
  · cases checkNodes chain [] nodes with
    | error failure => rfl
    | ok _ =>
    cases checkLinks nodes nodes with
    | error failure => rfl
    | ok _ =>
    simp only [bind, Except.bind]
    rcases headsOf nodes with _ | ⟨⟨head, index⟩, _ | ⟨⟨second, i⟩, rest⟩⟩
    · rfl
    · simp only [List.map_cons, List.map_nil, Prod.map, id_eq, skeleton_id, follow_skeleton]
      cases follow chain nodes limit nodes.length head.id index [] with
      | error failure => rfl
      | ok visited =>
        simp only [missedBy_skeleton]
        rcases missedBy nodes visited with _ | ⟨⟨first, i⟩, rest⟩
        · rfl
        · simp [Function.comp_def]
    · simp [Function.comp_def]

/-! ## Chains of the same links -/

theorem skeleton_eq_of_mem_zip (h : nodes.map Node.skeleton = others.map Node.skeleton)
    {node other : Node} (hz : (node, other) ∈ nodes.zip others) :
    node.skeleton = other.skeleton := by
  obtain ⟨i, hi⟩ := List.mem_iff_getElem?.mp hz
  obtain ⟨hn, ho⟩ := List.getElem?_zip_eq_some.mp hi
  have hmap := congrArg (·[i]?) h
  simpa [hn, ho] using hmap

theorem forall₂_stopsAt (h : nodes.length = others.length) (visited : List (Value × Nat)) :
    List.Forall₂ (fun s t => (s.node, t.node) ∈ nodes.zip others) (stopsAt nodes visited)
      (stopsAt others visited) := by
  induction visited with
  | nil => exact .nil
  | cons place rest ih =>
    obtain ⟨id, i⟩ := place
    unfold stopsAt at ih ⊢
    cases hn : nodes[i]? with
    | none =>
      have ho : others[i]? = none := by
        rw [List.getElem?_eq_none_iff] at hn ⊢
        exact h ▸ hn
      simpa only [List.filterMap_cons, hn, ho, Option.map_none] using ih
    | some node =>
      obtain ⟨other, ho⟩ : ∃ other, others[i]? = some other := by
        have hi := (List.getElem?_eq_some_iff.mp hn).1
        exact ⟨_, List.getElem?_eq_getElem (h ▸ hi)⟩
      simp only [List.filterMap_cons, hn, ho, Option.map_some]
      exact .cons (List.mem_of_getElem? (List.getElem?_zip_eq_some.mpr ⟨hn, ho⟩)) ih

theorem build_of_skeleton (h : nodes.map Node.skeleton = others.map Node.skeleton) :
    (∃ failure, build chain nodes limit = .error failure ∧
      build chain others limit = .error failure) ∨
    ∃ visited, build chain nodes limit = .ok ⟨chain, stopsAt nodes visited⟩ ∧
      build chain others limit = .ok ⟨chain, stopsAt others visited⟩ := by
  have hplaces : places chain others limit = places chain nodes limit := by
    rw [← places_skeleton, ← h, places_skeleton]
  rw [build_eq_places, build_eq_places, hplaces]
  cases places chain nodes limit with
  | error failure => exact .inl ⟨failure, rfl, rfl⟩
  | ok visited => exact .inr ⟨visited, rfl, rfl⟩

end Route

end EventChain
