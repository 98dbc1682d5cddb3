import EventChain.Proofs.Route.Links

/-!
# The stops of a route

What a route holds whatever its identifiers are: every stop is a node of the chain under an
identifier that is the node's or agrees with it, and there are stops where there are nodes
(`build_stops`). A node alone without a link is a route of one stop (`build_single`).
-/

namespace EventChain.Route

variable {chain : Chain} {nodes : List Node} {limit : Int}

def Names (id : Value) (node : Node) : Prop := node.id = id ∨ node.id.agrees id = true

def Placed (nodes : List Node) (p : Value × Nat) : Prop :=
  ∃ node, nodes[p.2]? = some node ∧ Names p.1 node

theorem placed_of_indexOf? {id : Value} {i : Nat} (h : indexOf? nodes id = some i) :
    Placed nodes (id, i) := by
  obtain ⟨hi, hp, -⟩ := List.findIdx?_eq_some_iff_getElem.mp h
  exact ⟨nodes[i], List.getElem?_eq_getElem hi, .inr hp⟩

/-- Induction on the walk: each of its steps adds a place of a node. -/
theorem follow_placed {steps i : Nat} {id : Value} {visited reached : List (Value × Nat)}
    (hp : Placed nodes (id, i)) (hv : ∀ p ∈ visited, Placed nodes p)
    (h : follow chain nodes limit steps id i visited = .ok reached) :
    ∀ p ∈ reached, Placed nodes p := by
  fun_induction follow chain nodes limit steps id i visited with
  | case1 =>
    cases h
    exact fun p hp => hv p (List.mem_reverse.mp hp)
  | case2 => simp at h
  | case3 => simp at h
  | case4 id i visited _ _ _ _ _ steps j hidx ih =>
    exact ih (placed_of_indexOf? hidx) (List.forall_mem_cons.mpr ⟨hp, hv⟩) h
  | case5 steps id i visited =>
    cases h
    exact fun p h => (List.forall_mem_cons.mpr ⟨hp, hv⟩) p (List.mem_reverse.mp h)

theorem mem_stops_iff {visited : List (Value × Nat)} {stop : Stop} :
    stop ∈ visited.filterMap (fun (id, i) => nodes[i]?.map (⟨id, ·⟩)) ↔
      ∃ i, (stop.id, i) ∈ visited ∧ nodes[i]? = some stop.node := by
  rw [List.mem_filterMap]
  constructor
  · rintro ⟨⟨id, i⟩, hmem, h⟩
    obtain ⟨node, hn, rfl⟩ := Option.map_eq_some_iff.mp h
    exact ⟨i, hmem, hn⟩
  · rintro ⟨i, hmem, hn⟩
    exact ⟨(stop.id, i), hmem, by simp [hn]⟩

theorem build_stops {route : Route} (h : build chain nodes limit = .ok route) :
    route.chain = chain ∧ (∀ stop ∈ route.stops, stop.node ∈ nodes ∧ Names stop.id stop.node) ∧
      (route.stops = [] ↔ nodes = []) := by
  unfold build at h
  split at h
  · next hnil =>
    cases h
    simpa using hnil
  next hne =>
  obtain ⟨-, -, h⟩ := bind_eq_ok.mp h
  obtain ⟨-, -, h⟩ := bind_eq_ok.mp h
  split at h
  · simp at h
  · next head index hheads =>
    obtain ⟨visited, hf, h⟩ := bind_eq_ok.mp h
    have hhead : (head, index) ∈ nodes.zipIdx :=
      List.mem_of_mem_filter (hheads ▸ List.mem_cons_self)
    have hplaced : ∀ p ∈ visited, Placed nodes p :=
      follow_placed ⟨head, List.mk_mem_zipIdx_iff_getElem?.mp hhead, .inl rfl⟩ (by simp) hf
    dsimp only at h
    split at h
    · next hmissed =>
      cases h
      refine ⟨rfl, ?_, ?_⟩
      · intro stop hs
        obtain ⟨i, hmem, hn⟩ := mem_stops_iff.mp hs
        obtain ⟨node, hn', hnames⟩ := hplaced _ hmem
        rw [hn] at hn'
        cases hn'
        exact ⟨List.mem_of_getElem? hn, hnames⟩
      · refine iff_of_false (fun hnil => ?_) (by simpa using hne)
        -- No node is missed, so the first one has a place among those visited.
        have hvis : visited.any (·.2 = index) = true := by
          have := List.filter_eq_nil_iff.mp hmissed _ hhead
          simpa using this
        obtain ⟨⟨id, j⟩, hmem, hj⟩ := List.any_eq_true.mp hvis
        obtain ⟨node, hn, -⟩ := hplaced _ hmem
        have hstop : Stop.mk id node ∈ [] := hnil ▸ mem_stops_iff.mpr ⟨j, hmem, hn⟩
        cases hstop
    · simp at h
  · simp at h

theorem build_single {node : Node} (hid : node.id.IsKey)
    (hchain : node.chain = .null) (hnext : node.next = .null) (hlimit : 0 < limit) :
    build chain [node] limit = .ok ⟨chain, [⟨node.id, node⟩]⟩ := by
  have hnull : Value.null.isNull = true := rfl
  have hsteps : follow chain [node] limit 1 node.id 0 [] = .ok [(node.id, 0)] := by
    simp [follow, hid.isNull, hnext, indexOf?, hid.not_agrees_null, Int.not_le.mpr hlimit, pure,
      Except.pure]
  simp [build, checkNodes, checkIdentifier_of_isKey hid, indexOf?, hchain, hnext, hnull,
    checkLinks, isTarget, hsteps, bind, Except.bind, pure, Except.pure]

end EventChain.Route
