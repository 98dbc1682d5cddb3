import EventChain.Proofs.Route.Order

/-!
# Building a route

`Built` has one constructor for each way in which building a route can end, with what it says
about the links of the nodes; `build_built` states that building ends in one of them. The
identifiers that are reported for a loop lie on cycles: with a single head, a node that the walk
along the links never reaches is linked from another such node.
-/

namespace EventChain

/-- A node reached under its own identifier. -/
def Stop.of (node : Node) : Stop := ⟨node.id, node⟩

namespace Route

variable {chain : Chain} {nodes : List Node} {limit : Int}

def ManyHeads (nodes : List Node) : Prop :=
  ∃ a ∈ nodes, ∃ b ∈ nodes, a.id ≠ b.id ∧ IsHead nodes a ∧ IsHead nodes b

/-- No fault is found before the links are followed. -/
structure Sound (chain : Chain) (nodes : List Node) : Prop where
  distinct : Distinct nodes
  oneChain : OneChain chain nodes
  closed : Closed nodes
  oneHead : ¬ ManyHeads nodes

inductive Built (chain : Chain) (nodes : List Node) (limit : Int) : Except Failure Route → Prop
  | badNode {failure : Failure} : NodesChecked chain [] nodes (.error failure) →
      Built chain nodes limit (.error failure)
  | badLink {failure : Failure} : LinksChecked nodes nodes (.error failure) →
      Built chain nodes limit (.error failure)
  | manyHeads {heads : List Value} {node : Node} : ManyHeads nodes →
      (∀ id ∈ heads, ∃ node ∈ nodes, node.id = id) → node ∈ nodes →
      Built chain nodes limit (refuseNode (.manyHeads chain.id heads) node.id none)
  | noHead : Sound chain nodes → Cyclic nodes →
      Built chain nodes limit (refuseCycle chain (.noHead chain.id) .null)
  | stuck {start : List (Value × Nat)} {failure : Failure} : Sound chain nodes →
      Followed chain nodes limit start (.error failure) → Built chain nodes limit (.error failure)
  | loopOutside {missed : List Value} {id : Value} : Sound chain nodes → OnCycle nodes id →
      (∀ id ∈ missed, ∃ node ∈ nodes, node.id = id) →
      Built chain nodes limit (refuseCycle chain (.loopOutside chain.id missed) id)
  | ordered {order : List Node} : Sound chain nodes → Enumerates nodes order →
      nodes.length ≤ limit → Built chain nodes limit (.ok ⟨chain, order.map Stop.of⟩)

/-! ## Heads -/

theorem mem_heads_iff (hk : Keyed nodes) {node : Node} {i : Nat} :
    (node, i) ∈ nodes.zipIdx.filter (fun (node, _) => !isTarget nodes node.id) ↔
      nodes[i]? = some node ∧ IsHead nodes node := by
  rw [List.mem_filter, List.mk_mem_zipIdx_iff_getElem?]
  refine and_congr_right fun hn => ?_
  rw [← not_isTarget_iff hk (List.mem_of_getElem? hn), Bool.not_eq_true']

theorem exists_mem_heads (hk : Keyed nodes) {node : Node} (hn : node ∈ nodes)
    (hh : IsHead nodes node) :
    ∃ i, (node, i) ∈ nodes.zipIdx.filter (fun (node, _) => !isTarget nodes node.id) := by
  obtain ⟨i, hi, rfl⟩ := List.mem_iff_getElem.mp hn
  exact ⟨i, (mem_heads_iff hk).mpr ⟨List.getElem?_eq_getElem hi, hh⟩⟩

theorem manyHeads_of_heads (hk : Keyed nodes) (hd : Distinct nodes) {a b : Node} {i j : Nat}
    {rest : List (Node × Nat)}
    (h : nodes.zipIdx.filter (fun (node, _) => !isTarget nodes node.id) =
      (a, i) :: (b, j) :: rest) :
    ManyHeads nodes := by
  have ha := (mem_heads_iff hk).mp (h ▸ List.mem_cons_self)
  have hb := (mem_heads_iff hk).mp (h ▸ List.mem_cons_of_mem _ List.mem_cons_self)
  have hids : (nodes.zipIdx.map fun p => p.1.id) = nodes.map (·.id) := by
    conv_rhs => rw [← List.zipIdx_map_fst 0 nodes, List.map_map]
    rfl
  have hsub : List.Sublist (((a, i) :: (b, j) :: rest).map fun p => p.1.id)
      (nodes.map (·.id)) := by
    rw [← hids, ← h]
    exact List.filter_sublist.map _
  have hnd := hd.sublist hsub
  simp only [List.map_cons, List.nodup_cons, List.mem_cons, not_or] at hnd
  exact ⟨a, List.mem_of_getElem? ha.1, b, List.mem_of_getElem? hb.1, hnd.1.1, ha.2, hb.2⟩

inductive HeadsFound (nodes : List Node) : List (Node × Nat) → Prop
  | none : (∀ node ∈ nodes, ¬ IsHead nodes node) → HeadsFound nodes []
  | one {head : Node} {i : Nat} : nodes[i]? = some head →
      (∀ node ∈ nodes, IsHead nodes node → node = head) → HeadsFound nodes [(head, i)]
  | many {p q : Node × Nat} {rest : List (Node × Nat)} : ManyHeads nodes →
      (∀ r ∈ p :: q :: rest, r.1 ∈ nodes) → HeadsFound nodes (p :: q :: rest)

theorem headsFound (hk : Keyed nodes) (hd : Distinct nodes) :
    HeadsFound nodes (nodes.zipIdx.filter fun (node, _) => !isTarget nodes node.id) := by
  cases hheads : nodes.zipIdx.filter fun (node, _) => !isTarget nodes node.id with
  | nil =>
    refine .none fun node hn hh => ?_
    obtain ⟨i, hmem⟩ := exists_mem_heads hk hn hh
    rw [hheads] at hmem
    cases hmem
  | cons p rest =>
    cases rest with
    | nil =>
      refine .one ((mem_heads_iff hk).mp (hheads ▸ List.mem_cons_self)).1 fun node hn hh => ?_
      obtain ⟨i, hmem⟩ := exists_mem_heads hk hn hh
      rw [hheads, List.mem_singleton] at hmem
      exact congrArg Prod.fst hmem
    | cons q rest =>
      refine .many (manyHeads_of_heads hk hd hheads) fun r hr => ?_
      rw [← hheads] at hr
      exact List.mem_of_getElem? ((mem_heads_iff hk).mp hr).1

/-- Where every node is linked from one, every identifier lies on a cycle. -/
theorem onCycle_of_no_head (hd : Distinct nodes) (h : ∀ node ∈ nodes, ¬ IsHead nodes node)
    {node : Node} (hn : node ∈ nodes) : OnCycle nodes node.id := by
  refine onCycle_of_linked hd {id | id ∈ nodes.map (·.id)}
    (List.finite_toSet _) ?_ (List.mem_map_of_mem hn)
  intro id hid
  obtain ⟨m, hm, rfl⟩ := List.mem_map.mp hid
  simp only [IsHead, not_forall, not_not] at h
  obtain ⟨other, ho, hnext⟩ := h m hm
  exact ⟨other.id, List.mem_map_of_mem ho, other, ho, rfl, hnext⟩

/-! ## The nodes of a trail -/

theorem Distinct.place_eq (hd : Distinct nodes) {a b : Node} {i j : Nat} (ha : nodes[i]? = some a)
    (hb : nodes[j]? = some b) (h : a.id = b.id) : i = j := by
  have hi : (nodes.map (·.id))[i]? = some a.id := by simp [ha]
  have hj : (nodes.map (·.id))[j]? = some a.id := by simp [hb, h]
  have hlt : i < (nodes.map (·.id)).length := (List.getElem?_eq_some_iff.mp hi).1
  exact (List.getElem?_inj hlt hd).mp (hi.trans hj.symm)

theorem Trail.exists_nodes {visited : List (Value × Nat)} (h : Trail nodes visited) :
    ∃ order : List Node,
      List.Forall₂ (fun p node => nodes[p.2]? = some node ∧ node.id = p.1) visited order := by
  induction visited with
  | nil => exact ⟨[], .nil⟩
  | cons p rest ih =>
    obtain ⟨node, hn⟩ := h.named p List.mem_cons_self
    obtain ⟨order, ho⟩ := ih h.tail
    exact ⟨node :: order, .cons hn ho⟩

theorem Trail.linked_nodes (hd : Distinct nodes) {visited : List (Value × Nat)} {order : List Node}
    (h : Trail nodes visited)
    (ho : List.Forall₂ (fun p node => nodes[p.2]? = some node ∧ node.id = p.1) visited order) :
    order.IsChain fun n m => m.next = n.id := by
  induction ho with
  | nil => exact .nil
  | @cons p node rest order hn ho ih =>
    cases ho with
    | nil => exact .singleton _
    | @cons q other rest order hm ho =>
      obtain ⟨m, hmem, hid, hnext⟩ := (List.isChain_cons_cons.mp h.linked).1
      have hsame : m = other := hd.eq_of_id hmem (List.mem_of_getElem? hm.1) (hid.trans hm.2.symm)
      exact (ih h.tail).cons_cons (by rw [← hsame, hnext, hn.2])

theorem stops_eq {visited : List (Value × Nat)} {order : List Node}
    (ho : List.Forall₂ (fun p node => nodes[p.2]? = some node ∧ node.id = p.1) visited order) :
    (visited.filterMap fun (id, i) => nodes[i]?.map (⟨id, ·⟩)) = order.map Stop.of := by
  induction ho with
  | nil => rfl
  | cons hn ho ih => simp [hn.1, ih, Stop.of, hn.2]

/-- A trail over all places that ends at a node without a link, read from its start, is an order
of the nodes. -/
theorem Trail.enumerates (hd : Distinct nodes) {visited : List (Value × Nat)} {order : List Node}
    (h : Trail nodes visited) (hnd : (visited.map (·.2)).Nodup)
    (hend : ∀ p ∈ visited.head?, ∃ node, nodes[p.2]? = some node ∧ node.next = .null)
    (hall : ∀ i < nodes.length, i ∈ visited.map (·.2))
    (ho : List.Forall₂ (fun p node => nodes[p.2]? = some node ∧ node.id = p.1) visited order) :
    Enumerates nodes order.reverse where
  perm := by
    have hsub : nodes ⊆ order := by
      intro node hn
      obtain ⟨i, hi, rfl⟩ := List.mem_iff_getElem.mp hn
      obtain ⟨p, hp, rfl⟩ := List.mem_map.mp (hall i hi)
      obtain ⟨k, hk, rfl⟩ := List.mem_iff_getElem.mp hp
      have hk' : k < order.length := ho.length_eq ▸ hk
      have hget : nodes[visited[k].2]? = some order[k] := (ho.get hk hk').1
      rw [List.getElem?_eq_getElem hi] at hget
      exact Option.some.inj hget ▸ List.getElem_mem _
    have hle : order.length ≤ nodes.length := ho.length_eq ▸ h.length_le hnd
    have hnodup : nodes.Nodup := List.Nodup.of_map _ hd
    exact (List.reverse_perm order).trans ((hnodup.subperm hsub).perm_of_length_le hle).symm
  linked := List.isChain_reverse.mpr (h.linked_nodes hd ho)
  ends := by
    rw [List.getLast?_reverse]
    cases ho with
    | nil => simp
    | cons hn ho =>
      obtain ⟨node, hnode, hnull⟩ := hend _ rfl
      rw [hn.1] at hnode
      cases hnode
      simpa using hnull

/-! ## Nodes that no trail from the head reaches -/

theorem Trail.place_mem_iff (hd : Distinct nodes) {visited : List (Value × Nat)}
    (h : Trail nodes visited) {node : Node} {i : Nat} (hn : nodes[i]? = some node) :
    i ∈ visited.map (·.2) ↔ node.id ∈ visited.map (·.1) := by
  constructor
  · intro hi
    obtain ⟨p, hp, rfl⟩ := List.mem_map.mp hi
    obtain ⟨other, ho, hid⟩ := h.named p hp
    rw [hn] at ho
    cases ho
    exact List.mem_map.mpr ⟨p, hp, hid.symm⟩
  · intro hid
    obtain ⟨p, hp, hpid⟩ := List.mem_map.mp hid
    obtain ⟨other, ho, hoid⟩ := h.named p hp
    have hplace : p.2 = i := hd.place_eq ho hn (hoid.trans hpid)
    exact hplace ▸ List.mem_map_of_mem hp

theorem Trail.links_back {p : Value × Nat} {visited : List (Value × Nat)}
    (h : Trail nodes (p :: visited)) : ∀ q ∈ visited, ∃ r ∈ p :: visited, Link nodes q.1 r.1 := by
  induction visited generalizing p with
  | nil => simp
  | cons next rest ih =>
    intro q hq
    rcases List.mem_cons.mp hq with rfl | hq
    · exact ⟨p, List.mem_cons_self, (List.isChain_cons_cons.mp h.linked).1⟩
    · obtain ⟨r, hr, hlink⟩ := ih h.tail q hq
      exact ⟨r, List.mem_cons_of_mem _ hr, hlink⟩

/-- The nodes that a trail from the only head to an end does not hold are linked from each
other. -/
theorem Trail.onCycle_of_missed (hk : Keyed nodes) (hd : Distinct nodes)
    {visited : List (Value × Nat)} (h : Trail nodes visited)
    (hhead : ∀ node ∈ nodes, IsHead nodes node → node.id ∈ visited.map (·.1))
    (hend : ∀ p ∈ visited.head?, ∃ node, nodes[p.2]? = some node ∧ node.next = .null)
    {node : Node} (hn : node ∈ nodes) (hmiss : node.id ∉ visited.map (·.1)) :
    OnCycle nodes node.id := by
  refine onCycle_of_linked hd {id | id ∈ nodes.map (·.id) ∧ id ∉ visited.map (·.1)}
    ((List.finite_toSet (nodes.map (·.id))).subset fun _ => And.left) ?_
    ⟨List.mem_map_of_mem hn, hmiss⟩
  rintro _ ⟨hid, hmiss⟩
  obtain ⟨m, hm, rfl⟩ := List.mem_map.mp hid
  have hnot : ¬ IsHead nodes m := fun hh => hmiss (hhead m hm hh)
  simp only [IsHead, not_forall, not_not] at hnot
  obtain ⟨other, ho, hnext⟩ := hnot
  have hlink : Link nodes other.id m.id := ⟨other, ho, rfl, hnext⟩
  refine ⟨other.id, ⟨List.mem_map_of_mem ho, fun hvis => ?_⟩, hlink⟩
  cases visited with
  | nil => simp at hvis
  | cons p rest =>
    rcases List.mem_cons.mp hvis with heq | hrest
    · obtain ⟨last, hlast, hnull⟩ := hend p rfl
      obtain ⟨_, hlast', hlid⟩ := h.named p List.mem_cons_self
      rw [hlast] at hlast'
      cases hlast'
      have hsame := hd.eq_of_id ho (List.mem_of_getElem? hlast) (heq.trans hlid.symm)
      exact (hk m hm).1.ne_null (hnext.symm.trans (hsame ▸ hnull))
    · obtain ⟨q, hq, hqid⟩ := List.mem_map.mp hrest
      obtain ⟨r, hr, hrlink⟩ := h.links_back q hq
      rw [hqid] at hrlink
      exact hmiss (hrlink.unique hd hlink ▸ List.mem_map_of_mem hr)

theorem Trail.mem_missed_iff (hd : Distinct nodes) {visited : List (Value × Nat)}
    (h : Trail nodes visited) {node : Node} {i : Nat} :
    (node, i) ∈ nodes.zipIdx.filter (fun (_, i) => !visited.reverse.any (·.2 = i)) ↔
      nodes[i]? = some node ∧ node.id ∉ visited.map (·.1) := by
  rw [List.mem_filter, List.mk_mem_zipIdx_iff_getElem?]
  refine and_congr_right fun hn => ?_
  rw [← h.place_mem_iff hd hn, ← any_place_eq, Bool.not_eq_true', List.any_reverse,
    Bool.not_eq_true]

/-! ## Building -/

/-- Following the links from the only head either fails or gives the order of all nodes, unless
some are missed. -/
theorem built_of_followed (hk : Keyed nodes) (hs : Sound chain nodes) {head : Node} {index : Nat}
    (honly : ∀ node ∈ nodes, IsHead nodes node → node = head)
    {result : Except Failure (List (Value × Nat))}
    (h : Followed chain nodes limit [(head.id, index)] result) :
    Built chain nodes limit (do
      let visited ← result
      let missed := nodes.zipIdx.filter fun (_, i) => !visited.any (·.2 = i)
      match missed with
      | [] => pure ⟨chain, visited.filterMap fun (id, i) => nodes[i]?.map (⟨id, ·⟩)⟩
      | (first, _) :: _ =>
        refuseCycle chain (.loopOutside chain.id (missed.map (·.1.id))) first.id) := by
  cases hr : result with
  | error failure => exact .stuck hs (hr ▸ h)
  | ok reached =>
    obtain ⟨visited, rfl, ht, hnd, hstart, hle, hend⟩ := h.of_ok hr
    have hhead : ∀ node ∈ nodes, IsHead nodes node → node.id ∈ visited.map (·.1) := by
      intro node hn hh
      rw [honly node hn hh]
      exact List.mem_map_of_mem (hstart.mem List.mem_cons_self)
    simp only [bind, Except.bind]
    generalize hmissed :
      (nodes.zipIdx.filter fun (_, i) => !visited.reverse.any (·.2 = i)) = missed
    cases missed with
    | cons p rest =>
      have hmem : ∀ q ∈ p :: rest, q.1 ∈ nodes ∧ q.1.id ∉ visited.map (·.1) := by
        intro q hq
        rw [← hmissed] at hq
        obtain ⟨hplace, hmiss⟩ := (ht.mem_missed_iff hs.distinct).mp hq
        exact ⟨List.mem_of_getElem? hplace, hmiss⟩
      obtain ⟨hfirst, hmiss⟩ := hmem p List.mem_cons_self
      refine .loopOutside hs (ht.onCycle_of_missed hk hs.distinct hhead hend hfirst hmiss) ?_
      intro id hid
      obtain ⟨q, hq, rfl⟩ := List.mem_map.mp hid
      exact ⟨q.1, (hmem q hq).1, rfl⟩
    | nil =>
      have hall : ∀ i < nodes.length, i ∈ visited.map (·.2) := by
        intro i hi
        have hplace := List.getElem?_eq_getElem hi
        by_contra hmiss
        rw [ht.place_mem_iff hs.distinct hplace] at hmiss
        have hmem := (ht.mem_missed_iff hs.distinct).mpr ⟨hplace, hmiss⟩
        rw [hmissed] at hmem
        cases hmem
      obtain ⟨order, ho⟩ := ht.exists_nodes
      have henum := ht.enumerates hs.distinct hnd hend hall ho
      have hlen : nodes.length ≤ limit := by
        rw [← henum.perm.length_eq, List.length_reverse, ← ho.length_eq]
        exact hle
      simp only [List.filterMap_reverse, stops_eq ho, ← List.map_reverse]
      exact .ordered hs henum hlen

theorem build_built (hk : Keyed nodes) (hne : nodes ≠ []) :
    Built chain nodes limit (build chain nodes limit) := by
  have hnodes : NodesChecked chain [] nodes (checkNodes chain [] nodes) :=
    checkNodes_checked (by simpa using hk) (by simp [Distinct])
  have hlinks : LinksChecked nodes nodes (checkLinks nodes nodes) :=
    checkLinks_checked hk fun _ => id
  unfold build
  rw [if_neg (by simpa using hne)]
  cases hcn : checkNodes chain [] nodes with
  | error failure => exact .badNode (hcn ▸ hnodes)
  | ok _ =>
  obtain ⟨hd, hone⟩ := hnodes.of_ok hcn
  rw [List.nil_append] at hd
  cases hcl : checkLinks nodes nodes with
  | error failure => exact .badLink (hcl ▸ hlinks)
  | ok _ =>
  have hclosed : Closed nodes := hlinks.of_ok hcl
  have hheads := headsFound hk hd
  simp only [bind, Except.bind]
  generalize (nodes.zipIdx.filter fun (node, _) => !isTarget nodes node.id) = heads at hheads ⊢
  cases hheads with
  | none hnone =>
    obtain ⟨node, hn⟩ := List.exists_mem_of_ne_nil nodes hne
    refine .noHead ⟨hd, hone, hclosed, ?_⟩ ⟨node.id, onCycle_of_no_head hd hnone hn⟩
    rintro ⟨a, ha, -, -, -, hhead, -⟩
    exact hnone a ha hhead
  | many hmany hmem =>
    refine .manyHeads hmany ?_ (hmem _ (List.mem_cons_of_mem _ List.mem_cons_self))
    intro id hid
    obtain ⟨p, hp, rfl⟩ := List.mem_map.mp hid
    exact ⟨p.1, hmem p hp, rfl⟩
  | @one head i hplace honly =>
    have hs : Sound chain nodes := by
      refine ⟨hd, hone, hclosed, ?_⟩
      rintro ⟨a, ha, b, hb, hne, hha, hhb⟩
      exact hne (by rw [honly a ha hha, honly b hb hhb])
    have hstart : Trail nodes [(head.id, i)] :=
      ⟨by simpa using ⟨head, hplace, rfl⟩, .singleton _⟩
    have hfollowed : Followed chain nodes limit [(head.id, i)]
        (follow chain nodes limit nodes.length head.id i []) :=
      follow_followed hk hclosed hstart (by simp) (Nat.le_add_right nodes.length 0)
    exact built_of_followed hk hs honly hfollowed

/-! ## Routes that are built -/

theorem NodesChecked.not_sound {failure : Failure}
    (h : NodesChecked chain [] nodes (.error failure)) : ¬ Sound chain nodes := by
  intro hs
  cases h with
  | duplicate _ hd => exact hd hs.distinct
  | foreign hn hc => exact hc (hs.oneChain _ hn)
  | noText hn hc => exact hc (hs.oneChain _ hn)

theorem LinksChecked.not_sound {failure : Failure}
    (h : LinksChecked nodes nodes (.error failure)) : ¬ Sound chain nodes := by
  intro hs
  cases h with
  | unknown hn hnull hmiss =>
    obtain ⟨other, ho, heq⟩ := (hs.closed _ hn).resolve_left hnull
    exact hmiss other ho heq

theorem Built.of_ok {result : Except Failure Route} {route : Route}
    (h : Built chain nodes limit result) (hr : result = .ok route) :
    Sound chain nodes ∧ nodes.length ≤ limit ∧
      ∃ order, Enumerates nodes order ∧ route = ⟨chain, order.map Stop.of⟩ := by
  cases h with
  | ordered hs he hl => exact ⟨hs, hl, _, he, (Except.ok.inj hr).symm⟩
  | badNode | badLink | stuck => cases hr
  | manyHeads | noHead | loopOutside => simp at hr

theorem Built.exists_route {result : Except Failure Route} (h : Built chain nodes limit result)
    (hs : Sound chain nodes) (hcyc : ¬ Cyclic nodes) (hlim : nodes.length ≤ limit) :
    ∃ route, result = .ok route := by
  cases h with
  | ordered => exact ⟨_, rfl⟩
  | badNode h => exact absurd hs h.not_sound
  | badLink h => exact absurd hs h.not_sound
  | manyHeads h => exact absurd h hs.oneHead
  | noHead _ h => exact absurd h hcyc
  | loopOutside _ h => exact absurd ⟨_, h⟩ hcyc
  | stuck _ h =>
    cases h with
    | loop h => exact absurd ⟨_, h⟩ hcyc
    | tooMany _ h => omega

theorem Enumerates.not_manyHeads (hk : Keyed nodes) (hd : Distinct nodes) {order : List Node}
    (h : Enumerates nodes order) : ¬ ManyHeads nodes := by
  rintro ⟨a, ha, b, hb, hne, hha, hhb⟩
  cases order with
  | nil => exact List.not_mem_nil (h.perm.mem_iff.mpr ha)
  | cons first rest =>
    rw [(h.isHead_iff hk hd ha).mp hha, (h.isHead_iff hk hd hb).mp hhb] at hne
    exact hne rfl

end Route

end EventChain
