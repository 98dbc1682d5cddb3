import EventChain.Proofs.Route.Threads

/-!
# Chains without a node

Taking a node out of a chain and linking the one before it to the one behind it takes its stop out
of the route and nothing else: `Node.bypass` redirects the links to the node, and `build_bypassed`
says which route the remaining nodes make. The first of its stops is at a node under the node's own
identifier, also where a link named it by another one before.
-/

namespace EventChain

/-- An identifier, or the link of a node in place of the node's own. -/
def Value.past (id : Value) (u : Node) : Value := if id.agrees u.id then u.next else id

/-- The node without a link to `u`, in place of which it links to what `u` links to. -/
def Node.bypass (node u : Node) : Node := { node with next := node.next.past u }

def Stop.bypass (stop : Stop) (u : Node) : Stop := ⟨stop.id, stop.node.bypass u⟩

@[simp] theorem Node.bypass_id (node u : Node) : (node.bypass u).id = node.id := rfl
@[simp] theorem Node.bypass_next (node u : Node) : (node.bypass u).next = node.next.past u := rfl
@[simp] theorem Stop.bypass_node (stop : Stop) (u : Node) :
    (stop.bypass u).node = stop.node.bypass u := rfl

namespace Route

variable {chain : Chain} {nodes before after : List Node} {limit : Int} {u : Node} {id : Value}
  {stops passed rest : List Stop}

/-- Stops of which the first is at its node under the node's own identifier. -/
def restart : List Stop → List Stop
  | [] => []
  | stop :: rest => Stop.of stop.node :: rest

theorem map_node_restart : (restart stops).map Stop.node = stops.map Stop.node := by
  cases stops <;> rfl

/-! ## Links past a node -/

theorem past_of_sameMark (h : id.SameMark u.id) : id.past u = u.next :=
  if_pos ((Value.agrees_iff_sameMark h.checkIdentifier).mpr h)

theorem past_of_not_sameMark (hid : id.checkIdentifier = .ok ()) (h : ¬ id.SameMark u.id) :
    id.past u = id :=
  if_neg (by rwa [Value.agrees_iff_sameMark hid])

theorem past_null (hu : u.id ≠ .null) : Value.past .null u = .null :=
  past_of_not_sameMark rfl fun h => hu h.symm.eq_null

/-- Where no stop is at the node, nothing links to it. -/
theorem Strand.bypass (h : Strand id stops) (hu : u.id ≠ .null)
    (hapart : ∀ stop ∈ stops, ¬ SameMark stop.node u) :
    id.past u = id ∧ Strand id (stops.map (·.bypass u)) := by
  induction h with
  | nil => exact ⟨past_null hu, .nil⟩
  | @cons id node rest hne hsame _ ih =>
    obtain ⟨hnode, hrest⟩ := List.forall_mem_cons.mp hapart
    obtain ⟨hnext, hstrand⟩ := ih hrest
    refine ⟨past_of_not_sameMark hsame.symm.checkIdentifier fun h => hnode (hsame.trans h), ?_⟩
    rw [List.map_cons, strand_cons_iff, Stop.bypass_node, Node.bypass_next, hnext]
    exact ⟨hne, rfl, hsame, hstrand⟩

/-- The stop at the node drops out of a strand: induction on the stops before it. -/
theorem Strand.bypassed {stop : Stop} (h : Strand id (passed ++ stop :: rest))
    (hstop : stop.node = u) (hpassed : ∀ other ∈ passed, ¬ SameMark other.node u)
    (hrest : ∀ other ∈ rest, ¬ SameMark other.node u) (hu : u.id ≠ .null) :
    Strand (id.past u) ((passed ++ rest).map (·.bypass u)) := by
  induction passed generalizing id with
  | nil =>
    obtain ⟨-, -, hsame, hstrand⟩ := strand_cons_iff.mp h
    subst hstop
    rw [past_of_sameMark hsame.symm]
    exact (hstrand.bypass hu hrest).2
  | cons first passed ih =>
    obtain ⟨hne, rfl, hsame, hstrand⟩ := strand_cons_iff.mp h
    obtain ⟨hfirst, hpassed⟩ := List.forall_mem_cons.mp hpassed
    rw [past_of_not_sameMark hsame.symm.checkIdentifier fun h => hfirst (hsame.trans h)]
    exact .cons hne hsame (ih hstrand hpassed)

/-! ## Routes -/

theorem Apart.bypass (h : Apart nodes) (u : Node) : Apart (nodes.map (·.bypass u)) where
  identifiers := by simpa using h.identifiers
  pairwise := List.pairwise_map.mpr h.pairwise

theorem Threads.bypassed {stop : Stop} (h : Threads (before ++ u :: after) (passed ++ stop :: rest))
    (hapart : Apart (before ++ u :: after)) (hstop : stop.node = u) (hne : before ++ after ≠ []) :
    Threads ((before ++ after).map (·.bypass u))
      (restart ((passed ++ rest).map (·.bypass u))) := by
  have hpair := h.pairwise hapart
  rw [List.map_append, List.map_cons, List.pairwise_append, List.pairwise_cons, hstop] at hpair
  obtain ⟨-, ⟨hbehind, -⟩, hbefore⟩ := hpair
  have hrest : ∀ other ∈ rest, ¬ SameMark other.node u :=
    fun other ho hsame => hbehind other.node (List.mem_map_of_mem ho) hsame.symm
  have hpassed : ∀ other ∈ passed, ¬ SameMark other.node u :=
    fun other ho => hbefore other.node (List.mem_map_of_mem ho) u List.mem_cons_self
  have hu : u.id ≠ .null := hstop ▸ h.id_ne_null stop (by simp)
  -- Both lists hold the node once, and the same nodes besides it.
  have hperm : ((passed ++ rest).map Stop.node).Perm (before ++ after) := by
    have hall := h.perm
    rw [List.map_append, List.map_cons, hstop] at hall
    rw [List.map_append]
    exact ((List.perm_middle.symm.trans hall).trans List.perm_middle).cons_inv
  constructor
  · have hnodes : (restart ((passed ++ rest).map (·.bypass u))).map Stop.node =
        ((passed ++ rest).map Stop.node).map (·.bypass u) := by
      rw [map_node_restart]
      simp [Function.comp_def]
    rw [hnodes]
    exact hperm.map _
  · obtain ⟨first, others, hstops, hfirst, hstrand⟩ := h.strand
    cases passed with
    | nil =>
      obtain ⟨rfl, rfl⟩ := List.cons.inj hstops
      obtain ⟨hnext, hstrand⟩ := hstrand.bypass hu hrest
      cases rest with
      | nil => exact absurd hperm.symm.eq_nil hne
      | cons second others =>
        obtain ⟨hgo, hid, hsame, hstrand⟩ := strand_cons_iff.mp hstrand
        exact ⟨second.node.bypass u, others.map (Stop.bypass · u), rfl, hsame.ne_null hgo, hstrand⟩
    | cons head passed =>
      obtain ⟨rfl, rfl⟩ := List.cons.inj hstops
      refine ⟨first.bypass u, (passed ++ rest).map (·.bypass u), rfl, hfirst, ?_⟩
      exact hstrand.bypassed hstop
        (fun other ho => hpassed other (List.mem_cons_of_mem _ ho)) hrest hu

/-- Without one of its nodes a chain has the route without the stop at that node. -/
theorem build_bypassed {route : Route} (h : build chain (before ++ u :: after) limit = .ok route)
    (hne : before ++ after ≠ []) :
    ∃ passed stop rest, route.stops = passed ++ stop :: rest ∧ stop.node = u ∧
      build chain ((before ++ after).map (·.bypass u)) limit =
        .ok ⟨chain, restart ((passed ++ rest).map (·.bypass u))⟩ := by
  obtain ⟨whole, stops⟩ := route
  obtain rfl : whole = chain := (build_stops h).1
  obtain ⟨hapart, hone, hthreads, hlim⟩ := (build_threads (by simp)).mp h
  have hu : u ∈ stops.map Stop.node := hthreads.perm.mem_iff.mpr (by simp)
  obtain ⟨stop, hmem, hstop⟩ := List.mem_map.mp hu
  obtain ⟨passed, rest, rfl⟩ := List.append_of_mem hmem
  have hsub : List.Sublist (before ++ after) (before ++ u :: after) :=
    (List.sublist_cons_self _ _).append_left before
  refine ⟨passed, stop, rest, rfl, hstop, (build_threads (by simpa using hne)).mpr
    ⟨(hapart.sublist hsub).bypass u, ?_, hthreads.bypassed hapart hstop hne, ?_⟩⟩
  · exact List.forall_mem_map.mpr fun node hn => hone node (hsub.subset hn)
  · have := hsub.length_le
    rw [List.length_map]
    omega

end Route

end EventChain
