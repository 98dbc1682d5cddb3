import EventChain.Proofs.Route.Build
import EventChain.Proofs.Route.Marks
import EventChain.Proofs.Route.Skeleton

/-!
# Stops along the links

`Threads nodes stops` says that the stops are at all nodes, each once, and follow the links from the
first to the last. It asks nothing of the identifiers: a link may name a node by another identifier
that agrees with the node's own, which is then the identifier of the stop. Nodes make a route of
some stops exactly when their identifiers are told apart, none belongs to another chain, the stops
thread them, and they are no more than the limit (`build_threads`).
-/

namespace EventChain.Route

variable {chain : Chain} {nodes : List Node} {limit : Int}

/-- Stops along the links from an identifier to a node without a link. -/
inductive Strand : Value → List Stop → Prop
  | nil : Strand .null []
  | cons {id : Value} {node : Node} {rest : List Stop} : id ≠ .null → node.id.SameMark id →
      Strand node.next rest → Strand id (⟨id, node⟩ :: rest)

/-- Stops at all nodes, each once, along the links from the first one. -/
structure Threads (nodes : List Node) (stops : List Stop) : Prop where
  perm : (stops.map Stop.node).Perm nodes
  strand : ∃ first rest, stops = Stop.of first :: rest ∧ first.id ≠ .null ∧ Strand first.next rest

/-! ## Checks -/

def Leads (nodes : List Node) (node : Node) : Prop :=
  node.next = .null ∨ ∃ other ∈ nodes, other.id.SameMark node.next

theorem Leads.checkIdentifier {node : Node} (h : Leads nodes node) :
    node.next.checkIdentifier = .ok () := by
  rcases h with h | ⟨other, -, h⟩
  · rw [h]
    rfl
  · exact h.symm.checkIdentifier

theorem checkLinks_iff {some : List Node}
    (hids : ∀ node ∈ nodes, node.id.checkIdentifier = .ok ()) :
    checkLinks nodes some = .ok () ↔ ∀ node ∈ some, Leads nodes node := by
  induction some with
  | nil => simp [checkLinks]
  | cons node rest ih =>
    rw [checkLinks, List.forall_mem_cons, ← ih]
    by_cases hnull : node.next = .null
    · simp [Leads, hnull, Value.isNull]
    simp only [Value.isNull_eq_false hnull, Bool.not_false, ↓reduceIte, bind_eq_ok,
      Unique.exists_iff]
    constructor
    · rintro ⟨-, h⟩
      cases hidx : indexOf? nodes node.next with
      | none => simp [hidx, bind_eq_ok] at h
      | some i =>
        refine ⟨.inr ?_, by simpa [hidx] using h⟩
        by_contra hnone
        rw [(indexOf?_eq_none_iff hids).mpr fun other ho hsame => hnone ⟨other, ho, hsame⟩] at hidx
        cases hidx
    · rintro ⟨hleads, h⟩
      refine ⟨hleads.checkIdentifier, ?_⟩
      cases hidx : indexOf? nodes node.next with
      | none =>
        obtain ⟨other, ho, hsame⟩ := hleads.resolve_left hnull
        exact absurd hsame ((indexOf?_eq_none_iff hids).mp hidx other ho)
      | some i => simpa using h

theorem isTarget_iff_sameMark (hleads : ∀ node ∈ nodes, Leads nodes node) {id : Value} :
    isTarget nodes id = true ↔ ∃ other ∈ nodes, other.next ≠ .null ∧ other.next.SameMark id := by
  unfold isTarget
  rw [List.any_eq_true]
  refine exists_congr fun other => and_congr_right fun ho => ?_
  rw [Bool.and_eq_true, Bool.not_eq_true', ← Bool.not_eq_true, Value.isNull_iff,
    Value.agrees_iff_sameMark (hleads other ho).checkIdentifier]

theorem places_eq_ok_iff (hne : nodes ≠ []) {visited : List (Value × Nat)} :
    places chain nodes limit = .ok visited ↔
      checkNodes chain [] nodes = .ok () ∧ checkLinks nodes nodes = .ok () ∧
        ∃ head i, headsOf nodes = [(head, i)] ∧
          follow chain nodes limit nodes.length head.id i [] = .ok visited ∧
          missedBy nodes visited = [] := by
  unfold places
  rw [if_neg (by simpa using hne)]
  simp only [bind_eq_ok, Unique.exists_iff]
  refine and_congr_right fun _ => and_congr_right fun _ => ?_
  rcases headsOf nodes with _ | ⟨⟨head, i⟩, _ | ⟨⟨second, j⟩, rest⟩⟩
  · simp
  · simp only [bind_eq_ok]
    constructor
    · rintro ⟨reached, hf, h⟩
      cases hm : missedBy nodes reached with
      | nil =>
        rw [hm] at h
        cases h
        exact ⟨head, i, rfl, hf, hm⟩
      | cons missed others => simp [hm] at h
    · rintro ⟨_, _, ⟨⟩, hf, hm⟩
      exact ⟨visited, hf, by simp [hm]⟩
  · simp

theorem build_eq_ok_iff {route : Route} :
    build chain nodes limit = .ok route ↔
      ∃ visited, places chain nodes limit = .ok visited ∧
        route = ⟨chain, stopsAt nodes visited⟩ := by
  simp only [build_eq_places, bind_eq_ok, pure_eq_ok, @eq_comm _ route]

/-! ## Places -/

structure Once (nodes : List Node) (visited : List (Value × Nat)) : Prop where
  lt : ∀ i ∈ visited.map (·.2), i < nodes.length
  nodup : (visited.map (·.2)).Nodup

variable {visited : List (Value × Nat)} {id : Value} {i : Nat}

theorem Once.nil : Once nodes [] := ⟨by simp, by simp⟩

theorem Once.cons (h : Once nodes visited) (hi : i < nodes.length) (hnew : i ∉ visited.map (·.2)) :
    Once nodes ((id, i) :: visited) :=
  ⟨List.forall_mem_cons.mpr ⟨hi, h.lt⟩, List.nodup_cons.mpr ⟨hnew, h.nodup⟩⟩

theorem Once.reverse (h : Once nodes visited) : Once nodes visited.reverse := by
  obtain ⟨hlt, hnd⟩ := h
  exact ⟨by simpa using hlt, by simpa [List.nodup_reverse] using hnd⟩

theorem Once.length_le (h : Once nodes visited) : visited.length ≤ nodes.length := by
  simpa using length_le_of_nodup h.lt h.nodup

theorem Once.perm_range (h : Once nodes visited) (hle : nodes.length ≤ visited.length) :
    (visited.map (·.2)).Perm (List.range nodes.length) := by
  have hsub : visited.map (·.2) ⊆ List.range nodes.length :=
    fun i hi => List.mem_range.mpr (h.lt i hi)
  exact (h.nodup.subperm hsub).perm_of_length_le (by simpa using hle)

theorem missedBy_eq_nil_iff :
    missedBy nodes visited = [] ↔ ∀ i < nodes.length, i ∈ visited.map (·.2) := by
  unfold missedBy
  rw [List.filter_eq_nil_iff]
  constructor
  · intro h i hi
    have := h (nodes[i], i) (List.mk_mem_zipIdx_iff_getElem?.mpr (List.getElem?_eq_getElem hi))
    rw [← any_place_eq]
    simpa using this
  · rintro h ⟨node, i⟩ hmem
    have hi := (List.getElem?_eq_some_iff.mp (List.mk_mem_zipIdx_iff_getElem?.mp hmem)).1
    have := any_place_eq.mpr (h i hi)
    simpa using this

theorem stopsAt_cons {node : Node} (hn : nodes[i]? = some node) :
    stopsAt nodes ((id, i) :: visited) = ⟨id, node⟩ :: stopsAt nodes visited := by
  simp [stopsAt, hn]

theorem perm_stopsAt (h : (visited.map (·.2)).Perm (List.range nodes.length)) :
    ((stopsAt nodes visited).map Stop.node).Perm nodes := by
  have hnodes : (stopsAt nodes visited).map Stop.node =
      (visited.map (·.2)).filterMap (nodes[·]?) := by
    rw [stopsAt, List.map_filterMap, List.filterMap_map]
    refine List.filterMap_congr fun p _ => ?_
    simp [Function.comp_def]
  have hall : (List.range nodes.length).filterMap (nodes[·]?) = nodes := by
    have hsome : (List.range nodes.length).map (nodes[·]?) = nodes.map some :=
      List.ext_getElem (by simp) (by simp)
    simpa [List.filterMap_map] using congrArg (List.filterMap id) hsome
  rw [hnodes]
  exact (h.filterMap _).trans (.of_eq hall)

/-! ## Following the links -/

theorem follow_once {steps : Nat} {reached : List (Value × Nat)} (hi : i < nodes.length)
    (hv : Once nodes visited) (h : follow chain nodes limit steps id i visited = .ok reached) :
    Once nodes reached ∧ reached.length ≤ max limit visited.length := by
  fun_induction follow chain nodes limit steps id i visited with
  | case1 =>
    cases h
    exact ⟨hv.reverse, by simp⟩
  | case2 => simp at h
  | case3 => simp at h
  | case4 id i visited _ hrep hlim further _ steps j hidx ih =>
    rw [any_place_eq] at hrep
    obtain ⟨hj, -⟩ := List.findIdx?_eq_some_iff_getElem.mp hidx
    obtain ⟨honce, hle⟩ := ih hj (hv.cons hi hrep) h
    refine ⟨honce, ?_⟩
    simp only [further, List.length_cons] at hle
    omega
  | case5 steps id i visited _ hrep hlim further =>
    cases h
    rw [any_place_eq] at hrep
    refine ⟨(hv.cons hi hrep).reverse, ?_⟩
    simp only [further, List.length_reverse, List.length_cons]
    omega

/-- The links that are followed from a node make a strand. The places visited do not repeat, so as
many steps are left as there are nodes not yet visited. -/
theorem follow_strand (hids : ∀ node ∈ nodes, node.id.checkIdentifier = .ok ())
    (hleads : ∀ node ∈ nodes, Leads nodes node) {steps : Nat} {reached : List (Value × Nat)}
    (hi : i < nodes.length) (hv : Once nodes visited)
    (hlen : nodes.length ≤ steps + visited.length)
    (h : follow chain nodes limit steps id i visited = .ok reached) :
    (id = .null ∧ reached = visited.reverse) ∨ (id ≠ .null ∧ ∃ rest,
      reached = visited.reverse ++ (id, i) :: rest ∧
        Strand nodes[i].next (stopsAt nodes rest)) := by
  fun_induction follow chain nodes limit steps id i visited with
  | case1 steps id i visited hnull =>
    cases h
    exact .inl ⟨Value.isNull_iff.mp hnull, rfl⟩
  | case2 => simp at h
  | case3 => simp at h
  | case4 id i visited hnull hrep _ further next steps j hidx ih =>
    rw [Value.isNull_iff] at hnull
    rw [any_place_eq] at hrep
    have hnext : next = nodes[i].next := by simp only [next, List.getElem?_eq_getElem hi]
    obtain ⟨hj, hagree, -⟩ := List.findIdx?_eq_some_iff_getElem.mp hidx
    have hsame := (Value.agrees_iff_sameMark (hids _ (List.getElem_mem hj))).mp hagree
    refine .inr ⟨hnull, ?_⟩
    rcases ih hj (hv.cons hi hrep) (by simp only [further, List.length_cons]; omega) h with
      ⟨hend, rfl⟩ | ⟨hgo, rest, rfl, hstrand⟩
    · exact ⟨[], by simp [further], hnext ▸ hend ▸ .nil⟩
    · refine ⟨(next, j) :: rest, by simp [further], ?_⟩
      rw [stopsAt_cons (List.getElem?_eq_getElem hj), ← hnext]
      exact .cons hgo hsame hstrand
  | case5 steps id i visited hnull hrep hlim further next hstuck =>
    cases h
    rw [Value.isNull_iff] at hnull
    rw [any_place_eq] at hrep
    have hnext : next = nodes[i].next := by simp only [next, List.getElem?_eq_getElem hi]
    have hend : next = .null := by
      have hroom : visited.length + 1 ≤ nodes.length := (hv.cons hi hrep : Once _ further).length_le
      obtain ⟨steps, rfl⟩ : ∃ fewer, steps = fewer + 1 :=
        Nat.exists_eq_succ_of_ne_zero (by omega)
      rw [hnext]
      refine (hleads _ (List.getElem_mem hi)).resolve_right ?_
      rintro ⟨other, ho, hsame⟩
      have hnone : indexOf? nodes next = none :=
        Option.eq_none_iff_forall_ne_some.mpr fun j hj => hstuck steps j rfl hj
      exact (indexOf?_eq_none_iff hids).mp hnone other ho (hnext ▸ hsame)
    exact .inr ⟨hnull, [], by simp [further], hnext ▸ hend ▸ .nil⟩

/-! ## Strands -/

section
variable {stops : List Stop}

theorem strand_nil_iff : Strand id [] ↔ id = .null :=
  ⟨fun h => by cases h; rfl, fun h => h ▸ .nil⟩

theorem strand_cons_iff {stop : Stop} : Strand id (stop :: stops) ↔
    id ≠ .null ∧ stop.id = id ∧ stop.node.id.SameMark id ∧ Strand stop.node.next stops := by
  constructor
  · rintro (_ | ⟨hne, hsame, hrest⟩)
    exact ⟨hne, rfl, hsame, hrest⟩
  · rintro ⟨hne, rfl, hsame, hrest⟩
    exact .cons hne hsame hrest

theorem Strand.sameMark (h : Strand id stops) : ∀ stop ∈ stops, stop.node.id.SameMark stop.id := by
  induction h with
  | nil => simp
  | cons _ hsame _ ih => exact List.forall_mem_cons.mpr ⟨hsame, ih⟩

theorem Strand.id_ne_null (h : Strand id stops) : ∀ stop ∈ stops, stop.node.id ≠ .null := by
  induction h with
  | nil => simp
  | cons hne hsame _ ih => exact List.forall_mem_cons.mpr ⟨hsame.ne_null hne, ih⟩

theorem Strand.target (h : Strand id stops) :
    id = .null ∨ ∃ stop ∈ stops, stop.node.id.SameMark id := by
  cases h with
  | nil => exact .inl rfl
  | cons _ hsame _ => exact .inr ⟨_, List.mem_cons_self, hsame⟩

theorem Strand.leads (h : Strand id stops) : ∀ stop ∈ stops, stop.node.next = .null ∨
    ∃ other ∈ stops, other.node.id.SameMark stop.node.next := by
  have hon {stop : Stop} {rest : List Stop} {id : Value}
      (h : id = .null ∨ ∃ other ∈ rest, other.node.id.SameMark id) :
      id = .null ∨ ∃ other ∈ stop :: rest, other.node.id.SameMark id :=
    h.imp_right fun ⟨other, ho, hsame⟩ => ⟨other, List.mem_cons_of_mem _ ho, hsame⟩
  induction h with
  | nil => simp
  | cons _ _ hrest ih =>
    exact List.forall_mem_cons.mpr ⟨hon hrest.target, fun stop hs => hon (ih stop hs)⟩

theorem Strand.linked (h : Strand id stops) : ∀ stop ∈ stops,
    (id ≠ .null ∧ id.SameMark stop.node.id) ∨
      ∃ other ∈ stops, other.node.next ≠ .null ∧ other.node.next.SameMark stop.node.id := by
  induction h with
  | nil => simp
  | cons hne hsame _ ih =>
    refine List.forall_mem_cons.mpr ⟨.inl ⟨hne, hsame.symm⟩, fun stop hs => .inr ?_⟩
    rcases ih stop hs with hfirst | ⟨other, ho, hother⟩
    · exact ⟨_, List.mem_cons_self, hfirst⟩
    · exact ⟨other, List.mem_cons_of_mem _ ho, hother⟩

theorem Strand.nodup {first : Node} (h : Strand first.next stops)
    (hpair : (first :: stops.map Stop.node).Pairwise fun a b => ¬ SameMark a b) :
    (first :: stops.map Stop.node).Nodup := by
  obtain ⟨hfirst, hrest⟩ := List.pairwise_cons.mp hpair
  have hself : ∀ node ∈ stops.map Stop.node, SameMark node node := by
    intro node hn
    obtain ⟨stop, hs, rfl⟩ := List.mem_map.mp hn
    exact (h.sameMark stop hs).trans (h.sameMark stop hs).symm
  refine List.nodup_cons.mpr ⟨fun hmem => hfirst first hmem (hself first hmem),
    hrest.imp_of_mem fun {a b} ha _ hab => ?_⟩
  rintro rfl
  exact hab (hself a ha)

theorem indexOf?_of_sameMark (h : Apart nodes) {node : Node} (hn : node ∈ nodes)
    (hsame : node.id.SameMark id) : ∃ j, indexOf? nodes id = some j ∧ nodes[j]? = some node := by
  cases hidx : indexOf? nodes id with
  | none => exact absurd hsame ((indexOf?_eq_none_iff h.identifiers).mp hidx node hn)
  | some j =>
    obtain ⟨hj, hagree, -⟩ := List.findIdx?_eq_some_iff_getElem.mp hidx
    have hfound := (Value.agrees_iff_sameMark (h.identifiers _ (List.getElem_mem hj))).mp hagree
    have heq : nodes[j] = node :=
      h.eq_of_sameMark (List.getElem_mem hj) hn (hfound.trans hsame.symm)
    exact ⟨j, rfl, heq ▸ List.getElem?_eq_getElem hj⟩

theorem follow_step {steps : Nat} {node : Node} (hn : nodes[i]? = some node) (hid : id ≠ .null)
    (hnew : i ∉ visited.map (·.2)) (hlim : visited.length < limit) :
    follow chain nodes limit steps id i visited =
      match steps, indexOf? nodes node.next with
      | steps + 1, some j => follow chain nodes limit steps node.next j ((id, i) :: visited)
      | _, _ => .ok ((id, i) :: visited).reverse := by
  conv_lhs => unfold follow
  rw [if_neg (by rwa [Value.isNull_iff]), if_neg (by rwa [any_place_eq]), if_neg (by omega)]
  simp only [hn]
  cases steps <;> cases indexOf? nodes node.next <;> rfl

/-- Following the links comes to the stops of a strand at nodes that are not visited yet: induction
on the stops. -/
theorem follow_of_strand (hapart : Apart nodes) {steps : Nat} {node : Node}
    (hn : nodes[i]? = some node) (hid : id ≠ .null) (hstrand : Strand node.next stops)
    (hmem : ∀ stop ∈ stops, stop.node ∈ nodes) (hnd : (node :: stops.map Stop.node).Nodup)
    (hnew : ∀ j ∈ visited.map (·.2), ∀ n ∈ node :: stops.map Stop.node, nodes[j]? ≠ some n)
    (hlim : visited.length + stops.length < limit) (hsteps : stops.length ≤ steps) :
    ∃ rest, follow chain nodes limit steps id i visited =
      .ok (visited.reverse ++ (id, i) :: rest) ∧ stopsAt nodes rest = stops := by
  induction stops generalizing steps id i visited node with
  | nil =>
    have hplace : i ∉ visited.map (·.2) := fun hi => hnew i hi node List.mem_cons_self hn
    have hend : node.next = .null := strand_nil_iff.mp hstrand
    refine ⟨[], ?_, rfl⟩
    rw [follow_step hn hid hplace (by simpa using hlim), hend]
    split
    · -- A step to a node under null, if there is one, ends the walk.
      simp [follow, Value.isNull, pure, Except.pure]
    · simp
  | cons stop rest ih =>
    have hplace : i ∉ visited.map (·.2) := fun hi => hnew i hi node List.mem_cons_self hn
    obtain ⟨hgo, hstop, hsame, hrest⟩ := strand_cons_iff.mp hstrand
    obtain ⟨hfirst, hothers⟩ := List.forall_mem_cons.mp hmem
    obtain ⟨hne, hnd⟩ := List.nodup_cons.mp hnd
    obtain ⟨j, hidx, hj⟩ := indexOf?_of_sameMark hapart hfirst hsame
    simp only [List.length_cons] at hlim hsteps
    obtain ⟨steps, rfl⟩ : ∃ fewer, steps = fewer + 1 := Nat.exists_eq_succ_of_ne_zero (by omega)
    have hnew' : ∀ k ∈ ((id, i) :: visited).map (·.2), ∀ n ∈ stop.node :: rest.map Stop.node,
        nodes[k]? ≠ some n := by
      refine List.forall_mem_cons.mpr ⟨fun n hmem heq => ?_, fun k hk n hmem =>
        hnew k hk n (List.mem_cons_of_mem _ hmem)⟩
      rw [hn] at heq
      exact hne (Option.some.inj heq ▸ hmem)
    obtain ⟨places, hfollow, hstops⟩ := ih hj hgo hrest hothers hnd hnew'
      (by simp only [List.length_cons]; omega) (Nat.le_of_succ_le_succ hsteps)
    refine ⟨(node.next, j) :: places, ?_, ?_⟩
    · rw [follow_step hn hid hplace (by omega), hidx]
      simpa using hfollow
    · rw [stopsAt_cons hj, hstops, ← hstop]

end

/-! ## Routes -/

variable {stops : List Stop}

theorem Threads.pairwise (h : Threads nodes stops) (hapart : Apart nodes) :
    (stops.map Stop.node).Pairwise fun a b => ¬ SameMark a b :=
  (h.perm.pairwise_iff fun hab hba => hab hba.symm).mpr hapart.pairwise

theorem Threads.id_ne_null (h : Threads nodes stops) : ∀ stop ∈ stops, stop.node.id ≠ .null := by
  obtain ⟨first, rest, rfl, hfirst, hstrand⟩ := h.strand
  exact List.forall_mem_cons.mpr ⟨hfirst, hstrand.id_ne_null⟩

theorem Threads.leads (h : Threads nodes stops) : ∀ node ∈ nodes, Leads nodes node := by
  obtain ⟨first, rest, rfl, -, hstrand⟩ := h.strand
  have hother {id : Value} (hlink : id = .null ∨ ∃ stop ∈ rest, stop.node.id.SameMark id) :
      id = .null ∨ ∃ other ∈ nodes, other.id.SameMark id :=
    hlink.imp_right fun ⟨stop, hs, hsame⟩ =>
      ⟨stop.node, h.perm.mem_iff.mp (List.mem_cons_of_mem _ (List.mem_map_of_mem hs)), hsame⟩
  intro node hn
  rcases List.mem_cons.mp (h.perm.mem_iff.mpr hn) with rfl | hrest
  · exact hother hstrand.target
  · obtain ⟨stop, hs, rfl⟩ := List.mem_map.mp hrest
    exact hother (hstrand.leads stop hs)

theorem Threads.headsOf_eq {first : Node} {rest : List Stop}
    (h : Threads nodes (Stop.of first :: rest)) (hapart : Apart nodes)
    (hstrand : Strand first.next rest) :
    ∃ i, nodes[i]? = some first ∧ headsOf nodes = [(first, i)] := by
  have hpair := List.pairwise_cons.mp (h.pairwise hapart)
  have hleads := h.leads
  have hmem : first ∈ nodes := h.perm.mem_iff.mp List.mem_cons_self
  obtain ⟨before, after, rfl⟩ := List.append_of_mem hmem
  have hothers : (rest.map Stop.node).Perm (before ++ after) :=
    (h.perm.trans List.perm_middle).cons_inv
  have hlinked {other : Node} (ho : other ∈ rest.map Stop.node) :
      other ∈ before ++ first :: after := h.perm.mem_iff.mp (List.mem_cons_of_mem _ ho)
  -- Whatever a link leads to is behind the first stop, and told apart from its node.
  have hfirst : isTarget (before ++ first :: after) first.id = false := by
    rw [← Bool.not_eq_true, isTarget_iff_sameMark hleads]
    rintro ⟨other, ho, hne, hsame⟩
    have hbehind : other.next = .null ∨ ∃ stop ∈ rest, stop.node.id.SameMark other.next := by
      rcases List.mem_cons.mp (h.perm.mem_iff.mpr ho) with rfl | hrest
      · exact hstrand.target
      · obtain ⟨stop, hs, rfl⟩ := List.mem_map.mp hrest
        exact hstrand.leads stop hs
    obtain ⟨stop, hs, hstop⟩ := hbehind.resolve_left hne
    exact hpair.1 stop.node (List.mem_map_of_mem hs) (hstop.trans hsame).symm
  have htarget : ∀ other ∈ before ++ after,
      isTarget (before ++ first :: after) other.id = true := by
    intro other ho
    obtain ⟨stop, hs, rfl⟩ := List.mem_map.mp (hothers.mem_iff.mpr ho)
    rw [isTarget_iff_sameMark hleads]
    rcases hstrand.linked stop hs with ⟨hne, hsame⟩ | ⟨other, ho, hother⟩
    · exact ⟨first, by simp, hne, hsame⟩
    · exact ⟨other.node, hlinked (List.mem_map_of_mem ho), hother⟩
  have hnone (others : List Node) (k : Nat) (hsub : others ⊆ before ++ after) :
      (others.zipIdx k).filter (fun p => !isTarget (before ++ first :: after) p.1.id) = [] := by
    rw [List.filter_eq_nil_iff]
    intro p hp
    simp [htarget p.1 (hsub (List.fst_mem_of_mem_zipIdx hp))]
  have hheads : headsOf (before ++ first :: after) = (before ++ first :: after).zipIdx.filter
      fun p => !isTarget (before ++ first :: after) p.1.id := rfl
  refine ⟨before.length, by simp, ?_⟩
  rw [hheads, List.zipIdx_append, List.zipIdx_cons, List.filter_append,
    hnone before _ (List.subset_append_left _ _), List.filter_cons_of_pos (by simp [hfirst]),
    hnone after _ (List.subset_append_right _ _)]
  simp

/-- Nodes make a route of stops exactly when they are told apart, belong to the chain, are threaded
by the stops, and are no more than the limit. -/
theorem build_threads (hne : nodes ≠ []) :
    build chain nodes limit = .ok ⟨chain, stops⟩ ↔
      Apart nodes ∧ OneChain chain nodes ∧ Threads nodes stops ∧ nodes.length ≤ limit := by
  rw [build_eq_ok_iff]
  constructor
  · rintro ⟨visited, hplaces, heq⟩
    obtain rfl : stops = stopsAt nodes visited := congrArg Route.stops heq
    obtain ⟨hchecked, hlinks, head, i, hheads, hfollow, hmissed⟩ :=
      (places_eq_ok_iff hne).mp hplaces
    obtain ⟨hapart, hone⟩ := (checkNodes_iff ⟨by simp, .nil⟩).mp hchecked
    have hleads := (checkLinks_iff hapart.identifiers).mp hlinks
    have hmem : (head, i) ∈ headsOf nodes := hheads ▸ List.mem_cons_self
    have hhead : nodes[i]? = some head :=
      List.mk_mem_zipIdx_iff_getElem?.mp (List.mem_of_mem_filter hmem)
    obtain ⟨hi, rfl⟩ := List.getElem?_eq_some_iff.mp hhead
    obtain ⟨honce, hle⟩ := follow_once hi .nil hfollow
    have hrange : (visited.map (·.2)).Perm (List.range nodes.length) := by
      refine honce.perm_range ?_
      have hsub : List.range nodes.length ⊆ visited.map (·.2) :=
        fun j hj => missedBy_eq_nil_iff.mp hmissed j (List.mem_range.mp hj)
      simpa using (List.nodup_range.subperm hsub).length_le
    have hlength : visited.length = nodes.length := by simpa using hrange.length_eq
    rcases follow_strand hapart.identifiers hleads hi .nil (Nat.le_add_right _ _) hfollow with
      ⟨-, rfl⟩ | ⟨hid, rest, rfl, hstrand⟩
    · exact absurd (List.length_eq_zero_iff.mp hlength.symm) hne
    · refine ⟨hapart, hone,
        ⟨perm_stopsAt hrange, nodes[i], stopsAt nodes rest, ?_, hid, hstrand⟩, ?_⟩
      · exact stopsAt_cons hhead
      · have hpos : 0 < nodes.length := List.length_pos_iff.mpr hne
        rw [hlength] at hle
        simp only [List.length_nil] at hle
        omega
  · rintro ⟨hapart, hone, hthreads, hlim⟩
    obtain ⟨first, rest, rfl, hid, hstrand⟩ := hthreads.strand
    obtain ⟨i, hi, hheads⟩ := hthreads.headsOf_eq hapart hstrand
    have hlength : rest.length + 1 = nodes.length := by simpa using hthreads.perm.length_eq
    obtain ⟨places, hfollow, hstops⟩ : ∃ places,
        follow chain nodes limit nodes.length first.id i [] = .ok ((first.id, i) :: places) ∧
          stopsAt nodes places = rest :=
      follow_of_strand hapart hi hid hstrand
        (fun stop hs => hthreads.perm.mem_iff.mp (List.mem_cons_of_mem _ (List.mem_map_of_mem hs)))
        (hstrand.nodup (hthreads.pairwise hapart)) (by simp)
        (by simp only [List.length_nil]; omega) (by omega)
    have hi' : i < nodes.length := (List.getElem?_eq_some_iff.mp hi).1
    obtain ⟨honce, -⟩ := follow_once hi' .nil hfollow
    have hrange := honce.perm_range (by
      have hle : (stopsAt nodes places).length ≤ places.length := List.length_filterMap_le _ _
      rw [hstops] at hle
      simp only [List.length_cons]
      omega)
    refine ⟨(first.id, i) :: places, (places_eq_ok_iff hne).mpr ⟨?_, ?_, first, i, hheads, hfollow,
      missedBy_eq_nil_iff.mpr fun j hj => hrange.mem_iff.mpr (List.mem_range.mpr hj)⟩, ?_⟩
    · exact (checkNodes_iff ⟨by simp, .nil⟩).mpr ⟨hapart, hone⟩
    · exact (checkLinks_iff hapart.identifiers).mpr hthreads.leads
    · rw [stopsAt_cons hi, hstops]
      rfl

end EventChain.Route
