import EventChain.Proofs.Route.Build

/-!
# Nodes that form a route

The nodes of a chain form a route exactly when they can be put into an order in which each links
to the next and the last has no link, and there is one such order only (`build_ok_iff`).
-/

namespace EventChain.Route

variable {chain : Chain} {nodes : List Node} {limit : Int}

/-- Nodes, if there are any, make a route exactly when they have none of the faults of single
nodes and links, are no more than the limit and have an order; the route is then that order, the
only one. Following the links ends within as many steps as there are nodes: a larger bound on the
steps gives the same. -/
theorem build_ok_iff (hk : Keyed nodes) :
    (nodes ≠ [] → ((∃ route, build chain nodes limit = .ok route) ↔
      Distinct nodes ∧ OneChain chain nodes ∧ Closed nodes ∧ nodes.length ≤ limit ∧
        ∃ order, Enumerates nodes order)) ∧
    (∀ route, build chain nodes limit = .ok route →
      ∃ order, Enumerates nodes order ∧ route = ⟨chain, order.map Stop.of⟩ ∧
        ∀ other, Enumerates nodes other → other = order) ∧
    (∀ id index extra, index < nodes.length →
      follow chain nodes limit (nodes.length + extra) id index [] =
        follow chain nodes limit nodes.length id index []) := by
  refine ⟨fun hne => ⟨?_, ?_⟩, ?_, ?_⟩
  · rintro ⟨route, hr⟩
    obtain ⟨hs, hl, order, ho, -⟩ := (build_built hk hne).of_ok hr
    exact ⟨hs.distinct, hs.oneChain, hs.closed, hl, order, ho⟩
  · rintro ⟨hd, hone, hc, hl, order, ho⟩
    have hs : Sound chain nodes := ⟨hd, hone, hc, ho.not_manyHeads hk hd⟩
    refine (build_built hk hne).exists_route hs ?_ hl
    rintro ⟨id, hcyc⟩
    exact ho.not_onCycle hk hd id hcyc
  · intro route hr
    by_cases hne : nodes = []
    · subst hne
      cases hr
      exact ⟨[], ⟨.nil, .nil, by simp⟩, rfl, fun other h => List.perm_nil.mp h.perm⟩
    · obtain ⟨hs, -, order, ho, hroute⟩ := (build_built hk hne).of_ok hr
      exact ⟨order, ho, hroute, fun other h => h.unique hk hs.distinct ho⟩
  · intro id index extra hi
    exact follow_add hi (by simp) (by simp) (Nat.le_add_right _ _)

/-- Two nodes stored last first. -/
theorem build_ok_iff_two :
    Keyed [.bare (.int 2) .null, .bare (.int 1) (.int 2)] ∧
    ∃ route, build (.named (.int 7) .null) [.bare (.int 2) .null, .bare (.int 1) (.int 2)] 2 =
      .ok route := by
  have hk : Keyed [.bare (.int 2) .null, .bare (.int 1) (.int 2)] := by
    simp [Keyed, Node.bare, Value.int, Value.IsKey]
  have hd : Distinct [.bare (.int 2) .null, .bare (.int 1) (.int 2)] := by
    simp [Distinct, Node.bare, Value.int]
  have hone : OneChain (.named (.int 7) .null)
      [.bare (.int 2) .null, .bare (.int 1) (.int 2)] := by
    simp [OneChain, SameChain, Node.bare]
  have hc : Closed [.bare (.int 2) .null, .bare (.int 1) (.int 2)] := by
    simp [Closed, Node.bare]
  have ho : Enumerates [.bare (.int 2) .null, .bare (.int 1) (.int 2)]
      [.bare (.int 1) (.int 2), .bare (.int 2) .null] :=
    ⟨.swap _ _ [], .cons_cons rfl (.singleton _), by simp [Node.bare]⟩
  exact ⟨hk, ((build_ok_iff hk).1 (by simp)).mpr ⟨hd, hone, hc, by decide, _, ho⟩⟩

end EventChain.Route
