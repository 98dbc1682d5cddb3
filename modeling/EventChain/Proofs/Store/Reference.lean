import EventChain.Proofs.Store.Snapshot

/-!
# Nodes and the chains they belong to

A store does not look for the chain of a node that is created. Its nodes belong to chains that exist
for as long as every node is created for one that does (`play_referential`): no other call, and no
deletion in particular, leaves a node without its chain. A node that is created for no chain is
found in the chain that comes to have its identifier.
-/

namespace EventChain.Store

/-- Every node belongs to a chain that exists. -/
def Referential (s : Store) : Prop := ∀ row ∈ s.nodes, ∃ chain ∈ s.chains, chain.id = row.chain

def Event.Housed (s : Store) (event : Event) : Prop :=
  ∀ row, event = .nodeCreated row → ∃ chain ∈ s.chains, chain.id = row.chain

/-- After some calls, a call creates no node for a chain that does not exist. -/
def Houses (before : List Call) (call : Call) : Prop :=
  Event.Housed (empty.play before).1 ((empty.play before).1.perform call).2

/-- A call keeps the chains of the nodes exactly where it creates no node without one. -/
theorem Performs.referential_iff {s after : Store} {call : Call} {event : Event}
    (hp : s.Performs call after event) (hs : s.Referential) :
    after.Referential ↔ event.Housed s := by
  cases hp with
  | chainCreated =>
    refine iff_of_true (fun node hnode => ?_) nofun
    obtain ⟨chain, hchain, hown⟩ := hs node hnode
    exact ⟨chain, List.mem_append_left _ hchain, hown⟩
  | @nodeCreated draft row =>
    constructor
    · rintro hafter _ ⟨⟩
      exact hafter row (List.mem_append_right _ (List.mem_singleton_self row))
    · intro hhoused
      exact List.forall_mem_append.mpr ⟨hs, List.forall_mem_singleton.mpr (hhoused row rfl)⟩
  | @linked next row hrow =>
    refine iff_of_true (fun node hnode => ?_) nofun
    obtain ⟨r, hr, rfl⟩ := List.mem_map.mp hnode
    split
    · exact hs row hrow
    · exact hs r hr
  | chainDeleted =>
    refine iff_of_true (fun node hnode => ?_) nofun
    obtain ⟨hnode, hother⟩ := List.mem_filter.mp hnode
    obtain ⟨chain, hchain, hown⟩ := hs node hnode
    exact ⟨chain, List.mem_filter.mpr ⟨hchain, by rwa [hown]⟩, hown⟩
  | nodeMissed | chainMissed | refused => exact iff_of_true hs nofun

/-- Induction on the calls from the end: the last one is made in a state that has to be looked at
too. -/
theorem throughout_houses_iff (calls : List Call) :
    Throughout Houses calls ↔ ∀ before, before <+: calls → (empty.play before).1.Referential := by
  induction calls using List.reverseRecOn with
  | nil =>
    refine iff_of_true throughout_nil fun before hbefore => ?_
    rw [List.prefix_nil.mp hbefore]
    exact fun row hrow => absurd hrow List.not_mem_nil
  | append_singleton calls call ih =>
    have hlast (hs : (empty.play calls).1.Referential) :
        (empty.play (calls ++ [call])).1.Referential ↔ Houses calls call := by
      rw [play_append_singleton]
      exact (performs_perform _ call).referential_iff hs
    rw [throughout_append_singleton, ih]
    constructor
    · rintro ⟨hbefore, hcall⟩ before hinit
      rcases List.prefix_concat_iff.mp hinit with rfl | hinit
      · exact (hlast (hbefore calls (List.prefix_refl calls))).mpr hcall
      · exact hbefore before hinit
    · intro hall
      have hbefore before (hinit : before <+: calls) : (empty.play before).1.Referential :=
        hall before (hinit.trans (List.prefix_append calls [call]))
      exact ⟨hbefore, (hlast (hbefore calls (List.prefix_refl calls))).mp
        (hall _ (List.prefix_refl _))⟩

/-! ## A chain that is new -/

/-- A chain that is created is loaded with the nodes that its identifier had before. -/
theorem loadSnapshot_created (calls : List Call) {draft : ChainDraft} {row : ChainRow}
    (hcreated : ((empty.play calls).1.perform (.createChain draft)).2 = .chainCreated row)
    (hfits : Cell.fits row.id) :
    ((empty.play calls).1.perform (.createChain draft)).1.loadSnapshot row.id =
      .ok (some (row.chain, ((empty.play calls).2.nodes row.id).map (·.2.node))) := by
  let entry : Call × Event := (.createChain draft, .chainCreated row)
  have htells := (reflects_play (calls ++ [.createChain draft])).tells
  rw [play_append_singleton] at htells
  simp only [hcreated] at htells
  have hnodes :
      ((empty.play calls).2 ++ [entry]).nodes row.id = (empty.play calls).2.nodes row.id :=
    History.nodes_append_other nofun nofun nofun
  have hmem : (draft, row) ∈ ((empty.play calls).2 ++ [entry]).chains := by
    rw [History.chains_append_created]
    exact List.mem_append_right _ (List.mem_singleton_self _)
  rw [← hnodes]
  exact (htells.loaded (draft, row) hmem).2 hfits

theorem Performs.id_ne {s after : Store} {call : Call} {row : ChainRow}
    (hp : s.Performs call after (.chainCreated row))
    (hids : (s.chains.map (·.id)).Pairwise (· < ·)) :
    ∀ chain ∈ s.chains, chain.id ≠ row.id := by
  intro chain hchain
  cases hp with
  | chainCreated hid =>
    have hlt := (List.pairwise_append.mp (pairwise_append_nextId hids)).2.2 chain.id
      (List.mem_map_of_mem hchain) row.id (hid ▸ List.mem_singleton_self row.id)
    exact ne_of_lt hlt

/-- Where all nodes have their chains, a new chain has none of them. -/
theorem nodes_created_eq_nil {calls : List Call} (hs : (empty.play calls).1.Referential)
    {draft : ChainDraft} {row : ChainRow}
    (hcreated : ((empty.play calls).1.perform (.createChain draft)).2 = .chainCreated row) :
    (empty.play calls).2.nodes row.id = [] := by
  obtain ⟨hchains, hnodes⟩ := reflects_play calls
  have hp := performs_perform (empty.play calls).1 (.createChain draft)
  rw [hcreated] at hp
  have hnone : (empty.play calls).1.nodes.filter (·.chain = row.id) = [] := by
    refine List.filter_eq_nil_iff.mpr fun node hnode hown => ?_
    obtain ⟨chain, hchain, hid⟩ := hs node hnode
    exact hp.id_ne hchains.ids chain hchain (hid.trans (of_decide_eq_true hown))
  exact List.map_eq_nil_iff.mp ((hnodes.stored row.id).symm.trans hnone)

/-! ## Along a run -/

/-- The nodes of a store belong to chains that exist, after each of some calls, exactly where each
node is created for a chain that exists. A chain that is created is loaded with the nodes created
for its identifier and not deleted with a chain since; these are none where all nodes were created
for chains that existed. -/
theorem play_referential (calls : List Call) :
    let played := empty.play calls
    (Throughout Houses calls ↔ ∀ before, before <+: calls → (empty.play before).1.Referential) ∧
      ∀ draft row, (played.1.perform (.createChain draft)).2 = .chainCreated row →
        Cell.fits row.id →
          (played.1.perform (.createChain draft)).1.loadSnapshot row.id =
            .ok (some (row.chain, (played.2.nodes row.id).map (·.2.node))) ∧
          (Throughout Houses calls → played.2.nodes row.id = []) := by
  intro played
  refine ⟨throughout_houses_iff calls, fun draft row hcreated hfits => ?_⟩
  refine ⟨loadSnapshot_created calls hcreated hfits, fun hhoused => ?_⟩
  exact nodes_created_eq_nil
    ((throughout_houses_iff calls).mp hhoused calls (List.prefix_refl calls)) hcreated

/-- A node whose chain is deleted, and a new chain under the same identifier. -/
theorem play_referential_again :
    let calls : List Call := [
      .createChain { ChainDraft.standard with name := some "cooling" },
      .createNode ⟨some 1, some "hot", some "filter", .text "\x7b\x7d", none⟩,
      .deleteChain 1]
    let again : Call := .createChain { ChainDraft.standard with name := some "heating" }
    let row : ChainRow := ⟨1, none, "heating", none, true, 0, 1, .zero⟩
    Throughout Houses calls ∧ ((empty.play calls).1.perform again).2 = .chainCreated row ∧
      ((empty.play calls).1.perform again).1.loadSnapshot 1 = .ok (some (row.chain, [])) := by
  intro calls again row
  obtain ⟨hhouses, hnew⟩ := play_referential calls
  have hcreated : ((empty.play calls).1.perform again).2 = .chainCreated row := rfl
  have hthroughout : Throughout Houses calls := by
    refine (@throughout_append_singleton Houses (calls.take 2) _).mpr ⟨?_, ?_⟩
    · refine (@throughout_append_singleton Houses (calls.take 1) _).mpr ⟨?_, ?_⟩
      · refine (@throughout_append_singleton Houses [] _).mpr ⟨throughout_nil, ?_⟩
        rintro _ ⟨⟩
      · rintro _ ⟨⟩
        exact ⟨_, List.mem_singleton_self _, rfl⟩
    · rintro _ ⟨⟩
  obtain ⟨hloaded, hnone⟩ := hnew _ row hcreated rfl
  rw [hnone hthroughout] at hloaded
  exact ⟨hthroughout, hcreated, hloaded⟩

/-- A node of no chain is stored, and found in the first chain that is created. -/
theorem referential_otherwise :
    let calls : List Call := [.createNode ⟨some 1, some "hot", some "filter", .null, none⟩]
    let first : Call := .createChain { ChainDraft.standard with name := some "cooling" }
    ¬ (empty.play calls).1.Referential ∧
      ((empty.play calls).1.perform first).1.loadSnapshot 1 = .ok (some (
        (⟨1, none, "cooling", none, true, 0, 1, .zero⟩ : ChainRow).chain,
        [⟨.int 1, .int 1, .text "filter", .text "hot", .null, .null⟩])) := by
  intro calls first
  refine ⟨fun h => ?_, rfl⟩
  obtain ⟨chain, hchain, -⟩ := h ⟨1, 1, "hot", "filter", none, none⟩ (List.mem_singleton_self _)
  cases hchain

end EventChain.Store
