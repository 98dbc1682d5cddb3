import EventChain.Proofs.Store.Refinement

/-!
# What is read from a store

After any calls, a store gives for a chain what their history tells of it, lists the chains of a
tenant in order, and keeps what it gives for a chain where a call is about another chain or comes to
nothing (`play_refines`).
-/

namespace EventChain

open Store (Call)

namespace Store

/-! ## Reading -/

theorem loadSnapshot_of_fits {s : Store} {id : Int} (h : Cell.fits id) :
    s.loadSnapshot id =
      .ok ((s.chain? id).map fun row => (row.chain, (s.nodesOf id).map NodeRow.node)) := by
  have hcells : checkCells [.integer id] = .ok () := by rw [checkCells_integer, if_pos h]
  unfold loadSnapshot getChain listNodes
  rw [hcells]
  cases s.chain? id <;> rfl

theorem loadSnapshot_of_not_fits {s : Store} {id : Int} (h : ¬ Cell.fits id) :
    s.loadSnapshot id = .error (.cell .integerTooLarge) := by
  have hcells : checkCells [.integer id] = .error (.cell .integerTooLarge) := by
    rw [checkCells_integer, if_neg h]
  unfold loadSnapshot getChain
  rw [hcells]
  rfl

theorem loadSnapshot_congr {s s' : Store} {id : Int} (hchain : s'.chain? id = s.chain? id)
    (hnodes : s'.nodesOf id = s.nodesOf id) : s'.loadSnapshot id = s.loadSnapshot id := by
  by_cases h : Cell.fits id
  · rw [loadSnapshot_of_fits h, loadSnapshot_of_fits h, hchain, hnodes]
  · rw [loadSnapshot_of_not_fits h, loadSnapshot_of_not_fits h]

def OfTenant (tenant : Option Int) (row : ChainRow) : Prop :=
  ∀ t, tenant = some t → row.tenant = some t

instance (tenant : Option Int) (row : ChainRow) : Decidable (OfTenant tenant row) :=
  match tenant with
  | none => isTrue nofun
  | some t => decidable_of_iff (row.tenant = some t) (by simp [OfTenant])

/-- The highest priority comes first, and of one priority the least identifier. -/
def Precedes (a b : ChainRow) : Prop :=
  b.priority < a.priority ∨ a.priority = b.priority ∧ a.id < b.id

theorem listChains_eq {s : Store} {tenant : Option Int} (h : ∀ t, tenant = some t → Cell.fits t) :
    s.listChains tenant =
      .ok ((s.chains.filter (OfTenant tenant ·)).mergeSort precedes) := by
  have hcells : checkCells (tenant.toList.map .integer) = .ok () := by
    cases tenant with
    | none => rfl
    | some t => exact checkCells_integer.trans (if_pos (h t rfl))
  unfold listChains
  rw [hcells]
  cases tenant with
  | none => simp [OfTenant, bind, Except.bind, pure, Except.pure]
  | some t => simp [OfTenant, bind, Except.bind, pure, Except.pure]

theorem pairwise_mergeSort_precedes {rows : List ChainRow} (h : (rows.map (·.id)).Nodup) :
    (rows.mergeSort precedes).Pairwise Precedes := by
  have hsorted : (rows.mergeSort precedes).Pairwise fun a b => precedes a b = true := by
    refine List.pairwise_mergeSort ?_ ?_ rows
    · intro a b c
      simp only [precedes, Bool.or_eq_true, Bool.and_eq_true, decide_eq_true_eq]
      omega
    · intro a b
      simp only [precedes, Bool.or_eq_true, Bool.and_eq_true, decide_eq_true_eq]
      omega
  have hids : ((rows.mergeSort precedes).map (·.id)).Nodup :=
    ((List.mergeSort_perm rows precedes).map _).nodup_iff.mpr h
  refine (hsorted.and (List.pairwise_map.mp hids)).imp fun {a b} hboth => ?_
  obtain ⟨hprecedes, hne⟩ := hboth
  simp only [precedes, Bool.or_eq_true, Bool.and_eq_true, decide_eq_true_eq] at hprecedes
  unfold Precedes
  omega

/-! ## Other chains -/

/-- The chain that a call is about, for a creation the one that comes to be. -/
def Call.chain? (s : Store) : Call → Option Int
  | .createChain _ => some (nextId (s.chains.map (·.id)))
  | .createNode draft => draft.chain
  | .link node _ => (s.nodes.find? (·.id = node)).map (·.chain)
  | .deleteChain chain => some chain

/-- What a call that is about one chain, or that comes to nothing, leaves as it was. -/
structure Isolates (s : Store) (call : Call) : Prop where
  refused : ∀ fault, (s.perform call).2 = .refused fault → (s.perform call).1 = s
  nodeMissing : ∀ node next, call = .link node next → (∀ row ∈ s.nodes, row.id ≠ node) →
    (s.perform call).1 = s
  chainMissing : ∀ chain, call = .deleteChain chain → (∀ row ∈ s.chains, row.id ≠ chain) →
    (s.perform call).1 = s
  elsewhere : ∀ id, call.chain? s ≠ some id →
    (s.perform call).1.loadSnapshot id = s.loadSnapshot id

theorem filter_map_linked {nodes : List NodeRow} (hids : (nodes.map (·.id)).Pairwise (· < ·))
    {row : NodeRow} (hrow : row ∈ nodes) {next : Option Int} {id : Int} (hid : row.chain ≠ id) :
    (nodes.map fun r => if r.id = row.id then { row with next } else r).filter (·.chain = id) =
      nodes.filter (·.chain = id) := by
  rw [List.filter_map]
  have hkept : nodes.filter ((fun r : NodeRow => decide (r.chain = id)) ∘
      fun r => if r.id = row.id then { row with next } else r) = nodes.filter (·.chain = id) := by
    refine List.filter_congr fun r hr => ?_
    by_cases hsame : r.id = row.id
    · simp [eq_of_id_eq hids hr hrow hsame]
    · simp [hsame]
  rw [hkept]
  refine (List.map_congr_left fun r hr => ?_).trans (List.map_id _)
  obtain ⟨hr, hown⟩ := List.mem_filter.mp hr
  refine if_neg fun hsame => hid ?_
  rw [← eq_of_id_eq hids hr hrow hsame]
  exact of_decide_eq_true hown

/-- A call keeps the row and the nodes of each chain that it is not about. -/
theorem Performs.elsewhere {s after : Store} {call : Call} {event : Event}
    (hp : s.Performs call after event) (hids : (s.nodes.map (·.id)).Pairwise (· < ·)) {id : Int}
    (hid : call.chain? s ≠ some id) :
    after.chain? id = s.chain? id ∧ after.nodesOf id = s.nodesOf id := by
  cases hp with
  | chainCreated hnew =>
    rw [Call.chain?, ← hnew, Ne, Option.some_inj] at hid
    simp [Store.chain?, nodesOf, hid]
  | nodeCreated hnew hmakes =>
    rw [Call.chain?, ← hmakes.chain, Ne, Option.some_inj] at hid
    simp [Store.chain?, nodesOf, hid]
  | @linked next row hrow =>
    rw [Call.chain?, find?_id_eq hids hrow, Option.map_some, Ne, Option.some_inj] at hid
    exact ⟨rfl, filter_map_linked hids hrow hid⟩
  | @chainDeleted row hrow =>
    rw [Call.chain?, Ne, Option.some_inj] at hid
    constructor
    · refine (List.find?_filter ..).trans (congrArg (List.find? · s.chains) (funext fun r => ?_))
      by_cases hown : r.id = id
      · simp [hown, Ne.symm hid]
      · simp [hown]
    · refine List.filter_filter.trans (List.filter_congr fun r _ => ?_)
      by_cases hown : r.chain = id
      · simp [hown, Ne.symm hid]
      · simp [hown]
  | nodeMissed | chainMissed | refused => exact ⟨rfl, rfl⟩

theorem Performs.eq_of_refused {s after : Store} {call : Call} {fault : StoreFault}
    (hp : s.Performs call after (.refused fault)) : after = s := by
  cases hp
  rfl

theorem Performs.eq_of_nodeMissing {s after : Store} {node : Int} {next : Option Int}
    {event : Event} (hp : s.Performs (.link node next) after event)
    (hmissing : ∀ row ∈ s.nodes, row.id ≠ node) : after = s := by
  cases hp with
  | linked hrow => exact absurd rfl (hmissing _ hrow)
  | nodeMissed | refused => rfl

theorem Performs.eq_of_chainMissing {s after : Store} {chain : Int} {event : Event}
    (hp : s.Performs (.deleteChain chain) after event)
    (hmissing : ∀ row ∈ s.chains, row.id ≠ chain) : after = s := by
  cases hp with
  | chainDeleted hrow => exact absurd rfl (hmissing _ hrow)
  | chainMissed | refused => rfl

theorem isolates {s : Store} (hids : (s.nodes.map (·.id)).Pairwise (· < ·)) (call : Call) :
    s.Isolates call := by
  have hp := performs_perform s call
  constructor
  case refused =>
    intro fault hfault
    rw [hfault] at hp
    exact hp.eq_of_refused
  case nodeMissing =>
    rintro node next rfl hmissing
    exact hp.eq_of_nodeMissing hmissing
  case chainMissing =>
    rintro chain rfl hmissing
    exact hp.eq_of_chainMissing hmissing
  case elsewhere =>
    intro id hid
    obtain ⟨hchain, hnodes⟩ := hp.elsewhere hids hid
    exact loadSnapshot_congr hchain hnodes

/-! ## After any calls -/

structure Tells (s : Store) (h : History) : Prop where
  /-- A chain that exists is loaded as it was drafted, with the nodes created for it since its last
  deletion. -/
  loaded : ∀ p ∈ h.chains, p.1.Makes p.2 ∧ (Cell.fits p.2.id →
    s.loadSnapshot p.2.id = .ok (some (p.2.chain, (h.nodes p.2.id).map (·.2.node))))
  missing : ∀ id, Cell.fits id → (∀ p ∈ h.chains, p.2.id ≠ id) → s.loadSnapshot id = .ok none
  tooLarge : ∀ id, ¬ Cell.fits id → s.loadSnapshot id = .error (.cell .integerTooLarge)
  nodesMade : ∀ id, ∀ p ∈ h.nodes id, p.1.Makes p.2
  ascending : ∀ id, ((h.nodes id).map (·.2.id)).Pairwise (· < ·)
  names : (s.nodes.map fun row => (row.chain, row.name)).Nodup
  listed : ∀ tenant, (∀ t, tenant = some t → Cell.fits t) → ∃ rows,
    s.listChains tenant = .ok rows ∧
      rows.Perm ((h.chains.map (·.2)).filter (OfTenant tenant ·)) ∧ rows.Pairwise Precedes

end Store

theorem History.Reflects.tells {h : History} {s : Store} (hs : h.Reflects s) : s.Tells h := by
  obtain ⟨hchains, hnodes⟩ := hs
  constructor
  case loaded =>
    intro p hp
    refine ⟨hchains.made p hp, fun hfits => ?_⟩
    have hmem : p.2 ∈ s.chains := hchains.stored ▸ List.mem_map_of_mem hp
    have hfind : s.chain? p.2.id = some p.2 := Store.find?_id_eq hchains.ids hmem
    rw [Store.loadSnapshot_of_fits hfits, hfind, Store.nodesOf, hnodes.stored, List.map_map]
    rfl
  case missing =>
    intro id hfits hmissing
    have hfind : s.chain? id = none := by
      refine List.find?_eq_none.mpr fun row hrow => ?_
      rw [hchains.stored] at hrow
      obtain ⟨p, hp, rfl⟩ := List.mem_map.mp hrow
      simpa using hmissing p hp
    rw [Store.loadSnapshot_of_fits hfits, hfind]
    rfl
  case tooLarge => exact fun _ h => Store.loadSnapshot_of_not_fits h
  case nodesMade => exact hnodes.made
  case ascending =>
    intro id
    have hids : ((s.nodes.filter (·.chain = id)).map (·.id)).Pairwise (· < ·) :=
      hnodes.ids.sublist (List.filter_sublist.map _)
    rwa [hnodes.stored, List.map_map] at hids
  case names => exact hnodes.names
  case listed =>
    intro tenant htenant
    refine ⟨_, Store.listChains_eq htenant, ?_, ?_⟩
    · rw [← hchains.stored]
      exact List.mergeSort_perm _ _
    · have hids : (s.chains.map (·.id)).Nodup := hchains.ids.imp ne_of_lt
      exact Store.pairwise_mergeSort_precedes (hids.sublist (List.filter_sublist.map _))

namespace Store

/-- After any calls on an empty store, a chain that was created and not deleted since is loaded as
it was drafted, with the nodes created for it since its last deletion in the order of their
identifiers, each as it was drafted and with its last link. Other chains are not found. No two nodes
of one chain have the same name, and the chains of a tenant are listed in order. A further call that
comes to nothing changes nothing, and one that is about a chain changes what is loaded for no
other. -/
theorem play_refines (calls : List Call) :
    let played := empty.play calls
    played.1.Tells played.2 ∧ ∀ call, played.1.Isolates call :=
  ⟨(reflects_play calls).tells, isolates (reflects_play calls).nodes.ids⟩

/-- Two nodes of a chain that is created, of which one is linked anew, next to a node of one name
with the first and a chain that is deleted. -/
theorem play_refines_linked :
    let calls : List Call := [
      .createChain { ChainDraft.standard with name := some "cooling", priority := some 3 },
      .createNode ⟨some 1, some "hot", some "filter", .text "\x7b\x7d", none⟩,
      .createNode ⟨some 1, some "cool", some "action", .null, none⟩,
      .createNode ⟨some 1, some "hot", some "action", .null, none⟩,
      .createChain { ChainDraft.standard with name := some "heating" },
      .link 1 (some 2), .deleteChain 2]
    let s := (empty.play calls).1
    s.loadSnapshot 1 = .ok (some (
        ⟨.int 1, .text "cooling", .null, .boolean true, .int 3,
          ⟨.int 1, .number (.float .zero)⟩, .null⟩,
        [⟨.int 1, .int 1, .text "filter", .text "hot", .text "\x7b\x7d", .int 2⟩,
          ⟨.int 2, .int 1, .text "action", .text "cool", .null, .null⟩])) ∧
      s.loadSnapshot 2 = .ok none := by
  intro calls s
  obtain ⟨htells, -⟩ := play_refines calls
  have hchains : (empty.play calls).2.chains.map (·.2) =
    [⟨1, none, "cooling", none, true, 3, 1, .zero⟩] := rfl
  obtain ⟨p, hp, hrow⟩ : ∃ p ∈ (empty.play calls).2.chains,
      p.2 = ⟨1, none, "cooling", none, true, 3, 1, .zero⟩ := by
    rw [← List.mem_map, hchains]
    exact List.mem_singleton_self _
  obtain ⟨-, hloaded⟩ := htells.loaded p hp
  rw [hrow] at hloaded
  refine ⟨hloaded rfl, htells.missing 2 rfl fun q hq hid => ?_⟩
  have hq := List.mem_map_of_mem (f := fun p => p.2) hq
  rw [hchains, List.mem_singleton] at hq
  rw [hq] at hid
  cases hid

/-- A chain whose identifier has more than 64 bits does not exist, but is not missed: looking for it
fails. -/
theorem loadSnapshot_otherwise :
    let played := empty.play []
    (∀ p ∈ played.2.chains, p.2.id ≠ 0x8000000000000000) ∧
      played.1.loadSnapshot 0x8000000000000000 = .error (.cell .integerTooLarge) := by
  refine ⟨?_, rfl⟩
  intro p hp
  cases hp

end Store

end EventChain
