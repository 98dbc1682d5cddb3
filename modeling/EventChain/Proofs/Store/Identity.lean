import EventChain.Proofs.Store.Refinement
import Mathlib.Data.List.Pairwise

/-!
# Identifiers of rows

A new row gets the identifier after the greatest of those that are stored, not of those that were
given out. No identifier is given to two rows as long as the newest row of a table is stored
whenever the next one is created (`play_identifies`); the identifiers are then 1, 2, 3 and so on,
and what is stored under one is the row that it was given to.
-/

namespace EventChain

namespace Store

inductive Table where
  | chains
  | nodes

def ids (s : Store) : Table → List Int
  | .chains => s.chains.map (·.id)
  | .nodes => s.nodes.map (·.id)

def Event.given? : Table → Event → Option Int
  | .chains, .chainCreated row => some row.id
  | .nodes, .nodeCreated row => some row.id
  | _, _ => none

end Store

def History.given (table : Store.Table) (h : History) : List Int := h.filterMap (·.2.given? table)

namespace Store

/-- After some calls, a call creates no row of the table when the row that was created last is not
stored any more. -/
def KeepsNewest (table : Table) (before : List Call) (call : Call) : Prop :=
  ((empty.play before).1.perform call).2.given? table ≠ none →
    ∀ newest ∈ ((empty.play before).2.given table).getLast?,
      newest ∈ (empty.play before).1.ids table

/-! ## One call -/

/-- A call adds a row under the next identifier, or leaves some of the rows. -/
theorem Performs.ids {s after : Store} {call : Call} {event : Event}
    (hp : s.Performs call after event) (table : Table) :
    (event.given? table = some (nextId (s.ids table)) ∧
        after.ids table = s.ids table ++ [nextId (s.ids table)]) ∨
      (event.given? table = none ∧ (after.ids table).Sublist (s.ids table)) := by
  cases hp with
  | @chainCreated _ row hid =>
    cases table with
    | chains =>
      refine .inl ⟨congrArg some hid, ?_⟩
      rw [← show row.id = nextId (s.ids .chains) from hid]
      exact List.map_append
    | nodes => exact .inr ⟨rfl, .refl _⟩
  | @nodeCreated _ row hid =>
    cases table with
    | chains => exact .inr ⟨rfl, .refl _⟩
    | nodes =>
      refine .inl ⟨congrArg some hid, ?_⟩
      rw [← show row.id = nextId (s.ids .nodes) from hid]
      exact List.map_append
  | @linked next row =>
    cases table with
    | chains => exact .inr ⟨rfl, .refl _⟩
    | nodes =>
      have hids (r : NodeRow) : (if r.id = row.id then { row with next } else r).id = r.id := by
        split
        next hid => exact hid.symm
        next => rfl
      refine .inr ⟨rfl, ?_⟩
      simp [Store.ids, Function.comp_def, hids]
  | chainDeleted =>
    cases table with
    | chains => exact .inr ⟨rfl, List.filter_sublist.map _⟩
    | nodes => exact .inr ⟨rfl, List.filter_sublist.map _⟩
  | nodeMissed | chainMissed | refused => cases table <;> exact .inr ⟨rfl, .refl _⟩

/-! ## Identifiers in order -/

def numbered (n : Nat) : List Int := (List.range n).map fun i : Nat => (i : Int) + 1

theorem mem_numbered {n : Nat} {id : Int} : id ∈ numbered n ↔ 1 ≤ id ∧ id ≤ n := by
  simp only [numbered, List.mem_map, List.mem_range]
  constructor
  · rintro ⟨i, hi, rfl⟩
    omega
  · intro h
    exact ⟨(id - 1).toNat, by omega, by omega⟩

theorem numbered_succ (n : Nat) : numbered (n + 1) = numbered n ++ [(n : Int) + 1] := by
  simp [numbered, List.range_succ]

theorem mem_getLast?_numbered {n : Nat} {id : Int} :
    id ∈ (numbered n).getLast? ↔ 1 ≤ id ∧ id = n := by
  cases n with
  | zero => simp [numbered]; omega
  | succ n => simp [numbered_succ]; omega

theorem foldl_max_eq_or_mem (ids : List Int) (a : Int) :
    ids.foldl max a = a ∨ ids.foldl max a ∈ ids := by
  induction ids generalizing a with
  | nil => exact .inl rfl
  | cons id rest ih =>
    rw [List.foldl_cons]
    rcases ih (max a id) with h | h
    · rcases le_total a id with hle | hle
      · rw [h, max_eq_right hle]
        exact .inr List.mem_cons_self
      · rw [h, max_eq_left hle]
        exact .inl rfl
    · exact .inr (List.mem_cons_of_mem _ h)

/-- Where the first identifiers were given out, the next one is new as long as the last of them is
still there. -/
theorem nextId_notMem_numbered {ids : List Int} {n : Nat} (hids : ids ⊆ numbered n) :
    (nextId ids ∉ numbered n ↔ ∀ newest ∈ (numbered n).getLast?, newest ∈ ids) ∧
      (nextId ids ∉ numbered n → nextId ids = n + 1) := by
  obtain ⟨hpos, hmax⟩ := le_foldl_max ids 0
  have hgreatest := foldl_max_eq_or_mem ids 0
  have hle : nextId ids ≤ n + 1 := by
    unfold nextId
    rcases hgreatest with h | h
    · omega
    · have := (mem_numbered.mp (hids h)).2
      omega
  simp only [mem_numbered, mem_getLast?_numbered]
  unfold nextId at hle ⊢
  refine ⟨⟨?_, ?_⟩, by omega⟩
  · rintro hnew newest ⟨hfirst, rfl⟩
    rcases hgreatest with h | h
    · omega
    · rwa [show ((n : Int)) = ids.foldl max 0 by omega]
  · intro hnewest hold
    have := hmax n (hnewest n ⟨by omega, rfl⟩)
    omega

/-! ## Along a run -/

theorem given_append (table : Table) (h : History) (call : Call) (event : Event) :
    History.given table (h ++ [(call, event)]) = h.given table ++ (event.given? table).toList := by
  unfold History.given
  rw [List.filterMap_append]
  cases hgiven : event.given? table <;> simp [hgiven]

theorem ids_subset_given (calls : List Call) (table : Table) :
    (empty.play calls).1.ids table ⊆ (empty.play calls).2.given table := by
  induction calls using List.reverseRecOn with
  | nil => cases table <;> exact List.Subset.refl _
  | append_singleton calls call ih =>
    rw [play_append_singleton, given_append]
    rcases (performs_perform (empty.play calls).1 call).ids table with ⟨hgiven, hids⟩ | ⟨-, hids⟩
    · rw [hgiven, hids]
      exact List.append_subset.mpr ⟨List.subset_append_of_subset_left _ ih,
        List.subset_append_right _ _⟩
    · exact List.subset_append_of_subset_left _ fun _ hid => ih (hids.subset hid)

/-- Induction on the calls from the end. Until an identifier is given out again they are the first
ones, so only the last of them has to be looked for. -/
theorem given_nodup (calls : List Call) (table : Table) :
    (((empty.play calls).2.given table).Nodup ↔ Throughout (KeepsNewest table) calls) ∧
      (((empty.play calls).2.given table).Nodup → (empty.play calls).2.given table =
        numbered ((empty.play calls).2.given table).length) := by
  induction calls using List.reverseRecOn with
  | nil => exact ⟨iff_of_true List.nodup_nil throughout_nil, fun _ => rfl⟩
  | append_singleton calls call ih =>
    obtain ⟨hiff, hnumbered⟩ := ih
    rw [play_append_singleton, given_append, throughout_append_singleton, ← hiff]
    unfold KeepsNewest
    rcases (performs_perform (empty.play calls).1 call).ids table with ⟨hgiven, -⟩ | ⟨hgiven, -⟩
    · rw [hgiven, Option.toList_some, ← List.concat_eq_append, List.nodup_concat]
      constructor
      · refine and_comm.trans (and_congr_right fun hnodup => ?_)
        have hsubset := ids_subset_given calls table
        rw [hnumbered hnodup] at hsubset ⊢
        rw [(nextId_notMem_numbered hsubset).1]
        exact ⟨fun h _ => h, fun h => h (Option.some_ne_none _)⟩
      · rintro ⟨hnew, hnodup⟩
        have hsubset := ids_subset_given calls table
        rw [hnumbered hnodup] at hsubset hnew
        rw [(nextId_notMem_numbered hsubset).2 hnew, List.length_concat, numbered_succ,
          ← hnumbered hnodup, List.concat_eq_append]
    · rw [hgiven, Option.toList_none, List.append_nil]
      exact ⟨⟨fun h => ⟨h, fun hcreates => absurd rfl hcreates⟩, And.left⟩, hnumbered⟩

theorem Performs.mem_chains {s after : Store} {call : Call} {event : Event}
    (hp : s.Performs call after event) {row : ChainRow} (hrow : row ∈ after.chains) :
    row ∈ s.chains ∨ event = .chainCreated row := by
  cases hp with
  | chainCreated =>
    rcases List.mem_append.mp hrow with hrow | hrow
    · exact .inl hrow
    · exact .inr (by rw [List.mem_singleton.mp hrow])
  | chainDeleted => exact .inl (List.mem_of_mem_filter hrow)
  | nodeCreated | linked | nodeMissed | chainMissed | refused => exact .inl hrow

theorem Performs.mem_nodes {s after : Store} {call : Call} {event : Event}
    (hp : s.Performs call after event) {row : NodeRow} (hrow : row ∈ after.nodes) :
    (∃ next, { row with next } ∈ s.nodes) ∨ event = .nodeCreated row := by
  cases hp with
  | nodeCreated =>
    rcases List.mem_append.mp hrow with hrow | hrow
    · exact .inl ⟨row.next, hrow⟩
    · exact .inr (by rw [List.mem_singleton.mp hrow])
  | @linked next linked hlinked =>
    obtain ⟨r, hr, rfl⟩ := List.mem_map.mp hrow
    split
    · exact .inl ⟨linked.next, hlinked⟩
    · exact .inl ⟨r.next, hr⟩
  | chainDeleted => exact .inl ⟨row.next, List.mem_of_mem_filter hrow⟩
  | chainCreated | nodeMissed | chainMissed | refused => exact .inl ⟨row.next, hrow⟩

theorem chainCreated_of_mem (calls : List Call) {row : ChainRow}
    (hrow : row ∈ (empty.play calls).1.chains) :
    ∃ call, (call, .chainCreated row) ∈ (empty.play calls).2 := by
  induction calls using List.reverseRecOn with
  | nil => cases hrow
  | append_singleton calls call ih =>
    rw [play_append_singleton] at hrow ⊢
    rcases (performs_perform (empty.play calls).1 call).mem_chains hrow with hrow | hcreated
    · obtain ⟨made, hmade⟩ := ih hrow
      exact ⟨made, List.mem_append_left _ hmade⟩
    · refine ⟨call, List.mem_append_right _ ?_⟩
      rw [hcreated]
      exact List.mem_singleton_self _

theorem nodeCreated_of_mem (calls : List Call) {row : NodeRow}
    (hrow : row ∈ (empty.play calls).1.nodes) :
    ∃ call next, (call, .nodeCreated { row with next }) ∈ (empty.play calls).2 := by
  induction calls using List.reverseRecOn generalizing row with
  | nil => cases hrow
  | append_singleton calls call ih =>
    rw [play_append_singleton] at hrow ⊢
    rcases (performs_perform (empty.play calls).1 call).mem_nodes hrow with ⟨next, hrow⟩ | hcreated
    · obtain ⟨made, next, hmade⟩ := ih hrow
      exact ⟨made, next, List.mem_append_left _ hmade⟩
    · refine ⟨call, row.next, List.mem_append_right _ ?_⟩
      rw [hcreated]
      exact List.mem_singleton_self _

theorem event_eq_of_given {table : Table} {h : History} (hnodup : (h.given table).Nodup)
    {first second : Call × Event} (hfirst : first ∈ h) (hsecond : second ∈ h) {id : Int}
    (hid : first.2.given? table = some id) (hsame : second.2.given? table = some id) :
    first.2 = second.2 := by
  by_contra hne
  have hother : first ≠ second := fun h => hne (congrArg Prod.snd h)
  have hpairwise := List.pairwise_filterMap.mp hnodup
  have : Std.Symm fun a b : Call × Event => ∀ i, a.2.given? table = some i →
      ∀ j, b.2.given? table = some j → i ≠ j :=
    ⟨fun _ _ h i hi j hj => (h j hj i hi).symm⟩
  exact hpairwise.forall hfirst hsecond hother id hid id hsame rfl

/-- What is stored under an identifier is the row that it was given to, whatever its link. -/
structure Identifies (h : History) (s : Store) : Prop where
  chains : ∀ row ∈ s.chains, ∀ call made, (call, .chainCreated made) ∈ h → made.id = row.id →
    made = row
  nodes : ∀ row ∈ s.nodes, ∀ call made, (call, .nodeCreated made) ∈ h → made.id = row.id →
    { made with next := row.next } = row

theorem identifies_play (calls : List Call)
    (hnodup : ∀ table, ((empty.play calls).2.given table).Nodup) :
    Identifies (empty.play calls).2 (empty.play calls).1 := by
  constructor
  case chains =>
    intro row hrow call made hmade hid
    obtain ⟨_, hcreated⟩ := chainCreated_of_mem calls hrow
    have hsame := event_eq_of_given (hnodup .chains) hmade hcreated (congrArg some hid) rfl
    cases hsame
    rfl
  case nodes =>
    intro row hrow call made hmade hid
    obtain ⟨_, next, hcreated⟩ := nodeCreated_of_mem calls hrow
    have hsame := event_eq_of_given (hnodup .nodes) hmade hcreated (congrArg some hid) rfl
    cases hsame
    rfl

/-- No identifier is given out twice in some calls exactly where the newest row of the table is
stored whenever a row is created; the identifiers are then the first ones, in order. Where that
holds of both tables, what is stored under an identifier is what it was given to. -/
theorem play_identifies (calls : List Call) :
    let played := empty.play calls
    (∀ table, ((played.2.given table).Nodup ↔ Throughout (KeepsNewest table) calls) ∧
        ((played.2.given table).Nodup →
          played.2.given table = numbered (played.2.given table).length)) ∧
      ((∀ table, (played.2.given table).Nodup) → Identifies played.2 played.1) :=
  ⟨given_nodup calls, identifies_play calls⟩

/-- A chain is deleted with its node, and neither was the newest of its table. -/
theorem play_identifies_kept :
    let calls : List Call := [
      .createChain { ChainDraft.standard with name := some "cooling" },
      .createChain { ChainDraft.standard with name := some "heating" },
      .createNode ⟨some 1, some "hot", some "filter", .null, none⟩,
      .createNode ⟨some 2, some "cold", some "filter", .null, none⟩,
      .deleteChain 1,
      .createChain { ChainDraft.standard with name := some "airing" },
      .createNode ⟨some 3, some "damp", some "filter", .null, some 2⟩]
    let played := empty.play calls
    (∀ table, (played.2.given table).Nodup ∧ Throughout (KeepsNewest table) calls ∧
      played.2.given table = [1, 2, 3]) ∧ Identifies played.2 played.1 := by
  intro calls played
  obtain ⟨hgiven, hidentifies⟩ := play_identifies calls
  have hnodup (table : Table) : (played.2.given table).Nodup := by
    cases table <;> decide
  refine ⟨fun table => ⟨hnodup table, (hgiven table).1.mp (hnodup table), ?_⟩, hidentifies hnodup⟩
  rw [(hgiven table).2 (hnodup table)]
  cases table <;> rfl

/-- The newest chain is deleted with its node, and what is created next gets their identifiers. -/
theorem identifies_otherwise :
    let calls : List Call := [
      .createChain { ChainDraft.standard with name := some "cooling" },
      .createNode ⟨some 1, some "hot", some "filter", .null, none⟩,
      .deleteChain 1,
      .createChain { ChainDraft.standard with name := some "heating" },
      .createNode ⟨some 1, some "cold", some "filter", .null, none⟩]
    let played := empty.play calls
    (∀ table, played.2.given table = [1, 1]) ∧ ¬ Identifies played.2 played.1 := by
  refine ⟨fun table => by cases table <;> rfl, fun h => ?_⟩
  have hsame := h.chains ⟨1, none, "heating", none, true, 0, 1, .zero⟩ (List.mem_singleton_self _)
    (.createChain { ChainDraft.standard with name := some "cooling" })
    ⟨1, none, "cooling", none, true, 0, 1, .zero⟩ List.mem_cons_self rfl
  exact absurd (congrArg ChainRow.name hsame) (by decide)

end Store

end EventChain
