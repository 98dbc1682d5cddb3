import EventChain.Proofs.Store.History
import EventChain.Proofs.Store.Step
import Mathlib.Data.List.Induction
import Mathlib.Data.List.Sort

/-!
# What a store holds

A store holds what the history of its calls tells (`History.Reflects`): every call keeps that so
(`Reflects.perform`), and hence every run of calls (`reflects_play`). What the store gives for a
chain, and in what order it lists them, follows.
-/

namespace EventChain

open Store (Call Event)

namespace Store

theorem le_foldl_max (ids : List Int) (a : Int) :
    a ≤ ids.foldl max a ∧ ∀ n ∈ ids, n ≤ ids.foldl max a := by
  induction ids generalizing a with
  | nil => simp
  | cons m rest ih =>
    obtain ⟨hstart, hrest⟩ := ih (max a m)
    rw [List.foldl_cons, List.forall_mem_cons]
    refine ⟨le_trans (le_max_left a m) hstart, le_trans (le_max_right a m) hstart, hrest⟩

theorem pairwise_append_nextId {ids : List Int} (h : ids.Pairwise (· < ·)) :
    (ids ++ [nextId ids]).Pairwise (· < ·) := by
  refine List.pairwise_append.mpr ⟨h, List.pairwise_singleton _ _, fun n hn m hm => ?_⟩
  obtain rfl := List.mem_singleton.mp hm
  have hle := (le_foldl_max ids 0).2 n hn
  unfold nextId
  omega

theorem eq_of_id_eq {α : Type} {key : α → Int} {rows : List α}
    (h : (rows.map key).Pairwise (· < ·)) {a b : α} (ha : a ∈ rows) (hb : b ∈ rows)
    (hid : key a = key b) : a = b :=
  List.inj_on_of_nodup_map (h.imp ne_of_lt) ha hb hid

theorem find?_id_eq {α : Type} {key : α → Int} {rows : List α}
    (h : (rows.map key).Pairwise (· < ·)) {row : α} (hrow : row ∈ rows) :
    rows.find? (key · = key row) = some row := by
  cases hfind : rows.find? (key · = key row) with
  | none => simpa using List.find?_eq_none.mp hfind row hrow
  | some other =>
    have hid : key other = key row := by simpa using List.find?_some hfind
    rw [eq_of_id_eq h (List.mem_of_find?_eq_some hfind) hrow hid]

end Store

namespace History

/-- The chains are those that the history tells of, as they were drafted and in the order of their
identifiers. -/
structure ReflectsChains (h : History) (rows : List ChainRow) : Prop where
  stored : rows = (chains h).map (·.2)
  made : ∀ p ∈ chains h, p.1.Makes p.2
  ids : (rows.map (·.id)).Pairwise (· < ·)

/-- The nodes of each chain are those that the history tells of, as they were drafted and in the
order of their identifiers; no two of one chain have the same name. -/
structure ReflectsNodes (h : History) (rows : List NodeRow) : Prop where
  stored : ∀ chain, rows.filter (·.chain = chain) = (nodes chain h).map (·.2)
  made : ∀ chain, ∀ p ∈ nodes chain h, p.1.Makes p.2
  ids : (rows.map (·.id)).Pairwise (· < ·)
  names : (rows.map fun row => (row.chain, row.name)).Nodup

variable {h : History} {call : Call} {event : Event}

/-! ## Chains -/

theorem reflectsChains_nil : ReflectsChains [] [] :=
  ⟨rfl, by simp [chains], .nil⟩

section
variable {rows : List ChainRow}

theorem ReflectsChains.append_created (hr : ReflectsChains h rows) {draft : ChainDraft}
    {row : ChainRow} (hid : row.id = Store.nextId (rows.map (·.id))) (hmakes : draft.Makes row) :
    ReflectsChains (h ++ [(.createChain draft, .chainCreated row)]) (rows ++ [row]) := by
  have hchains : chains (h ++ [(.createChain draft, .chainCreated row)]) =
      chains h ++ [(draft, row)] := chains_append_created
  constructor
  case stored => rw [hchains, List.map_append, ← hr.stored]; rfl
  case made =>
    rw [hchains]
    exact List.forall_mem_append.mpr ⟨hr.made, List.forall_mem_singleton.mpr hmakes⟩
  case ids =>
    rw [List.map_append, List.map_singleton, hid]
    exact Store.pairwise_append_nextId hr.ids

theorem ReflectsChains.append_deleted (hr : ReflectsChains h rows) (id : Int) :
    ReflectsChains (h ++ [(call, .chainDeleted id)]) (rows.filter (·.id ≠ id)) := by
  have hchains : chains (h ++ [(call, .chainDeleted id)]) = (chains h).filter (·.2.id ≠ id) :=
    chains_append_deleted
  constructor
  case stored => rw [hchains, hr.stored, List.filter_map]; rfl
  case made =>
    rw [hchains]
    exact fun p hp => hr.made p (List.mem_of_mem_filter hp)
  case ids => exact hr.ids.sublist (List.filter_sublist.map _)

theorem ReflectsChains.append_other (hr : ReflectsChains h rows)
    (hcreated : ∀ row, event ≠ .chainCreated row) (hdeleted : ∀ id, event ≠ .chainDeleted id) :
    ReflectsChains (h ++ [(call, event)]) rows := by
  have hchains : chains (h ++ [(call, event)]) = chains h := chains_append_other hcreated hdeleted
  exact ⟨hchains ▸ hr.stored, hchains ▸ hr.made, hr.ids⟩

end

/-! ## Nodes -/

theorem reflectsNodes_nil : ReflectsNodes [] [] :=
  ⟨fun _ => rfl, by simp [nodes], .nil, .nil⟩

section
variable {rows : List NodeRow}

theorem ReflectsNodes.append_created (hr : ReflectsNodes h rows) {draft : NodeDraft} {row : NodeRow}
    (hid : row.id = Store.nextId (rows.map (·.id))) (hmakes : draft.Makes row)
    (hnext : row.next = draft.next)
    (hname : ∀ other ∈ rows, other.name = row.name → other.chain ≠ row.chain) :
    ReflectsNodes (h ++ [(.createNode draft, .nodeCreated row)]) (rows ++ [row]) := by
  have hnodes (chain : Int) : nodes chain (h ++ [(.createNode draft, .nodeCreated row)]) =
      nodes chain h ++ if row.chain = chain then [(draft, row)] else [] :=
    nodes_append_created hnext
  constructor
  case stored =>
    intro chain
    rw [hnodes, List.map_append, List.filter_append, hr.stored]
    by_cases hown : row.chain = chain <;> simp [hown]
  case made =>
    intro chain
    rw [hnodes]
    refine List.forall_mem_append.mpr ⟨hr.made chain, fun p hp => ?_⟩
    split at hp
    · obtain rfl := List.mem_singleton.mp hp
      exact hmakes
    · cases hp
  case ids =>
    rw [List.map_append, List.map_singleton, hid]
    exact Store.pairwise_append_nextId hr.ids
  case names =>
    rw [List.map_append, List.map_singleton]
    refine List.nodup_append.mpr ⟨hr.names, List.nodup_singleton _, ?_⟩
    rintro _ hmem _ hlast rfl
    obtain ⟨other, hother, hsame⟩ := List.mem_map.mp hmem
    obtain ⟨hown, hsame⟩ := Prod.mk.inj (hsame.trans (List.mem_singleton.mp hlast))
    exact hname other hother hsame hown

/-- Setting the link of the node with an identifier is setting it of the one such row. -/
theorem ReflectsNodes.map_linked (hr : ReflectsNodes h rows) {row : NodeRow} (hrow : row ∈ rows)
    {next : Option Int} (linked : NodeRow) :
    (rows.map fun r => if r.id = row.id then { row with next } else r) =
      rows.map fun r =>
        { r with next := linkAfter r.id r.next (.link row.id next, .linked linked) } := by
  refine List.map_congr_left fun r hmem => ?_
  by_cases hid : r.id = row.id
  · obtain rfl := Store.eq_of_id_eq hr.ids hmem hrow hid
    simp [linkAfter]
  · simp [linkAfter, hid, Ne.symm hid]

theorem ReflectsNodes.append_linked (hr : ReflectsNodes h rows) {row : NodeRow} (hrow : row ∈ rows)
    {next : Option Int} :
    ReflectsNodes (h ++ [(.link row.id next, .linked { row with next })])
      (rows.map fun r => if r.id = row.id then { row with next } else r) := by
  have hnodes (chain : Int) :
      nodes chain (h ++ [(.link row.id next, .linked { row with next })]) =
        (nodes chain h).map (relink (.link row.id next, .linked { row with next })) :=
    nodes_append_linked
  rw [hr.map_linked hrow { row with next }]
  constructor
  case stored =>
    intro chain
    rw [hnodes, List.filter_map, List.map_map]
    exact (congrArg (List.map _) (hr.stored chain)).trans List.map_map
  case made =>
    intro chain
    rw [hnodes]
    intro _ hmem
    obtain ⟨p, hp, rfl⟩ := List.mem_map.mp hmem
    obtain ⟨hown, hname, htype, hconfig⟩ := hr.made chain p hp
    exact ⟨hown, hname, htype, hconfig⟩
  case ids => rw [List.map_map]; exact hr.ids
  case names => rw [List.map_map]; exact hr.names

theorem ReflectsNodes.append_deleted (hr : ReflectsNodes h rows) (id : Int) :
    ReflectsNodes (h ++ [(call, .chainDeleted id)]) (rows.filter (·.chain ≠ id)) := by
  have hnodes (chain : Int) : nodes chain (h ++ [(call, .chainDeleted id)]) =
      if id = chain then [] else nodes chain h := nodes_append_deleted
  constructor
  case stored =>
    intro chain
    rw [hnodes, List.filter_filter]
    by_cases hchain : id = chain
    · rw [if_pos hchain, List.map_nil, List.filter_eq_nil_iff]
      simp [hchain]
    · rw [if_neg hchain, ← hr.stored]
      refine List.filter_congr fun row _ => ?_
      have hother : row.chain = chain → row.chain ≠ id := by
        rintro rfl
        exact Ne.symm hchain
      by_cases hown : row.chain = chain <;> simp_all
  case made =>
    intro chain p hp
    rw [hnodes] at hp
    split at hp
    · cases hp
    · exact hr.made chain p hp
  case ids => exact hr.ids.sublist (List.filter_sublist.map _)
  case names => exact hr.names.sublist (List.filter_sublist.map _)

theorem ReflectsNodes.append_other (hr : ReflectsNodes h rows)
    (hcreated : ∀ row, event ≠ .nodeCreated row) (hlinked : ∀ row, event ≠ .linked row)
    (hdeleted : ∀ id, event ≠ .chainDeleted id) :
    ReflectsNodes (h ++ [(call, event)]) rows := by
  have hnodes (chain : Int) : nodes chain (h ++ [(call, event)]) = nodes chain h :=
    nodes_append_other hcreated hlinked hdeleted
  constructor
  case stored => intro chain; rw [hnodes]; exact hr.stored chain
  case made => intro chain; rw [hnodes]; exact hr.made chain
  case ids => exact hr.ids
  case names => exact hr.names

end

/-! ## Stores -/

structure Reflects (h : History) (s : Store) : Prop where
  chains : h.ReflectsChains s.chains
  nodes : h.ReflectsNodes s.nodes

theorem Reflects.performs {s after : Store} (hs : Reflects h s)
    (hp : s.Performs call after event) : Reflects (h ++ [(call, event)]) after := by
  obtain ⟨hchains, hnodes⟩ := hs
  cases hp with
  | chainCreated hid hmakes =>
    exact ⟨hchains.append_created hid hmakes, hnodes.append_other (by simp) (by simp) (by simp)⟩
  | nodeCreated hid hmakes hnext hname =>
    exact ⟨hchains.append_other (by simp) (by simp),
      hnodes.append_created hid hmakes hnext hname⟩
  | linked hrow => exact ⟨hchains.append_other (by simp) (by simp), hnodes.append_linked hrow⟩
  | chainDeleted => exact ⟨hchains.append_deleted _, hnodes.append_deleted _⟩
  | nodeMissed | chainMissed | refused =>
    exact ⟨hchains.append_other (by simp) (by simp),
      hnodes.append_other (by simp) (by simp) (by simp)⟩

end History

namespace Store

theorem play_append_singleton (s : Store) (calls : List Call) (call : Call) :
    s.play (calls ++ [call]) =
      let (after, h) := s.play calls
      ((after.perform call).1, h ++ [(call, (after.perform call).2)]) := by
  induction calls generalizing s with
  | nil => rfl
  | cons first rest ih => simp only [List.cons_append, play, ih]

/-- Something holds of every one of some calls, and of the calls before it. -/
def Throughout (P : List Call → Call → Prop) (calls : List Call) : Prop :=
  ∀ before call after, calls = before ++ call :: after → P before call

theorem throughout_nil {P : List Call → Call → Prop} : Throughout P [] := by
  intro before call after h
  cases before <;> cases h

theorem throughout_append_singleton {P : List Call → Call → Prop} {calls : List Call}
    {call : Call} : Throughout P (calls ++ [call]) ↔ Throughout P calls ∧ P calls call := by
  constructor
  · intro h
    refine ⟨fun before first after heq => h before first (after ++ [call]) ?_, h calls call [] rfl⟩
    rw [heq, List.append_assoc, List.cons_append]
  · rintro ⟨hcalls, hcall⟩ before first after heq
    rcases List.eq_nil_or_concat' after with rfl | ⟨rest, last, rfl⟩
    · obtain ⟨rfl, h⟩ := List.append_inj' heq rfl
      cases h
      exact hcall
    · rw [← List.cons_append, ← List.append_assoc] at heq
      obtain ⟨rfl, -⟩ := List.append_inj' heq rfl
      exact hcalls before first rest rfl

theorem reflects_play (calls : List Call) :
    (empty.play calls).2.Reflects (empty.play calls).1 := by
  induction calls using List.reverseRecOn with
  | nil => exact ⟨History.reflectsChains_nil, History.reflectsNodes_nil⟩
  | append_singleton calls call ih =>
    rw [play_append_singleton]
    exact ih.performs (performs_perform _ call)

end Store

end EventChain
