import EventChain.Proofs.Route.Walk

/-!
# The order of a route

`Enumerates nodes order` says that `order` holds all nodes, each once, so that each links to the
next and the last has no link. There is at most one such order (`Enumerates.unique`), its first
node is the one that no link leads to (`Enumerates.isHead_iff`), and where there is one the links
have no cycle (`Enumerates.not_onCycle`).
-/

namespace EventChain.Route

variable {nodes order : List Node}

/-- All nodes, each once, in the order of their links; the last one has none. -/
structure Enumerates (nodes order : List Node) : Prop where
  perm : order.Perm nodes
  linked : order.IsChain fun a b => a.next = b.id
  ends : ∀ last ∈ order.getLast?, last.next = .null

theorem OnCycle.next {a b : Value} (hd : Distinct nodes) (h : OnCycle nodes a)
    (hl : Link nodes a b) : OnCycle nodes b := by
  obtain ⟨c, hac, hca⟩ := Relation.TransGen.head'_iff.mp h
  cases hac.unique hd hl
  exact .tail' hca hl

theorem OnCycle.exists_node {a : Value} (h : OnCycle nodes a) : ∃ node ∈ nodes, node.id = a := by
  obtain ⟨c, ⟨node, hn, hid, -⟩, -⟩ := Relation.TransGen.head'_iff.mp h
  exact ⟨node, hn, hid⟩

theorem not_onCycle_of_next_null (hk : Keyed nodes) (hd : Distinct nodes) {node : Node}
    (hn : node ∈ nodes) (hnull : node.next = .null) : ¬ OnCycle nodes node.id := by
  intro h
  obtain ⟨other, ho, hid⟩ := (h.next hd ⟨node, hn, rfl, hnull⟩).exists_node
  exact (hk other ho).1.ne_null hid

/-- Backwards along the order: the last node lies on no cycle, and no node that links to one that
lies on none does. -/
theorem Enumerates.not_onCycle (hk : Keyed nodes) (hd : Distinct nodes)
    (h : Enumerates nodes order) (id : Value) : ¬ OnCycle nodes id := by
  have hall : ∀ node ∈ order, ¬ OnCycle nodes node.id := by
    refine (List.IsChain.iff_mem.mp h.linked).backwards_induction
      (fun node => ¬ OnCycle nodes node.id) order ?_ ?_
    · rintro a b ⟨ha, -, hab⟩ hb hcyc
      exact hb (hcyc.next hd ⟨a, h.perm.mem_iff.mp ha, rfl, hab⟩)
    · intro hne
      exact not_onCycle_of_next_null hk hd (h.perm.mem_iff.mp (List.getLast_mem hne))
        (h.ends _ (List.getLast?_eq_some_getLast hne))
  intro hcyc
  obtain ⟨node, hn, rfl⟩ := hcyc.exists_node
  exact hall node (h.perm.mem_iff.mpr hn) hcyc

/-! ## Uniqueness -/

/-- Orders that start at one node and follow its links to an end are the same. -/
theorem eq_of_linked (hk : Keyed nodes) (hd : Distinct nodes) {node : Node} {a b : List Node}
    (ha : ∀ n ∈ node :: a, n ∈ nodes) (hb : ∀ n ∈ node :: b, n ∈ nodes)
    (hla : (node :: a).IsChain fun m n => m.next = n.id)
    (hlb : (node :: b).IsChain fun m n => m.next = n.id)
    (hea : ∀ last ∈ (node :: a).getLast?, last.next = .null)
    (heb : ∀ last ∈ (node :: b).getLast?, last.next = .null) : a = b := by
  induction a generalizing node b with
  | nil =>
    have hnull : node.next = .null := hea node rfl
    cases b with
    | nil => rfl
    | cons n b =>
      have hn := (List.isChain_cons_cons.mp hlb).1
      exact absurd (hn.symm.trans hnull) (hk n (hb n (by simp))).1.ne_null
  | cons m a ih =>
    obtain ⟨hm, hla⟩ := List.isChain_cons_cons.mp hla
    cases b with
    | nil =>
      have hnull : node.next = .null := heb node rfl
      exact absurd (hm.symm.trans hnull) (hk m (ha m (by simp))).1.ne_null
    | cons n b =>
      obtain ⟨hn, hlb⟩ := List.isChain_cons_cons.mp hlb
      cases hd.eq_of_id (ha m (by simp)) (hb n (by simp)) (hm.symm.trans hn)
      rw [ih (fun k h => ha k (List.mem_cons_of_mem _ h))
        (fun k h => hb k (List.mem_cons_of_mem _ h)) hla hlb (by simpa using hea)
        (by simpa using heb)]

theorem linked_next {node : Node} {rest : List Node}
    (hl : (node :: rest).IsChain fun m n => m.next = n.id) {m : Node} (hm : m ∈ node :: rest) :
    (node :: rest).getLast? = some m ∨ ∃ n ∈ rest, m.next = n.id := by
  induction rest generalizing node with
  | nil => simp_all
  | cons next rest ih =>
    obtain ⟨hnext, hl⟩ := List.isChain_cons_cons.mp hl
    rcases List.mem_cons.mp hm with rfl | hm
    · exact .inr ⟨next, List.mem_cons_self, hnext⟩
    · rcases ih hl hm with hlast | ⟨n, hn, heq⟩
      · exact .inl (by simpa using hlast)
      · exact .inr ⟨n, List.mem_cons_of_mem _ hn, heq⟩

theorem linked_back {node : Node} {rest : List Node}
    (hl : (node :: rest).IsChain fun m n => m.next = n.id) {n : Node} (hn : n ∈ rest) :
    ∃ m ∈ node :: rest, m.next = n.id := by
  induction rest generalizing node with
  | nil => cases hn
  | cons next rest ih =>
    obtain ⟨hnext, hl⟩ := List.isChain_cons_cons.mp hl
    rcases List.mem_cons.mp hn with rfl | hn
    · exact ⟨node, List.mem_cons_self, hnext⟩
    · obtain ⟨m, hm, heq⟩ := ih hl hn
      exact ⟨m, List.mem_cons_of_mem _ hm, heq⟩

theorem Enumerates.isHead_iff (hk : Keyed nodes) (hd : Distinct nodes) {first : Node}
    {rest : List Node} (h : Enumerates nodes (first :: rest)) {node : Node} (hn : node ∈ nodes) :
    IsHead nodes node ↔ node = first := by
  constructor
  · intro hhead
    rcases List.mem_cons.mp (h.perm.mem_iff.mpr hn) with rfl | hrest
    · rfl
    · obtain ⟨m, hm, hlink⟩ := linked_back h.linked hrest
      exact absurd hlink (hhead m (h.perm.mem_iff.mp hm))
  · rintro rfl m hm hlink
    rcases linked_next h.linked (h.perm.mem_iff.mpr hm) with hlast | ⟨n, hrest, heq⟩
    · exact (hk node hn).1.ne_null (hlink.symm.trans (h.ends m hlast))
    · have hsame := hd.eq_of_id (h.perm.mem_iff.mp (List.mem_cons_of_mem _ hrest)) hn
        (heq.symm.trans hlink)
      have hnd : (node :: rest).Nodup := h.perm.nodup_iff.mpr (List.Nodup.of_map _ hd)
      exact (List.nodup_cons.mp hnd).1 (hsame ▸ hrest)

theorem Enumerates.unique (hk : Keyed nodes) (hd : Distinct nodes) {a b : List Node}
    (ha : Enumerates nodes a) (hb : Enumerates nodes b) : a = b := by
  cases a with
  | nil => simpa [← ha.perm.nil_eq] using hb.perm
  | cons m a =>
    cases b with
    | nil => simpa [← hb.perm.nil_eq] using ha.perm
    | cons n b =>
      have hm : m ∈ nodes := ha.perm.mem_iff.mp List.mem_cons_self
      cases (hb.isHead_iff hk hd hm).mp ((ha.isHead_iff hk hd hm).mpr rfl)
      rw [eq_of_linked hk hd (fun k => ha.perm.mem_iff.mp) (fun k => hb.perm.mem_iff.mp)
        ha.linked hb.linked ha.ends hb.ends]

end EventChain.Route
