import EventChain.Proofs.Route.Links
import Mathlib.Data.List.Chain

/-!
# Following the links

`Trail nodes visited` says that the places in `visited`, the latest first, are places of nodes
under their identifiers and that each is linked from the one before it. `follow_followed` states
what following the links from a place comes to: a trail without repetition whose latest node has
no link, a cycle, or more nodes than the limit. As many steps as nodes suffice, so the bound on
the steps is never met (`follow_add`).
-/

namespace EventChain.Route

variable {nodes : List Node}

/-- Places of nodes with the identifiers under which they were reached, the latest first. -/
structure Trail (nodes : List Node) (visited : List (Value × Nat)) : Prop where
  named : ∀ p ∈ visited, ∃ node, nodes[p.2]? = some node ∧ node.id = p.1
  linked : visited.IsChain fun p q => Link nodes q.1 p.1

theorem Trail.lt_length {visited : List (Value × Nat)} (h : Trail nodes visited) {p : Value × Nat}
    (hp : p ∈ visited) : p.2 < nodes.length := by
  obtain ⟨node, hn, -⟩ := h.named p hp
  exact (List.getElem?_eq_some_iff.mp hn).1

theorem Trail.cons {id next : Value} {i j : Nat} {visited : List (Value × Nat)} {node other : Node}
    (h : Trail nodes ((id, i) :: visited)) (hn : nodes[i]? = some node) (hnext : node.next = next)
    (ho : nodes[j]? = some other) (hid : other.id = next) :
    Trail nodes ((next, j) :: (id, i) :: visited) where
  named := List.forall_mem_cons.mpr ⟨⟨other, ho, hid⟩, h.named⟩
  linked := by
    obtain ⟨node', hn', hid'⟩ := h.named (id, i) List.mem_cons_self
    rw [hn] at hn'
    cases hn'
    exact h.linked.cons_cons ⟨node, List.mem_of_getElem? hn, hid', hnext⟩

theorem Trail.tail {p : Value × Nat} {visited : List (Value × Nat)}
    (h : Trail nodes (p :: visited)) : Trail nodes visited where
  named q hq := h.named q (List.mem_cons_of_mem _ hq)
  linked := h.linked.tail

theorem Trail.reached {id : Value} {i : Nat} {visited : List (Value × Nat)}
    (h : Trail nodes ((id, i) :: visited)) :
    ∀ p ∈ visited, Relation.TransGen (Link nodes) p.1 id := by
  induction visited generalizing id i with
  | nil => simp
  | cons q rest ih =>
    have hlink : Link nodes q.1 id := (List.isChain_cons_cons.mp h.linked).1
    intro p hp
    rcases List.mem_cons.mp hp with rfl | hp
    · exact .single hlink
    · exact (ih h.tail p hp).tail hlink

theorem Trail.onCycle {id : Value} {i : Nat} {visited : List (Value × Nat)}
    (h : Trail nodes ((id, i) :: visited)) (hrep : i ∈ visited.map (·.2)) : OnCycle nodes id := by
  obtain ⟨p, hp, rfl⟩ := List.mem_map.mp hrep
  obtain ⟨m, hm, hmid⟩ := h.named _ List.mem_cons_self
  obtain ⟨n, hn, hnid⟩ := h.named p (List.mem_cons_of_mem _ hp)
  have hsame : p.1 = id := by
    rw [← hnid, ← Option.some.inj (hm.symm.trans hn), hmid]
  have hreach := h.reached p hp
  rwa [hsame] at hreach

theorem length_le_of_nodup {n : Nat} {places : List Nat} (hlt : ∀ i ∈ places, i < n)
    (hnd : places.Nodup) : places.length ≤ n := by
  have hsub : places ⊆ List.range n := fun i hi => List.mem_range.mpr (hlt i hi)
  simpa using (hnd.subperm hsub).length_le

theorem Trail.length_le {visited : List (Value × Nat)} (h : Trail nodes visited)
    (hnd : (visited.map (·.2)).Nodup) : visited.length ≤ nodes.length := by
  have hlt : ∀ i ∈ visited.map (·.2), i < nodes.length := by
    intro i hi
    obtain ⟨p, hp, rfl⟩ := List.mem_map.mp hi
    exact h.lt_length hp
  simpa using length_le_of_nodup hlt hnd

/-! ## The outcome -/

inductive Followed (chain : Chain) (nodes : List Node) (limit : Int)
    (start : List (Value × Nat)) : Except Failure (List (Value × Nat)) → Prop
  | ended {visited : List (Value × Nat)} : Trail nodes visited → (visited.map (·.2)).Nodup →
      start <:+ visited → visited.length ≤ limit →
      (∀ p ∈ visited.head?, ∃ node, nodes[p.2]? = some node ∧ node.next = .null) →
      Followed chain nodes limit start (.ok visited.reverse)
  | loop {id : Value} : OnCycle nodes id →
      Followed chain nodes limit start (refuseCycle chain (.loop chain.id id) id)
  | tooMany {id : Value} : (∃ node ∈ nodes, node.id = id) → limit < nodes.length →
      Followed chain nodes limit start (refuseCycle chain (.tooManyNodes chain.id limit) id)

theorem Followed.of_ok {chain : Chain} {limit : Int} {start order : List (Value × Nat)}
    {result : Except Failure (List (Value × Nat))} (h : Followed chain nodes limit start result)
    (hr : result = .ok order) :
    ∃ visited, order = visited.reverse ∧ Trail nodes visited ∧ (visited.map (·.2)).Nodup ∧
      start <:+ visited ∧ visited.length ≤ limit ∧
      ∀ p ∈ visited.head?, ∃ node, nodes[p.2]? = some node ∧ node.next = .null := by
  cases h with
  | ended ht hnd hs hl hend => exact ⟨_, (Except.ok.inj hr).symm, ht, hnd, hs, hl, hend⟩
  | loop => simp at hr
  | tooMany => simp at hr

theorem Followed.of_cons {chain : Chain} {limit : Int} {p : Value × Nat}
    {start : List (Value × Nat)} {result : Except Failure (List (Value × Nat))}
    (h : Followed chain nodes limit (p :: start) result) :
    Followed chain nodes limit start result := by
  cases h with
  | ended ht hnd hs hl hend => exact .ended ht hnd ((List.suffix_cons p start).trans hs) hl hend
  | loop hc => exact .loop hc
  | tooMany hid hl => exact .tooMany hid hl

theorem any_place_eq {visited : List (Value × Nat)} {i : Nat} :
    visited.any (·.2 = i) = true ↔ i ∈ visited.map (·.2) := by
  simp

/-- Induction on the steps. The places visited do not repeat, so as many steps are left as there
are nodes not yet visited. -/
theorem follow_followed {chain : Chain} {limit : Int} (hk : Keyed nodes) (hc : Closed nodes)
    {steps : Nat} : ∀ {id : Value} {i : Nat} {visited : List (Value × Nat)},
    Trail nodes ((id, i) :: visited) → (visited.map (·.2)).Nodup →
    nodes.length ≤ steps + visited.length →
    Followed chain nodes limit ((id, i) :: visited)
      (follow chain nodes limit steps id i visited) := by
  induction steps using Nat.strong_induction_on with
  | _ steps ih =>
  intro id i visited ht hnd hlen
  obtain ⟨node, hn, hid⟩ := ht.named (id, i) List.mem_cons_self
  simp only at hn hid
  have hmem : node ∈ nodes := List.mem_of_getElem? hn
  have hkey : id.IsKey := hid ▸ (hk node hmem).1
  unfold follow
  rw [if_neg (by simp [hkey.isNull])]
  by_cases hrep : i ∈ visited.map (·.2)
  · rw [if_pos (any_place_eq.mpr hrep)]
    exact .loop (ht.onCycle hrep)
  rw [if_neg (by rwa [any_place_eq])]
  have hnd' : (((id, i) :: visited).map (·.2)).Nodup := List.nodup_cons.mpr ⟨hrep, hnd⟩
  have hle : visited.length + 1 ≤ nodes.length := ht.length_le hnd'
  by_cases hlim : limit ≤ visited.length
  · rw [if_pos hlim]
    exact .tooMany ⟨node, hmem, hid⟩ (by omega)
  rw [if_neg hlim]
  simp only [hn]
  have hended (hnull : node.next = .null) :
      Followed chain nodes limit ((id, i) :: visited) (.ok ((id, i) :: visited).reverse) :=
    .ended ht hnd' (List.suffix_refl _) (by simp only [List.length_cons]; omega)
      (by simp only [List.head?_cons, Option.mem_some_iff, forall_eq']; exact ⟨node, hn, hnull⟩)
  cases steps with
  | zero => omega
  | succ steps =>
    cases hidx : indexOf? nodes node.next with
    | none =>
      refine hended ((hc node hmem).resolve_right ?_)
      rintro ⟨other, ho, heq⟩
      exact (indexOf?_eq_none hk (hk node hmem).2).mp hidx other ho heq
    | some j =>
      obtain ⟨other, ho, heq⟩ := indexOf?_eq_some hk (hk node hmem).2 hidx
      exact (ih steps (by omega) (ht.cons hn rfl ho heq) hnd' (by
        simp only [List.length_cons]; omega)).of_cons

/-- More steps than nodes not yet visited change nothing: following the links has ended before. -/
theorem follow_add {chain : Chain} {limit : Int} {extra steps : Nat} :
    ∀ {id : Value} {i : Nat} {visited : List (Value × Nat)}, i < nodes.length →
    (∀ j ∈ visited.map (·.2), j < nodes.length) → (visited.map (·.2)).Nodup →
    nodes.length ≤ steps + visited.length →
    follow chain nodes limit (steps + extra) id i visited =
      follow chain nodes limit steps id i visited := by
  induction steps with
  | zero =>
    intro id i visited hi hlt hnd hlen
    -- All places are visited, so the walk is at one of them again.
    have hrep : i ∈ visited.map (·.2) := by
      by_contra hrep
      have hle := length_le_of_nodup (List.forall_mem_cons.mpr ⟨hi, hlt⟩)
        (List.nodup_cons.mpr ⟨hrep, hnd⟩)
      simp only [List.length_cons, List.length_map] at hle
      omega
    unfold follow
    rw [if_pos (any_place_eq.mpr hrep), if_pos (any_place_eq.mpr hrep)]
  | succ steps ih =>
    intro id i visited hi hlt hnd hlen
    rw [Nat.add_right_comm]
    unfold follow
    by_cases hnull : id.isNull = true
    · rw [if_pos hnull, if_pos hnull]
    rw [if_neg hnull, if_neg hnull]
    by_cases hrep : i ∈ visited.map (·.2)
    · rw [if_pos (any_place_eq.mpr hrep), if_pos (any_place_eq.mpr hrep)]
    have hany : ¬ visited.any (·.2 = i) = true := by rwa [any_place_eq]
    rw [if_neg hany, if_neg hany]
    by_cases hlim : limit ≤ visited.length
    · rw [if_pos hlim, if_pos hlim]
    rw [if_neg hlim, if_neg hlim]
    simp only [List.getElem?_eq_getElem hi]
    cases hidx : indexOf? nodes nodes[i].next with
    | none => rfl
    | some j =>
      obtain ⟨hj, -, -⟩ := List.findIdx?_eq_some_iff_getElem.mp hidx
      exact ih hj (List.forall_mem_cons.mpr ⟨hi, hlt⟩) (List.nodup_cons.mpr ⟨hrep, hnd⟩)
        (by simp only [List.length_cons]; omega)

end EventChain.Route
