import EventChain.Store.History
import Mathlib.Data.List.Basic

/-!
# One more call

What one more call adds to what a history tells: a creation one chain or one node at the end, a
link the new link of one node, and the deletion of a chain takes it and its nodes away.
-/

namespace EventChain.History

open Store (Call Event)

variable {h : History} {entry : Call × Event} {chain : Int}

@[simp] theorem deletes_nil : deletes chain [] = false := rfl

@[simp] theorem deletes_append_singleton :
    deletes chain (h ++ [entry]) = (deletes chain h || entry.2.deletes chain) := by
  simp [deletes]

@[simp] theorem linkOf_nil {node : Int} {link : Option Int} : linkOf node link [] = link := rfl

@[simp] theorem linkOf_append_singleton {node : Int} {link : Option Int} :
    linkOf node link (h ++ [entry]) = linkAfter node (linkOf node link h) entry := by
  simp [linkOf]

theorem chains_append_singleton :
    chains (h ++ [entry]) = (chains h).filter (!entry.2.deletes ·.2.id) ++ chains [entry] := by
  fun_induction chains h with
  | case1 => rfl
  | case2 draft row later hdeleted ih =>
    rw [List.cons_append, chains, deletes_append_singleton, hdeleted]
    exact ih
  | case3 draft row later hkept ih =>
    rw [List.cons_append, chains, deletes_append_singleton, Bool.eq_false_iff.mpr hkept, ih,
      List.filter_cons]
    cases entry.2.deletes row.id <;> rfl
  | case4 first later hother ih =>
    rw [List.cons_append, chains]
    · exact ih
    · exact hother

def relink (entry : Call × Event) (p : NodeDraft × NodeRow) : NodeDraft × NodeRow :=
  (p.1, { p.2 with next := linkAfter p.2.id p.2.next entry })

theorem nodes_append_singleton :
    nodes chain (h ++ [entry]) =
      if entry.2.deletes chain then []
      else (nodes chain h).map (relink entry) ++ nodes chain [entry] := by
  fun_induction nodes chain h with
  | case1 =>
    rw [List.nil_append, List.map_nil, List.nil_append]
    split
    · next hdeletes =>
      obtain ⟨call, event⟩ := entry
      cases event with
      | chainDeleted id => cases call <;> rfl
      | _ => cases hdeletes
    · rfl
  | case2 draft row later hkept ih =>
    rw [List.cons_append, nodes, deletes_append_singleton, ih]
    cases entry.2.deletes chain <;> simp [hkept, relink]
  | case3 draft row later hgone ih =>
    have hgone' : ¬ (row.chain = chain ∧ ¬ deletes chain (later ++ [entry]) = true) := by
      rintro ⟨hown, hkept⟩
      rw [deletes_append_singleton, Bool.or_eq_true, not_or] at hkept
      exact hgone ⟨hown, hkept.1⟩
    rw [List.cons_append, nodes, if_neg hgone']
    exact ih
  | case4 first later hother ih =>
    rw [List.cons_append, nodes]
    · exact ih
    · exact hother

/-! ## By events -/

section
variable {call : Call} {event : Event}

theorem chains_append_created {draft : ChainDraft} {row : ChainRow} :
    chains (h ++ [(.createChain draft, .chainCreated row)]) = chains h ++ [(draft, row)] := by
  simp [chains_append_singleton, Event.deletes, chains]

theorem chains_append_deleted :
    chains (h ++ [(call, .chainDeleted chain)]) = (chains h).filter (·.2.id ≠ chain) := by
  simp [chains_append_singleton, Event.deletes, chains, eq_comm]

theorem chains_append_other (hcreated : ∀ row, event ≠ .chainCreated row)
    (hdeleted : ∀ id, event ≠ .chainDeleted id) :
    chains (h ++ [(call, event)]) = chains h := by
  have hkept (id : Int) : event.deletes id = false := by
    cases event with
    | chainDeleted id => exact absurd rfl (hdeleted id)
    | _ => rfl
  have hnone : chains [(call, event)] = [] := by
    rw [chains]
    · rfl
    · rintro draft row ⟨-, rfl⟩
      exact hcreated row rfl
  simp [chains_append_singleton, hkept, hnone]

theorem relink_eq_self (hlinked : ∀ row, event ≠ .linked row) (p : NodeDraft × NodeRow) :
    relink (call, event) p = p := by
  unfold relink
  rw [linkAfter]
  rintro id next row ⟨-, rfl⟩
  exact hlinked row rfl

theorem nodes_append_created {draft : NodeDraft} {row : NodeRow} (hnext : row.next = draft.next) :
    nodes chain (h ++ [(.createNode draft, .nodeCreated row)]) =
      nodes chain h ++ if row.chain = chain then [(draft, row)] else [] := by
  have hrow : { row with next := draft.next } = row := by rw [← hnext]
  have hself : relink (.createNode draft, .nodeCreated row) = id :=
    funext (relink_eq_self nofun)
  simp [nodes_append_singleton, Event.deletes, nodes, hself, hrow]

theorem nodes_append_linked {node : Int} {next : Option Int} {row : NodeRow} :
    nodes chain (h ++ [(.link node next, .linked row)]) =
      (nodes chain h).map (relink (.link node next, .linked row)) := by
  simp [nodes_append_singleton, Event.deletes, nodes]

theorem nodes_append_deleted {gone : Int} :
    nodes chain (h ++ [(call, .chainDeleted gone)]) =
      if gone = chain then [] else nodes chain h := by
  have hself : relink (call, .chainDeleted gone) = id := funext (relink_eq_self nofun)
  simp [nodes_append_singleton, Event.deletes, nodes, hself]

theorem nodes_append_other (hcreated : ∀ row, event ≠ .nodeCreated row)
    (hlinked : ∀ row, event ≠ .linked row) (hdeleted : ∀ id, event ≠ .chainDeleted id) :
    nodes chain (h ++ [(call, event)]) = nodes chain h := by
  have hkept : event.deletes chain = false := by
    cases event with
    | chainDeleted id => exact absurd rfl (hdeleted id)
    | _ => rfl
  have hnone : nodes chain [(call, event)] = [] := by
    rw [nodes]
    · rfl
    · rintro draft row ⟨-, rfl⟩
      exact hcreated row rfl
  have hself : relink (call, event) = id := funext (relink_eq_self hlinked)
  simp [nodes_append_singleton, hkept, hnone, hself]

end

end EventChain.History
