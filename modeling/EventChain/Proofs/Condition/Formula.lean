import EventChain.Proofs.Condition.WellFormed
import Mathlib.Data.List.Forall2

/-!
# The formula of a condition

A condition is an and/or formula over its leaves. `Condition.formula` is its value where every
leaf has an answer, looked at or not; `WellFormed.holds_eq_formula` says that an evaluation, which
stops at the first part that settles a connective, comes to the same.
-/

namespace EventChain.Condition

mutual

def leaves : Condition → List Leaf
  | .leaf l => [l]
  | .compound _ parts _ => allLeaves parts
  | .misplaced _ => []

def allLeaves : List Condition → List Leaf
  | [] => []
  | c :: rest => c.leaves ++ allLeaves rest

end

theorem allLeaves_eq_flatMap (parts : List Condition) : allLeaves parts = parts.flatMap leaves := by
  induction parts with
  | nil => rfl
  | cons c rest ih => rw [allLeaves, ih, List.flatMap_cons]

mutual

/-- The value of the and/or formula of a condition under answers of its leaves. -/
def formula (answer : Leaf → Bool) : Condition → Bool
  | .leaf l => answer l
  | .compound .all parts _ => conjunction answer parts
  | .compound .any parts _ => disjunction answer parts
  | .misplaced _ => false

def conjunction (answer : Leaf → Bool) : List Condition → Bool
  | [] => true
  | c :: rest => c.formula answer && conjunction answer rest

def disjunction (answer : Leaf → Bool) : List Condition → Bool
  | [] => false
  | c :: rest => c.formula answer || disjunction answer rest

end

/-! ## Leaves of well-formed conditions -/

mutual

theorem WellFormed.shaped {c : Condition} (h : c.WellFormed) : ∀ leaf ∈ c.leaves, leaf.Shaped := by
  cases c with
  | leaf l =>
    intro other ho
    cases List.mem_singleton.mp ho
    exact h
  | compound connective parts path => exact AllWellFormed.shaped h
  | misplaced v => exact h.elim

theorem AllWellFormed.shaped {parts : List Condition} (h : AllWellFormed parts) :
    ∀ leaf ∈ allLeaves parts, leaf.Shaped := by
  cases parts with
  | nil =>
    intro leaf hl
    cases hl
  | cons c rest =>
    intro leaf hl
    rcases List.mem_append.mp hl with hl | hl
    · exact WellFormed.shaped h.1 leaf hl
    · exact AllWellFormed.shaped h.2 leaf hl

end

/-! ## Evaluation -/

section
variable {α : Type} {now : Timestamp} {r : Record} {answer : α → Bool} {xs : List α}
  {parts : List Condition}

/-! Parts that have answers in their order. -/

theorem allHold_of_forall₂
    (h : List.Forall₂ (fun x c => c.holds now r = .ok (answer x)) xs parts) :
    allHold now r parts = .ok (xs.all answer) := by
  induction h with
  | nil => rfl
  | @cons x c xs parts hc _ ih =>
    rw [allHold, hc, List.all_cons]
    cases answer x with
    | true => exact ih
    | false => rfl

theorem anyHolds_of_forall₂
    (h : List.Forall₂ (fun x c => c.holds now r = .ok (answer x)) xs parts) :
    anyHolds now r parts = .ok (xs.any answer) := by
  induction h with
  | nil => rfl
  | @cons x c xs parts hc _ ih =>
    rw [anyHolds, hc, List.any_cons]
    cases answer x with
    | true => rfl
    | false => exact ih

end

mutual

theorem WellFormed.holds_eq_formula {now : Timestamp} {r : Record} {answer : Leaf → Bool}
    {c : Condition} (h : c.WellFormed)
    (ha : ∀ leaf ∈ c.leaves, leaf.holds now r = .ok (answer leaf)) :
    c.holds now r = .ok (c.formula answer) := by
  cases c with
  | leaf l => exact ha l (List.mem_singleton_self l)
  | compound connective parts path =>
    cases connective with
    | all => exact AllWellFormed.allHold_eq_conjunction h ha
    | any => exact AllWellFormed.anyHolds_eq_disjunction h ha
  | misplaced v => exact h.elim

theorem AllWellFormed.allHold_eq_conjunction {now : Timestamp} {r : Record}
    {answer : Leaf → Bool} {parts : List Condition} (h : AllWellFormed parts)
    (ha : ∀ leaf ∈ allLeaves parts, leaf.holds now r = .ok (answer leaf)) :
    allHold now r parts = .ok (conjunction answer parts) := by
  cases parts with
  | nil => rfl
  | cons c rest =>
    have hc := WellFormed.holds_eq_formula h.1 fun leaf hl => ha leaf (List.mem_append_left _ hl)
    rw [allHold, hc, conjunction]
    cases c.formula answer with
    | true =>
      exact AllWellFormed.allHold_eq_conjunction h.2 fun leaf hl =>
        ha leaf (List.mem_append_right _ hl)
    | false => rfl

theorem AllWellFormed.anyHolds_eq_disjunction {now : Timestamp} {r : Record}
    {answer : Leaf → Bool} {parts : List Condition} (h : AllWellFormed parts)
    (ha : ∀ leaf ∈ allLeaves parts, leaf.holds now r = .ok (answer leaf)) :
    anyHolds now r parts = .ok (disjunction answer parts) := by
  cases parts with
  | nil => rfl
  | cons c rest =>
    have hc := WellFormed.holds_eq_formula h.1 fun leaf hl => ha leaf (List.mem_append_left _ hl)
    rw [anyHolds, hc, disjunction]
    cases c.formula answer with
    | true => rfl
    | false =>
      exact AllWellFormed.anyHolds_eq_disjunction h.2 fun leaf hl =>
        ha leaf (List.mem_append_right _ hl)

end

end EventChain.Condition
