import EventChain.Condition.Evaluation

/-!
# The fields of a condition

A condition reads a record by looking up the fields of its leaves, and no further: where two records
have the same values there, it holds of both, of neither, or fails on both in the same way
(`holds_congr`).
-/

namespace EventChain.Condition

mutual

def fields : Condition → List String
  | .leaf l => [l.field]
  | .compound _ parts _ => partFields parts
  | .misplaced _ => []

def partFields : List Condition → List String
  | [] => []
  | c :: rest => c.fields ++ partFields rest

end

variable {r r' : Record}

mutual

theorem holds_congr (now : Timestamp) (c : Condition)
    (h : ∀ name ∈ c.fields, r.lookup name = r'.lookup name) : c.holds now r = c.holds now r' := by
  cases c with
  | leaf l => rw [holds, holds, Leaf.holds, Leaf.holds, h l.field (by simp [fields])]
  | compound connective parts path =>
    rw [fields] at h
    cases connective with
    | all => rw [holds, holds, allHold_congr now parts h]
    | any => rw [holds, holds, anyHolds_congr now parts h]
  | misplaced v => rfl

theorem allHold_congr (now : Timestamp) (parts : List Condition)
    (h : ∀ name ∈ partFields parts, r.lookup name = r'.lookup name) :
    allHold now r parts = allHold now r' parts := by
  cases parts with
  | nil => rfl
  | cons c rest =>
    rw [partFields, List.forall_mem_append] at h
    rw [allHold, allHold, holds_congr now c h.1, allHold_congr now rest h.2]

theorem anyHolds_congr (now : Timestamp) (parts : List Condition)
    (h : ∀ name ∈ partFields parts, r.lookup name = r'.lookup name) :
    anyHolds now r parts = anyHolds now r' parts := by
  cases parts with
  | nil => rfl
  | cons c rest =>
    rw [partFields, List.forall_mem_append] at h
    rw [anyHolds, anyHolds, holds_congr now c h.1, anyHolds_congr now rest h.2]

end

end EventChain.Condition
