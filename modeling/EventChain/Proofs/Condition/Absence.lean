import EventChain.Proofs.Condition.Formula
import EventChain.Proofs.Condition.Grammar
import EventChain.Proofs.Value.Identifier

/-!
# Conditions on fields that are absent

A field that is null, or absent, satisfies no operator but those about presence
(`Leaf.holds_of_null`). A condition that was read has no compound without parts, so where all its
leaves have one answer, that is the answer of the whole (`Mirrors.holds_of_leaves`): absent data
satisfies no condition. Where a part of the data is absent, the leaves on it might as well be ones
that never hold (`read_absent`).
-/

namespace EventChain

namespace Leaf

variable {leaf : Leaf} {now : Timestamp} {r : Record}

theorem holds_of_null (h : r.lookup leaf.field = .null) (hop : leaf.op.isPresence = false) :
    leaf.holds now r = .ok false := by
  rw [holds, h]
  cases hleaf : leaf.op with
  | isNull | isNotNull | isEmpty | isNotEmpty =>
    rw [hleaf] at hop
    cases hop
  | _ => rfl

theorem holds_of_ne_null (h : r.lookup leaf.field ≠ .null) :
    leaf.holds now r = leaf.holdsOf now (r.lookup leaf.field) := by
  simp only [holds, Value.isNull_eq_false h]
  rfl

/-- The leaf, or another one in its place where its field is null and its operator is not about
presence. -/
def unlessAbsent (r : Record) (other : Leaf → Leaf) (leaf : Leaf) : Leaf :=
  if !leaf.op.isPresence && (r.lookup leaf.field).isNull then other leaf else leaf

theorem holds_unlessAbsent {other : Leaf → Leaf} (h : ∀ l, (other l).holds now r = .ok false)
    (leaf : Leaf) : (leaf.unlessAbsent r other).holds now r = leaf.holds now r := by
  unfold unlessAbsent
  split
  · next habsent =>
    rw [Bool.and_eq_true, Bool.not_eq_true', Value.isNull_iff] at habsent
    rw [h leaf, holds_of_null habsent.2 habsent.1]
  · rfl

/-- The leaf that asks for one of no values. -/
def amongNone (leaf : Leaf) : Leaf := { leaf with op := .isIn, operand := .array [] }

theorem holds_amongNone (leaf : Leaf) : leaf.amongNone.holds now r = .ok false := by
  by_cases h : r.lookup leaf.amongNone.field = .null
  · exact holds_of_null h rfl
  · rw [holds_of_ne_null h]
    rfl

end Leaf

namespace Condition

variable {now : Timestamp} {r : Record}

/-! ## Leaves that agree -/

theorem allHold_of_parts {answer : Bool} {parts : List Condition} (hfull : parts ≠ [])
    (h : ∀ c ∈ parts, c.holds now r = .ok answer) : allHold now r parts = .ok answer := by
  rw [allHold_of_forall₂ (List.forall₂_same.mpr h)]
  obtain ⟨c, rest, rfl⟩ := List.exists_cons_of_ne_nil hfull
  cases answer <;> simp

theorem anyHolds_of_parts {answer : Bool} {parts : List Condition} (hfull : parts ≠ [])
    (h : ∀ c ∈ parts, c.holds now r = .ok answer) : anyHolds now r parts = .ok answer := by
  rw [anyHolds_of_forall₂ (List.forall₂_same.mpr h)]
  obtain ⟨c, rest, rfl⟩ := List.exists_cons_of_ne_nil hfull
  cases answer <;> simp

/-- Where the leaves of a condition that was read all have one answer, the condition has it. -/
theorem Mirrors.holds_of_leaves {path : String} {config : Value} {c : Condition} {answer : Bool}
    (h : Mirrors path config c) (hleaves : ∀ leaf ∈ c.leaves, leaf.holds now r = .ok answer) :
    c.holds now r = .ok answer := by
  induction h with
  | leaf => exact hleaves _ (List.mem_singleton_self _)
  | @compound path entries connective items parts _ _ hfull hlength _ ih =>
    have hparts : ∀ c ∈ parts, c.holds now r = .ok answer := by
      intro c hc
      obtain ⟨i, hi, rfl⟩ := List.mem_iff_getElem.mp hc
      refine ih i items[i] parts[i] (List.getElem?_eq_getElem _) (List.getElem?_eq_getElem hi) ?_
      intro leaf hleaf
      rw [leaves, allLeaves_eq_flatMap] at hleaves
      exact hleaves leaf (List.mem_flatMap_of_mem hc hleaf)
    have hsome : parts ≠ [] := by
      rintro rfl
      exact hfull (List.length_eq_zero_iff.mp hlength.symm)
    cases connective with
    | all => exact allHold_of_parts hsome hparts
    | any => exact anyHolds_of_parts hsome hparts

/-! ## Leaves that are replaced -/

mutual

def mapLeaves (f : Leaf → Leaf) : Condition → Condition
  | .leaf l => .leaf (f l)
  | .compound connective parts path => .compound connective (mapParts f parts) path
  | .misplaced v => .misplaced v

def mapParts (f : Leaf → Leaf) : List Condition → List Condition
  | [] => []
  | c :: rest => c.mapLeaves f :: mapParts f rest

end

mutual

theorem holds_mapLeaves {f : Leaf → Leaf} (h : ∀ l : Leaf, (f l).holds now r = l.holds now r)
    (c : Condition) : (c.mapLeaves f).holds now r = c.holds now r := by
  cases c with
  | leaf l => exact h l
  | compound connective parts path =>
    cases connective with
    | all => exact allHold_mapParts h parts
    | any => exact anyHolds_mapParts h parts
  | misplaced v => rfl

theorem allHold_mapParts {f : Leaf → Leaf} (h : ∀ l : Leaf, (f l).holds now r = l.holds now r)
    (parts : List Condition) : allHold now r (mapParts f parts) = allHold now r parts := by
  cases parts with
  | nil => rfl
  | cons c rest => rw [mapParts, allHold, allHold, holds_mapLeaves h c, allHold_mapParts h rest]

theorem anyHolds_mapParts {f : Leaf → Leaf} (h : ∀ l : Leaf, (f l).holds now r = l.holds now r)
    (parts : List Condition) : anyHolds now r (mapParts f parts) = anyHolds now r parts := by
  cases parts with
  | nil => rfl
  | cons c rest => rw [mapParts, anyHolds, anyHolds, holds_mapLeaves h c, anyHolds_mapParts h rest]

end

/-! ## Absent data -/

/-- A condition that was read, without operators about presence, does not hold where all its fields
are null or absent. On any record, leaves on such fields may be replaced by ones that do not
hold. -/
theorem read_absent {config : Value} {c : Condition} (h : read config = .ok c) (now : Timestamp)
    (r : Record) :
    ((∀ leaf ∈ c.leaves, leaf.op.isPresence = false ∧ r.lookup leaf.field = .null) →
      c.holds now r = .ok false) ∧
    ∀ never : Leaf → Leaf, (∀ leaf, (never leaf).holds now r = .ok false) →
      (c.mapLeaves (Leaf.unlessAbsent r never)).holds now r = c.holds now r := by
  obtain ⟨decoded, -, hread⟩ := bind_eq_ok.mp h
  refine ⟨fun habsent => ?_, fun never hnever => holds_mapLeaves (Leaf.holds_unlessAbsent hnever) c⟩
  refine (mirrors_of_readAt hread).holds_of_leaves fun leaf hleaf => ?_
  obtain ⟨hop, hnull⟩ := habsent leaf hleaf
  exact Leaf.holds_of_null hnull hop

/-- A level that breaks off on its path and a name that is null, then the same name beside a
level. -/
theorem read_absent_level :
    let isLow : Record :=
      [("field", .text "tank.level"), ("operator", .text "<="), ("value", .int 3)]
    let isOther : Record :=
      [("field", .text "name"), ("operator", .text "notIn"), ("value", .array [])]
    let config : Value := .object [("type", .text "and"),
      ("expressions", .array [.object isLow, .object isOther])]
    let level : Leaf := ⟨"tank.level", .lessOrEqual, .int 3, partPath "" 0, none⟩
    let name : Leaf := ⟨"name", .notIn, .array [], partPath "" 1, none⟩
    let c : Condition := .compound .all [.leaf level, .leaf name] ""
    let now : Timestamp := ⟨⟨2024, 6, 1, by decide⟩, .midnight, some .utc⟩
    let absent : Record := [("tank", .object []), ("name", .null)]
    let r : Record := [("tank", .object [("level", .int 2)]), ("name", .null)]
    read config = .ok c ∧
      (∀ leaf ∈ c.leaves, leaf.op.isPresence = false ∧ absent.lookup leaf.field = .null) ∧
      c.holds now absent = .ok false ∧
      c.mapLeaves (Leaf.unlessAbsent r Leaf.amongNone) =
        .compound .all [.leaf level, .leaf name.amongNone] "" ∧
      (c.mapLeaves (Leaf.unlessAbsent r Leaf.amongNone)).holds now r = c.holds now r := by
  intro isLow isOther config level name c now absent r
  have hand : Joins [("type", .text "and"),
      ("expressions", .array [.object isLow, .object isOther])] .all := ⟨"and", rfl, by decide⟩
  have hread : read config = .ok c := by
    have hlow : readAt (partPath "" 0) (.object isLow) = .ok (.leaf level) := by
      rw [readAt]
      rfl
    have hother : readAt (partPath "" 1) (.object isOther) = .ok (.leaf name) := by
      rw [readAt]
      rfl
    exact readAt_pair hand rfl hlow hother
  have hnone : absent.lookup "tank.level" = .null := rfl
  have hleaves : ∀ leaf ∈ c.leaves,
      leaf.op.isPresence = false ∧ absent.lookup leaf.field = .null := by
    intro leaf hleaf
    simp only [c, leaves, allLeaves, List.cons_append, List.nil_append, List.mem_cons,
      List.not_mem_nil, or_false] at hleaf
    rcases hleaf with rfl | rfl
    · exact ⟨rfl, hnone⟩
    · exact ⟨rfl, rfl⟩
  have hreplaced : c.mapLeaves (Leaf.unlessAbsent r Leaf.amongNone) =
      .compound .all [.leaf level, .leaf name.amongNone] "" := by
    have htwo : r.lookup "tank.level" = .int 2 := rfl
    simp only [c, mapLeaves, mapParts, Leaf.unlessAbsent, level, htwo]
    rfl
  exact ⟨hread, hleaves, (read_absent hread now absent).1 hleaves, hreplaced,
    (read_absent hread now r).2 Leaf.amongNone Leaf.holds_amongNone⟩

end Condition

end EventChain
