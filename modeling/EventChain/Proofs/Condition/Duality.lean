import EventChain.Proofs.Condition.Absence
import EventChain.Proofs.Condition.Total
import EventChain.Proofs.Number.Place

/-!
# Dual conditions

The dual of a condition swaps the connectives and gives every leaf the complement of its operator.
Evaluating it, the same leaves are looked at in the same order, and on a record where operators and
their complements exclude one another (`Leaf.Decided`), each has the opposite answer: the dual is
the negation (`read_dual`).
-/

namespace EventChain

/-- The operator that holds of just the values that another one does not hold of, as long as these
are what both are made for. Operators without such a counterpart stay. -/
def Operator.complement : Operator → Operator
  | isNull => isNotNull
  | isNotNull => isNull
  | isEmpty => isNotEmpty
  | isNotEmpty => isEmpty
  | greater => lessOrEqual
  | lessOrEqual => greater
  | greaterOrEqual => less
  | less => greaterOrEqual
  | equal => notEqual
  | notEqual => equal
  | contains => notContains
  | notContains => contains
  | isIn => notIn
  | notIn => isIn
  | hasAny => hasNone
  | hasNone => hasAny
  | op => op

theorem Operator.shape_complement (op : Operator) : op.complement.shape = op.shape := by
  cases op <;> rfl

theorem Operator.Takes.complement {op : Operator} {given : Option Value} {operand : Value}
    {pattern : Option Pattern} (h : op.Takes given operand pattern) :
    op.complement.Takes given operand pattern := by
  cases h with
  | unary hop =>
    exact .unary (shape_eq_unary_iff.mp (op.shape_complement.trans (shape_eq_unary_iff.mpr hop)))
  | any hop =>
    exact .any (shape_eq_any_iff.mp (op.shape_complement.trans (shape_eq_any_iff.mpr hop)))
  | array hop =>
    exact .array (shape_eq_array_iff.mp (op.shape_complement.trans (shape_eq_array_iff.mpr hop)))
  | bounds hlow hhigh => exact .bounds hlow hhigh
  | duration hop hnumeric hplace hnonneg =>
    exact .duration
      (shape_eq_duration_iff.mp (op.shape_complement.trans (shape_eq_duration_iff.mpr hop)))
      hnumeric hplace hnonneg
  | pattern hread => exact .pattern hread

def Connective.dual : Connective → Connective
  | .all => .any
  | .any => .all

/-! ## Leaves -/

namespace Leaf

def dual (leaf : Leaf) : Leaf := { leaf with op := leaf.op.complement }

/-- The record has a value that the operator of a leaf, or its complement, holds of: one at all
unless the operator is about presence, an array where members are asked for, and two numbers to be
compared. -/
structure Decided (leaf : Leaf) (r : Record) : Prop where
  present : leaf.op.isPresence = false → r.lookup leaf.field ≠ .null
  members : leaf.op ∈ [.hasAny, .hasNone] → ∃ items, r.lookup leaf.field = .array items
  numbers : leaf.op ∈ [.greater, .lessOrEqual, .greaterOrEqual, .less] →
    (∃ a, (r.lookup leaf.field).toNumber = .ok (some a)) ∧
      ∃ b, leaf.operand.toNumber = .ok (some b)

variable {leaf : Leaf} {now : Timestamp} {v : Value}

theorem compare_not {test other : Number → Number → Bool} {operand : Value}
    (hv : ∃ a, v.toNumber = .ok (some a)) (ho : ∃ b, operand.toNumber = .ok (some b))
    (h : ∀ a b, (∃ p, a.place? = some p) → (∃ p, b.place? = some p) → other a b = !test a b) :
    compare other v operand = (compare test v operand).map not := by
  obtain ⟨a, ha⟩ := hv
  obtain ⟨b, hb⟩ := ho
  have hanswer := h a b (Value.exists_place_of_toNumber ha) (Value.exists_place_of_toNumber hb)
  rw [compare, compare, ha, hb]
  exact congrArg Except.ok hanswer

theorem holdsText_not {test other : String → String → Bool}
    (h : ∀ text part, other text part = !test text part) :
    leaf.holdsText other v = (leaf.holdsText test v).map not := by
  unfold holdsText
  cases v.toText with
  | error limit => rfl
  | ok text =>
    cases leaf.operand.toText with
    | error limit => rfl
    | ok part => exact congrArg Except.ok (h text part)

/-- On a value that is not null, the dual of a leaf has the opposite answer, or fails as the leaf
does. -/
theorem holdsOf_dual (hshaped : leaf.Shaped) (hop : leaf.op.complement ≠ leaf.op)
    {r : Record} (h : leaf.Decided r) :
    leaf.dual.holdsOf now (r.lookup leaf.field) =
      (leaf.holdsOf now (r.lookup leaf.field)).map not := by
  obtain ⟨field, op, operand, path, pattern⟩ := leaf
  obtain ⟨-, hmembers, hnumbers⟩ := h
  dsimp only at hop hmembers hnumbers ⊢
  generalize r.lookup field = v at hmembers hnumbers ⊢
  have hless (a b : Number) (ha : ∃ p, a.place? = some p) (hb : ∃ p, b.place? = some p) :
      b.less a = !a.atMost b := Number.less_eq_not_atMost ha hb
  cases op with
  | isNull | isNotNull | isEmpty => rfl
  | isNotEmpty => exact congrArg Except.ok (Bool.not_not v.isEmpty).symm
  | greater =>
    obtain ⟨hv, ho⟩ := hnumbers (by simp)
    exact compare_not hv ho fun a b ha hb => by rw [hless a b ha hb, Bool.not_not]
  | lessOrEqual =>
    obtain ⟨hv, ho⟩ := hnumbers (by simp)
    exact compare_not hv ho hless
  | greaterOrEqual =>
    obtain ⟨hv, ho⟩ := hnumbers (by simp)
    exact compare_not hv ho fun a b ha hb => hless b a hb ha
  | less =>
    obtain ⟨hv, ho⟩ := hnumbers (by simp)
    exact compare_not hv ho fun a b ha hb => by rw [hless b a hb ha, Bool.not_not]
  | equal =>
    simp only [dual, Operator.complement, holdsOf]
    cases v.looseEquals .apart operand <;> rfl
  | notEqual =>
    simp only [dual, Operator.complement, holdsOf]
    cases v.looseEquals .apart operand with
    | error limit => rfl
    | ok b => exact congrArg Except.ok (Bool.not_not b).symm
  | contains => exact holdsText_not fun _ _ => rfl
  | notContains => exact holdsText_not fun _ _ => (Bool.not_not _).symm
  | isIn =>
    obtain ⟨items, rfl⟩ := hshaped
    rfl
  | notIn =>
    obtain ⟨items, rfl⟩ := hshaped
    exact congrArg Except.ok (Bool.not_not _).symm
  | hasAny =>
    obtain ⟨items, rfl⟩ := hshaped
    obtain ⟨members, rfl⟩ := hmembers (by simp)
    rfl
  | hasNone =>
    obtain ⟨items, rfl⟩ := hshaped
    obtain ⟨members, rfl⟩ := hmembers (by simp)
    exact congrArg Except.ok (Bool.not_not _).symm
  | _ => exact absurd rfl hop

theorem holds_dual (hshaped : leaf.Shaped) (hop : leaf.op.complement ≠ leaf.op) {r : Record}
    (h : leaf.Decided r) : leaf.dual.holds now r = (leaf.holds now r).map not := by
  by_cases hnull : r.lookup leaf.field = .null
  · have hpresence : leaf.op.isPresence = true := by
      by_contra habsent
      exact h.present (Bool.not_eq_true _ ▸ habsent) hnull
    obtain ⟨field, op, operand, path, pattern⟩ := leaf
    cases op with
    | isNull | isNotNull | isEmpty | isNotEmpty =>
      simp only [holds, dual, hnull]
      rfl
    | _ => cases hpresence
  · have hdual : r.lookup leaf.dual.field ≠ .null := hnull
    rw [holds_of_ne_null hnull, holds_of_ne_null hdual]
    exact holdsOf_dual hshaped hop h

end Leaf

/-! ## Trees -/

namespace Condition

mutual

def dual : Condition → Condition
  | .leaf l => .leaf l.dual
  | .compound connective parts path => .compound connective.dual (dualParts parts) path
  | .misplaced v => .misplaced v

def dualParts : List Condition → List Condition
  | [] => []
  | c :: rest => c.dual :: dualParts rest

end

variable {now : Timestamp} {r : Record}

mutual

/-- Where the dual of every leaf has the opposite outcome, so has the dual of the condition. The
part that settles a compound condition settles its dual. -/
theorem holds_dual {c : Condition}
    (h : ∀ l ∈ c.leaves, l.dual.holds now r = (l.holds now r).map not) :
    c.dual.holds now r = (c.holds now r).map not := by
  cases c with
  | leaf l => exact h l (List.mem_singleton_self l)
  | compound connective parts path =>
    cases connective with
    | all => exact anyHolds_dualParts h
    | any => exact allHold_dualParts h
  | misplaced v => rfl

theorem allHold_dualParts {parts : List Condition}
    (h : ∀ l ∈ allLeaves parts, l.dual.holds now r = (l.holds now r).map not) :
    allHold now r (dualParts parts) = (anyHolds now r parts).map not := by
  cases parts with
  | nil => rfl
  | cons c rest =>
    rw [allLeaves, List.forall_mem_append] at h
    rw [dualParts, allHold, anyHolds, holds_dual h.1, allHold_dualParts h.2]
    cases c.holds now r with
    | error failure => rfl
    | ok b => cases b <;> rfl

theorem anyHolds_dualParts {parts : List Condition}
    (h : ∀ l ∈ allLeaves parts, l.dual.holds now r = (l.holds now r).map not) :
    anyHolds now r (dualParts parts) = (allHold now r parts).map not := by
  cases parts with
  | nil => rfl
  | cons c rest =>
    rw [allLeaves, List.forall_mem_append] at h
    rw [dualParts, anyHolds, allHold, holds_dual h.1, anyHolds_dualParts h.2]
    cases c.holds now r with
    | error failure => rfl
    | ok b => cases b <;> rfl

end

/-! ## Configs -/

/-- The name of the dual connective; a text that names none stays. -/
def dualType (name : String) : Value :=
  match connective? (.text name) with
  | some connective => .text connective.dual.name
  | none => .text name

def dualOperator (name : String) : Value :=
  match Operator.ofName? name with
  | some op => .text op.complement.name
  | none => .text name

mutual

def dualConfig : Value → Value
  | .object entries => .object (dualEntries entries)
  | v => v

def dualEntries : List (String × Value) → Record
  | [] => []
  | (key, v) :: rest => (key, dualEntry key v) :: dualEntries rest

def dualEntry (key : String) : Value → Value
  | .text s =>
    if key = "type" then dualType s else if key = "operator" then dualOperator s else .text s
  | .array items => if key = "expressions" then .array (dualItems items) else .array items
  | v => v

def dualItems : List Value → List Value
  | [] => []
  | v :: rest => dualConfig v :: dualItems rest

end

theorem get?_dualEntries (r : Record) (key : String) :
    (dualEntries r).get? key = (r.get? key).map (dualEntry key) := by
  induction r with
  | nil => rfl
  | cons entry rest ih =>
    obtain ⟨k, v⟩ := entry
    by_cases hk : k = key
    · subst hk
      simp [dualEntries, Record.get?]
    · simp [dualEntries, Record.get?, hk, ih]

theorem dualItems_eq_map (items : List Value) : dualItems items = items.map dualConfig := by
  induction items with
  | nil => rfl
  | cons v rest ih => rw [dualItems, ih, List.map_cons]

theorem dualParts_eq_map (parts : List Condition) : dualParts parts = parts.map dual := by
  induction parts with
  | nil => rfl
  | cons c rest ih => rw [dualParts, ih, List.map_cons]

theorem get?_dualEntries_of_ne {key : String} (r : Record) (htype : key ≠ "type")
    (hop : key ≠ "operator") (hparts : key ≠ "expressions") :
    (dualEntries r).get? key = r.get? key := by
  have hkept (v : Value) : dualEntry key v = v := by
    cases v <;> simp [dualEntry, htype, hop, hparts]
  rw [get?_dualEntries]
  cases r.get? key with
  | none => rfl
  | some v => exact congrArg some (hkept v)

theorem Joins.dual {r : Record} {connective : Connective} (h : Joins r connective) :
    Joins (dualEntries r) connective.dual := by
  have hread := connective?_eq_some_iff.mpr h
  obtain ⟨name, hname, -⟩ := h
  rw [Record.get, hname, Option.getD_some] at hread
  refine ⟨connective.dual.name, ?_, ?_⟩
  · rw [get?_dualEntries, hname]
    simp [dualEntry, dualType, hread]
  · cases connective <;> decide

theorem Shows.dual {r : Record} {field : String} {op : Operator} {operand : Value}
    {pattern : Option Pattern} (h : Shows r field op operand pattern) :
    Shows (dualEntries r) field op.complement operand pattern := by
  obtain ⟨hnamed, hoperator, htakes⟩ := h
  have hkept {key : String} (htype : key ≠ "type") (hop : key ≠ "operator")
      (hparts : key ≠ "expressions") : (dualEntries r).get? key = r.get? key :=
    get?_dualEntries_of_ne r htype hop hparts
  refine ⟨?_, ?_, ?_⟩
  · rwa [Names, hkept (by decide) (by decide) (by decide),
      hkept (by decide) (by decide) (by decide)]
  · rw [get?_dualEntries, hoperator]
    simp [dualEntry, dualOperator, Operator.ofName?_name]
  · rw [hkept (by decide) (by decide) (by decide)]
    exact htakes.complement

theorem Mirrors.dual {path : String} {config : Value} {c : Condition} (h : Mirrors path config c) :
    Mirrors path (dualConfig config) c.dual := by
  induction h with
  | leaf htype hparts hshows =>
    refine .leaf ?_ ?_ hshows.dual
    · rw [get?_dualEntries, htype, Option.map_none]
    · rw [get?_dualEntries, hparts, Option.map_none]
  | @compound path r connective items parts hjoins hparts hfull hlength _ ih =>
    have hitems : (dualEntries r).get? "expressions" = some (.array (items.map dualConfig)) := by
      rw [get?_dualEntries, hparts, Option.map_some, dualEntry, if_pos rfl, dualItems_eq_map]
    rw [Condition.dual, dualParts_eq_map]
    refine .compound hjoins.dual hitems (by simpa using hfull) (by simpa using hlength) ?_
    intro i item part hitem hpart
    rw [List.getElem?_map, Option.map_eq_some_iff] at hitem hpart
    obtain ⟨item, hitem, rfl⟩ := hitem
    obtain ⟨part, hpart, rfl⟩ := hpart
    exact ih i item part hitem hpart

/-! ## De Morgan's laws -/

/-- The config of a condition that was read, brought to its dual form, is read as the dual
condition. Where the leaves have operators with a complement and are decided on a record, the dual
is the negation: both fail together, and neither does where the operands and the record have decimal
text. -/
theorem read_dual {config : Value} {c : Condition} (h : read config = .ok c)
    (hops : ∀ leaf ∈ c.leaves, leaf.op.complement ≠ leaf.op) :
    (∃ decoded, Config.decode config = .ok decoded ∧ read (dualConfig decoded) = .ok c.dual) ∧
    ∀ r : Record, (∀ leaf ∈ c.leaves, leaf.Decided r) → ∀ now,
      c.dual.holds now r = (c.holds now r).map not ∧
      (config.Writable ∨ c.Writable → Value.EntriesWritable r →
        ∃ answer, c.holds now r = .ok answer ∧ c.dual.holds now r = .ok (!answer)) := by
  have hwf := read_wellFormed h
  refine ⟨?_, fun r hr now => ?_⟩
  · obtain ⟨decoded, hdecode, hread⟩ := bind_eq_ok.mp h
    obtain ⟨entries, rfl⟩ := object_of_readAt hread
    exact ⟨_, hdecode, readAt_of_mirrors (mirrors_of_readAt hread).dual⟩
  · have hdual : c.dual.holds now r = (c.holds now r).map not := by
      refine holds_dual fun leaf hleaf => ?_
      exact Leaf.holds_dual (hwf.shaped leaf hleaf) (hops leaf hleaf) (hr leaf hleaf)
    refine ⟨hdual, fun hwritable hentries => ?_⟩
    have hc : c.Writable := hwritable.elim (writable_of_read h) id
    obtain ⟨answer, hanswer⟩ := hwf.holds_total hc now hentries
    exact ⟨answer, hanswer, by rw [hdual, hanswer]; rfl⟩

/-- A level in text that is high, or a tag or no name: the dual asks for a level that is not, and
for no tag and a name. -/
theorem read_dual_level :
    let isHigh : Record := [("field", .text "level"), ("operator", .text ">"), ("value", .int 3)]
    let isTagged : Record := [("field", .text "tags"), ("operator", .text "hasAny"),
      ("value", .array [.text "test"])]
    let isNameless : Record := [("field", .text "name"), ("operator", .text "isNull")]
    let either : Record := [("type", .text "or"),
      ("expressions", .array [.object isTagged, .object isNameless])]
    let config : Value := .object [("type", .text "and"),
      ("expressions", .array [.object isHigh, .object either])]
    let path := partPath "" 1
    let tagged : Leaf := ⟨"tags", .hasAny, .array [.text "test"], partPath path 0, none⟩
    let nameless : Leaf := ⟨"name", .isNull, .null, partPath path 1, none⟩
    let high : Leaf := ⟨"level", .greater, .int 3, partPath "" 0, none⟩
    let c : Condition :=
      .compound .all [.leaf high, .compound .any [.leaf tagged, .leaf nameless] path] ""
    let now : Timestamp := ⟨⟨2024, 6, 1, by decide⟩, .midnight, some .utc⟩
    let r : Record := [("level", .text "12"), ("tags", .array [.null]), ("name", .null)]
    read config = .ok c ∧ (∀ leaf ∈ c.leaves, leaf.op.complement ≠ leaf.op) ∧
      (∀ leaf ∈ c.leaves, leaf.Decided r) ∧ c.Writable ∧ Value.EntriesWritable r ∧
      ∃ answer, c.holds now r = .ok answer ∧ c.dual.holds now r = .ok (!answer) := by
  intro isHigh isTagged isNameless either config path tagged nameless high c now r
  have hor : Joins either .any := ⟨"or", rfl, by decide⟩
  have heither : readAt path (.object either) =
      .ok (.compound .any [.leaf tagged, .leaf nameless] path) := by
    have htagged : readAt (partPath path 0) (.object isTagged) = .ok (.leaf tagged) := by
      rw [readAt]
      rfl
    have hnameless : readAt (partPath path 1) (.object isNameless) = .ok (.leaf nameless) := by
      rw [readAt]
      rfl
    exact readAt_pair hor rfl htagged hnameless
  have hand : Joins [("type", .text "and"),
      ("expressions", .array [.object isHigh, .object either])] .all := ⟨"and", rfl, by decide⟩
  have hread : read config = .ok c := by
    have hhigh : readAt (partPath "" 0) (.object isHigh) = .ok (.leaf high) := by
      rw [readAt]
      rfl
    exact readAt_pair hand rfl hhigh heither
  have hleaves : c.leaves = [high, tagged, nameless] := rfl
  have hops : ∀ leaf ∈ c.leaves, leaf.op.complement ≠ leaf.op := by
    rw [hleaves]
    simp [high, tagged, nameless, Operator.complement]
  have hdecided : ∀ leaf ∈ c.leaves, leaf.Decided r := by
    rw [hleaves, List.forall_mem_cons, List.forall_mem_cons, List.forall_mem_singleton]
    have hlevel : r.lookup high.field = .text "12" := rfl
    have htags : r.lookup tagged.field = .array [.null] := rfl
    refine ⟨⟨?_, nofun, ?_⟩, ⟨?_, ?_, nofun⟩, ⟨nofun, nofun, nofun⟩⟩
    · simp [hlevel]
    · exact fun _ => ⟨⟨.int 12, rfl⟩, ⟨.int 3, rfl⟩⟩
    · simp [htags]
    · exact fun _ => ⟨_, htags⟩
  have hc : c.Writable := by
    simp [Writable, hleaves, high, tagged, nameless, Value.int, Value.Writable, Value.AllWritable,
      Number.Writable]
    decide +kernel
  have hr : Value.EntriesWritable r := by
    simp [r, Value.Writable, Value.AllWritable, Value.EntriesWritable]
  exact ⟨hread, hops, hdecided, hc, hr,
    ((read_dual hread hops).2 r hdecided now).2 (.inr hc) hr⟩

end Condition

end EventChain
