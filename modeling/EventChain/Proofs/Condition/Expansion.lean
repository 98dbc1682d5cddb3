import EventChain.Proofs.Condition.Absence
import EventChain.Proofs.Condition.Fault

/-!
# Composite operators

An operator with bounds, or with a list of values, says what a compound condition of tests with one
bound, or with one value, says too: `Operator.Expands` gives the tests and the connective. Written
as configs, the two have the same outcome on every record (`evaluate_expanded`).
-/

namespace EventChain

/-- The tests that an operator with its operand comes to, and the connective between them. -/
inductive Operator.Expands :
    Operator → Value → Connective → List (Operator × Value) → Prop where
  | between {low high : Value} {a b : Number} (hlow : NumericOperand low a)
      (hhigh : NumericOperand high b) :
      Expands between (.array [low, high]) .all [(greaterOrEqual, low), (lessOrEqual, high)]
  | isIn {items : List Value} :
      Expands isIn (.array items) .any (items.map fun item => (isIn, .array [item]))
  | notIn {items : List Value} :
      Expands notIn (.array items) .all (items.map fun item => (notIn, .array [item]))
  | hasAny {items : List Value} :
      Expands hasAny (.array items) .any (items.map fun item => (hasAny, .array [item]))
  | hasAll {items : List Value} :
      Expands hasAll (.array items) .all (items.map fun item => (hasAny, .array [item]))
  | hasNone {items : List Value} :
      Expands hasNone (.array items) .all (items.map fun item => (hasNone, .array [item]))

theorem NumericOperand.toNumber {v : Value} {n : Number} (h : NumericOperand v n) :
    v.toNumber = .ok (some n) ∧ (Value.number n).toNumber = .ok (some n) := by
  have hfinite : n.finite? = some n :=
    Config.finite?_of_operand? (Config.operand?_eq_some_iff.mpr h)
  refine ⟨?_, congrArg Except.ok hfinite⟩
  cases h with
  | number => exact congrArg Except.ok hfinite
  | text _ hcounts => exact hcounts

namespace Condition

/-! ## Configs -/

/-- The config of a leaf with an operator and an operand put in. -/
def withTest (entries : Record) (op : Operator) (operand : Value) : Value :=
  .object ((entries.set "operator" (.text op.name)).set "value" operand)

def joined (connective : Connective) (parts : List Value) : Value :=
  .object [("type", .text connective.name), ("expressions", .array parts)]

/-- The config of a leaf that tests a field, whatever its operator and operand. -/
structure Tests (entries : Record) (field : String) : Prop where
  leaf : ¬ IsCompound entries
  names : Names entries field

/-- The leaf that a test of a field is read as, at some path. -/
def IsTest (field : String) (test : Operator × Value) (c : Condition) : Prop :=
  ∃ path, c = .leaf ⟨field, test.1, test.2, path, none⟩

variable {entries : Record} {field : String} {op : Operator} {given operand : Value}
  {pattern : Option Pattern} {now : Timestamp} {r : Record}

theorem readAt_withTest (h : Tests entries field) (htakes : op.Takes (some given) operand pattern)
    (path : String) :
    readAt path (withTest entries op given) = .ok (.leaf ⟨field, op, operand, path, pattern⟩) := by
  have hkept {key : String} (hop : key ≠ "operator") (hvalue : key ≠ "value") :
      ((entries.set "operator" (.text op.name)).set "value" given).get? key = entries.get? key := by
    rw [Record.get?_set_of_ne _ _ hvalue, Record.get?_set_of_ne _ _ hop]
  obtain ⟨htype, hparts⟩ := not_isCompound_iff.mp h.leaf
  refine readAt_of_mirrors (.leaf ?_ ?_ ⟨?_, ?_, ?_⟩)
  · rw [hkept (by decide) (by decide), htype]
  · rw [hkept (by decide) (by decide), hparts]
  · rw [Names, hkept (by decide) (by decide), hkept (by decide) (by decide)]
    exact h.names
  · rw [Record.get?_set_of_ne _ _ (by decide), Record.get?_set_self]
  · rwa [Record.get?_set_self]

theorem evaluate_withTest (h : Tests entries field)
    (htakes : op.Takes (some given) operand pattern) :
    evaluate (withTest entries op given) now r =
      Leaf.holds ⟨field, op, operand, "", pattern⟩ now r := by
  have hread : read (withTest entries op given) = .ok (.leaf ⟨field, op, operand, "", pattern⟩) :=
    readAt_withTest h htakes ""
  rw [evaluate, hread]
  rfl

/-- Tests that take their operands as they are given are read one by one. -/
theorem readParts_withTest (h : Tests entries field) {tests : List (Operator × Value)}
    (htakes : ∀ test ∈ tests, test.1.Takes (some test.2) test.2 none) (path : String) (i : Nat) :
    ∃ parts, readParts path i (tests.map fun test => withTest entries test.1 test.2) = .ok parts ∧
      List.Forall₂ (IsTest field) tests parts := by
  induction tests generalizing i with
  | nil => exact ⟨[], by rw [List.map_nil, readParts]; rfl, .nil⟩
  | cons test rest ih =>
    rw [List.forall_mem_cons] at htakes
    obtain ⟨parts, hparts, htests⟩ := ih htakes.2 (i + 1)
    refine ⟨_, ?_, .cons ⟨partPath path i, rfl⟩ htests⟩
    rw [List.map_cons, readParts, readAt_withTest h htakes.1, hparts]
    rfl

theorem evaluate_joined (h : Tests entries field) {tests : List (Operator × Value)}
    (htakes : ∀ test ∈ tests, test.1.Takes (some test.2) test.2 none) (hfull : tests ≠ [])
    (connective : Connective) :
    ∃ parts, List.Forall₂ (IsTest field) tests parts ∧ ∀ now r,
      evaluate (joined connective (tests.map fun test => withTest entries test.1 test.2)) now r =
        (compound connective parts "").holds now r := by
  obtain ⟨parts, hparts, htests⟩ := readParts_withTest h htakes "" 0
  refine ⟨parts, htests, fun now r => ?_⟩
  have hjoins (items : List Value) :
      Joins [("type", .text connective.name), ("expressions", .array items)] connective :=
    ⟨connective.name, rfl, by cases connective <;> decide⟩
  have hread : read (joined connective (tests.map fun test => withTest entries test.1 test.2)) =
      .ok (compound connective parts "") := by
    show readAt "" _ = _
    rw [joined, readAt_of_joins (hjoins _) rfl (by simpa using hfull), hparts]
    rfl
  rw [evaluate, hread]
  rfl

end Condition

/-! ## Outcomes -/

def Value.members : Value → List Value
  | .array items => items
  | _ => []

/-! An operator on the items of its operand tests one item after the other. What it asks of the
value itself is the same for any items. -/

namespace Leaf

variable {field : String} {now : Timestamp} {r : Record} {pattern : Option Pattern}

theorem holds_isIn (items : List Value) (path : String) :
    Leaf.holds ⟨field, .isIn, .array items, path, pattern⟩ now r =
      .ok (!(r.lookup field).isNull && items.any ((r.lookup field).strictEquals .apart ·)) := by
  by_cases hnull : r.lookup field = .null
  · rw [holds_of_null hnull rfl, hnull]
    rfl
  · rw [holds_of_ne_null hnull, Value.isNull_eq_false hnull]
    rfl

theorem holds_notIn (items : List Value) (path : String) :
    Leaf.holds ⟨field, .notIn, .array items, path, pattern⟩ now r =
      .ok (!(r.lookup field).isNull && items.all (!(r.lookup field).strictEquals .apart ·)) := by
  by_cases hnull : r.lookup field = .null
  · rw [holds_of_null hnull rfl, hnull]
    rfl
  · rw [holds_of_ne_null hnull, Value.isNull_eq_false hnull, ← List.not_any_eq_all_not]
    rfl

/-- An operator that does not hold of null needs no case of its own for absent fields. -/
theorem holds_eq_holdsOf {leaf : Leaf} (h : leaf.holdsOf now .null = .ok false)
    (hop : leaf.op.isPresence = false) :
    leaf.holds now r = leaf.holdsOf now (r.lookup leaf.field) := by
  by_cases hnull : r.lookup leaf.field = .null
  · rw [holds_of_null hnull hop, hnull, h]
  · exact holds_of_ne_null hnull

theorem holds_hasAny (items : List Value) (path : String) :
    Leaf.holds ⟨field, .hasAny, .array items, path, pattern⟩ now r =
      .ok (decide ((r.lookup field).kind = .array) &&
        items.any (present (r.lookup field).members)) := by
  rw [holds_eq_holdsOf rfl rfl]
  cases r.lookup field <;> rfl

theorem holds_hasAll (items : List Value) (path : String) :
    Leaf.holds ⟨field, .hasAll, .array items, path, pattern⟩ now r =
      .ok (decide ((r.lookup field).kind = .array) &&
        items.all (present (r.lookup field).members)) := by
  rw [holds_eq_holdsOf rfl rfl]
  cases r.lookup field <;> rfl

theorem holds_hasNone (items : List Value) (path : String) :
    Leaf.holds ⟨field, .hasNone, .array items, path, pattern⟩ now r =
      .ok (decide ((r.lookup field).kind = .array) &&
        items.all (!present (r.lookup field).members ·)) := by
  rw [holds_eq_holdsOf rfl rfl, ← List.not_any_eq_all_not]
  cases r.lookup field <;> rfl

end Leaf

namespace Condition

variable {field : String} {now : Timestamp} {r : Record}

section
variable {items : List Value} {parts : List Condition} {single : Operator} {asked : Bool}
  {answer : Value → Bool}
  (hparts : List.Forall₂ (IsTest field) (items.map fun item => (single, .array [item])) parts)
  (hsingle : ∀ item path, Leaf.holds ⟨field, single, .array [item], path, none⟩ now r =
    .ok (asked && answer item))
include hparts hsingle

theorem forall₂_holds :
    List.Forall₂ (fun item c => c.holds now r = .ok (asked && answer item)) items parts := by
  rw [List.forall₂_map_left_iff] at hparts
  refine hparts.imp ?_
  rintro item c ⟨path, rfl⟩
  exact hsingle item path

theorem anyHolds_tests : anyHolds now r parts = .ok (asked && items.any answer) := by
  rw [anyHolds_of_forall₂ (forall₂_holds hparts hsingle)]
  cases asked <;> simp

theorem allHold_tests (hfull : items ≠ []) :
    allHold now r parts = .ok (asked && items.all answer) := by
  rw [allHold_of_forall₂ (forall₂_holds hparts hsingle)]
  cases asked with
  | true => simp
  | false =>
    obtain ⟨item, rest, rfl⟩ := List.exists_cons_of_ne_nil hfull
    rfl

end

theorem allHold_bounds {low high : Value} {a b : Number} (hlow : NumericOperand low a)
    (hhigh : NumericOperand high b) {parts : List Condition}
    (hparts : List.Forall₂ (IsTest field) [(.greaterOrEqual, low), (.lessOrEqual, high)] parts)
    (path : String) :
    allHold now r parts =
      Leaf.holds ⟨field, .between, .array [.number a, .number b], path, none⟩ now r := by
  obtain ⟨_, rest, ⟨p, rfl⟩, hrest, rfl⟩ := List.forall₂_cons_left_iff.mp hparts
  obtain ⟨_, others, ⟨q, rfl⟩, hend, rfl⟩ := List.forall₂_cons_left_iff.mp hrest
  obtain rfl := List.forall₂_nil_left_iff.mp hend
  obtain ⟨hlow, ha⟩ := hlow.toNumber
  obtain ⟨hhigh, hb⟩ := hhigh.toNumber
  simp only [allHold, holds]
  by_cases hnull : r.lookup field = .null
  · rw [Leaf.holds_of_null hnull rfl, Leaf.holds_of_null hnull rfl, Leaf.holds_of_null hnull rfl]
    rfl
  rw [Leaf.holds_of_ne_null hnull, Leaf.holds_of_ne_null hnull, Leaf.holds_of_ne_null hnull]
  simp only [Leaf.holdsOf, Leaf.compare, Leaf.holdsBetween, hlow, hhigh, ha, hb]
  cases (r.lookup field).toNumber with
  | error limit => rfl
  | ok number =>
    cases number with
    | none => rfl
    | some n =>
      simp only [limited, pure_bind]
      cases a.atMost n with
      | false => rfl
      | true =>
        cases n.atMost b <;> rfl

/-- Only an array can fail to count as a number, or as none, where it has no text. -/
theorem toNumber_total {v : Value} (h : ∃ text, v.toText = .ok text) : ∃ n, v.toNumber = .ok n := by
  obtain ⟨text, htext⟩ := h
  cases v with
  | array items =>
    rw [Value.toNumber, htext]
    exact ⟨_, rfl⟩
  | _ => exact ⟨_, rfl⟩

theorem holds_bounds_total (h : ∃ text, (r.lookup field).toText = .ok text) (a b : Number)
    (path : String) : ∃ answer,
      Leaf.holds ⟨field, .between, .array [.number a, .number b], path, none⟩ now r =
        .ok answer := by
  by_cases hnull : r.lookup field = .null
  · exact ⟨false, Leaf.holds_of_null hnull rfl⟩
  · obtain ⟨n, hn⟩ := toNumber_total h
    rw [Leaf.holds_of_ne_null hnull]
    simp only [Leaf.holdsOf, Leaf.holdsBetween, hn]
    exact ⟨_, rfl⟩

/-! ## Composite operators -/

theorem takes_of_expands {op : Operator} {given : Value} {connective : Connective}
    {tests : List (Operator × Value)} (h : op.Expands given connective tests) :
    ∀ test ∈ tests, test.1.Takes (some test.2) test.2 none := by
  intro test htest
  cases h with
  | between =>
    simp only [List.mem_cons, List.not_mem_nil, or_false] at htest
    rcases htest with rfl | rfl
    · exact .any (by simp)
    · exact .any (by simp)
  | isIn | notIn | hasAny | hasAll | hasNone =>
    obtain ⟨item, -, rfl⟩ := List.mem_map.mp htest
    exact .array (by simp)

/-- A leaf has the outcome of the tests of its field in a compound condition, and an answer where
its field has a text. -/
structure StandsFor (leaf : Leaf) (connective : Connective) (tests : List (Operator × Value)) :
    Prop where
  agrees : ∀ now r parts, List.Forall₂ (IsTest leaf.field) tests parts →
    (compound connective parts leaf.path).holds now r = leaf.holds now r
  answers : ∀ now r, (∃ text, (r.lookup leaf.field).toText = .ok text) →
    ∃ answer, leaf.holds now r = .ok answer

theorem StandsFor.of_answer {leaf : Leaf} {connective : Connective}
    {tests : List (Operator × Value)}
    (h : ∀ now r, ∃ answer, leaf.holds now r = .ok answer ∧
      ∀ parts, List.Forall₂ (IsTest leaf.field) tests parts →
        (compound connective parts leaf.path).holds now r = .ok answer) :
    StandsFor leaf connective tests where
  agrees now r parts hparts := by
    obtain ⟨answer, hleaf, htests⟩ := h now r
    rw [hleaf, htests parts hparts]
  answers now r _ := by
    obtain ⟨answer, hleaf, -⟩ := h now r
    exact ⟨answer, hleaf⟩

theorem exists_standsFor {op : Operator} {given : Value} {connective : Connective}
    {tests : List (Operator × Value)} (h : op.Expands given connective tests) (hfull : tests ≠ [])
    (field path : String) :
    ∃ operand, op.Takes (some given) operand none ∧
      StandsFor ⟨field, op, operand, path, none⟩ connective tests := by
  cases h with
  | between hlow hhigh =>
    exact ⟨_, .bounds hlow hhigh, fun now r parts hparts => allHold_bounds hlow hhigh hparts path,
      fun now r htext => holds_bounds_total htext _ _ path⟩
  | isIn =>
    refine ⟨_, .array (by simp), .of_answer fun now r => ⟨_, Leaf.holds_isIn _ _, ?_⟩⟩
    exact fun parts hparts => anyHolds_tests hparts fun item path => by simp [Leaf.holds_isIn]
  | notIn =>
    refine ⟨_, .array (by simp), .of_answer fun now r => ⟨_, Leaf.holds_notIn _ _, ?_⟩⟩
    exact fun parts hparts => allHold_tests hparts
      (fun item path => by simp [Leaf.holds_notIn]) (by simpa using hfull)
  | hasAny =>
    refine ⟨_, .array (by simp), .of_answer fun now r => ⟨_, Leaf.holds_hasAny _ _, ?_⟩⟩
    exact fun parts hparts => anyHolds_tests hparts fun item path => by simp [Leaf.holds_hasAny]
  | hasAll =>
    refine ⟨_, .array (by simp), .of_answer fun now r => ⟨_, Leaf.holds_hasAll _ _, ?_⟩⟩
    exact fun parts hparts => allHold_tests hparts
      (fun item path => by simp [Leaf.holds_hasAny]) (by simpa using hfull)
  | hasNone =>
    refine ⟨_, .array (by simp), .of_answer fun now r => ⟨_, Leaf.holds_hasNone _ _, ?_⟩⟩
    exact fun parts hparts => allHold_tests hparts
      (fun item path => by simp [Leaf.holds_hasNone]) (by simpa using hfull)

/-- A test with a composite operator has the outcome of the tests that it comes to in a compound
condition, and an answer wherever its field has a text. -/
theorem evaluate_expanded {entries : Record} {field : String} (h : Tests entries field)
    {op : Operator} {given : Value} {connective : Connective} {tests : List (Operator × Value)}
    (hexpands : op.Expands given connective tests) (hfull : tests ≠ []) (now : Timestamp)
    (r : Record) :
    evaluate (joined connective (tests.map fun test => withTest entries test.1 test.2)) now r =
        evaluate (withTest entries op given) now r ∧
      ((∃ text, (r.lookup field).toText = .ok text) →
        ∃ answer, evaluate (withTest entries op given) now r = .ok answer) := by
  obtain ⟨operand, htakes, hstands⟩ := exists_standsFor hexpands hfull field ""
  obtain ⟨parts, hparts, hjoined⟩ := evaluate_joined h (takes_of_expands hexpands) hfull connective
  rw [hjoined now r, hstands.agrees now r parts hparts, evaluate_withTest h htakes]
  exact ⟨rfl, hstands.answers now r⟩

/-- A level in text, between a bound in text and a number. -/
theorem evaluate_expanded_level :
    let entries : Record := [("key", .text "level")]
    let given : Value := .array [.text "10", .int 20]
    let tests : List (Operator × Value) := [(.greaterOrEqual, .text "10"), (.lessOrEqual, .int 20)]
    let now : Timestamp := ⟨⟨2024, 6, 1, by decide⟩, .midnight, some .utc⟩
    let r : Record := [("level", .text " 12.5 ")]
    Tests entries "level" ∧ Operator.between.Expands given .all tests ∧ tests ≠ [] ∧
      (∃ text, (r.lookup "level").toText = .ok text) ∧
      evaluate (joined .all (tests.map fun test => withTest entries test.1 test.2)) now r =
        evaluate (withTest entries .between given) now r ∧
      ∃ answer, evaluate (withTest entries .between given) now r = .ok answer := by
  intro entries given tests now r
  have hleaf : ¬ IsCompound entries := not_isCompound_iff.mpr ⟨rfl, rfl⟩
  have htests : Tests entries "level" := ⟨hleaf, by decide, .inr ⟨rfl, rfl⟩⟩
  have hlow : NumericOperand (.text "10") (.int 10) := .text ⟨'1', by decide, by decide⟩ rfl
  have hexpands : Operator.between.Expands given .all tests := .between hlow (.number rfl)
  have hfull : tests ≠ [] := List.cons_ne_nil _ _
  have htext : ∃ text, (r.lookup "level").toText = .ok text := ⟨_, rfl⟩
  obtain ⟨hsame, htotal⟩ := evaluate_expanded htests hexpands hfull now r
  exact ⟨htests, hexpands, hfull, htext, hsame, htotal htext⟩

end Condition

end EventChain
