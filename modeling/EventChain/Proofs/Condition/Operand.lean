import EventChain.Proofs.Condition.WellFormed
import EventChain.Proofs.Text.Blank

/-!
# Operands of conditions

`Operator.Takes` says which values an operator takes for its operand and what it makes of them: a
numeric operand counts as its number, and a pattern is read. Reading an operand takes just these
(`takes_of_readOperand`, `readOperand_of_takes`).
-/

namespace EventChain

/-- The number of a numeric operand, which is finite, or a text that is not blank. -/
inductive NumericOperand : Value → Number → Prop where
  | number {n : Number} {q : Rat} (hfinite : n.place? = some (.finite q)) :
      NumericOperand (.number n) n
  | text {s : String} {n : Number} (hfull : ∃ c ∈ s.toList, Text.isBlank c = false)
      (hcounts : (Value.text s).toNumber = .ok (some n)) : NumericOperand (.text s) n

/-- The operand that an operator takes from the value of a leaf, and the pattern of a pattern
operator. -/
inductive Operator.Takes : Operator → Option Value → Value → Option Pattern → Prop where
  | unary {op : Operator} {given : Option Value}
      (hop : op ∈ [isNull, isNotNull, isEmpty, isNotEmpty, isNumber, isString, isBoolean,
        isArray]) :
      Takes op given .null none
  | any {op : Operator} {v : Value}
      (hop : op ∈ [greater, greaterOrEqual, less, lessOrEqual, equal, notEqual, contains,
        notContains, startsWith, endsWith]) :
      Takes op (some v) v none
  | array {op : Operator} {items : List Value}
      (hop : op ∈ [isIn, notIn, hasAll, hasAny, hasNone]) :
      Takes op (some (.array items)) (.array items) none
  | bounds {low high : Value} {a b : Number} (hlow : NumericOperand low a)
      (hhigh : NumericOperand high b) :
      Takes between (some (.array [low, high])) (.array [.number a, .number b]) none
  | duration {op : Operator} {v : Value} {n : Number} {q : Rat}
      (hop : op ∈ [olderThan, newerThan, inLast]) (hnumeric : NumericOperand v n)
      (hplace : n.place? = some (.finite q)) (hnonneg : 0 ≤ q) :
      Takes op (some v) (.number n) none
  | pattern {source : String} {pattern : Pattern} (hread : Pattern.read source = .ok pattern) :
      Takes matchesPattern (some (.text source)) (.text source) (some pattern)

namespace Operator

variable {op : Operator} {given : Option Value} {operand : Value} {pattern : Option Pattern}

/-! The operators by the shape of their operands, as `Takes` lists them. -/

theorem shape_eq_unary_iff : op.shape = .unary ↔
    op ∈ [isNull, isNotNull, isEmpty, isNotEmpty, isNumber, isString, isBoolean, isArray] := by
  cases op <;> decide

theorem shape_eq_any_iff : op.shape = .any ↔ op ∈ [greater, greaterOrEqual, less, lessOrEqual,
    equal, notEqual, contains, notContains, startsWith, endsWith] := by
  cases op <;> decide

theorem shape_eq_array_iff :
    op.shape = .array ↔ op ∈ [isIn, notIn, hasAll, hasAny, hasNone] := by
  cases op <;> decide

theorem shape_eq_bounds_iff : op.shape = .bounds ↔ op = between := by
  cases op <;> decide

theorem shape_eq_duration_iff : op.shape = .duration ↔ op ∈ [olderThan, newerThan, inLast] := by
  cases op <;> decide

theorem shape_eq_pattern_iff : op.shape = .pattern ↔ op = matchesPattern := by
  cases op <;> decide

theorem Takes.of_unary (h : op.Takes given operand pattern) (hop : op.shape = .unary) :
    operand = .null ∧ pattern = none := by
  cases h with
  | unary => exact ⟨rfl, rfl⟩
  | any hlist => cases hop.symm.trans (shape_eq_any_iff.mpr hlist)
  | array hlist => cases hop.symm.trans (shape_eq_array_iff.mpr hlist)
  | bounds => cases hop
  | duration hlist => cases hop.symm.trans (shape_eq_duration_iff.mpr hlist)
  | pattern => cases hop

theorem Takes.exists_given (h : op.Takes given operand pattern) (hop : op.shape ≠ .unary) :
    ∃ v, given = some v := by
  cases h with
  | unary hlist => exact absurd (shape_eq_unary_iff.mpr hlist) hop
  | _ => exact ⟨_, rfl⟩

end Operator

theorem Number.finite?_eq_some_iff {n m : Number} :
    n.finite? = some m ↔ n = m ∧ ∃ q, n.place? = some (.finite q) := by
  cases n with
  | int n => simp [Number.finite?, Number.place?]
  | float x =>
    cases x with
    | finite negative magnitude =>
      simp [Number.finite?, Number.place?, Binary64.isFinite, Binary64.toRat?]
    | infinite negative =>
      cases negative <;> simp [Number.finite?, Number.place?, Binary64.isFinite]
    | nan => simp [Number.finite?, Number.place?, Binary64.isFinite]

theorem Number.less_zero_eq {n : Number} {q : Rat} (h : n.place? = some (.finite q)) :
    n.less (.int 0) = decide (q < 0) := by
  have hzero : (Number.int 0).place? = some (.finite 0) := rfl
  simp only [Number.less, Number.compareWith, h, hzero, Place.lt]

theorem Config.operand?_eq_some_iff {v : Value} {n : Number} :
    Config.operand? v = some n ↔ NumericOperand v n := by
  constructor
  · intro h
    unfold Config.operand? at h
    split at h
    · obtain ⟨rfl, q, hq⟩ := Number.finite?_eq_some_iff.mp h
      exact .number hq
    · next s =>
      split at h
      · cases h
      · next hblank =>
        refine .text ?_ (congrArg _ h)
        rw [List.isEmpty_iff, Text.trim_eq_nil_iff] at hblank
        simpa using hblank
    · cases h
  · intro h
    cases h with
    | number hfinite => exact Number.finite?_eq_some_iff.mpr ⟨rfl, _, hfinite⟩
    | @text s _ hfull hcounts =>
      have htrim : ¬ (Text.trim s.toList).isEmpty = true := by
        rw [List.isEmpty_iff, Text.trim_eq_nil_iff]
        simpa using hfull
      rw [Config.operand?, if_neg htrim]
      exact Except.ok.inj hcounts

namespace Condition

/-! ## Reading -/

theorem readPattern_eq_ok_iff {found : Value} {source path : String} {pattern : Pattern} :
    readPattern found source path = .ok pattern ↔ Pattern.read source = .ok pattern := by
  unfold readPattern
  cases Pattern.read source with
  | ok p => simp
  | error fault => cases fault <;> simp

theorem takes_of_readOperand {op : Operator} {v operand : Value} {path : String}
    {pattern : Option Pattern} (h : readOperand op v path = .ok (operand, pattern)) :
    op.Takes (some v) operand pattern := by
  unfold readOperand at h
  cases hs : op.shape <;> simp only [hs] at h
  case unary =>
    cases h
    exact .unary (Operator.shape_eq_unary_iff.mp hs)
  case any =>
    cases h
    exact .any (Operator.shape_eq_any_iff.mp hs)
  case array =>
    split at h
    · cases h
      exact .array (Operator.shape_eq_array_iff.mp hs)
    · simp at h
  case bounds =>
    obtain rfl := Operator.shape_eq_bounds_iff.mp hs
    split at h
    · split at h
      · next ha hb =>
        cases h
        exact .bounds (Config.operand?_eq_some_iff.mp ha) (Config.operand?_eq_some_iff.mp hb)
      · simp at h
    · simp at h
  case duration =>
    split at h
    · next n hn =>
      split at h
      · simp at h
      · next hless =>
        cases h
        obtain ⟨-, q, hq⟩ := Number.finite?_eq_some_iff.mp (Config.finite?_of_operand? hn)
        rw [Number.less_zero_eq hq, decide_eq_true_eq] at hless
        exact .duration (Operator.shape_eq_duration_iff.mp hs)
          (Config.operand?_eq_some_iff.mp hn) hq (Rat.not_lt.mp hless)
    · simp at h
  case pattern =>
    obtain rfl := Operator.shape_eq_pattern_iff.mp hs
    split at h
    · obtain ⟨pattern, hp, h⟩ := bind_eq_ok.mp h
      cases h
      exact .pattern (readPattern_eq_ok_iff.mp hp)
    · simp at h

theorem readOperand_of_takes {op : Operator} {v operand : Value} {path : String}
    {pattern : Option Pattern} (h : op.Takes (some v) operand pattern) :
    readOperand op v path = .ok (operand, pattern) := by
  unfold readOperand
  cases h with
  | unary hop =>
    simp only [Operator.shape_eq_unary_iff.mpr hop]
    rfl
  | any hop =>
    simp only [Operator.shape_eq_any_iff.mpr hop]
    rfl
  | array hop =>
    simp only [Operator.shape_eq_array_iff.mpr hop]
    rfl
  | bounds hlow hhigh =>
    have ha := Config.operand?_eq_some_iff.mpr hlow
    have hb := Config.operand?_eq_some_iff.mpr hhigh
    simp only [Operator.shape, ha, hb]
    rfl
  | duration hop hnumeric hplace hnonneg =>
    have hs := Operator.shape_eq_duration_iff.mpr hop
    have hn := Config.operand?_eq_some_iff.mpr hnumeric
    have hless := Number.less_zero_eq hplace
    rw [decide_eq_false (Rat.not_lt.mpr hnonneg)] at hless
    simp only [hs, hn, hless]
    rfl
  | pattern hread =>
    simp only [Operator.shape, readPattern_eq_ok_iff.mpr hread]
    rfl

end Condition

end EventChain
