import EventChain.Proofs.Condition.Operand
import EventChain.Proofs.Lookup

/-!
# The grammar of conditions

`Grammatical` says which decoded configs are conditions, and `Mirrors` which condition a config
stands for: the same nesting with the same parts in their order, the same fields and operators, and
numeric operands by the numbers they count as. `read_iff_grammatical` says that reading accepts the
grammar, no more and no less, and gives the condition that mirrors the config.
-/

namespace EventChain

namespace Condition

/-! ## Leaves -/

/-- The field that a leaf names. Its key counts only where the field is not given at all. -/
def Names (r : Record) (field : String) : Prop :=
  field ≠ "" ∧ (r.get? "field" = some (.text field) ∨
    r.get? "field" = none ∧ r.get? "key" = some (.text field))

theorem name?_eq_some_iff {v : Value} {name : String} :
    Config.name? v = some name ↔ v = .text name ∧ name ≠ "" := by
  unfold Config.name?
  split
  · next s =>
    by_cases hs : s = ""
    · subst hs
      simp
    · have hfull : ¬ s.isEmpty = true := by simpa using hs
      rw [if_neg hfull, Option.some_inj, Value.text.injEq]
      constructor
      · rintro rfl
        exact ⟨rfl, hs⟩
      · exact And.left
  · next hv =>
    refine iff_of_false nofun ?_
    rintro ⟨rfl, -⟩
    exact hv name rfl

theorem names_iff {r : Record} {field : String} :
    Config.name? (match r.get? "field" with
      | some v => v
      | none => r.get "key") = some field ↔ Names r field := by
  rw [name?_eq_some_iff, and_comm]
  unfold Names Record.get
  cases r.get? "field" with
  | some v => simp
  | none =>
    cases r.get? "key" with
    | some v => simp
    | none => simp

theorem ofName?_eq_some_iff {name : String} {op : Operator} :
    Operator.ofName? name = some op ↔ name = op.name := by
  constructor
  · intro h
    have hname := List.find?_some h
    exact (of_decide_eq_true hname).symm
  · rintro rfl
    exact Operator.ofName?_name op

/-- A leaf as it stands in a config: its field, its operator and what the operator takes. -/
structure Shows (r : Record) (field : String) (op : Operator) (operand : Value)
    (pattern : Option Pattern) : Prop where
  named : Names r field
  operator : r.get? "operator" = some (.text op.name)
  takes : op.Takes (r.get? "value") operand pattern

theorem shows_of_readLeaf {r : Record} {path : String} {leaf : Leaf}
    (h : readLeaf r path = .ok leaf) :
    leaf.path = path ∧ Shows r leaf.field leaf.op leaf.operand leaf.pattern := by
  unfold readLeaf at h
  dsimp only at h
  split at h
  · simp at h
  next field hfield =>
  have hnamed := names_iff.mp hfield
  split at h
  · next name hname =>
    have hoperator := Record.get_eq_text_iff.mp hname
    split at h
    · simp at h
    next op hop =>
    obtain rfl := ofName?_eq_some_iff.mp hop
    split at h
    · next hunary =>
      cases h
      exact ⟨rfl, hnamed, hoperator, .unary (Operator.shape_eq_unary_iff.mp hunary)⟩
    split at h
    · simp at h
    · next v hv =>
      obtain ⟨⟨operand, pattern⟩, ho, h⟩ := bind_eq_ok.mp h
      cases h
      exact ⟨rfl, hnamed, hoperator, hv ▸ takes_of_readOperand ho⟩
  · simp at h

theorem readLeaf_of_shows {r : Record} {field path : String} {op : Operator} {operand : Value}
    {pattern : Option Pattern} (h : Shows r field op operand pattern) :
    readLeaf r path = .ok ⟨field, op, operand, path, pattern⟩ := by
  obtain ⟨hnamed, hoperator, htakes⟩ := h
  unfold readLeaf
  dsimp only
  split
  · next hnone => cases hnone.symm.trans (names_iff.mpr hnamed)
  next other hother =>
  obtain rfl : other = field := Option.some.inj (hother.symm.trans (names_iff.mpr hnamed))
  simp only [Record.get_eq_text_iff.mpr hoperator, Operator.ofName?_name]
  by_cases hunary : op.shape = .unary
  · obtain ⟨rfl, rfl⟩ := htakes.of_unary hunary
    rw [if_pos hunary]
    rfl
  · obtain ⟨v, hv⟩ := htakes.exists_given hunary
    simp only [if_neg hunary, hv] at htakes ⊢
    rw [readOperand_of_takes htakes]
    rfl

/-! ## Trees -/

/-- The connective that a compound condition names in letters of any case. -/
def Joins (r : Record) (connective : Connective) : Prop :=
  ∃ name, r.get? "type" = some (.text name) ∧
    String.ofList (Text.upper name.toList) = connective.name

inductive Grammatical : Value → Prop where
  | leaf {r : Record} {field : String} {op : Operator} {operand : Value}
      {pattern : Option Pattern} (htype : r.get? "type" = none)
      (hparts : r.get? "expressions" = none) (hshows : Shows r field op operand pattern) :
      Grammatical (.object r)
  | compound {r : Record} {connective : Connective} {items : List Value}
      (hjoins : Joins r connective) (hparts : r.get? "expressions" = some (.array items))
      (hfull : items ≠ []) (hitems : ∀ item ∈ items, Grammatical item) : Grammatical (.object r)

inductive Mirrors : String → Value → Condition → Prop where
  | leaf {path : String} {r : Record} {field : String} {op : Operator} {operand : Value}
      {pattern : Option Pattern} (htype : r.get? "type" = none)
      (hparts : r.get? "expressions" = none) (hshows : Shows r field op operand pattern) :
      Mirrors path (.object r) (.leaf ⟨field, op, operand, path, pattern⟩)
  | compound {path : String} {r : Record} {connective : Connective} {items : List Value}
      {parts : List Condition} (hjoins : Joins r connective)
      (hparts : r.get? "expressions" = some (.array items)) (hfull : items ≠ [])
      (hlength : parts.length = items.length)
      (hitems : ∀ i item part, items[i]? = some item → parts[i]? = some part →
        Mirrors (partPath path i) item part) :
      Mirrors path (.object r) (.compound connective parts path)

theorem connective?_eq_some_iff {r : Record} {connective : Connective} :
    connective? (r.get "type") = some connective ↔ Joins r connective := by
  unfold connective? Joins Record.get
  cases r.get? "type" with
  | none => simp
  | some v =>
    cases v with
    | text name =>
      simp only [Option.getD_some, Option.some_inj, Value.text.injEq, exists_eq_left']
      cases connective <;> split <;> simp_all [Connective.name]
    | _ => simp

theorem readParts_eq_ok_iff {path : String} {items : List Value} {i : Nat}
    {parts : List Condition} :
    readParts path i items = .ok parts ↔ parts.length = items.length ∧
      ∀ j item part, items[j]? = some item → parts[j]? = some part →
        readAt (partPath path (i + j)) item = .ok part := by
  induction items generalizing i parts with
  | nil =>
    rw [readParts, pure_eq_ok]
    constructor
    · rintro rfl
      simp
    · rintro ⟨hlength, -⟩
      exact (List.length_eq_zero_iff.mp hlength).symm
  | cons first rest ih =>
    rw [readParts]
    constructor
    · intro h
      obtain ⟨part, hpart, h⟩ := bind_eq_ok.mp h
      obtain ⟨others, hothers, h⟩ := bind_eq_ok.mp h
      cases h
      obtain ⟨hlength, hread⟩ := ih.mp hothers
      refine ⟨congrArg (· + 1) hlength, fun j item other hitem hother => ?_⟩
      cases j with
      | zero =>
        cases hitem
        cases hother
        exact hpart
      | succ j =>
        rw [show i + (j + 1) = i + 1 + j by omega]
        exact hread j item other hitem hother
    · rintro ⟨hlength, hread⟩
      cases parts with
      | nil => cases hlength
      | cons part others =>
        have hpart : readAt (partPath path i) first = .ok part := hread 0 first part rfl rfl
        have hothers : readParts path (i + 1) rest = .ok others := by
          refine ih.mpr ⟨Nat.succ.inj hlength, fun j item other hitem hother => ?_⟩
          rw [show i + 1 + j = i + (j + 1) by omega]
          exact hread (j + 1) item other hitem hother
        rw [hpart, bind_eq_ok]
        exact ⟨part, rfl, bind_eq_ok.mpr ⟨others, hothers, rfl⟩⟩

theorem has_eq_false_iff {r : Record} {key : String} : r.has key = false ↔ r.get? key = none := by
  unfold Record.has
  cases r.get? key <;> simp

theorem object_of_readAt {path : String} {v : Value} {c : Condition} (h : readAt path v = .ok c) :
    ∃ r, v = .object r := by
  cases v with
  | object r => exact ⟨r, rfl⟩
  | _ => simp [readAt] at h

theorem mirrors_of_readAt {path : String} {v : Value} {c : Condition}
    (h : readAt path v = .ok c) : Mirrors path v c := by
  obtain ⟨r, hv⟩ := object_of_readAt h
  rw [hv, readAt] at h
  rw [hv]
  split at h
  · split at h
    · simp at h
    next connective hconnective =>
    split at h
    · next first rest hget =>
      obtain ⟨parts, hparts, h⟩ := bind_eq_ok.mp h
      cases h
      obtain ⟨hlength, hread⟩ := readParts_eq_ok_iff.mp hparts
      refine .compound (connective?_eq_some_iff.mp hconnective) hget (List.cons_ne_nil _ _)
        hlength ?_
      intro i item part hitem hpart
      have hrecord := Record.sizeOf_get?_lt hget
      have hmember := List.sizeOf_lt_of_mem (List.mem_of_getElem? hitem)
      have hread := hread i item part hitem hpart
      rw [Nat.zero_add] at hread
      exact mirrors_of_readAt hread
    · simp at h
  · next hkeys =>
    obtain ⟨leaf, hleaf, h⟩ := bind_eq_ok.mp h
    cases h
    obtain ⟨hpath, hshows⟩ := shows_of_readLeaf hleaf
    rw [Bool.or_eq_true, not_or, Bool.not_eq_true, Bool.not_eq_true, has_eq_false_iff,
      has_eq_false_iff] at hkeys
    obtain ⟨field, op, operand, leafPath, pattern⟩ := leaf
    cases hpath
    exact .leaf hkeys.1 hkeys.2 hshows
termination_by sizeOf v
decreasing_by
  subst hv
  simp only [Value.array.sizeOf_spec, Value.object.sizeOf_spec] at *
  omega

theorem readAt_of_joins {path : String} {r : Record} {connective : Connective} {items : List Value}
    (hjoins : Joins r connective) (hparts : r.get? "expressions" = some (.array items))
    (hfull : items ≠ []) :
    readAt path (.object r) =
      readParts path 0 items >>= fun parts => pure (.compound connective parts path) := by
  have htype : r.has "type" = true := by
    obtain ⟨name, hname, -⟩ := hjoins
    rw [Record.has, hname]
    rfl
  rw [readAt, htype, Bool.true_or, if_pos rfl, connective?_eq_some_iff.mpr hjoins]
  dsimp only
  split
  · next first rest hget =>
    cases hparts.symm.trans hget
    rfl
  · next hother =>
    cases items with
    | nil => exact absurd rfl hfull
    | cons first rest => exact absurd hparts (hother first rest)

theorem readAt_pair {path : String} {r : Record} {connective : Connective} {v w : Value}
    {c d : Condition} (hjoins : Joins r connective)
    (hparts : r.get? "expressions" = some (.array [v, w]))
    (hc : readAt (partPath path 0) v = .ok c) (hd : readAt (partPath path 1) w = .ok d) :
    readAt path (.object r) = .ok (.compound connective [c, d] path) := by
  rw [readAt_of_joins hjoins hparts (List.cons_ne_nil _ _), readParts, hc, readParts, hd, readParts]
  rfl

theorem readAt_of_mirrors {path : String} {v : Value} {c : Condition} (h : Mirrors path v c) :
    readAt path v = .ok c := by
  induction h with
  | @leaf path r field op operand pattern htype hparts hshows =>
    have hleaf : readLeaf r path = .ok ⟨field, op, operand, path, pattern⟩ :=
      readLeaf_of_shows hshows
    rw [readAt, has_eq_false_iff.mpr htype, has_eq_false_iff.mpr hparts, hleaf]
    rfl
  | @compound path r connective items parts hjoins hparts hfull hlength _ ih =>
    have hread : readParts path 0 items = .ok parts := by
      refine readParts_eq_ok_iff.mpr ⟨hlength, fun j item part hitem hpart => ?_⟩
      rw [Nat.zero_add]
      exact ih j item part hitem hpart
    rw [readAt_of_joins hjoins hparts hfull, hread]
    rfl

theorem Mirrors.grammatical {path : String} {v : Value} {c : Condition} (h : Mirrors path v c) :
    Grammatical v := by
  induction h with
  | leaf htype hparts hshows => exact .leaf htype hparts hshows
  | @compound path r connective items parts hjoins hparts hfull hlength _ ih =>
    refine .compound hjoins hparts hfull fun item hmem => ?_
    obtain ⟨i, hi, rfl⟩ := List.mem_iff_getElem.mp hmem
    have hi' : i < parts.length := by omega
    exact ih i _ parts[i] (List.getElem?_eq_getElem hi) (List.getElem?_eq_getElem hi')

end Condition

end EventChain
