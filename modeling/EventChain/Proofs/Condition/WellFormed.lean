import EventChain.Condition.Evaluation
import EventChain.Proofs.Failure

/-!
# Conditions that were read

Operands are checked where a condition is read and trusted where it is evaluated.
`Condition.WellFormed` is what the evaluation relies on: every leaf has the operand that its
operator takes. Reading gives only well-formed conditions (`readAt_wellFormed`), and no config
error ends the evaluation of one (`WellFormed.holds`).
-/

namespace EventChain

def Leaf.Shaped (leaf : Leaf) : Prop :=
  match leaf.op.shape with
  | .unary | .any => True
  | .array => ∃ items, leaf.operand = .array items
  | .bounds => ∃ low high, leaf.operand = .array [low, high]
  | .duration => ∃ n : Number, leaf.operand = .number n ∧ n.finite? = some n
  | .pattern => ∃ pattern, leaf.pattern = some pattern

mutual

def Condition.WellFormed : Condition → Prop
  | .leaf leaf => leaf.Shaped
  | .compound _ parts _ => AllWellFormed parts
  | .misplaced _ => False

def AllWellFormed : List Condition → Prop
  | [] => True
  | c :: rest => c.WellFormed ∧ AllWellFormed rest

end

theorem allWellFormed_iff {parts : List Condition} :
    AllWellFormed parts ↔ ∀ c ∈ parts, c.WellFormed := by
  induction parts with
  | nil => simp [AllWellFormed]
  | cons c rest ih => rw [AllWellFormed, ih, List.forall_mem_cons]

/-! ## Reading -/

theorem Number.finite?_eq_some {n m : Number} (h : n.finite? = some m) : m.finite? = some m := by
  cases n with
  | int n =>
    cases h
    rfl
  | float x =>
    simp only [Number.finite?] at h
    split at h
    · next hx =>
      cases h
      exact if_pos hx
    · cases h

theorem Number.finite?_of_ofText? {s : String} {n : Number} (h : Number.ofText? s = some n) :
    n.finite? = some n := by
  unfold Number.ofText? at h
  split at h
  · cases h
    rfl
  split at h
  · cases h
  split at h
  · cases h
    rfl
  split at h
  · split at h
    · next hx =>
      cases h
      exact if_pos hx
    · cases h
  · cases h

theorem Config.finite?_of_operand? {v : Value} {n : Number} (h : Config.operand? v = some n) :
    n.finite? = some n := by
  unfold Config.operand? at h
  split at h
  · exact Number.finite?_eq_some h
  · split at h
    · cases h
    · exact Number.finite?_of_ofText? h
  · cases h

namespace Condition

theorem readOperand_shaped {op : Operator} {v operand : Value} {field path path' : String}
    {pattern : Option Pattern} (h : readOperand op v path = .ok (operand, pattern)) :
    Leaf.Shaped ⟨field, op, operand, path', pattern⟩ := by
  unfold readOperand at h
  cases hs : op.shape <;> simp only [Leaf.Shaped, hs] at h ⊢
  case array =>
    split at h
    · cases h
      exact ⟨_, rfl⟩
    · simp at h
  case bounds =>
    split at h
    · split at h
      · cases h
        exact ⟨_, _, rfl⟩
      · simp at h
    · simp at h
  case duration =>
    split at h
    · next n hn =>
      split at h
      · simp at h
      · cases h
        exact ⟨n, rfl, Config.finite?_of_operand? hn⟩
    · simp at h
  case pattern =>
    split at h
    · obtain ⟨pattern, -, h⟩ := bind_eq_ok.mp h
      cases h
      exact ⟨pattern, rfl⟩
    · simp at h

theorem readLeaf_shaped {r : Record} {path : String} {leaf : Leaf}
    (h : readLeaf r path = .ok leaf) : leaf.Shaped := by
  unfold readLeaf at h
  dsimp only at h
  split at h
  · simp at h
  split at h
  · split at h
    · simp at h
    split at h
    · next hs =>
      cases h
      simp only [Leaf.Shaped, hs]
    split at h
    · simp at h
    · obtain ⟨⟨operand, pattern⟩, ho, h⟩ := bind_eq_ok.mp h
      cases h
      exact readOperand_shaped ho
  · simp at h

mutual

theorem readAt_wellFormed {path : String} {v : Value} {c : Condition}
    (h : readAt path v = .ok c) : c.WellFormed := by
  match v, h with
  | .object r, h =>
    rw [readAt] at h
    split at h
    · split at h
      · simp at h
      split at h
      · next first rest hget =>
        obtain ⟨parts, hp, h⟩ := bind_eq_ok.mp h
        cases h
        have := Record.sizeOf_get?_lt hget
        exact readParts_wellFormed hp
      · simp at h
    · obtain ⟨leaf, hl, h⟩ := bind_eq_ok.mp h
      cases h
      exact readLeaf_shaped hl
  | .null, h | .boolean _, h | .number _, h | .text _, h | .array _, h | .timestamp _, h
  | .bytes _, h | .foreign _, h => simp [readAt] at h
termination_by sizeOf v
decreasing_by
  simp only [Value.array.sizeOf_spec, Value.object.sizeOf_spec, List.cons.sizeOf_spec] at *
  omega

theorem readParts_wellFormed {path : String} {i : Nat} {vs : List Value} {parts : List Condition}
    (h : readParts path i vs = .ok parts) : AllWellFormed parts := by
  unfold readParts at h
  split at h
  · cases h
    trivial
  · obtain ⟨part, hp, h⟩ := bind_eq_ok.mp h
    obtain ⟨parts, hps, h⟩ := bind_eq_ok.mp h
    cases h
    exact ⟨readAt_wellFormed hp, readParts_wellFormed hps⟩
termination_by sizeOf vs

end

theorem read_wellFormed {config : Value} {c : Condition} (h : read config = .ok c) :
    c.WellFormed := by
  obtain ⟨decoded, -, h⟩ := bind_eq_ok.mp h
  exact readAt_wellFormed h

end Condition

/-! ## Evaluation -/

namespace Leaf

variable {leaf : Leaf} {now : Timestamp} {v : Value}

theorem failsWith_compare {P : Failure → Prop} (hP : ∀ limit, P (.digitLimit limit))
    {test : Number → Number → Bool} {operand : Value} : FailsWith P (compare test v operand) :=
  failsWith_limited_bind hP fun _ _ => failsWith_limited_bind hP fun _ _ => failsWith_pure _

theorem failsWith_holdsText {P : Failure → Prop} (hP : ∀ limit, P (.digitLimit limit))
    {test : String → String → Bool} : FailsWith P (leaf.holdsText test v) :=
  failsWith_limited_bind hP fun _ _ => failsWith_limited_bind hP fun _ _ => failsWith_pure _

theorem configFree_holdsBetween {low high : Value} (h : leaf.operand = .array [low, high]) :
    ConfigFree (leaf.holdsBetween v) := by
  rw [holdsBetween, h]
  exact configFree_limited_bind fun _ _ => configFree_limited_bind fun _ _ =>
    configFree_limited_bind fun _ _ => configFree_pure _

theorem configFree_holdsMatches {pattern : Pattern} (h : leaf.pattern = some pattern) :
    ConfigFree (leaf.holdsMatches v) := by
  rw [holdsMatches, h]
  exact configFree_limited_bind fun _ _ => configFree_pure _

theorem configFree_withItems {items : List Value} (h : leaf.operand = .array items)
    {test : List Value → Bool} : ConfigFree (leaf.withItems test) := by
  rw [withItems, h]
  exact configFree_pure _

theorem configFree_holdsAge {n : Number} (h : leaf.operand = .number n) (hn : n.finite? = some n)
    {test : Number → Number → Bool} : ConfigFree (leaf.holdsAge test now v) := by
  rw [holdsAge, h]
  refine configFree_limited_bind fun seconds hs => ?_
  have hsome : seconds = some n := (Except.ok.inj hs).symm.trans hn
  rw [hsome]
  simp only
  split
  · exact configFree_pure _
  · exact configFree_limited_bind fun _ _ => configFree_pure _

theorem Shaped.holdsOf (h : leaf.Shaped) : ConfigFree (leaf.holdsOf now v) := by
  unfold Leaf.holdsOf
  cases hop : leaf.op <;> simp only [Shaped, hop, Operator.shape] at h ⊢
  case greater | greaterOrEqual | less | lessOrEqual =>
    exact failsWith_compare Failure.not_isConfig_digitLimit
  case equal => exact configFree_limited _
  case notEqual => exact configFree_limited_bind fun _ _ => configFree_pure _
  case between =>
    obtain ⟨low, high, h⟩ := h
    exact configFree_holdsBetween h
  case contains | notContains | startsWith | endsWith =>
    exact failsWith_holdsText Failure.not_isConfig_digitLimit
  case matchesPattern =>
    obtain ⟨pattern, h⟩ := h
    exact configFree_holdsMatches h
  case isIn | notIn | hasAll | hasAny | hasNone =>
    obtain ⟨items, h⟩ := h
    exact configFree_withItems h
  case olderThan | newerThan | inLast =>
    obtain ⟨n, h, hn⟩ := h
    exact configFree_holdsAge h hn
  all_goals exact configFree_pure _

theorem Shaped.holds (h : leaf.Shaped) (r : Record) : ConfigFree (leaf.holds now r) := by
  unfold Leaf.holds
  simp only
  split
  · exact configFree_pure _
  · exact h.holdsOf

end Leaf

namespace Condition

mutual

theorem WellFormed.holds {now : Timestamp} {r : Record} {c : Condition} (h : c.WellFormed) :
    ConfigFree (c.holds now r) := by
  cases c with
  | leaf leaf => exact Leaf.Shaped.holds h r
  | compound connective parts path =>
    cases connective with
    | all => exact AllWellFormed.allHold h
    | any => exact AllWellFormed.anyHolds h
  | misplaced v => exact h.elim

theorem AllWellFormed.allHold {now : Timestamp} {r : Record} {parts : List Condition}
    (h : AllWellFormed parts) : ConfigFree (Condition.allHold now r parts) := by
  cases parts with
  | nil => exact configFree_pure _
  | cons c rest =>
    refine (WellFormed.holds h.1).bind fun passed _ => ?_
    split
    · exact AllWellFormed.allHold h.2
    · exact configFree_pure _

theorem AllWellFormed.anyHolds {now : Timestamp} {r : Record} {parts : List Condition}
    (h : AllWellFormed parts) : ConfigFree (Condition.anyHolds now r parts) := by
  cases parts with
  | nil => exact configFree_pure _
  | cons c rest =>
    refine (WellFormed.holds h.1).bind fun passed _ => ?_
    split
    · exact configFree_pure _
    · exact AllWellFormed.anyHolds h.2

end

end Condition

end EventChain
