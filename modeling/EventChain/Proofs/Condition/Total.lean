import EventChain.Proofs.Condition.Formula
import EventChain.Proofs.Condition.Grammar
import EventChain.Proofs.Json.Writable

/-!
# Evaluation is total

A condition that was read evaluates on every record and at every instant without a config error,
and where its operands and the record are writable, without any: `read_total` gives the boolean
as the formula of the condition over the answers of its leaves. The lemmas on leaves follow the
families of operators; those on reading say that a writable config gives writable operands.
-/

namespace EventChain

open Value (AllWritable EntriesWritable)

/-! ## Leaves -/

namespace Leaf

variable {leaf : Leaf} {now : Timestamp} {v : Value}

theorem compare_total {test : Number → Number → Bool} {operand : Value} (hv : v.Writable)
    (ho : operand.Writable) : ∃ b, compare test v operand = .ok b := by
  obtain ⟨m, hm⟩ := hv.toNumber
  obtain ⟨n, hn⟩ := ho.toNumber
  rw [compare, hm, hn]
  exact ⟨_, rfl⟩

theorem holdsBetween_total {low high : Value} (h : leaf.operand = .array [low, high])
    (ho : leaf.operand.Writable) (hv : v.Writable) : ∃ b, leaf.holdsBetween v = .ok b := by
  rw [h] at ho
  obtain ⟨n, hn⟩ := hv.toNumber
  obtain ⟨a, ha⟩ := ho.1.toNumber
  obtain ⟨b, hb⟩ := ho.2.1.toNumber
  rw [holdsBetween, h]
  simp only [hn, ha, hb]
  exact ⟨_, rfl⟩

theorem holdsText_total {test : String → String → Bool} (ho : leaf.operand.Writable)
    (hv : v.Writable) : ∃ b, leaf.holdsText test v = .ok b := by
  obtain ⟨text, ht⟩ := hv.toText
  obtain ⟨part, hp⟩ := ho.toText
  rw [holdsText, ht, hp]
  exact ⟨_, rfl⟩

theorem holdsMatches_total {pattern : Pattern} (h : leaf.pattern = some pattern)
    (hv : v.Writable) : ∃ b, leaf.holdsMatches v = .ok b := by
  obtain ⟨text, ht⟩ := hv.toText
  rw [holdsMatches, ht, h]
  exact ⟨_, rfl⟩

theorem withItems_total {items : List Value} (h : leaf.operand = .array items)
    {test : List Value → Bool} : ∃ b, leaf.withItems test = .ok b := by
  rw [withItems, h]
  exact ⟨_, rfl⟩

theorem holdsAge_total {n : Number} (h : leaf.operand = .number n) (hn : n.finite? = some n)
    (hv : v.Writable) {test : Number → Number → Bool} :
    ∃ b, leaf.holdsAge test now v = .ok b := by
  obtain ⟨shown, hs⟩ := hv.display
  have hseconds : (Value.number n).toNumber = .ok (some n) := congrArg _ hn
  rw [holdsAge, h, hseconds]
  cases ht : v.toTimestamp with
  | some t => exact ⟨_, rfl⟩
  | none =>
    simp only [hs]
    exact ⟨_, rfl⟩

theorem Shaped.holdsOf_total (h : leaf.Shaped) (ho : leaf.operand.Writable) (hv : v.Writable) :
    ∃ b, leaf.holdsOf now v = .ok b := by
  unfold Leaf.holdsOf
  cases hop : leaf.op <;> simp only [Shaped, hop, Operator.shape] at h ⊢
  case greater | greaterOrEqual | less | lessOrEqual => exact compare_total hv ho
  case equal =>
    obtain ⟨b, hb⟩ := hv.looseEquals .apart ho
    rw [hb]
    exact ⟨_, rfl⟩
  case notEqual =>
    obtain ⟨b, hb⟩ := hv.looseEquals .apart ho
    rw [hb]
    exact ⟨_, rfl⟩
  case between =>
    obtain ⟨low, high, h⟩ := h
    exact holdsBetween_total h ho hv
  case contains | notContains | startsWith | endsWith => exact holdsText_total ho hv
  case matchesPattern =>
    obtain ⟨pattern, h⟩ := h
    exact holdsMatches_total h hv
  case isIn | notIn | hasAll | hasAny | hasNone =>
    obtain ⟨items, h⟩ := h
    exact withItems_total h
  case olderThan | newerThan | inLast =>
    obtain ⟨n, h, hn⟩ := h
    exact holdsAge_total h hn hv
  all_goals exact ⟨_, rfl⟩

theorem Shaped.holds_total (h : leaf.Shaped) (ho : leaf.operand.Writable) {r : Record}
    (hr : EntriesWritable r) : ∃ b, leaf.holds now r = .ok b := by
  unfold Leaf.holds
  simp only
  split
  · exact ⟨_, rfl⟩
  · exact h.holdsOf_total ho (Record.writable_lookup hr _)

end Leaf

/-! ## Operands that were read -/

namespace Condition

/-- Every integer in the operands has decimal text. -/
def Writable (c : Condition) : Prop := ∀ leaf ∈ c.leaves, leaf.operand.Writable

theorem writable_of_readOperand {op : Operator} {v operand : Value} {path : String}
    {pattern : Option Pattern} (h : readOperand op v path = .ok (operand, pattern))
    (hv : v.Writable) : operand.Writable := by
  unfold readOperand at h
  cases hs : op.shape <;> simp only [hs] at h
  case unary =>
    cases h
    trivial
  case any =>
    cases h
    exact hv
  case array =>
    split at h
    · cases h
      exact hv
    · simp at h
  case bounds =>
    split at h
    · split at h
      · next ha hb =>
        cases h
        exact ⟨Config.writable_of_operand? ha hv.1, Config.writable_of_operand? hb hv.2.1, trivial⟩
      · simp at h
    · simp at h
  case duration =>
    split at h
    · next hn =>
      split at h
      · simp at h
      · cases h
        exact Config.writable_of_operand? hn hv
    · simp at h
  case pattern =>
    split at h
    · obtain ⟨pattern, -, h⟩ := bind_eq_ok.mp h
      cases h
      trivial
    · simp at h

theorem writable_of_readLeaf {r : Record} {path : String} {leaf : Leaf}
    (h : readLeaf r path = .ok leaf) (hr : EntriesWritable r) : leaf.operand.Writable := by
  unfold readLeaf at h
  dsimp only at h
  split at h
  · simp at h
  split at h
  · split at h
    · simp at h
    split at h
    · cases h
      trivial
    split at h
    · simp at h
    · next v hv =>
      obtain ⟨⟨operand, pattern⟩, ho, h⟩ := bind_eq_ok.mp h
      cases h
      exact writable_of_readOperand ho (Record.writable_of_get? hr hv)
  · simp at h

mutual

theorem writable_of_readAt {path : String} {v : Value} {c : Condition}
    (h : readAt path v = .ok c) (hv : v.Writable) : c.Writable := by
  match v, h with
  | .object r, h =>
    rw [readAt] at h
    split at h
    · split at h
      · simp at h
      split at h
      · next first rest hget =>
        obtain ⟨parts, hp, h⟩ := bind_eq_ok.mp h
        cases h
        have := Record.sizeOf_get?_lt hget
        exact writable_of_readParts hp (Record.writable_of_get? hv hget)
      · simp at h
    · obtain ⟨leaf, hl, h⟩ := bind_eq_ok.mp h
      cases h
      intro other ho
      cases List.mem_singleton.mp ho
      exact writable_of_readLeaf hl hv
  | .null, h | .boolean _, h | .number _, h | .text _, h | .array _, h | .timestamp _, h
  | .bytes _, h | .foreign _, h => simp [readAt] at h
termination_by sizeOf v
decreasing_by
  simp only [Value.array.sizeOf_spec, Value.object.sizeOf_spec, List.cons.sizeOf_spec] at *
  omega

theorem writable_of_readParts {path : String} {i : Nat} {vs : List Value}
    {parts : List Condition} (h : readParts path i vs = .ok parts) (hvs : AllWritable vs) :
    ∀ leaf ∈ allLeaves parts, leaf.operand.Writable := by
  unfold readParts at h
  split at h
  · cases h
    intro leaf hl
    cases hl
  · obtain ⟨part, hp, h⟩ := bind_eq_ok.mp h
    obtain ⟨parts, hps, h⟩ := bind_eq_ok.mp h
    cases h
    intro leaf hl
    rcases List.mem_append.mp hl with hl | hl
    · exact writable_of_readAt hp hvs.1 leaf hl
    · exact writable_of_readParts hps hvs.2 leaf hl
termination_by sizeOf vs

end

theorem writable_of_read {config : Value} {c : Condition} (h : read config = .ok c)
    (hc : config.Writable) : c.Writable := by
  obtain ⟨decoded, hd, h⟩ := bind_eq_ok.mp h
  exact writable_of_readAt h (Config.writable_of_decode hd hc)

/-! ## Evaluation -/

theorem WellFormed.holds_total {c : Condition} (h : c.WellFormed) (hc : c.Writable)
    (now : Timestamp) {r : Record} (hr : EntriesWritable r) : ∃ b, c.holds now r = .ok b := by
  have htotal (leaf : Leaf) (hl : leaf ∈ c.leaves) : ∃ b, leaf.holds now r = .ok b :=
    (h.shaped leaf hl).holds_total (hc leaf hl) hr
  have hanswer (leaf : Leaf) (hl : leaf ∈ c.leaves) :
      leaf.holds now r = .ok ((leaf.holds now r).toOption.getD false) := by
    obtain ⟨b, hb⟩ := htotal leaf hl
    rw [hb]
    rfl
  exact ⟨_, h.holds_eq_formula hanswer⟩

/-- The evaluation of a condition that was read ends in no config error. Where every integer of
the config, or of the operands read from it, and of the record has decimal text, it ends in none
at all: every leaf has an answer, and the evaluation comes to the formula over the answers. -/
theorem read_total {config : Value} {c : Condition} (h : read config = .ok c) :
    (∀ now r, ConfigFree (c.holds now r)) ∧ (config.Writable → c.Writable) ∧
    (c.Writable → ∀ now r, EntriesWritable r →
      ∃ answer : Leaf → Bool, (∀ leaf ∈ c.leaves, leaf.holds now r = .ok (answer leaf)) ∧
        c.holds now r = .ok (c.formula answer)) := by
  have hwf := read_wellFormed h
  refine ⟨fun now r => hwf.holds, writable_of_read h, fun hc now r hr => ?_⟩
  have htotal (leaf : Leaf) (hl : leaf ∈ c.leaves) : ∃ b, leaf.holds now r = .ok b :=
    (hwf.shaped leaf hl).holds_total (hc leaf hl) hr
  let answer (leaf : Leaf) : Bool := (leaf.holds now r).toOption.getD false
  have hanswer (leaf : Leaf) (hl : leaf ∈ c.leaves) : leaf.holds now r = .ok (answer leaf) := by
    obtain ⟨b, hb⟩ := htotal leaf hl
    simp only [answer, hb]
    rfl
  exact ⟨answer, hanswer, hwf.holds_eq_formula hanswer⟩

/-- Either a high level or a missing name. -/
theorem read_total_any :
    let config : Value := .object [("type", .text "or"), ("expressions", .array [
      .object [("field", .text "level"), ("operator", .text ">"), ("value", .int 3)],
      .object [("key", .text "name"), ("operator", .text "isNull")]])]
    let c : Condition := .compound .any [.leaf ⟨"level", .greater, .int 3, "expressions[0]", none⟩,
      .leaf ⟨"name", .isNull, .null, "expressions[1]", none⟩] ""
    let now : Timestamp := ⟨⟨2024, 6, 1, by decide⟩, .midnight, some .utc⟩
    let r : Record := [("level", .int 12)]
    read config = .ok c ∧ c.Writable ∧ EntriesWritable r ∧ ∃ answer : Leaf → Bool,
      (∀ leaf ∈ c.leaves, leaf.holds now r = .ok (answer leaf)) ∧
        c.holds now r = .ok (c.formula answer) := by
  intro config c now r
  have hlevel : readAt "expressions[0]" (.object [("field", .text "level"),
      ("operator", .text ">"), ("value", .int 3)]) =
      .ok (.leaf ⟨"level", .greater, .int 3, "expressions[0]", none⟩) := by
    rw [readAt]
    rfl
  have hname : readAt "expressions[1]" (.object [("key", .text "name"),
      ("operator", .text "isNull")]) =
      .ok (.leaf ⟨"name", .isNull, .null, "expressions[1]", none⟩) := by
    rw [readAt]
    rfl
  have hread : read config = .ok c := readAt_pair ⟨"or", rfl, by decide⟩ rfl hlevel hname
  have htotal := read_total hread
  have hconfig : config.Writable := by
    simp [config, Value.int, Value.Writable, AllWritable, EntriesWritable, Number.Writable]
    decide +kernel
  have hr : EntriesWritable r := by
    simp [r, Value.int, Value.Writable, EntriesWritable, Number.Writable]
    decide +kernel
  have hc := htotal.2.1 hconfig
  exact ⟨hread, hc, hr, htotal.2.2 hc now r hr⟩

end Condition

end EventChain
