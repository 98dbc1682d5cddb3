import EventChain.Proofs.Json.RoundTrip
import EventChain.Proofs.Json.Writable
import EventChain.Proofs.Run.Configs

/-!
# Configs as text and as values

A text, or bytes, may hold the config of a node as JSON (`Config.Holds`). The node is read as if its
config were the value in it, unless that is null: null in a text is a value that is no object, while
a config that is null stands for an empty object (`Node.step_of_holds`).
-/

namespace EventChain

theorem Json.number_eq_ok {limit : Option Nat} {cs rest : List Char} {v : Value}
    (h : number limit cs = .ok (v, rest)) : ∃ n, v = .number n := by
  unfold number at h
  split at h
  split at h
  split at h
  · cases h
  split at h
  split at h
  · cases h
    exact ⟨_, rfl⟩
  split at h
  · split at h
    · cases h
    · cases h
      exact ⟨_, rfl⟩
  · cases h
    exact ⟨_, rfl⟩

theorem Json.value_ne_bytes {limit : Option Nat} {depth : Nat} {cs rest : List Char} {v : Value}
    (h : value limit depth cs = .ok (v, rest)) (octets : List UInt8) : v ≠ .bytes octets := by
  cases depth with
  | zero => cases h
  | succ depth =>
    unfold value at h
    split at h
    case h_1 =>
      obtain ⟨_, -, h⟩ := bind_eq_ok.mp h
      cases h
      simp
    case h_2 | h_3 =>
      split at h
      · cases h
        simp
      · obtain ⟨_, -, h⟩ := bind_eq_ok.mp h
        cases h
        simp
    case h_10 =>
      obtain ⟨n, rfl⟩ := number_eq_ok h
      simp
    all_goals
      cases h
      simp

theorem Json.parse_ne_bytes {limit : Option Nat} {cs : List Char} {v : Value}
    (h : parse limit cs = .ok v) (octets : List UInt8) : v ≠ .bytes octets := by
  obtain ⟨⟨w, rest⟩, hw, h⟩ := bind_eq_ok.mp h
  dsimp only at h
  split at h
  · cases h
    exact value_ne_bytes hw octets
  · cases h

namespace Config

/-- The config is a text, or bytes, that hold a value as JSON. -/
inductive Holds : Value → Value → Prop where
  | text {s : String} {v : Value}
      (hparse : Json.parseText (some DigitLimit.most) s.toList = .ok v) : Holds (.text s) v
  | bytes {octets : List UInt8} {cs : List Char} {v : Value} (hdecode : Text.decode octets = .ok cs)
      (hparse : Json.parse (some DigitLimit.most) cs = .ok v) : Holds (.bytes octets) v

variable {config v : Value}

theorem Holds.decode (h : Holds config v) : decode config = .ok v := by
  cases h with
  | text hparse => exact ofJson_eq_ok.mpr hparse
  | bytes hdecode hparse =>
    rw [Config.decode, hdecode]
    exact ofJson_eq_ok.mpr hparse

theorem Holds.ne_bytes (h : Holds config v) (octets : List UInt8) : v ≠ .bytes octets := by
  cases h with
  | text hparse =>
    unfold Json.parseText at hparse
    split at hparse
    · cases hparse
    · exact Json.parse_ne_bytes hparse octets
  | bytes _ hparse => exact Json.parse_ne_bytes hparse octets

/-- A value in JSON that is neither null nor a text is a config that decodes to itself. -/
theorem Holds.decode_self (h : Holds config v) (htext : ∀ s, v ≠ .text s) (hnull : v ≠ .null) :
    Config.decode v = .ok v := by
  unfold Config.decode
  split
  · exact absurd rfl hnull
  · exact absurd rfl (htext _)
  · exact absurd rfl (h.ne_bytes _)
  · rfl

end Config

namespace Node

def Reads (node : Node) : Prop :=
  node.type = .text "filter" ∨ node.type = .text "transform" ∨ node.type = .text "action"

def withConfig (node : Node) (config : Value) : Node := { node with config }

variable {node : Node}

theorem step_withConfig {config : Value} (h : Config.decode node.config = Config.decode config)
    (hreads : node.Reads) :
    node.step Condition.read = (node.withConfig config).step Condition.read := by
  unfold step withConfig
  dsimp only
  rcases hreads with htype | htype | htype
  · rw [htype, Condition.read_congr h]
    rfl
  · rw [htype, Transform.read_congr h]
    rfl
  · rw [htype, Action.read_congr h]
    rfl

theorem step_of_decode_null (h : Config.decode node.config = .ok .null) :
    (node.type = .text "filter" → node.step Condition.read =
      attributed node.id (refuse (.conditionNotObject .null) none)) ∧
    (node.type = .text "transform" → node.step Condition.read =
      attributed node.id (refuse .transformNotObject none)) ∧
    (node.type = .text "action" → node.step Condition.read =
      attributed node.id (refuse .actionNotObject none)) := by
  unfold step
  refine ⟨fun htype => ?_, fun htype => ?_, fun htype => ?_⟩
  · have hread : Condition.read node.config = refuse (.conditionNotObject .null) none := by
      rw [Condition.read, h]
      show Condition.readAt "" .null = _
      simp only [Condition.readAt]
      rfl
    rw [htype, hread]
    rfl
  · rw [htype, Transform.read, h]
    rfl
  · rw [htype, Action.read, h]
    rfl

theorem step_of_null (h : node.config = .null) :
    (node.type = .text "filter" → node.step Condition.read =
      attributed node.id (refuse .noField "field")) ∧
    (node.type = .text "transform" → node.step Condition.read =
      attributed node.id (refuse .transformWithoutField "field")) ∧
    (node.type = .text "action" → node.step Condition.read =
      .ok (.action node.id ⟨.object [], none, []⟩)) := by
  unfold step
  rw [h]
  refine ⟨fun htype => ?_, fun htype => ?_, fun htype => ?_⟩
  · have hread : Condition.read .null = refuse .noField "field" := by
      show Condition.readAt "" (.object []) = _
      rw [Condition.readAt]
      rfl
    rw [htype, hread]
    rfl
  · rw [htype]
    rfl
  · rw [htype]
    rfl

/-- A node is read alike with a config that holds a value as JSON and with the value itself, which
is no text, unless the value is null: null in a config is refused as no object, while a config that
is null stands for an object without entries. -/
theorem step_of_holds {v : Value} (h : Config.Holds node.config v) (htext : ∀ s, v ≠ .text s)
    (hreads : node.Reads) :
    (v ≠ .null → node.step Condition.read = (node.withConfig v).step Condition.read) ∧
    (v = .null →
      (node.type = .text "filter" →
        node.step Condition.read =
          attributed node.id (refuse (.conditionNotObject .null) none) ∧
        (node.withConfig v).step Condition.read = attributed node.id (refuse .noField "field")) ∧
      (node.type = .text "transform" →
        node.step Condition.read = attributed node.id (refuse .transformNotObject none) ∧
        (node.withConfig v).step Condition.read =
          attributed node.id (refuse .transformWithoutField "field")) ∧
      (node.type = .text "action" →
        node.step Condition.read = attributed node.id (refuse .actionNotObject none) ∧
        (node.withConfig v).step Condition.read =
          .ok (.action node.id ⟨.object [], none, []⟩))) := by
  constructor
  · intro hnull
    exact step_withConfig (h.decode.trans (h.decode_self htext hnull).symm) hreads
  · rintro rfl
    obtain ⟨hfilter, htransform, haction⟩ := step_of_decode_null h.decode
    have hnull : (node.withConfig .null).config = .null := rfl
    obtain ⟨hfilter', htransform', haction'⟩ := step_of_null hnull
    exact ⟨fun htype => ⟨hfilter htype, hfilter' htype⟩,
      fun htype => ⟨htransform htype, htransform' htype⟩,
      fun htype => ⟨haction htype, haction' htype⟩⟩

/-- A transform in a text. -/
theorem step_of_holds_level :
    let text := "\x7b\"field\": \"level\", \"operation\": \"add\", \"operand\": 5\x7d"
    let v : Value := .object [("field", .text "level"), ("operation", .text "add"),
      ("operand", .int 5)]
    let node : Node := ⟨.int 7, .null, .text "transform", .null, .text text, .null⟩
    Config.Holds node.config v ∧ node.Reads ∧
      node.step Condition.read = .ok (.transform (.int 7) ⟨"level", "add", .int 5⟩) := by
  intro text v node
  have hwrite : Json.write v = .ok text := rfl
  have hholds : Config.Holds node.config v := .text (Json.parseText_write hwrite (by decide))
  have hreads : node.Reads := .inr (.inl rfl)
  obtain ⟨hsame, -⟩ := step_of_holds hholds (by simp [v]) hreads
  exact ⟨hholds, hreads, (hsame (by simp [v])).trans rfl⟩

/-- An action without entries is refused where its config is the text of null, and read where its
config is null. -/
theorem step_otherwise :
    let node : Node := ⟨.int 7, .null, .text "action", .null, .text "null", .null⟩
    Config.Holds node.config .null ∧ node.Reads ∧
      node.step Condition.read =
        .error (.config ⟨.actionNotObject, .int 7, none, none⟩) ∧
      (node.withConfig .null).step Condition.read =
        .ok (.action (.int 7) ⟨.object [], none, []⟩) := by
  intro node
  have hholds : Config.Holds node.config .null := .text rfl
  have hnull := step_of_decode_null hholds.decode
  exact ⟨hholds, .inr (.inr rfl), (hnull.2.2 rfl).trans rfl, rfl⟩

end Node

end EventChain
