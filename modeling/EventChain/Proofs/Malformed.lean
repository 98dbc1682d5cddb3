import EventChain.Chain
import EventChain.Proofs.Condition.Grammar
import EventChain.Proofs.Json.Limit
import EventChain.Proofs.Json.Writable

/-!
# Malformed configs

A config that is malformed is refused with a config error of its node, but for two kinds of fault
that surface as they are: bytes that are no text, and patterns whose repetitions, flags or counts
the reader of patterns does not take. `read_malformed` says that there are no others.
-/

namespace EventChain

open Value (AllWritable EntriesWritable)

/-- A config error that names no node yet, and whose message can be written. -/
def Failure.IsRefusal (failure : Failure) : Prop :=
  ∃ fault path, failure = .config ⟨fault, .null, path, none⟩ ∧ ∃ text, fault.message = .ok text

theorem isRefusal_of_refuse {α : Type} {fault : ConfigFault} {path : Option String}
    {failure : Failure} (hshown : ∃ text, fault.message = .ok text)
    (h : (refuse fault path : Except Failure α) = .error failure) : failure.IsRefusal := by
  obtain ⟨text, htext⟩ := Failure.message_eq_ok (e := ⟨fault, .null, path, none⟩) hshown ⟨_, rfl⟩
  have hconfig := Failure.ofConfig_eq_of_message htext
  exact ⟨fault, path, (throw_eq_error.mp h).symm.trans hconfig, hshown⟩

theorem isRefusal_of_shown {α : Type} {fault : ConfigFault} {path : Option String}
    {failure : Failure} {v : Value} {write : String → String} (hv : v.Writable)
    (hfault : fault.message = v.display >>= fun shown => pure (write shown))
    (h : (refuse fault path : Except Failure α) = .error failure) : failure.IsRefusal := by
  obtain ⟨shown, hshown⟩ := hv.display
  rw [hshown] at hfault
  exact isRefusal_of_refuse ⟨_, hfault⟩ h

theorem Failure.IsRefusal.attribute {failure : Failure} (h : failure.IsRefusal) {node : Value}
    (hnode : node.Writable) :
    ∃ e, failure.attribute node = .config e ∧ e.node = node := by
  obtain ⟨fault, path, rfl, hshown⟩ := h
  obtain ⟨text, htext⟩ :=
    Failure.message_eq_ok (e := ⟨fault, node, path, none⟩) hshown hnode.plain
  exact ⟨_, Failure.ofConfig_eq_of_message htext, rfl⟩

/-- Whether a computation fails in a given way. -/
instance Except.decidableEqError {ε α : Type} [DecidableEq ε] (x : Except ε α) (e : ε) :
    Decidable (x = .error e) :=
  match x with
  | .error e' => decidable_of_iff (e' = e) (by simp)
  | .ok _ => isFalse nofun

theorem Record.writable_get {r : Record} (h : EntriesWritable r) (key : String) :
    (r.get key).Writable := by
  unfold Record.get
  cases hv : r.get? key with
  | some v => exact writable_of_get? h hv
  | none => trivial

/-! ## Decoding -/

namespace Config

/-- Every integer of the config has decimal text. Of a text these are the integers of the JSON in
it, which reads alike with the limit on digits and without one. -/
def Bounded : Value → Prop
  | .text s => Json.parseText (some DigitLimit.most) s.toList = Json.parseText none s.toList
  | .bytes octets => ∀ cs, Text.decode octets = .ok cs →
      Json.parse (some DigitLimit.most) cs = Json.parse none cs
  | v => v.Writable

/-- The config is bytes that are no text, for the reason that the failure gives. -/
def Undecodable (config : Value) (failure : Failure) : Prop :=
  ∃ octets fault, config = .bytes octets ∧ Text.decode octets = .error fault ∧
    failure = .undecodable fault

theorem Bounded.writable {config : Value} (h : Bounded config) : config.Writable := by
  cases config with
  | text s => trivial
  | bytes octets => trivial
  | _ => exact h

theorem isRefusal_of_ofJson {α : Type} {x : Except Json.Fault α} {failure : Failure}
    (h : ofJson x = .error failure) (hx : ∀ fault, x = .error fault → ¬ fault.IsLimit) :
    failure.IsRefusal := by
  unfold ofJson at h
  split at h
  · cases h
  · exact absurd trivial (hx _ rfl)
  · exact isRefusal_of_refuse ⟨_, rfl⟩ h

theorem decode_eq_error {config : Value} {failure : Failure} (h : decode config = .error failure)
    (hc : Bounded config) : failure.IsRefusal ∨ Undecodable config failure := by
  cases config with
  | text s =>
    refine .inl (isRefusal_of_ofJson h fun fault hfault => ?_)
    exact Json.parseText_none_not_isLimit (hc.symm.trans hfault)
  | bytes octets =>
    unfold decode at h
    dsimp only at h
    split at h
    · next cs hcs =>
      refine .inl (isRefusal_of_ofJson h fun fault hfault => ?_)
      exact Json.parse_none_not_isLimit ((hc cs hcs).symm.trans hfault)
    · next fault hfault =>
      cases h
      exact .inr ⟨octets, fault, rfl, hfault, rfl⟩
  | _ => cases h

theorem decode_of_undecodable {config : Value} {failure : Failure}
    (h : Undecodable config failure) : decode config = .error failure := by
  obtain ⟨octets, fault, rfl, hfault, rfl⟩ := h
  rw [decode, hfault]
  rfl

end Config

/-! ## Conditions -/

/-- Why a pattern cannot be read though it need not be malformed: a repetition that is too large,
two alphabets at once, or a count of too many digits. -/
inductive Pattern.Unreadable (source : String) : EventChain.Failure → Prop where
  | repetition (h : Pattern.read source = .error .repetitionTooLarge) :
      Unreadable source (.excess .repetition)
  | alphabets (h : Pattern.read source = .error .alphabets) : Unreadable source .alphabets
  | digits {limit : DigitLimit} (h : Pattern.read source = .error (.digitLimit limit)) :
      Unreadable source (.digitLimit limit)

namespace Condition

inductive AsksFor : Value → String → Prop where
  | leaf {r : Record} {source : String}
      (hop : r.get? "operator" = some (.text Operator.matchesPattern.name))
      (hvalue : r.get? "value" = some (.text source)) : AsksFor (.object r) source
  | part {r : Record} {items : List Value} {item : Value} {source : String}
      (hparts : r.get? "expressions" = some (.array items)) (hmem : item ∈ items)
      (hasks : AsksFor item source) : AsksFor (.object r) source

theorem asksFor_object_iff {r : Record} {source : String} :
    AsksFor (.object r) source ↔
      r.get? "operator" = some (.text Operator.matchesPattern.name) ∧
        r.get? "value" = some (.text source) ∨
      ∃ items, ∃ item ∈ items, r.get? "expressions" = some (.array items) ∧
        AsksFor item source := by
  constructor
  · rintro (⟨hop, hvalue⟩ | ⟨hparts, hmem, hasks⟩)
    · exact .inl ⟨hop, hvalue⟩
    · exact .inr ⟨_, _, hmem, hparts, hasks⟩
  · rintro (⟨hop, hvalue⟩ | ⟨items, item, hmem, hparts, hasks⟩)
    · exact .leaf hop hvalue
    · exact .part hparts hmem hasks

/-- The config asks for a pattern that cannot be read, for the reason that the failure gives. -/
def AsksUnreadable (config : Value) (failure : Failure) : Prop :=
  ∃ v source, Config.decode config = .ok v ∧ AsksFor v source ∧
    Pattern.Unreadable source failure

theorem readPattern_eq_error {found : Value} {source path : String} {failure : Failure}
    (h : readPattern found source path = .error failure) (hfound : found.Writable) :
    failure.IsRefusal ∨ Pattern.Unreadable source failure := by
  unfold readPattern at h
  split at h
  · cases h
  · exact .inl (isRefusal_of_shown hfound rfl h)
  · next hread =>
    cases h
    exact .inr (.repetition hread)
  · next hread =>
    cases h
    exact .inr (.alphabets hread)
  · next hread =>
    cases h
    exact .inr (.digits hread)

theorem readOperand_eq_error {op : Operator} {v : Value} {path : String} {failure : Failure}
    (h : readOperand op v path = .error failure) (hv : v.Writable) :
    failure.IsRefusal ∨ op = .matchesPattern ∧ ∃ source, v = .text source ∧
      Pattern.Unreadable source failure := by
  unfold readOperand at h
  cases hs : op.shape <;> simp only [hs] at h
  case unary => cases h
  case any => cases h
  case array =>
    split at h
    · cases h
    · exact .inl (isRefusal_of_refuse ⟨_, rfl⟩ h)
  case bounds =>
    split at h
    · split at h
      · cases h
      · exact .inl (isRefusal_of_shown hv rfl h)
    · exact .inl (isRefusal_of_shown hv rfl h)
  case duration =>
    split at h
    · split at h
      · exact .inl (isRefusal_of_shown hv rfl h)
      · cases h
    · exact .inl (isRefusal_of_shown hv rfl h)
  case pattern =>
    have hop := Operator.shape_eq_pattern_iff.mp hs
    split at h
    · next source =>
      rcases bind_eq_error.mp h with h | ⟨_, -, h⟩
      · rcases readPattern_eq_error h hv with hrefusal | hunreadable
        · exact .inl hrefusal
        · exact .inr ⟨hop, source, rfl, hunreadable⟩
      · cases h
    · exact .inl (isRefusal_of_shown hv rfl h)

theorem readLeaf_eq_error {r : Record} {path : String} {failure : Failure}
    (h : readLeaf r path = .error failure) (hr : (Value.object r).Writable) :
    failure.IsRefusal ∨ ∃ source, AsksFor (.object r) source ∧
      Pattern.Unreadable source failure := by
  unfold readLeaf at h
  dsimp only at h
  split at h
  · exact .inl (isRefusal_of_refuse ⟨_, rfl⟩ h)
  split at h
  · next name hname =>
    split at h
    · exact .inl (isRefusal_of_refuse ⟨_, rfl⟩ h)
    next op hop =>
    split at h
    · cases h
    split at h
    · exact .inl (isRefusal_of_refuse ⟨_, rfl⟩ h)
    next v hvalue =>
    rcases bind_eq_error.mp h with h | ⟨_, -, h⟩
    · rcases readOperand_eq_error h (Record.writable_of_get? hr hvalue) with
        hrefusal | ⟨rfl, source, rfl, hunreadable⟩
      · exact .inl hrefusal
      · rw [Record.get_eq_text_iff] at hname
        rw [Condition.ofName?_eq_some_iff.mp hop] at hname
        exact .inr ⟨source, .leaf hname hvalue, hunreadable⟩
    · cases h
  · exact .inl (isRefusal_of_shown (Record.writable_get hr _) rfl h)

mutual

theorem readAt_eq_error {path : String} {v : Value} {failure : Failure}
    (h : readAt path v = .error failure) (hv : v.Writable) :
    failure.IsRefusal ∨ ∃ source, AsksFor v source ∧ Pattern.Unreadable source failure := by
  match v, h with
  | .object r, h =>
    rw [readAt] at h
    split at h
    · split at h
      · exact .inl (isRefusal_of_shown (Record.writable_get hv _) rfl h)
      split at h
      · next first rest hget =>
        have := Record.sizeOf_get?_lt hget
        rcases bind_eq_error.mp h with h | ⟨_, -, h⟩
        · rcases readParts_eq_error h (Record.writable_of_get? hv hget) with
            hrefusal | ⟨item, hmem, source, hasks, hunreadable⟩
          · exact .inl hrefusal
          · exact .inr ⟨source, .part hget hmem hasks, hunreadable⟩
        · cases h
      · exact .inl (isRefusal_of_refuse ⟨_, rfl⟩ h)
    · rcases bind_eq_error.mp h with h | ⟨_, -, h⟩
      · exact readLeaf_eq_error h hv
      · cases h
  | .null, h | .boolean _, h | .number _, h | .text _, h | .array _, h | .timestamp _, h
  | .bytes _, h | .foreign _, h =>
    simp only [readAt] at h
    exact .inl (isRefusal_of_refuse ⟨_, rfl⟩ h)
termination_by sizeOf v
decreasing_by
  simp only [Value.array.sizeOf_spec, Value.object.sizeOf_spec, List.cons.sizeOf_spec] at *
  omega

theorem readParts_eq_error {path : String} {i : Nat} {items : List Value} {failure : Failure}
    (h : readParts path i items = .error failure) (hitems : AllWritable items) :
    failure.IsRefusal ∨ ∃ item ∈ items, ∃ source, AsksFor item source ∧
      Pattern.Unreadable source failure := by
  unfold readParts at h
  split at h
  · cases h
  next first rest =>
  rcases bind_eq_error.mp h with h | ⟨_, -, h⟩
  · rcases readAt_eq_error h hitems.1 with hrefusal | hasks
    · exact .inl hrefusal
    · exact .inr ⟨first, List.mem_cons_self, hasks⟩
  rcases bind_eq_error.mp h with h | ⟨_, -, h⟩
  · rcases readParts_eq_error h hitems.2 with hrefusal | ⟨item, hmem, hasks⟩
    · exact .inl hrefusal
    · exact .inr ⟨item, List.mem_cons_of_mem _ hmem, hasks⟩
  · cases h
termination_by sizeOf items

end

theorem read_eq_error {config : Value} {failure : Failure} (h : read config = .error failure)
    (hc : Config.Bounded config) :
    failure.IsRefusal ∨ Config.Undecodable config failure ∨ AsksUnreadable config failure := by
  rcases bind_eq_error.mp h with h | ⟨v, hv, h⟩
  · exact (Config.decode_eq_error h hc).imp_right .inl
  · rcases readAt_eq_error h (Config.writable_of_decode hv hc.writable) with
      hrefusal | ⟨source, hasks, hunreadable⟩
    · exact .inl hrefusal
    · exact .inr (.inr ⟨v, source, hv, hasks, hunreadable⟩)

theorem Unreadable.readPattern {found : Value} {source path : String} {failure : Failure}
    (h : Pattern.Unreadable source failure) : readPattern found source path = .error failure := by
  unfold Condition.readPattern
  cases h with
  | repetition h => rw [h]; rfl
  | alphabets h => rw [h]; rfl
  | digits h => rw [h]; rfl

theorem read_of_unreadable {r : Record} {field source : String} {failure : Failure}
    (hleaf : r.get? "type" = none ∧ r.get? "expressions" = none) (hnames : Names r field)
    (hop : r.get? "operator" = some (.text Operator.matchesPattern.name))
    (hvalue : r.get? "value" = some (.text source)) (h : Pattern.Unreadable source failure) :
    read (.object r) = .error failure := by
  have hoperand (path : String) :
      readOperand .matchesPattern (.text source) path = .error failure :=
    bind_eq_error.mpr (.inl (Unreadable.readPattern h))
  have hread : readLeaf r "" = .error failure := by
    unfold readLeaf
    dsimp only
    split
    · next hnone => cases hnone.symm.trans (names_iff.mpr hnames)
    · rw [Record.get_eq_text_iff.mpr hop]
      simp only [Operator.ofName?_name, hvalue, hoperand]
      rfl
  have hsimple : (r.has "type" || r.has "expressions") = false := by
    simp only [Bool.or_eq_false_iff, has_eq_false_iff]
    exact hleaf
  show readAt "" (.object r) = .error failure
  rw [readAt, hsimple, hread]
  rfl

end Condition

/-! ## Transforms and actions -/

theorem Transform.read_eq_error {config : Value} {failure : Failure}
    (h : read config = .error failure) (hc : Config.Bounded config) :
    failure.IsRefusal ∨ Config.Undecodable config failure := by
  rcases bind_eq_error.mp h with h | ⟨v, hv, h⟩
  · exact Config.decode_eq_error h hc
  refine .inl ?_
  have hwritable := Config.writable_of_decode hv hc.writable
  split at h
  · split at h
    · exact isRefusal_of_refuse ⟨_, rfl⟩ h
    split at h
    · dsimp only at h
      split at h
      · exact isRefusal_of_shown (Record.writable_get hwritable _) rfl h
      split at h
      · exact isRefusal_of_refuse ⟨_, rfl⟩ h
      · cases h
    · exact isRefusal_of_shown (Record.writable_get hwritable _) rfl h
  · exact isRefusal_of_refuse ⟨_, rfl⟩ h

namespace Action

theorem deviceOf_total {r : Record} (hr : EntriesWritable r) (keys : List String) :
    ∃ device, deviceOf r keys = .ok device := by
  induction keys with
  | nil => exact ⟨none, rfl⟩
  | cons key rest ih =>
    unfold deviceOf
    dsimp only
    split
    · exact ih
    · obtain ⟨text, htext⟩ := (Record.writable_get hr key).plain
      rw [htext]
      exact ⟨some text, rfl⟩

theorem read_eq_error {config : Value} {failure : Failure} (h : read config = .error failure)
    (hc : Config.Bounded config) :
    failure.IsRefusal ∨ Config.Undecodable config failure := by
  rcases bind_eq_error.mp h with h | ⟨v, hv, h⟩
  · exact Config.decode_eq_error h hc
  refine .inl ?_
  have hwritable := Config.writable_of_decode hv hc.writable
  split at h
  · next r =>
    obtain ⟨device, hdevice⟩ := deviceOf_total hwritable deviceKeys
    rw [hdevice] at h
    cases h
  · exact isRefusal_of_refuse ⟨_, rfl⟩ h

end Action

/-! ## Nodes -/

/-- What a reader makes of a malformed config, as the node that carries it fails with it. -/
theorem attribute_of_malformed {config node : Value} {failure : Failure} (hnode : node.Writable)
    (h : failure.IsRefusal ∨ Config.Undecodable config failure) :
    (∃ e, failure.attribute node = .config e ∧ e.node = node) ∨
      Config.Undecodable config (failure.attribute node) := by
  rcases h with hrefusal | ⟨octets, fault, hbytes, hfault, rfl⟩
  · exact .inl (hrefusal.attribute hnode)
  · exact .inr ⟨octets, fault, hbytes, hfault, rfl⟩

theorem Pattern.Unreadable.attribute {source : String} {failure : EventChain.Failure}
    (h : Pattern.Unreadable source failure) (node : Value) :
    Pattern.Unreadable source (failure.attribute node) := by
  cases h with
  | repetition hread => exact .repetition hread
  | alphabets hread => exact .alphabets hread
  | digits hread => exact .digits hread

theorem Node.step_eq_error {node : Node} {failure : Failure}
    (h : node.step Condition.read = .error failure) (hc : Config.Bounded node.config)
    (hid : node.id.Writable) (htype : node.type.Writable) :
    (∃ e, failure = .config e ∧ e.node = node.id) ∨
      Config.Undecodable node.config failure ∨ Condition.AsksUnreadable node.config failure := by
  unfold Node.step at h
  split at h
  case h_1 =>
    obtain ⟨inner, hread, rfl⟩ := attributed_eq_error.mp h
    rw [bind_pure_eq_error] at hread
    rcases Condition.read_eq_error hread hc with hrefusal | hundecodable | hasks
    · exact .inl (hrefusal.attribute hid)
    · have hfails := attribute_of_malformed hid (.inr hundecodable)
      exact hfails.imp_right .inl
    · obtain ⟨v, source, hv, hasks, hunreadable⟩ := hasks
      exact .inr (.inr ⟨v, source, hv, hasks, hunreadable.attribute node.id⟩)
  case h_2 =>
    obtain ⟨inner, hread, rfl⟩ := attributed_eq_error.mp h
    rw [bind_pure_eq_error] at hread
    exact (attribute_of_malformed hid (Transform.read_eq_error hread hc)).imp_right .inl
  case h_3 =>
    obtain ⟨inner, hread, rfl⟩ := attributed_eq_error.mp h
    rw [bind_pure_eq_error] at hread
    exact (attribute_of_malformed hid (Action.read_eq_error hread hc)).imp_right .inl
  case h_4 =>
    rw [bind_pure_eq_error] at h
    obtain ⟨limit, hlimit, -⟩ := limited_eq_error.mp h
    obtain ⟨text, htext⟩ := htype.plain
    cases hlimit.symm.trans htext

/-- Reading a config that is malformed refuses it, with two exceptions. Bytes that are no text are
the failure of every reader, and a pattern that the reader of patterns does not take is that of a
condition that asks for it, always so of a leaf on its own. The same holds of the nodes that carry
the config: what refuses it is then an error of the node. -/
theorem read_malformed {config : Value} (hc : Config.Bounded config) :
    (∀ failure, Condition.read config = .error failure →
      failure.IsRefusal ∨ Config.Undecodable config failure ∨
        Condition.AsksUnreadable config failure) ∧
    (∀ failure, Transform.read config = .error failure →
      failure.IsRefusal ∨ Config.Undecodable config failure) ∧
    (∀ failure, Action.read config = .error failure →
      failure.IsRefusal ∨ Config.Undecodable config failure) ∧
    (∀ failure, Config.Undecodable config failure →
      Condition.read config = .error failure ∧ Transform.read config = .error failure ∧
        Action.read config = .error failure) ∧
    (∀ (r : Record) field source failure, config = .object r →
      r.get? "type" = none ∧ r.get? "expressions" = none → Condition.Names r field →
      r.get? "operator" = some (.text Operator.matchesPattern.name) →
      r.get? "value" = some (.text source) → Pattern.Unreadable source failure →
        Condition.read config = .error failure) ∧
    ∀ node : Node, node.config = config → node.id.Writable → node.type.Writable → ∀ failure,
      node.step Condition.read = .error failure →
        (∃ e, failure = .config e ∧ e.node = node.id) ∨ Config.Undecodable config failure ∨
          Condition.AsksUnreadable config failure := by
  refine ⟨fun _ h => Condition.read_eq_error h hc, fun _ h => Transform.read_eq_error h hc,
    fun _ h => Action.read_eq_error h hc, fun failure h => ?_, ?_, ?_⟩
  · have hdecode := Config.decode_of_undecodable h
    exact ⟨bind_eq_error.mpr (.inl hdecode), bind_eq_error.mpr (.inl hdecode),
      bind_eq_error.mpr (.inl hdecode)⟩
  · rintro r field source failure rfl hleaf hnames hop hvalue h
    exact Condition.read_of_unreadable hleaf hnames hop hvalue h
  · rintro node rfl hid htype failure h
    exact Node.step_eq_error h hc hid htype

/-- A transform that divides by zero is refused with an error of its node. -/
theorem read_malformed_division :
    let config : Value := .object [("field", .text "level"), ("operation", .text "divide"),
      ("operand", .int 0)]
    let node : Node := ⟨.int 7, .null, .text "transform", .null, config, .null⟩
    Config.Bounded config ∧ node.id.Writable ∧ node.type.Writable ∧
      ∃ failure, node.step Condition.read = .error failure ∧
        ∃ e, failure = .config e ∧ e.node = .int 7 := by
  intro config node
  have hzero : (Value.int 0).Writable := Nat.pow_pos (by decide)
  have hid : node.id.Writable := Nat.lt_of_lt_of_le (by decide : 7 < 10 ^ 1)
    (Nat.pow_le_pow_right (by decide) (by decide))
  have hc : Config.Bounded config := ⟨trivial, trivial, hzero, trivial⟩
  obtain ⟨failure, hfails⟩ : ∃ failure, node.step Condition.read = .error failure := ⟨_, rfl⟩
  obtain ⟨-, -, -, -, -, hnodes⟩ := read_malformed hc
  refine ⟨hc, hid, trivial, failure, hfails, ?_⟩
  rcases hnodes node rfl hid trivial failure hfails with
    hrefused | ⟨_, _, hbytes, -⟩ | ⟨v, source, hv, hasks, -⟩
  · exact hrefused
  · exact absurd hbytes nofun
  · obtain rfl : config = v := Except.ok.inj hv
    rw [Condition.asksFor_object_iff] at hasks
    rcases hasks with ⟨hop, -⟩ | ⟨_, _, _, hparts, -⟩
    · cases hop
    · cases hparts

/-- Reading fails other than with a config error where the number of a repetition is too large,
where a pattern has flags for two alphabets, and where the bytes of a config are no text. -/
theorem read_otherwise :
    let asks (pattern : String) : Value :=
      .object [("field", .text "s"), ("operator", .text "matches"), ("value", .text pattern)]
    Config.Bounded (asks "a{4294967295}") ∧
      Condition.read (asks "a{4294967295}") = .error (.excess .repetition) ∧
      Config.Bounded (asks "(?a)(?u)x") ∧
      Condition.read (asks "(?a)(?u)x") = .error .alphabets ∧
      Config.Bounded (.bytes [0xff]) ∧ ∃ fault,
        Condition.read (.bytes [0xff]) = .error (.undecodable fault) ∧
        Transform.read (.bytes [0xff]) = .error (.undecodable fault) ∧
        Action.read (.bytes [0xff]) = .error (.undecodable fault) := by
  intro asks
  have hbounded (pattern : String) : Config.Bounded (asks pattern) :=
    ⟨trivial, trivial, trivial, trivial⟩
  have hnames (pattern : String) : Condition.Names [("field", .text "s"),
      ("operator", .text "matches"), ("value", .text pattern)] "s" := ⟨by decide, .inl rfl⟩
  have hread {pattern : String} {failure : Failure} (h : Pattern.Unreadable pattern failure) :
      Condition.read (asks pattern) = .error failure :=
    Condition.read_of_unreadable ⟨rfl, rfl⟩ (hnames pattern) rfl rfl h
  refine ⟨hbounded _, hread (.repetition (by decide +kernel)), hbounded _,
    hread (.alphabets (by decide +kernel)), fun _ h => ?_, _, rfl, rfl, rfl⟩
  cases h

end EventChain
