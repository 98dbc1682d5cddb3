import EventChain.Proofs.Route.Build

/-!
# Nodes that form no route

Which error building a route comes to depends on the links and not on the order in which the
nodes are stored. A chain with a fault of a node, a link or a second head (`Defective`) is refused
as misconfigured; every other one that has a cycle or more nodes than the limit (`Endless`) is
refused as cyclic (`build_refused`). `Showable` chains have only integers that a message can show.
-/

namespace EventChain

/-- A fault of nodes that are met again, or never. -/
def ConfigFault.IsLoop : ConfigFault → Prop
  | loop _ _ | loopOutside _ _ => True
  | _ => False

theorem Failure.label_ofConfig {e : ConfigError} (h : ∃ text, e.message = .ok text) :
    (Failure.ofConfig e).label =
      if e.cyclic.isSome then "CyclicChainError" else "ConfigurationError" := by
  obtain ⟨text, h⟩ := h
  rw [Failure.ofConfig_eq_of_message h, Failure.label]

theorem Failure.label_ofConfig_of_no_text {e : ConfigError} (h : ∀ text, e.node.plain ≠ .ok text) :
    (Failure.ofConfig e).label = "ValueError" := by
  cases hm : e.message with
  | error limit => simp only [ofConfig, hm, label]
  | ok text =>
    simp only [ConfigError.message, bind_eq_ok] at hm
    obtain ⟨-, -, shown, hshown, -⟩ := hm
    exact absurd hshown (h shown)

namespace Route

variable {chain : Chain} {nodes others : List Node} {limit : Int}

/-- A fault of a node, of a link, or a second head. -/
def Defective (chain : Chain) (nodes : List Node) : Prop :=
  ¬ Distinct nodes ∨ ¬ OneChain chain nodes ∨ ¬ Closed nodes ∨ ManyHeads nodes

/-- A cycle, or more nodes than the limit, which is not looked at without nodes. -/
def Endless (nodes : List Node) (limit : Int) : Prop :=
  Cyclic nodes ∨ (nodes ≠ [] ∧ limit < nodes.length)

theorem defective_iff : Defective chain nodes ↔ ¬ Sound chain nodes := by
  constructor
  · rintro h ⟨hd, ho, hc, hm⟩
    simp [Defective, hd, ho, hc, hm] at h
  · intro h
    simp only [Defective]
    by_contra hnot
    simp only [not_or, not_not] at hnot
    exact h ⟨hnot.1, hnot.2.1, hnot.2.2.1, hnot.2.2.2⟩

/-! ## Storage orders -/

theorem link_eq_of_perm (h : nodes.Perm others) : Link nodes = Link others := by
  funext a b
  simp only [Link, h.mem_iff]

theorem sound_iff_of_perm (h : nodes.Perm others) : Sound chain nodes ↔ Sound chain others := by
  have hd : Distinct nodes ↔ Distinct others := (h.map _).nodup_iff
  have ho : OneChain chain nodes ↔ OneChain chain others := by simp only [OneChain, h.mem_iff]
  have hc : Closed nodes ↔ Closed others := by simp only [Closed, h.mem_iff]
  have hm : ManyHeads nodes ↔ ManyHeads others := by simp only [ManyHeads, IsHead, h.mem_iff]
  constructor
  · rintro ⟨h₁, h₂, h₃, h₄⟩
    exact ⟨hd.mp h₁, ho.mp h₂, hc.mp h₃, mt hm.mpr h₄⟩
  · rintro ⟨h₁, h₂, h₃, h₄⟩
    exact ⟨hd.mpr h₁, ho.mpr h₂, hc.mpr h₃, mt hm.mp h₄⟩

theorem endless_iff_of_perm (h : nodes.Perm others) :
    Endless nodes limit ↔ Endless others limit := by
  simp only [Endless, Cyclic, OnCycle, link_eq_of_perm h, h.length_eq, ne_eq,
    ← List.length_eq_zero_iff]

theorem Enumerates.of_perm {order : List Node} (h : Enumerates others order)
    (hp : nodes.Perm others) : Enumerates nodes order :=
  ⟨h.perm.trans hp.symm, h.linked, h.ends⟩

/-! ## Errors that can be shown -/

/-- The integers in the chain's identifier, in those of the nodes and in their links, and the
limit itself have decimal text. -/
structure Showable (chain : Chain) (nodes : List Node) (limit : Int) : Prop where
  whole : chain.id.Writable
  own : ∀ node ∈ nodes, node.chain.Writable
  ids : ∀ node ∈ nodes, node.id.Writable
  links : ∀ node ∈ nodes, node.next.Writable
  bound : (Number.int limit).Writable

theorem Showable.of_perm (h : Showable chain nodes limit) (hp : nodes.Perm others) :
    Showable chain others limit where
  whole := h.whole
  own node hn := h.own node (hp.mem_iff.mpr hn)
  ids node hn := h.ids node (hp.mem_iff.mpr hn)
  links node hn := h.links node (hp.mem_iff.mpr hn)
  bound := h.bound

theorem Showable.display (h : Showable chain nodes limit) {ids : List Value}
    (hids : ∀ id ∈ ids, ∃ node ∈ nodes, node.id = id) :
    ∃ text, (Value.array ids).display = .ok text := by
  refine Value.Writable.display (Value.allWritable_iff.mpr fun id hid => ?_)
  obtain ⟨node, hn, rfl⟩ := hids id hid
  exact h.ids node hn

theorem label_refusedNode {fault : ConfigFault} {node : Value} {path : Option String}
    (hf : ∃ text, fault.message = .ok text) (hn : node.Writable) :
    (Failure.ofConfig ⟨fault, node, path, none⟩).label = "ConfigurationError" :=
  Failure.label_ofConfig (Failure.message_eq_ok hf hn.plain)

theorem label_refusedCycle {fault : ConfigFault} {node : Value}
    (hf : ∃ text, fault.message = .ok text) (hn : node.Writable) :
    (Failure.ofConfig ⟨fault, node, none, some chain.id⟩).label = "CyclicChainError" :=
  Failure.label_ofConfig (Failure.message_eq_ok hf hn.plain)

theorem NodesChecked.label (hw : Showable chain nodes limit) {failure : Failure}
    (h : NodesChecked chain [] nodes (.error failure)) : failure.label = "ConfigurationError" := by
  obtain ⟨whole, hwhole⟩ := hw.whole.plain
  cases h with
  | duplicate hn =>
    refine label_refusedNode ?_ (hw.ids _ hn)
    rw [ConfigFault.message, hwhole]
    exact ⟨_, rfl⟩
  | foreign hn =>
    obtain ⟨own, hown⟩ := (hw.own _ hn).plain
    refine label_refusedNode ?_ (hw.ids _ hn)
    rw [ConfigFault.message, hwhole, hown]
    exact ⟨_, rfl⟩
  | noText hn _ hl =>
    obtain ⟨own, hown⟩ := (hw.own _ hn).plain
    rcases hl with hl | hl
    · cases hown.symm.trans hl
    · cases hwhole.symm.trans hl

theorem LinksChecked.label (hw : Showable chain nodes limit) {failure : Failure}
    (h : LinksChecked nodes nodes (.error failure)) : failure.label = "ConfigurationError" := by
  cases h with
  | unknown hn =>
    obtain ⟨target, htarget⟩ := (hw.links _ hn).plain
    refine label_refusedNode ?_ (hw.ids _ hn)
    rw [ConfigFault.message, htarget]
    exact ⟨_, rfl⟩

theorem Followed.label (hw : Showable chain nodes limit) {start : List (Value × Nat)}
    {failure : Failure} (h : Followed chain nodes limit start (.error failure)) :
    failure.label = "CyclicChainError" ∧ (Cyclic nodes ∨ limit < nodes.length) := by
  obtain ⟨whole, hwhole⟩ := hw.whole.plain
  cases h with
  | loop hcyc =>
    obtain ⟨node, hn, rfl⟩ := hcyc.exists_node
    obtain ⟨id, hid⟩ := (hw.ids node hn).plain
    refine ⟨label_refusedCycle ?_ (hw.ids node hn), .inl ⟨_, hcyc⟩⟩
    rw [ConfigFault.message, hwhole, hid]
    exact ⟨_, rfl⟩
  | tooMany hid hlim =>
    obtain ⟨node, hn, rfl⟩ := hid
    obtain ⟨bound, hbound⟩ := Number.intText_eq_ok_iff.mpr hw.bound
    refine ⟨label_refusedCycle ?_ (hw.ids node hn), .inr hlim⟩
    rw [ConfigFault.message, hwhole, hbound]
    exact ⟨_, rfl⟩

/-! ## The class of the error -/

def Fails (label : String) (result : Except Failure Route) : Prop :=
  ∃ failure, result = .error failure ∧ failure.label = label

inductive Classified (chain : Chain) (nodes : List Node) (limit : Int)
    (result : Except Failure Route) : Prop
  | misconfigured : ¬ Sound chain nodes → Fails "ConfigurationError" result →
      Classified chain nodes limit result
  | cyclic : Sound chain nodes → Endless nodes limit → Fails "CyclicChainError" result →
      Classified chain nodes limit result
  | route {order : List Node} : Sound chain nodes → ¬ Endless nodes limit →
      Enumerates nodes order → result = .ok ⟨chain, order.map Stop.of⟩ →
      Classified chain nodes limit result

theorem Built.classified (hk : Keyed nodes) (hne : nodes ≠ []) (hw : Showable chain nodes limit)
    {result : Except Failure Route} (h : Built chain nodes limit result) :
    Classified chain nodes limit result := by
  obtain ⟨whole, hwhole⟩ := hw.whole.plain
  cases h with
  | badNode h => exact .misconfigured h.not_sound ⟨_, rfl, h.label hw⟩
  | badLink h => exact .misconfigured h.not_sound ⟨_, rfl, h.label hw⟩
  | manyHeads hm hids hn =>
    obtain ⟨shown, hshown⟩ := hw.display hids
    refine .misconfigured (fun hs => hs.oneHead hm) ⟨_, rfl, label_refusedNode ?_ (hw.ids _ hn)⟩
    rw [ConfigFault.message, hwhole, hshown]
    exact ⟨_, rfl⟩
  | noHead hs hcyc =>
    refine .cyclic hs (.inl hcyc) ⟨_, rfl, label_refusedCycle ?_ trivial⟩
    rw [ConfigFault.message, hwhole]
    exact ⟨_, rfl⟩
  | stuck hs h =>
    obtain ⟨hlabel, hend⟩ := h.label hw
    exact .cyclic hs (hend.imp_right (⟨hne, ·⟩)) ⟨_, rfl, hlabel⟩
  | loopOutside hs hcyc hids =>
    obtain ⟨shown, hshown⟩ := hw.display hids
    obtain ⟨node, hn, rfl⟩ := hcyc.exists_node
    refine .cyclic hs (.inl ⟨_, hcyc⟩) ⟨_, rfl, label_refusedCycle ?_ (hw.ids node hn)⟩
    rw [ConfigFault.message, hwhole, hshown]
    exact ⟨_, rfl⟩
  | ordered hs ho hlim =>
    refine .route hs ?_ ho rfl
    rintro (⟨id, hcyc⟩ | ⟨-, hgt⟩)
    · exact ho.not_onCycle hk hs.distinct id hcyc
    · omega

theorem build_classified (hk : Keyed nodes) (hw : Showable chain nodes limit) :
    Classified chain nodes limit (build chain nodes limit) := by
  by_cases hne : nodes = []
  · subst hne
    have hcyc : ¬ Cyclic [] := by
      rintro ⟨id, hcyc⟩
      obtain ⟨node, hn, -⟩ := hcyc.exists_node
      cases hn
    have hs : Sound chain [] := by
      refine ⟨List.nodup_nil, by simp [OneChain], by simp [Closed], ?_⟩
      simp [ManyHeads]
    exact .route hs (by simp [Endless, hcyc]) ⟨.nil, .nil, by simp⟩ rfl
  · exact (build_built hk hne).classified hk hne hw

theorem Classified.misconfigured_iff {result : Except Failure Route}
    (h : Classified chain nodes limit result) :
    Fails "ConfigurationError" result ↔ Defective chain nodes := by
  rw [defective_iff]
  cases h with
  | misconfigured hs hf => simp only [hf, hs, not_false_eq_true]
  | cyclic hs _ hf =>
    obtain ⟨failure, rfl, hlabel⟩ := hf
    simp [Fails, hlabel, hs]
  | route hs _ _ hr => simp [Fails, hr, hs]

theorem Classified.cyclic_iff {result : Except Failure Route}
    (h : Classified chain nodes limit result) :
    Fails "CyclicChainError" result ↔ ¬ Defective chain nodes ∧ Endless nodes limit := by
  rw [defective_iff, not_not]
  cases h with
  | misconfigured hs hf =>
    obtain ⟨failure, rfl, hlabel⟩ := hf
    simp [Fails, hlabel, hs]
  | cyclic hs he hf => simp only [hf, hs, he, and_self]
  | route _ he _ hr => simp [Fails, hr, he]

theorem Classified.of_perm (hk : Keyed nodes) (hp : nodes.Perm others)
    {a b : Except Failure Route} (ha : Classified chain nodes limit a)
    (hb : Classified chain others limit b) :
    (∃ route, a = .ok route ∧ b = .ok route) ∨ ∃ label, Fails label a ∧ Fails label b := by
  have hsound : Sound chain nodes ↔ Sound chain others := sound_iff_of_perm hp
  have hend : Endless nodes limit ↔ Endless others limit := endless_iff_of_perm hp
  cases ha with
  | misconfigured hs hf =>
    refine .inr ⟨_, hf, hb.misconfigured_iff.mpr ?_⟩
    rwa [defective_iff, ← hsound]
  | cyclic hs he hf =>
    refine .inr ⟨_, hf, hb.cyclic_iff.mpr ?_⟩
    rw [defective_iff, not_not, ← hsound, ← hend]
    exact ⟨hs, he⟩
  | route hs he ho hr =>
    cases hb with
    | misconfigured hs' => exact absurd (hsound.mp hs) hs'
    | cyclic _ he' => exact absurd (hend.mpr he') he
    | route _ _ ho' hr' =>
      rw [ho.unique hk hs.distinct (ho'.of_perm hp)] at hr
      exact .inl ⟨_, hr, hr'⟩

theorem eq_of_refuseNode {α : Type} {fault : ConfigFault} {node : Value} {path : Option String}
    {e : ConfigError} (h : (refuseNode fault node path : Except Failure α) = .error (.config e)) :
    e = ⟨fault, node, path, none⟩ :=
  (Failure.ofConfig_eq_config.mp (Except.error.inj h)).1.symm

theorem eq_of_refuseCycle {α : Type} {fault : ConfigFault} {node : Value} {e : ConfigError}
    (h : (refuseCycle chain fault node : Except Failure α) = .error (.config e)) :
    e = ⟨fault, node, none, some chain.id⟩ :=
  (Failure.ofConfig_eq_config.mp (Except.error.inj h)).1.symm

theorem Built.onCycle {result : Except Failure Route} (h : Built chain nodes limit result)
    {e : ConfigError} (hr : result = .error (.config e)) (hf : e.fault.IsLoop) :
    OnCycle nodes e.node := by
  cases h with
  | badNode h =>
    cases h with
    | duplicate => cases eq_of_refuseNode (α := Route) hr; exact hf.elim
    | foreign => cases eq_of_refuseNode (α := Route) hr; exact hf.elim
    | noText => cases hr
  | badLink h =>
    cases h with
    | unknown => cases eq_of_refuseNode (α := Route) hr; exact hf.elim
  | manyHeads => cases eq_of_refuseNode hr; exact hf.elim
  | noHead => cases eq_of_refuseCycle hr; exact hf.elim
  | stuck _ h =>
    cases h with
    | loop hcyc => cases eq_of_refuseCycle (α := Route) hr; exact hcyc
    | tooMany => cases eq_of_refuseCycle (α := Route) hr; exact hf.elim
  | loopOutside _ hcyc => cases eq_of_refuseCycle hr; exact hcyc
  | ordered => cases hr

/-! ## An identifier that cannot be shown -/

theorem build_twice {id : Value} (hid : id.IsKey) :
    build chain [.bare id .null, .bare id .null] limit =
      refuseNode (.duplicateNode chain.id) id none := by
  have hself : id.agrees id = true := (hid.agrees_iff hid).mpr rfl
  simp [build, checkNodes, checkIdentifier_of_isKey hid, indexOf?, Node.bare, Value.isNull, hself,
    bind, Except.bind, refuseNode, throw, throwThe, MonadExceptOf.throw]

theorem not_fails_twice {id : Value} (hid : id.IsKey) (htext : ∀ text, id.plain ≠ .ok text) :
    ¬ Fails "ConfigurationError" (build chain [.bare id .null, .bare id .null] limit) := by
  rintro ⟨failure, hf, hlabel⟩
  rw [build_twice hid] at hf
  cases hf
  rw [Failure.label_ofConfig_of_no_text htext] at hlabel
  exact absurd hlabel (by decide)

/-! ## Refused chains -/

/-- A chain is refused as misconfigured exactly when it is defective, and as cyclic exactly when
it is not and has a cycle or more nodes than the limit. The node named for a loop lies on a
cycle, and another storage order of the nodes gives the same route or the same class. -/
theorem build_refused (hk : Keyed nodes) (hw : Showable chain nodes limit) :
    (Fails "ConfigurationError" (build chain nodes limit) ↔ Defective chain nodes) ∧
    (Fails "CyclicChainError" (build chain nodes limit) ↔
      ¬ Defective chain nodes ∧ Endless nodes limit) ∧
    (∀ e, build chain nodes limit = .error (.config e) → e.fault.IsLoop →
      OnCycle nodes e.node) ∧
    (∀ others, nodes.Perm others →
      (∃ route, build chain nodes limit = .ok route ∧ build chain others limit = .ok route) ∨
      ∃ label, Fails label (build chain nodes limit) ∧ Fails label (build chain others limit)) := by
  have hclass := build_classified hk hw
  refine ⟨hclass.misconfigured_iff, hclass.cyclic_iff, ?_, ?_⟩
  · intro e hr hf
    have hne : nodes ≠ [] := by
      rintro rfl
      cases hr
    exact (build_built hk hne).onCycle hr hf
  · intro others hp
    have hko : Keyed others := fun node hn => hk node (hp.mem_iff.mpr hn)
    exact hclass.of_perm hk hp (build_classified hko (hw.of_perm hp))

/-- A node that leads into a loop of two. -/
theorem build_refused_loop :
    Keyed [.bare (.int 3) (.int 1), .bare (.int 1) (.int 2), .bare (.int 2) (.int 1)] ∧
    Showable (.named (.int 7) .null)
      [.bare (.int 3) (.int 1), .bare (.int 1) (.int 2), .bare (.int 2) (.int 1)] 1000 ∧
    Fails "CyclicChainError" (build (.named (.int 7) .null)
      [.bare (.int 3) (.int 1), .bare (.int 1) (.int 2), .bare (.int 2) (.int 1)] 1000) := by
  have hk : Keyed
      [.bare (.int 3) (.int 1), .bare (.int 1) (.int 2), .bare (.int 2) (.int 1)] := by
    simp [Keyed, Node.bare, Value.int, Value.IsKey]
  have hw : Showable (.named (.int 7) .null)
      [.bare (.int 3) (.int 1), .bare (.int 1) (.int 2), .bare (.int 2) (.int 1)] 1000 := by
    constructor <;> simp [Node.bare, Chain.named, Value.int, Value.Writable, Number.Writable] <;>
      decide +kernel
  have hsound : ¬ Defective (.named (.int 7) .null)
      [.bare (.int 3) (.int 1), .bare (.int 1) (.int 2), .bare (.int 2) (.int 1)] := by
    simp [Defective, Distinct, OneChain, SameChain, Closed, ManyHeads, IsHead, Node.bare,
      Value.int]
  have hcyc : OnCycle [.bare (.int 3) (.int 1), .bare (.int 1) (.int 2), .bare (.int 2) (.int 1)]
      (.int 1) :=
    .tail (.single ⟨.bare (.int 1) (.int 2), by simp, rfl, rfl⟩)
      ⟨.bare (.int 2) (.int 1), by simp, rfl, rfl⟩
  exact ⟨hk, hw, (build_refused hk hw).2.1.mpr ⟨hsound, .inl ⟨_, hcyc⟩⟩⟩

/-- Without nodes a limit below zero is not exceeded, and a repeated identifier of too many digits
cannot be shown in the message of a config error. -/
theorem refused_otherwise :
    ¬ (Fails "CyclicChainError" (build (.named (.int 1) .null) [] (-1)) ↔
      ¬ Defective (.named (.int 1) .null) [] ∧
        (Cyclic [] ∨ (-1 : Int) < ([] : List Node).length)) ∧
    ¬ (Fails "ConfigurationError" (build (.named (.int 1) .null)
        [.bare (.int (10 ^ DigitLimit.most)) .null, .bare (.int (10 ^ DigitLimit.most)) .null]
        1000) ↔
      Defective (.named (.int 1) .null)
        [.bare (.int (10 ^ DigitLimit.most)) .null,
          .bare (.int (10 ^ DigitLimit.most)) .null]) := by
  constructor
  · intro h
    obtain ⟨failure, hf, -⟩ := h.mpr ⟨by simp [Defective, Distinct, OneChain, Closed, ManyHeads],
      .inr (by decide)⟩
    cases hf
  · intro h
    have hkey : (Value.int (10 ^ DigitLimit.most)).IsKey := trivial
    refine not_fails_twice hkey (Value.int_plain_ne_ok ?_)
      (h.mpr (.inl (by simp [Distinct, Node.bare])))
    rw [Int.natAbs_pow]
    exact Nat.pow_le_pow_left (by decide) _

end Route

end EventChain
