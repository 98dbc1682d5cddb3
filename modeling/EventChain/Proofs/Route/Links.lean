import EventChain.Proofs.Failure
import EventChain.Proofs.Value.Identifier
import EventChain.Route
import Mathlib.Data.List.Nodup
import Mathlib.Dynamics.PeriodicPts.Lemmas
import Mathlib.Logic.Relation

/-!
# The links of a chain

The nodes of a chain form a graph: `Link nodes a b` says that the node with identifier `a` links
to `b`, `OnCycle` that the links lead from an identifier back to it. `Distinct`, `OneChain` and
`Closed` say that a list of nodes has none of the faults that are found before its links are
followed; `checkNodes_checked` and `checkLinks_checked` relate them to the two checks. Where every
identifier of a finite set is linked from one of the set, all of them lie on cycles
(`onCycle_of_linked`).
-/

namespace EventChain

/-- A node of which only the identifier and the link are known. -/
def Node.bare (id next : Value) : Node := ⟨id, .null, .null, .null, .null, next⟩

namespace Route

/-- Identifiers are integers or texts, and so are links other than null. -/
def Keyed (nodes : List Node) : Prop :=
  ∀ node ∈ nodes, node.id.IsKey ∧ (node.next = .null ∨ node.next.IsKey)

def Distinct (nodes : List Node) : Prop := (nodes.map (·.id)).Nodup

/-- Two identifiers of chains that do not contradict each other: one is null, or both have the
same text. -/
def SameChain (own whole : Value) : Prop :=
  own = .null ∨ whole = .null ∨ ∃ text, own.plain = .ok text ∧ whole.plain = .ok text

def OneChain (chain : Chain) (nodes : List Node) : Prop :=
  ∀ node ∈ nodes, SameChain node.chain chain.id

def Closed (nodes : List Node) : Prop :=
  ∀ node ∈ nodes, node.next = .null ∨ ∃ other ∈ nodes, other.id = node.next

def IsHead (nodes : List Node) (node : Node) : Prop := ∀ other ∈ nodes, other.next ≠ node.id

def Link (nodes : List Node) (a b : Value) : Prop := ∃ node ∈ nodes, node.id = a ∧ node.next = b

def OnCycle (nodes : List Node) (id : Value) : Prop := Relation.TransGen (Link nodes) id id

def Cyclic (nodes : List Node) : Prop := ∃ id, OnCycle nodes id

section
variable {nodes : List Node} {a b c : Value}

theorem Distinct.eq_of_id (hd : Distinct nodes) {m n : Node} (hm : m ∈ nodes) (hn : n ∈ nodes)
    (h : m.id = n.id) : m = n :=
  List.inj_on_of_nodup_map hd hm hn h

theorem Link.unique (hd : Distinct nodes) (hb : Link nodes a b) (hc : Link nodes a c) : b = c := by
  obtain ⟨m, hm, rfl, rfl⟩ := hb
  obtain ⟨n, hn, hid, rfl⟩ := hc
  rw [hd.eq_of_id hm hn hid.symm]

/-! ## Cycles -/

/-- Where every identifier of a finite set is linked from one of the set, each lies on a cycle:
going back along the links is injective, as no identifier links to two. -/
theorem onCycle_of_linked (hd : Distinct nodes) (members : Set Value) (hfin : members.Finite)
    (hback : ∀ b ∈ members, ∃ a ∈ members, Link nodes a b) (ha : a ∈ members) :
    OnCycle nodes a := by
  have : Finite members := hfin.to_subtype
  choose! back hmem hlink using hback
  let pred : members → members := fun b => ⟨back b, hmem b b.2⟩
  have hinj : Function.Injective pred := by
    intro b c h
    have hbc : back b = back c := congrArg Subtype.val h
    have hb := hlink b b.2
    rw [hbc] at hb
    exact Subtype.ext (Link.unique hd hb (hlink c c.2))
  obtain ⟨n, hn, hper⟩ := hinj.mem_periodicPts ⟨a, ha⟩
  have hpath : ∀ k, 0 < k → ∀ b : members,
      Relation.TransGen (Link nodes) (pred^[k] b) b := by
    intro k hk b
    induction k, hk using Nat.le_induction with
    | base => exact .single (hlink b b.2)
    | succ k _ ih =>
      rw [Function.iterate_succ_apply']
      exact .head (hlink _ (pred^[k] b).2) ih
  have h := hpath n hn ⟨a, ha⟩
  rwa [hper] at h

end

/-! ## Places of identifiers -/

section
variable {nodes : List Node} {id : Value} {i : Nat}

theorem Keyed.agrees_iff (hk : Keyed nodes) (hid : id = .null ∨ id.IsKey) {node : Node}
    (hn : node ∈ nodes) : node.id.agrees id = true ↔ node.id = id := by
  have hkey := (hk node hn).1
  rcases hid with rfl | hid
  · simp [hkey.not_agrees_null, hkey.ne_null]
  · exact hkey.agrees_iff hid

theorem indexOf?_eq_some (hk : Keyed nodes) (hid : id = .null ∨ id.IsKey)
    (h : indexOf? nodes id = some i) : ∃ node, nodes[i]? = some node ∧ node.id = id := by
  obtain ⟨hi, hp, -⟩ := List.findIdx?_eq_some_iff_getElem.mp h
  exact ⟨nodes[i], List.getElem?_eq_getElem hi, (hk.agrees_iff hid (List.getElem_mem hi)).mp hp⟩

theorem indexOf?_eq_none (hk : Keyed nodes) (hid : id = .null ∨ id.IsKey) :
    indexOf? nodes id = none ↔ ∀ node ∈ nodes, node.id ≠ id := by
  unfold indexOf?
  rw [List.findIdx?_eq_none_iff]
  refine forall₂_congr fun node hn => ?_
  rw [← Bool.not_eq_true, hk.agrees_iff hid hn]

theorem isTarget_iff (hk : Keyed nodes) {node : Node} (hn : node ∈ nodes) :
    isTarget nodes node.id = true ↔ ∃ other ∈ nodes, other.next = node.id := by
  unfold isTarget
  rw [List.any_eq_true]
  refine exists_congr fun other => and_congr_right fun ho => ?_
  have hid := (hk node hn).1
  rcases (hk other ho).2 with h | h
  · simp [h, Value.isNull, hid.ne_null.symm]
  · simp [h.isNull, h.agrees_iff hid]

theorem not_isTarget_iff (hk : Keyed nodes) {node : Node} (hn : node ∈ nodes) :
    isTarget nodes node.id = false ↔ IsHead nodes node := by
  rw [← Bool.not_eq_true, isTarget_iff hk hn]
  simp [IsHead]

end

/-! ## Checks before the links are followed -/

@[simp] theorem refuseNode_ne_ok {α : Type} {fault : ConfigFault} {node : Value}
    {path : Option String} {a : α} :
    (refuseNode fault node path : Except Failure α) ≠ .ok a := by
  simp [refuseNode]

@[simp] theorem refuseCycle_ne_ok {α : Type} {chain : Chain} {fault : ConfigFault} {node : Value}
    {a : α} : (refuseCycle chain fault node : Except Failure α) ≠ .ok a := by
  simp [refuseCycle]

theorem checkIdentifier_of_isKey {v : Value} (h : v.IsKey) : v.checkIdentifier = .ok () := by
  obtain ⟨n, rfl⟩ | ⟨s, rfl⟩ := h.form <;> rfl

inductive NodesChecked (chain : Chain) (earlier nodes : List Node) : Except Failure Unit → Prop
  | sound : Distinct (earlier ++ nodes) → OneChain chain nodes →
      NodesChecked chain earlier nodes (.ok ())
  | duplicate {node : Node} : node ∈ nodes → ¬ Distinct (earlier ++ nodes) →
      NodesChecked chain earlier nodes (refuseNode (.duplicateNode chain.id) node.id none)
  | foreign {node : Node} : node ∈ nodes → ¬ SameChain node.chain chain.id →
      NodesChecked chain earlier nodes
        (refuseNode (.foreignNode node.chain chain.id) node.id none)
  | noText {node : Node} {limit : DigitLimit} : node ∈ nodes → ¬ SameChain node.chain chain.id →
      (node.chain.plain = .error limit ∨ chain.id.plain = .error limit) →
      NodesChecked chain earlier nodes (.error (.digitLimit limit))

theorem NodesChecked.cons {chain : Chain} {earlier rest : List Node} {node : Node}
    {result : Except Failure Unit} (hsame : SameChain node.chain chain.id)
    (h : NodesChecked chain (earlier ++ [node]) rest result) :
    NodesChecked chain earlier (node :: rest) result := by
  have happ : earlier ++ [node] ++ rest = earlier ++ node :: rest := by simp
  cases h with
  | sound hd hc =>
    refine .sound (happ ▸ hd) fun other ho => ?_
    rcases List.mem_cons.mp ho with rfl | ho
    · exact hsame
    · exact hc other ho
  | duplicate hm hd => exact .duplicate (List.mem_cons_of_mem _ hm) (happ ▸ hd)
  | foreign hm hs => exact .foreign (List.mem_cons_of_mem _ hm) hs
  | noText hm hs hl => exact .noText (List.mem_cons_of_mem _ hm) hs hl

theorem not_sameChain {own whole : Value} (h₁ : own.isNull = false) (h₂ : whole.isNull = false)
    (h : ∀ text, own.plain = .ok text → whole.plain ≠ .ok text) : ¬ SameChain own whole := by
  rintro (rfl | rfl | ⟨text, ho, hw⟩)
  · cases h₁
  · cases h₂
  · exact h text ho hw

theorem checkNodes_checked {chain : Chain} {nodes earlier : List Node}
    (hk : Keyed (earlier ++ nodes)) (hd : Distinct earlier) :
    NodesChecked chain earlier nodes (checkNodes chain earlier nodes) := by
  induction nodes generalizing earlier with
  | nil => exact .sound (by simpa using hd) (by simp [OneChain])
  | cons node rest ih =>
    have hid : node.id.IsKey := (hk node (by simp)).1
    have hke : Keyed earlier := fun n hn => hk n (List.mem_append_left _ hn)
    rw [checkNodes, checkIdentifier_of_isKey hid]
    simp only [bind, Except.bind]
    cases hidx : indexOf? earlier node.id with
    | some i =>
      obtain ⟨other, ho, heq⟩ := indexOf?_eq_some hke (.inr hid) hidx
      refine .duplicate List.mem_cons_self fun hdist => ?_
      have hdisj := (List.nodup_append.mp (by simpa [Distinct] using hdist)).2.2
      exact hdisj other.id (List.mem_map_of_mem (List.mem_of_getElem? ho)) node.id (by simp) heq
    | none =>
      have hnew := (indexOf?_eq_none hke (.inr hid)).mp hidx
      have hd' : Distinct (earlier ++ [node]) := by
        simp only [Distinct, List.map_append, List.map_cons, List.map_nil]
        refine List.nodup_append.mpr ⟨hd, by simp, ?_⟩
        simpa using hnew
      have hrest := ih (by simpa using hk) hd'
      simp only [Option.isSome_none, Bool.false_eq_true, ↓reduceIte]
      split
      · next hnull =>
        simp only [Bool.and_eq_true, Bool.not_eq_true'] at hnull
        cases hown : node.chain.plain with
        | error limit =>
          exact .noText List.mem_cons_self
            (not_sameChain hnull.1 hnull.2 (by simp [hown])) (.inl hown)
        | ok own =>
          cases hwhole : chain.id.plain with
          | error limit =>
            exact .noText List.mem_cons_self
              (not_sameChain hnull.1 hnull.2 (by simp [hwhole])) (.inr hwhole)
          | ok whole =>
            simp only [limited]
            by_cases heq : own = whole
            · subst heq
              simpa [pure, Except.pure] using
                hrest.cons (.inr (.inr ⟨own, hown, hwhole⟩))
            · have hne : ¬ SameChain node.chain chain.id :=
                not_sameChain hnull.1 hnull.2 (by simp [hown, hwhole, Ne.symm heq])
              simp only [pure, Except.pure, ne_eq, heq, not_false_eq_true, ↓reduceIte]
              exact .foreign List.mem_cons_self hne
      · next hnull =>
        refine hrest.cons ?_
        simp only [Bool.and_eq_true, Bool.not_eq_true', not_and_or, Bool.not_eq_false,
          Value.isNull_iff] at hnull
        exact hnull.imp_right .inl

theorem NodesChecked.of_ok {chain : Chain} {earlier nodes : List Node}
    {result : Except Failure Unit} (h : NodesChecked chain earlier nodes result)
    (hr : result = .ok ()) : Distinct (earlier ++ nodes) ∧ OneChain chain nodes := by
  cases h with
  | sound hd hc => exact ⟨hd, hc⟩
  | duplicate => simp at hr
  | foreign => simp at hr
  | noText => cases hr

inductive LinksChecked (nodes some : List Node) : Except Failure Unit → Prop
  | sound : (∀ node ∈ some, node.next = .null ∨ ∃ other ∈ nodes, other.id = node.next) →
      LinksChecked nodes some (.ok ())
  | unknown {node : Node} : node ∈ some → node.next ≠ .null →
      (∀ other ∈ nodes, other.id ≠ node.next) →
      LinksChecked nodes some (refuseNode (.unknownLink node.next) node.id "nextNodeId")

theorem LinksChecked.cons {nodes rest : List Node} {node : Node} {result : Except Failure Unit}
    (hnode : node.next = .null ∨ ∃ other ∈ nodes, other.id = node.next)
    (h : LinksChecked nodes rest result) : LinksChecked nodes (node :: rest) result := by
  cases h with
  | sound h => exact .sound (List.forall_mem_cons.mpr ⟨hnode, h⟩)
  | unknown hm hn h => exact .unknown (List.mem_cons_of_mem _ hm) hn h

theorem LinksChecked.of_ok {nodes some : List Node} {result : Except Failure Unit}
    (h : LinksChecked nodes some result) (hr : result = .ok ()) :
    ∀ node ∈ some, node.next = .null ∨ ∃ other ∈ nodes, other.id = node.next := by
  cases h with
  | sound h => exact h
  | unknown => simp at hr

theorem checkLinks_checked {nodes some : List Node} (hk : Keyed nodes)
    (hs : ∀ node ∈ some, node ∈ nodes) : LinksChecked nodes some (checkLinks nodes some) := by
  induction some with
  | nil => exact .sound (by simp)
  | cons node rest ih =>
    have hrest := ih fun n hn => hs n (List.mem_cons_of_mem _ hn)
    rw [checkLinks]
    rcases (hk node (hs node List.mem_cons_self)).2 with hnull | hkey
    · simpa [hnull, Value.isNull] using hrest.cons (.inl hnull)
    · simp only [hkey.isNull, Bool.not_false, ↓reduceIte, checkIdentifier_of_isKey hkey, bind,
        Except.bind]
      cases hidx : indexOf? nodes node.next with
      | some i =>
        obtain ⟨other, ho, heq⟩ := indexOf?_eq_some hk (.inr hkey) hidx
        exact hrest.cons (.inr ⟨other, List.mem_of_getElem? ho, heq⟩)
      | none =>
        exact .unknown List.mem_cons_self hkey.ne_null
          ((indexOf?_eq_none hk (.inr hkey)).mp hidx)

end Route

end EventChain
