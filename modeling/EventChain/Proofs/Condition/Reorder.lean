import EventChain.Proofs.Condition.Grammar
import EventChain.Proofs.Condition.Total
import Mathlib.Logic.Relation

/-!
# Conditions in another order

The parts of a compound condition are looked at in their order, and none after the one that settles
it. `ComesTo` says what a condition can come to in some order: a part settles a compound condition,
whatever the others do, or all of them leave it open. No condition comes to two answers
(`ComesTo.unique`), so an order of the parts decides at most whether an evaluation fails
(`holds_reordered`).
-/

namespace EventChain

/-- The answer of a part that settles a compound condition. -/
def Connective.settling : Connective → Bool
  | .all => false
  | .any => true

namespace Condition

/-- One compound condition, the whole or a part, has its parts in another order. -/
inductive Reorders : Condition → Condition → Prop where
  | here {connective : Connective} {parts others : List Condition} {path : String}
      (h : parts.Perm others) :
      Reorders (.compound connective parts path) (.compound connective others path)
  | inside {connective : Connective} {before after : List Condition} {c d : Condition}
      {path : String} (h : Reorders c d) :
      Reorders (.compound connective (before ++ c :: after) path)
        (.compound connective (before ++ d :: after) path)

/-- Any compound conditions, at any depth, have their parts in another order. -/
def Reordered : Condition → Condition → Prop := Relation.ReflTransGen Reorders

/-- An answer that a condition has in some order of its parts. -/
inductive ComesTo (now : Timestamp) (r : Record) : Condition → Bool → Prop where
  | leaf {l : Leaf} {answer : Bool} (h : l.holds now r = .ok answer) :
      ComesTo now r (.leaf l) answer
  | settled {connective : Connective} {parts : List Condition} {path : String} {c : Condition}
      (hc : c ∈ parts) (h : ComesTo now r c connective.settling) :
      ComesTo now r (.compound connective parts path) connective.settling
  | unsettled {connective : Connective} {parts : List Condition} {path : String}
      (h : ∀ c ∈ parts, ComesTo now r c (!connective.settling)) :
      ComesTo now r (.compound connective parts path) (!connective.settling)

variable {now : Timestamp} {r : Record}

theorem ComesTo.nil (connective : Connective) (path : String) :
    ComesTo now r (.compound connective [] path) (!connective.settling) :=
  .unsettled nofun

theorem ComesTo.head (connective : Connective) {c : Condition}
    (hc : ComesTo now r c connective.settling) (rest : List Condition) (path : String) :
    ComesTo now r (.compound connective (c :: rest) path) connective.settling :=
  .settled List.mem_cons_self hc

/-- A part that does not settle a compound condition leaves it to the others. -/
theorem ComesTo.cons {connective : Connective} {c : Condition} {rest : List Condition}
    {path : String} {answer : Bool} (hc : ComesTo now r c (!connective.settling))
    (h : ComesTo now r (.compound connective rest path) answer) :
    ComesTo now r (.compound connective (c :: rest) path) answer := by
  cases h with
  | settled hd h => exact .settled (List.mem_cons_of_mem c hd) h
  | unsettled h => exact .unsettled (List.forall_mem_cons.mpr ⟨hc, h⟩)

mutual

theorem comesTo_of_holds {c : Condition} {answer : Bool} (h : c.holds now r = .ok answer) :
    ComesTo now r c answer := by
  cases c with
  | leaf l => exact .leaf h
  | compound connective parts path =>
    cases connective with
    | all => exact comesTo_of_allHold h path
    | any => exact comesTo_of_anyHolds h path
  | misplaced v => exact absurd h refuse_ne_ok

theorem comesTo_of_allHold {parts : List Condition} {answer : Bool}
    (h : allHold now r parts = .ok answer) (path : String) :
    ComesTo now r (.compound .all parts path) answer := by
  cases parts with
  | nil =>
    cases h
    exact .nil .all path
  | cons c rest =>
    rw [allHold] at h
    obtain ⟨first, hfirst, h⟩ := bind_eq_ok.mp h
    have hc := comesTo_of_holds hfirst
    cases first with
    | true => exact .cons hc (comesTo_of_allHold h path)
    | false =>
      cases h
      exact .head .all hc rest path

theorem comesTo_of_anyHolds {parts : List Condition} {answer : Bool}
    (h : anyHolds now r parts = .ok answer) (path : String) :
    ComesTo now r (.compound .any parts path) answer := by
  cases parts with
  | nil =>
    cases h
    exact .nil .any path
  | cons c rest =>
    rw [anyHolds] at h
    obtain ⟨first, hfirst, h⟩ := bind_eq_ok.mp h
    have hc := comesTo_of_holds hfirst
    cases first with
    | false => exact .cons hc (comesTo_of_anyHolds h path)
    | true =>
      cases h
      exact .head .any hc rest path

end

/-- No condition comes to two answers: a part that settles it leaves nothing open. -/
theorem ComesTo.unique {c : Condition} {a b : Bool} (ha : ComesTo now r c a)
    (hb : ComesTo now r c b) : a = b := by
  induction ha generalizing b with
  | leaf h =>
    cases hb with
    | leaf h' => exact Except.ok.inj (h.symm.trans h')
  | settled hc _ ih =>
    cases hb with
    | settled => rfl
    | unsettled h => exact ih (h _ hc)
  | unsettled _ ih =>
    cases hb with
    | settled hc h => exact ih _ hc h
    | unsettled => rfl

/-! ## Reordering -/

theorem ComesTo.reorders {c d : Condition} {answer : Bool} (h : Reorders c d)
    (hc : ComesTo now r c answer) : ComesTo now r d answer := by
  induction h generalizing answer with
  | here hperm =>
    cases hc with
    | settled hpart h => exact .settled (hperm.mem_iff.mp hpart) h
    | unsettled h => exact .unsettled fun part hpart => h part (hperm.mem_iff.mpr hpart)
  | @inside connective before after c d path _ ih =>
    cases hc with
    | @settled _ _ _ part hpart h =>
      rcases List.mem_append.mp hpart with hbefore | hafter
      · exact .settled (List.mem_append_left _ hbefore) h
      · rcases List.mem_cons.mp hafter with rfl | hafter
        · exact .settled (List.mem_append_right _ List.mem_cons_self) (ih h)
        · exact .settled (List.mem_append_right _ (List.mem_cons_of_mem _ hafter)) h
    | unsettled h =>
      rw [List.forall_mem_append, List.forall_mem_cons] at h
      obtain ⟨hbefore, hc, hafter⟩ := h
      exact .unsettled (List.forall_mem_append.mpr
        ⟨hbefore, List.forall_mem_cons.mpr ⟨ih hc, hafter⟩⟩)

theorem ComesTo.reordered {c d : Condition} {answer : Bool} (h : Reordered c d)
    (hc : ComesTo now r c answer) : ComesTo now r d answer := by
  induction h with
  | refl => exact hc
  | tail _ hstep ih => exact ih.reorders hstep

theorem Reorders.leaves_perm {c d : Condition} (h : Reorders c d) : c.leaves.Perm d.leaves := by
  induction h with
  | here hperm =>
    simp only [leaves, allLeaves_eq_flatMap]
    exact hperm.flatMap_right leaves
  | @inside connective before after c d path _ ih =>
    simp only [leaves, allLeaves_eq_flatMap, List.flatMap_append, List.flatMap_cons]
    exact (ih.append_right _).append_left _

theorem Reorders.wellFormed {c d : Condition} (h : Reorders c d) (hc : c.WellFormed) :
    d.WellFormed := by
  induction h with
  | here hperm =>
    rw [WellFormed, allWellFormed_iff] at hc ⊢
    exact fun part hpart => hc part (hperm.mem_iff.mpr hpart)
  | @inside connective before after c d path _ ih =>
    rw [WellFormed, allWellFormed_iff, List.forall_mem_append, List.forall_mem_cons] at hc ⊢
    exact ⟨hc.1, ih hc.2.1, hc.2.2⟩

theorem Reordered.leaves_perm {c d : Condition} (h : Reordered c d) :
    c.leaves.Perm d.leaves := by
  induction h with
  | refl => exact List.Perm.refl _
  | tail _ hstep ih => exact ih.trans hstep.leaves_perm

theorem Reordered.wellFormed {c d : Condition} (h : Reordered c d) (hc : c.WellFormed) :
    d.WellFormed := by
  induction h with
  | refl => exact hc
  | tail _ hstep ih => exact hstep.wellFormed ih

/-- Conditions with the same parts in other orders never have different answers, and where the one
was read and its operands and the record have decimal text, both have one. -/
theorem holds_reordered {c d : Condition} (h : Reordered c d) (now : Timestamp) (r : Record) :
    (∀ a b, c.holds now r = .ok a → d.holds now r = .ok b → a = b) ∧
    ∀ config, read config = .ok c → config.Writable ∨ c.Writable → Value.EntriesWritable r →
      ∃ answer, c.holds now r = .ok answer ∧ d.holds now r = .ok answer := by
  have hagree (a b : Bool) (ha : c.holds now r = .ok a) (hb : d.holds now r = .ok b) : a = b :=
    ((comesTo_of_holds ha).reordered h).unique (comesTo_of_holds hb)
  refine ⟨hagree, fun config hread hwritable hr => ?_⟩
  have hwf := read_wellFormed hread
  have hc : c.Writable := hwritable.elim (writable_of_read hread) id
  have hd : d.Writable := fun leaf hleaf => hc leaf (h.leaves_perm.mem_iff.mpr hleaf)
  obtain ⟨a, ha⟩ := hwf.holds_total hc now hr
  obtain ⟨b, hb⟩ := (h.wellFormed hwf).holds_total hd now hr
  exact ⟨a, ha, hagree a b ha hb ▸ hb⟩

/-- A low level that is known, or none: the parts of both compound conditions in another order. -/
theorem holds_reordered_level :
    let isKnown : Record := [("field", .text "level"), ("operator", .text "isNumber")]
    let isLow : Record :=
      [("field", .text "level"), ("operator", .text "<"), ("value", .int 3)]
    let both : Record := [("type", .text "and"),
      ("expressions", .array [.object isKnown, .object isLow])]
    let isMissing : Record := [("field", .text "level"), ("operator", .text "isNull")]
    let config : Value := .object [("type", .text "or"),
      ("expressions", .array [.object both, .object isMissing])]
    let path := partPath "" 0
    let known : Condition := .leaf ⟨"level", .isNumber, .null, partPath path 0, none⟩
    let low : Condition := .leaf ⟨"level", .less, .int 3, partPath path 1, none⟩
    let missing : Condition := .leaf ⟨"level", .isNull, .null, partPath "" 1, none⟩
    let c : Condition := .compound .any [.compound .all [known, low] path, missing] ""
    let d : Condition := .compound .any [missing, .compound .all [low, known] path] ""
    let now : Timestamp := ⟨⟨2024, 6, 1, by decide⟩, .midnight, some .utc⟩
    let r : Record := [("level", .int 2)]
    Reordered c d ∧ read config = .ok c ∧ c.Writable ∧ Value.EntriesWritable r ∧
      ∃ answer, c.holds now r = .ok answer ∧ d.holds now r = .ok answer := by
  intro isKnown isLow both isMissing config path known low missing c d now r
  have hinside : Reorders c (.compound .any [.compound .all [low, known] path, missing] "") :=
    @Reorders.inside .any [] [missing] _ _ "" (.here (.swap low known []))
  have hreordered : Reordered c d := .tail (.single hinside) (.here (.swap missing _ []))
  have hand : Joins both .all := ⟨"and", rfl, by decide⟩
  have hboth : readAt path (.object both) = .ok (.compound .all [known, low] path) := by
    have hknown : readAt (partPath path 0) (.object isKnown) = .ok known := by
      rw [readAt]
      rfl
    have hlow : readAt (partPath path 1) (.object isLow) = .ok low := by
      rw [readAt]
      rfl
    exact readAt_pair hand rfl hknown hlow
  have hor : Joins [("type", .text "or"),
      ("expressions", .array [.object both, .object isMissing])] .any := ⟨"or", rfl, by decide⟩
  have hread : read config = .ok c := by
    have hmissing : readAt (partPath "" 1) (.object isMissing) = .ok missing := by
      rw [readAt]
      rfl
    exact readAt_pair hor rfl hboth hmissing
  have hc : c.Writable := by
    simp [c, low, known, missing, Writable, leaves, allLeaves, Value.int, Value.Writable,
      Number.Writable]
    decide +kernel
  have hr : Value.EntriesWritable r := by
    simp [r, Value.int, Value.Writable, Value.EntriesWritable, Number.Writable]
    decide +kernel
  exact ⟨hreordered, hread, hc, hr,
    (holds_reordered hreordered now r).2 config hread (.inr hc) hr⟩

/-- An order may decide whether there is an answer at all. -/
example (now : Timestamp) (r : Record) :
    let never : Condition := .compound .any [] ""
    ((Condition.compound .all [.misplaced .null, never] "").holds now r).toOption = none ∧
      (Condition.compound .all [never, .misplaced .null] "").holds now r = .ok false :=
  ⟨rfl, rfl⟩

end Condition

end EventChain
