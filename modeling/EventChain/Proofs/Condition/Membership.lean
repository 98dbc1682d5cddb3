import EventChain.Proofs.Condition.Expansion
import EventChain.Proofs.Value.Kinds

/-!
# Membership by strict equality

The operators over items compare strictly: the value of the field, or each of its members, with each
item of the operand (`Leaf.holds_itemwise`). So they tell kinds apart at every depth as far as
strict equality does (`Value.strictEquals_kinds`): where no boolean stands inside the one value and
a number in its place inside the other, but not beyond that (`Value.kinds_otherwise`).
-/

namespace EventChain

theorem Value.Keyed.of_mem_members {v w : Value} (h : v.Keyed) (hw : w ∈ v.members) : w.Keyed := by
  cases v with
  | array items =>
    obtain ⟨i, hi⟩ := List.mem_iff_getElem?.mp hw
    exact AllKeyed.keyed_of_getElem? h hi
  | _ => cases hw

namespace Operator

variable {op : Operator} {v : Value} {items : List Value}

/-! ## Operators over items -/

/-- The operators that compare strictly with the items of their operand. -/
def itemwise : List Operator := [isIn, notIn, hasAll, hasAny, hasNone]

/-- What an operator compares with the items: the value itself, or its members. -/
def compared (op : Operator) (v : Value) : List Value :=
  if op = isIn ∨ op = notIn then [v] else v.members

/-- What an operator over items asks of a value, where a relation takes two values for one. -/
def Finds (takes : Value → Value → Prop) (op : Operator) (v : Value) (items : List Value) : Prop :=
  match op with
  | isIn => v ≠ .null ∧ ∃ item ∈ items, takes v item
  | notIn => v ≠ .null ∧ ∀ item ∈ items, ¬ takes v item
  | hasAll => v.kind = .array ∧ ∀ item ∈ items, ∃ member ∈ v.members, takes member item
  | hasAny => v.kind = .array ∧ ∃ item ∈ items, ∃ member ∈ v.members, takes member item
  | hasNone => v.kind = .array ∧ ∀ item ∈ items, ∀ member ∈ v.members, ¬ takes member item
  | _ => False

theorem finds_congr {takes takes' : Value → Value → Prop}
    (h : ∀ w ∈ op.compared v, ∀ item ∈ items, takes w item ↔ takes' w item) :
    op.Finds takes v items ↔ op.Finds takes' v items := by
  have hself (hop : op = isIn ∨ op = notIn) :
      ∀ item ∈ items, takes v item ↔ takes' v item :=
    h v (by rw [compared, if_pos hop]; exact List.mem_singleton_self v)
  have hmembers (hop : ¬ (op = isIn ∨ op = notIn)) {item : Value} (hitem : item ∈ items) :
      ∀ member ∈ v.members, takes member item ↔ takes' member item :=
    fun member hmember => h member (by rwa [compared, if_neg hop]) item hitem
  cases op with
  | isIn =>
    exact and_congr_right' (exists_congr fun item => and_congr_right (hself (.inl rfl) item))
  | notIn =>
    exact and_congr_right' (forall₂_congr fun item hitem => not_congr (hself (.inr rfl) item hitem))
  | hasAll =>
    exact and_congr_right' (forall₂_congr fun item hitem => exists_congr fun member =>
      and_congr_right (hmembers (by decide) hitem member))
  | hasAny =>
    exact and_congr_right' (exists_congr fun item => and_congr_right fun hitem =>
      exists_congr fun member => and_congr_right (hmembers (by decide) hitem member))
  | hasNone =>
    exact and_congr_right' (forall₂_congr fun item hitem => forall₂_congr fun member hmember =>
      not_congr (hmembers (by decide) hitem member hmember))
  | _ => exact Iff.rfl

end Operator

namespace Leaf

variable {field : String} {op : Operator} {items : List Value} {now : Timestamp} {r : Record}

theorem present_iff {members : List Value} {item : Value} :
    present members item = true ↔
      ∃ member ∈ members, member.strictEquals .apart item = true := by
  rw [present, List.any_eq_true]

/-- An operator over items has an answer, which is what it finds by strict equality. -/
theorem holds_itemwise (hop : op ∈ Operator.itemwise) (field : String) (items : List Value)
    (now : Timestamp) (r : Record) (path : String) (pattern : Option Pattern) :
    ∃ answer, Leaf.holds ⟨field, op, .array items, path, pattern⟩ now r = .ok answer ∧
      (answer = true ↔ op.Finds (fun v w => v.strictEquals .apart w = true)
        (r.lookup field) items) := by
  have hnull : (!(r.lookup field).isNull) = true ↔ r.lookup field ≠ .null := by
    rw [Bool.not_eq_true', ← Bool.not_eq_true, not_congr Value.isNull_iff]
  simp only [Operator.itemwise, List.mem_cons, List.not_mem_nil, or_false] at hop
  rcases hop with rfl | rfl | rfl | rfl | rfl
  · refine ⟨_, holds_isIn items path, ?_⟩
    rw [Bool.and_eq_true, hnull, List.any_eq_true]
    rfl
  · refine ⟨_, holds_notIn items path, ?_⟩
    rw [Bool.and_eq_true, hnull, List.all_eq_true]
    simp [Operator.Finds]
  · refine ⟨_, holds_hasAll items path, ?_⟩
    rw [Bool.and_eq_true, decide_eq_true_iff, List.all_eq_true]
    simp only [present_iff]
    rfl
  · refine ⟨_, holds_hasAny items path, ?_⟩
    rw [Bool.and_eq_true, decide_eq_true_iff, List.any_eq_true]
    simp only [present_iff]
    rfl
  · refine ⟨_, holds_hasNone items path, ?_⟩
    rw [Bool.and_eq_true, decide_eq_true_iff, List.all_eq_true]
    simp [Operator.Finds, ← Bool.not_eq_true, present_iff]

end Leaf

namespace Value

/-- Values that are strictly equal have one shape, and at every position one kind, but where a
boolean inside the one stands for a number inside the other; apart from such booleans, strict
equality is that of contents and kinds at every depth. An operator over items takes values for one
just where they are the same at every depth, if no boolean inside the one stands for a number inside
the other. -/
theorem strictEquals_kinds (a b : Value) (ha : a.Keyed) :
    (∀ operands, (operands = .one → a = b) → strictEquals operands a b = true →
      ∀ path, a.kindAt? path = b.kindAt? path ∨ path ≠ [] ∧ a.Mixed b path) ∧
      (strictEquals .apart a b = true ↔ a.kind = b.kind ∧ a.leveled.Same b.leveled) ∧
      (a.Unmixed b → (strictEquals .apart a b = true ↔ a.Same b)) ∧
      ∀ op ∈ Operator.itemwise, ∀ (field : String) (items : List Value) (now : Timestamp)
        (r : Record) (path : String) (pattern : Option Pattern), r.lookup field = a →
          (∀ v ∈ op.compared a, ∀ item ∈ items, v.Unmixed item) →
            ∃ answer, Leaf.holds ⟨field, op, .array items, path, pattern⟩ now r = .ok answer ∧
              (answer = true ↔ op.Finds Same a items) := by
  refine ⟨fun operands hone h path => ?_, strictEquals_iff ha, strictEquals_iff_same ha,
    fun op hop field items now r path pattern hfield hmixed => ?_⟩
  · cases operands with
    | one => exact .inl (by rw [hone rfl])
    | apart =>
      rw [strictEquals, Bool.and_eq_true, decide_eq_true_iff] at h
      rcases kindAt?_of_agrees path ha h.2 with hsame | hmixed
      · exact .inl hsame
      by_cases hpath : path = []
      · exact .inl (by rw [hpath, kindAt?, kindAt?]; exact congrArg some h.1)
      · exact .inr ⟨hpath, hmixed⟩
  · obtain ⟨answer, hanswer, hfinds⟩ := Leaf.holds_itemwise hop field items now r path pattern
    rw [hfield] at hfinds
    refine ⟨answer, hanswer, hfinds.trans (Operator.finds_congr fun v hv item hitem => ?_)⟩
    have hkeyed : v.Keyed := by
      unfold Operator.compared at hv
      split at hv
      · exact List.mem_singleton.mp hv ▸ ha
      · exact ha.of_mem_members hv
    exact strictEquals_iff_same hkeyed (hmixed v hv item hitem)

/-- A switch, and the same with its entries in another order. -/
theorem strictEquals_kinds_switch :
    let a : Value := .object [("on", .boolean true), ("level", .int 1)]
    let b : Value := .object [("level", .int 1), ("on", .boolean true)]
    let r : Record := [("switch", a)]
    let now : Timestamp := ⟨⟨2024, 6, 1, by decide⟩, .midnight, some .utc⟩
    let on : List Descent := [.entry "on"]
    a.Keyed ∧ strictEquals .apart a b = true ∧
      (a.kindAt? on = b.kindAt? on ∨ on ≠ [] ∧ a.Mixed b on) ∧ a.Unmixed b ∧ a.Same b ∧
      ∃ answer, Leaf.holds ⟨"switch", .isIn, .array [b], "", none⟩ now r = .ok answer ∧
        (answer = true ↔ Operator.isIn.Finds Same a [b]) := by
  intro a b r now on
  have hkeyed : a.Keyed := ⟨by decide, trivial, trivial, trivial⟩
  have hequal : strictEquals .apart a b = true := by decide
  have hkinds : a.SameKinds b := by
    rintro (_ | ⟨_ | key, rest⟩)
    · rfl
    · rfl
    · have hget : Record.get? [("on", boolean true), ("level", int 1)] key =
          Record.get? [("level", int 1), ("on", boolean true)] key := by
        simp only [Record.get?]
        split_ifs with hon hlevel
        · exact absurd (hon.trans hlevel.symm) (by decide)
        all_goals rfl
      rw [kindAt?_entry, kindAt?_entry, hget]
  have hapart (h : Operands.apart = .one) : a = b := by cases h
  obtain ⟨hshape, -, hsame, hfinds⟩ := strictEquals_kinds a b hkeyed
  refine ⟨hkeyed, hequal, hshape .apart hapart hequal on, hkinds.unmixed,
    (hsame hkinds.unmixed).mp hequal, ?_⟩
  refine hfinds .isIn (by decide) "switch" [b] now r "" none rfl fun v hv item hitem => ?_
  obtain rfl : v = a := List.mem_singleton.mp hv
  obtain rfl : item = b := List.mem_singleton.mp hitem
  exact hkinds.unmixed

/-- Inside an array, true is taken for 1. -/
theorem kinds_otherwise :
    let a : Value := .array [.boolean true]
    let b : Value := .array [.int 1]
    let r : Record := [("flags", .array [a])]
    let now : Timestamp := ⟨⟨2024, 6, 1, by decide⟩, .midnight, some .utc⟩
    a.Keyed ∧ b.Keyed ∧ strictEquals .apart a b = true ∧ ¬ a.SameKinds b ∧
      a.kindAt? [.item 0] = some .boolean ∧ b.kindAt? [.item 0] = some .number ∧
      Leaf.holds ⟨"flags", .hasAny, .array [b], "", none⟩ now r = .ok true := by
  intro a b r now
  refine ⟨⟨trivial, trivial⟩, ⟨trivial, trivial⟩, by decide, fun h => ?_, rfl, rfl, rfl⟩
  cases h [.item 0]

end Value

end EventChain
