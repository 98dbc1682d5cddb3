import EventChain.Proofs.Condition.Window

/-!
# Timestamps without an offset

A timestamp without an offset counts as the number, and as the point in time, that it is with the
offset of UTC. Comparisons tell the two apart in one way only: beside another timestamp, equality
asks whether both have an offset before it looks at the instants. So a leaf has the same outcome on
both, unless it compares them for equality with a timestamp of the same instant
(`Leaf.holds_asUtc`).
-/

namespace EventChain

namespace Timestamp

theorem milliseconds_asUtc (t : Timestamp) : t.asUtc.milliseconds = t.milliseconds := by
  unfold milliseconds seconds
  rw [t.instant_asUtc]

/-- Of a timestamp without an offset and the same one of UTC, just one equals a timestamp of their
instant. -/
theorem equals_of_instant {t u : Timestamp} (h : t.isNaive = true)
    (hinstant : u.instant = t.instant) :
    t.equals u = u.isNaive ∧ t.asUtc.equals u = !u.isNaive := by
  unfold equals
  rw [t.isNaive_asUtc, t.instant_asUtc, h, hinstant]
  cases u.isNaive <;> simp

theorem equals_of_instant_ne {t u : Timestamp} (h : u.instant ≠ t.instant) :
    t.equals u = false := by
  unfold equals
  rw [beq_false_of_ne (Ne.symm h), Bool.and_false]

end Timestamp

namespace Value

theorem toNumber_asUtc (t : Timestamp) :
    (timestamp t.asUtc).toNumber = (timestamp t).toNumber := by
  rw [toNumber, toNumber, t.milliseconds_asUtc]

/-- Loose equality tells an offset of UTC from none beside timestamps of the same instant only. -/
theorem looseEquals_asUtc {operands : Operands} {t : Timestamp} {v : Value}
    (hv : ∀ u, v = timestamp u → u.instant ≠ t.instant) :
    looseEquals operands (timestamp t.asUtc) v = looseEquals operands (timestamp t) v := by
  cases v with
  | timestamp u =>
    have hne := hv u rfl
    have hutc : u.instant ≠ t.asUtc.instant := t.instant_asUtc ▸ hne
    exact congrArg Except.ok
      ((Timestamp.equals_of_instant_ne hutc).trans (Timestamp.equals_of_instant_ne hne).symm)
  | _ =>
    -- Beside any other kind, a timestamp is its number of milliseconds.
    show looseEquals operands (number (.float t.asUtc.milliseconds)) _ =
      looseEquals operands (number (.float t.milliseconds)) _
    rw [t.milliseconds_asUtc]

end Value

namespace Leaf

variable {leaf : Leaf} {now t : Timestamp}

theorem compare_asUtc (test : Number → Number → Bool) (operand : Value) :
    compare test (.timestamp t.asUtc) operand = compare test (.timestamp t) operand := by
  rw [compare, compare, Value.toNumber_asUtc]

theorem holdsBetween_asUtc :
    leaf.holdsBetween (.timestamp t.asUtc) = leaf.holdsBetween (.timestamp t) := by
  rw [holdsBetween, holdsBetween, Value.toNumber_asUtc]

/-- No operator on numbers or on ages tells an offset of UTC from none, and the two on equality only
do so beside a timestamp of the same instant. -/
theorem holdsOf_asUtc (hop : leaf.op ∈ [.equal, .notEqual, .less, .lessOrEqual, .greater,
      .greaterOrEqual, .between, .olderThan, .newerThan, .inLast])
    (h : leaf.op ∈ [.equal, .notEqual] → ∀ u, leaf.operand = .timestamp u → u.instant ≠ t.instant) :
    leaf.holdsOf now (.timestamp t.asUtc) = leaf.holdsOf now (.timestamp t) := by
  have hage (hop : leaf.op ∈ [.olderThan, .newerThan, .inLast]) :
      leaf.holdsOf now (.timestamp t.asUtc) = leaf.holdsOf now (.timestamp t) :=
    holdsOf_age_congr hop rfl rfl t.asUtc.instant_asUtc
  obtain ⟨field, op, operand, path, pattern⟩ := leaf
  cases op with
  | equal => exact congrArg limited (Value.looseEquals_asUtc (h (by simp)))
  | notEqual =>
    have hsame : Value.looseEquals .apart (.timestamp t.asUtc) operand =
        Value.looseEquals .apart (.timestamp t) operand := Value.looseEquals_asUtc (h (by simp))
    dsimp only [holdsOf]
    rw [hsame]
  | less | lessOrEqual | greater | greaterOrEqual => exact compare_asUtc _ _
  | between => exact holdsBetween_asUtc
  | olderThan | newerThan | inLast => exact hage (by simp)
  | _ => simp at hop

/-- A leaf that compares has one outcome on a timestamp without an offset and on the same one of
UTC, just where it does not compare them for equality with a timestamp of the same instant. That one
equals the one of the two that has an offset, or has none, as it does itself. -/
theorem holds_asUtc (hop : leaf.op ∈ [.equal, .notEqual, .less, .lessOrEqual, .greater,
      .greaterOrEqual, .between, .olderThan, .newerThan, .inLast])
    (hnaive : t.isNaive = true) {r s : Record} (hr : r.lookup leaf.field = .timestamp t)
    (hs : s.lookup leaf.field = .timestamp t.asUtc) (now : Timestamp) :
    (leaf.holds now s = leaf.holds now r ↔ ¬ (leaf.op ∈ [.equal, .notEqual] ∧
      ∃ u, leaf.operand = .timestamp u ∧ u.instant = t.instant)) ∧
    ∀ u, leaf.operand = .timestamp u → u.instant = t.instant →
      (leaf.op = .equal → leaf.holds now r = .ok u.isNaive ∧ leaf.holds now s = .ok (!u.isNaive)) ∧
      (leaf.op = .notEqual →
        leaf.holds now r = .ok (!u.isNaive) ∧ leaf.holds now s = .ok u.isNaive) := by
  have hrecord : leaf.holds now r = leaf.holdsOf now (.timestamp t) := by
    rw [holds_of_ne_null (by rw [hr]; exact nofun), hr]
  have hother : leaf.holds now s = leaf.holdsOf now (.timestamp t.asUtc) := by
    rw [holds_of_ne_null (by rw [hs]; exact nofun), hs]
  rw [hrecord, hother]
  have hanswers : ∀ u, leaf.operand = .timestamp u → u.instant = t.instant →
      (leaf.op = .equal → leaf.holdsOf now (.timestamp t) = .ok u.isNaive ∧
        leaf.holdsOf now (.timestamp t.asUtc) = .ok (!u.isNaive)) ∧
      (leaf.op = .notEqual → leaf.holdsOf now (.timestamp t) = .ok (!u.isNaive) ∧
        leaf.holdsOf now (.timestamp t.asUtc) = .ok u.isNaive) := by
    intro u hu hinstant
    obtain ⟨hleft, hright⟩ := Timestamp.equals_of_instant hnaive hinstant
    have hequal (v : Timestamp) : Value.looseEquals .apart (.timestamp v) leaf.operand =
        .ok (v.equals u) := by
      rw [hu]
      rfl
    constructor
    · intro hop
      unfold holdsOf
      simp only [hop, hequal, hleft, hright]
      exact ⟨rfl, rfl⟩
    · intro hop
      unfold holdsOf
      simp only [hop, hequal, hleft, hright]
      exact ⟨rfl, congrArg Except.ok (Bool.not_not _)⟩
  refine ⟨⟨?_, fun h => holdsOf_asUtc hop fun hequality u hu hinstant =>
    h ⟨hequality, u, hu, hinstant⟩⟩, hanswers⟩
  rintro hsame ⟨hequality, u, hu, hinstant⟩
  obtain ⟨hequal, hunequal⟩ := hanswers u hu hinstant
  have hdiffer (b : Bool) : (.ok b : Except Failure Bool) ≠ .ok (!b) := by
    cases b <;> nofun
  simp only [List.mem_cons, List.not_mem_nil, or_false] at hequality
  rcases hequality with hop | hop
  · obtain ⟨hleft, hright⟩ := hequal hop
    exact hdiffer _ (hleft.symm.trans (hsame.symm.trans hright))
  · obtain ⟨hleft, hright⟩ := hunequal hop
    exact hdiffer _ (hright.symm.trans (hsame.trans hleft))

/-- A noon without an offset, and with that of UTC, compared with its milliseconds in text. -/
theorem holds_asUtc_noon :
    let leaf : Leaf := ⟨"seen", .equal, .text "1717243200000", "", none⟩
    let t : Timestamp := ⟨⟨2024, 6, 1, by decide⟩, ⟨12, 0, 0, 0, by decide⟩, none⟩
    let r : Record := [("seen", .timestamp t)]
    let s : Record := [("seen", .timestamp t.asUtc)]
    leaf.op ∈ [.equal, .notEqual, .less, .lessOrEqual, .greater, .greaterOrEqual, .between,
        .olderThan, .newerThan, .inLast] ∧
      t.isNaive = true ∧ r.lookup leaf.field = .timestamp t ∧
      s.lookup leaf.field = .timestamp t.asUtc ∧ leaf.holds t r = .ok true ∧
      leaf.holds t s = leaf.holds t r := by
  intro leaf t r s
  have hop : leaf.op ∈ [.equal, .notEqual, .less, .lessOrEqual, .greater, .greaterOrEqual, .between,
      .olderThan, .newerThan, .inLast] := by decide
  have hequal : Value.looseEquals .apart (.timestamp t) leaf.operand = .ok true := by
    decide +kernel
  refine ⟨hop, rfl, rfl, rfl, congrArg limited hequal, ?_⟩
  refine (holds_asUtc hop rfl rfl rfl t).1.mpr ?_
  rintro ⟨-, u, hu, -⟩
  cases hu

/-- A noon without an offset does not equal the noon of UTC, though it does with the offset of
UTC. -/
theorem asUtc_otherwise :
    let u : Timestamp := ⟨⟨2024, 6, 1, by decide⟩, ⟨12, 0, 0, 0, by decide⟩, some .utc⟩
    let t : Timestamp := { u with offset := none }
    let config : Value := Condition.withTest [("field", .text "seen")] .equal (.timestamp u)
    t.isNaive = true ∧ t.asUtc = u ∧
      Condition.evaluate config u [("seen", .timestamp t)] = .ok false ∧
      Condition.evaluate config u [("seen", .timestamp t.asUtc)] = .ok true := by
  intro u t config
  have htests : Condition.Tests [("field", .text "seen")] "seen" :=
    Condition.tests_field (by decide)
  have htakes : Operator.equal.Takes (some (.timestamp u)) (.timestamp u) none := .any (by simp)
  have hnaive : Value.looseEquals .apart (.timestamp t) (.timestamp u) = .ok false := by
    decide +kernel
  have hutc : Value.looseEquals .apart (.timestamp t.asUtc) (.timestamp u) = .ok true := by
    decide +kernel
  refine ⟨rfl, rfl, ?_, ?_⟩
  · rw [Condition.evaluate_withTest htests htakes]
    exact congrArg limited hnaive
  · rw [Condition.evaluate_withTest htests htakes]
    exact congrArg limited hutc

end Leaf

end EventChain
