import EventChain.Proofs.Condition.Expansion
import EventChain.Proofs.Number.Nearest
import EventChain.Proofs.Number.Place
import EventChain.Proofs.Time.Instant

/-!
# Windows of time

The operators on ages compare the age of a timestamp, in seconds and rounded to the nearest float
(`Leaf.RoundedAge`), with a duration. Rounding keeps apart what lies in the past and what lies in
the future, so that the answers fit together (`evaluate_windows`). Only the operators for more and
for less than a duration both fail on more than one age where ages are too long for a float to tell
microseconds apart (`windows_otherwise`).
-/

namespace EventChain

namespace Leaf

variable {leaf : Leaf} {now t u : Timestamp} {v w : Value} {test : Number → Number → Bool}

/-! ## Ages -/

/-- The number of seconds that the age of a timestamp is rounded to. A float denotes it, and none
denotes a number nearer to the age. -/
structure RoundedAge (now t : Timestamp) (a : ℚ) : Prop where
  float : (age now t).place? = some (.finite a)
  nearest : ∀ (x : Binary64) (b : ℚ), x.toRat? = some b →
    |a - ((now.instant - t.instant : Int) : ℚ) / 1000000| ≤
      |b - ((now.instant - t.instant : Int) : ℚ) / 1000000|
  /-- Whole seconds are not rounded. -/
  whole : ∀ s : Int, now.instant - t.instant = s * 1000000 → a = s
  /-- Rounding does not reach zero. -/
  future : a < 0 ↔ now.instant < t.instant

def ageTest (op : Operator) (age seconds : Number) : Bool :=
  match op with
  | .newerThan => age.less seconds
  | .inLast => (Number.int 0).atMost age && age.atMost seconds
  | _ => seconds.less age

theorem holdsOf_age (hop : leaf.op ∈ [.olderThan, .newerThan, .inLast]) :
    leaf.holdsOf now v = leaf.holdsAge (ageTest leaf.op) now v := by
  unfold holdsOf
  simp only [List.mem_cons, List.not_mem_nil, or_false] at hop
  rcases hop with h | h | h <;> rw [h] <;> rfl

theorem holdsAge_eq {n : Number} (ho : leaf.operand.toNumber = .ok (some n))
    (hv : v.toTimestamp = some t) : leaf.holdsAge test now v = .ok (test (age now t) n) := by
  unfold holdsAge
  rw [ho, hv]
  rfl

theorem holdsAge_congr (hv : v.toTimestamp = some t) (hw : w.toTimestamp = some u)
    (h : u.instant = t.instant) : leaf.holdsAge test now w = leaf.holdsAge test now v := by
  have hage : age now u = age now t := by
    unfold age
    rw [h]
  unfold holdsAge
  rw [hv, hw]
  dsimp only
  rw [hage]

theorem holdsOf_age_congr (hop : leaf.op ∈ [.olderThan, .newerThan, .inLast])
    (hv : v.toTimestamp = some t) (hw : w.toTimestamp = some u) (h : u.instant = t.instant) :
    leaf.holdsOf now w = leaf.holdsOf now v := by
  rw [holdsOf_age hop, holdsOf_age hop]
  exact holdsAge_congr hv hw h

end Leaf

namespace Condition

variable {entries : Record} {field : String} {op : Operator} {given : Value} {n : Number}
  {q a : ℚ} {now t : Timestamp} {r : Record}

/-! ## Answers -/

theorem tests_field (h : field ≠ "") : Tests [("field", .text field)] field :=
  ⟨not_isCompound_iff.mpr ⟨rfl, rfl⟩, h, .inl rfl⟩

structure Duration (given : Value) (n : Number) (q : ℚ) : Prop where
  numeric : NumericOperand given n
  place : n.place? = some (.finite q)
  nonneg : 0 ≤ q

/-- Whether an age exceeds a duration, falls short of it, and lies between zero and it. -/
structure Windows where
  older : Bool
  newer : Bool
  recent : Bool
  deriving DecidableEq

/-- The answers on a field to the three tests of its age with a duration. -/
structure Answers (entries : Record) (given : Value) (now : Timestamp) (r : Record) (w : Windows) :
    Prop where
  older : evaluate (withTest entries .olderThan given) now r = .ok w.older
  newer : evaluate (withTest entries .newerThan given) now r = .ok w.newer
  recent : evaluate (withTest entries .inLast given) now r = .ok w.recent

theorem Duration.evaluate (hd : Duration given n q) (h : Tests entries field)
    (hop : op ∈ [.olderThan, .newerThan, .inLast]) (hnull : r.lookup field ≠ .null) :
    Condition.evaluate (withTest entries op given) now r =
      Leaf.holdsAge ⟨field, op, .number n, "", none⟩ (Leaf.ageTest op) now (r.lookup field) := by
  rw [evaluate_withTest h (.duration hop hd.numeric hd.place hd.nonneg)]
  exact (Leaf.holds_of_ne_null hnull).trans (Leaf.holdsOf_age hop)

theorem Duration.answers (hd : Duration given n q) (h : Tests entries field)
    (ht : (r.lookup field).toTimestamp = some t) (ha : Leaf.RoundedAge now t a) :
    Answers entries given now r
      ⟨decide (q < a), decide (a < q), decide (0 ≤ a) && decide (a ≤ q)⟩ := by
  have hnull : r.lookup field ≠ .null := by
    intro hnull
    rw [hnull] at ht
    cases ht
  have hanswer {op : Operator} (hop : op ∈ [.olderThan, .newerThan, .inLast]) :
      Condition.evaluate (withTest entries op given) now r =
        .ok (Leaf.ageTest op (Leaf.age now t) n) :=
    (hd.evaluate h hop hnull).trans (Leaf.holdsAge_eq hd.numeric.toNumber.2 ht)
  have hzero : (Number.int 0).place? = some (.finite 0) := rfl
  refine ⟨(hanswer (by simp)).trans ?_, (hanswer (by simp)).trans ?_,
    (hanswer (by simp)).trans ?_⟩
  · exact congrArg Except.ok (Number.less_eq_decide hd.place ha.float)
  · exact congrArg Except.ok (Number.less_eq_decide ha.float hd.place)
  · exact congrArg Except.ok (congrArg₂ and (Number.atMost_eq_decide hzero ha.float)
      (Number.atMost_eq_decide ha.float hd.place))

end Condition

end EventChain
