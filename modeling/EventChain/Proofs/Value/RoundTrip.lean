import EventChain.Proofs.Json.Numeral
import EventChain.Proofs.Number.Place
import EventChain.Proofs.Text.Blank
import EventChain.Proofs.Value.Comparison
import EventChain.Proofs.Value.Numeric

/-!
# Integers through coercions

The decimal text of an integer reads as the integer (`Number.ofText?_toString`), and an array around
a single value has the text of that value (`Value.toText_boxed`). So an integer comes back from any
number of arrays around it, and a number, its text and such an array are loosely equal. Whatever a
value counts as counts as itself (`Value.toNumber_counted`). All of it together is
`Value.coercions_stable`.
-/

namespace EventChain

/-! ## Numerals of integers -/

namespace Numeral

theorem values_of_ascii {cs : List Char} (h : ∀ c ∈ cs, c.isDigit = true) :
    values cs = cs.map (·.toNat - 48) := by
  rw [values, ← List.filterMap_eq_map]
  exact List.filterMap_congr fun c hc => digit?_of_ascii (h c hc)

theorem ofDigits_values_toDigits (n : Nat) :
    Decimal.ofDigits (values (Nat.toDigits 10 n)) = n := by
  rw [values_of_ascii (Json.isDigit_toDigits n), Json.ofDigits_map, Nat.ofDigitChars_ten_toDigits]

namespace Literal

variable {l : Literal} (n : Int)

theorem isBlank_of_mem_chars (h : l.Over Char.isDigit) :
    ∀ c ∈ l.chars, Text.isBlank c = false := by
  intro c hc
  rcases mem_chars h hc with hdigit | hmark
  · exact Text.isBlank_of_isDigit hdigit
  · simp only [List.mem_cons, List.not_mem_nil, or_false] at hmark
    rcases hmark with rfl | rfl | rfl | rfl | rfl <;> rfl

def ofInt (n : Int) : Literal :=
  ⟨⟨Nat.toDigits 10 n.natAbs, none, none⟩, if n < 0 then .minus else .none⟩

theorem over_ofInt : (ofInt n).Over Char.isDigit where
  whole := Json.isDigit_toDigits _
  fraction := nofun
  power := nofun
  ne_nil := List.append_ne_nil_of_left_ne_nil Nat.toDigits_ne_nil _

theorem isWhole_ofInt : (ofInt n).IsWhole := ⟨rfl, rfl⟩

theorem integer_ofInt : (ofInt n).integer = n := by
  unfold integer ofInt
  rw [ofDigits_values_toDigits]
  by_cases hn : n < 0
  · rw [if_pos hn]
    show -(n.natAbs : Int) = n
    omega
  · rw [if_neg hn]
    show (n.natAbs : Int) = n
    omega

end Literal

end Numeral

namespace Number

open Numeral (Literal)

theorem toString_int (n : Int) :
    toString n = (if n < 0 then "-" else "") ++ String.ofList (Nat.toDigits 10 n.natAbs) := by
  cases n with
  | ofNat m => rfl
  | negSucc m =>
    rw [if_pos (Int.negSucc_lt_zero m)]
    rfl

theorem toList_toString (n : Int) : (toString n).toList = (Literal.ofInt n).chars := by
  rw [toString_int, String.toList_append, String.toList_ofList]
  by_cases hn : n < 0 <;>
    simp [Literal.chars, Literal.ofInt, Numeral.Sign.chars, Numeral.Unsigned.chars, hn]

theorem intText_eq_toString {n : Int} (h : (int n).Writable) : intText n = .ok (toString n) := by
  unfold intText
  dsimp only
  rw [if_neg (Nat.not_lt.mpr (writable_int_iff.mp h)), ← toString_int]
  rfl

theorem ofText?_toString {n : Int} (h : (int n).Writable) :
    ofText? (toString n) = some (.int n) := by
  have hover := Literal.over_ofInt n
  have htrim : Text.trim (toString n).toList = (Literal.ofInt n).chars := by
    rw [toList_toString, Text.trim_eq_self (Literal.isBlank_of_mem_chars hover)]
  have hshort : (Literal.ofInt n).IsWhole ∧ (Literal.ofInt n).whole.length ≤ DigitLimit.most :=
    ⟨Literal.isWhole_ofInt n, writable_int_iff.mp h⟩
  rw [ofText?_of_chars (hover.mono fun c _ => Numeral.isDigit_of_ascii) htrim, if_pos hshort,
    Literal.integer_ofInt]

end Number

namespace Value

variable {v : Value} {operands : Operands}

/-! ## Arrays around a value -/

/-- A value within so many arrays, one in another, that have no other item. -/
def boxed (v : Value) : Nat → Value
  | 0 => v
  | k + 1 => array [v.boxed k]

theorem boxed_ne_null (h : v ≠ null) (k : Nat) : v.boxed k ≠ null := by
  cases k with
  | zero => exact h
  | succ k => exact nofun

theorem toText_singleton (h : v ≠ null) : (array [v]).toText = v.toText := by
  have htexts : itemTexts [v] = v.toText >>= fun shown => pure [shown] := by
    unfold itemTexts
    split
    · cases ‹_ = _›
    · next heq =>
      cases heq
      exact absurd rfl h
    · next heq =>
      cases heq
      rfl
  rw [toText, htexts]
  cases v.toText with
  | error limit => rfl
  | ok shown => exact congrArg Except.ok String.intercalate_singleton

/-- Arrays around a value do not show in its text. -/
theorem toText_boxed (h : v ≠ null) (k : Nat) : (v.boxed k).toText = v.toText := by
  induction k with
  | zero => rfl
  | succ k ih => rw [boxed, toText_singleton (boxed_ne_null h k), ih]

theorem toNumber_of_toText {items : List Value} {s : String} (hs : (array items).toText = .ok s) :
    (array items).toNumber = .ok (Number.ofText? s) := by
  rw [toNumber, hs]
  rfl

/-- Beside a number or a text, an array compares as its text does. -/
theorem looseEquals_of_toText {items : List Value} {s : String}
    (hs : (array items).toText = .ok s) (hv : v.kind = .number ∨ v.kind = .string) :
    looseEquals operands (array items) v = looseEquals operands (text s) v := by
  cases v with
  | number n =>
    show (array items).toText >>= (fun shown => pure (looseSettled.textIsNumber shown n)) = _
    rw [hs]
    rfl
  | text t =>
    show (array items).toText >>= (fun shown => pure (shown == t)) = _
    rw [hs]
    rfl
  | _ => simp [kind] at hv

/-! ## Integers -/

section
variable {n : Int} (h : (int n).Writable)
include h

theorem toText_boxed_int (k : Nat) : ((int n).boxed k).toText = .ok (toString n) := by
  have hne : int n ≠ null := nofun
  rw [toText_boxed hne]
  exact Number.intText_eq_toString h

theorem toNumber_boxed_int (k : Nat) : ((int n).boxed k).toNumber = .ok (some (.int n)) := by
  cases k with
  | zero => rfl
  | succ k =>
    have hshown : (array [(int n).boxed k]).toText = .ok (toString n) := toText_boxed_int h (k + 1)
    rw [boxed, toNumber_of_toText hshown, Number.ofText?_toString h]

theorem looseEquals_text_int (operands : Operands) :
    looseEquals operands (text (toString n)) (int n) = .ok true := by
  show Except.ok (looseSettled.textIsNumber (toString n) (.int n)) = .ok true
  have hself : (Number.int n).equals (.int n) = true := by simp
  rw [looseSettled.textIsNumber, Number.ofText?_toString h]
  exact congrArg Except.ok hself

theorem looseEquals_boxed_int (operands : Operands) (k : Nat) :
    looseEquals operands ((int n).boxed k) (int n) = .ok true ∧
      looseEquals operands ((int n).boxed k) (text (toString n)) = .ok true := by
  have htext := looseEquals_text_int h operands
  cases k with
  | zero =>
    have hself : (Number.int n).equals (.int n) = true := by simp
    exact ⟨congrArg Except.ok hself, looseEquals_comm operands _ _ ▸ htext⟩
  | succ k =>
    have hshown : (array [(int n).boxed k]).toText = .ok (toString n) := toText_boxed_int h (k + 1)
    rw [boxed, looseEquals_of_toText hshown (.inl rfl), looseEquals_of_toText hshown (.inr rfl)]
    exact ⟨htext, congrArg Except.ok (beq_self_eq_true (toString n))⟩

end

/-! ## Coercions of what was coerced -/

theorem toNumber_counted {w : Value} (h : v.counted = .ok w) : w.toNumber = v.toNumber := by
  obtain ⟨answer, hanswer, h⟩ := bind_eq_ok.mp h
  rw [hanswer]
  cases answer with
  | none =>
    cases h
    rfl
  | some n =>
    cases h
    exact congrArg Except.ok (finite?_of_toNumber hanswer)

theorem Writable.counted (h : v.Writable) : ∃ w, v.counted = .ok w := by
  obtain ⟨answer, hanswer⟩ := h.toNumber
  unfold Value.counted
  rw [hanswer]
  cases answer <;> exact ⟨_, rfl⟩

/-- An integer that has decimal text counts as itself and is shown as that text within any number of
arrays, and the integer, its text and the arrays around it are loosely equal in either order. What
any value counts as counts as itself. -/
theorem coercions_stable :
    (∀ (n : Int) (k : Nat) (operands : Operands), (int n).Writable →
      ((int n).boxed k).toNumber = .ok (some (.int n)) ∧
      ((int n).boxed k).toText = .ok (toString n) ∧
      [int n, (int n).boxed k, text (toString n)].Pairwise fun a b =>
        looseEquals operands a b = .ok true ∧ looseEquals operands b a = .ok true) ∧
    ∀ v : Value, v.Writable → ∃ w, v.counted = .ok w ∧ w.toNumber = v.toNumber := by
  constructor
  · intro n k operands h
    obtain ⟨hint, htext⟩ := looseEquals_boxed_int h operands k
    have hboth {a b : Value} (hab : looseEquals operands a b = .ok true) :
        looseEquals operands a b = .ok true ∧ looseEquals operands b a = .ok true :=
      ⟨hab, looseEquals_comm operands a b ▸ hab⟩
    refine ⟨toNumber_boxed_int h k, toText_boxed_int h k, ?_⟩
    rw [List.pairwise_cons, List.pairwise_pair, List.forall_mem_cons, List.forall_mem_singleton]
    exact ⟨⟨(hboth hint).symm, (hboth (looseEquals_text_int h operands)).symm⟩, hboth htext⟩
  · intro v h
    obtain ⟨w, hw⟩ := h.counted
    exact ⟨w, hw, toNumber_counted hw⟩

/-- A negative integer within two arrays, and a float that an array around it makes an integer. -/
theorem coercions_stable_negative :
    let n : Int := -1200
    let w : Value := array [array [int n]]
    let v : Value := array [number (.float (.ofDecimal false ⟨1, 21⟩))]
    (int n).Writable ∧ w.toNumber = .ok (some (.int n)) ∧ w.toText = .ok "-1200" ∧
      looseEquals .apart (int n) w = .ok true ∧ looseEquals .apart (text "-1200") w = .ok true ∧
      v.Writable ∧ ∃ c, v.counted = .ok c ∧ c.toNumber = .ok (some (.int (10 ^ 21))) := by
  intro n w v
  have hn : (int n).Writable :=
    (show n.natAbs < 10 ^ 4 by decide).trans_le (Nat.pow_le_pow_right (by decide) (by decide))
  have hv : v.Writable := ⟨trivial, trivial⟩
  obtain ⟨hintegers, hvalues⟩ := coercions_stable
  obtain ⟨hnumber, htext, hloose⟩ := hintegers n 2 .apart hn
  obtain ⟨c, hc, hcounted⟩ := hvalues v hv
  rw [List.pairwise_cons, List.pairwise_pair, List.forall_mem_cons] at hloose
  have hinteger : v.toNumber = .ok (some (.int (10 ^ 21))) := by decide +kernel
  exact ⟨hn, hnumber, htext, hloose.1.1.1, hloose.2.2, hv, c, hc, hcounted.trans hinteger⟩

end Value

end EventChain
