import EventChain.Number.Reading
import EventChain.Proofs.Number.Division
import EventChain.Proofs.Value.Identifier
import EventChain.Value.Coercion
import Mathlib.Algebra.Order.Field.Basic
import Mathlib.Algebra.Order.Field.Rat

/-!
# Numbers that have decimal text

An integer has decimal text up to `DigitLimit.most` digits. A float has text always, also as the
integer that it denotes, which has at most `Magnitude.width` bits. A number that is read from
text has no more digits than an integer numeral may have (`writable_of_ofText?`).
-/

namespace EventChain

/-! ## Floats -/

namespace Magnitude

/-- The most bits that a magnitude has before its point. -/
def width : Nat := 1024

theorem two_pow_width_le : 2 ^ width ≤ 10 ^ DigitLimit.most :=
  Nat.le_trans (Nat.pow_le_pow_left (by decide) _)
    (Nat.pow_le_pow_right (by decide) (by decide))

theorem mantissa_lt_two_pow (m : Magnitude) : m.mantissa < 2 ^ 53 := m.mantissa_lt

theorem value_lt (m : Magnitude) : m.value < ((2 ^ width : Nat) : Rat) := by
  have hmantissa := m.mantissa_lt_two_pow
  unfold value
  split
  · have hexponent : 53 + m.exponent.toNat ≤ width := by
      have := m.exponent_le
      unfold width
      omega
    refine Nat.cast_lt.mpr ?_
    calc m.mantissa * 2 ^ m.exponent.toNat
        < 2 ^ 53 * 2 ^ m.exponent.toNat :=
          Nat.mul_lt_mul_of_pos_right hmantissa (Nat.two_pow_pos _)
      _ = 2 ^ (53 + m.exponent.toNat) := (Nat.pow_add 2 53 _).symm
      _ ≤ 2 ^ width := Nat.pow_le_pow_right Nat.two_pos hexponent
  · rw [Rat.mkRat_eq_div, Int.cast_natCast]
    calc (m.mantissa : Rat) / (Nat.pow 2 (-m.exponent).toNat : Nat)
        ≤ m.mantissa :=
          div_le_self (Nat.cast_nonneg _) (Nat.one_le_cast.mpr Nat.one_le_two_pow)
      _ < ((2 ^ width : Nat) : Rat) := Nat.cast_lt.mpr
          (Nat.lt_of_lt_of_le hmantissa (Nat.pow_le_pow_right Nat.two_pos (by decide)))

theorem exponent_le_of_pack? {mantissa : Nat} {exponent : Int} {m : Magnitude}
    (hm : pack? mantissa exponent = some m) : exponent ≤ 971 := by
  unfold pack? at hm
  by_cases hcarry : mantissa = 0x20000000000000
  · rw [if_pos hcarry] at hm
    obtain ⟨hfits, -⟩ := Option.dite_none_right_eq_some.mp hm
    omega
  · rw [if_neg hcarry] at hm
    obtain ⟨hfits, -⟩ := Option.dite_none_right_eq_some.mp hm
    exact hfits.2.2.1

/-- A natural number that is rounded to a magnitude has no more bits than magnitudes have. -/
theorem lt_of_round? {num : Nat} {m : Magnitude} (hm : round? num 1 = some m) :
    num < 2 ^ width := by
  by_cases h : num = 0
  · rw [h]
    exact Nat.two_pow_pos _
  · unfold round? at hm
    rw [if_neg h, floorLog2_one h] at hm
    have hexponent := exponent_le_of_pack? hm
    have hlog : num.log2 + 1 ≤ width := by
      unfold width
      omega
    exact Nat.lt_of_lt_of_le Nat.lt_log2_self (Nat.pow_le_pow_right Nat.two_pos hlog)

theorem value_nonneg (m : Magnitude) : 0 ≤ m.value := by
  unfold value
  split
  · exact Nat.cast_nonneg _
  · rw [Rat.mkRat_eq_div]
    positivity

end Magnitude

theorem Number.writable_of_not_isTooLong {n : Number} (h : n.isTooLong = false)
    (hpos : ∀ i, n = .int i → 0 < i) : n.Writable := by
  cases n with
  | float x => trivial
  | int i =>
    have hfinite : (Binary64.ofInt i).isFinite = true := by
      simpa [isTooLong, hpos i rfl] using h
    unfold Binary64.ofInt Binary64.ofQuotient at hfinite
    split at hfinite
    · next m hm =>
      exact Nat.lt_of_lt_of_le (Magnitude.lt_of_round? hm) Magnitude.two_pow_width_le
    · cases hfinite

theorem Binary64.natAbs_lt_of_toInt? {x : Binary64} {n : Int} (h : x.toInt? = some n) :
    n.natAbs < 10 ^ DigitLimit.most := by
  obtain ⟨q, hq, h⟩ := Option.bind_eq_some_iff.mp h
  obtain ⟨hden, hn⟩ := Option.ite_none_right_eq_some.mp h
  have hvalue : |q| < ((2 ^ Magnitude.width : Nat) : Rat) := by
    cases x with
    | finite negative m =>
      have hm : |q| = m.value := by
        cases hq
        split
        · rw [abs_neg, abs_of_nonneg m.value_nonneg]
        · exact abs_of_nonneg m.value_nonneg
      exact hm ▸ m.value_lt
    | infinite negative => cases hq
    | nan => cases hq
  have hint : q = (n : Rat) := by
    rw [← Option.some.inj hn, Rat.coe_int_num_of_den_eq_one hden]
  have hlt : (n.natAbs : Rat) < ((2 ^ Magnitude.width : Nat) : Rat) := by
    rw [Nat.cast_natAbs, Int.cast_abs, ← hint]
    exact hvalue
  exact Nat.lt_of_lt_of_le (Nat.cast_lt.mp hlt) Magnitude.two_pow_width_le

namespace Number

theorem Writable.coercedText {n : Number} (h : n.Writable) : ∃ text, n.coercedText = .ok text := by
  cases n with
  | int n => exact intText_eq_ok_iff.mpr h
  | float x =>
    unfold Number.coercedText
    cases x with
    | finite negative m =>
      simp only
      split
      · next n hn => exact intText_eq_ok_iff.mpr (Binary64.natAbs_lt_of_toInt? hn)
      · exact ⟨_, rfl⟩
    | infinite negative => exact ⟨_, rfl⟩
    | nan => exact ⟨_, rfl⟩

theorem Writable.of_finite? {n m : Number} (h : n.Writable) (hm : n.finite? = some m) :
    m.Writable := by
  cases n with
  | int n =>
    cases hm
    exact h
  | float x =>
    obtain ⟨-, hm⟩ := Option.ite_none_right_eq_some.mp hm
    cases hm
    trivial

end Number

/-! ## Numerals -/

theorem Decimal.foldl_digits_lt {ds : List Nat} (h : ∀ d ∈ ds, d < 10) (n : Nat) :
    ds.foldl (10 * · + ·) n < (n + 1) * 10 ^ ds.length := by
  induction ds generalizing n with
  | nil => simp
  | cons d rest ih =>
    rw [List.forall_mem_cons] at h
    calc rest.foldl (10 * · + ·) (10 * n + d)
        < (10 * n + d + 1) * 10 ^ rest.length := ih h.2 _
      _ ≤ ((n + 1) * 10) * 10 ^ rest.length := Nat.mul_le_mul_right _ (by omega)
      _ = (n + 1) * 10 ^ (d :: rest).length := by rw [List.length_cons, pow_succ']; ring

theorem Decimal.ofDigits_lt {ds : List Nat} (h : ∀ d ∈ ds, d < 10) :
    Decimal.ofDigits ds < 10 ^ ds.length := by
  simpa [Decimal.ofDigits] using Decimal.foldl_digits_lt h 0

theorem Number.writable_of_digits {ds : List Nat} {negative : Bool} (h : ∀ d ∈ ds, d < 10)
    (hlen : ds.length ≤ DigitLimit.most) :
    (Number.int (if negative then -(Decimal.ofDigits ds : Int) else Decimal.ofDigits ds)).Writable
    := by
  have hlt : Decimal.ofDigits ds < 10 ^ DigitLimit.most :=
    Nat.lt_of_lt_of_le (Decimal.ofDigits_lt h) (Nat.pow_le_pow_right (by norm_num) hlen)
  cases negative with
  | true => simpa [Number.Writable] using hlt
  | false => simpa [Number.Writable] using hlt

theorem Text.digit?_lt {c : Char} {d : Nat} (h : Text.digit? c = some d) : d < 10 := by
  unfold Text.digit? at h
  split at h
  · obtain ⟨⟨-, hnine⟩, hd⟩ := Option.ite_none_right_eq_some.mp h
    have hcode : c.toNat ≤ 57 := hnine
    cases hd
    omega
  · obtain ⟨z, hz, hd⟩ := Option.map_eq_some_iff.mp h
    have hrange := List.find?_some hz
    simp only [decide_eq_true_eq] at hrange
    omega

theorem Numeral.digits_lt (cs : List Char) : ∀ d ∈ (Numeral.digits cs).1, d < 10 := by
  induction cs with
  | nil => simp [Numeral.digits]
  | cons c rest ih =>
    unfold Numeral.digits
    split
    · next d hd => exact List.forall_mem_cons.mpr ⟨Text.digit?_lt hd, ih⟩
    · simp

theorem Number.writable_of_int? {cs : List Char} {n : Int} (h : Numeral.int? cs = some n) :
    (Number.int n).Writable := by
  unfold Numeral.int? at h
  generalize Numeral.sign cs = signed at h
  obtain ⟨negative, body⟩ := signed
  have hdigits := Numeral.digits_lt body
  simp only at h
  split at h
  · cases h
  · cases h
  · next ds heq =>
    rw [heq] at hdigits
    split at h
    · cases h
    · next hlen =>
      cases h
      exact Number.writable_of_digits hdigits (Nat.not_lt.mp hlen)

theorem Number.writable_of_ofText? {s : String} {n : Number} (h : Number.ofText? s = some n) :
    n.Writable := by
  unfold Number.ofText? at h
  split at h
  · cases h
    exact Nat.pow_pos (by norm_num)
  split at h
  · cases h
  split at h
  · next hn =>
    cases h
    exact Number.writable_of_int? hn
  split at h
  · split at h
    · cases h
      trivial
    · cases h
  · cases h

end EventChain
