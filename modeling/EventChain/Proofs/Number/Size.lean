import EventChain.Proofs.Number.Overflow

/-!
# The size of decimals

A decimal that `Binary64.ofDecimal` settles by its size alone is rounded to the same float as any
other is (`Binary64.ofDecimal_eq_ofQuotient`). So decimals of one value are rounded alike, and a
decimal is rounded to a finite float exactly below `Magnitude.bound` (`isFinite_ofDecimal_iff`).
-/

namespace EventChain

namespace Decimal

variable {d : Decimal}

def value (d : Decimal) : ℚ := d.coefficient * 10 ^ d.exponent

theorem quotient_pos (d : Decimal) : 0 < d.quotient.2 := by
  unfold quotient
  split
  · exact Nat.one_pos
  · exact Nat.pow_pos (by decide)

theorem quotient_value (d : Decimal) : (d.quotient.1 : ℚ) / d.quotient.2 = d.value := by
  unfold quotient value
  split
  · next h =>
    obtain ⟨e, he⟩ := Int.eq_ofNat_of_zero_le h
    simp [he]
  · next h =>
    obtain ⟨e, he⟩ := Int.eq_ofNat_of_zero_le (a := -d.exponent) (by omega)
    have hneg : d.exponent = -e := by omega
    simp [hneg, zpow_neg, div_eq_mul_inv]

theorem value_lt_high (d : Decimal) : d.value < 10 ^ d.high := by
  have hlog : d.coefficient < 10 ^ (d.coefficient.log2 / 3 + 1) := by
    calc d.coefficient < 2 ^ (d.coefficient.log2 + 1) := Nat.lt_log2_self
      _ ≤ 2 ^ (3 * (d.coefficient.log2 / 3 + 1)) := Nat.pow_le_pow_right (by decide) (by omega)
      _ = 8 ^ (d.coefficient.log2 / 3 + 1) := pow_mul 2 3 _
      _ ≤ 10 ^ (d.coefficient.log2 / 3 + 1) := Nat.pow_le_pow_left (by decide) _
  have hcast : (d.coefficient : ℚ) < 10 ^ (d.coefficient.log2 / 3 + 1) := by exact_mod_cast hlog
  rw [value, high, zpow_add₀ (by norm_num), zpow_natCast]
  gcongr

theorem low_le_value (h : d.coefficient ≠ 0) : 10 ^ d.low ≤ d.value := by
  have hlog : 10 ^ (3 * (d.coefficient.log2 / 10)) ≤ d.coefficient := by
    calc 10 ^ (3 * (d.coefficient.log2 / 10)) = 1000 ^ (d.coefficient.log2 / 10) := pow_mul 10 3 _
      _ ≤ 1024 ^ (d.coefficient.log2 / 10) := Nat.pow_le_pow_left (by decide) _
      _ = 2 ^ (10 * (d.coefficient.log2 / 10)) := (pow_mul 2 10 _).symm
      _ ≤ 2 ^ d.coefficient.log2 := Nat.pow_le_pow_right (by decide) (by omega)
      _ ≤ d.coefficient := Nat.log2_self_le h
  have hcast : (10 : ℚ) ^ (3 * (d.coefficient.log2 / 10)) ≤ d.coefficient := by exact_mod_cast hlog
  rw [value, low, zpow_add₀ (by norm_num), zpow_natCast]
  gcongr

end Decimal

namespace Magnitude

variable {num den : Nat}

theorem bound_le_ten_pow : bound ≤ 10 ^ 400 := by decide +kernel

theorem two_pow_lt_ten_pow : 2 ^ 1075 < 10 ^ 400 := by decide +kernel

theorem round?_zero (den : Nat) : round? 0 den = some .zero := if_pos rfl

theorem round?_eq_zero (hd : 0 < den) (h : (num : ℚ) / den < 2 ^ (-1075 : Int)) :
    round? num den = some .zero := by
  by_cases hn : num = 0
  · rw [hn, round?_zero]
  have hd' : (0 : ℚ) < den := by exact_mod_cast hd
  have hn' : (0 : ℚ) < num := by exact_mod_cast Nat.pos_of_ne_zero hn
  have hlog : floorLog2 num den < -1075 := by
    rw [floorLog2_eq_log hn hd.ne']
    exact (Int.lt_zpow_iff_log_lt (b := 2) (by norm_num) (by positivity)).mp (by exact_mod_cast h)
  have hexponent : exponentOf num den = -1074 := max_eq_right (by omega)
  have hmantissa : mantissaAt num den (-1074) = 0 := by
    obtain ⟨n, k, hk, heq, hvalue⟩ := mantissaAt_eq num hd (-1074)
    have hk' : (0 : ℚ) < k := by exact_mod_cast hk
    have hhalf : (n : ℚ) / k < 1 / 2 := by
      rw [hvalue, div_lt_iff₀ (by positivity)]
      refine h.trans_eq ?_
      rw [show (-1075 : Int) = -1 + -1074 from rfl, zpow_add₀ (by norm_num)]
      norm_num
    have hlt : 2 * n < k := by
      rw [div_lt_div_iff₀ hk' (by norm_num)] at hhalf
      have hcast : ((2 * n : Nat) : ℚ) < (k : Nat) := by
        push_cast
        linarith
      exact_mod_cast hcast
    rw [heq, roundQuotient, Nat.div_eq_of_lt (by omega), Nat.mod_eq_of_lt (by omega)]
    exact if_pos hlt
  rw [round?_eq_pack? hn, hexponent, hmantissa]
  rfl

end Magnitude

namespace Binary64

variable {d d' : Decimal}

theorem ofDecimal_eq_ofQuotient (negative : Bool) (d : Decimal) :
    ofDecimal negative d = ofQuotient negative d.quotient.1 d.quotient.2 := by
  have hpos : (0 : ℚ) < d.quotient.2 := by exact_mod_cast d.quotient_pos
  unfold ofDecimal
  split
  · next hsmall =>
    have hround : Magnitude.round? d.quotient.1 d.quotient.2 = some .zero := by
      refine Magnitude.round?_eq_zero d.quotient_pos ?_
      rw [d.quotient_value]
      rcases hsmall with hzero | hhigh
      · rw [Decimal.value, hzero, Nat.cast_zero, zero_mul]
        positivity
      · calc d.value < 10 ^ d.high := d.value_lt_high
          _ ≤ 10 ^ (-400 : Int) := zpow_le_zpow_right₀ (by norm_num) hhigh
          _ < 2 ^ (-1075 : Int) := by
            rw [zpow_neg, zpow_neg]
            exact inv_strictAnti₀ (by positivity) (by exact_mod_cast Magnitude.two_pow_lt_ten_pow)
    rw [ofQuotient, hround]
  split
  · next hsmall hlarge =>
    have hround : Magnitude.round? d.quotient.1 d.quotient.2 = none := by
      rw [Magnitude.round?_eq_none_iff d.quotient_pos]
      have hle : (Magnitude.bound : ℚ) ≤ d.quotient.1 / d.quotient.2 := by
        rw [d.quotient_value]
        calc (Magnitude.bound : ℚ) ≤ 10 ^ (400 : Int) := by
              exact_mod_cast Magnitude.bound_le_ten_pow
          _ ≤ 10 ^ d.low := zpow_le_zpow_right₀ (by norm_num) hlarge
          _ ≤ d.value := Decimal.low_le_value (not_or.mp hsmall).1
      rw [le_div_iff₀ hpos] at hle
      exact_mod_cast hle
    rw [ofQuotient, hround]
  · rfl

theorem ofDecimal_congr (h : d.value = d'.value) (negative : Bool) :
    ofDecimal negative d = ofDecimal negative d' := by
  have hd := d.quotient_pos
  have hd' := d'.quotient_pos
  rw [← d.quotient_value, ← d'.quotient_value, div_eq_div_iff (by positivity) (by positivity)] at h
  rw [ofDecimal_eq_ofQuotient, ofDecimal_eq_ofQuotient, ofQuotient, ofQuotient,
    Magnitude.round?_congr hd hd' (by exact_mod_cast h)]

theorem isFinite_ofDecimal_iff (negative : Bool) (d : Decimal) :
    (ofDecimal negative d).isFinite = true ↔ d.value < Magnitude.bound := by
  have hpos : (0 : ℚ) < d.quotient.2 := by exact_mod_cast d.quotient_pos
  rw [ofDecimal_eq_ofQuotient, isFinite_ofQuotient_iff _ d.quotient_pos, ← d.quotient_value,
    div_lt_iff₀ hpos]
  exact_mod_cast Iff.rfl

end Binary64

end EventChain
