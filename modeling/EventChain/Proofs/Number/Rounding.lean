import EventChain.Number.Decimal
import Mathlib.Algebra.Order.Field.Power
import Mathlib.Algebra.Order.Floor.Semifield
import Mathlib.Data.Int.Log
import Mathlib.Data.Rat.Floor
import Mathlib.Tactic.FieldSimp
import Mathlib.Tactic.Linarith
import Mathlib.Tactic.Positivity
import Mathlib.Tactic.Ring

/-!
# Rounding

What rounding a quotient to a magnitude depends on: quotients of one value are rounded alike
(`round?_congr`), and a magnitude is what its own value is rounded to (`round?_self`).
-/

namespace EventChain

section
variable {num den : Nat}

/-! ## The binary exponent -/

theorem two_zpow_le_div_iff (num : Nat) (hd : den ≠ 0) (k : Int) :
    (if 0 ≤ k then den * Nat.pow 2 k.toNat ≤ num else den ≤ num * Nat.pow 2 (-k).toNat) ↔
      (2 : ℚ) ^ k ≤ (num : ℚ) / den := by
  have hd' : (0 : ℚ) < den := by exact_mod_cast Nat.pos_of_ne_zero hd
  rw [le_div_iff₀ hd']
  obtain ⟨n, rfl | rfl⟩ := k.eq_nat_or_neg
  · rw [if_pos (by omega), Int.toNat_natCast, zpow_natCast, mul_comm den]
    exact_mod_cast Iff.rfl
  · rw [zpow_neg, zpow_natCast, ← div_eq_inv_mul, div_le_iff₀ (by positivity)]
    by_cases hn : n = 0
    · subst hn
      norm_num
    · rw [if_neg (by omega), neg_neg, Int.toNat_natCast]
      exact_mod_cast Iff.rfl

theorem two_zpow_lt_div (hn : num ≠ 0) (hd : den ≠ 0) :
    (2 : ℚ) ^ ((num.log2 : Int) - den.log2 - 1) < (num : ℚ) / den := by
  have hd' : (0 : ℚ) < den := by exact_mod_cast Nat.pos_of_ne_zero hd
  have hnum : (2 : ℚ) ^ num.log2 ≤ num := by exact_mod_cast Nat.log2_self_le hn
  have hden : (den : ℚ) < 2 ^ (den.log2 + 1) := by exact_mod_cast Nat.lt_log2_self
  have hexp : (2 : ℚ) ^ ((num.log2 : Int) - den.log2 - 1) =
      (2 : ℚ) ^ num.log2 / 2 ^ (den.log2 + 1) := by
    rw [← zpow_natCast, ← zpow_natCast, ← zpow_sub₀ (by norm_num)]
    congr 1
    push_cast
    ring
  rw [hexp, div_lt_div_iff₀ (by positivity) hd']
  calc (2 : ℚ) ^ num.log2 * den ≤ num * den := by gcongr
    _ < num * 2 ^ (den.log2 + 1) := by
      have hn' : (0 : ℚ) < num := by exact_mod_cast Nat.pos_of_ne_zero hn
      gcongr

theorem div_lt_two_zpow (num : Nat) (hd : den ≠ 0) :
    (num : ℚ) / den < (2 : ℚ) ^ ((num.log2 : Int) - den.log2 + 1) := by
  have hd' : (0 : ℚ) < den := by exact_mod_cast Nat.pos_of_ne_zero hd
  have hnum : (num : ℚ) < 2 ^ (num.log2 + 1) := by exact_mod_cast Nat.lt_log2_self
  have hden : (2 : ℚ) ^ den.log2 ≤ den := by exact_mod_cast Nat.log2_self_le hd
  have hexp : (2 : ℚ) ^ ((num.log2 : Int) - den.log2 + 1) =
      (2 : ℚ) ^ (num.log2 + 1) / 2 ^ den.log2 := by
    rw [← zpow_natCast, ← zpow_natCast, ← zpow_sub₀ (by norm_num)]
    congr 1
    push_cast
    ring
  rw [hexp, div_lt_div_iff₀ hd' (by positivity)]
  calc (num : ℚ) * 2 ^ den.log2 ≤ num * den := by gcongr
    _ < 2 ^ (num.log2 + 1) * den := by gcongr

theorem floorLog2_eq_log (hn : num ≠ 0) (hd : den ≠ 0) :
    floorLog2 num den = Int.log 2 ((num : ℚ) / den) := by
  have hn' : (0 : ℚ) < num := by exact_mod_cast Nat.pos_of_ne_zero hn
  have hq : (0 : ℚ) < num / den := by positivity
  have hlt := two_zpow_lt_div hn hd
  have hgt := div_lt_two_zpow num hd
  have hreached := two_zpow_le_div_iff num hd ((num.log2 : Int) - den.log2)
  unfold floorLog2
  dsimp only
  generalize (num.log2 : Int) - den.log2 = k at hlt hgt hreached ⊢
  have hle (x : Int) : (2 : ℚ) ^ x ≤ (num : ℚ) / den ↔ x ≤ Int.log 2 ((num : ℚ) / den) := by
    exact_mod_cast Int.zpow_le_iff_le_log (b := 2) (by norm_num) hq
  have hbelow := (hle (k - 1)).mp hlt.le
  have habove := mt (hle (k + 1)).mpr (not_le.mpr hgt)
  by_cases hk : (2 : ℚ) ^ k ≤ (num : ℚ) / den
  · rw [if_pos (hreached.mpr hk)]
    have := (hle k).mp hk
    omega
  · rw [if_neg (mt hreached.mp hk)]
    have := mt (hle k).mpr hk
    omega

/-! ## Quotients of one value -/

theorem roundQuotient_mul_left {c : Nat} (hc : 0 < c) :
    roundQuotient (c * num) (c * den) = roundQuotient num den := by
  unfold roundQuotient
  have htwice : 2 * (c * (num % den)) = c * (2 * (num % den)) := by ring
  simp only [Nat.mul_div_mul_left _ _ hc, Nat.mul_mod_mul_left, htwice, Nat.mul_lt_mul_left hc]

theorem roundQuotient_congr {num' den' : Nat} (hd : 0 < den) (hd' : 0 < den')
    (h : num * den' = num' * den) : roundQuotient num den = roundQuotient num' den' := by
  calc roundQuotient num den = roundQuotient (den' * num) (den' * den) :=
        (roundQuotient_mul_left hd').symm
    _ = roundQuotient (den * num') (den * den') := by
        rw [Nat.mul_comm den' num, h, Nat.mul_comm num', Nat.mul_comm den']
    _ = roundQuotient num' den' := roundQuotient_mul_left hd

theorem roundQuotient_mul (n : Nat) (hd : 0 < den) : roundQuotient (n * den) den = n := by
  unfold roundQuotient
  simp only [Nat.mul_mod_left, Nat.mul_zero, if_pos hd]
  exact Nat.mul_div_cancel n hd

end

namespace Magnitude

theorem round?_congr {num den num' den' : Nat} (hd : 0 < den) (hd' : 0 < den')
    (h : num * den' = num' * den) : round? num den = round? num' den' := by
  by_cases hn : num = 0
  · have hn' : num' = 0 := by
      rw [hn, Nat.zero_mul] at h
      exact (Nat.mul_eq_zero.mp h.symm).resolve_right hd.ne'
    rw [hn, hn']
    rfl
  have hn' : num' ≠ 0 := by
    rintro rfl
    rw [Nat.zero_mul] at h
    exact (Nat.mul_pos (Nat.pos_of_ne_zero hn) hd').ne' h
  have hvalue : (num : ℚ) / den = (num' : ℚ) / den' := by
    rw [div_eq_div_iff (by positivity) (by positivity)]
    exact_mod_cast h
  have hlog : floorLog2 num den = floorLog2 num' den' := by
    rw [floorLog2_eq_log hn hd.ne', floorLog2_eq_log hn' hd'.ne', hvalue]
  unfold round?
  rw [if_neg hn, if_neg hn', hlog]
  dsimp only
  split
  · have hsame (k : Nat) :
        roundQuotient num (den * Nat.pow 2 k) = roundQuotient num' (den' * Nat.pow 2 k) := by
      have hk : 0 < Nat.pow 2 k := Nat.pow_pos (by decide)
      refine roundQuotient_congr (Nat.mul_pos hd hk) (Nat.mul_pos hd' hk) ?_
      rw [← Nat.mul_assoc, h, Nat.mul_assoc]
    rw [hsame]
  · have hsame (p : Nat) : roundQuotient (num * p) den = roundQuotient (num' * p) den' := by
      refine roundQuotient_congr hd hd' ?_
      rw [Nat.mul_right_comm, h, Nat.mul_right_comm]
    rw [hsame]

/-! ## Magnitudes -/

theorem log_mul_two_zpow {n : Nat} (hn : n ≠ 0) (e : Int) :
    Int.log 2 ((n : ℚ) * 2 ^ e) = n.log2 + e := by
  have hn' : (0 : ℚ) < n := by exact_mod_cast Nat.pos_of_ne_zero hn
  have hq : (0 : ℚ) < n * 2 ^ e := by positivity
  have hle : (2 : ℚ) ^ (n.log2 : Int) ≤ n := by exact_mod_cast Nat.log2_self_le hn
  have hlt : (n : ℚ) < 2 ^ ((n.log2 : Int) + 1) := by exact_mod_cast Nat.lt_log2_self
  have hbelow : (n.log2 : Int) + e ≤ Int.log 2 ((n : ℚ) * 2 ^ e) := by
    refine (Int.zpow_le_iff_le_log (by norm_num) hq).mp ?_
    rw [Nat.cast_ofNat, zpow_add₀ (by norm_num)]
    gcongr
  have habove : Int.log 2 ((n : ℚ) * 2 ^ e) < (n.log2 : Int) + 1 + e := by
    refine (Int.lt_zpow_iff_log_lt (by norm_num) hq).mp ?_
    rw [Nat.cast_ofNat, zpow_add₀ (by norm_num)]
    gcongr
  omega

/-- The least exponent under which a mantissa of 53 bits holds a magnitude is its own. -/
theorem exponent_eq_max (m : Magnitude) (hm : m.mantissa ≠ 0) :
    max ((m.mantissa.log2 : Int) + m.exponent - 52) (-1074) = m.exponent := by
  have hlt : m.mantissa.log2 < 53 := (Nat.log2_lt hm).mpr m.mantissa_lt
  have hle := m.le_exponent
  rcases m.leading with hleading | hleast
  · have hge : 52 ≤ m.mantissa.log2 := (Nat.le_log2 hm).mpr hleading
    omega
  · omega

theorem pack?_self (m : Magnitude) : pack? m.mantissa m.exponent = some m := by
  have hcarry : m.mantissa ≠ 0x20000000000000 := m.mantissa_lt.ne
  unfold pack?
  rw [if_neg hcarry]
  exact dif_pos ⟨m.mantissa_lt, m.le_exponent, m.exponent_le, m.leading⟩

theorem round?_self {m : Magnitude} (hm : m.mantissa ≠ 0) {num den : Nat} (hd : 0 < den)
    (hvalue : (num : ℚ) / den = m.mantissa * 2 ^ m.exponent) : round? num den = some m := by
  have hd' : (0 : ℚ) < den := by exact_mod_cast hd
  have hn : num ≠ 0 := by
    rintro rfl
    have hpos : (0 : ℚ) < m.mantissa * 2 ^ m.exponent := by positivity
    simp [← hvalue] at hpos
  have hlog : floorLog2 num den = m.mantissa.log2 + m.exponent := by
    rw [floorLog2_eq_log hn hd.ne', hvalue, log_mul_two_zpow hm]
  unfold round?
  rw [if_neg hn, hlog, exponent_eq_max m hm]
  dsimp only
  rw [div_eq_iff hd'.ne'] at hvalue
  split
  · next he =>
    have hnum : num = m.mantissa * (den * Nat.pow 2 m.exponent.toNat) := by
      obtain ⟨e, he⟩ := Int.eq_ofNat_of_zero_le he
      rw [he, zpow_natCast] at hvalue
      rw [he, Int.toNat_natCast]
      have hcast : (num : ℚ) = ((m.mantissa * (den * 2 ^ e) : Nat) : ℚ) := by
        rw [hvalue]
        push_cast
        ring
      exact_mod_cast hcast
    have hgrid : 0 < den * Nat.pow 2 m.exponent.toNat := Nat.mul_pos hd (Nat.two_pow_pos _)
    rw [hnum, roundQuotient_mul _ hgrid]
    exact pack?_self m
  · next he =>
    have hnum : num * Nat.pow 2 (-m.exponent).toNat = m.mantissa * den := by
      obtain ⟨e, he⟩ := Int.eq_ofNat_of_zero_le (a := -m.exponent) (by omega)
      have hneg : m.exponent = -e := by omega
      rw [hneg, zpow_neg, zpow_natCast] at hvalue
      rw [he, Int.toNat_natCast]
      have hcast : ((num * 2 ^ e : Nat) : ℚ) = ((m.mantissa * den : Nat) : ℚ) := by
        push_cast
        rw [hvalue]
        field_simp
      exact_mod_cast hcast
    rw [hnum, roundQuotient_mul _ hd]
    exact pack?_self m

end Magnitude

end EventChain
