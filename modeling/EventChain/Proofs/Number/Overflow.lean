import EventChain.Proofs.Number.Division
import EventChain.Proofs.Number.Rounding

/-!
# Overflow

Where rounding leaves the finite floats: exactly from `Magnitude.bound` on, which lies half a step
beyond the largest magnitude (`round?_eq_none_iff`). An integer is too large for a float from there
on (`Binary64.isFinite_ofInt_iff`), and so is a quotient of integers.
-/

namespace EventChain

section
variable {num den : Nat}

theorem le_roundQuotient_of_mul_le {t : Nat} (hd : 0 < den) (h : t * den ≤ num) :
    t ≤ roundQuotient num den :=
  Nat.le_trans ((Nat.le_div_iff_mul_le hd).mpr h) (le_roundQuotient num den)

theorem roundQuotient_le_succ (num den : Nat) : roundQuotient num den ≤ num / den + 1 := by
  unfold roundQuotient
  dsimp only
  split_ifs <;> omega

theorem roundQuotient_le {t : Nat} (hd : 0 < den) (h : num < t * den) :
    roundQuotient num den ≤ t :=
  Nat.le_trans (roundQuotient_le_succ num den) ((Nat.div_lt_iff_lt_mul hd).mpr h)

/-- A half goes to the even neighbour: an even number is reached from half a step below it on. -/
theorem le_roundQuotient_iff {t : Nat} (ht : t % 2 = 0) (hd : 0 < den) :
    t ≤ roundQuotient num den ↔ 2 * (t * den) ≤ 2 * num + den := by
  have hnum := Nat.div_add_mod num den
  have hmod := Nat.mod_lt num hd
  rcases Nat.lt_trichotomy t (num / den + 1) with hlt | rfl | hgt
  · have hle : t * den ≤ den * (num / den) := by
      rw [Nat.mul_comm t]
      exact Nat.mul_le_mul_left den (Nat.le_of_lt_succ hlt)
    exact iff_of_true (Nat.le_trans (Nat.le_of_lt_succ hlt) (le_roundQuotient num den)) (by omega)
  · have hstep : (num / den + 1) * den = den * (num / den) + den := by ring
    rw [hstep]
    unfold roundQuotient
    dsimp only
    split_ifs <;> omega
  · have hle : den * (num / den) + 2 * den ≤ t * den := by
      calc den * (num / den) + 2 * den = (num / den + 2) * den := by ring
        _ ≤ t * den := Nat.mul_le_mul_right den hgt
    have hround := roundQuotient_le_succ num den
    exact iff_of_false (by omega) (by omega)

end

namespace Magnitude

variable {num den : Nat}

/-- The least number that is rounded beyond the largest magnitude. -/
def bound : Nat := 2 ^ 1024 - 2 ^ 970

theorem bound_eq : bound = (2 ^ 54 - 1) * 2 ^ 970 := by decide +kernel

theorem two_pow_lt_bound : 2 ^ 1023 < bound := by decide +kernel

/-! ## Mantissas -/

def exponentOf (num den : Nat) : Int := max (floorLog2 num den - 52) (-1074)

def mantissaAt (num den : Nat) (e : Int) : Nat :=
  if 0 ≤ e then roundQuotient num (den * Nat.pow 2 e.toNat)
  else roundQuotient (num * Nat.pow 2 (-e).toNat) den

theorem round?_eq_pack? (h : num ≠ 0) :
    round? num den = pack? (mantissaAt num den (exponentOf num den)) (exponentOf num den) :=
  if_neg h

theorem mantissaAt_eq (num : Nat) (hd : 0 < den) (e : Int) :
    ∃ n d, 0 < d ∧ mantissaAt num den e = roundQuotient n d ∧
      (n : ℚ) / d = (num : ℚ) / den / 2 ^ e := by
  unfold mantissaAt
  obtain ⟨k, rfl | rfl⟩ := e.eq_nat_or_neg
  · refine ⟨num, den * 2 ^ k, Nat.mul_pos hd (Nat.two_pow_pos k), ?_, ?_⟩
    · rw [if_pos (Int.natCast_nonneg k), Int.toNat_natCast, Nat.pow_eq]
    · push_cast
      rw [zpow_natCast, div_div]
  · by_cases hk : k = 0
    · subst hk
      exact ⟨num, den, hd, by simp, by simp⟩
    · refine ⟨num * 2 ^ k, den, hd, ?_, ?_⟩
      · rw [if_neg (by omega), neg_neg, Int.toNat_natCast, Nat.pow_eq]
      · push_cast
        rw [zpow_neg, zpow_natCast, div_inv_eq_mul, mul_div_right_comm]

theorem mantissaAt_le {e : Int} (hd : 0 < den) (h : (num : ℚ) / den < 2 ^ (e + 53)) :
    mantissaAt num den e ≤ 2 ^ 53 := by
  obtain ⟨n, d, hpos, heq, hvalue⟩ := mantissaAt_eq num hd e
  rw [heq]
  refine roundQuotient_le hpos ?_
  have hd' : (0 : ℚ) < d := by exact_mod_cast hpos
  have hlt : (n : ℚ) / d < 2 ^ 53 := by
    rw [hvalue, div_lt_iff₀ (by positivity), ← zpow_natCast, ← zpow_add₀ (by norm_num)]
    rwa [add_comm] at h
  rw [div_lt_iff₀ hd'] at hlt
  exact_mod_cast hlt

theorem le_mantissaAt {e : Int} (hd : 0 < den) (h : (2 : ℚ) ^ (e + 52) ≤ num / den) :
    2 ^ 52 ≤ mantissaAt num den e := by
  obtain ⟨n, d, hpos, heq, hvalue⟩ := mantissaAt_eq num hd e
  rw [heq]
  refine le_roundQuotient_of_mul_le hpos ?_
  have hd' : (0 : ℚ) < d := by exact_mod_cast hpos
  have hle : (2 : ℚ) ^ 52 ≤ n / d := by
    rw [hvalue, le_div_iff₀ (by positivity), ← zpow_natCast, ← zpow_add₀ (by norm_num)]
    rwa [add_comm] at h
  rw [le_div_iff₀ hd'] at hle
  exact_mod_cast hle

/-- A rounded mantissa has no more than 53 bits, but where it is carried to the next power of two,
and no fewer, but under the least exponent. -/
theorem mantissaAt_exponentOf (h : num ≠ 0) (hd : 0 < den) :
    mantissaAt num den (exponentOf num den) ≤ 2 ^ 53 ∧
      (2 ^ 52 ≤ mantissaAt num den (exponentOf num den) ∨ exponentOf num den = -1074) := by
  have hn : (0 : ℚ) < num := by exact_mod_cast Nat.pos_of_ne_zero h
  have hq : (0 : ℚ) < num / den := by
    have hd' : (0 : ℚ) < den := by exact_mod_cast hd
    positivity
  have hlog := floorLog2_eq_log h hd.ne'
  have hlt : (num : ℚ) / den < 2 ^ (floorLog2 num den + 1) := by
    rw [hlog]
    exact_mod_cast Int.lt_zpow_succ_log_self (b := 2) (by norm_num) ((num : ℚ) / den)
  have hle : (2 : ℚ) ^ floorLog2 num den ≤ num / den := by
    rw [hlog]
    exact_mod_cast Int.zpow_log_le_self (b := 2) (by norm_num) hq
  have hexponent : floorLog2 num den - 52 ≤ exponentOf num den := le_max_left _ _
  refine ⟨mantissaAt_le hd (hlt.trans_le (zpow_le_zpow_right₀ (by norm_num) (by omega))), ?_⟩
  rcases max_choice (floorLog2 num den - 52) (-1074) with hmax | hmax
  · refine .inl (le_mantissaAt hd (le_trans (le_of_eq ?_) hle))
    rw [exponentOf, hmax]
    congr 1
    omega
  · exact .inr hmax

/-- The mantissa is carried to a bit more from half a unit below it on. -/
theorem carries_iff (num : Nat) (hd : 0 < den) (k : Nat) :
    2 ^ 53 ≤ mantissaAt num den ((k + 1 : Nat) : Int) ↔ (2 ^ 54 - 1) * (2 ^ k * den) ≤ num := by
  have hunit : den * 2 ^ (k + 1) = 2 * (2 ^ k * den) := by ring
  rw [mantissaAt, if_pos (Int.natCast_nonneg _), Int.toNat_natCast, Nat.pow_eq, hunit,
    le_roundQuotient_iff (by norm_num) (by positivity)]
  omega

theorem pack?_eq_none_iff {m : Nat} {e : Int} (hm : m ≤ 2 ^ 53) (hle : -1074 ≤ e)
    (hleading : 2 ^ 52 ≤ m ∨ e = -1074) :
    pack? m e = none ↔ 971 < e ∨ e = 971 ∧ m = 2 ^ 53 := by
  unfold pack?
  by_cases hcarry : m = 0x20000000000000
  · rw [if_pos hcarry]
    simp only [dite_eq_right_iff, reduceCtorEq, imp_false]
    omega
  · rw [if_neg hcarry]
    simp only [dite_eq_right_iff, reduceCtorEq, imp_false]
    omega

/-! ## Rounding beyond the largest magnitude -/

/-- A quotient is rounded beyond the largest magnitude from half a step beyond it on. -/
theorem round?_eq_none_iff (hd : 0 < den) : round? num den = none ↔ bound * den ≤ num := by
  by_cases h : num = 0
  · subst h
    have hpos : 0 < bound * den :=
      Nat.mul_pos (Nat.lt_trans (Nat.two_pow_pos _) two_pow_lt_bound) hd
    exact iff_of_false (by simp [round?]) (by omega)
  obtain ⟨hm, hleading⟩ := mantissaAt_exponentOf h hd
  have hd' : (0 : ℚ) < den := by exact_mod_cast hd
  have hn : (0 : ℚ) < num := by exact_mod_cast Nat.pos_of_ne_zero h
  have hq : (0 : ℚ) < num / den := by positivity
  have hlog := floorLog2_eq_log h hd.ne'
  have hbelow (k : Nat) : (k : Int) ≤ floorLog2 num den ↔ 2 ^ k * den ≤ num := by
    rw [hlog, ← Int.zpow_le_iff_le_log (b := 2) (by norm_num) hq, le_div_iff₀ hd', zpow_natCast]
    exact_mod_cast Iff.rfl
  have hexponent : exponentOf num den = max (floorLog2 num den - 52) (-1074) := rfl
  have hleast : -1074 ≤ exponentOf num den := le_max_right _ _
  rw [round?_eq_pack? h, pack?_eq_none_iff hm hleast hleading]
  by_cases hbig : 2 ^ 1024 * den ≤ num
  · have hlarge := (hbelow 1024).mpr hbig
    have hle : bound * den ≤ 2 ^ 1024 * den := Nat.mul_le_mul_right den (Nat.sub_le _ _)
    exact iff_of_true (.inl (by omega)) (hle.trans hbig)
  have hnot := mt (hbelow 1024).mp hbig
  by_cases htop : 2 ^ 1023 * den ≤ num
  · -- In the last binade the mantissa decides, which reaches an even number by a half.
    have he : exponentOf num den = 971 := by
      have := (hbelow 1023).mpr htop
      omega
    have hcarry : mantissaAt num den 971 = 2 ^ 53 ↔ 2 ^ 53 ≤ mantissaAt num den 971 := by
      rw [he] at hm
      omega
    have hcarries : 2 ^ 53 ≤ mantissaAt num den 971 ↔ (2 ^ 54 - 1) * (2 ^ 970 * den) ≤ num :=
      carries_iff num hd 970
    rw [he, hcarry, hcarries, bound_eq, Nat.mul_assoc]
    omega
  · have hnot' := mt (hbelow 1023).mp htop
    have hlt : 2 ^ 1023 * den ≤ bound * den := Nat.mul_le_mul_right den two_pow_lt_bound.le
    exact iff_of_false (by omega) (by omega)

end Magnitude

namespace Binary64

theorem isFinite_ofQuotient_iff (negative : Bool) {num den : Nat} (hd : 0 < den) :
    (ofQuotient negative num den).isFinite = true ↔ num < Magnitude.bound * den := by
  rw [← not_le, ← Magnitude.round?_eq_none_iff hd]
  unfold ofQuotient
  cases Magnitude.round? num den <;> simp [isFinite]

theorem isFinite_ofInt_iff {n : Int} :
    (ofInt n).isFinite = true ↔ n.natAbs < Magnitude.bound := by
  rw [ofInt, isFinite_ofQuotient_iff _ Nat.one_pos, Nat.mul_one]

end Binary64

end EventChain
