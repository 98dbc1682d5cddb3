import EventChain.Proofs.Number.Overflow

/-!
# Integers that floats hold

A float holds an integer of 53 bits with at most 971 zeros behind them (`Magnitude.Holds`). The
float next to an integer is integral, and it is the integer itself exactly where floats hold it. The
same comes of a multiple of the integer that is divided again (`Binary64.toInt?_ofQuotient_mul`).
-/

namespace EventChain

namespace Magnitude

/-- The natural number has 53 bits at most, and behind them at most 971 zeros. -/
def Holds (n : Nat) : Prop := ∃ m e, n = m * 2 ^ e ∧ m < 2 ^ 53 ∧ e ≤ 971

theorem holds_of_le {n : Nat} (h : n ≤ 2 ^ 53) : Holds n := by
  rcases h.lt_or_eq with hlt | rfl
  · exact ⟨n, 0, (Nat.mul_one n).symm, hlt, Nat.zero_le _⟩
  · exact ⟨1, 53, by norm_num, by norm_num, by norm_num⟩

theorem value_eq (m : Magnitude) : m.value = (m.mantissa : ℚ) * 2 ^ m.exponent := by
  unfold value
  split
  · next h =>
    obtain ⟨e, he⟩ := Int.eq_ofNat_of_zero_le h
    rw [he]
    simp
  · next h =>
    obtain ⟨e, he⟩ := Int.eq_ofNat_of_zero_le (a := -m.exponent) (by omega)
    have hneg : m.exponent = -e := by omega
    simp [hneg, Rat.mkRat_eq_div, zpow_neg, div_eq_mul_inv]

theorem holds_of_value {m : Magnitude} {n : Nat} (h : m.value = n) : Holds n := by
  rw [value_eq] at h
  rcases le_or_gt 0 m.exponent with hnonneg | hneg
  · obtain ⟨e, he⟩ := Int.eq_ofNat_of_zero_le hnonneg
    have hle := m.exponent_le
    refine ⟨m.mantissa, e, ?_, m.mantissa_lt, by omega⟩
    rw [he, zpow_natCast] at h
    exact_mod_cast h.symm
  · refine holds_of_le ?_
    have hpow : (2 : ℚ) ^ m.exponent ≤ 1 := zpow_le_one_of_nonpos₀ (by norm_num) hneg.le
    have hle : (n : ℚ) ≤ m.mantissa :=
      h ▸ mul_le_of_le_one_right (Nat.cast_nonneg m.mantissa) hpow
    exact (Nat.cast_le.mp hle).trans m.mantissa_lt.le

/-- A number that is held is a magnitude once its first bit is moved to the front. -/
theorem Holds.exists_magnitude {n : Nat} (h : Holds n) (hn : n ≠ 0) :
    ∃ m : Magnitude, m.mantissa ≠ 0 ∧ m.value = n := by
  obtain ⟨m, e, rfl, hm, he⟩ := h
  have hm0 : m ≠ 0 := by
    rintro rfl
    exact hn (Nat.zero_mul _)
  have hlog : m.log2 < 53 := (Nat.log2_lt hm0).mpr hm
  obtain ⟨shift, hshift⟩ : ∃ shift, m.log2 + shift = 52 := ⟨52 - m.log2, by omega⟩
  have hlt : m * 2 ^ shift < 0x20000000000000 := by
    calc m * 2 ^ shift < 2 ^ (m.log2 + 1) * 2 ^ shift :=
          Nat.mul_lt_mul_of_pos_right Nat.lt_log2_self (Nat.two_pow_pos shift)
      _ = 2 ^ 53 := by rw [← Nat.pow_add]; congr 1; omega
  have hleading : 0x10000000000000 ≤ m * 2 ^ shift := by
    calc 2 ^ 52 = 2 ^ m.log2 * 2 ^ shift := by rw [← Nat.pow_add, hshift]
      _ ≤ m * 2 ^ shift := Nat.mul_le_mul_right _ (Nat.log2_self_le hm0)
  refine ⟨⟨m * 2 ^ shift, (e : Int) - shift, hlt, by omega, by omega, .inl hleading⟩, ?_, ?_⟩
  · exact Nat.mul_ne_zero hm0 (Nat.two_pow_pos shift).ne'
  · rw [value_eq]
    push_cast
    rw [mul_assoc, ← zpow_natCast, ← zpow_add₀ (by norm_num), add_sub_cancel, zpow_natCast]

theorem Holds.round? {n : Nat} (h : Holds n) :
    ∃ m : Magnitude, Magnitude.round? n 1 = some m ∧ m.value = n := by
  by_cases hn : n = 0
  · exact ⟨zero, if_pos hn, by simp [hn, value_of_mantissa, zero]⟩
  · obtain ⟨m, hm, hvalue⟩ := h.exists_magnitude hn
    refine ⟨m, round?_self hm Nat.one_pos ?_, hvalue⟩
    rw [Nat.cast_one, div_one, ← hvalue, value_eq]

theorem Holds.lt_bound {n : Nat} (h : Holds n) : n < bound := by
  obtain ⟨m, hround, -⟩ := h.round?
  by_contra hge
  rw [(round?_eq_none_iff Nat.one_pos).mpr (by omega)] at hround
  cases hround

theorem le_exponent_of_pack? {mantissa : Nat} {exponent : Int} {m : Magnitude}
    (h : pack? mantissa exponent = some m) : exponent ≤ m.exponent := by
  unfold pack? at h
  by_cases hcarry : mantissa = 0x20000000000000
  · rw [if_pos hcarry] at h
    obtain ⟨hfits, h⟩ := Option.dite_none_right_eq_some.mp h
    cases h
    exact Int.le_add_one le_rfl
  · rw [if_neg hcarry] at h
    obtain ⟨hfits, h⟩ := Option.dite_none_right_eq_some.mp h
    cases h
    exact le_rfl

/-- A natural number is rounded to one: with a fraction it would be too small to be rounded. -/
theorem exists_value_of_round? {n : Nat} {m : Magnitude} (h : round? n 1 = some m) :
    ∃ k : Nat, m.value = k := by
  by_cases hsmall : n < 2 ^ 53
  · obtain ⟨m', hm', hvalue⟩ := (holds_of_le hsmall.le).round?
    cases h.symm.trans hm'
    exact ⟨n, hvalue⟩
  · have hn : n ≠ 0 := by omega
    have hlog : 53 ≤ n.log2 := (Nat.le_log2 hn).mpr (Nat.not_lt.mp hsmall)
    have hexponent : 0 ≤ exponentOf n 1 := by
      rw [exponentOf, floorLog2_one hn]
      omega
    rw [round?_eq_pack? hn] at h
    obtain ⟨e, he⟩ := Int.eq_ofNat_of_zero_le (hexponent.trans (le_exponent_of_pack? h))
    exact ⟨m.mantissa * 2 ^ e, by rw [value_eq, he, zpow_natCast]; push_cast; rfl⟩

end Magnitude

namespace Binary64

theorem toInt?_finite_iff {negative : Bool} {m : Magnitude} {k : Int} :
    (finite negative m).toInt? = some k ↔ (if negative then -m.value else m.value) = k := by
  simp only [toInt?, toRat?, Option.bind_eq_bind, Option.bind_some, Option.ite_none_right_eq_some,
    Option.some.injEq]
  constructor
  · rintro ⟨hden, hnum⟩
    rw [← hnum, Rat.coe_int_num_of_den_eq_one hden]
  · intro h
    rw [h]
    exact ⟨Rat.den_intCast k, Rat.num_intCast k⟩

def signed (negative : Bool) (n : Nat) : Int := if negative then -n else n

theorem toInt?_of_value {negative : Bool} {m : Magnitude} {n : Nat} (h : m.value = n) :
    (finite negative m).toInt? = some (signed negative n) := by
  rw [toInt?_finite_iff, h, signed]
  split <;> simp

/-- What a natural number is rounded to is one, with either sign, and is the number itself where
floats hold it. -/
theorem toInt?_ofQuotient {n : Nat} (h : n < Magnitude.bound) :
    ∃ k, (∀ negative, (ofQuotient negative n 1).toInt? = some (signed negative k)) ∧
      (k = n ↔ Magnitude.Holds n) := by
  cases hround : Magnitude.round? n 1 with
  | none =>
    rw [Magnitude.round?_eq_none_iff Nat.one_pos] at hround
    omega
  | some m =>
    obtain ⟨k, hk⟩ := Magnitude.exists_value_of_round? hround
    refine ⟨k, fun negative => ?_, ?_, fun hholds => ?_⟩
    · rw [ofQuotient, hround]
      exact toInt?_of_value hk
    · rintro rfl
      exact Magnitude.holds_of_value hk
    · obtain ⟨m', hm', hvalue⟩ := hholds.round?
      cases hround.symm.trans hm'
      exact_mod_cast hk.symm.trans hvalue

theorem signed_inj (negative : Bool) {m n : Nat} :
    signed negative m = signed negative n ↔ m = n := by
  unfold signed
  split <;> omega

theorem signed_natAbs (n : Int) : signed (decide (n < 0)) n.natAbs = n := by
  unfold signed
  split
  · next h =>
    have := of_decide_eq_true h
    omega
  · next h =>
    have := mt decide_eq_true h
    omega

theorem sign_mul {n k : Int} (hn : n ≠ 0) (hk : k ≠ 0) :
    (decide (n * k < 0) != decide (k < 0)) = decide (n < 0) := by
  rcases lt_or_gt_of_ne hk with hneg | hpos
  · have hiff : n * k < 0 ↔ 0 < n := mul_neg_iff.trans (by omega)
    simp only [hiff, hneg, decide_true, Bool.bne_true]
    rcases lt_or_gt_of_ne hn with h | h <;> simp [h, h.le]
  · have hiff : n * k < 0 ↔ n < 0 := mul_neg_iff.trans (by omega)
    have hnot : ¬ k < 0 := not_lt.mpr hpos.le
    simp [hiff, hnot]

theorem toInt?_ofQuotient_mul {n k : Int} (hk : k ≠ 0) (h : n.natAbs < Magnitude.bound) :
    ∃ m, (ofInt n).toInt? = some m ∧
      (ofQuotient (decide (n * k < 0) != decide (k < 0)) (n * k).natAbs k.natAbs).toInt? = some m ∧
      (m = n ↔ Magnitude.Holds n.natAbs) := by
  have hquotient (negative : Bool) :
      ofQuotient negative (n * k).natAbs k.natAbs = ofQuotient negative n.natAbs 1 := by
    rw [ofQuotient, ofQuotient, Magnitude.round?_congr (Int.natAbs_pos.mpr hk) Nat.one_pos]
    rw [Int.natAbs_mul, Nat.mul_one]
  obtain ⟨m, hm, hholds⟩ := toInt?_ofQuotient h
  rw [hquotient, hm, ofInt, hm]
  by_cases hn : n = 0
  · subst hn
    obtain rfl : m = 0 := hholds.mpr (Magnitude.holds_of_le (Nat.zero_le _))
    exact ⟨0, by simp [signed], by simp [signed], by simpa using hholds⟩
  · rw [sign_mul hn hk]
    refine ⟨_, rfl, rfl, ?_⟩
    rw [← hholds, ← signed_inj (decide (n < 0)), signed_natAbs]

end Binary64

end EventChain
