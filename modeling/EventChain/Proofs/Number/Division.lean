import EventChain.Number.Basic
import EventChain.Proofs.Failure

/-!
# Division by zero

`Number.div` reports a division by zero for a zero divisor only (`div_eq_divisionByZero`): an
integer other than zero stays one where it is rounded to a float, as the float has at least its
magnitude's leading bit.
-/

namespace EventChain

theorem le_roundQuotient (num den : Nat) : num / den ≤ roundQuotient num den := by
  unfold roundQuotient
  simp only
  split
  · exact Nat.le_refl _
  split
  · exact Nat.le_succ _
  split
  · exact Nat.le_refl _
  · exact Nat.le_succ _

theorem floorLog2_one {num : Nat} (h : num ≠ 0) : floorLog2 num 1 = num.log2 := by
  have hlog : Nat.log2 1 = 0 := by decide
  have hle : 1 * Nat.pow 2 ((num.log2 : Int) - (0 : Nat)).toNat ≤ num := by
    simpa using Nat.log2_self_le h
  simp only [floorLog2, hlog]
  rw [if_pos]
  · omega
  · rw [if_pos (by omega)]
    exact hle

namespace Magnitude

theorem pack?_ne_zero {mantissa : Nat} {exponent : Int} {m : Magnitude} (h : 0 < mantissa)
    (hm : pack? mantissa exponent = some m) : 0 < m.mantissa := by
  unfold pack? at hm
  by_cases hcarry : mantissa = 0x20000000000000
  · rw [if_pos hcarry] at hm
    obtain ⟨hfits, hm⟩ := Option.dite_none_right_eq_some.mp hm
    cases hm
    exact Nat.succ_pos _
  · rw [if_neg hcarry] at hm
    obtain ⟨hfits, hm⟩ := Option.dite_none_right_eq_some.mp hm
    cases hm
    exact h

theorem round?_ne_zero {num : Nat} {m : Magnitude} (h : num ≠ 0) (hm : round? num 1 = some m) :
    0 < m.mantissa := by
  unfold round? at hm
  rw [if_neg h, floorLog2_one h] at hm
  simp only at hm
  refine pack?_ne_zero ?_ hm
  split
  · next he =>
    refine Nat.lt_of_lt_of_le ?_ (le_roundQuotient _ _)
    have hexp : (max ((num.log2 : Int) - 52) (-1074)).toNat ≤ num.log2 := by omega
    have hle : 2 ^ (max ((num.log2 : Int) - 52) (-1074)).toNat ≤ num :=
      Nat.le_trans (Nat.pow_le_pow_right Nat.two_pos hexp) (Nat.log2_self_le h)
    rw [Nat.one_mul]
    exact Nat.div_pos hle (Nat.pow_pos (by decide))
  · refine Nat.lt_of_lt_of_le ?_ (le_roundQuotient _ _)
    rw [Nat.div_one]
    exact Nat.mul_pos (Nat.pos_of_ne_zero h) (Nat.pow_pos (by decide))

theorem value_of_mantissa {m : Magnitude} (h : m.mantissa = 0) : m.value = 0 := by
  unfold value
  rw [h]
  split <;> simp

end Magnitude

namespace Binary64

theorem div?_eq_none {x y : Binary64} (h : x.div? y = none) :
    ∃ negative m, y = .finite negative m ∧ m.mantissa = 0 := by
  cases y with
  | finite negative m =>
    obtain ⟨mantissa, exponent, hlt, hle, hge, hleading⟩ := m
    cases mantissa with
    | zero => exact ⟨negative, _, rfl, rfl⟩
    | succ k => cases x <;> cases h
  | infinite negative => cases x <;> cases h
  | nan => cases x <;> cases h

theorem ofInt_ne_zero {n : Int} {negative : Bool} {m : Magnitude}
    (h : ofInt n = .finite negative m) (hm : m.mantissa = 0) : n = 0 := by
  refine Decidable.byContradiction fun hn => ?_
  unfold ofInt ofQuotient at h
  split at h
  · next m' hround =>
    cases h
    have hpos := Magnitude.round?_ne_zero (Int.natAbs_ne_zero.mpr hn) hround
    omega
  · cases h

end Binary64

namespace Number

theorem isZero_int_zero : (int 0).isZero = true := by decide

theorem isZero_float {negative : Bool} {m : Magnitude} (h : m.mantissa = 0) :
    (float (.finite negative m)).isZero = true := by
  simp [isZero, equals, compareWith, place?, Binary64.toRat?, Magnitude.value_of_mantissa h]

theorem isZero_of_toFloat {b : Number} {negative : Bool} {m : Magnitude}
    (h : b.toFloat = .ok (.finite negative m)) (hm : m.mantissa = 0) : b.isZero = true := by
  cases b with
  | float y =>
    cases h
    exact isZero_float hm
  | int n =>
    unfold toFloat at h
    simp only at h
    split at h
    · rw [Binary64.ofInt_ne_zero (Except.ok.inj h) hm]
      exact isZero_int_zero
    · cases h

theorem toFloat_ne_divisionByZero {a : Number} : a.toFloat ≠ .error .divisionByZero := by
  intro h
  cases a with
  | float x => cases h
  | int n =>
    unfold toFloat at h
    simp only at h
    split at h <;> cases h

theorem div_eq_divisionByZero {a b : Number} (h : a.div b = .error .divisionByZero) :
    b.isZero = true := by
  unfold div at h
  split at h
  · split at h
    · next hb => exact hb ▸ isZero_int_zero
    · dsimp only at h
      split at h <;> cases h
  · rcases bind_eq_error.mp h with h | ⟨x, -, h⟩
    · exact absurd h toFloat_ne_divisionByZero
    rcases bind_eq_error.mp h with h | ⟨y, hy, h⟩
    · exact absurd h toFloat_ne_divisionByZero
    split at h
    · cases h
    · next hnone =>
      obtain ⟨negative, m, rfl, hm⟩ := Binary64.div?_eq_none hnone
      exact isZero_of_toFloat hy hm

theorem combine_ne_divisionByZero {exact : Int → Int → Int}
    {rounded : Binary64 → Binary64 → Binary64} {a b : Number} :
    combine exact rounded a b ≠ .error .divisionByZero := by
  intro h
  unfold combine at h
  split at h
  · cases h
  · rcases bind_eq_error.mp h with h | ⟨x, -, h⟩
    · exact toFloat_ne_divisionByZero h
    rcases bind_eq_error.mp h with h | ⟨y, -, h⟩
    · exact toFloat_ne_divisionByZero h
    · cases h

end Number

end EventChain
