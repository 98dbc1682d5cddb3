import EventChain.Proofs.Number.Size

/-!
# Decimals of magnitudes

The decimal that is written for a magnitude rounds back to it (`ofDecimal_shortest`): a decimal on a
grid is tried before it is taken, and the expansion in full has the value of the magnitude.
-/

namespace EventChain

namespace Binary64

open Magnitude (round?)

variable {d : Decimal} {m : Magnitude}

/-- Only the sign of what a decimal rounds to depends on the sign. -/
theorem ofDecimal_eq_of_positive (h : ofDecimal false d = .finite false m) (negative : Bool) :
    ofDecimal negative d = .finite negative m := by
  rw [ofDecimal_eq_ofQuotient] at h ⊢
  unfold ofQuotient at h ⊢
  cases hround : round? d.quotient.1 d.quotient.2 with
  | some m' =>
    rw [hround] at h
    cases h
    rfl
  | none =>
    rw [hround] at h
    cases h

/-! ## The expansion -/

theorem expansion_value : (expansion m).value = m.mantissa * 2 ^ m.exponent := by
  unfold expansion Decimal.value
  split
  · next h =>
    obtain ⟨e, he⟩ := Int.eq_ofNat_of_zero_le h
    simp [he]
  · next h =>
    obtain ⟨e, he⟩ := Int.eq_ofNat_of_zero_le (a := -m.exponent) (by omega)
    have hneg : m.exponent = -e := by omega
    have hten : (10 : ℚ) ^ e = 5 ^ e * 2 ^ e := by rw [← mul_pow]; norm_num
    simp only [hneg, neg_neg, Int.toNat_natCast, zpow_neg, zpow_natCast, Nat.pow_eq]
    push_cast
    rw [hten]
    field_simp

theorem ofDecimal_expansion (hm : m.mantissa ≠ 0) :
    ofDecimal false (expansion m) = .finite false m := by
  have hvalue := (expansion m).quotient_value.trans expansion_value
  rw [ofDecimal_eq_ofQuotient, ofQuotient,
    Magnitude.round?_self hm (expansion m).quotient_pos hvalue]

/-! ## The shortest decimal -/

theorem ofDecimal_of_onGrid? {num den : Nat} {step : Int}
    (h : onGrid? m num den step = some d) : ofDecimal false d = .finite false m := by
  unfold onGrid? at h
  generalize (if 0 ≤ step then (num, den * Nat.pow 10 step.toNat)
    else (num * Nat.pow 10 (-step).toNat, den)) = grid at h
  obtain ⟨n, e⟩ := grid
  dsimp only at h
  split at h
  · next hboth =>
    rw [Bool.and_eq_true, decide_eq_true_eq, decide_eq_true_eq] at hboth
    cases h
    split
    · exact hboth.1
    · exact hboth.2
  split at h
  · next hlower =>
    cases h
    exact of_decide_eq_true hlower
  split at h
  · next hupper =>
    cases h
    exact of_decide_eq_true hupper
  · cases h

theorem ofDecimal_shortest (hm : m.mantissa ≠ 0) :
    ofDecimal false (shortest m) = .finite false m := by
  unfold shortest
  dsimp only
  cases hfound : (List.range 18).findSome? fun (k : Nat) => onGrid? m m.value.num.natAbs m.value.den
      (floorLog10 m.value.num.natAbs m.value.den + 1 - k) with
  | none => exact ofDecimal_expansion hm
  | some d =>
    obtain ⟨k, -, hk⟩ := List.exists_of_findSome?_eq_some hfound
    exact ofDecimal_of_onGrid? hk

end Binary64

end EventChain
