import EventChain.Proofs.Number.Nearest
import EventChain.Proofs.Number.Place
import EventChain.Proofs.Tally

/-!
# Seconds of milliseconds

A number of milliseconds is divided by a thousand and rounded once. The rounding never takes it over
a whole number of seconds, up or down, so that a bound in seconds may be told from the milliseconds
(`Tally.atMost_of_seconds`): the floats next to a whole number are a thousand times nearer to it
than any number of milliseconds can be to a thousand times that number.
-/

namespace EventChain

theorem Magnitude.exists_next {b j : Nat} (hj : 2 ^ j ≤ b) (hb : b < 2 ^ (j + 1)) (hj' : j ≤ 40) :
    ∃ m : Magnitude, m.value = b + 2 ^ ((j : Int) - 52) := by
  obtain ⟨shift, hshift⟩ : ∃ shift, j + shift = 52 := ⟨52 - j, by omega⟩
  have hexponent : (j : Int) - 52 = -shift := by omega
  have hlow : 2 ^ 52 ≤ b * 2 ^ shift := by
    rw [← hshift, pow_add]
    exact Nat.mul_le_mul_right _ hj
  have hhigh : b * 2 ^ shift + 2 ^ shift ≤ 2 ^ 53 := by
    calc b * 2 ^ shift + 2 ^ shift = (b + 1) * 2 ^ shift := by ring
      _ ≤ 2 ^ (j + 1) * 2 ^ shift := Nat.mul_le_mul_right _ hb
      _ = 2 ^ 53 := by rw [← pow_add]; congr 1; omega
  have hshift' : 2 ^ 1 ≤ 2 ^ shift := Nat.pow_le_pow_right (by decide) (by omega)
  refine ⟨⟨b * 2 ^ shift + 1, -shift, by omega, by omega, by omega, .inl (by omega)⟩, ?_⟩
  rw [value_eq, hexponent, zpow_neg, zpow_natCast]
  push_cast
  field_simp

/-- Magnitudes above a number are multiples of the distance between floats there. -/
theorem Magnitude.add_le_of_lt {m : Magnitude} {k : Nat} {i : Int} (hk : (2 : ℚ) ^ (i + 52) ≤ k)
    (hi : i ≤ 0) (h : (k : ℚ) < m.value) : k + 2 ^ i ≤ m.value := by
  have hexponent : i ≤ m.exponent := by
    have hlt := (hk.trans_lt h).trans m.value_lt_two_zpow
    rw [zpow_lt_zpow_iff_right₀ (by norm_num)] at hlt
    omega
  obtain ⟨s, hs⟩ := Int.eq_ofNat_of_zero_le (Int.sub_nonneg_of_le hexponent)
  obtain ⟨t, ht⟩ := Int.eq_ofNat_of_zero_le (Int.neg_nonneg_of_nonpos hi)
  have hunit : (0 : ℚ) < 2 ^ i := by positivity
  have hvalue : m.value = ((m.mantissa * 2 ^ s : Nat) : ℚ) * 2 ^ i := by
    rw [value_eq, ← Int.sub_add_cancel m.exponent i, hs, zpow_add₀ (by norm_num), zpow_natCast]
    push_cast
    ring
  have hnumber : (k : ℚ) = ((k * 2 ^ t : Nat) : ℚ) * 2 ^ i := by
    rw [show i = -t by omega, zpow_neg, zpow_natCast]
    push_cast
    field_simp
  rw [hvalue, hnumber] at h ⊢
  have hlt : k * 2 ^ t < m.mantissa * 2 ^ s := by exact_mod_cast lt_of_mul_lt_mul_right h hunit.le
  calc ((k * 2 ^ t : Nat) : ℚ) * 2 ^ i + 2 ^ i = ((k * 2 ^ t + 1 : Nat) : ℚ) * 2 ^ i := by
        push_cast
        ring
    _ ≤ ((m.mantissa * 2 ^ s : Nat) : ℚ) * 2 ^ i := by
        gcongr
        exact hlt

namespace Tally

variable {ms : Number} {d : Binary64} {a v : ℚ} {b : Nat}

/-! ## Division by a thousand -/

theorem seconds_int (n : Int) : seconds (.int n) =
    if (Binary64.ofQuotient (decide (n < 0)) n.natAbs 1000).isFinite then
      .ok (.ofQuotient (decide (n < 0)) n.natAbs 1000)
    else .error .quotient := by
  have hpositive : decide ((1000 : Int) < 0) = false := rfl
  rw [seconds, Number.div, if_neg (by decide)]
  dsimp only
  rw [hpositive, Bool.bne_false, show (1000 : Int).natAbs = 1000 from rfl]
  generalize Binary64.ofQuotient (decide (n < 0)) n.natAbs 1000 = x
  cases x.isFinite <;> rfl

def thousand : Magnitude :=
  ⟨1000 * 2 ^ 43, -43, by decide, by decide, by decide, by decide⟩

theorem ofInt_thousand : Binary64.ofInt 1000 = .finite false thousand := by decide

theorem thousand_value : thousand.value = 1000 := by
  rw [Magnitude.value_eq]
  norm_num [thousand]

theorem div?_thousand (negative : Bool) (m : Magnitude) :
    (Binary64.finite negative m).div? (.finite false thousand) =
      some (.ofQuotient negative (m.value / 1000).num.natAbs (m.value / 1000).den) := by
  rw [← thousand_value]
  show some (Binary64.ofQuotient (negative != false) _ _) = _
  rw [Bool.bne_false]
  rfl

theorem seconds_of_div? {x : Binary64} (h : x.div? (.finite false thousand) = some d) :
    seconds (.float x) = .ok d := by
  have hfinite : (Binary64.finite false thousand).isFinite = true := rfl
  have hdiv : (Number.float x).div (.int 1000) = .ok (.float d) := by
    simp only [Number.div, Number.toFloat, ofInt_thousand, hfinite, if_true, pure_bind, h]
    rfl
  rw [seconds, hdiv]
  rfl

theorem seconds_finite (negative : Bool) (m : Magnitude) :
    seconds (.float (.finite negative m)) =
      .ok (.ofQuotient negative (m.value / 1000).num.natAbs (m.value / 1000).den) :=
  seconds_of_div? (div?_thousand negative m)

theorem seconds_infinite (negative : Bool) :
    seconds (.float (.infinite negative)) = .ok (.infinite negative) := by
  have hdiv : (Binary64.infinite negative).div? (.finite false thousand) =
      some (.infinite negative) := by
    show some (Binary64.infinite (negative != false)) = _
    rw [Bool.bne_false]
  rw [seconds_of_div? hdiv]

theorem seconds_nan : seconds (.float .nan) = .ok .nan := seconds_of_div? rfl

theorem value_div_lt_bound (m : Magnitude) : m.value / 1000 < Magnitude.bound := by
  have hbound : 2 ^ Magnitude.width < Magnitude.bound * 1000 := by decide +kernel
  rw [div_lt_iff₀ (by norm_num)]
  exact m.value_lt.trans (by exact_mod_cast hbound)

theorem exists_isNearest_of_seconds (h : seconds ms = .ok d) (hv : ms.place? = some (.finite v)) :
    ∃ a, d.IsNearest (v / 1000) a := by
  cases ms with
  | int n =>
    cases hv
    rw [seconds_int] at h
    split at h
    · next hfinite =>
      cases h
      have hnearest := Binary64.exists_isNearest_ofQuotient (by decide) hfinite
      rw [Binary64.signed_natAbs] at hnearest
      exact_mod_cast hnearest
    · cases h
  | float x =>
    cases x with
    | finite negative m =>
      rw [seconds_finite] at h
      cases h
      obtain ⟨a, ha⟩ := Binary64.exists_isNearest_of_lt negative
        (div_nonneg m.value_nonneg (by norm_num)) (value_div_lt_bound m)
      refine ⟨a, ?_⟩
      cases negative with
      | false =>
        cases hv
        exact ha
      | true =>
        cases hv
        simpa [neg_div] using ha
    | infinite negative => cases negative <;> cases hv
    | nan => cases hv

/-! ## Bounds -/

/-- A number of milliseconds above a thousand times a number of `j + 1` bits lies above it by the
distance of floats there, or more. -/
theorem add_le_of_lt_place {j : Nat} (hj : 2 ^ j ≤ b) (hj' : j ≤ 40)
    (hv : ms.place? = some (.finite v)) (hlt : ((1000 * b : Nat) : ℚ) < v) :
    ((1000 * b : Nat) : ℚ) + 2 ^ ((j : Int) - 43) ≤ v := by
  have hsmall : (j : Int) - 43 ≤ 0 := by omega
  have hone : (2 : ℚ) ^ ((j : Int) - 43) ≤ 1 := zpow_le_one_of_nonpos₀ (by norm_num) hsmall
  cases ms with
  | int n =>
    cases hv
    have hle : ((1000 * b : Nat) : ℚ) + 1 ≤ n := by exact_mod_cast hlt
    linarith
  | float x =>
    cases x with
    | finite negative m =>
      have hbits : (2 : ℚ) ^ ((j : Int) - 43 + 52) ≤ (1000 * b : Nat) := by
        have hnat : 2 ^ (j + 9) ≤ 1000 * b := by
          calc 2 ^ (j + 9) = 512 * 2 ^ j := by rw [pow_add, Nat.mul_comm]; rfl
            _ ≤ 1000 * b := Nat.mul_le_mul (by decide) hj
        rw [show (j : Int) - 43 + 52 = ((j + 9 : Nat) : Int) by push_cast; ring, zpow_natCast]
        exact_mod_cast hnat
      cases negative with
      | false =>
        cases hv
        exact m.add_le_of_lt hbits hsmall hlt
      | true =>
        cases hv
        have hnonneg : (0 : ℚ) ≤ (1000 * b : Nat) := Nat.cast_nonneg _
        simp only [if_true] at hlt
        linarith [m.value_nonneg]
    | infinite negative => cases negative <;> cases hv
    | nan => cases hv

theorem atMost_of_place (h : seconds ms = .ok d) (hv : ms.place? = some (.finite v)) (hb : 0 < b)
    (hb' : b ≤ 2 ^ 40) : (Number.float d).atMost (.int b) = ms.atMost (.int (1000 * b : Nat)) := by
  obtain ⟨a, ha⟩ := exists_isNearest_of_seconds h hv
  rw [Number.atMost_eq_decide (Binary64.place?_of_toRat? ha.denotes) rfl,
    Number.atMost_eq_decide hv rfl, decide_eq_decide, Int.cast_natCast, Int.cast_natCast]
  have hlow : 2 ^ b.log2 ≤ b := Nat.log2_self_le hb.ne'
  have hbits : b.log2 ≤ 40 := (Nat.pow_le_pow_iff_right (by decide)).mp (hlow.trans hb')
  constructor
  · -- What lies above the bound lies beyond the middle between it and the next float.
    intro hle
    by_contra hlt
    have hgap := add_le_of_lt_place hlow hbits hv (not_le.mp hlt)
    obtain ⟨m, hm⟩ := Magnitude.exists_next hlow Nat.lt_log2_self hbits
    have hunit : (0 : ℚ) < 2 ^ ((b.log2 : Int) - 52) := by positivity
    have hstep : (2 : ℚ) ^ ((b.log2 : Int) - 43) = 512 * 2 ^ ((b.log2 : Int) - 52) := by
      rw [show (b.log2 : Int) - 43 = 9 + (b.log2 - 52) by ring, zpow_add₀ (by norm_num)]
      norm_num
    have hnext : (Binary64.finite false m).toRat? = some m.value := rfl
    rw [hstep] at hgap
    push_cast at hgap
    refine absurd hle (not_le.mpr (ha.lt hnext ?_ ?_))
    · rw [hm]
      linarith
    · rw [hm]
      linarith
  · intro hle
    have hholds : Magnitude.Holds (b : Int).natAbs := Magnitude.holds_of_le (by omega)
    refine ha.le (Binary64.toRat?_ofInt hholds) ?_
    push_cast at hle ⊢
    linarith

/-- The seconds are at most a whole number exactly where the milliseconds are at most a thousand
times that number. -/
theorem atMost_of_seconds (h : seconds ms = .ok d) (hb : 0 < b) (hb' : b ≤ 2 ^ 40) :
    (Number.float d).atMost (.int b) = ms.atMost (.int (1000 * b : Nat)) := by
  cases ms with
  | int n => exact atMost_of_place h rfl hb hb'
  | float x =>
    cases x with
    | finite negative m => exact atMost_of_place h rfl hb hb'
    | infinite negative =>
      cases h.symm.trans (seconds_infinite negative)
      cases negative <;> rfl
    | nan =>
      cases h.symm.trans seconds_nan
      rfl

end Tally

end EventChain
