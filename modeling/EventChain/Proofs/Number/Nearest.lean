import EventChain.Proofs.Number.Whole
import EventChain.Proofs.Number.Writable

/-!
# The nearest float

Rounding gives a float that no other one is nearer than (`Binary64.ofQuotient_nearest`). So a
quotient that a float denotes is not changed (`Binary64.ofQuotient_exact`), and one that is not too
small stays apart from zero.
-/

namespace EventChain

/-- A quotient is rounded to the nearer one of its neighbours. -/
theorem roundQuotient_distance (num : Nat) {den : Nat} (hd : 0 < den) :
    |(roundQuotient num den * den : Int) - num| ≤ (num % den : Nat) ∧
      |(roundQuotient num den * den : Int) - num| ≤ (den - num % den : Nat) := by
  have hnum : ((num / den : Nat) * den : Int) + (num % den : Nat) = num := by
    exact_mod_cast Nat.div_add_mod' num den
  have hmod := Nat.mod_lt num hd
  have hnext : ((num / den + 1 : Nat) * den : Int) = (num / den : Nat) * den + den := by
    push_cast
    ring
  simp only [abs_le]
  unfold roundQuotient
  dsimp only
  generalize num % den = r at *
  generalize num / den = q at *
  split_ifs <;> omega

theorem roundQuotient_nearest (num : Nat) {den : Nat} (hd : 0 < den) (k : Int) :
    |(roundQuotient num den : ℚ) - num / den| ≤ |(k : ℚ) - num / den| := by
  have hd' : (0 : ℚ) < den := by exact_mod_cast hd
  -- Multiplied by the denominator, both distances are whole.
  have hscale (x : ℚ) : |x - num / den| = |x * den - num| / den := by
    rw [← abs_of_pos hd', ← abs_div, abs_of_pos hd', sub_div, mul_div_cancel_right₀ x hd'.ne']
  have hwhole : |(roundQuotient num den * den : Int) - num| ≤ |k * den - num| := by
    have hnum : ((num / den : Nat) * den : Int) + (num % den : Nat) = num := by
      exact_mod_cast Nat.div_add_mod' num den
    have hmod := Nat.mod_lt num hd
    obtain ⟨hbelow, habove⟩ := roundQuotient_distance num hd
    rcases lt_or_ge ((num / den : Nat) : Int) k with hlt | hge
    · have hle : ((num / den : Nat) + 1 : Int) * den ≤ k * den :=
        Int.mul_le_mul_of_nonneg_right hlt (Int.natCast_nonneg den)
      refine habove.trans (le_trans ?_ (le_abs_self _))
      rw [add_mul] at hle
      omega
    · have hle : k * den ≤ (num / den : Nat) * (den : Int) :=
        Int.mul_le_mul_of_nonneg_right hge (Int.natCast_nonneg den)
      refine hbelow.trans (le_trans ?_ (neg_le_abs _))
      omega
  rw [hscale, hscale]
  exact div_le_div_of_nonneg_right (by exact_mod_cast hwhole) hd'.le

namespace Magnitude

variable {num den : Nat}

theorem value_of_pack? {mantissa : Nat} {exponent : Int} {m : Magnitude}
    (h : pack? mantissa exponent = some m) : m.value = mantissa * 2 ^ exponent := by
  rw [value_eq]
  unfold pack? at h
  by_cases hcarry : mantissa = 0x20000000000000
  · rw [if_pos hcarry] at h
    obtain ⟨hfits, h⟩ := Option.dite_none_right_eq_some.mp h
    cases h
    rw [hcarry, zpow_add_one₀ (by norm_num)]
    norm_num
    ring
  · rw [if_neg hcarry] at h
    obtain ⟨hfits, h⟩ := Option.dite_none_right_eq_some.mp h
    cases h
    rfl

/-- A magnitude lies below the power of two next to its mantissa. -/
theorem value_lt_two_zpow (m : Magnitude) : m.value < 2 ^ (m.exponent + 53) := by
  rw [value_eq, add_comm, zpow_add₀ (by norm_num)]
  have hlt : (m.mantissa : ℚ) < 2 ^ (53 : Int) := by exact_mod_cast m.mantissa_lt_two_pow
  gcongr

/-- No multiple of the power of two that a quotient is rounded to is nearer to it. -/
theorem round?_nearest_multiple {m : Magnitude} (h : round? num den = some m) (hn : num ≠ 0)
    (hd : 0 < den) (k : Int) :
    |m.value - num / den| ≤ |k * (2 : ℚ) ^ exponentOf num den - num / den| := by
  rw [round?_eq_pack? hn] at h
  obtain ⟨n, d, hpos, hmantissa, hquotient⟩ := mantissaAt_eq num hd (exponentOf num den)
  have hunit : (0 : ℚ) < 2 ^ exponentOf num den := by positivity
  have hscale (x : ℚ) : |x * 2 ^ exponentOf num den - num / den| =
      |x - n / d| * 2 ^ exponentOf num den := by
    rw [hquotient, ← abs_of_pos hunit, ← abs_mul, abs_of_pos hunit, sub_mul,
      div_mul_cancel₀ _ hunit.ne']
  rw [value_of_pack? h, hmantissa, hscale, hscale]
  have := roundQuotient_nearest n hpos k
  gcongr

theorem round?_nearest {m : Magnitude} (h : round? num den = some m) (hd : 0 < den)
    (y : Magnitude) : |m.value - num / den| ≤ |y.value - num / den| := by
  by_cases hn : num = 0
  · subst hn
    cases h
    simp [value_of_mantissa, zero]
  rcases le_or_gt (exponentOf num den) y.exponent with hle | hlt
  · obtain ⟨s, hs⟩ := Int.eq_ofNat_of_zero_le (Int.sub_nonneg_of_le hle)
    have hvalue : y.value = ((y.mantissa * 2 ^ s : Nat) : Int) * (2 : ℚ) ^ exponentOf num den := by
      rw [value_eq, ← Int.sub_add_cancel y.exponent (exponentOf num den), hs,
        zpow_add₀ (by norm_num), zpow_natCast]
      push_cast
      ring
    rw [hvalue]
    exact round?_nearest_multiple h hn hd _
  · -- All magnitudes of a lesser exponent lie below the least mantissa of the exponent at hand.
    have hq : (0 : ℚ) < num / den := by
      have hn' : (0 : ℚ) < num := by exact_mod_cast Nat.pos_of_ne_zero hn
      have hd' : (0 : ℚ) < den := by exact_mod_cast hd
      positivity
    have hexponent : exponentOf num den = floorLog2 num den - 52 := by
      have := y.le_exponent
      unfold exponentOf at hlt ⊢
      omega
    have hbelow : (2 : ℚ) ^ (exponentOf num den + 52) ≤ num / den := by
      rw [hexponent, Int.sub_add_cancel, floorLog2_eq_log hn hd.ne']
      exact_mod_cast Int.zpow_log_le_self (b := 2) (by norm_num) hq
    have hy : y.value ≤ 2 ^ (exponentOf num den + 52) :=
      y.value_lt_two_zpow.le.trans (zpow_le_zpow_right₀ (by norm_num) (by omega))
    have hleast := round?_nearest_multiple h hn hd (2 ^ 52)
    have hpower : ((2 ^ 52 : Int) : ℚ) * 2 ^ exponentOf num den =
        2 ^ (exponentOf num den + 52) := by
      rw [add_comm, zpow_add₀ (by norm_num)]
      norm_num
    rw [hpower, abs_of_nonpos (sub_nonpos.mpr hbelow)] at hleast
    rw [abs_of_nonpos (sub_nonpos.mpr (hy.trans hbelow))]
    linarith

end Magnitude

namespace Binary64

variable {n : Int} {den : Nat} {a b : ℚ} {x : Binary64}

theorem exists_magnitude_of_toRat? (h : x.toRat? = some a) :
    ∃ m : Magnitude, a = m.value ∨ a = -m.value := by
  cases x with
  | finite negative m =>
    refine ⟨m, ?_⟩
    cases negative with
    | false => exact .inl (Option.some.inj h).symm
    | true => exact .inr (Option.some.inj h).symm
  | infinite negative => cases h
  | nan => cases h

theorem exists_toRat? (h : x.isFinite = true) : ∃ a, x.toRat? = some a := by
  cases x with
  | finite negative m => exact ⟨_, rfl⟩
  | infinite negative => cases h
  | nan => cases h

theorem toRat?_ofQuotient (h : (ofQuotient (decide (n < 0)) n.natAbs den).toRat? = some a) :
    ∃ m, Magnitude.round? n.natAbs den = some m ∧ a = if n < 0 then -m.value else m.value := by
  unfold ofQuotient at h
  split at h
  · next m hm =>
    refine ⟨m, hm, ?_⟩
    simpa [toRat?] using h.symm
  · cases h

theorem div_eq_signed (n : Int) (den : Nat) :
    (n : ℚ) / den = if n < 0 then -((n.natAbs : ℚ) / den) else (n.natAbs : ℚ) / den := by
  rw [Nat.cast_natAbs, Int.cast_abs]
  split
  · next h =>
    have hneg : (n : ℚ) < 0 := by exact_mod_cast h
    rw [abs_of_neg hneg]
    ring
  · next h =>
    have hnonneg : (0 : ℚ) ≤ n := by exact_mod_cast not_lt.mp h
    rw [abs_of_nonneg hnonneg]

theorem ofQuotient_nearest (hd : 0 < den)
    (ha : (ofQuotient (decide (n < 0)) n.natAbs den).toRat? = some a) (hb : x.toRat? = some b) :
    |a - n / den| ≤ |b - n / den| := by
  obtain ⟨m, hm, rfl⟩ := toRat?_ofQuotient ha
  obtain ⟨y, hy⟩ := exists_magnitude_of_toRat? hb
  rw [div_eq_signed]
  have hp : (0 : ℚ) ≤ n.natAbs / den := by positivity
  have hsame := Magnitude.round?_nearest hm hd y
  have hzero := Magnitude.round?_nearest hm hd .zero
  generalize (n.natAbs : ℚ) / den = p at *
  -- A float on the other side of zero is farther away than zero.
  have hother : |m.value - p| ≤ |-y.value - p| := by
    have hvalue : Magnitude.zero.value = 0 := Magnitude.value_of_mantissa rfl
    rw [hvalue, zero_sub, abs_neg, abs_of_nonneg hp] at hzero
    rw [neg_sub_left, abs_neg, abs_of_nonneg (add_nonneg hp y.value_nonneg)]
    linarith [y.value_nonneg]
  have hflip (v : ℚ) : |-v - -p| = |v - p| := by rw [neg_sub_neg, abs_sub_comm]
  split
  · rw [hflip]
    rcases hy with rfl | rfl
    · have hback := hflip (-y.value)
      rw [neg_neg] at hback
      rw [hback]
      exact hother
    · rw [hflip]
      exact hsame
  · rcases hy with rfl | rfl
    · exact hsame
    · exact hother

theorem toRat?_ofInt {n : Int} (h : Magnitude.Holds n.natAbs) :
    (ofInt n).toRat? = some (n : ℚ) := by
  obtain ⟨m, hm, hvalue⟩ := h.round?
  have hdiv := div_eq_signed n 1
  rw [Nat.cast_one, div_one, div_one] at hdiv
  rw [ofInt, ofQuotient, hm, hdiv, ← hvalue]
  by_cases hn : n < 0 <;> simp [toRat?, hn]

theorem place?_of_toRat? {x : Binary64} {a : ℚ} (h : x.toRat? = some a) :
    (Number.float x).place? = some (.finite a) := by
  cases x with
  | finite negative m => exact congrArg (Option.map Place.finite) h
  | infinite negative => cases h
  | nan => cases h

/-! ## Nearest floats -/

/-- A float denotes a number, and none denotes a number nearer to a given one. -/
structure IsNearest (x : Binary64) (q a : ℚ) : Prop where
  denotes : x.toRat? = some a
  nearest : ∀ (y : Binary64) (b : ℚ), y.toRat? = some b → |a - q| ≤ |b - q|

theorem IsNearest.le {q : ℚ} {y : Binary64} (h : x.IsNearest q a) (hb : y.toRat? = some b)
    (hle : q ≤ b) : a ≤ b := by
  have hnearest := h.nearest y b hb
  rw [abs_of_nonneg (sub_nonneg.mpr hle)] at hnearest
  linarith [le_abs_self (a - q)]

/-- Rounding takes a number no farther from zero than twice its distance. -/
theorem IsNearest.abs_le {q : ℚ} (h : x.IsNearest q a) : |a| ≤ 2 * |q| := by
  have hvalue : Magnitude.zero.value = 0 := Magnitude.value_of_mantissa rfl
  have hzero : zero.toRat? = some 0 := by simp [zero, toRat?, hvalue]
  have hnearest := h.nearest zero 0 hzero
  rw [zero_sub, abs_neg] at hnearest
  linarith [abs_sub_abs_le_abs_sub a q]

/-- What lies beyond the middle between a number and a float above it is not rounded down to the
number. -/
theorem IsNearest.lt {q c : ℚ} {y : Binary64} (h : x.IsNearest q a) (hc : y.toRat? = some c)
    (hbc : b < c) (hmiddle : b + c < 2 * q) : b < a := by
  have hnearest := h.nearest y c hc
  have hnear : |c - q| < q - b := abs_lt.mpr ⟨by linarith, by linarith⟩
  linarith [neg_le_abs (a - q)]

theorem toRat?_ofQuotient_signed (negative : Bool) (num den : Nat) :
    (ofQuotient negative num den).toRat? =
      (ofQuotient (decide (signed negative num < 0)) (signed negative num).natAbs den).toRat? := by
  by_cases hnum : num = 0
  · have hround : Magnitude.round? 0 den = some .zero := if_pos rfl
    have hvalue : Magnitude.zero.value = 0 := Magnitude.value_of_mantissa rfl
    subst hnum
    cases negative <;> simp [signed, ofQuotient, hround, toRat?, hvalue]
  have hsign : decide (signed negative num < 0) = negative := by
    cases negative with
    | false => simp [signed]
    | true =>
      simp only [signed, if_true, decide_eq_true_eq]
      omega
  have habs : (signed negative num).natAbs = num := by
    cases negative <;> simp [signed]
  rw [hsign, habs]

theorem exists_isNearest_ofQuotient {negative : Bool} {num : Nat} (hd : 0 < den)
    (h : (ofQuotient negative num den).isFinite = true) :
    ∃ a, (ofQuotient negative num den).IsNearest ((signed negative num : ℚ) / den) a := by
  obtain ⟨a, ha⟩ := exists_toRat? h
  refine ⟨a, ha, fun y b hb => ?_⟩
  rw [toRat?_ofQuotient_signed] at ha
  exact ofQuotient_nearest hd ha hb

/-- A rational below the bound is rounded to the float nearest to it, with either sign. -/
theorem exists_isNearest_of_lt (negative : Bool) {q : ℚ} (hq : 0 ≤ q) (hlt : q < Magnitude.bound) :
    ∃ a, (ofQuotient negative q.num.natAbs q.den).IsNearest (if negative then -q else q) a := by
  have hvalue : (q.num.natAbs : ℚ) / q.den = q := by
    rw [Nat.cast_natAbs, abs_of_nonneg (Rat.num_nonneg.mpr hq), Rat.num_div_den]
  have hden : (0 : ℚ) < q.den := by exact_mod_cast q.den_pos
  have hfinite : (ofQuotient negative q.num.natAbs q.den).isFinite = true := by
    rw [isFinite_ofQuotient_iff negative q.den_pos]
    rw [← hvalue, div_lt_iff₀ hden] at hlt
    exact_mod_cast hlt
  have hsigned : (signed negative q.num.natAbs : ℚ) / q.den = if negative then -q else q := by
    cases negative with
    | false => exact hvalue
    | true =>
      show ((-(q.num.natAbs : Int) : Int) : ℚ) / q.den = -q
      rw [Int.cast_neg, Int.cast_natCast, neg_div, hvalue]
  rw [← hsigned]
  exact exists_isNearest_ofQuotient q.den_pos hfinite

theorem exists_isNearest_mul {x y : Binary64} (hx : x.toRat? = some a) (hy : y.toRat? = some b)
    (h : |a * b| < Magnitude.bound) : ∃ c, (x.mul y).IsNearest (a * b) c := by
  cases x with
  | finite s m =>
    cases y with
    | finite t n =>
      cases hx
      cases hy
      have hnonneg : 0 ≤ m.value * n.value := mul_nonneg m.value_nonneg n.value_nonneg
      have hsigned : (if s then -m.value else m.value) * (if t then -n.value else n.value) =
          if s != t then -(m.value * n.value) else m.value * n.value := by
        cases s <;> cases t <;> simp
      have habs : |if s != t then -(m.value * n.value) else m.value * n.value| =
          m.value * n.value := by
        split
        · rw [abs_neg, abs_of_nonneg hnonneg]
        · exact abs_of_nonneg hnonneg
      rw [hsigned] at h ⊢
      rw [habs] at h
      exact exists_isNearest_of_lt (s != t) hnonneg h
    | infinite t => cases hy
    | nan => cases hy
  | infinite s => cases hx
  | nan => cases hx

end Binary64

end EventChain
