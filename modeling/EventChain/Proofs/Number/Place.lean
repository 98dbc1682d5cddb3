import EventChain.Proofs.Condition.Operand
import EventChain.Proofs.Number.Nearest
import EventChain.Proofs.Time.Instant
import EventChain.Value.Coercion

/-!
# The order of numbers

Places on the line are ordered totally (`Place.lt_eq_not_le`), and a number that a value counts as
has one (`Value.exists_place_of_toNumber`), as it is finite (`Value.finite?_of_toNumber`).
-/

namespace EventChain

theorem Place.lt_eq_not_le (a b : Place) : b.lt a = !a.le b := by
  cases a with
  | finite p =>
    cases b with
    | finite q =>
      have hle : (decide (Place.finite p = .finite q) || decide (p < q)) = decide (p ≤ q) := by
        rw [Bool.eq_iff_iff]
        simp [le_iff_eq_or_lt]
      rw [le, lt, lt, hle, ← decide_not, decide_eq_decide]
      exact Rat.not_le.symm
    | _ => rfl
  | _ => cases b <;> rfl

theorem Number.less_eq_decide {a b : Number} {p q : ℚ} (ha : a.place? = some (.finite p))
    (hb : b.place? = some (.finite q)) : a.less b = decide (p < q) := by
  simp only [less, compareWith, ha, hb, Place.lt]

theorem Number.atMost_eq_decide {a b : Number} {p q : ℚ} (ha : a.place? = some (.finite p))
    (hb : b.place? = some (.finite q)) : a.atMost b = decide (p ≤ q) := by
  have hnot := Place.lt_eq_not_le (.finite p) (.finite q)
  simp only [atMost, compareWith, ha, hb]
  rw [← Bool.not_not (Place.le _ _), ← hnot, Place.lt, ← decide_not, decide_eq_decide]
  exact Rat.not_lt

theorem Number.less_eq_not_atMost {a b : Number} (ha : ∃ p, a.place? = some p)
    (hb : ∃ p, b.place? = some p) : b.less a = !a.atMost b := by
  obtain ⟨p, hp⟩ := ha
  obtain ⟨q, hq⟩ := hb
  simp only [less, atMost, compareWith, hp, hq]
  exact Place.lt_eq_not_le p q

theorem Number.exists_place_of_finite {n : Number} (h : n.finite? = some n) :
    ∃ p, n.place? = some p := by
  obtain ⟨-, q, hq⟩ := finite?_eq_some_iff.mp h
  exact ⟨_, hq⟩

/-! ## Coercions -/

/-- The milliseconds of a timestamp are not too large for a float, as the calendar ends. -/
theorem Timestamp.exists_toRat?_milliseconds (t : Timestamp) :
    ∃ a, t.milliseconds.toRat? = some a := by
  have hinstant := t.natAbs_instant_lt
  have hbound := (Magnitude.holds_of_le (Nat.le_refl (2 ^ 53))).lt_bound
  have hmicros : 0 < 1000000 := by decide
  have hfinite : t.seconds.isFinite = true := by
    unfold seconds
    rw [Binary64.isFinite_ofQuotient_iff _ hmicros]
    calc t.instant.natAbs < 320000000000000000 := hinstant
      _ ≤ 2 ^ 53 * 1000000 := by decide
      _ ≤ Magnitude.bound * 1000000 := Nat.mul_le_mul_right _ hbound.le
  obtain ⟨a, ha⟩ := Binary64.exists_isNearest_ofQuotient hmicros hfinite
  have hthousand : (Binary64.ofInt 1000).toRat? = some ((1000 : Int) : ℚ) :=
    Binary64.toRat?_ofInt (Magnitude.holds_of_le (by decide))
  have hsmall : |a * ((1000 : Int) : ℚ)| < Magnitude.bound := by
    have habs : |(t.instant : ℚ)| < 320000000000000000 := by
      have hcast : (t.instant.natAbs : ℚ) < (320000000000000000 : Nat) := by
        exact_mod_cast hinstant
      rw [Nat.cast_natAbs, Int.cast_abs] at hcast
      exact_mod_cast hcast
    have hle := ha.abs_le
    rw [Binary64.signed_natAbs, abs_div, Nat.abs_cast] at hle
    rw [abs_mul]
    have hlt : |a| * |((1000 : Int) : ℚ)| < (2 ^ 53 : Nat) := by
      norm_num at hle ⊢
      linarith
    exact hlt.trans (by exact_mod_cast hbound)
  obtain ⟨c, hc⟩ := Binary64.exists_isNearest_mul ha.denotes hthousand hsmall
  exact ⟨c, hc.denotes⟩

theorem Value.finite?_of_toNumber {v : Value} {n : Number} (h : v.toNumber = .ok (some n)) :
    n.finite? = some n := by
  cases v with
  | boolean b =>
    cases h
    rfl
  | number m => exact Number.finite?_eq_some (Except.ok.inj h)
  | text s => exact Number.finite?_of_ofText? (Except.ok.inj h)
  | array items =>
    obtain ⟨shown, -, h⟩ := bind_eq_ok.mp h
    exact Number.finite?_of_ofText? (Except.ok.inj h)
  | timestamp t =>
    cases h
    obtain ⟨a, ha⟩ := t.exists_toRat?_milliseconds
    exact Number.finite?_eq_some_iff.mpr ⟨rfl, a, Binary64.place?_of_toRat? ha⟩
  | null | object entries | bytes octets | foreign s => cases h

theorem Value.exists_place_of_toNumber {v : Value} {n : Number} (h : v.toNumber = .ok (some n)) :
    ∃ p, n.place? = some p :=
  Number.exists_place_of_finite (finite?_of_toNumber h)

end EventChain
