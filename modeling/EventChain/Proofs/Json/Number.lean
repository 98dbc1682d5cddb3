import EventChain.Json.Writer
import EventChain.Proofs.Json.Numeral
import EventChain.Proofs.Number.Shortest

/-!
# Numbers of JSON text

A number is read as it was written (`value_writeNumber`). An integer is read by its digits. A float
is read as the decimal that was written for it, which rounds back to it; only where the decimal was
written with a zero after the point it is read as another one of the same value.
-/

namespace EventChain.Json

variable {limit : Option Nat} {negative : Bool} {rest : List Char}

/-! ## Decimals -/

theorem isDigit_replicate_zero (n : Nat) : ∀ c ∈ List.replicate n '0', c.isDigit := by
  intro c hc
  rw [List.eq_of_mem_replicate hc]
  rfl

section
variable {d : Decimal}

def digitsOf (d : Decimal) : List Char := Nat.toDigits 10 d.coefficient

theorem isDigit_digitsOf : ∀ c ∈ digitsOf d, c.isDigit := isDigit_toDigits _

theorem ofDigitChars_digitsOf : Nat.ofDigitChars 10 (digitsOf d) 0 = d.coefficient :=
  Nat.ofDigitChars_ten_toDigits

theorem length_digitsOf_pos : 0 < (digitsOf d).length := Nat.length_toDigits_pos

theorem digitsOf_ne_nil : digitsOf d ≠ [] := Nat.toDigits_ne_nil

theorem head?_digitsOf_ne (h : d.coefficient ≠ 0) : (digitsOf d).head? ≠ some '0' :=
  head?_toDigits_ne h

/-- Below one, the digits stand behind the point and zeros. -/
theorem numberFrom_below_one (hd : (digitsOf d).length + d.exponent ≤ 0) (h : Ends rest) :
    numberFrom limit negative ('0' :: '.' :: (List.replicate
        (-((digitsOf d).length + d.exponent)).toNat '0' ++ digitsOf d ++ rest)) =
      .ok (.number (.float (.ofDecimal negative d)), rest) := by
  have hwhole : Whole ['0'] := whole_toDigits 0
  generalize hzeros : (-((digitsOf d).length + d.exponent)).toNat = zeros
  have hdigits : ∀ c ∈ List.replicate zeros '0' ++ digitsOf d, c.isDigit :=
    List.forall_mem_append.mpr ⟨isDigit_replicate_zero zeros, isDigit_digitsOf⟩
  have hne : List.replicate zeros '0' ++ digitsOf d ≠ [] :=
    List.append_ne_nil_of_right_ne_nil _ digitsOf_ne_nil
  refine (numberFrom_fraction hwhole hdigits hne h).trans ?_
  have hvalue : Nat.ofDigitChars 10 (['0'] ++ (List.replicate zeros '0' ++ digitsOf d)) 0 =
      d.coefficient := by
    rw [Nat.ofDigitChars_append, Nat.ofDigitChars_append, Nat.ofDigitChars_replicate_zero]
    exact ofDigitChars_digitsOf
  have hexponent : -((List.replicate zeros '0' ++ digitsOf d).length : Int) = d.exponent := by
    rw [List.length_append, List.length_replicate]
    omega
  rw [hvalue, hexponent]

theorem ofDecimal_point_zero (he : 0 ≤ d.exponent) :
    Binary64.ofDecimal negative ⟨d.coefficient * 10 ^ (d.exponent.toNat + 1), -1⟩ =
      .ofDecimal negative d := by
  refine Binary64.ofDecimal_congr ?_ negative
  obtain ⟨e, he⟩ := Int.eq_ofNat_of_zero_le he
  rw [Decimal.value, Decimal.value, he, Int.toNat_natCast]
  push_cast
  rw [zpow_natCast, pow_succ, zpow_neg_one]
  ring

/-- Without a fraction, the digits stand before zeros and the point, which a zero follows. -/
theorem numberFrom_integral (hne : d.coefficient ≠ 0) (he : 0 ≤ d.exponent) (h : Ends rest) :
    numberFrom limit negative
        (digitsOf d ++ List.replicate d.exponent.toNat '0' ++ '.' :: '0' :: rest) =
      .ok (.number (.float (.ofDecimal negative d)), rest) := by
  have hwhole : Whole (digitsOf d ++ List.replicate d.exponent.toNat '0') := by
    refine ⟨List.forall_mem_append.mpr ⟨isDigit_digitsOf, isDigit_replicate_zero _⟩,
      List.append_ne_nil_of_left_ne_nil digitsOf_ne_nil _, fun hzero => ?_⟩
    rw [List.head?_append_of_ne_nil _ digitsOf_ne_nil] at hzero
    exact absurd hzero (head?_digitsOf_ne hne)
  have hread : numberFrom limit negative
      (digitsOf d ++ List.replicate d.exponent.toNat '0' ++ '.' :: (['0'] ++ rest)) = _ :=
    numberFrom_fraction hwhole (isDigit_replicate_zero 1) (List.cons_ne_nil _ _) h
  have hvalue : Nat.ofDigitChars 10
      (digitsOf d ++ List.replicate d.exponent.toNat '0' ++ ['0']) 0 =
        d.coefficient * 10 ^ (d.exponent.toNat + 1) := by
    rw [List.append_assoc, ← List.replicate_succ', Nat.ofDigitChars_append, ofDigitChars_digitsOf,
      Nat.ofDigitChars_replicate_zero, Nat.mul_comm]
  rw [hvalue] at hread
  exact hread.trans (congrArg (fun x => Except.ok (Value.number (.float x), rest))
    (ofDecimal_point_zero he))

/-- With a fraction, the point stands among the digits. -/
theorem numberFrom_mixed (hne : d.coefficient ≠ 0) (he : d.exponent < 0)
    (hd : 0 < (digitsOf d).length + d.exponent) (h : Ends rest) :
    numberFrom limit negative
        ((digitsOf d).take ((digitsOf d).length + d.exponent).toNat ++
          ('.' :: (digitsOf d).drop ((digitsOf d).length + d.exponent).toNat ++ rest)) =
      .ok (.number (.float (.ofDecimal negative d)), rest) := by
  generalize hpoint : ((digitsOf d).length + d.exponent).toNat = point
  have hwhole : Whole ((digitsOf d).take point) := by
    refine ⟨fun c hc => isDigit_digitsOf c (List.mem_of_mem_take hc), ?_, fun hzero => ?_⟩
    · rw [Ne, List.take_eq_nil_iff, not_or]
      exact ⟨by omega, digitsOf_ne_nil⟩
    · rw [List.head?_take, if_neg (by omega)] at hzero
      exact absurd hzero (head?_digitsOf_ne hne)
  have hdigits : ∀ c ∈ (digitsOf d).drop point, c.isDigit :=
    fun c hc => isDigit_digitsOf c (List.mem_of_mem_drop hc)
  have hfraction : (digitsOf d).drop point ≠ [] := by
    rw [Ne, List.drop_eq_nil_iff]
    omega
  refine (numberFrom_fraction hwhole hdigits hfraction h).trans ?_
  have hexponent : -(((digitsOf d).drop point).length : Int) = d.exponent := by
    rw [List.length_drop]
    omega
  rw [List.take_append_drop, ofDigitChars_digitsOf, hexponent]

/-- With an exponent, the point stands after the first digit. -/
theorem numberFrom_scientific {digits : List Char} (hne : d.coefficient ≠ 0)
    (hdigits : ∀ c ∈ digits, c.isDigit) (hfull : digits ≠ [])
    (hvalue : Nat.ofDigitChars 10 digits 0 = ((digitsOf d).length + d.exponent - 1).natAbs)
    (h : Ends rest) :
    numberFrom limit negative ((digitsOf d).take 1 ++ (fractionText ((digitsOf d).drop 1) ++
        (exponentText ((digitsOf d).length + d.exponent - 1) digits ++ rest))) =
      .ok (.number (.float (.ofDecimal negative d)), rest) := by
  have hlen := length_digitsOf_pos (d := d)
  have hwhole : Whole ((digitsOf d).take 1) := by
    refine ⟨fun c hc => isDigit_digitsOf c (List.mem_of_mem_take hc), ?_, fun hzero => ?_⟩
    · rw [Ne, List.take_eq_nil_iff, not_or]
      exact ⟨by omega, digitsOf_ne_nil⟩
    · rw [List.head?_take, if_neg (by omega)] at hzero
      exact absurd hzero (head?_digitsOf_ne hne)
  refine (numberFrom_exponent hwhole (fun c hc => isDigit_digitsOf c (List.mem_of_mem_drop hc))
    hdigits hfull hvalue h).trans ?_
  have hexponent : (digitsOf d).length + d.exponent - 1 - (((digitsOf d).drop 1).length : Int) =
      d.exponent := by
    rw [List.length_drop]
    omega
  rw [List.take_append_drop, ofDigitChars_digitsOf, hexponent]

/-- The digits of an exponent, at least two. -/
def exponentDigits (e : Int) : List Char :=
  if (Nat.toDigits 10 e.natAbs).length < 2 then '0' :: Nat.toDigits 10 e.natAbs
  else Nat.toDigits 10 e.natAbs

theorem isDigit_exponentDigits (e : Int) : ∀ c ∈ exponentDigits e, c.isDigit := by
  unfold exponentDigits
  split
  · exact List.forall_mem_cons.mpr ⟨rfl, isDigit_toDigits _⟩
  · exact isDigit_toDigits _

theorem exponentDigits_ne_nil (e : Int) : exponentDigits e ≠ [] := by
  unfold exponentDigits
  split
  · exact List.cons_ne_nil _ _
  · exact Nat.toDigits_ne_nil

theorem ofDigitChars_exponentDigits (e : Int) :
    Nat.ofDigitChars 10 (exponentDigits e) 0 = e.natAbs := by
  unfold exponentDigits
  split
  · exact Nat.ofDigitChars_ten_toDigits
  · exact Nat.ofDigitChars_ten_toDigits

theorem toList_writeDecimal (d : Decimal) :
    (Binary64.writeDecimal d).toList =
      let point : Int := (digitsOf d).length + d.exponent
      if -4 ≤ point - 1 ∧ point - 1 < 16 then
        if point ≤ 0 then '0' :: '.' :: (List.replicate (-point).toNat '0' ++ digitsOf d)
        else if 0 ≤ d.exponent then
          digitsOf d ++ List.replicate d.exponent.toNat '0' ++ ['.', '0']
        else (digitsOf d).take point.toNat ++ '.' :: (digitsOf d).drop point.toNat
      else (digitsOf d).take 1 ++ (fractionText ((digitsOf d).drop 1) ++
        exponentText (point - 1) (exponentDigits (point - 1))) := by
  unfold Binary64.writeDecimal digitsOf
  dsimp only
  generalize hpoint : ((Nat.toDigits 10 d.coefficient).length : Int) + d.exponent = point
  split
  · split
    · simp only [String.toList_append, String.toList_ofList]
      rfl
    split
    · simp only [String.toList_append, String.toList_ofList]
      rfl
    · simp only [String.toList_append, String.toList_ofList, List.append_assoc]
      rfl
  · have hfraction : (if ((Nat.toDigits 10 d.coefficient).drop 1).isEmpty then ""
        else "." ++ String.ofList ((Nat.toDigits 10 d.coefficient).drop 1)).toList =
          fractionText ((Nat.toDigits 10 d.coefficient).drop 1) := by
      unfold fractionText
      split
      · rfl
      · simp only [String.toList_append, String.toList_ofList]
        rfl
    have hsign : (if point - 1 < 0 then "e-" else "e+").toList =
        ['e', if point - 1 < 0 then '-' else '+'] := by
      split <;> rfl
    have hdigits : (if (toString (point - 1).natAbs).length < 2
        then "0" ++ toString (point - 1).natAbs else toString (point - 1).natAbs).toList =
          exponentDigits (point - 1) := by
      unfold exponentDigits
      rw [Nat.toString_eq_ofList_toDigits, String.length_ofList]
      split
      · simp only [String.toList_append, String.toList_ofList]
        rfl
      · exact String.toList_ofList
    simp only [String.toList_append, String.toList_ofList, hfraction, hsign, hdigits,
      List.append_assoc]
    rfl

/-- A decimal is read as it was written, whatever form it was written in. -/
theorem numberFrom_writeDecimal (hne : d.coefficient ≠ 0) (h : Ends rest) :
    numberFrom limit negative ((Binary64.writeDecimal d).toList ++ rest) =
      .ok (.number (.float (.ofDecimal negative d)), rest) := by
  have hlen := length_digitsOf_pos (d := d)
  rw [toList_writeDecimal]
  dsimp only
  split
  · split
    · exact numberFrom_below_one (by omega) h
    split
    · rw [List.append_assoc]
      exact numberFrom_integral hne (by omega) h
    · rw [List.append_assoc]
      exact numberFrom_mixed hne (by omega) (by omega) h
  · rw [List.append_assoc, List.append_assoc]
    exact numberFrom_scientific hne (isDigit_exponentDigits _) (exponentDigits_ne_nil _)
      (ofDigitChars_exponentDigits _) h

end

/-! ## Numbers -/

theorem coefficient_shortest_ne_zero {m : Magnitude} (hm : m.mantissa ≠ 0) :
    (Binary64.shortest m).coefficient ≠ 0 := by
  intro hzero
  have hround := Binary64.ofDecimal_shortest hm
  unfold Binary64.ofDecimal at hround
  rw [if_pos (.inl hzero)] at hround
  cases hround
  exact hm rfl

theorem eq_zero_of_mantissa {m : Magnitude} (hm : m.mantissa = 0) : m = .zero := by
  obtain ⟨mantissa, exponent, hlt, hle, hge, hleading⟩ := m
  obtain rfl : mantissa = 0 := hm
  obtain rfl : exponent = -1074 := hleading.resolve_left (by decide)
  rfl

def unsigned (m : Magnitude) : String :=
  if m.mantissa = 0 then "0.0" else Binary64.writeDecimal (Binary64.shortest m)

theorem numberFrom_unsigned (m : Magnitude) (h : Ends rest) :
    numberFrom limit negative ((unsigned m).toList ++ rest) =
      .ok (.number (.float (.finite negative m)), rest) := by
  unfold unsigned
  by_cases hm : m.mantissa = 0
  · rw [if_pos hm, eq_zero_of_mantissa hm]
    exact numberFrom_fraction (whole_toDigits 0) (isDigit_replicate_zero 1) (List.cons_ne_nil _ _) h
  · rw [if_neg hm, numberFrom_writeDecimal (coefficient_shortest_ne_zero hm) h,
      Binary64.ofDecimal_eq_of_positive (Binary64.ofDecimal_shortest hm)]

def StartsWithDigit (cs : List Char) : Prop := ∃ c tail, cs = c :: tail ∧ c.isDigit = true

theorem StartsWithDigit.append {cs : List Char} (h : StartsWithDigit cs) (more : List Char) :
    StartsWithDigit (cs ++ more) := by
  obtain ⟨c, tail, rfl, hc⟩ := h
  exact ⟨c, tail ++ more, rfl, hc⟩

theorem startsWithDigit_of_digits {cs : List Char} (hcs : ∀ c ∈ cs, c.isDigit) (hne : cs ≠ []) :
    StartsWithDigit cs := by
  obtain ⟨c, tail, rfl⟩ := List.exists_cons_of_ne_nil hne
  exact ⟨c, tail, rfl, hcs c List.mem_cons_self⟩

theorem startsWithDigit_take {d : Decimal} {n : Nat} (hn : n ≠ 0) :
    StartsWithDigit ((digitsOf d).take n) := by
  refine startsWithDigit_of_digits (fun c hc => isDigit_digitsOf c (List.mem_of_mem_take hc)) ?_
  rw [Ne, List.take_eq_nil_iff, not_or]
  exact ⟨hn, digitsOf_ne_nil⟩

theorem startsWithDigit_writeDecimal (d : Decimal) :
    StartsWithDigit (Binary64.writeDecimal d).toList := by
  rw [toList_writeDecimal]
  dsimp only
  split
  · split
    · exact ⟨'0', _, rfl, rfl⟩
    split
    · exact ((startsWithDigit_of_digits isDigit_digitsOf digitsOf_ne_nil).append _).append _
    · exact (startsWithDigit_take (by omega)).append _
  · exact (startsWithDigit_take one_ne_zero).append _

theorem startsWithDigit_unsigned (m : Magnitude) : StartsWithDigit (unsigned m).toList := by
  unfold unsigned
  split
  · exact ⟨'0', _, rfl, rfl⟩
  · exact startsWithDigit_writeDecimal _

theorem value_of_startsWithDigit {depth : Nat} {cs : List Char} (h : StartsWithDigit cs) :
    value limit (depth + 1) cs = numberFrom limit false cs ∧
      value limit (depth + 1) ('-' :: cs) = numberFrom limit true cs := by
  obtain ⟨c, tail, rfl, hc⟩ := h
  constructor
  · rw [← number_of_digit hc]
    unfold value
    split
    case h_10 => rfl
    all_goals
      next heq =>
        cases heq
        exact absurd hc (by decide)
  · rw [← number_of_minus]
    unfold value
    split
    case h_10 => rfl
    all_goals
      next heq => cases heq <;> exact absurd hc (by decide)

theorem toList_writeNumber_int {n : Int} {text : String} (h : writeNumber (.int n) = .ok text) :
    (Nat.toDigits 10 n.natAbs).length ≤ DigitLimit.most ∧
      text.toList = (if n < 0 then ['-'] else []) ++ Nat.toDigits 10 n.natAbs := by
  unfold writeNumber Number.intText at h
  dsimp only at h
  by_cases hlen : DigitLimit.most < (Nat.toDigits 10 n.natAbs).length
  · rw [if_pos hlen] at h
    cases h
  · rw [if_neg hlen] at h
    cases h
    refine ⟨Nat.le_of_not_lt hlen, ?_⟩
    rw [String.toList_append, String.toList_ofList]
    split <;> rfl

theorem value_writeNumber {n : Number} {text : String} {depth : Nat}
    (hn : writeNumber n = .ok text) (h : Ends rest) :
    value (some DigitLimit.most) (depth + 1) (text.toList ++ rest) = .ok (.number n, rest) := by
  cases n with
  | int n =>
    obtain ⟨hlen, htext⟩ := toList_writeNumber_int hn
    have hstart := (startsWithDigit_of_digits (isDigit_toDigits n.natAbs)
      Nat.toDigits_ne_nil).append rest
    have hread (negative : Bool) : numberFrom (some DigitLimit.most) negative
        (Nat.toDigits 10 n.natAbs ++ rest) =
          .ok (.int (if negative then -(n.natAbs : Int) else n.natAbs), rest) := by
      rw [numberFrom_digits (whole_toDigits n.natAbs) (fun m hm => by cases hm; exact hlen) h,
        Nat.ofDigitChars_ten_toDigits]
    rw [htext]
    by_cases hneg : n < 0
    · have hvalue : -(n.natAbs : Int) = n := by omega
      rw [if_pos hneg]
      refine (value_of_startsWithDigit hstart).2.trans ((hread true).trans ?_)
      rw [if_pos rfl, hvalue]
      rfl
    · have hvalue : (n.natAbs : Int) = n := by omega
      rw [if_neg hneg]
      refine (value_of_startsWithDigit hstart).1.trans ((hread false).trans ?_)
      rw [if_neg nofun, hvalue]
      rfl
  | float x =>
    cases hn
    cases x with
    | nan => rfl
    | infinite negative => cases negative <;> rfl
    | finite negative m =>
      have hstart := (startsWithDigit_unsigned m).append rest
      cases negative with
      | false =>
        show value _ _ ((unsigned m).toList ++ rest) = _
        exact (value_of_startsWithDigit hstart).1.trans (numberFrom_unsigned m h)
      | true =>
        show value _ _ (("-" ++ unsigned m).toList ++ rest) = _
        rw [String.toList_append]
        exact (value_of_startsWithDigit hstart).2.trans (numberFrom_unsigned m h)

end EventChain.Json
