import EventChain.Json.Reader
import Mathlib.Data.List.Basic

/-!
# Numerals of JSON text

A numeral is read part by part: the digits before the point (`splitWhole`), those after it
(`splitFraction`) and the exponent. From how each part is split off a text that goes on after it
follows what the three forms of a numeral are read as: digits alone (`numberFrom_digits`), with a
fraction (`numberFrom_fraction`) and with an exponent (`numberFrom_exponent`).
-/

namespace EventChain.Json

/-- What may follow a value within a text: nothing, a comma or a closing bracket. -/
def Ends (rest : List Char) : Prop :=
  ∀ c, rest.head? = some c → c = ',' ∨ c = ']' ∨ c = '\x7d'

theorem ends_nil : Ends [] := nofun

theorem ends_of_mem {c : Char} (h : c = ',' ∨ c = ']' ∨ c = '\x7d') (rest : List Char) :
    Ends (c :: rest) := by
  intro d hd
  cases hd
  exact h

theorem Ends.not_isDigit {rest : List Char} (h : Ends rest) :
    ∀ c, rest.head? = some c → c.isDigit = false := by
  intro c hc
  rcases h c hc with rfl | rfl | rfl <;> decide

/-! ## Digits -/

theorem ofDigits_map (cs : List Char) :
    Decimal.ofDigits (cs.map (·.toNat - 48)) = Nat.ofDigitChars 10 cs 0 := by
  rw [Decimal.ofDigits, List.foldl_map]
  rfl

theorem asciiDigits_append {cs rest : List Char} (hcs : ∀ c ∈ cs, c.isDigit)
    (hrest : ∀ c, rest.head? = some c → c.isDigit = false) :
    asciiDigits (cs ++ rest) = (cs.map (·.toNat - 48), rest) := by
  have hnone : rest.takeWhile Char.isDigit = [] ∧ rest.dropWhile Char.isDigit = rest := by
    cases rest with
    | nil => exact ⟨rfl, rfl⟩
    | cons c tail =>
      have hc := hrest c rfl
      exact ⟨by rw [List.takeWhile_cons, hc]; rfl, by rw [List.dropWhile_cons, hc]; rfl⟩
  unfold asciiDigits
  rw [List.takeWhile_append_of_pos hcs, List.dropWhile_append_of_pos hcs, hnone.1, hnone.2,
    List.append_nil]

theorem isDigit_toDigits (n : Nat) : ∀ c ∈ Nat.toDigits 10 n, c.isDigit :=
  fun _ hc => Nat.isDigit_of_mem_toDigits (by decide) (by decide) hc

theorem head?_toDigits_ne {n : Nat} (hn : n ≠ 0) : (Nat.toDigits 10 n).head? ≠ some '0' := by
  induction n using Nat.strongRecOn with
  | _ n ih =>
    by_cases hlt : n < 10
    · rw [Nat.toDigits_of_lt_base hlt, List.head?_cons, Ne, Option.some_inj, Nat.digitChar_eq_zero]
      exact hn
    · rw [Nat.toDigits_of_base_le (by decide) (by omega),
        List.head?_append_of_ne_nil _ Nat.toDigits_ne_nil]
      exact ih (n / 10) (by omega) (by omega)

/-- The digits before the point: at least one, and no zero before others. -/
structure Whole (cs : List Char) : Prop where
  digits : ∀ c ∈ cs, c.isDigit
  ne_nil : cs ≠ []
  zero : cs.head? = some '0' → cs = ['0']

theorem whole_toDigits (n : Nat) : Whole (Nat.toDigits 10 n) := by
  refine ⟨isDigit_toDigits n, Nat.toDigits_ne_nil, fun hzero => ?_⟩
  by_cases hn : n = 0
  · rw [hn, Nat.toDigits_zero]
  · exact absurd hzero (head?_toDigits_ne hn)

/-! ## Parts of a number -/

def splitWhole (cs : List Char) : List Nat × List Char :=
  match cs with
  | '0' :: rest => ([0], rest)
  | _ => asciiDigits cs

def splitFraction (cs : List Char) : List Nat × List Char :=
  match cs with
  | '.' :: tail => match asciiDigits tail with
    | ([], _) => ([], cs)
    | found => found
  | _ => ([], cs)

def numberFrom (limit : Option Nat) (negative : Bool) (body : List Char) :
    Except Fault (Value × List Char) :=
  let (whole, rest) := splitWhole body
  if whole.isEmpty then throw .expectingValue
  else
    let (fraction, rest) := splitFraction rest
    match exponent? rest with
    | some (e, tail) =>
      let d : Decimal := ⟨Decimal.ofDigits (whole ++ fraction), e - fraction.length⟩
      pure (.number (.float (.ofDecimal negative d)), tail)
    | none =>
      if fraction.isEmpty then
        if limit.any (· < whole.length) then throw (.digitLimit (.reading whole.length))
        else
          let n : Int := Decimal.ofDigits whole
          pure (.int (if negative then -n else n), rest)
      else
        let d : Decimal := ⟨Decimal.ofDigits (whole ++ fraction), -fraction.length⟩
        pure (.number (.float (.ofDecimal negative d)), rest)

variable {limit : Option Nat} {negative : Bool} {rest : List Char}

theorem number_of_minus (body : List Char) :
    number limit ('-' :: body) = numberFrom limit true body := rfl

theorem number_of_digit {c : Char} (hc : c.isDigit) :
    number limit (c :: rest) = numberFrom limit false (c :: rest) := by
  unfold number
  split
  next heq =>
  split at heq
  · next hminus =>
    cases hminus
    cases hc
  · cases heq
    rfl

theorem splitWhole_append {whole : List Char} (hw : Whole whole)
    (hrest : ∀ c, rest.head? = some c → c.isDigit = false) :
    splitWhole (whole ++ rest) = (whole.map (·.toNat - 48), rest) := by
  obtain ⟨hdigits, hne, hzero⟩ := hw
  cases whole with
  | nil => exact absurd rfl hne
  | cons c tail =>
    by_cases hc : c = '0'
    · subst hc
      cases hzero rfl
      rfl
    · rw [← asciiDigits_append hdigits hrest]
      unfold splitWhole
      split
      · next heq =>
        cases heq
        exact absurd rfl hc
      · rfl

/-- A point with digits after it, or nothing where there are none. -/
def fractionText (fraction : List Char) : List Char :=
  if fraction.isEmpty then [] else '.' :: fraction

theorem splitFraction_append {fraction : List Char} (hf : ∀ c ∈ fraction, c.isDigit)
    (hrest : ∀ c, rest.head? = some c → c.isDigit = false ∧ c ≠ '.') :
    splitFraction (fractionText fraction ++ rest) = (fraction.map (·.toNat - 48), rest) := by
  unfold fractionText
  cases fraction with
  | nil =>
    show splitFraction rest = ([], rest)
    unfold splitFraction
    split
    · exact absurd rfl (hrest _ rfl).2
    · rfl
  | cons c tail =>
    show (match asciiDigits (c :: tail ++ rest) with
      | ([], _) => ([], '.' :: (c :: tail ++ rest))
      | found => found) = _
    rw [asciiDigits_append hf fun c hc => (hrest c hc).1]
    rfl

def exponentText (e : Int) (digits : List Char) : List Char :=
  'e' :: (if e < 0 then '-' else '+') :: digits

theorem exponent?_append {e : Int} {digits : List Char} (hd : ∀ c ∈ digits, c.isDigit)
    (hne : digits ≠ []) (hvalue : Nat.ofDigitChars 10 digits 0 = e.natAbs)
    (hrest : ∀ c, rest.head? = some c → c.isDigit = false) :
    exponent? (exponentText e digits ++ rest) = some (e, rest) := by
  have hdigits : asciiDigits (digits ++ rest) = (digits.map (·.toNat - 48), rest) :=
    asciiDigits_append hd hrest
  have hofDigits : Decimal.ofDigits (digits.map (·.toNat - 48)) = e.natAbs :=
    (ofDigits_map digits).trans hvalue
  obtain ⟨c, tail, rfl⟩ := List.exists_cons_of_ne_nil hne
  unfold exponentText
  by_cases he : e < 0
  · have hn : -(e.natAbs : Int) = e := by omega
    have hsign : Numeral.sign ('-' :: (c :: tail ++ rest)) = (true, c :: tail ++ rest) := rfl
    rw [if_pos he, ← hn, ← hofDigits, List.cons_append, List.cons_append, exponent?,
      if_pos (.inl rfl), hsign]
    dsimp only
    rw [hdigits]
    rfl
  · have hn : (e.natAbs : Int) = e := by omega
    have hsign : Numeral.sign ('+' :: (c :: tail ++ rest)) = (false, c :: tail ++ rest) := rfl
    rw [if_neg he, ← hn, ← hofDigits, List.cons_append, List.cons_append, exponent?,
      if_pos (.inl rfl), hsign]
    dsimp only
    rw [hdigits]
    rfl

theorem exponent?_of_ends (h : Ends rest) : exponent? rest = none := by
  unfold exponent?
  split
  · rfl
  · next c tail =>
    rcases h c rfl with rfl | rfl | rfl <;> rfl

/-! ## Reading -/

theorem Ends.not_fraction (h : Ends rest) :
    ∀ c, rest.head? = some c → c.isDigit = false ∧ c ≠ '.' := by
  intro c hc
  rcases h c hc with rfl | rfl | rfl <;> decide

theorem numberFrom_digits {whole : List Char} (hw : Whole whole)
    (hlen : ∀ n, limit = some n → whole.length ≤ n) (h : Ends rest) :
    numberFrom limit negative (whole ++ rest) =
      .ok (.int (if negative then -(Nat.ofDigitChars 10 whole 0 : Int)
        else Nat.ofDigitChars 10 whole 0), rest) := by
  have hfraction : splitFraction rest = ([], rest) :=
    splitFraction_append (List.forall_mem_nil _) h.not_fraction
  have hne : (whole.map (·.toNat - 48)).isEmpty = false := by
    simpa [List.isEmpty_iff] using hw.ne_nil
  have hlimit : (limit.any (· < (whole.map (·.toNat - 48)).length)) = false := by
    cases limit with
    | none => rfl
    | some n => simpa using hlen n rfl
  unfold numberFrom
  rw [splitWhole_append hw h.not_isDigit]
  simp only [hne, hfraction, exponent?_of_ends h, hlimit, ofDigits_map]
  rfl

theorem numberFrom_fraction {whole fraction : List Char} (hw : Whole whole)
    (hf : ∀ c ∈ fraction, c.isDigit) (hne : fraction ≠ []) (h : Ends rest) :
    numberFrom limit negative (whole ++ ('.' :: fraction ++ rest)) =
      .ok (.number (.float (.ofDecimal negative
        ⟨Nat.ofDigitChars 10 (whole ++ fraction) 0, -fraction.length⟩)), rest) := by
  have hpoint : splitFraction ('.' :: fraction ++ rest) = (fraction.map (·.toNat - 48), rest) := by
    have hsplit := splitFraction_append hf h.not_fraction
    rwa [fractionText, if_neg (by simpa using hne)] at hsplit
  have hwhole : (whole.map (·.toNat - 48)).isEmpty = false := by
    simpa [List.isEmpty_iff] using hw.ne_nil
  have hfraction : (fraction.map (·.toNat - 48)).isEmpty = false := by
    simpa [List.isEmpty_iff] using hne
  unfold numberFrom
  rw [splitWhole_append hw (by rintro c ⟨⟩; rfl)]
  simp only [hwhole, hpoint, exponent?_of_ends h, hfraction, ← List.map_append, ofDigits_map,
    List.length_map]
  rfl

theorem numberFrom_exponent {whole fraction digits : List Char} {e : Int} (hw : Whole whole)
    (hf : ∀ c ∈ fraction, c.isDigit) (hd : ∀ c ∈ digits, c.isDigit) (hne : digits ≠ [])
    (hvalue : Nat.ofDigitChars 10 digits 0 = e.natAbs) (h : Ends rest) :
    numberFrom limit negative
        (whole ++ (fractionText fraction ++ (exponentText e digits ++ rest))) =
      .ok (.number (.float (.ofDecimal negative
        ⟨Nat.ofDigitChars 10 (whole ++ fraction) 0, e - fraction.length⟩)), rest) := by
  have hexponent := exponent?_append hd hne hvalue h.not_isDigit
  have hfraction : splitFraction (fractionText fraction ++ (exponentText e digits ++ rest)) =
      (fraction.map (·.toNat - 48), exponentText e digits ++ rest) :=
    splitFraction_append hf (by rintro c ⟨⟩; decide)
  have hpoint : ∀ c, (fractionText fraction ++ (exponentText e digits ++ rest)).head? = some c →
      c.isDigit = false := by
    unfold fractionText
    split <;> (rintro c ⟨⟩; rfl)
  have hwhole : (whole.map (·.toNat - 48)).isEmpty = false := by
    simpa [List.isEmpty_iff] using hw.ne_nil
  unfold numberFrom
  rw [splitWhole_append hw hpoint]
  simp only [hwhole, hfraction, hexponent, ← List.map_append, ofDigits_map, List.length_map]
  rfl

end EventChain.Json
