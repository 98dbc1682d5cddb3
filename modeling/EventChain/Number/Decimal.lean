import EventChain.Number.Binary64

/-!
# Decimal numerals

A `Decimal` is `coefficient * 10 ^ exponent`. `Binary64.ofDecimal` rounds one to the nearest
binary64 value, `Binary64.shortest` finds the decimal with the fewest digits that rounds
back to a magnitude, and `Binary64.text` writes it: positional for decimal exponents from
-4 to 15, scientific elsewhere.
-/

namespace EventChain

structure Decimal where
  coefficient : Nat
  exponent : Int
  deriving DecidableEq, Repr

namespace Decimal

/-- Numerator and denominator of a decimal. -/
def quotient (d : Decimal) : Nat × Nat :=
  if 0 ≤ d.exponent then (d.coefficient * Nat.pow 10 d.exponent.toNat, 1)
  else (d.coefficient, Nat.pow 10 (-d.exponent).toNat)

/-- The natural number that decimal digits denote. -/
def ofDigits (digits : List Nat) : Nat := digits.foldl (10 * · + ·) 0

/-- A power of ten that a decimal other than zero does not lie below, by the length of its
coefficient. -/
def low (d : Decimal) : Int := (3 * (d.coefficient.log2 / 10) : Nat) + d.exponent

/-- A power of ten that a decimal lies below, by the length of its coefficient. -/
def high (d : Decimal) : Int := (d.coefficient.log2 / 3 + 1 : Nat) + d.exponent

end Decimal

namespace Binary64

/-- The value nearest to a decimal. Decimals from `10 ^ 400` up and below `10 ^ -400` are
settled by their size alone: they lie beyond the largest and the least magnitude. -/
def ofDecimal (negative : Bool) (d : Decimal) : Binary64 :=
  if d.coefficient = 0 ∨ d.high ≤ -400 then .finite negative .zero
  else if 400 ≤ d.low then .infinite negative
  else
    let (num, den) := d.quotient
    ofQuotient negative num den

/-- The exponent `p` with `10 ^ p ≤ num / den < 10 ^ (p + 1)`, found from the binary one. -/
def floorLog10 (num den : Nat) : Int :=
  let guess := floorLog2 num den * 30103 / 100000
  let reached (p : Int) : Bool :=
    if 0 ≤ p then decide (den * Nat.pow 10 p.toNat ≤ num)
    else decide (den ≤ num * Nat.pow 10 (-p).toNat)
  if reached (guess + 1) then guess + 1
  else if reached guess then guess
  else guess - 1

/-- The better of the two neighbours of `num / den` on the grid of step `10 ^ step`, among
those that round to `m`: the nearer one, the even one of two equally near. -/
def onGrid? (m : Magnitude) (num den : Nat) (step : Int) : Option Decimal :=
  let (n, d) := if 0 ≤ step then (num, den * Nat.pow 10 step.toNat)
    else (num * Nat.pow 10 (-step).toNat, den)
  let below : Decimal := ⟨n / d, step⟩
  let above : Decimal := ⟨n / d + 1, step⟩
  let hits (x : Decimal) : Bool := ofDecimal false x = .finite false m
  let lower := hits below
  let upper := hits above
  if lower && upper then
    some (if roundQuotient n d = n / d then below else above)
  else if lower then some below
  else if upper then some above
  else none

/-- The decimal expansion of a magnitude, in full. -/
def expansion (m : Magnitude) : Decimal :=
  if 0 ≤ m.exponent then ⟨m.mantissa * Nat.pow 2 m.exponent.toNat, 0⟩
  else ⟨m.mantissa * Nat.pow 5 (-m.exponent).toNat, m.exponent⟩

/-- The decimal with the fewest digits that rounds to the magnitude, and of those the
nearest. The coarsest grid tried has its step above the leading digit, so that no decimal ends
in a zero. -/
def shortest (m : Magnitude) : Decimal :=
  let q := m.value
  let num := q.num.natAbs
  let lead := floorLog10 num q.den
  let found := (List.range 18).findSome? fun (k : Nat) => onGrid? m num q.den (lead + 1 - k)
  found.getD (expansion m)

/-- Writes the digits of a decimal with a point, or with an exponent of at least two digits
when the decimal exponent is below -4 or above 15. -/
def writeDecimal (d : Decimal) : String :=
  let digits := Nat.toDigits 10 d.coefficient
  let point : Int := digits.length + d.exponent
  if -4 ≤ point - 1 ∧ point - 1 < 16 then
    if point ≤ 0 then
      "0." ++ String.ofList (List.replicate (-point).toNat '0' ++ digits)
    else if d.exponent ≥ 0 then
      String.ofList (digits ++ List.replicate d.exponent.toNat '0') ++ ".0"
    else
      String.ofList (digits.take point.toNat) ++ "." ++ String.ofList (digits.drop point.toNat)
  else
    let e := point - 1
    let shown := toString e.natAbs
    let fraction := digits.drop 1
    String.ofList (digits.take 1)
      ++ (if fraction.isEmpty then "" else "." ++ String.ofList fraction)
      ++ (if e < 0 then "e-" else "e+") ++ (if shown.length < 2 then "0" ++ shown else shown)

/-- The text of a value: the fewest digits that read back as the same value. -/
def text : Binary64 → String
  | nan => "nan"
  | infinite negative => if negative then "-inf" else "inf"
  | finite negative m =>
    let unsigned := if m.mantissa = 0 then "0.0" else writeDecimal (shortest m)
    if negative then "-" ++ unsigned else unsigned

end Binary64

end EventChain
