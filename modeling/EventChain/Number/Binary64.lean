/-!
# Binary floating-point numbers

`Binary64` is the set of binary64 values with exact arithmetic underneath:
a finite value is a sign and a `Magnitude`, which denotes a rational, and
`Binary64.ofRat` rounds a rational to the nearest value, a half going to the
even mantissa. Every arithmetic operation is the exact operation on rationals
followed by that one rounding.
-/

namespace EventChain

/-- The magnitude `mantissa * 2 ^ exponent` in its one stored form: 53 bits, of which the
first is set unless the exponent is the least one. -/
structure Magnitude where
  mantissa : Nat
  exponent : Int
  mantissa_lt : mantissa < 0x20000000000000
  le_exponent : -1074 ≤ exponent
  exponent_le : exponent ≤ 971
  leading : 0x10000000000000 ≤ mantissa ∨ exponent = -1074
  deriving DecidableEq, Repr

namespace Magnitude

def zero : Magnitude := ⟨0, -1074, by decide, by decide, by decide, by decide⟩

instance : Inhabited Magnitude := ⟨zero⟩

def value (m : Magnitude) : Rat :=
  if 0 ≤ m.exponent then ((m.mantissa * Nat.pow 2 m.exponent.toNat : Nat) : Rat)
  else mkRat m.mantissa (Nat.pow 2 (-m.exponent).toNat)

/-- The stored form of `mantissa * 2 ^ exponent`, none when it does not fit. A mantissa that
rounding carried to 54 bits moves up by one exponent. -/
def pack? (mantissa : Nat) (exponent : Int) : Option Magnitude :=
  let (m, e) := if mantissa = 0x20000000000000 then (0x10000000000000, exponent + 1)
    else (mantissa, exponent)
  if h : m < 0x20000000000000 ∧ -1074 ≤ e ∧ e ≤ 971 ∧ (0x10000000000000 ≤ m ∨ e = -1074) then
    some ⟨m, e, h.1, h.2.1, h.2.2.1, h.2.2.2⟩
  else none

end Magnitude

/-- The quotient `num / den` as a natural number, a half going to the even neighbour. -/
def roundQuotient (num den : Nat) : Nat :=
  let quotient := num / den
  let twice := 2 * (num % den)
  if twice < den then quotient
  else if den < twice then quotient + 1
  else if quotient % 2 = 0 then quotient else quotient + 1

/-- The exponent `k` with `2 ^ k ≤ num / den < 2 ^ (k + 1)`, for positive `num` and `den`. -/
def floorLog2 (num den : Nat) : Int :=
  let k : Int := (num.log2 : Int) - den.log2
  let reached := if 0 ≤ k then den * Nat.pow 2 k.toNat ≤ num
    else den ≤ num * Nat.pow 2 (-k).toNat
  if reached then k else k - 1

/-- The nearest magnitude to `num / den`, none when it lies beyond the largest one. -/
def Magnitude.round? (num den : Nat) : Option Magnitude :=
  if num = 0 then some .zero
  else
    let e := max (floorLog2 num den - 52) (-1074)
    let mantissa :=
      if 0 ≤ e then roundQuotient num (den * Nat.pow 2 e.toNat)
      else roundQuotient (num * Nat.pow 2 (-e).toNat) den
    Magnitude.pack? mantissa e

/-- A binary64 value. The two zeros are told apart; there is one value that is no number. -/
inductive Binary64 where
  | finite (negative : Bool) (magnitude : Magnitude)
  | infinite (negative : Bool)
  | nan
  deriving DecidableEq, Repr, Inhabited

namespace Binary64

def zero : Binary64 := .finite false .zero

/-- The rational that a finite value denotes. -/
def toRat? : Binary64 → Option Rat
  | finite negative m => some (if negative then -m.value else m.value)
  | infinite _ | nan => none

/-- The value nearest to `(-1) ^ negative * num / den`; infinite beyond the largest one. -/
def ofQuotient (negative : Bool) (num den : Nat) : Binary64 :=
  match Magnitude.round? num den with
  | some m => .finite negative m
  | none => .infinite negative

/-- The value nearest to a rational. Zero is the positive zero. -/
def ofRat (q : Rat) : Binary64 := ofQuotient (decide (q < 0)) q.num.natAbs q.den

def ofInt (n : Int) : Binary64 := ofQuotient (decide (n < 0)) n.natAbs 1

def isFinite : Binary64 → Bool
  | finite _ _ => true
  | infinite _ | nan => false

def isNan : Binary64 → Bool
  | nan => true
  | finite _ _ | infinite _ => false

def isZero : Binary64 → Bool
  | finite _ m => m.mantissa = 0
  | infinite _ | nan => false

/-- The integer that a finite value denotes, if it denotes one. -/
def toInt? (x : Binary64) : Option Int := do
  let q ← x.toRat?
  if q.den = 1 then some q.num else none

def neg : Binary64 → Binary64
  | finite negative m => .finite (!negative) m
  | infinite negative => .infinite (!negative)
  | nan => .nan

/-- Sums of opposite infinities are no number; the sum of two negative zeros is the
negative zero and every other zero sum the positive one. -/
def add : Binary64 → Binary64 → Binary64
  | nan, _ | _, nan => .nan
  | infinite a, infinite b => if a = b then .infinite a else .nan
  | infinite a, finite _ _ => .infinite a
  | finite _ _, infinite b => .infinite b
  | x@(finite a m), y@(finite b n) =>
    if m.mantissa = 0 ∧ n.mantissa = 0 then .finite (a && b) .zero
    else match x.toRat?, y.toRat? with
      | some p, some q => ofRat (p + q)
      | _, _ => .nan

def sub (x y : Binary64) : Binary64 := x.add y.neg

/-- The product of an infinity and a zero is no number. -/
def mul : Binary64 → Binary64 → Binary64
  | nan, _ | _, nan => .nan
  | infinite a, infinite b => .infinite (a != b)
  | infinite a, finite b n => if n.mantissa = 0 then .nan else .infinite (a != b)
  | finite a m, infinite b => if m.mantissa = 0 then .nan else .infinite (a != b)
  | finite a m, finite b n =>
    let q := m.value * n.value
    ofQuotient (a != b) q.num.natAbs q.den

/-- The quotient by a divisor that is not zero; none when it is. -/
def div? : Binary64 → Binary64 → Option Binary64
  | _, finite _ ⟨0, _, _, _, _, _⟩ => none
  | nan, _ | _, nan => some .nan
  | infinite _, infinite _ => some .nan
  | infinite a, finite b _ => some (.infinite (a != b))
  | finite a _, infinite b => some (.finite (a != b) .zero)
  | finite a m, finite b n =>
    let q := m.value / n.value
    some (ofQuotient (a != b) q.num.natAbs q.den)

end Binary64

end EventChain
