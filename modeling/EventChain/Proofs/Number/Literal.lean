import EventChain.Proofs.Number.Size
import EventChain.Proofs.Value.Unwritable

/-!
# Numerals as they are written

The numerals that the readers of `Numeral` take, as syntax that is written out: a sign, digits
around a point, a power of ten. Each reader takes exactly what is written so, with digits of any
script, and gives what it denotes (`decimal?_chars`, `float?_chars`, `int?_chars` and the `exists_`
lemmas).
-/

namespace EventChain

namespace Numeral

/-! ## Syntax -/

inductive Sign where
  | none
  | plus
  | minus
  deriving DecidableEq, Repr

namespace Sign

def chars : Sign → List Char
  | none => []
  | plus => ['+']
  | minus => ['-']

def isMinus : Sign → Bool
  | minus => true
  | none | plus => false

def apply (s : Sign) (n : Nat) : Int := if s.isMinus then -n else n

end Sign

def values (cs : List Char) : List Nat := cs.filterMap Text.digit?

structure Power where
  mark : Char
  sign : Sign
  digits : List Char
  deriving DecidableEq, Repr

namespace Power

def chars (p : Power) : List Char := p.mark :: (p.sign.chars ++ p.digits)

def exponent (p : Power) : Int := p.sign.apply (Decimal.ofDigits (values p.digits))

structure Over (isDigit : Char → Bool) (p : Power) : Prop where
  mark : p.mark = 'e' ∨ p.mark = 'E'
  digits : ∀ c ∈ p.digits, isDigit c = true
  ne_nil : p.digits ≠ []

end Power

/-- A numeral without a sign: digits, a point with digits behind it, a power of ten. -/
structure Unsigned where
  whole : List Char
  fraction : Option (List Char)
  power : Option Power
  deriving DecidableEq, Repr

namespace Unsigned

def chars (u : Unsigned) : List Char :=
  u.whole ++ (u.fraction.elim [] ('.' :: ·) ++ u.power.elim [] Power.chars)

def decimal (u : Unsigned) : Decimal :=
  ⟨Decimal.ofDigits (values (u.whole ++ u.fraction.getD [])),
    u.power.elim 0 Power.exponent - (u.fraction.getD []).length⟩

def IsWhole (u : Unsigned) : Prop := u.fraction = none ∧ u.power = none

instance (u : Unsigned) : Decidable u.IsWhole := inferInstanceAs (Decidable (_ ∧ _))

/-- The numeral is well formed, with digits of a class: there is one before or behind the point. -/
structure Over (isDigit : Char → Bool) (u : Unsigned) : Prop where
  whole : ∀ c ∈ u.whole, isDigit c = true
  fraction : ∀ cs ∈ u.fraction, ∀ c ∈ cs, isDigit c = true
  power : ∀ p ∈ u.power, p.Over isDigit
  ne_nil : u.whole ++ u.fraction.getD [] ≠ []

end Unsigned

structure Literal extends Unsigned where
  sign : Sign
  deriving DecidableEq, Repr

namespace Literal

def chars (l : Literal) : List Char := l.sign.chars ++ l.toUnsigned.chars

def integer (l : Literal) : Int := l.sign.apply (Decimal.ofDigits (values l.whole))

def float (l : Literal) : Binary64 := .ofDecimal l.sign.isMinus l.decimal

end Literal

variable {cs rest : List Char} {u : Unsigned} {l : Literal}

/-! ## Digits and signs -/

theorem values_cons {c : Char} {d : Nat} (h : Text.digit? c = some d) (cs : List Char) :
    values (c :: cs) = d :: values cs := List.filterMap_cons_some h

theorem length_values (h : ∀ c ∈ cs, Text.isDigit c = true) : (values cs).length = cs.length := by
  induction cs with
  | nil => rfl
  | cons c cs ih =>
    obtain ⟨d, hd⟩ := Option.isSome_iff_exists.mp (h c List.mem_cons_self)
    rw [values_cons hd, List.length_cons, List.length_cons,
      ih fun x hx => h x (List.mem_cons_of_mem c hx)]

theorem values_append (cs rest : List Char) : values (cs ++ rest) = values cs ++ values rest :=
  List.filterMap_append

theorem isEmpty_values (h : ∀ c ∈ cs, Text.isDigit c = true) :
    (values cs).isEmpty = cs.isEmpty := by
  rw [Bool.eq_iff_iff, List.isEmpty_iff_length_eq_zero, List.isEmpty_iff_length_eq_zero,
    length_values h]

theorem digits_append (hcs : ∀ c ∈ cs, Text.isDigit c = true)
    (hrest : ∀ c ∈ rest.head?, Text.isDigit c = false) :
    digits (cs ++ rest) = (values cs, rest) := by
  induction cs with
  | nil =>
    cases rest with
    | nil => rfl
    | cons c rest =>
      have hnone : Text.digit? c = none :=
        Option.not_isSome_iff_eq_none.mp (Bool.not_eq_true _ ▸ hrest c rfl)
      rw [List.nil_append, digits, hnone]
      rfl
  | cons c cs ih =>
    obtain ⟨d, hd⟩ := Option.isSome_iff_exists.mp (hcs c List.mem_cons_self)
    rw [List.cons_append, digits, hd, ih fun x hx => hcs x (List.mem_cons_of_mem c hx),
      values_cons hd]

theorem digits_all (hcs : ∀ c ∈ cs, Text.isDigit c = true) : digits cs = (values cs, []) := by
  have happend : digits (cs ++ []) = _ := digits_append hcs nofun
  rwa [List.append_nil] at happend

theorem exists_digits (cs : List Char) :
    ∃ ds rest, cs = ds ++ rest ∧ (∀ c ∈ ds, Text.isDigit c = true) ∧
      (∀ c ∈ rest.head?, Text.isDigit c = false) ∧ digits cs = (values ds, rest) := by
  have hds : ∀ c ∈ cs.takeWhile Text.isDigit, Text.isDigit c = true :=
    fun c hc => List.mem_takeWhile_imp hc
  have hrest : ∀ c ∈ (cs.dropWhile Text.isDigit).head?, Text.isDigit c = false := by
    intro c hc
    have hnot := List.head?_dropWhile_not Text.isDigit cs
    rwa [Option.mem_def.mp hc] at hnot
  refine ⟨_, _, List.takeWhile_append_dropWhile.symm, hds, hrest, ?_⟩
  conv_lhs => rw [← List.takeWhile_append_dropWhile (p := Text.isDigit) (l := cs)]
  exact digits_append hds hrest

theorem sign_append (s : Sign) (h : ∀ c ∈ rest.head?, c ≠ '-' ∧ c ≠ '+') :
    sign (s.chars ++ rest) = (s.isMinus, rest) := by
  cases s with
  | plus => rfl
  | minus => rfl
  | none =>
    show sign rest = (false, rest)
    unfold sign
    split
    · exact absurd rfl (h '-' rfl).1
    · exact absurd rfl (h '+' rfl).2
    · rfl

theorem exists_sign (cs : List Char) : ∃ s rest, cs = Sign.chars s ++ rest ∧
    sign cs = (s.isMinus, rest) := by
  unfold sign
  split
  · exact ⟨.minus, _, rfl, rfl⟩
  · exact ⟨.plus, _, rfl, rfl⟩
  · exact ⟨.none, _, rfl, rfl⟩

theorem not_isDigit_of_mark {c : Char} (h : c = 'e' ∨ c = 'E') : Text.isDigit c = false := by
  rcases h with rfl | rfl <;> decide

theorem ne_sign_of_isDigit {c : Char} (h : Text.isDigit c = true) : c ≠ '-' ∧ c ≠ '+' := by
  constructor <;> (rintro rfl; cases h)

theorem ne_sign_of_digits (h : ∀ c ∈ cs, Text.isDigit c = true) :
    ∀ c ∈ cs.head?, c ≠ '-' ∧ c ≠ '+' :=
  fun c hc => ne_sign_of_isDigit (h c (List.mem_of_mem_head? hc))

/-! ## Exponents -/

theorem exponent?_chars {power : Option Power} (h : ∀ p ∈ power, p.Over Text.isDigit) :
    exponent? (power.elim [] Power.chars) = some (power.elim 0 Power.exponent) := by
  cases power with
  | none => rfl
  | some p =>
    obtain ⟨hmark, hdigits, hne⟩ := h p rfl
    show exponent? (p.mark :: (p.sign.chars ++ p.digits)) = some p.exponent
    have hvalues : values p.digits ≠ [] := by
      rw [← List.length_pos_iff, length_values hdigits]
      exact List.length_pos_iff.mpr hne
    rw [exponent?, if_pos hmark, sign_append _ (ne_sign_of_digits hdigits)]
    dsimp only
    rw [digits_all hdigits, Power.exponent]
    split
    · next heq => exact absurd (congrArg Prod.fst heq) hvalues
    · next heq => cases congrArg Prod.snd heq
    · next heq =>
      cases heq
      rfl

theorem exists_power_of_exponent? {e : Int} (h : exponent? cs = some e) :
    ∃ power : Option Power, (∀ p ∈ power, p.Over Text.isDigit) ∧
      power.elim [] Power.chars = cs := by
  cases cs with
  | nil => exact ⟨none, nofun, rfl⟩
  | cons c rest =>
    rw [exponent?] at h
    split at h
    · next hmark =>
      obtain ⟨s, body, hrest, hsign⟩ := exists_sign rest
      obtain ⟨ds, tail, hbody, hds, -, hdigits⟩ := exists_digits body
      rw [hsign] at h
      dsimp only at h
      rw [hdigits] at h
      split at h
      · cases h
      · cases h
      · next hne heq =>
        cases heq
        refine ⟨some ⟨c, s, ds⟩, ?_, by rw [hrest, hbody, List.append_nil]; rfl⟩
        intro p hp
        cases hp
        exact ⟨hmark, hds, fun hnil => hne (congrArg values hnil)⟩
    · cases h

/-! ## Decimals -/

theorem exponentPart_head {power : Option Power} (h : ∀ p ∈ power, p.Over Text.isDigit) :
    ∀ c ∈ (power.elim [] Power.chars).head?, Text.isDigit c = false ∧ c ≠ '.' := by
  cases power with
  | none => nofun
  | some p =>
    intro c hc
    cases hc
    have hmark := (h p rfl).mark
    refine ⟨not_isDigit_of_mark hmark, ?_⟩
    rcases hmark with hmark | hmark <;> (rw [hmark]; decide)

theorem Unsigned.Over.rest_head (h : u.Over Text.isDigit) :
    ∀ c ∈ (u.fraction.elim [] ('.' :: ·) ++ u.power.elim [] Power.chars).head?,
      Text.isDigit c = false := by
  cases hf : u.fraction with
  | none => exact fun c hc => (exponentPart_head h.power c hc).1
  | some f =>
    intro c hc
    cases hc
    decide

theorem Unsigned.Over.isEmpty_and (h : u.Over Text.isDigit) :
    (u.whole.isEmpty && (u.fraction.getD []).isEmpty) = false := by
  rw [← Bool.not_eq_true, Bool.and_eq_true, List.isEmpty_iff, List.isEmpty_iff,
    ← List.append_eq_nil_iff]
  exact h.ne_nil

theorem decimal?_chars (h : u.Over Text.isDigit) : decimal? u.chars = some u.decimal := by
  have hne := h.isEmpty_and
  unfold decimal?
  rw [Unsigned.chars, digits_append h.whole h.rest_head]
  dsimp only
  rw [isEmpty_values h.whole]
  cases hf : u.fraction with
  | none =>
    have hpoint := exponentPart_head h.power
    rw [hf, Option.getD_none, List.isEmpty_nil, Bool.and_true] at hne
    rw [Option.elim_none, List.nil_append]
    split
    · next tail heq =>
      rw [heq] at hpoint
      exact absurd rfl (hpoint '.' rfl).2
    · dsimp only
      rw [List.isEmpty_nil, Bool.and_true, hne, exponent?_chars h.power, Unsigned.decimal, hf,
        Option.getD_none, List.append_nil, List.append_nil]
      rfl
  | some f =>
    have hdigits := h.fraction f hf
    rw [hf, Option.getD_some] at hne
    rw [Option.elim_some, List.cons_append]
    split
    · next tail heq =>
      cases heq
      rw [digits_append hdigits fun c hc => (exponentPart_head h.power c hc).1]
      dsimp only
      rw [isEmpty_values hdigits, hne, exponent?_chars h.power, Unsigned.decimal, hf,
        Option.getD_some, values_append, length_values hdigits]
      rfl
    · next hpoint => exact absurd rfl (hpoint _)

theorem exists_unsigned_of_decimal? {d : Decimal} (h : decimal? cs = some d) :
    ∃ u : Unsigned, u.Over Text.isDigit ∧ u.chars = cs := by
  obtain ⟨whole, rest, rfl, hwhole, -, hdigits⟩ := exists_digits cs
  unfold decimal? at h
  rw [hdigits] at h
  dsimp only at h
  rw [isEmpty_values hwhole] at h
  split at h
  · next tail =>
    obtain ⟨fraction, behind, rfl, hfraction, -, hdigits⟩ := exists_digits tail
    rw [hdigits] at h
    dsimp only at h
    rw [isEmpty_values hfraction] at h
    split at h
    · cases h
    next hne =>
    obtain ⟨e, he, -⟩ := Option.bind_eq_some_iff.mp h
    obtain ⟨power, hpower, rfl⟩ := exists_power_of_exponent? he
    refine ⟨⟨whole, some fraction, power⟩, ⟨hwhole, ?_, hpower, fun hnil => hne ?_⟩, rfl⟩
    · intro cs hcs
      cases hcs
      exact hfraction
    · obtain ⟨rfl, rfl⟩ := List.append_eq_nil_iff.mp hnil
      rfl
  · split at h
    · cases h
    next hne =>
    obtain ⟨e, he, -⟩ := Option.bind_eq_some_iff.mp h
    obtain ⟨power, hpower, rfl⟩ := exists_power_of_exponent? he
    refine ⟨⟨whole, none, power⟩, ⟨hwhole, nofun, hpower, fun hnil => hne ?_⟩, rfl⟩
    obtain ⟨rfl, -⟩ := List.append_eq_nil_iff.mp hnil
    rfl

/-! ## Numerals with a sign -/

theorem Unsigned.Over.head (h : u.Over Text.isDigit) : ∀ c ∈ u.chars.head?, c ≠ '-' ∧ c ≠ '+' := by
  intro c hc
  cases hw : u.whole with
  | cons d rest =>
    rw [chars, hw] at hc
    cases hc
    exact ne_sign_of_isDigit (h.whole c (hw ▸ List.mem_cons_self))
  | nil =>
    cases hf : u.fraction with
    | none => exact absurd (by rw [hw, hf]; rfl) h.ne_nil
    | some f =>
      rw [chars, hw, hf] at hc
      cases hc
      decide

theorem float?_chars (h : l.Over Text.isDigit) : float? l.chars = some l.float := by
  unfold float?
  rw [Literal.chars, sign_append _ h.head]
  dsimp only
  rw [decimal?_chars h]
  rfl

theorem exists_literal_of_float? {x : Binary64} (h : float? cs = some x) :
    ∃ l : Literal, l.Over Text.isDigit ∧ l.chars = cs := by
  obtain ⟨s, body, rfl, hsign⟩ := exists_sign cs
  unfold float? at h
  rw [hsign] at h
  obtain ⟨d, hd, -⟩ := Option.map_eq_some_iff.mp h
  obtain ⟨u, hu, rfl⟩ := exists_unsigned_of_decimal? hd
  exact ⟨⟨u, s⟩, hu, rfl⟩

theorem Unsigned.rest_eq_nil_iff (u : Unsigned) :
    u.fraction.elim [] ('.' :: ·) ++ u.power.elim [] Power.chars = [] ↔ u.IsWhole := by
  obtain ⟨whole, fraction, power⟩ := u
  cases fraction <;> cases power <;> simp [IsWhole, Power.chars]

/-- A numeral is read as an integer just where it is whole and not too long. -/
theorem int?_chars (h : l.Over Text.isDigit) : int? l.chars =
    if l.IsWhole ∧ l.whole.length ≤ DigitLimit.most then some l.integer else none := by
  unfold int?
  rw [Literal.chars, sign_append _ h.head]
  dsimp only
  rw [Unsigned.chars, digits_append h.whole h.rest_head]
  by_cases hwhole : l.IsWhole
  · have hne : values l.whole ≠ [] := by
      rw [← List.isEmpty_eq_false_iff, isEmpty_values h.whole, List.isEmpty_eq_false_iff]
      simpa [hwhole.1] using h.ne_nil
    rw [l.rest_eq_nil_iff.mpr hwhole]
    split
    · next heq => exact absurd (congrArg Prod.fst heq) hne
    · next heq => cases congrArg Prod.snd heq
    · next heq =>
      cases heq
      rw [length_values h.whole]
      by_cases hshort : l.whole.length ≤ DigitLimit.most
      · have hboth : l.IsWhole ∧ l.whole.length ≤ DigitLimit.most := ⟨hwhole, hshort⟩
        rw [if_neg (Nat.not_lt_of_le hshort), if_pos hboth]
        rfl
      · rw [if_pos (Nat.lt_of_not_le hshort), if_neg fun h => hshort h.2]
  · rw [if_neg fun hshort => hwhole hshort.1]
    split
    · rfl
    · rfl
    · next heq => exact absurd (l.rest_eq_nil_iff.mp (congrArg Prod.snd heq)) hwhole

theorem exists_literal_of_int? {n : Int} (h : int? cs = some n) :
    ∃ l : Literal, l.Over Text.isDigit ∧ l.chars = cs := by
  obtain ⟨s, body, rfl, hsign⟩ := exists_sign cs
  obtain ⟨whole, rest, rfl, hwhole, -, hdigits⟩ := exists_digits body
  unfold int? at h
  rw [hsign] at h
  dsimp only at h
  rw [hdigits] at h
  split at h
  · cases h
  · cases h
  · next hne heq =>
    cases heq
    refine ⟨⟨⟨whole, none, none⟩, s⟩, ⟨hwhole, nofun, nofun, fun hnil => hne ?_⟩, rfl⟩
    obtain ⟨rfl, -⟩ := List.append_eq_nil_iff.mp hnil
    rfl

end Numeral

end EventChain
