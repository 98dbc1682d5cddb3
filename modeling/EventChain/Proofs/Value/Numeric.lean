import EventChain.Proofs.Number.Literal

/-!
# Texts that count as numbers

Which texts count as numbers (`Number.ofText?_eq_some_iff`), beside the grammar of standard
numerals: nothing, a decimal numeral in ASCII digits whose float is finite, or digits of base 16, 8
or 2 behind their mark. The two agree on ordinary texts (`Value.toNumber_text_standard`). Of the
others, texts with a mark of a base count as no number, digits of other scripts count as those of
ASCII, and an integer too large for a float counts as itself (`Value.standard_otherwise`).
-/

namespace EventChain

namespace Numeral

/-! ## Grammars -/

/-- The number that a text without blanks at its ends counts as. -/
inductive Reads : List Char → Number → Prop
  | blank : Reads [] (.int 0)
  | whole {l : Literal} : l.Over Text.isDigit → l.IsWhole ∧ l.whole.length ≤ DigitLimit.most →
      Reads l.chars (.int l.integer)
  | decimal {l : Literal} : l.Over Text.isDigit →
      ¬ (l.IsWhole ∧ l.whole.length ≤ DigitLimit.most) → l.decimal.value < Magnitude.bound →
      Reads l.chars (.float l.float)

/-- The base that a mark behind a zero announces. -/
def base? : Char → Option Nat
  | 'x' | 'X' => some 16
  | 'o' | 'O' => some 8
  | 'b' | 'B' => some 2
  | _ => none

inductive Marked : List Char → Prop
  | intro {mark : Char} {base : Nat} {digits : List Char} : base? mark = some base → digits ≠ [] →
      (∀ c ∈ digits, ∃ d, Text.hexDigit? c = some d ∧ d < base) → Marked ('0' :: mark :: digits)

/-- The standard grammar of numerals in text without blanks at its ends. -/
inductive Standard : List Char → Prop
  | blank : Standard []
  | decimal {l : Literal} : l.Over Char.isDigit → l.decimal.value < Magnitude.bound →
      Standard l.chars
  | marked {cs : List Char} : Marked cs → Standard cs

/-- A text in which no digits but those of ASCII occur, none in another base, and no integer that is
too large for a float, unless it has more digits than an integer may have. -/
structure Ordinary (cs : List Char) : Prop where
  unmarked : ¬ Marked cs
  ascii : ∀ c ∈ cs, Text.isDigit c = true → c.isDigit = true
  small : ∀ l : Literal, l.Over Text.isDigit → l.chars = cs →
    l.IsWhole ∧ l.whole.length ≤ DigitLimit.most → l.decimal.value < Magnitude.bound

variable {cs : List Char} {l : Literal} {n : Number}

/-! ## Characters of numerals -/

theorem digit?_of_ascii {c : Char} (h : c.isDigit = true) :
    Text.digit? c = some (c.toNat - 48) := by
  rw [Char.isDigit, Bool.and_eq_true, decide_eq_true_iff, decide_eq_true_iff] at h
  have hlower : '0' ≤ c := h.1
  have hupper : c ≤ '9' := h.2
  have hsmall : c.toNat < 128 := Nat.lt_of_le_of_lt (show c.toNat ≤ 57 from hupper) (by decide)
  rw [Text.digit?, if_pos hsmall, if_pos ⟨hlower, hupper⟩]

theorem isDigit_of_ascii {c : Char} (h : c.isDigit = true) : Text.isDigit c = true := by
  rw [Text.isDigit, digit?_of_ascii h]
  rfl

theorem Unsigned.Over.mono {isDigit isDigit' : Char → Bool} {u : Unsigned} (h : u.Over isDigit)
    (hmono : ∀ c ∈ u.chars, isDigit c = true → isDigit' c = true) : u.Over isDigit' where
  whole c hc := hmono c (List.mem_append_left _ hc) (h.whole c hc)
  fraction f hf c hc := by
    refine hmono c (List.mem_append_right _ (List.mem_append_left _ ?_)) (h.fraction f hf c hc)
    rw [Option.mem_def.mp hf]
    exact List.mem_cons_of_mem _ hc
  power p hp := by
    refine ⟨(h.power p hp).mark, fun c hc => ?_, (h.power p hp).ne_nil⟩
    refine hmono c (List.mem_append_right _ (List.mem_append_right _ ?_))
      ((h.power p hp).digits c hc)
    rw [Option.mem_def.mp hp]
    exact List.mem_cons_of_mem _ (List.mem_append_right _ hc)
  ne_nil := h.ne_nil

theorem Literal.mem_chars {isDigit : Char → Bool} {c : Char} (h : l.Over isDigit)
    (hc : c ∈ l.chars) : isDigit c = true ∨ c ∈ ['-', '+', '.', 'e', 'E'] := by
  have hsign {s : Sign} (hc : c ∈ s.chars) : c ∈ ['-', '+', '.', 'e', 'E'] := by
    cases s <;> simp [Sign.chars] at hc <;> simp [hc]
  simp only [chars, Unsigned.chars, List.mem_append] at hc
  rcases hc with hc | hc | hc | hc
  · exact .inr (hsign hc)
  · exact .inl (h.whole c hc)
  · cases hf : l.fraction with
    | none => simp [hf] at hc
    | some f =>
      rw [hf, Option.elim_some] at hc
      rcases List.mem_cons.mp hc with rfl | hc
      · exact .inr (by decide)
      · exact .inl (h.fraction f hf c hc)
  · cases hp : l.power with
    | none => simp [hp] at hc
    | some p =>
      rw [hp, Option.elim_some, Power.chars] at hc
      rcases List.mem_cons.mp hc with rfl | hc
      · rcases (h.power p hp).mark with hmark | hmark <;> simp [hmark]
      · rcases List.mem_append.mp hc with hc | hc
        · exact .inr (hsign hc)
        · exact .inl ((h.power p hp).digits c hc)

theorem Literal.chars_ne_nil (h : l.Over Text.isDigit) : l.chars ≠ [] := by
  intro hnil
  have hread := float?_chars h
  rw [hnil] at hread
  cases hread

theorem Literal.isFinite_float_iff (l : Literal) :
    l.float.isFinite = true ↔ l.decimal.value < Magnitude.bound :=
  Binary64.isFinite_ofDecimal_iff _ _

theorem noPart_underscore : NoPart '_' := by
  constructor <;> decide

end Numeral

open Numeral

/-! ## Reading -/

theorem Number.ofText?_of_ne_nil {s : String} (h : Text.trim s.toList ≠ []) :
    Number.ofText? s = match int? (Text.trim s.toList) with
      | some n => some (.int n)
      | none => (float? (Text.trim s.toList)).bind fun x =>
        if x.isFinite then some (.float x) else none := by
  unfold Number.ofText?
  split
  · next hnil => exact absurd hnil h
  · next hne =>
    split
    · next hmem =>
      have hmem := List.contains_iff_mem.mp hmem
      rw [noPart_underscore.int?_eq_none hmem, noPart_underscore.float?_eq_none hmem]
      rfl
    · cases int? (Text.trim s.toList) with
      | some n => rfl
      | none => cases float? (Text.trim s.toList) <;> rfl

theorem Number.ofText?_of_chars {s : String} {l : Literal} (h : l.Over Text.isDigit)
    (hs : Text.trim s.toList = l.chars) : Number.ofText? s =
      if l.IsWhole ∧ l.whole.length ≤ DigitLimit.most then some (.int l.integer)
      else if l.float.isFinite then some (.float l.float) else none := by
  rw [Number.ofText?_of_ne_nil (hs ▸ Literal.chars_ne_nil h), hs, int?_chars h, float?_chars h]
  split
  · next hint =>
    split at hint
    · next hwhole =>
      cases hint
      rw [if_pos hwhole]
    · cases hint
  · next hint =>
    split at hint
    · cases hint
    · next hwhole =>
      rw [if_neg hwhole]
      rfl

theorem Number.exists_literal_of_ofText? {s : String} {n : Number} (h : Number.ofText? s = some n)
    (hne : Text.trim s.toList ≠ []) :
    ∃ l : Literal, l.Over Text.isDigit ∧ Text.trim s.toList = l.chars := by
  rw [Number.ofText?_of_ne_nil hne] at h
  cases hint : int? (Text.trim s.toList) with
  | some k =>
    obtain ⟨l, hl, hchars⟩ := exists_literal_of_int? hint
    exact ⟨l, hl, hchars.symm⟩
  | none =>
    rw [hint] at h
    obtain ⟨x, hx, -⟩ := Option.bind_eq_some_iff.mp h
    obtain ⟨l, hl, hchars⟩ := exists_literal_of_float? hx
    exact ⟨l, hl, hchars.symm⟩

/-- A text counts as the number that the grammar says, blanks at its ends apart. -/
theorem Number.ofText?_eq_some_iff {s : String} {n : Number} :
    Number.ofText? s = some n ↔ Reads (Text.trim s.toList) n := by
  constructor
  · intro h
    by_cases hne : Text.trim s.toList = []
    · unfold Number.ofText? at h
      rw [hne] at h
      cases h
      rw [hne]
      exact .blank
    · obtain ⟨l, hl, hchars⟩ := Number.exists_literal_of_ofText? h hne
      rw [Number.ofText?_of_chars hl hchars] at h
      rw [hchars]
      split at h
      · next hwhole =>
        cases h
        exact .whole hl hwhole
      next hwhole =>
      split at h
      · next hfinite =>
        cases h
        exact .decimal hl hwhole (l.isFinite_float_iff.mp hfinite)
      · cases h
  · intro h
    generalize ht : Text.trim s.toList = t at h
    cases h with
    | blank =>
      unfold Number.ofText?
      rw [ht]
    | whole hl hwhole => rw [Number.ofText?_of_chars hl ht, if_pos hwhole]
    | @decimal l hl hwhole hsmall =>
      rw [Number.ofText?_of_chars hl ht, if_neg hwhole, if_pos (l.isFinite_float_iff.mpr hsmall)]

namespace Numeral

/-- Ordinary text counts as a number exactly where it is a standard numeral. -/
theorem Ordinary.exists_reads_iff {cs : List Char} (h : Ordinary cs) :
    (∃ n, Reads cs n) ↔ Standard cs := by
  constructor
  · rintro ⟨n, hread⟩
    cases hread with
    | blank => exact .blank
    | @whole l hl hwhole =>
      refine .decimal (hl.mono fun c hc => ?_) (h.small l hl rfl hwhole)
      exact h.ascii c (List.mem_append_right _ hc)
    | decimal hl hwhole hsmall =>
      refine .decimal (hl.mono fun c hc => ?_) hsmall
      exact h.ascii c (List.mem_append_right _ hc)
  · intro hstandard
    cases hstandard with
    | blank => exact ⟨_, .blank⟩
    | @decimal l hl hsmall =>
      have hl : l.Over Text.isDigit := hl.mono fun c _ => isDigit_of_ascii
      by_cases hwhole : l.IsWhole ∧ l.whole.length ≤ DigitLimit.most
      · exact ⟨_, .whole hl hwhole⟩
      · exact ⟨_, .decimal hl hwhole hsmall⟩
    | marked hmarked => exact absurd hmarked h.unmarked

end Numeral

namespace Value

/-- A text counts as the number that `Reads` says, blanks at its ends apart. Ordinary text counts as
a number exactly where it is a standard numeral, and text with a character that is in no numeral
never does. -/
theorem toNumber_text_standard (s : String) :
    ∃ answer, (text s).toNumber = .ok answer ∧
      (∀ n, answer = some n ↔ Reads (Text.trim s.toList) n) ∧
      (Ordinary (Text.trim s.toList) → (answer ≠ none ↔ Standard (Text.trim s.toList))) ∧
      ((∃ c ∈ Text.trim s.toList, NoPart c) → answer = none) := by
  refine ⟨Number.ofText? s, rfl, fun n => Number.ofText?_eq_some_iff, fun hordinary => ?_, ?_⟩
  · rw [← hordinary.exists_reads_iff, Option.ne_none_iff_exists']
    exact exists_congr fun n => Number.ofText?_eq_some_iff
  · rintro ⟨c, hmem, hc⟩
    by_contra hsome
    obtain ⟨n, hn⟩ := Option.ne_none_iff_exists'.mp hsome
    have hne : Text.trim s.toList ≠ [] := List.ne_nil_of_mem hmem
    obtain ⟨l, hl, hchars⟩ := Number.exists_literal_of_ofText? hn hne
    have hread := float?_chars hl
    rw [← hchars, hc.float?_eq_none hmem] at hread
    cases hread

/-- A numeral with all its parts, and blanks around it. -/
theorem toNumber_text_standard_signed :
    let cs : List Char := ['-', '1', '.', '5', 'e', '3']
    let n : Number := .float (.ofDecimal true ⟨15, 2⟩)
    Text.trim " -1.5e3\n".toList = cs ∧ Ordinary cs ∧ Reads cs n ∧ Standard cs ∧
      (text " -1.5e3\n").toNumber = .ok (some n) ∧
      '_' ∈ Text.trim "1_0".toList ∧ NoPart '_' ∧ (text "1_0").toNumber = .ok none := by
  intro cs n
  have hread : float? cs = some (.ofDecimal true ⟨15, 2⟩) := by rfl
  have hunmarked : ¬ Marked ['-', '1', '.', '5', 'e', '3'] := nofun
  have hall : cs.all (fun c => !Text.isDigit c || c.isDigit) = true := by decide
  have hascii (c : Char) (hc : c ∈ cs) (hdigit : Text.isDigit c = true) : c.isDigit = true := by
    simpa [hdigit] using List.all_eq_true.mp hall c hc
  have hordinary : Ordinary cs := by
    refine ⟨hunmarked, hascii, fun l hl hchars _ => l.isFinite_float_iff.mp ?_⟩
    have hfloat := float?_chars hl
    rw [hchars, hread, Option.some.injEq] at hfloat
    rw [← hfloat]
    decide
  have hreads : Reads cs n := by
    let l : Literal := ⟨⟨['1'], some ['5'], some ⟨'e', .none, ['3']⟩⟩, .minus⟩
    have hl : l.Over Text.isDigit := by
      have hdigit (c : Char) (hc : Text.isDigit c = true) : ∀ d ∈ [c], Text.isDigit d = true :=
        List.forall_mem_singleton.mpr hc
      refine ⟨hdigit '1' rfl, ?_, ?_, List.cons_ne_nil _ _⟩
      · rintro f ⟨⟩
        exact hdigit '5' rfl
      · rintro p ⟨⟩
        exact ⟨.inl rfl, hdigit '3' rfl, List.cons_ne_nil _ _⟩
    exact .decimal hl (by decide) (l.isFinite_float_iff.mp (by decide))
  have htrim : Text.trim " -1.5e3\n".toList = cs := by decide
  obtain ⟨answer, hanswer, hexact, hstandard, -⟩ := toNumber_text_standard " -1.5e3\n"
  rw [htrim] at hexact hstandard
  obtain rfl : answer = some n := (hexact n).mpr hreads
  have hunderscore : '_' ∈ Text.trim "1_0".toList := by decide
  obtain ⟨refused, hrefused, -, -, hpart⟩ := toNumber_text_standard "1_0"
  obtain rfl := hpart ⟨_, hunderscore, noPart_underscore⟩
  exact ⟨htrim, hordinary, hreads, (hstandard hordinary).mp nofun, hanswer, hunderscore,
    noPart_underscore, hrefused⟩

/-- Hexadecimal digits count as no number, digits of another script as those of ASCII, and an
integer beyond the largest float as itself. -/
theorem standard_otherwise :
    (Standard "0x10".toList ∧ (text "0x10").toNumber = .ok none) ∧
      (¬ Standard "١٢".toList ∧ (text "١٢").toNumber = .ok (some (.int 12))) ∧
      let cs := '1' :: List.replicate 309 '0'
      ¬ Standard cs ∧ (text (String.ofList cs)).toNumber = .ok (some (.int (10 ^ 309))) := by
  refine ⟨⟨?_, rfl⟩, ⟨?_, rfl⟩, ?_⟩
  · have hbase : base? 'x' = some 16 := rfl
    rw [show "0x10".toList = ['0', 'x', '1', '0'] from rfl]
    refine .marked (.intro hbase (List.cons_ne_nil _ _) ?_)
    rw [List.forall_mem_cons, List.forall_mem_singleton]
    exact ⟨⟨1, rfl, by decide⟩, ⟨0, rfl, by decide⟩⟩
  · intro h
    generalize hcs : "١٢".toList = cs at h
    cases h with
    | blank => cases hcs
    | decimal hl =>
      have hmem : '١' ∈ "١٢".toList := by decide
      rcases Literal.mem_chars hl (hcs ▸ hmem) with hdigit | hpart
      · cases hdigit
      · exact absurd hpart (by decide)
    | marked hmarked =>
      cases hmarked
      cases hcs
  · intro cs
    let l : Literal := ⟨⟨cs, none, none⟩, .none⟩
    have hhead : cs.head? = some '1' := rfl
    have hdigits : cs.all Text.isDigit = true := by decide +kernel
    have hl : l.Over Text.isDigit :=
      ⟨List.all_eq_true.mp hdigits, nofun, nofun, List.cons_ne_nil _ _⟩
    have hchars : l.chars = cs := List.append_nil cs
    have hvalue : Decimal.ofDigits (values cs) = 10 ^ 309 := by decide +kernel
    have hlarge : ¬ l.float.isFinite = true := by decide +kernel
    constructor
    · intro h
      generalize hcs : cs = cs' at h hhead
      cases h with
      | blank => cases hhead
      | @decimal l' hl' hsmall =>
        have hfloat := float?_chars (hl'.mono fun c _ => isDigit_of_ascii)
        rw [← hcs, ← hchars, float?_chars hl, Option.some.injEq] at hfloat
        rw [← l'.isFinite_float_iff, ← hfloat] at hsmall
        exact hlarge hsmall
      | marked hmarked =>
        cases hmarked
        cases hhead
    · have htrim : Text.trim (String.ofList cs).toList = l.chars := by
        rw [String.toList_ofList, hchars]
        decide +kernel
      have hshort : l.IsWhole ∧ l.whole.length ≤ DigitLimit.most := ⟨⟨rfl, rfl⟩, by decide +kernel⟩
      have hinteger : l.integer = ((10 ^ 309 : Nat) : Int) := congrArg Nat.cast hvalue
      show Except.ok (Number.ofText? (String.ofList cs)) = _
      rw [Number.ofText?_of_chars hl htrim, if_pos hshort, hinteger, Nat.cast_pow]
      rfl

end Value

end EventChain
