import EventChain.Proofs.Text.Blank
import EventChain.Proofs.Value.Coercion

/-!
# Values that are not writable

An integer of too many digits keeps the value it is in from being shown (`display_of_not_writable`).
In an array it may lie inside an object, whose text shows no entry; such an array has a text, but
one with a bracket, and no numeral has a bracket in it (`Number.ofText?_eq_none`). So a value other
than a number counts as none, or the coercion fails (`toNumber_of_not_writable`).
-/

namespace EventChain

/-! ## Characters of numerals -/

namespace Numeral

/-- A character that is in no numeral. -/
structure NoPart (c : Char) : Prop where
  digit : Text.digit? c = none
  sign : c ≠ '-' ∧ c ≠ '+'
  point : c ≠ '.'
  exponent : c ≠ 'e' ∧ c ≠ 'E'

variable {c : Char} {cs : List Char}

theorem NoPart.mem_digits (hc : NoPart c) (h : c ∈ cs) : c ∈ (digits cs).2 := by
  induction cs with
  | nil => cases h
  | cons d rest ih =>
    unfold digits
    cases hd : Text.digit? d with
    | none => exact h
    | some value =>
      rcases List.mem_cons.mp h with rfl | h
      · cases hd.symm.trans hc.digit
      · exact ih h

theorem NoPart.mem_sign (hc : NoPart c) (h : c ∈ cs) : c ∈ (Numeral.sign cs).2 := by
  unfold Numeral.sign
  split
  · exact (List.mem_cons.mp h).resolve_left hc.sign.1
  · exact (List.mem_cons.mp h).resolve_left hc.sign.2
  · exact h

/-- A numeral ends with its digits. -/
theorem NoPart.digits_ne (hc : NoPart c) (h : c ∈ cs) (ds : List Nat) : digits cs ≠ (ds, []) := by
  intro hdigits
  have hmem := hc.mem_digits h
  rw [hdigits] at hmem
  cases hmem

theorem NoPart.int?_eq_none (hc : NoPart c) (h : c ∈ cs) : int? cs = none := by
  have hmem := hc.mem_sign h
  unfold int?
  generalize Numeral.sign cs = signed at hmem
  obtain ⟨negative, body⟩ := signed
  dsimp only
  split
  · rfl
  · rfl
  · next ds _ heq => exact absurd heq (hc.digits_ne hmem ds)

theorem NoPart.exponent?_eq_none (hc : NoPart c) (h : c ∈ cs) : exponent? cs = none := by
  cases cs with
  | nil => cases h
  | cons d rest =>
    rw [exponent?]
    split
    · next hletter =>
      have hrest : c ∈ rest := by
        rcases List.mem_cons.mp h with rfl | h
        · exact absurd hletter (not_or.mpr hc.exponent)
        · exact h
      have hmem := hc.mem_sign hrest
      generalize Numeral.sign rest = signed at hmem
      obtain ⟨negative, body⟩ := signed
      dsimp only
      split
      · rfl
      · rfl
      · next ds _ heq => exact absurd heq (hc.digits_ne hmem ds)
    · rfl

theorem NoPart.decimal?_eq_none (hc : NoPart c) (h : c ∈ cs) : decimal? cs = none := by
  have hmem := hc.mem_digits h
  unfold decimal?
  generalize digits cs = parts at hmem
  obtain ⟨whole, rest⟩ := parts
  dsimp only
  split
  · next tail =>
    have hrest := hc.mem_digits ((List.mem_cons.mp hmem).resolve_left hc.point)
    rw [hc.exponent?_eq_none hrest]
    exact ite_self none
  · rw [hc.exponent?_eq_none hmem]
    exact ite_self none

theorem NoPart.float?_eq_none (hc : NoPart c) (h : c ∈ cs) : float? cs = none := by
  have hmem := hc.mem_sign h
  unfold float?
  generalize Numeral.sign cs = signed at hmem
  obtain ⟨negative, body⟩ := signed
  dsimp only
  rw [hc.decimal?_eq_none hmem]
  rfl

theorem noPart_bracket : NoPart '[' := by
  constructor <;> decide

end Numeral

theorem Number.ofText?_eq_none {c : Char} {s : String} (hc : Numeral.NoPart c)
    (hblank : Text.isBlank c = false) (h : c ∈ s.toList) : Number.ofText? s = none := by
  have hmem := Text.mem_trim hblank h
  unfold Number.ofText?
  split
  · next hnil =>
    rw [hnil] at hmem
    cases hmem
  · rw [hc.int?_eq_none hmem, hc.float?_eq_none hmem]
    split <;> rfl

namespace Value

/-! ## Texts of values -/

theorem intText_of_not_writable {n : Int} (h : ¬ (Number.int n).Writable) :
    Number.intText n = .error .writing := by
  unfold Number.intText
  dsimp only
  split
  · rfl
  · next hlen =>
    exact absurd (Number.intText_eq_ok_iff.mp
      ⟨_, by rw [Number.intText, if_neg hlen]; rfl⟩) h

mutual

theorem display_of_not_writable {v : Value} (h : ¬ v.Writable) : v.display = .error .writing := by
  cases v with
  | number n =>
    cases n with
    | int n => exact intText_of_not_writable h
    | float x => exact absurd trivial h
  | array items =>
    rw [display, displayItems_of_not_writable h]
    rfl
  | object entries =>
    rw [display, displayEntries_of_not_writable h]
    rfl
  | _ => exact absurd trivial h

theorem displayItems_of_not_writable {items : List Value} (h : ¬ AllWritable items) :
    displayItems items = .error .writing := by
  cases items with
  | nil => exact absurd trivial h
  | cons v rest =>
    by_cases hv : v.Writable
    · obtain ⟨text, ht⟩ := hv.display
      rw [displayItems, ht, displayItems_of_not_writable fun hrest => h ⟨hv, hrest⟩]
      rfl
    · rw [displayItems, display_of_not_writable hv]
      rfl

theorem displayEntries_of_not_writable {entries : List (String × Value)}
    (h : ¬ EntriesWritable entries) : displayEntries entries = .error .writing := by
  cases entries with
  | nil => exact absurd trivial h
  | cons entry rest =>
    obtain ⟨key, v⟩ := entry
    by_cases hv : v.Writable
    · obtain ⟨text, ht⟩ := hv.display
      rw [displayEntries, ht, displayEntries_of_not_writable fun hrest => h ⟨hv, hrest⟩]
      rfl
    · rw [displayEntries, display_of_not_writable hv]
      rfl

end

def Bracketed (s : String) : Prop := '[' ∈ s.toList

theorem mem_intercalate {c : Char} {separator t : List Char} {ts : List (List Char)} (ht : t ∈ ts)
    (hc : c ∈ t) : c ∈ separator.intercalate ts := by
  induction ts with
  | nil => cases ht
  | cons first rest ih =>
    cases rest with
    | nil =>
      obtain rfl := List.mem_singleton.mp ht
      simpa using hc
    | cons second rest =>
      rw [List.intercalate_cons_cons]
      rcases List.mem_cons.mp ht with rfl | ht
      · simp [hc]
      · exact List.mem_append_right _ (ih ht)

theorem Bracketed.intercalate {s : String} {texts : List String} (h : Bracketed s)
    (hs : s ∈ texts) : Bracketed (",".intercalate texts) := by
  rw [Bracketed, String.toList_intercalate]
  exact mem_intercalate (List.mem_map_of_mem hs) h

/-- The text of a value that is neither null nor writable comes before the texts of the items that
follow. -/
theorem itemTexts_cons {v : Value} (h : v ≠ .null) (rest : List Value) :
    itemTexts (v :: rest) = (do
      let shown ← v.toText
      let others ← itemTexts rest
      pure (shown :: others)) := by
  cases v with
  | null => exact absurd rfl h
  | _ => rfl

mutual

theorem toText_of_not_writable {v : Value} (h : ¬ v.Writable) :
    v.toText = .error .writing ∨ ∃ s, v.toText = .ok s ∧ Bracketed s := by
  cases v with
  | number n =>
    cases n with
    | int n => exact .inl (intText_of_not_writable h)
    | float x => exact absurd trivial h
  | array items =>
    rw [toText]
    rcases itemTexts_of_not_writable h with herror | ⟨texts, htexts, s, hs, hbracket⟩
    · exact .inl (by rw [herror]; rfl)
    · exact .inr ⟨_, by rw [htexts]; rfl, hbracket.intercalate hs⟩
  | object entries =>
    -- The entries are not shown, so whichever of them is not writable, there is a text.
    exact .inr ⟨_, rfl, List.mem_cons_self⟩
  | _ => exact absurd trivial h

theorem itemTexts_of_not_writable {items : List Value} (h : ¬ AllWritable items) :
    itemTexts items = .error .writing ∨
      ∃ texts, itemTexts items = .ok texts ∧ ∃ s ∈ texts, Bracketed s := by
  cases items with
  | nil => exact absurd trivial h
  | cons v rest =>
    by_cases hnull : v = .null
    · subst hnull
      have hrest : ¬ AllWritable rest := fun hrest => h ⟨trivial, hrest⟩
      rw [itemTexts]
      rcases itemTexts_of_not_writable hrest with herror | ⟨texts, htexts, s, hs, hbracket⟩
      · exact .inl (by rw [herror]; rfl)
      · exact .inr ⟨_, by rw [htexts]; rfl, s, List.mem_cons_of_mem _ hs, hbracket⟩
    rw [itemTexts_cons hnull]
    by_cases hv : v.Writable
    · obtain ⟨text, ht⟩ := hv.toText
      rw [ht]
      rcases itemTexts_of_not_writable fun hrest => h ⟨hv, hrest⟩ with
        herror | ⟨texts, htexts, s, hs, hbracket⟩
      · exact .inl (by rw [herror]; rfl)
      · exact .inr ⟨_, by rw [htexts]; rfl, s, List.mem_cons_of_mem _ hs, hbracket⟩
    rcases toText_of_not_writable hv with herror | ⟨s, hs, hbracket⟩
    · exact .inl (by rw [herror]; rfl)
    rw [hs]
    by_cases hrest : AllWritable rest
    · -- The first item has brought its bracket; the others only have to have texts.
      obtain ⟨texts, htexts⟩ := hrest.itemTexts
      exact .inr ⟨_, by rw [htexts]; rfl, s, List.mem_cons_self, hbracket⟩
    · rcases itemTexts_of_not_writable hrest with herror | ⟨texts, htexts, -⟩
      · exact .inl (by rw [herror]; rfl)
      · exact .inr ⟨_, by rw [htexts]; rfl, s, List.mem_cons_self, hbracket⟩

end

/-- A value that is not writable and no number counts as no number, if it can be coerced at all. -/
theorem toNumber_of_not_writable {v : Value} (h : ¬ v.Writable) (hkind : v.kind ≠ .number) :
    v.toNumber = .error .writing ∨ v.toNumber = .ok none := by
  cases v with
  | number n => exact absurd rfl hkind
  | array items =>
    rw [toNumber]
    rcases toText_of_not_writable h with herror | ⟨s, hs, hbracket⟩
    · exact .inl (by rw [herror]; rfl)
    · rw [hs]
      exact .inr (congrArg Except.ok
        (Number.ofText?_eq_none Numeral.noPart_bracket (by decide) hbracket))
  | object entries => exact .inr rfl
  | _ => exact absurd trivial h

end Value

end EventChain
