import EventChain.Text.Blank
import Mathlib.Data.List.TakeWhile

/-!
# Trimmed text

Trimming takes blanks only (`trim_eq_nil_iff`, `mem_trim`), and it takes all those around text that
has none (`trim_append`). Digits are no blanks.
-/

namespace EventChain.Text

variable {c : Char} {cs : List Char}

theorem mem_trim (hc : isBlank c = false) (h : c ∈ cs) : c ∈ trim cs := by
  have hdrop {ds : List Char} (h : c ∈ ds) : c ∈ ds.dropWhile isBlank := by
    rw [← List.takeWhile_append_dropWhile (p := isBlank) (l := ds)] at h
    refine (List.mem_append.mp h).resolve_left fun htake => ?_
    rw [List.mem_takeWhile_imp htake] at hc
    cases hc
  exact List.mem_reverse.mpr (hdrop (List.mem_reverse.mpr (hdrop h)))

theorem trim_eq_nil_iff : trim cs = [] ↔ ∀ c ∈ cs, isBlank c = true := by
  constructor
  · intro h c hc
    by_contra hblank
    have hmem := mem_trim (Bool.not_eq_true _ ▸ hblank) hc
    rw [h] at hmem
    cases hmem
  · intro h
    have hnil : cs.dropWhile isBlank = [] := List.dropWhile_eq_nil_iff.mpr h
    simp [trim, hnil]

theorem dropWhile_isBlank (h : ∀ c ∈ cs.head?, isBlank c = false) :
    cs.dropWhile isBlank = cs := by
  cases cs with
  | nil => rfl
  | cons c tail => exact List.dropWhile_cons_of_neg (by rw [h c rfl]; nofun)

theorem trim_append {before after : List Char} (hbefore : ∀ c ∈ before, isBlank c = true)
    (hcs : ∀ c ∈ cs, isBlank c = false) (hafter : ∀ c ∈ after, isBlank c = true) :
    trim (before ++ cs ++ after) = cs := by
  cases cs with
  | nil =>
    rw [List.append_nil, trim_eq_nil_iff]
    exact List.forall_mem_append.mpr ⟨hbefore, hafter⟩
  | cons c tail =>
    have hfront : ((c :: tail) ++ after).dropWhile isBlank = (c :: tail) ++ after :=
      dropWhile_isBlank fun d hd => hcs d (Option.some.inj hd ▸ List.mem_cons_self)
    have hback : (c :: tail).reverse.dropWhile isBlank = (c :: tail).reverse :=
      dropWhile_isBlank fun d hd => hcs d (List.mem_reverse.mp (List.mem_of_mem_head? hd))
    unfold trim
    rw [List.append_assoc, List.dropWhile_append_of_pos hbefore, hfront, List.reverse_append,
      List.dropWhile_append_of_pos fun d hd => hafter d (List.mem_reverse.mp hd), hback,
      List.reverse_reverse]

theorem trim_eq_self (h : ∀ c ∈ cs, isBlank c = false) : trim cs = cs := by
  have happend : trim ([] ++ cs ++ []) = cs := trim_append nofun h nofun
  rwa [List.nil_append, List.append_nil] at happend

theorem isBlank_of_isDigit (h : c.isDigit = true) : isBlank c = false := by
  have hrange : 48 ≤ c.toNat ∧ c.toNat ≤ 57 := by
    simpa [Char.isDigit, UInt32.le_iff_toNat_le] using h
  simp only [isBlank, Bool.or_eq_false_iff, Bool.and_eq_false_iff, beq_eq_false_iff_ne,
    decide_eq_false_iff_not]
  omega

end EventChain.Text
