import EventChain.Json.Reader
import EventChain.Json.Writer
import Mathlib.Data.List.Chain
import Mathlib.Tactic.IntervalCases

/-!
# Strings of JSON text

A string is read as it was written (`stringFrom_writeChars`), unless a half of a surrogate pair that
opens one stands right before a half that closes one: read back, the two are one character.
-/

namespace EventChain.Json

/-- Two halves that are read as one character. -/
def Joined (a b : Char) : Prop :=
  ∃ high low, Text.loneHalf? a = some high ∧ Text.loneHalf? b = some low ∧
    isHighHalf high = true ∧ isLowHalf low = true

instance (a b : Char) : Decidable (Joined a b) :=
  decidable_of_iff
    ((Text.loneHalf? a).any isHighHalf = true ∧ (Text.loneHalf? b).any isLowHalf = true) <| by
      unfold Joined
      cases Text.loneHalf? a <;> cases Text.loneHalf? b <;> simp

def Unpaired (cs : List Char) : Prop := cs.IsChain fun a b => ¬ Joined a b

instance (cs : List Char) : Decidable (Unpaired cs) :=
  inferInstanceAs (Decidable (cs.IsChain fun a b => ¬ Joined a b))

/-! ## Escapes -/

theorem hexDigit?_digitChar : ∀ d : Fin 16, Text.hexDigit? (Nat.digitChar d) = some d.val := by
  decide

theorem toList_hex_succ {width n : Nat} (hw : 0 < width) :
    (Text.hex (width + 1) n).toList =
      (Text.hex width (n / 16)).toList ++ [(n % 16).digitChar] := by
  unfold Text.hex
  simp only [String.toList_ofList]
  by_cases hn : n < 16
  · obtain ⟨w, rfl⟩ : ∃ w, width = w + 1 := ⟨width - 1, by omega⟩
    rw [Nat.toDigits_of_lt_base hn, Nat.div_eq_of_lt hn, Nat.toDigits_zero, Nat.mod_eq_of_lt hn]
    simp [List.replicate_succ']
  · have hdigits : Nat.toDigits 16 n = Nat.toDigits 16 (n / 16) ++ [(n % 16).digitChar] :=
      Nat.toDigits_of_base_le (by decide) (by omega)
    rw [hdigits, List.length_append, List.length_singleton, Nat.add_sub_add_right,
      List.append_assoc]

theorem toList_hex_one {n : Nat} (hn : n < 16) : (Text.hex 1 n).toList = [n.digitChar] := by
  unfold Text.hex
  simp [Nat.toDigits_of_lt_base hn]

theorem hex4?_hex {n : Nat} (hn : n < 0x10000) :
    ∃ w x y z, (Text.hex 4 n).toList = [w, x, y, z] ∧ hex4? w x y z = some n := by
  have hdigit {d : Nat} (hd : d < 16) : Text.hexDigit? d.digitChar = some d :=
    hexDigit?_digitChar ⟨d, hd⟩
  refine ⟨(n / 16 / 16 / 16).digitChar, (n / 16 / 16 % 16).digitChar, (n / 16 % 16).digitChar,
    (n % 16).digitChar, ?_, ?_⟩
  · rw [toList_hex_succ (by decide), toList_hex_succ (by decide), toList_hex_succ (by decide),
      toList_hex_one (by omega)]
    rfl
  · unfold hex4?
    rw [hdigit (by omega), hdigit (by omega), hdigit (by omega), hdigit (by omega)]
    simp only [Option.bind_eq_bind, Option.bind_some, Option.some_inj]
    omega

/-! ## Characters -/

/-- How a character stands in JSON text: itself, a short escape, the escape of its code, or those of
the two halves of its surrogate pair. -/
inductive Written (c : Char) : List Char → Prop where
  | raw (hquote : c ≠ '"') (hslash : c ≠ '\\') (hcontrol : 0x20 ≤ c.toNat) : Written c [c]
  | short {e : Char} (he : escaped? e = some c) : Written c ['\\', e]
  | code {w x y z : Char} (h : hex4? w x y z = some (Text.code c))
      (hc : Text.ofCode (Text.code c) = c) : Written c ['\\', 'u', w, x, y, z]
  | pair {p q r s w x y z : Char} {high low : Nat} (hhigh : hex4? p q r s = some high)
      (hlow : hex4? w x y z = some low) (hopens : isHighHalf high = true)
      (hcloses : isLowHalf low = true)
      (hc : Char.ofNat (0x10000 + (high - 0xD800) * 1024 + (low - 0xDC00)) = c) :
      Written c ['\\', 'u', p, q, r, s, '\\', 'u', w, x, y, z]

theorem written_code {c : Char} (hlt : Text.code c < 0x10000)
    (hc : Text.ofCode (Text.code c) = c) :
    Written c ("\\u" ++ Text.hex 4 (Text.code c)).toList := by
  obtain ⟨w, x, y, z, hdigits, hvalue⟩ := hex4?_hex hlt
  rw [String.toList_append, hdigits]
  exact .code hvalue hc

theorem written_pair {c : Char} (hc : 0x10000 ≤ c.toNat) :
    Written c (surrogates c.toNat).toList := by
  have hmax : c.toNat < 0x110000 := by
    have hvalid := c.valid
    unfold UInt32.isValidChar Nat.isValidChar at hvalid
    have heq : c.toNat = c.val.toNat := rfl
    omega
  obtain ⟨p, q, r, s, hhigh, hopens⟩ :=
    hex4?_hex (n := 0xD800 + (c.toNat - 0x10000) / 1024) (by omega)
  obtain ⟨w, x, y, z, hlow, hcloses⟩ :=
    hex4?_hex (n := 0xDC00 + (c.toNat - 0x10000) % 1024) (by omega)
  unfold surrogates
  simp only [String.toList_append, hhigh, hlow]
  refine .pair hopens hcloses ?_ ?_ ?_
  · unfold isHighHalf
    simp only [Bool.and_eq_true, decide_eq_true_eq]
    omega
  · unfold isLowHalf
    simp only [Bool.and_eq_true, decide_eq_true_eq]
    omega
  · have hcode : 0x10000 + (0xD800 + (c.toNat - 0x10000) / 1024 - 0xD800) * 1024 +
        (0xDC00 + (c.toNat - 0x10000) % 1024 - 0xDC00) = c.toNat := by omega
    rw [hcode, Char.ofNat_toNat]

theorem written_writeChar (c : Char) : Written c (writeChar c).toList := by
  unfold writeChar
  split
  · next h => exact .short (e := '"') (by rw [h]; rfl)
  split
  · next h => exact .short (e := '\\') (by rw [h]; rfl)
  split
  · next h => exact .short (e := 'n') (by rw [h]; rfl)
  split
  · next h => exact .short (e := 'r') (by rw [h]; rfl)
  split
  · next h => exact .short (e := 't') (by rw [h]; rfl)
  split
  · next h => exact .short (e := 'f') (by rw [h]; rfl)
  split
  · next h => exact .short (e := 'b') (by rw [h]; rfl)
  next hquote hslash _ _ _ _ _ =>
  split
  · next h =>
    rw [Char.toString_eq_singleton, String.toList_singleton]
    exact .raw hquote hslash h.1
  split
  · next half hhalf =>
    have hcode : Text.code c = half := by rw [Text.code, hhalf]; rfl
    unfold Text.loneHalf? at hhalf
    obtain ⟨hrange, hhalf⟩ := Option.ite_none_right_eq_some.mp hhalf
    have hback : half + 0x101800 = c.toNat := by
      have hsub := Option.some.inj hhalf
      omega
    rw [← hcode]
    refine written_code (by omega) ?_
    unfold Text.ofCode
    rw [hcode, if_pos (by omega), Text.loneHalf, hback, Char.ofNat_toNat]
  · next hnone =>
    have hcode : Text.code c = c.toNat := by rw [Text.code, hnone]; rfl
    split
    · next hlt =>
      rw [← hcode]
      refine written_code (by omega) ?_
      have hvalid := c.valid
      unfold UInt32.isValidChar Nat.isValidChar at hvalid
      have heq : c.toNat = c.val.toNat := rfl
      unfold Text.ofCode
      rw [hcode, if_neg (by omega), Char.ofNat_toNat]
    · exact written_pair (by omega)

/-! ## Reading -/

section
variable {read tail : List Char} {c : Char}

theorem stringFrom_raw (hquote : c ≠ '"') (hslash : c ≠ '\\') (hcontrol : 0x20 ≤ c.toNat) :
    stringFrom read (c :: tail) = stringFrom (c :: read) tail := by
  rw [stringFrom]
  · rw [if_neg (by omega)]
  all_goals simp [hquote, hslash]

theorem stringFrom_short {e : Char} (he : escaped? e = some c) :
    stringFrom read ('\\' :: e :: tail) = stringFrom (c :: read) tail := by
  have hu : e ≠ 'u' := by
    rintro rfl
    cases he
  rw [stringFrom]
  · rw [he]
  all_goals simp [hu]

/-- The escape of a code stands for the code, unless one that closes its pair follows. -/
theorem stringFrom_code {w x y z : Char} {n : Nat} (hn : hex4? w x y z = some n) (hne : tail ≠ [])
    (hfollowed : isHighHalf n = true → ∀ e f g h more,
      tail = '\\' :: 'u' :: e :: f :: g :: h :: more →
        ∃ low, hex4? e f g h = some low ∧ isLowHalf low = false) :
    stringFrom read ('\\' :: 'u' :: w :: x :: y :: z :: tail) =
      stringFrom (Text.ofCode n :: read) tail := by
  obtain ⟨next, rest, rfl⟩ := List.exists_cons_of_ne_nil hne
  rw [stringFrom]
  rw [hn]
  dsimp only
  split
  · split
    · next hhigh =>
      obtain ⟨low, hlow, hcloses⟩ := hfollowed hhigh _ _ _ _ _ rfl
      rw [hlow]
      dsimp only
      rw [hcloses]
      rfl
    · rfl
  · rfl

theorem stringFrom_pair {p q r s w x y z : Char} {high low : Nat}
    (hhigh : hex4? p q r s = some high) (hlow : hex4? w x y z = some low)
    (hopens : isHighHalf high = true) (hcloses : isLowHalf low = true) (hne : tail ≠ []) :
    stringFrom read ('\\' :: 'u' :: p :: q :: r :: s :: '\\' :: 'u' :: w :: x :: y :: z :: tail) =
      stringFrom (Char.ofNat (0x10000 + (high - 0xD800) * 1024 + (low - 0xDC00)) :: read) tail := by
  obtain ⟨next, rest, rfl⟩ := List.exists_cons_of_ne_nil hne
  rw [stringFrom]
  simp only [hhigh, hlow, hopens, hcloses, if_true]

end

def writtenChars (cs : List Char) : List Char := cs.flatMap fun c => (writeChar c).toList

theorem writtenChars_cons (c : Char) (cs : List Char) :
    writtenChars (c :: cs) = (writeChar c).toList ++ writtenChars cs := List.flatMap_cons

theorem loneHalf?_of_code {c : Char} (h : isHighHalf (Text.code c) = true ∨
    isLowHalf (Text.code c) = true) : Text.loneHalf? c = some (Text.code c) := by
  unfold Text.code at h ⊢
  cases hhalf : Text.loneHalf? c with
  | some half => rfl
  | none =>
    have hvalid := c.valid
    unfold UInt32.isValidChar Nat.isValidChar at hvalid
    have heq : c.toNat = c.val.toNat := rfl
    simp only [hhalf, Option.getD_none, isHighHalf, isLowHalf, Bool.and_eq_true,
      decide_eq_true_eq] at h
    omega

/-- What follows a half that opens a pair in written text does not close it. -/
theorem not_closes {c : Char} {cs rest : List Char} (hcs : Unpaired (c :: cs))
    (hopens : isHighHalf (Text.code c) = true) {e f g h : Char} {more : List Char}
    (hmore : writtenChars cs ++ '"' :: rest = '\\' :: 'u' :: e :: f :: g :: h :: more) :
    ∃ low, hex4? e f g h = some low ∧ isLowHalf low = false := by
  cases cs with
  | nil => cases hmore
  | cons next others =>
    rw [writtenChars_cons] at hmore
    have hwritten := written_writeChar next
    generalize (writeChar next).toList = written at hmore hwritten
    cases hwritten with
    | raw _ hslash _ => exact absurd (List.cons.inj hmore).1 hslash
    | short he =>
      have hu := (List.cons.inj (List.cons.inj hmore).2).1
      rw [hu] at he
      cases he
    | @code w x y z hcode hc =>
      cases hmore
      refine ⟨_, hcode, Bool.eq_false_iff.mpr fun hcloses => ?_⟩
      have hjoined : Joined c next := ⟨_, _, loneHalf?_of_code (.inl hopens),
        loneHalf?_of_code (.inr hcloses), hopens, hcloses⟩
      exact (List.isChain_cons_cons.mp hcs).1 hjoined
    | @pair p q r s w x y z high low hhigh hlow hopens' hcloses hc =>
      cases hmore
      refine ⟨_, hhigh, ?_⟩
      unfold isHighHalf at hopens'
      unfold isLowHalf
      simp only [Bool.and_eq_true, decide_eq_true_eq] at hopens'
      simp only [Bool.and_eq_false_iff, decide_eq_false_iff_not]
      omega

/-- The characters of a text are read as they were written: induction on the text, one character at
a time. -/
theorem stringFrom_writtenChars {cs : List Char} (hcs : Unpaired cs) (read rest : List Char) :
    stringFrom read (writtenChars cs ++ '"' :: rest) = .ok (read.reverse ++ cs, rest) := by
  induction cs generalizing read with
  | nil =>
    rw [List.append_nil]
    show stringFrom read ('"' :: rest) = _
    rw [stringFrom]
    rfl
  | cons c others ih =>
    have hrest : Unpaired others := hcs.tail
    have hread := ih hrest (c :: read)
    rw [List.reverse_cons, List.append_assoc, List.singleton_append] at hread
    have hne : writtenChars others ++ '"' :: rest ≠ [] := by simp
    rw [writtenChars_cons, List.append_assoc, ← hread]
    have hwritten := written_writeChar c
    generalize (writeChar c).toList = written at hwritten
    cases hwritten with
    | raw hquote hslash hcontrol => exact stringFrom_raw hquote hslash hcontrol
    | short he => exact stringFrom_short he
    | code hcode hc =>
      rw [← hc]
      refine (stringFrom_code hcode hne fun hopens e f g h more hmore => ?_).trans (by rw [hc])
      exact not_closes hcs hopens hmore
    | pair hhigh hlow hopens hcloses hc =>
      rw [← hc]
      exact stringFrom_pair hhigh hlow hopens hcloses hne

theorem toList_writeString (s : String) :
    (writeString s).toList = '"' :: (writtenChars s.toList ++ ['"']) := by
  unfold writeString writtenChars
  simp only [String.toList_append, String.toList_join, List.flatMap_map]
  rfl

theorem value_writeString {limit : Option Nat} {s : String} (hs : Unpaired s.toList) (depth : Nat)
    (rest : List Char) :
    value limit (depth + 1) ((writeString s).toList ++ rest) = .ok (.text s, rest) := by
  rw [toList_writeString, List.cons_append, List.append_assoc, List.singleton_append, value,
    stringFrom_writtenChars hs]
  show Except.ok (Value.text (String.ofList s.toList), rest) = _
  rw [String.ofList_toList]

end EventChain.Json
