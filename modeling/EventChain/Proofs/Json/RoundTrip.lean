import EventChain.Proofs.Failure
import EventChain.Proofs.Json.Number
import EventChain.Proofs.Json.Text

/-!
# JSON text of values

A value that JSON can hold (`Value.IsJson`) is read as it was written (`parseText_write`). Reading
takes less depth than the text has characters, and stops where the text of a value ends.
-/

namespace EventChain

namespace Value

mutual

/-- A value that JSON text stands for. No two halves in a text are read as one character, and no key
of an object is given twice. -/
def IsJson : Value → Prop
  | text s => Json.Unpaired s.toList
  | array items => AllJson items
  | object entries => EntriesJson entries ∧ (entries.map (·.1)).Nodup
  | timestamp _ | bytes _ | foreign _ => False
  | _ => True

def AllJson : List Value → Prop
  | [] => True
  | v :: rest => v.IsJson ∧ AllJson rest

def EntriesJson : List (String × Value) → Prop
  | [] => True
  | (k, v) :: rest => Json.Unpaired k.toList ∧ v.IsJson ∧ EntriesJson rest

end

mutual

def decideIsJson : (v : Value) → Decidable v.IsJson
  | null | boolean _ | number _ => isTrue trivial
  | text s => inferInstanceAs (Decidable (Json.Unpaired s.toList))
  | array items => decideAllJson items
  | object entries => @instDecidableAnd _ _ (decideEntriesJson entries) inferInstance
  | timestamp _ | bytes _ | foreign _ => isFalse id

def decideAllJson : (items : List Value) → Decidable (AllJson items)
  | [] => isTrue trivial
  | v :: rest => @instDecidableAnd _ _ v.decideIsJson (decideAllJson rest)

def decideEntriesJson : (entries : List (String × Value)) → Decidable (EntriesJson entries)
  | [] => isTrue trivial
  | (k, v) :: rest =>
    have := v.decideIsJson
    have := decideEntriesJson rest
    inferInstanceAs (Decidable (Json.Unpaired k.toList ∧ v.IsJson ∧ EntriesJson rest))

end

instance (v : Value) : Decidable v.IsJson := v.decideIsJson

end Value

namespace Record

theorem set_of_not_mem {r : Record} {key : String} (h : key ∉ r.map (·.1)) (v : Value) :
    r.set key v = r ++ [(key, v)] := by
  induction r with
  | nil => rfl
  | cons entry rest ih =>
    obtain ⟨k, w⟩ := entry
    rw [List.map_cons, List.mem_cons, not_or] at h
    rw [set, if_neg (Ne.symm h.1), ih h.2]
    rfl

theorem ofEntries_of_nodup {entries : List (String × Value)} (h : (entries.map (·.1)).Nodup) :
    ofEntries entries = entries := by
  have hfold (r : Record) (hr : ((r ++ entries).map (·.1)).Nodup) :
      entries.foldl (fun r entry => r.set entry.1 entry.2) r = r ++ entries := by
    clear h
    induction entries generalizing r with
    | nil => exact (List.append_nil r).symm
    | cons entry rest ih =>
      obtain ⟨k, v⟩ := entry
      have hnew : k ∉ r.map (·.1) := by
        rw [List.map_append, List.nodup_append] at hr
        exact fun hk => hr.2.2 k hk k List.mem_cons_self rfl
      have hset := set_of_not_mem hnew v
      rw [List.foldl_cons]
      dsimp only
      rw [hset, ih _ (by rwa [List.append_assoc]), List.append_assoc]
      rfl
  exact hfold [] h

end Record

namespace Json

variable {limit : Option Nat} {depth : Nat} {cs rest : List Char} {v : Value}

/-! ## Steps of the reader -/

/-- The text starts like a value: with no space, no closing bracket and no byte order mark. -/
def Starts (cs : List Char) : Prop :=
  ∃ c tail, cs = c :: tail ∧ isSpace c = false ∧ c ≠ ']' ∧ c ≠ '\ufeff'

theorem Starts.append (h : Starts cs) (more : List Char) : Starts (cs ++ more) := by
  obtain ⟨c, tail, rfl, hc⟩ := h
  exact ⟨c, tail ++ more, rfl, hc⟩

theorem Starts.skipSpace (h : Starts cs) : skipSpace cs = cs := by
  obtain ⟨c, tail, rfl, hc, -⟩ := h
  exact List.dropWhile_cons_of_neg (by rw [hc]; nofun)

theorem starts_writeString (s : String) : Starts (writeString s).toList := by
  rw [toList_writeString]
  exact ⟨'"', _, rfl, rfl, by decide⟩

theorem value_array (h : Starts cs) {items : List Value}
    (hitems : itemsFrom limit depth cs = .ok (items, rest)) :
    value limit (depth + 1) ('[' :: cs) = .ok (.array items, rest) := by
  have hskip := h.skipSpace
  obtain ⟨c, tail, rfl, -, hc, -⟩ := h
  rw [value, hskip]
  split
  · next heq => exact absurd (List.cons.inj heq).1 hc
  · rw [hitems]
    rfl

theorem value_object {entries : List (String × Value)}
    (hentries : entriesFrom limit depth ('"' :: cs) = .ok (entries, rest)) :
    value limit (depth + 1) ('\x7b' :: '"' :: cs) =
      .ok (.object (Record.ofEntries entries), rest) := by
  have hskip : skipSpace ('"' :: cs) = '"' :: cs := rfl
  rw [value, hskip]
  split
  · next heq => cases heq
  · rw [hentries]
    rfl

theorem itemsFrom_last (hv : value limit depth cs = .ok (v, ']' :: rest)) :
    itemsFrom limit (depth + 1) cs = .ok ([v], rest) := by
  rw [itemsFrom, hv]
  rfl

theorem itemsFrom_next {more : List Char} {items : List Value}
    (hv : value limit depth cs = .ok (v, ',' :: ' ' :: more)) (hmore : Starts more)
    (hitems : itemsFrom limit depth more = .ok (items, rest)) :
    itemsFrom limit (depth + 1) cs = .ok (v :: items, rest) := by
  have hskip : skipSpace (' ' :: more) = more := hmore.skipSpace
  have hread : itemsFrom limit depth (skipSpace (' ' :: more)) = .ok (items, rest) := by
    rw [hskip, hitems]
  rw [itemsFrom]
  exact bind_eq_ok.mpr ⟨_, hv, bind_eq_ok.mpr ⟨_, hread, rfl⟩⟩

section
variable {k : String} (hk : Unpaired k.toList) (hcs : Starts cs)

include hk hcs

theorem entriesFrom_last (hv : value limit depth cs = .ok (v, '\x7d' :: rest)) :
    entriesFrom limit (depth + 1) ((writeString k).toList ++ ':' :: ' ' :: cs) =
      .ok ([(k, v)], rest) := by
  have hskip : skipSpace (' ' :: cs) = cs := hcs.skipSpace
  have hread : value limit depth (skipSpace (' ' :: cs)) = .ok (v, '\x7d' :: rest) := by
    rw [hskip, hv]
  rw [toList_writeString, List.cons_append, List.append_assoc, List.singleton_append, entriesFrom]
  refine bind_eq_ok.mpr ⟨_, stringFrom_writtenChars hk _ _, bind_eq_ok.mpr ⟨_, hread, ?_⟩⟩
  show Except.ok ([(String.ofList k.toList, v)], rest) = _
  rw [String.ofList_toList]

theorem entriesFrom_next {more : List Char} {entries : List (String × Value)}
    (hv : value limit depth cs = .ok (v, ',' :: ' ' :: more)) (hmore : Starts more)
    (hentries : entriesFrom limit depth more = .ok (entries, rest)) :
    entriesFrom limit (depth + 1) ((writeString k).toList ++ ':' :: ' ' :: cs) =
      .ok ((k, v) :: entries, rest) := by
  have hskip : skipSpace (' ' :: cs) = cs := hcs.skipSpace
  have hread : value limit depth (skipSpace (' ' :: cs)) = .ok (v, ',' :: ' ' :: more) := by
    rw [hskip, hv]
  have hskip : skipSpace (' ' :: more) = more := hmore.skipSpace
  have hothers : entriesFrom limit depth (skipSpace (' ' :: more)) = .ok (entries, rest) := by
    rw [hskip, hentries]
  rw [toList_writeString, List.cons_append, List.append_assoc, List.singleton_append, entriesFrom]
  refine bind_eq_ok.mpr ⟨_, stringFrom_writtenChars hk _ _,
    bind_eq_ok.mpr ⟨_, hread, bind_eq_ok.mpr ⟨_, hothers, ?_⟩⟩⟩
  show Except.ok ((String.ofList k.toList, v) :: entries, rest) = _
  rw [String.ofList_toList]

end

/-! ## The text of a value -/

theorem StartsWithDigit.starts (h : StartsWithDigit cs) : Starts cs := by
  obtain ⟨c, tail, rfl, hc⟩ := h
  refine ⟨c, tail, rfl, ?_, ?_, ?_⟩
  · rw [Bool.eq_false_iff]
    intro hspace
    unfold isSpace at hspace
    simp only [Bool.or_eq_true, decide_eq_true_eq] at hspace
    rcases hspace with ((rfl | rfl) | rfl) | rfl <;> cases hc
  all_goals
    rintro rfl
    cases hc

theorem starts_minus (cs : List Char) : Starts ('-' :: cs) := ⟨'-', cs, rfl, rfl, by decide⟩

theorem starts_writeNumber {n : Number} {text : String} (h : writeNumber n = .ok text) :
    Starts text.toList := by
  cases n with
  | int n =>
    have hstart : StartsWithDigit (Nat.toDigits 10 n.natAbs) :=
      startsWithDigit_of_digits (isDigit_toDigits n.natAbs) Nat.toDigits_ne_nil
    rw [(toList_writeNumber_int h).2]
    split
    · exact starts_minus _
    · exact hstart.starts
  | float x =>
    cases h
    cases x with
    | nan => exact ⟨'N', _, rfl, rfl, by decide⟩
    | infinite negative =>
      cases negative
      · exact ⟨'I', _, rfl, rfl, by decide⟩
      · exact starts_minus _
    | finite negative m =>
      cases negative with
      | false => exact (startsWithDigit_unsigned m).starts
      | true =>
        show Starts ("-" ++ unsigned m).toList
        rw [String.toList_append]
        exact starts_minus _

theorem starts_write {text : String} (h : write v = .ok text) : Starts text.toList := by
  cases v with
  | null =>
    cases h
    exact ⟨'n', _, rfl, rfl, by decide⟩
  | boolean b =>
    cases h
    cases b
    · exact ⟨'f', _, rfl, rfl, by decide⟩
    · exact ⟨'t', _, rfl, rfl, by decide⟩
  | number n =>
    rw [write] at h
    exact starts_writeNumber h
  | text s =>
    cases h
    exact starts_writeString s
  | array items =>
    obtain ⟨shown, -, h⟩ := bind_eq_ok.mp h
    cases h
    rw [String.toList_append, String.toList_append]
    exact ⟨'[', _, rfl, rfl, by decide⟩
  | object entries =>
    obtain ⟨shown, -, h⟩ := bind_eq_ok.mp h
    cases h
    rw [String.toList_append, String.toList_append]
    exact ⟨'\x7b', _, rfl, rfl, by decide⟩
  | timestamp t => cases h
  | bytes octets => cases h
  | foreign text => cases h

theorem toList_intercalate_cons (first next : String) (others : List String) :
    (", ".intercalate (first :: next :: others)).toList =
      first.toList ++ ',' :: ' ' :: (", ".intercalate (next :: others)).toList := by
  rw [String.toList_intercalate, String.toList_intercalate, List.map_cons, List.map_cons,
    List.intercalate_cons_cons]
  simp only [List.append_assoc]
  rfl

theorem starts_intercalate {first : String} (h : Starts first.toList) (others : List String)
    (more : List Char) : Starts ((", ".intercalate (first :: others)).toList ++ more) := by
  cases others with
  | nil =>
    rw [String.intercalate_singleton]
    exact h.append more
  | cons next others =>
    rw [toList_intercalate_cons]
    exact (h.append _).append more

theorem quote_of_writeEntries {entry : String × Value} {others : List (String × Value)}
    {shown : List String} (h : writeEntries (entry :: others) = .ok shown) :
    ∃ tail, (", ".intercalate shown).toList = '"' :: tail := by
  obtain ⟨text, -, h⟩ := bind_eq_ok.mp h
  obtain ⟨texts, -, h⟩ := bind_eq_ok.mp h
  cases h
  cases texts with
  | nil =>
    rw [String.intercalate_singleton, String.toList_append, String.toList_append,
      toList_writeString]
    exact ⟨_, rfl⟩
  | cons next texts =>
    rw [toList_intercalate_cons, String.toList_append, String.toList_append, toList_writeString]
    exact ⟨_, rfl⟩

theorem toList_brackets (s : String) : ("[" ++ s ++ "]").toList = '[' :: (s.toList ++ [']']) := by
  rw [String.toList_append, String.toList_append]
  rfl

theorem toList_braces (s : String) :
    ("\x7b" ++ s ++ "\x7d").toList = '\x7b' :: (s.toList ++ ['\x7d']) := by
  rw [String.toList_append, String.toList_append]
  rfl

theorem value_brackets {first : Value} {others : List Value} {shown : List String} {depth : Nat}
    {rest : List Char} (h : writeItems (first :: others) = .ok shown)
    (hitems : itemsFrom (some DigitLimit.most) depth
      ((", ".intercalate shown).toList ++ ']' :: rest) = .ok (first :: others, rest)) :
    value (some DigitLimit.most) (depth + 1)
        (("[" ++ ", ".intercalate shown ++ "]").toList ++ rest) =
      .ok (.array (first :: others), rest) := by
  obtain ⟨text, hfirst, h⟩ := bind_eq_ok.mp h
  obtain ⟨texts, -, h⟩ := bind_eq_ok.mp h
  cases h
  rw [toList_brackets, List.cons_append, List.append_assoc]
  exact value_array (starts_intercalate (starts_write hfirst) texts _) hitems

theorem value_braces {first : String × Value} {others : List (String × Value)}
    {shown : List String} {depth : Nat} {rest : List Char}
    (h : writeEntries (first :: others) = .ok shown)
    (hkeys : ((first :: others).map (·.1)).Nodup)
    (hentries : entriesFrom (some DigitLimit.most) depth
      ((", ".intercalate shown).toList ++ '\x7d' :: rest) = .ok (first :: others, rest)) :
    value (some DigitLimit.most) (depth + 1)
        (("\x7b" ++ ", ".intercalate shown ++ "\x7d").toList ++ rest) =
      .ok (.object (first :: others), rest) := by
  obtain ⟨tail, htail⟩ := quote_of_writeEntries h
  rw [toList_braces, List.cons_append, List.append_assoc]
  rw [htail, List.cons_append] at hentries ⊢
  refine (value_object hentries).trans ?_
  rw [Record.ofEntries_of_nodup hkeys]

mutual

/-- A value is read as it was written, to any depth that reaches the length of its text. -/
theorem value_write {v : Value} {text : String} {depth : Nat} {rest : List Char}
    (h : write v = .ok text) (hv : v.IsJson) (hlen : text.toList.length ≤ depth)
    (hrest : Ends rest) :
    value (some DigitLimit.most) depth (text.toList ++ rest) = .ok (v, rest) := by
  obtain ⟨depth, rfl⟩ : ∃ d, depth = d + 1 := by
    obtain ⟨c, tail, hcs, -⟩ := starts_write h
    rw [hcs, List.length_cons] at hlen
    exact ⟨depth - 1, by omega⟩
  cases v with
  | null =>
    cases h
    rfl
  | boolean b =>
    cases h
    cases b <;> rfl
  | number n =>
    rw [write] at h
    exact value_writeNumber h hrest
  | text s =>
    cases h
    exact value_writeString hv depth rest
  | array items =>
    obtain ⟨shown, hshown, h⟩ := bind_eq_ok.mp h
    cases h
    cases items with
    | nil =>
      cases hshown
      rfl
    | cons first others =>
      rw [toList_brackets, List.length_cons, List.length_append, List.length_singleton] at hlen
      exact value_brackets hshown
        (itemsFrom_write hshown hv (List.cons_ne_nil _ _) (Nat.le_of_succ_le_succ hlen))
  | object entries =>
    obtain ⟨shown, hshown, h⟩ := bind_eq_ok.mp h
    cases h
    cases entries with
    | nil =>
      cases hshown
      rfl
    | cons first others =>
      rw [toList_braces, List.length_cons, List.length_append, List.length_singleton] at hlen
      exact value_braces hshown hv.2
        (entriesFrom_write hshown hv.1 (List.cons_ne_nil _ _) (Nat.le_of_succ_le_succ hlen))
  | timestamp t => cases hv
  | bytes octets => cases hv
  | foreign text => cases hv

theorem itemsFrom_write {items : List Value} {shown : List String} {depth : Nat} {rest : List Char}
    (h : writeItems items = .ok shown) (hv : Value.AllJson items) (hne : items ≠ [])
    (hlen : (", ".intercalate shown).toList.length < depth) :
    itemsFrom (some DigitLimit.most) depth ((", ".intercalate shown).toList ++ ']' :: rest) =
      .ok (items, rest) := by
  obtain ⟨depth, rfl⟩ : ∃ d, depth = d + 1 := ⟨depth - 1, by omega⟩
  cases items with
  | nil => exact absurd rfl hne
  | cons v others =>
    obtain ⟨text, htext, h⟩ := bind_eq_ok.mp h
    obtain ⟨texts, htexts, h⟩ := bind_eq_ok.mp h
    cases h
    cases others with
    | nil =>
      cases htexts
      rw [String.intercalate_singleton] at hlen ⊢
      exact itemsFrom_last (value_write htext hv.1 (by omega) (ends_of_mem (.inr (.inl rfl)) rest))
    | cons w more =>
      obtain ⟨next, hnext, hothers⟩ := bind_eq_ok.mp htexts
      obtain ⟨nexts, -, hothers⟩ := bind_eq_ok.mp hothers
      cases hothers
      rw [toList_intercalate_cons, List.length_append, List.length_cons, List.length_cons] at hlen
      have hrest : itemsFrom (some DigitLimit.most) depth
          ((", ".intercalate (next :: nexts)).toList ++ ']' :: rest) = .ok (w :: more, rest) :=
        itemsFrom_write htexts hv.2 (List.cons_ne_nil _ _) (by omega)
      rw [toList_intercalate_cons, List.append_assoc, List.cons_append, List.cons_append]
      exact itemsFrom_next (value_write htext hv.1 (by omega) (ends_of_mem (.inl rfl) _))
        (starts_intercalate (starts_write hnext) nexts _) hrest

theorem entriesFrom_write {entries : List (String × Value)} {shown : List String} {depth : Nat}
    {rest : List Char} (h : writeEntries entries = .ok shown) (hv : Value.EntriesJson entries)
    (hne : entries ≠ []) (hlen : (", ".intercalate shown).toList.length < depth) :
    entriesFrom (some DigitLimit.most) depth ((", ".intercalate shown).toList ++ '\x7d' :: rest) =
      .ok (entries, rest) := by
  obtain ⟨depth, rfl⟩ : ∃ d, depth = d + 1 := ⟨depth - 1, by omega⟩
  cases entries with
  | nil => exact absurd rfl hne
  | cons entry others =>
    obtain ⟨k, v⟩ := entry
    obtain ⟨text, htext, h⟩ := bind_eq_ok.mp h
    obtain ⟨texts, htexts, h⟩ := bind_eq_ok.mp h
    cases h
    have hentry : (writeString k ++ ": " ++ text).toList =
        (writeString k).toList ++ ':' :: ' ' :: text.toList := by
      rw [String.toList_append, String.toList_append, List.append_assoc]
      rfl
    have hstart : Starts text.toList := starts_write htext
    cases others with
    | nil =>
      cases htexts
      rw [String.intercalate_singleton, hentry] at hlen ⊢
      rw [List.length_append, List.length_cons, List.length_cons] at hlen
      rw [List.append_assoc, List.cons_append, List.cons_append]
      exact entriesFrom_last hv.1 (hstart.append _)
        (value_write htext hv.2.1 (by omega) (ends_of_mem (.inr (.inr rfl)) rest))
    | cons other more =>
      obtain ⟨next, hnext⟩ := quote_of_writeEntries htexts
      have hmore : Starts (", ".intercalate texts).toList := by
        rw [hnext]
        exact ⟨'"', next, rfl, rfl, by decide⟩
      obtain ⟨first, nexts, rfl⟩ : ∃ first nexts, texts = first :: nexts := by
        obtain ⟨shown, -, hothers⟩ := bind_eq_ok.mp htexts
        obtain ⟨nexts, -, hothers⟩ := bind_eq_ok.mp hothers
        cases hothers
        exact ⟨_, _, rfl⟩
      rw [toList_intercalate_cons, hentry] at hlen ⊢
      rw [List.length_append, List.length_append, List.length_cons, List.length_cons,
        List.length_cons, List.length_cons] at hlen
      have hrest : entriesFrom (some DigitLimit.most) depth
          ((", ".intercalate (first :: nexts)).toList ++ '\x7d' :: rest) =
            .ok (other :: more, rest) :=
        entriesFrom_write htexts hv.2.2 (List.cons_ne_nil _ _) (by omega)
      simp only [List.append_assoc, List.cons_append]
      exact entriesFrom_next hv.1 (hstart.append _)
        (value_write htext hv.2.1 (by omega) (ends_of_mem (.inl rfl) _)) (hmore.append _) hrest

end

theorem parseText_write {v : Value} {text : String} (h : write v = .ok text) (hv : v.IsJson) :
    parseText (some DigitLimit.most) text.toList = .ok v := by
  have hstart := starts_write h
  have hread : value (some DigitLimit.most) (2 * text.toList.length + 2) (text.toList ++ []) =
      .ok (v, []) := value_write h hv (by omega) ends_nil
  rw [List.append_nil] at hread
  have hparse : parse (some DigitLimit.most) text.toList = .ok v := by
    unfold parse
    rw [hstart.skipSpace, hread]
    rfl
  obtain ⟨c, tail, hcs, -, -, hmark⟩ := hstart
  unfold parseText
  split
  · next heq =>
    rw [hcs] at heq
    exact absurd (List.cons.inj heq).1 hmark
  · exact hparse

end Json

end EventChain
