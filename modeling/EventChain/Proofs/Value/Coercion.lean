import EventChain.Lookup
import EventChain.Proofs.Number.Writable
import EventChain.Value.Equality

/-!
# Coercions of writable values

Only a number of digits keeps a coercion from its result: a value whose integers have decimal
text has a text (`Writable.toText`), counts as a number or as none (`Writable.toNumber`), and is
loosely equal to another such value or not (`Writable.looseEquals`). What is looked up in a
writable record is writable.
-/

namespace EventChain

namespace Value

mutual

theorem Writable.toText {v : Value} (h : v.Writable) : ∃ text, v.toText = .ok text := by
  cases v with
  | number n => exact Number.Writable.coercedText h
  | array items =>
    obtain ⟨shown, hs⟩ := AllWritable.itemTexts h
    rw [Value.toText, hs]
    exact ⟨_, rfl⟩
  | _ => exact ⟨_, rfl⟩

theorem AllWritable.itemTexts {items : List Value} (h : AllWritable items) :
    ∃ texts, Value.itemTexts items = .ok texts := by
  cases items with
  | nil => exact ⟨_, rfl⟩
  | cons v rest =>
    obtain ⟨text, ht⟩ := Writable.toText h.1
    obtain ⟨texts, hs⟩ := AllWritable.itemTexts h.2
    unfold Value.itemTexts
    split
    · cases ‹_ = _›
    · next heq =>
      cases heq
      rw [hs]
      exact ⟨_, rfl⟩
    · next heq =>
      cases heq
      rw [ht, hs]
      exact ⟨_, rfl⟩

end

theorem Writable.toNumber {v : Value} (h : v.Writable) : ∃ n, v.toNumber = .ok n := by
  cases v with
  | array items =>
    obtain ⟨text, ht⟩ := h.toText
    rw [Value.toNumber, ht]
    exact ⟨_, rfl⟩
  | _ => exact ⟨_, rfl⟩

/-! ## Loose equality -/

theorem Writable.looseSettled {operands : Operands} {a b : Value} (ha : a.Writable)
    (hb : b.Writable) : ∃ answer, Value.looseSettled operands a b = .ok answer := by
  obtain ⟨left, hl⟩ := ha.toText
  obtain ⟨right, hr⟩ := hb.toText
  unfold Value.looseSettled
  split
  case h_9 | h_11 =>
    rw [hl]
    exact ⟨_, rfl⟩
  case h_10 | h_12 =>
    rw [hr]
    exact ⟨_, rfl⟩
  all_goals exact ⟨_, rfl⟩

theorem Writable.of_replacement? {v : Value} {n : Number} (h : v.replacement? = some n) :
    (number n).Writable := by
  cases v with
  | boolean b =>
    cases h
    cases b with
    | false => exact Nat.pow_pos (by decide)
    | true => exact Nat.one_lt_pow (by decide : DigitLimit.most ≠ 0) (by decide : 1 < 10)
  | timestamp t =>
    cases h
    trivial
  | _ => cases h

theorem Writable.looseEquals (operands : Operands) {a b : Value} (ha : a.Writable)
    (hb : b.Writable) : ∃ answer, Value.looseEquals operands a b = .ok answer := by
  have hsettled {v : Value} (h : v.Writable) :
      ((v.replacement?.map number).getD v).Writable := by
    cases hn : v.replacement? with
    | none => exact h
    | some n => exact Writable.of_replacement? hn
  unfold Value.looseEquals
  split
  · exact ⟨_, rfl⟩
  · dsimp only
    split
    · exact ha.looseSettled hb
    · exact (hsettled ha).looseSettled (hsettled hb)

end Value

/-! ## Records -/

namespace Record

open Value (EntriesWritable)

theorem writable_of_get? {r : Record} {key : String} {v : Value} (h : EntriesWritable r)
    (hv : r.get? key = some v) : v.Writable := by
  induction r with
  | nil => cases hv
  | cons entry rest ih =>
    obtain ⟨k, w⟩ := entry
    unfold get? at hv
    split at hv
    · cases hv
      exact h.1
    · exact ih h.2 hv

theorem writable_walk {v : Value} (h : v.Writable) (path : List String) :
    (walk v path).Writable := by
  induction path generalizing v with
  | nil =>
    cases v <;> exact h
  | cons key rest ih =>
    cases v with
    | object entries =>
      unfold walk
      split
      · next w hw => exact ih (writable_of_get? h hw)
      · trivial
    | _ => trivial

theorem writable_lookup {r : Record} (h : EntriesWritable r) (name : String) :
    (r.lookup name).Writable := by
  unfold lookup
  split
  · next v hv => exact writable_of_get? h hv
  · exact writable_walk (v := .object r) h _

theorem writable_set {r : Record} (h : EntriesWritable r) (key : String) {v : Value}
    (hv : v.Writable) : EntriesWritable (r.set key v) := by
  induction r with
  | nil => exact ⟨hv, trivial⟩
  | cons entry rest ih =>
    obtain ⟨k, w⟩ := entry
    unfold set
    split
    · exact ⟨hv, h.2⟩
    · exact ⟨h.1, ih h.2⟩

theorem writable_ofEntries {entries : List (String × Value)} (h : EntriesWritable entries) :
    EntriesWritable (ofEntries entries) := by
  have hfold (r : Record) (hr : EntriesWritable r) :
      EntriesWritable (entries.foldl (fun r entry => Record.set r entry.1 entry.2) r) := by
    induction entries generalizing r with
    | nil => exact hr
    | cons entry rest ih => exact ih h.2 _ (writable_set hr _ h.1)
  exact hfold [] trivial

end Record

end EventChain
