import EventChain.Value.Display
import EventChain.Value.Equality
import Mathlib.Data.Nat.Digits.Defs

/-!
# Identifiers and their texts

`Value.IsKey` is the form of an identifier: an integer or a text. Between keys, `Value.agrees`
is equality. `Value.Writable` holds of a value whose integers have decimal text, that is at most
`DigitLimit.most` digits; such a value can be shown in a message (`Value.Writable.plain`).
-/

namespace EventChain

namespace Number

@[simp] theorem equals_int (m n : Int) : (int m).equals (int n) = decide (m = n) := by
  simp [equals, compareWith, place?]

/-- An integer of few enough digits, or a float. -/
def Writable : Number → Prop
  | int n => n.natAbs < 10 ^ DigitLimit.most
  | float _ => True

theorem writable_int_iff {n : Int} :
    (int n).Writable ↔ (Nat.toDigits 10 n.natAbs).length ≤ DigitLimit.most :=
  (Nat.length_toDigits_le_iff (by decide) (by decide)).symm

theorem intText_eq_ok_iff {n : Int} :
    (∃ text, intText n = .ok text) ↔ n.natAbs < 10 ^ DigitLimit.most := by
  refine Iff.trans ?_ writable_int_iff.symm
  unfold intText
  simp only
  split
  · next h => simp [throw, throwThe, MonadExceptOf.throw]; omega
  · next h => simp [pure, Except.pure]; omega

theorem intText_eq_error {n : Int} (h : 10 ^ DigitLimit.most ≤ n.natAbs) :
    ∃ limit, intText n = .error limit := by
  cases ht : intText n with
  | ok text => exact absurd (intText_eq_ok_iff.mp ⟨text, ht⟩) (Nat.not_lt.mpr h)
  | error limit => exact ⟨limit, rfl⟩

theorem Writable.text {n : Number} (h : n.Writable) : ∃ text, n.text = .ok text := by
  cases n with
  | int n => exact intText_eq_ok_iff.mpr h
  | float x => exact ⟨_, rfl⟩

end Number

namespace Value

def IsKey : Value → Prop
  | number (.int _) | text _ => True
  | _ => False

section
variable {a b : Value}

theorem IsKey.form (h : a.IsKey) : (∃ n, a = number (.int n)) ∨ ∃ s, a = text s := by
  cases a with
  | number n =>
    cases n with
    | int n => exact .inl ⟨n, rfl⟩
    | float x => exact h.elim
  | text s => exact .inr ⟨s, rfl⟩
  | _ => exact h.elim

theorem IsKey.ne_null (h : a.IsKey) : a ≠ null := by
  rintro rfl
  exact h

theorem IsKey.isNull (h : a.IsKey) : a.isNull = false := by
  obtain ⟨n, rfl⟩ | ⟨s, rfl⟩ := h.form <;> rfl

theorem isNull_iff : a.isNull = true ↔ a = null := by
  cases a <;> simp [Value.isNull]

theorem isNull_eq_false (h : a ≠ null) : a.isNull = false := by
  rwa [← Bool.not_eq_true, isNull_iff]

theorem IsKey.agrees_iff (ha : a.IsKey) (hb : b.IsKey) : a.agrees b = true ↔ a = b := by
  obtain ⟨m, rfl⟩ | ⟨s, rfl⟩ := ha.form <;> obtain ⟨n, rfl⟩ | ⟨t, rfl⟩ := hb.form <;>
    simp [agrees, quantity?]

theorem IsKey.not_agrees_null (ha : a.IsKey) : a.agrees null = false := by
  obtain ⟨m, rfl⟩ | ⟨s, rfl⟩ := ha.form <;> simp [agrees, quantity?]

end

mutual

/-- Every integer in the value has decimal text. -/
def Writable : Value → Prop
  | number n => n.Writable
  | array items => AllWritable items
  | object entries => EntriesWritable entries
  | _ => True

def AllWritable : List Value → Prop
  | [] => True
  | v :: rest => v.Writable ∧ AllWritable rest

def EntriesWritable : List (String × Value) → Prop
  | [] => True
  | (_, v) :: rest => v.Writable ∧ EntriesWritable rest

end

mutual

theorem Writable.display {v : Value} (h : v.Writable) : ∃ text, v.display = .ok text := by
  cases v with
  | number n => exact Number.Writable.text h
  | array items =>
    obtain ⟨shown, hs⟩ := AllWritable.displayItems h
    rw [Value.display, hs]
    exact ⟨_, rfl⟩
  | object entries =>
    obtain ⟨shown, hs⟩ := EntriesWritable.displayEntries h
    rw [Value.display, hs]
    exact ⟨_, rfl⟩
  | _ => exact ⟨_, rfl⟩

theorem AllWritable.displayItems {items : List Value} (h : AllWritable items) :
    ∃ shown, Value.displayItems items = .ok shown := by
  cases items with
  | nil => exact ⟨_, rfl⟩
  | cons v rest =>
    obtain ⟨text, ht⟩ := Writable.display h.1
    obtain ⟨shown, hs⟩ := AllWritable.displayItems h.2
    rw [Value.displayItems, ht, hs]
    exact ⟨_, rfl⟩

theorem EntriesWritable.displayEntries {entries : List (String × Value)}
    (h : EntriesWritable entries) : ∃ shown, Value.displayEntries entries = .ok shown := by
  cases entries with
  | nil => exact ⟨_, rfl⟩
  | cons entry rest =>
    obtain ⟨key, v⟩ := entry
    obtain ⟨text, ht⟩ := Writable.display h.1
    obtain ⟨shown, hs⟩ := EntriesWritable.displayEntries h.2
    rw [Value.displayEntries, ht, hs]
    exact ⟨_, rfl⟩

end

theorem int_plain_ne_ok {n : Int} (h : 10 ^ DigitLimit.most ≤ n.natAbs) (text : String) :
    (Value.int n).plain ≠ .ok text :=
  fun ht => absurd (Number.intText_eq_ok_iff.mp ⟨text, ht⟩) (Nat.not_lt.mpr h)

theorem Writable.plain {v : Value} (h : v.Writable) : ∃ text, v.plain = .ok text := by
  cases v with
  | text s => exact ⟨s, rfl⟩
  | timestamp t => exact ⟨_, rfl⟩
  | _ => exact h.display

theorem allWritable_iff {items : List Value} : AllWritable items ↔ ∀ v ∈ items, v.Writable := by
  induction items with
  | nil => simp [AllWritable]
  | cons v rest ih => simp [AllWritable, ih]

end Value

end EventChain
