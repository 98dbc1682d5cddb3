import EventChain.Proofs.Failure
import EventChain.Route

/-!
# Marks of identifiers

Identifiers agree by what they are marked with: numbers and booleans by their place on the line,
timestamps by their instant, texts and bytes by what they hold (`agrees_iff`). A value without a
mark agrees with none, not even with itself. So among identifiers agreement is symmetric and
transitive.
-/

namespace EventChain

/-- What an identifier is told from others by. -/
inductive Mark where
  | null
  | text (s : String)
  | place (p : Place)
  | moment (naive : Bool) (instant : Int)
  | octets (octets : List UInt8)

namespace Value

/-- The mark of an identifier. The value that is no number has none. -/
def mark? : Value → Option Mark
  | null => some .null
  | text s => some (.text s)
  | timestamp t => some (.moment t.isNaive t.instant)
  | bytes octets => some (.octets octets)
  | v => (v.quantity?.bind Number.place?).map .place

variable {a b : Value} {m : Mark}

theorem checkIdentifier_of_mark (h : a.mark? = some m) : a.checkIdentifier = .ok () := by
  cases a with
  | array | object => cases h
  | _ => rfl

theorem equals_iff {m n : Number} : m.equals n = true ↔
    m.place?.isSome = true ∧ m.place?.map Mark.place = n.place?.map Mark.place := by
  unfold Number.equals Number.compareWith
  cases m.place? <;> cases n.place? <;> simp

theorem ne_map_place {o : Option Place} (h : ∀ p, m ≠ .place p) : some m ≠ o.map .place := by
  cases o <;> simp [h]

theorem agrees_iff (ha : a.checkIdentifier = .ok ()) :
    a.agrees b = true ↔ a.mark?.isSome = true ∧ a.mark? = b.mark? := by
  cases a with
  | array | object => simp [checkIdentifier] at ha
  | boolean | number =>
    cases b with
    | boolean | number =>
      simpa only [agrees, mark?, quantity?, Option.bind_some, Option.isSome_map] using equals_iff
    | _ => simp [agrees, mark?, quantity?, Option.isSome_iff_ne_none]
  | null | text | timestamp | bytes =>
    cases b with
    | boolean | number =>
      unfold mark?
      exact iff_of_false Bool.false_ne_true fun h => ne_map_place (by simp) h.2
    | _ => simp [agrees, mark?, quantity?, Timestamp.equals]
  | foreign => simp [agrees, mark?, quantity?]

/-- Identifiers that are not told apart. -/
def SameMark (a b : Value) : Prop := ∃ mark, a.mark? = some mark ∧ b.mark? = some mark

theorem SameMark.symm (h : a.SameMark b) : b.SameMark a :=
  let ⟨mark, ha, hb⟩ := h
  ⟨mark, hb, ha⟩

theorem SameMark.trans {c : Value} (hab : a.SameMark b) (hbc : b.SameMark c) : a.SameMark c := by
  obtain ⟨mark, ha, hb⟩ := hab
  obtain ⟨mark', hb', hc⟩ := hbc
  exact ⟨mark, ha, hc.trans (hb'.symm.trans hb)⟩

theorem SameMark.checkIdentifier (h : a.SameMark b) : a.checkIdentifier = .ok () :=
  let ⟨_, ha, _⟩ := h
  checkIdentifier_of_mark ha

theorem agrees_iff_sameMark (ha : a.checkIdentifier = .ok ()) :
    a.agrees b = true ↔ a.SameMark b := by
  rw [agrees_iff ha, Option.isSome_iff_exists]
  constructor
  · rintro ⟨⟨mark, hmark⟩, heq⟩
    exact ⟨mark, hmark, heq ▸ hmark⟩
  · rintro ⟨mark, hmark, hmark'⟩
    exact ⟨⟨mark, hmark⟩, hmark.trans hmark'.symm⟩

theorem SameMark.eq_null (h : a.SameMark null) : a = null := by
  obtain ⟨mark, ha, hmark⟩ := h
  obtain rfl : mark = .null := (Option.some.inj hmark).symm
  cases a with
  | null => rfl
  | text | timestamp | bytes => cases ha
  | boolean | number | array | object | foreign =>
    unfold mark? at ha
    exact absurd ha.symm (ne_map_place (by simp))

theorem SameMark.ne_null (h : a.SameMark b) (hb : b ≠ null) : a ≠ null := by
  rintro rfl
  exact hb h.symm.eq_null

end Value

end EventChain
