import EventChain.Lookup
import EventChain.Value.Coercion

/-!
# Fields that are looked up and set

A field that is set is found under its key and leaves all other keys as they are. Looking up goes
further than keys: a dotted path may start at the field that is set. Where no object stood there and
none is put there, such a path breaks off before and after (`lookup_set_of_ne`).
-/

namespace EventChain

/-- The value is no object, in which a path could go on. -/
def Value.Flat (v : Value) : Prop := ∀ entries, v ≠ .object entries

theorem Value.flat_number (n : Number) : (Value.number n).Flat := by
  rintro _ ⟨⟩

namespace Record

variable {r : Record} {key name : String} {v : Value}

@[simp] theorem get?_set_self (r : Record) (key : String) (v : Value) :
    (r.set key v).get? key = some v := by
  induction r with
  | nil => simp [set, get?]
  | cons entry rest ih =>
    obtain ⟨k, w⟩ := entry
    by_cases h : k = key
    · simp [set, get?, h]
    · simp [set, get?, h, ih]

theorem get?_set_of_ne (r : Record) (v : Value) (h : name ≠ key) :
    (r.set key v).get? name = r.get? name := by
  induction r with
  | nil => simp [set, get?, h.symm]
  | cons entry rest ih =>
    obtain ⟨k, w⟩ := entry
    by_cases hk : k = key
    · subst hk
      simp [set, get?, h.symm]
    · simp [set, get?, hk, ih]

theorem get_set_self (r : Record) (key : String) (v : Value) : (r.set key v).get key = v := by
  simp [get]

theorem get_set_of_ne (r : Record) (v : Value) (h : name ≠ key) :
    (r.set key v).get name = r.get name := by
  rw [get, get?_set_of_ne r v h, get]

theorem set_eq_self (h : r.get? key = some v) : r.set key v = r := by
  induction r with
  | nil => cases h
  | cons entry rest ih =>
    obtain ⟨k, w⟩ := entry
    unfold get? at h
    unfold set
    split at h
    · next hk =>
      cases h
      rw [if_pos hk, hk]
    · next hk => rw [if_neg hk, ih h]

theorem set_set (r : Record) (key : String) (v w : Value) :
    (r.set key v).set key w = r.set key w := by
  induction r with
  | nil => simp [set]
  | cons entry rest ih =>
    obtain ⟨k, old⟩ := entry
    by_cases h : k = key
    · simp [set, h]
    · simp [set, h, ih]

theorem set_comm (v w : Value) (hr : (r.get? key).isSome) (h : name ≠ key) :
    (r.set key v).set name w = (r.set name w).set key v := by
  induction r with
  | nil => cases hr
  | cons entry rest ih =>
    obtain ⟨k, old⟩ := entry
    by_cases hkey : k = key
    · subst hkey
      simp [set, h.symm]
    by_cases hname : k = name
    · subst hname
      simp [set, hkey]
    · have hrest : (get? rest key).isSome := by simpa [get?, hkey] using hr
      simp [set, hkey, hname, ih hrest]

/-- A value that takes the place of another leaves the keys as they are. -/
theorem map_fst_set (v : Value) (hr : (r.get? key).isSome) :
    (r.set key v).map Prod.fst = r.map Prod.fst := by
  induction r with
  | nil => cases hr
  | cons entry rest ih =>
    obtain ⟨k, old⟩ := entry
    by_cases hkey : k = key
    · simp [set, hkey]
    · have hrest : (get? rest key).isSome := by simpa [get?, hkey] using hr
      simp [set, hkey, ih hrest]

theorem get?_of_get (h : r.get key = v) (hv : v ≠ .null) : r.get? key = some v := by
  subst h
  unfold get at hv ⊢
  cases hk : r.get? key with
  | none => simp [hk] at hv
  | some w => rfl

theorem get_eq_text_iff {s : String} :
    r.get key = .text s ↔ r.get? key = some (.text s) := by
  unfold get
  cases r.get? key <;> simp

/-! ## Dotted paths -/

theorem keysOf_eq_singleton (h : keysOf name = [key]) : name = key := by
  obtain ⟨part, hparts, hpart⟩ : ∃ part, name.toList.splitOn '.' = [part] ∧
      String.ofList part = key := by
    simpa [keysOf, List.map_eq_singleton_iff] using h
  have hjoin : ['.'].intercalate (name.toList.splitOn '.') = name.toList :=
    List.intercalate_splitOn '.'
  rw [hparts, List.intercalate_singleton] at hjoin
  rw [← hpart, hjoin, String.ofList_toList]

theorem keysOf_ne_nil (name : String) : keysOf name ≠ [] := by
  simp [keysOf, List.splitOn_ne_nil]

theorem walk_flat (h : v.Flat) {path : List String} (hp : path ≠ []) : walk v path = .null := by
  cases path with
  | nil => exact absurd rfl hp
  | cons key rest =>
    cases v with
    | object entries => exact absurd rfl (h entries)
    | _ => rfl

theorem lookup_set_self (r : Record) (key : String) (v : Value) :
    (r.set key v).lookup key = v := by
  rw [lookup, get?_set_self]

theorem lookup_set_of_ne (hr : (r.get key).Flat) (hv : v.Flat) (h : name ≠ key) :
    (r.set key v).lookup name = r.lookup name := by
  unfold lookup
  rw [get?_set_of_ne r v h]
  cases r.get? name with
  | some found => rfl
  | none =>
    dsimp only
    obtain ⟨first, rest, hkeys⟩ := List.exists_cons_of_ne_nil (keysOf_ne_nil name)
    rw [hkeys, walk, walk]
    by_cases hfirst : first = key
    · subst hfirst
      -- The path goes on after the field, or else it would be the field.
      have hrest : rest ≠ [] := by
        rintro rfl
        exact h (keysOf_eq_singleton hkeys)
      rw [get?_set_self]
      dsimp only
      rw [walk_flat hv hrest]
      cases hg : r.get? first with
      | none => rfl
      | some old => exact (walk_flat (by simpa [get, hg] using hr) hrest).symm
    · rw [get?_set_of_ne r v hfirst]

end Record

end EventChain
