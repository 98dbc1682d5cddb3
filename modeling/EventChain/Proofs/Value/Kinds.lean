import EventChain.Proofs.Failure
import EventChain.Value.Equality
import Mathlib.Data.List.Perm.Subperm

/-!
# Kinds inside values

Strict equality asks for one kind of the two values and leaves what is inside them to
`Value.agrees`. Values that agree have the same shape, and at each position the same kind, but where
a boolean stands in the one and a number in the other (`Value.kindAt?_of_agrees`). So strict
equality knows the kinds at every depth up to booleans that are taken for numbers
(`Value.strictEquals_iff`).
-/

namespace EventChain

namespace Record

variable {r : Record} {key : String} {v : Value}

theorem mem_of_get? (h : r.get? key = some v) : (key, v) ∈ r := by
  induction r with
  | nil => cases h
  | cons entry rest ih =>
    obtain ⟨k, w⟩ := entry
    unfold get? at h
    split at h
    · next hk =>
      cases h
      exact hk ▸ List.mem_cons_self
    · exact List.mem_cons_of_mem _ (ih h)

theorem mem_keys_iff : key ∈ r.map Prod.fst ↔ r.get? key ≠ none := by
  induction r with
  | nil => simp [get?]
  | cons entry rest ih =>
    obtain ⟨k, w⟩ := entry
    by_cases hk : k = key
    · simp [get?, hk]
    · simp [get?, hk, Ne.symm hk, ih]

end Record

namespace Value

/-! ## Positions -/

/-- A step into a value: to an item of an array, or to the entry of an object at a key. -/
inductive Descent where
  | item (i : Nat)
  | entry (key : String)
  deriving DecidableEq, Repr

def at? : Value → List Descent → Option Value
  | v, [] => some v
  | array items, .item i :: rest => items[i]?.bind (at? · rest)
  | object entries, .entry key :: rest => (Record.get? entries key).bind (at? · rest)
  | _, _ :: _ => none

def kindAt? (v : Value) (path : List Descent) : Option Kind := (v.at? path).map kind

/-- The values have one shape, and the same kind at every position. -/
def SameKinds (a b : Value) : Prop := ∀ path, a.kindAt? path = b.kindAt? path

/-- A boolean stands in one of the values where a number stands in the other. -/
def Mixed (a b : Value) (path : List Descent) : Prop :=
  a.kindAt? path = some .boolean ∧ b.kindAt? path = some .number ∨
    a.kindAt? path = some .number ∧ b.kindAt? path = some .boolean

/-- Equality of contents and, at every depth, of kinds. -/
def Same (a b : Value) : Prop := a.SameKinds b ∧ a.agrees b = true

mutual

/-- No object inside the value has two entries at one key. -/
def Keyed : Value → Prop
  | array items => AllKeyed items
  | object entries => (entries.map Prod.fst).Nodup ∧ EntriesKeyed entries
  | _ => True

def AllKeyed : List Value → Prop
  | [] => True
  | v :: rest => v.Keyed ∧ AllKeyed rest

def EntriesKeyed : List (String × Value) → Prop
  | [] => True
  | (_, v) :: rest => v.Keyed ∧ EntriesKeyed rest

end

section
variable {v w a b : Value} {items others : List Value} {entries : List (String × Value)}
  {path : List Descent} {key : String} {i : Nat}

theorem kindAt?_item (items : List Value) (i : Nat) (path : List Descent) :
    (array items).kindAt? (.item i :: path) = items[i]?.bind (·.kindAt? path) := by
  rw [kindAt?, at?, Option.map_bind]
  rfl

theorem kindAt?_entry (entries : Record) (key : String) (path : List Descent) :
    (object entries).kindAt? (.entry key :: path) =
      (entries.get? key).bind (·.kindAt? path) := by
  rw [kindAt?, at?, Option.map_bind]
  rfl

theorem kindAt?_item_of_ne (h : v.kind ≠ .array) : v.kindAt? (.item i :: path) = none := by
  cases v with
  | array items => exact absurd rfl h
  | _ => rfl

theorem kindAt?_entry_of_ne (h : ∀ entries, v ≠ object entries) :
    v.kindAt? (.entry key :: path) = none := by
  cases v with
  | object entries => exact absurd rfl (h entries)
  | _ => rfl

theorem AllKeyed.keyed_of_getElem? (h : AllKeyed items) (hv : items[i]? = some v) : v.Keyed := by
  induction items generalizing i with
  | nil => simp at hv
  | cons first rest ih =>
    cases i with
    | zero =>
      cases hv
      exact h.1
    | succ i => exact ih h.2 hv

theorem EntriesKeyed.keyed_of_get? (h : EntriesKeyed entries)
    (hv : Record.get? entries key = some v) : v.Keyed := by
  induction entries with
  | nil => cases hv
  | cons entry rest ih =>
    obtain ⟨k, w⟩ := entry
    unfold Record.get? at hv
    split at hv
    · cases hv
      exact h.1
    · exact ih h.2 hv

/-! ## Agreement -/

theorem kind_of_agrees (h : a.agrees b = true) :
    a.kind = b.kind ∨ a.kind = .boolean ∧ b.kind = .number ∨
      a.kind = .number ∧ b.kind = .boolean := by
  cases a <;> cases b <;> simp [agrees, quantity?, kind] at h ⊢

theorem agreeItems_iff : agreeItems items others = true ↔
    List.Forall₂ (fun v w => v.agrees w = true) items others := by
  induction items generalizing others with
  | nil => cases others <;> simp [agreeItems]
  | cons v rest ih =>
    cases others with
    | nil => simp [agreeItems]
    | cons w others => rw [agreeItems, Bool.and_eq_true, ih, List.forall₂_cons]

theorem agreeEntries_iff {other : Record} : agreeEntries entries other = true ↔
    ∀ entry ∈ entries, ∃ w, other.get? entry.1 = some w ∧ entry.2.agrees w = true := by
  induction entries with
  | nil => simp [agreeEntries]
  | cons entry rest ih =>
    obtain ⟨k, v⟩ := entry
    rw [agreeEntries, Bool.and_eq_true, ih, List.forall_mem_cons]
    refine and_congr_left' ?_
    cases other.get? k with
    | none => simp
    | some w => simp

/-- An object that agrees with one that has each key once has the same keys, with values that
agree. -/
theorem get?_of_agreeEntries {other : Record} (hkeys : (entries.map Prod.fst).Nodup)
    (hlength : entries.length = other.length) (h : agreeEntries entries other = true)
    (key : String) :
    Record.get? entries key = none ∧ other.get? key = none ∨
      ∃ v w, Record.get? entries key = some v ∧ other.get? key = some w ∧ v.agrees w = true := by
  rw [agreeEntries_iff] at h
  cases hv : Record.get? entries key with
  | some v =>
    obtain ⟨w, hw, hagree⟩ := h _ (Record.mem_of_get? hv)
    exact .inr ⟨v, w, rfl, hw, hagree⟩
  | none =>
    refine .inl ⟨rfl, ?_⟩
    by_contra hother
    -- With one more key, the other object would have more entries.
    have hsubset : key :: entries.map Prod.fst ⊆ other.map Prod.fst := by
      refine List.cons_subset.mpr ⟨Record.mem_keys_iff.mpr hother, fun k hk => ?_⟩
      obtain ⟨entry, hentry, rfl⟩ := List.mem_map.mp hk
      obtain ⟨w, hw, -⟩ := h entry hentry
      exact Record.mem_keys_iff.mpr (by rw [hw]; nofun)
    have hnodup : (key :: entries.map Prod.fst).Nodup :=
      List.nodup_cons.mpr ⟨fun hmem => Record.mem_keys_iff.mp hmem hv, hkeys⟩
    have hle := (List.subperm_of_subset hnodup hsubset).length_le
    simp only [List.length_cons, List.length_map] at hle
    omega

/-- Values that agree have one shape. At every position they are of one kind, or a boolean in the
one is a number in the other. -/
theorem kindAt?_of_agrees (path : List Descent) (ha : a.Keyed) (h : a.agrees b = true) :
    a.kindAt? path = b.kindAt? path ∨ a.Mixed b path := by
  induction path generalizing a b with
  | nil =>
    have hroot (v : Value) : v.kindAt? [] = some v.kind := rfl
    rw [Mixed, hroot, hroot]
    simpa only [Option.some.injEq] using kind_of_agrees h
  | cons descent rest ih =>
    have hkind := kind_of_agrees h
    cases descent with
    | item i =>
      cases a with
      | array items =>
        cases b with
        | array others =>
          rw [agrees, agreeItems_iff, List.forall₂_iff_get] at h
          obtain ⟨hlength, hagree⟩ := h
          rw [Mixed, kindAt?_item, kindAt?_item]
          by_cases hi : i < items.length
          · have hi' : i < others.length := hlength ▸ hi
            rw [List.getElem?_eq_getElem hi, List.getElem?_eq_getElem hi']
            exact ih (AllKeyed.keyed_of_getElem? ha (List.getElem?_eq_getElem hi))
              (hagree i hi hi')
          · rw [List.getElem?_eq_none (by omega), List.getElem?_eq_none (by omega)]
            exact .inl rfl
        | _ => simp [agrees, quantity?] at h
      | _ =>
        refine .inl ?_
        rw [kindAt?_item_of_ne (by simp [kind]), kindAt?_item_of_ne]
        rcases hkind with hsame | ⟨-, hb⟩ | ⟨-, hb⟩
        · rw [← hsame]
          simp [kind]
        · rw [hb]
          decide
        · rw [hb]
          decide
    | entry key =>
      cases a with
      | object entries =>
        cases b with
        | object other =>
          rw [agrees, Bool.and_eq_true, beq_iff_eq] at h
          rw [Mixed, kindAt?_entry, kindAt?_entry]
          rcases get?_of_agreeEntries ha.1 h.1 h.2 key with ⟨hnone, hnone'⟩ | ⟨v, w, hv, hw, hvw⟩
          · rw [hnone, hnone']
            exact .inl rfl
          · rw [hv, hw]
            exact ih (ha.2.keyed_of_get? hv) hvw
        | _ => simp [agrees, quantity?] at h
      | _ =>
        refine .inl ?_
        rw [kindAt?_entry_of_ne (by simp), kindAt?_entry_of_ne]
        rintro entries rfl
        simp [agrees, quantity?] at h

end

/-! ## Booleans taken for numbers -/

mutual

/-- The value with the number 1 for each true and 0 for each false in it. -/
def leveled : Value → Value
  | boolean b => int (if b then 1 else 0)
  | array items => array (levelItems items)
  | object entries => object (levelEntries entries)
  | v => v

def levelItems : List Value → List Value
  | [] => []
  | v :: rest => v.leveled :: levelItems rest

def levelEntries : List (String × Value) → List (String × Value)
  | [] => []
  | (key, v) :: rest => (key, v.leveled) :: levelEntries rest

end

section
variable {a b : Value}

theorem length_levelEntries (entries : List (String × Value)) :
    (levelEntries entries).length = entries.length := by
  induction entries with
  | nil => rfl
  | cons entry rest ih => rw [levelEntries, List.length_cons, List.length_cons, ih]

theorem map_fst_levelEntries (entries : List (String × Value)) :
    (levelEntries entries).map Prod.fst = entries.map Prod.fst := by
  induction entries with
  | nil => rfl
  | cons entry rest ih => rw [levelEntries, List.map_cons, List.map_cons, ih]

theorem getElem?_levelItems (items : List Value) (i : Nat) :
    (levelItems items)[i]? = items[i]?.map leveled := by
  induction items generalizing i with
  | nil => rfl
  | cons v rest ih =>
    cases i with
    | zero => rfl
    | succ i => exact ih i

theorem get?_levelEntries (entries : List (String × Value)) (key : String) :
    Record.get? (levelEntries entries) key = (Record.get? entries key).map leveled := by
  induction entries with
  | nil => rfl
  | cons entry rest ih =>
    obtain ⟨k, v⟩ := entry
    rw [levelEntries, Record.get?, Record.get?, ih]
    split <;> rfl

mutual

/-- Agreement takes booleans for numbers. -/
theorem agrees_leveled (a b : Value) : a.leveled.agrees b.leveled = a.agrees b := by
  cases a with
  | array items =>
    cases b with
    | array others => exact agreeItems_level items others
    | _ => rfl
  | object entries =>
    cases b with
    | object other =>
      rw [leveled, leveled, agrees, agrees, length_levelEntries, length_levelEntries,
        agreeEntries_level]
    | _ => rfl
  | _ => cases b <;> rfl

theorem agreeItems_level (items others : List Value) :
    agreeItems (levelItems items) (levelItems others) = agreeItems items others := by
  cases items with
  | nil => cases others <;> rfl
  | cons v rest =>
    cases others with
    | nil => rfl
    | cons w others =>
      rw [levelItems, levelItems, agreeItems, agreeItems, agrees_leveled, agreeItems_level]

theorem agreeEntries_level (entries : List (String × Value)) (other : Record) :
    agreeEntries (levelEntries entries) (levelEntries other) = agreeEntries entries other := by
  cases entries with
  | nil => rfl
  | cons entry rest =>
    obtain ⟨k, v⟩ := entry
    rw [levelEntries, agreeEntries, agreeEntries, get?_levelEntries, agreeEntries_level]
    cases Record.get? other k with
    | none => rfl
    | some w =>
      rw [Option.map_some]
      dsimp only
      rw [agrees_leveled]

end

mutual

theorem Keyed.leveled {a : Value} (h : a.Keyed) : a.leveled.Keyed := by
  cases a with
  | array items => exact AllKeyed.level h
  | object entries => exact ⟨map_fst_levelEntries entries ▸ h.1, EntriesKeyed.level h.2⟩
  | _ => trivial

theorem AllKeyed.level {items : List Value} (h : AllKeyed items) :
    AllKeyed (levelItems items) := by
  cases items with
  | nil => trivial
  | cons v rest => exact ⟨Keyed.leveled h.1, AllKeyed.level h.2⟩

theorem EntriesKeyed.level {entries : List (String × Value)} (h : EntriesKeyed entries) :
    EntriesKeyed (levelEntries entries) := by
  cases entries with
  | nil => trivial
  | cons entry rest => exact ⟨Keyed.leveled h.1, EntriesKeyed.level h.2⟩

end

theorem kindAt?_leveled_ne (v : Value) (path : List Descent) :
    v.leveled.kindAt? path ≠ some .boolean := by
  induction path generalizing v with
  | nil => cases v <;> simp [kindAt?, at?, leveled, kind, int]
  | cons descent rest ih =>
    cases descent with
    | item i =>
      cases v with
      | array items =>
        rw [leveled, kindAt?_item, getElem?_levelItems]
        cases items[i]? with
        | none => simp
        | some w => exact ih w
      | _ =>
        rw [kindAt?_item_of_ne (by simp [leveled, kind, int])]
        simp
    | entry key =>
      cases v with
      | object entries =>
        rw [leveled, kindAt?_entry, get?_levelEntries]
        cases Record.get? entries key with
        | none => simp
        | some w => exact ih w
      | _ =>
        rw [kindAt?_entry_of_ne (by simp [leveled, int])]
        simp

/-- What agrees is the same once its booleans are taken for numbers. -/
theorem same_leveled_iff (ha : a.Keyed) : a.leveled.Same b.leveled ↔ a.agrees b = true := by
  rw [Same, agrees_leveled, and_iff_right_iff_imp]
  intro h path
  rw [← agrees_leveled] at h
  rcases kindAt?_of_agrees path ha.leveled h with hsame | ⟨hleft, -⟩ | ⟨-, hright⟩
  · exact hsame
  · exact absurd hleft (kindAt?_leveled_ne a path)
  · exact absurd hright (kindAt?_leveled_ne b path)

/-! ## Strict equality -/

/-- Strict equality is that of contents and kinds after the booleans inside the values have been
taken for numbers; of the values themselves it knows the kinds. -/
theorem strictEquals_iff (ha : a.Keyed) :
    strictEquals .apart a b = true ↔ a.kind = b.kind ∧ a.leveled.Same b.leveled := by
  rw [strictEquals, Bool.and_eq_true, decide_eq_true_iff, same_leveled_iff ha]
  rfl

def Unmixed (a b : Value) : Prop := ∀ path, path ≠ [] → ¬ a.Mixed b path

theorem SameKinds.unmixed (h : a.SameKinds b) : a.Unmixed b := by
  rintro path - (⟨ha, hb⟩ | ⟨ha, hb⟩)
  · cases ha.symm.trans ((h path).trans hb)
  · cases ha.symm.trans ((h path).trans hb)

theorem sameKinds_of_strictEquals (ha : a.Keyed) (hmixed : a.Unmixed b)
    (h : strictEquals .apart a b = true) : a.SameKinds b := by
  rw [strictEquals, Bool.and_eq_true, decide_eq_true_iff] at h
  intro path
  cases path with
  | nil => exact congrArg some h.1
  | cons descent rest =>
    exact (kindAt?_of_agrees _ ha h.2).resolve_right (hmixed _ (List.cons_ne_nil _ _))

/-- Where no boolean meets a number inside them, strict equality of values is equality of contents
and, at every depth, of kinds. -/
theorem strictEquals_iff_same (ha : a.Keyed) (hmixed : a.Unmixed b) :
    strictEquals .apart a b = true ↔ a.Same b := by
  refine ⟨fun h => ⟨sameKinds_of_strictEquals ha hmixed h, ?_⟩, fun ⟨hkinds, hagree⟩ => ?_⟩
  · exact (Bool.and_eq_true_iff.mp h).2
  · exact Bool.and_eq_true_iff.mpr ⟨decide_eq_true (Option.some.inj (hkinds [])), hagree⟩

end

end Value

end EventChain
