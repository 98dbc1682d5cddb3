import EventChain.Condition.Reader
import Mathlib.Data.List.Basic

/-!
# Positions in conditions

A position is the list of the indices that lead from the root of a config, or of a condition, to one
of its parts. The order of lists is that of a visit from left to right: a whole comes before its
parts, and of two parts the earlier one comes with all that belongs to it. `pathOf` writes a
position as a path, and each path is that of one position only (`pathOf_injective`).
-/

namespace EventChain.Condition

/-! ## Parts -/

def partsOf : Value → List Value
  | .object r => match Record.get? r "expressions" with
    | some (.array items) => items
    | _ => []
  | _ => []

def configAt? : Value → List Nat → Option Value
  | v, [] => some v
  | v, i :: rest => (partsOf v)[i]?.bind (configAt? · rest)

def nodeAt? : Condition → List Nat → Option Condition
  | c, [] => some c
  | .compound _ parts _, i :: rest => parts[i]?.bind (nodeAt? · rest)
  | _, _ :: _ => none

/-- The path that a part of a condition carries. A value that is misplaced carries none. -/
def path? : Condition → Option String
  | leaf l => some l.path
  | compound _ _ path => some path
  | misplaced _ => none

section
variable {v part : Value} {i : Nat} {rest : List Nat}

theorem partsOf_object {r : Record} {items : List Value}
    (h : r.get? "expressions" = some (.array items)) : partsOf (.object r) = items := by
  simp only [partsOf, h]

theorem partsOf_of_none {r : Record} (h : r.get? "expressions" = none) :
    partsOf (.object r) = [] := by
  simp only [partsOf, h]

theorem configAt?_cons : configAt? v (i :: rest) = some part ↔
    ∃ item, (partsOf v)[i]? = some item ∧ configAt? item rest = some part := by
  rw [configAt?, Option.bind_eq_some_iff]

theorem nodeAt?_compound {connective : Connective} {parts : List Condition} {path : String}
    {node : Condition} : nodeAt? (.compound connective parts path) (i :: rest) = some node ↔
      ∃ part, parts[i]? = some part ∧ nodeAt? part rest = some node := by
  rw [nodeAt?, Option.bind_eq_some_iff]

end

/-! ## Paths -/

def partKey (i : Nat) : String := "expressions[" ++ toString i ++ "]"

/-- The path of a position: the keys of the parts that lead to it, with points in between. -/
def pathOf (position : List Nat) : String := ".".intercalate (position.map partKey)

/-- The path of a key of the part at a position, or of that part as a whole. The root as a whole has
none. -/
def faultPath (position : List Nat) (key : Option String) : Option String :=
  match position.map partKey ++ key.toList with
  | [] => none
  | keys => some (".".intercalate keys)

theorem toList_partKey (i : Nat) :
    (partKey i).toList = "expressions[".toList ++ (Nat.toDigits 10 i ++ [']']) := by
  simp [partKey, Nat.toString_eq_repr, Nat.toList_repr]

theorem partKey_injective : Function.Injective partKey := by
  intro i j h
  have hdigits : Nat.toDigits 10 i = Nat.toDigits 10 j := by
    have hlists := congrArg String.toList h
    rwa [toList_partKey, toList_partKey, List.append_cancel_left_eq,
      List.append_cancel_right_eq] at hlists
  calc
    i = Nat.ofDigitChars 10 (Nat.toDigits 10 i) 0 := Nat.ofDigitChars_ten_toDigits.symm
    _ = Nat.ofDigitChars 10 (Nat.toDigits 10 j) 0 := by rw [hdigits]
    _ = j := Nat.ofDigitChars_ten_toDigits

theorem point_notMem_partKey (i : Nat) : '.' ∉ (partKey i).toList := by
  have hdigits : '.' ∉ Nat.toDigits 10 i := by
    intro h
    exact absurd (Nat.isDigit_of_mem_toDigits (by decide) (by decide) h) (by decide)
  rw [toList_partKey]
  simp [hdigits]

@[simp] theorem pathOf_nil : pathOf [] = "" := String.intercalate_nil

theorem splitOn_pathOf {position : List Nat} (h : position ≠ []) :
    (pathOf position).toList.splitOn '.' = position.map fun i => (partKey i).toList := by
  have hkeys : ∀ key ∈ position.map fun i => (partKey i).toList, '.' ∉ key := by
    intro key hkey
    obtain ⟨i, -, rfl⟩ := List.mem_map.mp hkey
    exact point_notMem_partKey i
  rw [pathOf, String.toList_intercalate, List.map_map]
  exact List.splitOn_intercalate '.' hkeys (by simpa using h)

theorem isEmpty_pathOf {position : List Nat} :
    (pathOf position).isEmpty = true ↔ position = [] := by
  rw [String.isEmpty_iff]
  constructor
  · intro h
    by_contra hne
    -- Nothing would be left of the keys.
    have hsplit := splitOn_pathOf hne
    rw [h] at hsplit
    obtain ⟨i, rest, rfl⟩ := List.exists_cons_of_ne_nil hne
    have hkey : [] = (partKey i).toList := (List.cons_eq_cons.mp hsplit).1
    rw [toList_partKey] at hkey
    cases hkey
  · rintro rfl
    exact pathOf_nil

theorem pathOf_injective : Function.Injective pathOf := by
  intro position other h
  by_cases hposition : position = []
  · subst hposition
    exact (isEmpty_pathOf.mp (h ▸ isEmpty_pathOf.mpr rfl)).symm
  by_cases hother : other = []
  · subst hother
    exact isEmpty_pathOf.mp (h ▸ isEmpty_pathOf.mpr rfl)
  have hkeys := (splitOn_pathOf hposition).symm.trans (h ▸ splitOn_pathOf hother)
  refine List.map_injective_iff.mpr (fun i j hij => ?_) hkeys
  exact partKey_injective (String.toList_injective hij)

theorem faultPath_some (position : List Nat) (key : String) :
    faultPath position (some key) = some (".".intercalate (position.map partKey ++ [key])) := by
  unfold faultPath
  split
  · next h => cases (List.append_eq_nil_iff.mp h).2
  · rfl

theorem keyPath_pathOf (position : List Nat) (key : String) :
    keyPath (pathOf position) key = ".".intercalate (position.map partKey ++ [key]) := by
  unfold keyPath
  by_cases h : position = []
  · subst h
    simp
  · rw [if_neg (mt isEmpty_pathOf.mp h),
      String.intercalate_append_of_ne_nil (by simpa using h) (List.cons_ne_nil _ _),
      String.intercalate_singleton]
    rfl

theorem partPath_pathOf (position : List Nat) (i : Nat) :
    partPath (pathOf position) i = pathOf (position ++ [i]) := by
  rw [pathOf.eq_def (position ++ [i]), List.map_append]
  exact keyPath_pathOf position (partKey i)

theorem faultPath_none (position : List Nat) : faultPath position none =
    if (pathOf position).isEmpty then none else some (pathOf position) := by
  unfold faultPath
  rw [Option.toList_none, List.append_nil]
  split
  · next h => rw [if_pos (isEmpty_pathOf.mpr (List.map_eq_nil_iff.mp h))]
  · next hkeys =>
    rw [if_neg fun h => hkeys (List.map_eq_nil_iff.mpr (isEmpty_pathOf.mp h))]
    rfl

end EventChain.Condition
