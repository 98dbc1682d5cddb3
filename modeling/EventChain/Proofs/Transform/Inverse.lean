import EventChain.Proofs.Number.Whole
import EventChain.Proofs.Transform

/-!
# Transforms that undo each other

An integer that is added to a field and subtracted again, in either order, leaves the record as it
was. A multiplication is undone by the division exactly where floats hold the integer of the field
(`apply_inverse`): the quotient is a float, and beyond the largest of them it is none.
-/

namespace EventChain

def Operation.on (operation : Operation) (field : String) (k : Int) : Transform :=
  ⟨field, operation.name, .int k⟩

theorem Operation.ofName?_name (operation : Operation) :
    Operation.ofName? operation.name = some operation := by
  cases operation <;> decide

namespace Number

theorem div_mul_self {n k : Int} (hk : k ≠ 0) (h : n.natAbs < Magnitude.bound) :
    ∃ m x, (Binary64.ofInt n).toInt? = some m ∧ (int (n * k)).div (int k) = .ok x ∧
      x.normalize = int m ∧ (m = n ↔ Magnitude.Holds n.natAbs) := by
  obtain ⟨m, hnearest, hm, hholds⟩ := Binary64.toInt?_ofQuotient_mul hk h
  have hlt : (n * k).natAbs < Magnitude.bound * k.natAbs := by
    rw [Int.natAbs_mul]
    exact Nat.mul_lt_mul_of_pos_right h (Int.natAbs_pos.mpr hk)
  have hfinite := (Binary64.isFinite_ofQuotient_iff (decide (n * k < 0) != decide (k < 0))
    (Int.natAbs_pos.mpr hk)).mpr hlt
  refine ⟨m, .float (Binary64.ofQuotient (decide (n * k < 0) != decide (k < 0)) (n * k).natAbs
    k.natAbs), hnearest, ?_, ?_, hholds⟩
  · simp only [div, if_neg hk, if_pos hfinite]
    rfl
  · simp only [normalize, hm]

theorem div_mul_self_of_bound {n k : Int} (hk : k ≠ 0) (h : Magnitude.bound ≤ n.natAbs) :
    (int (n * k)).div (int k) = .error .quotientTooLarge := by
  have hle : Magnitude.bound * k.natAbs ≤ (n * k).natAbs := by
    rw [Int.natAbs_mul]
    exact Nat.mul_le_mul_right _ h
  have hinfinite := mt (Binary64.isFinite_ofQuotient_iff (decide (n * k < 0) != decide (k < 0))
    (Int.natAbs_pos.mpr hk)).mp (not_lt.mpr hle)
  simp only [div, if_neg hk, if_neg hinfinite]
  rfl

end Number

namespace Transform

variable {strict : Bool} {field : String} {r : Record} {n k : Int} {operation : Operation}

theorem effect_on (operation : Operation) (field : String) (n k : Int) :
    (operation.on field k).effect strict (.int n) =
      match operation.apply (.int n) (.int k) with
      | .ok result => .ok (some result.normalize)
      | .error .divisionByZero => refuse .divisionByZero "operand"
      | .error .operandTooLarge => .error (.excess .operand)
      | .error .quotientTooLarge => .error (.excess .quotient) :=
  effect_of_number operation.ofName?_name rfl

theorem apply_on {result : Number} (h : r.get field = .int n)
    (ho : operation.apply (.int n) (.int k) = .ok result) :
    (operation.on field k).apply strict r = .ok (r.set field (.number result.normalize)) := by
  rw [apply_eq, show r.get (operation.on field k).field = .int n from h, effect_on, ho]
  rfl

theorem apply_on_of_quotientTooLarge (operation : Operation) (h : r.get field = .int n)
    (ho : operation.apply (.int n) (.int k) = .error .quotientTooLarge) :
    (operation.on field k).apply strict r = .error (.excess .quotient) := by
  rw [apply_eq, show r.get (operation.on field k).field = .int n from h, effect_on, ho]
  rfl

theorem apply_on_bind {first : Operation} {m : Int} (h : r.get field = .int n)
    (ho : first.apply (.int n) (.int k) = .ok (.int m)) (second : Transform) :
    (first.on field k).apply strict r >>= second.apply strict =
      second.apply strict (r.set field (.int m)) := by
  rw [apply_on h ho]
  rfl

theorem apply_on_set (operation : Operation) {m : Int} {result : Number}
    (ho : operation.apply (.int m) (.int k) = .ok result) :
    (operation.on field k).apply strict (r.set field (.int m)) =
      .ok (r.set field (.number result.normalize)) := by
  rw [apply_on (Record.get_set_self r field _) ho, Record.set_set]

theorem set_int_eq_self (h : r.get field = .int n) : r.set field (.int n) = r :=
  Record.set_eq_self (Record.get?_of_get h nofun)

/-- Multiplying and dividing again gives the integer next to the field's among floats. -/
theorem apply_multiply_divide (strict : Bool) (h : r.get field = .int n) (hk : k ≠ 0)
    (hbound : n.natAbs < Magnitude.bound) :
    ∃ m, (Binary64.ofInt n).toInt? = some m ∧ (m = n ↔ Magnitude.Holds n.natAbs) ∧
      (Operation.multiply.on field k).apply strict r >>= (Operation.divide.on field k).apply strict
        = .ok (r.set field (.int m)) := by
  obtain ⟨m, x, hnearest, hdiv, hx, hholds⟩ := Number.div_mul_self hk hbound
  refine ⟨m, hnearest, hholds, ?_⟩
  rw [apply_on_bind h (m := n * k) rfl, apply_on_set .divide hdiv, hx]
  rfl

theorem apply_multiply_divide_of_bound (strict : Bool) (h : r.get field = .int n) (hk : k ≠ 0)
    (hbound : Magnitude.bound ≤ n.natAbs) :
    (Operation.multiply.on field k).apply strict r >>= (Operation.divide.on field k).apply strict
      = .error (.excess .quotient) := by
  rw [apply_on_bind h (m := n * k) rfl,
    apply_on_of_quotientTooLarge .divide (Record.get_set_self r field _)
      (Number.div_mul_self_of_bound hk hbound)]

/-- Adding and subtracting an integer undo each other. Multiplying by one other than zero and
dividing again gives the integer that the nearest float is, which is the integer of the field
exactly where floats hold it; beyond the largest float dividing fails. -/
theorem apply_inverse (strict : Bool) (h : r.get field = .int n) (k : Int) :
    (Operation.add.on field k).apply strict r >>= (Operation.subtract.on field k).apply strict
        = .ok r ∧
    (Operation.subtract.on field k).apply strict r >>= (Operation.add.on field k).apply strict
        = .ok r ∧
    (k ≠ 0 →
      let back := (Operation.multiply.on field k).apply strict r >>=
        (Operation.divide.on field k).apply strict
      (back = .ok r ↔ Magnitude.Holds n.natAbs) ∧
      (n.natAbs < Magnitude.bound →
        ∃ m, (Binary64.ofInt n).toInt? = some m ∧ back = .ok (r.set field (.int m))) ∧
      (Magnitude.bound ≤ n.natAbs → back = .error (.excess .quotient))) := by
  refine ⟨?_, ?_, fun hk => ?_⟩
  · have hsub : Operation.subtract.apply (.int (n + k)) (.int k) = .ok (.int n) :=
      congrArg (Except.ok ∘ Number.int) (Int.add_sub_cancel n k)
    rw [apply_on_bind h (m := n + k) rfl, apply_on_set .subtract hsub]
    exact congrArg Except.ok (set_int_eq_self h)
  · have hadd : Operation.add.apply (.int (n - k)) (.int k) = .ok (.int n) :=
      congrArg (Except.ok ∘ Number.int) (Int.sub_add_cancel n k)
    rw [apply_on_bind h (m := n - k) rfl, apply_on_set .add hadd]
    exact congrArg Except.ok (set_int_eq_self h)
  · dsimp only
    refine ⟨?_, fun hbound => ?_, apply_multiply_divide_of_bound strict h hk⟩
    · rcases lt_or_ge n.natAbs Magnitude.bound with hbound | hbound
      · obtain ⟨m, -, hholds, hback⟩ := apply_multiply_divide strict h hk hbound
        rw [hback, ← hholds, Except.ok.injEq]
        constructor
        · intro hset
          have hm := Record.get_set_self r field (.int m)
          rw [hset, h] at hm
          injection hm with hm
          injection hm with hm
          exact hm.symm
        · rintro rfl
          exact set_int_eq_self h
      · rw [apply_multiply_divide_of_bound strict h hk hbound]
        exact iff_of_false nofun fun hholds => hholds.lt_bound.not_ge hbound
    · obtain ⟨m, hnearest, -, hback⟩ := apply_multiply_divide strict h hk hbound
      exact ⟨m, hnearest, hback⟩

/-- A level is restored by each inverse. -/
theorem apply_inverse_level :
    let r : Record := [("level", .int 35), ("load", .int 4)]
    let on (operation : Operation) := (operation.on "level" 5).apply false
    r.get "level" = .int 35 ∧ on .add r >>= on .subtract = .ok r ∧
      on .subtract r >>= on .add = .ok r ∧ on .multiply r >>= on .divide = .ok r := by
  intro r on
  have h : r.get "level" = .int 35 := rfl
  obtain ⟨hadd, hsubtract, hmultiply⟩ := apply_inverse false h 5
  exact ⟨h, hadd, hsubtract,
    (hmultiply (by decide)).1.mpr (Magnitude.holds_of_le (by norm_num))⟩

/-- A count that no float is comes back from a multiplication as its neighbour, and one beyond the
largest float does not come back. -/
theorem inverse_otherwise :
    let back (n : Int) := (Operation.multiply.on "count" 1).apply false [("count", .int n)] >>=
      (Operation.divide.on "count" 1).apply false
    back 9007199254740993 = .ok [("count", .int 9007199254740992)] ∧
      back 9007199254740993 ≠ .ok [("count", .int 9007199254740993)] ∧
      back (10 ^ 400) = .error (.excess .quotient) := by
  intro back
  have hback : back 9007199254740993 = .ok [("count", .int 9007199254740992)] := rfl
  refine ⟨hback, ?_, ?_⟩
  · rw [hback]
    simp [Value.int]
  · exact apply_multiply_divide_of_bound false rfl (by decide) (by decide +kernel)

end Transform

end EventChain
