import EventChain.Proofs.Lookup
import EventChain.Proofs.Number.Division
import EventChain.Transform

/-!
# Transforms

What a transform does to a record depends on the one field it names, and changes no other
(`apply_eq`). A transform that was read has no zero to divide by, so the only config error that
applying one ends in is an operation that is not known, and that only where transforms are strict
(`apply_eq_config`).
-/

namespace EventChain.Transform

variable {t : Transform}

/-- A division has a divisor other than zero. -/
def WellFormed (t : Transform) : Prop :=
  t.operation = Operation.divide.name → t.operand.isZero = false

theorem read_wellFormed {config : Value} (h : read config = .ok t) : t.WellFormed := by
  obtain ⟨decoded, -, h⟩ := bind_eq_ok.mp h
  split at h
  · split at h
    · simp at h
    split at h
    · dsimp only at h
      split at h
      · simp at h
      split at h
      · simp at h
      · next hzero =>
        cases h
        intro hop
        simpa using not_and.mp hzero hop
    · simp at h
  · simp at h

theorem name_of_ofName? {name : String} {operation : Operation}
    (h : Operation.ofName? name = some operation) : operation.name = name := by
  simpa using List.find?_some h

theorem WellFormed.apply_ne_divisionByZero (hw : t.WellFormed) {operation : Operation}
    (ho : Operation.ofName? t.operation = some operation) {current : Number} :
    operation.apply current t.operand ≠ .error .divisionByZero := by
  intro h
  cases operation with
  | add => exact Number.combine_ne_divisionByZero h
  | subtract => exact Number.combine_ne_divisionByZero h
  | multiply => exact Number.combine_ne_divisionByZero h
  | divide =>
    have hzero := hw (name_of_ofName? ho).symm
    rw [Number.div_eq_divisionByZero h] at hzero
    cases hzero

theorem WellFormed.apply_eq_config (hw : t.WellFormed) {strict : Bool} {r : Record}
    {e : ConfigError} (h : t.apply strict r = .error (.config e)) :
    strict = true ∧ e.fault = .unknownOperation t.operation ∧ e.path = some "operation" := by
  unfold apply at h
  split at h
  · split at h
    · next hstrict =>
      obtain ⟨rfl, -⟩ := Failure.ofConfig_eq_config.mp (Except.error.inj h)
      exact ⟨hstrict, rfl, rfl⟩
    · simp at h
  · next operation ho =>
    refine absurd ⟨e, rfl⟩ (?_ : ¬ (Failure.config e).IsConfig)
    refine configFree_limited_bind (fun current _ => ?_) _ h
    split
    · exact configFree_limited_bind fun _ _ => configFree_pure _
    split
    · exact configFree_pure _
    · next hzero => exact absurd hzero (hw.apply_ne_divisionByZero ho)
    · exact configFree_excess _
    · exact configFree_excess _

/-! ## The field of a transform -/

/-- The number that a transform puts in place of a value, none where it leaves the value. -/
def effect (t : Transform) (strict : Bool) (v : Value) : Except Failure (Option Number) :=
  match Operation.ofName? t.operation with
  | none => if strict then refuse (.unknownOperation t.operation) "operation" else pure none
  | some operation => do
    match ← limited v.toNumber with
    | none =>
      let _ ← limited v.display
      pure none
    | some current =>
      match operation.apply current t.operand with
      | .ok result => pure (some result.normalize)
      | .error .divisionByZero => refuse .divisionByZero "operand"
      | .error .operandTooLarge => throw (.excess .operand)
      | .error .quotientTooLarge => throw (.excess .quotient)

theorem effect_of_number {strict : Bool} {v : Value} {operation : Operation} {n : Number}
    (ho : Operation.ofName? t.operation = some operation) (hn : v.toNumber = .ok (some n)) :
    t.effect strict v = match operation.apply n t.operand with
      | .ok result => .ok (some result.normalize)
      | .error .divisionByZero => refuse .divisionByZero "operand"
      | .error .operandTooLarge => .error (.excess .operand)
      | .error .quotientTooLarge => .error (.excess .quotient) := by
  unfold effect
  rw [ho, hn]
  rfl

def put (r : Record) (field : String) : Option Number → Record
  | some n => r.set field (.number n)
  | none => r

theorem apply_eq (t : Transform) (strict : Bool) (r : Record) :
    t.apply strict r = (t.effect strict (r.get t.field)).map (put r t.field) := by
  unfold apply effect
  cases Operation.ofName? t.operation with
  | none =>
    cases strict with
    | true => rfl
    | false => rfl
  | some operation =>
    dsimp only
    cases (r.get t.field).toNumber with
    | error limit => rfl
    | ok number =>
      cases number with
      | none => cases (r.get t.field).display <;> rfl
      | some current =>
        simp only [limited, pure, Except.pure, bind, Except.bind]
        cases operation.apply current t.operand with
        | ok result => rfl
        | error fault => cases fault <;> rfl

theorem flat_of_effect {strict : Bool} {v : Value} {n : Number}
    (h : t.effect strict v = .ok (some n)) : v.Flat := by
  rintro entries rfl
  unfold effect at h
  cases ho : Operation.ofName? t.operation with
  | none =>
    rw [ho] at h
    cases strict <;> simp at h
  | some operation =>
    rw [ho] at h
    obtain ⟨number, hnumber, h⟩ := bind_eq_ok.mp h
    cases hnumber
    obtain ⟨text, -, h⟩ := bind_eq_ok.mp h
    cases h

end EventChain.Transform
