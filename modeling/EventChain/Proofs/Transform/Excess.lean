import EventChain.Proofs.Number.Overflow
import EventChain.Proofs.Transform
import EventChain.Proofs.Value.Unwritable

/-!
# Transforms that fail

Where transforms are lenient, one that was read fails for its numbers only: an integer too large for
a float that it has to become, or a field that is passed over and cannot be shown (`Breaks`). In
every other case it gives a record (`apply_breaks`).
-/

namespace EventChain

/-! ## Arithmetic -/

namespace Number

variable {a b : Number} {fault : ArithmeticFault}

/-- One number is a float, and the other an integer too large to become one. -/
def Clashes : Number → Number → Prop
  | int m, float _ => Magnitude.bound ≤ m.natAbs
  | float _, int n => Magnitude.bound ≤ n.natAbs
  | _, _ => False

/-- The quotient of the two integers, the second not zero, is too large for a float. -/
def Overflows : Number → Number → Prop
  | int m, int n => Magnitude.bound * n.natAbs ≤ m.natAbs
  | _, _ => False

theorem toFloat_int {n : Int} (h : n.natAbs < Magnitude.bound) :
    (int n).toFloat = .ok (Binary64.ofInt n) :=
  if_pos (Binary64.isFinite_ofInt_iff.mpr h)

theorem toFloat_int_of_bound {n : Int} (h : Magnitude.bound ≤ n.natAbs) :
    (int n).toFloat = .error .operandTooLarge :=
  if_neg (mt Binary64.isFinite_ofInt_iff.mp (not_lt.mpr h))

/-- A computation on floats that starts with an integer fails for the integer, or by itself. -/
theorem toFloat_bind_eq_error_iff {α : Type} {n : Int} {f : Binary64 → Except ArithmeticFault α}
    (hf : n.natAbs < Magnitude.bound → ∃ result, f (Binary64.ofInt n) = .ok result) :
    (int n).toFloat >>= f = .error fault ↔
      fault = .operandTooLarge ∧ Magnitude.bound ≤ n.natAbs := by
  rcases lt_or_ge n.natAbs Magnitude.bound with hlt | hge
  · obtain ⟨result, hresult⟩ := hf hlt
    rw [toFloat_int hlt]
    refine iff_of_false (fun h => ?_) fun h => hlt.not_ge h.2
    cases hresult.symm.trans h
  · rw [toFloat_int_of_bound hge]
    constructor
    · intro h
      cases h
      exact ⟨rfl, hge⟩
    · rintro ⟨rfl, -⟩
      rfl

theorem combine_eq_error_iff {exact : Int → Int → Int} {rounded : Binary64 → Binary64 → Binary64} :
    combine exact rounded a b = .error fault ↔ fault = .operandTooLarge ∧ a.Clashes b := by
  cases a with
  | int m =>
    cases b with
    | int n => exact iff_of_false nofun fun h => h.2
    | float y => exact toFloat_bind_eq_error_iff fun _ => ⟨_, rfl⟩
  | float x =>
    cases b with
    | int n => exact toFloat_bind_eq_error_iff (n := n) fun _ => ⟨_, rfl⟩
    | float y => exact iff_of_false nofun fun h => h.2

def quotient (x y : Binary64) : Except ArithmeticFault Number :=
  match x.div? y with
  | some z => pure (float z)
  | none => throw .divisionByZero

theorem div_int_float (m : Int) (y : Binary64) :
    (int m).div (float y) = (int m).toFloat >>= (quotient · y) := rfl

theorem div_float_int (x : Binary64) (n : Int) :
    (float x).div (int n) = (int n).toFloat >>= quotient x := rfl

theorem div_float_float (x y : Binary64) : (float x).div (float y) = quotient x y := rfl

theorem quotient_total (x : Binary64) {y : Binary64} (hb : b.isZero = false)
    (hy : b.toFloat = .ok y) : ∃ result, quotient x y = .ok result := by
  unfold quotient
  cases h : x.div? y with
  | some z => exact ⟨_, rfl⟩
  | none =>
    obtain ⟨negative, m, rfl, hm⟩ := Binary64.div?_eq_none h
    cases (isZero_of_toFloat hy hm).symm.trans hb

theorem div_int_eq_error_iff {m n : Int} (hn : n ≠ 0) :
    (int m).div (int n) = .error fault ↔ fault = .quotientTooLarge ∧ (int m).Overflows (int n) := by
  have hfinite : (Binary64.ofQuotient (decide (m < 0) != decide (n < 0)) m.natAbs n.natAbs).isFinite
      = true ↔ m.natAbs < Magnitude.bound * n.natAbs :=
    Binary64.isFinite_ofQuotient_iff _ (Int.natAbs_pos.mpr hn)
  simp only [div, if_neg hn]
  split
  · next h => exact iff_of_false nofun fun hlarge => (hfinite.mp h).not_ge hlarge.2
  · next h =>
    constructor
    · intro herror
      cases herror
      exact ⟨rfl, not_lt.mp (mt hfinite.mpr h)⟩
    · rintro ⟨rfl, -⟩
      rfl

theorem div_eq_error_iff (hb : b.isZero = false) :
    a.div b = .error fault ↔
      fault = .operandTooLarge ∧ a.Clashes b ∨ fault = .quotientTooLarge ∧ a.Overflows b := by
  cases a with
  | int m =>
    cases b with
    | int n =>
      have hn : n ≠ 0 := by
        rintro rfl
        cases isZero_int_zero.symm.trans hb
      simp [div_int_eq_error_iff hn, Clashes]
    | float y =>
      rw [div_int_float, toFloat_bind_eq_error_iff (f := (quotient · y)) fun _ =>
        quotient_total _ hb rfl]
      simp [Clashes, Overflows]
  | float x =>
    cases b with
    | int n =>
      rw [div_float_int, toFloat_bind_eq_error_iff fun h => quotient_total x hb (toFloat_int h)]
      simp [Clashes, Overflows]
    | float y =>
      obtain ⟨result, hresult⟩ := quotient_total x hb rfl
      simp [div_float_float, hresult, Clashes, Overflows]

end Number

/-- Where an operation has no result, the second number not zero in a division. -/
theorem Operation.apply_eq_error_iff {operation : Operation} {a b : Number}
    (hb : operation = .divide → b.isZero = false) (fault : ArithmeticFault) :
    operation.apply a b = .error fault ↔ fault = .operandTooLarge ∧ a.Clashes b ∨
      fault = .quotientTooLarge ∧ operation = .divide ∧ a.Overflows b := by
  cases operation with
  | divide => exact (Number.div_eq_error_iff (hb rfl)).trans (by simp)
  | add | subtract | multiply => exact Number.combine_eq_error_iff.trans (by simp)

namespace Transform

/-! ## What a transform fails for -/

inductive Breaks (t : Transform) (v : Value) : Failure → Prop
  /-- A value that is no number is passed over, which is reported, but has no text. -/
  | text {operation : Operation} (known : Operation.ofName? t.operation = some operation)
      (kind : v.kind ≠ .number) (unwritable : ¬ v.Writable) : Breaks t v (.digitLimit .writing)
  /-- The number or the operand has to become a float, and is too large for one. -/
  | operand {operation : Operation} {n : Number}
      (known : Operation.ofName? t.operation = some operation) (number : v.toNumber = .ok (some n))
      (clash : n.Clashes t.operand) : Breaks t v (.excess .operand)
  /-- The quotient is too large for a float. -/
  | quotient {n : Number} (known : Operation.ofName? t.operation = some .divide)
      (number : v.toNumber = .ok (some n)) (overflow : n.Overflows t.operand) :
      Breaks t v (.excess .quotient)

variable {t : Transform} {v : Value} {failure : Failure}

theorem known_of_breaks (h : t.Breaks v failure) :
    ∃ operation, Operation.ofName? t.operation = some operation := by
  cases h with
  | text known | operand known | quotient known => exact ⟨_, known⟩

/-- A value that counts as no number, or cannot be coerced, fails where it is not writable. -/
theorem unwritable_iff {limit : DigitLimit} :
    (v.toNumber = .error limit ∨ v.toNumber = .ok none ∧ v.display = .error limit) ↔
      v.kind ≠ .number ∧ ¬ v.Writable ∧ limit = .writing := by
  constructor
  · intro h
    have hv : ¬ v.Writable := by
      intro hv
      obtain ⟨n, hn⟩ := hv.toNumber
      obtain ⟨text, ht⟩ := hv.display
      rcases h with h | ⟨-, h⟩
      · cases hn.symm.trans h
      · cases ht.symm.trans h
    have hkind : v.kind ≠ .number := by
      intro hkind
      cases v with
      | number n =>
        cases n with
        | int n => rcases h with h | ⟨h, -⟩ <;> cases h
        | float x => exact hv trivial
      | _ => cases hkind
    refine ⟨hkind, hv, ?_⟩
    rcases h with h | ⟨-, h⟩
    · rcases Value.toNumber_of_not_writable hv hkind with h' | h'
      · exact Except.error.inj (h.symm.trans h')
      · cases h.symm.trans h'
    · exact Except.error.inj (h.symm.trans (Value.display_of_not_writable hv))
  · rintro ⟨hkind, hv, rfl⟩
    rcases Value.toNumber_of_not_writable hv hkind with h | h
    · exact .inl h
    · exact .inr ⟨h, Value.display_of_not_writable hv⟩

theorem breaks_iff_of_no_number {operation : Operation}
    (known : Operation.ofName? t.operation = some operation)
    (hn : ∀ n, v.toNumber ≠ .ok (some n)) :
    t.Breaks v failure ↔ v.kind ≠ .number ∧ ¬ v.Writable ∧ failure = .digitLimit .writing := by
  constructor
  · intro h
    cases h with
    | text _ kind unwritable => exact ⟨kind, unwritable, rfl⟩
    | operand _ number | quotient _ number => exact absurd number (hn _)
  · rintro ⟨kind, unwritable, rfl⟩
    exact .text known kind unwritable

theorem breaks_iff_of_number {operation : Operation} {n : Number}
    (known : Operation.ofName? t.operation = some operation) (hn : v.toNumber = .ok (some n)) :
    t.Breaks v failure ↔ failure = .excess .operand ∧ n.Clashes t.operand ∨
      failure = .excess .quotient ∧ operation = .divide ∧ n.Overflows t.operand := by
  constructor
  · intro h
    cases h with
    | text _ kind unwritable =>
      rcases Value.toNumber_of_not_writable unwritable kind with h | h <;> cases hn.symm.trans h
    | operand _ number clash =>
      cases hn.symm.trans number
      exact .inl ⟨rfl, clash⟩
    | quotient known' number overflow =>
      cases hn.symm.trans number
      cases known.symm.trans known'
      exact .inr ⟨rfl, rfl, overflow⟩
  · rintro (⟨rfl, clash⟩ | ⟨rfl, rfl, overflow⟩)
    · exact .operand known hn clash
    · exact .quotient known hn overflow

theorem effect_of_no_number {operation : Operation} {strict : Bool}
    (known : Operation.ofName? t.operation = some operation)
    (hn : ∀ n, v.toNumber ≠ .ok (some n)) :
    t.effect strict v = .error failure ↔ ∃ limit, failure = .digitLimit limit ∧
      (v.toNumber = .error limit ∨ v.toNumber = .ok none ∧ v.display = .error limit) := by
  unfold effect
  rw [known]
  dsimp only
  rw [bind_eq_error, limited_eq_error]
  constructor
  · rintro (⟨limit, h, rfl⟩ | ⟨number, h, herror⟩)
    · exact ⟨limit, rfl, .inl h⟩
    · rw [limited_eq_ok] at h
      cases number with
      | some n => exact absurd h (hn n)
      | none =>
        rcases bind_eq_error.mp herror with herror | ⟨text, -, herror⟩
        · obtain ⟨limit, hdisplay, rfl⟩ := limited_eq_error.mp herror
          exact ⟨limit, rfl, .inr ⟨h, hdisplay⟩⟩
        · cases herror
  · rintro ⟨limit, rfl, h | ⟨h, hdisplay⟩⟩
    · exact .inl ⟨limit, h, rfl⟩
    · exact .inr ⟨none, limited_eq_ok.mpr h,
        bind_eq_error.mpr (.inl (limited_eq_error.mpr ⟨limit, hdisplay, rfl⟩))⟩

theorem WellFormed.effect_eq_error_of_number (hw : t.WellFormed) {operation : Operation}
    {strict : Bool} {n : Number} (known : Operation.ofName? t.operation = some operation)
    (hn : v.toNumber = .ok (some n)) :
    t.effect strict v = .error failure ↔ failure = .excess .operand ∧ n.Clashes t.operand ∨
      failure = .excess .quotient ∧ operation = .divide ∧ n.Overflows t.operand := by
  have hb : operation = .divide → t.operand.isZero = false := by
    rintro rfl
    exact hw (name_of_ofName? known).symm
  have hfault := Operation.apply_eq_error_iff (a := n) hb
  have hoperand : n.Clashes t.operand ↔ operation.apply n t.operand = .error .operandTooLarge := by
    simp [hfault]
  have hquotient : operation = .divide ∧ n.Overflows t.operand ↔
      operation.apply n t.operand = .error .quotientTooLarge := by
    simp [hfault]
  have hzero : operation.apply n t.operand ≠ .error .divisionByZero := by
    simp [hfault]
  -- Both sides speak of the outcome of the operation now.
  rw [effect_of_number known hn, hoperand, hquotient]
  generalize operation.apply n t.operand = outcome at hzero
  rcases outcome with (_ | _ | _) | result
  · simp [eq_comm]
  · simp [eq_comm]
  · exact absurd rfl hzero
  · simp

theorem WellFormed.effect_eq_error_iff (hw : t.WellFormed) :
    t.effect false v = .error failure ↔ t.Breaks v failure := by
  cases ho : Operation.ofName? t.operation with
  | none =>
    unfold effect
    rw [ho]
    refine iff_of_false nofun fun h => ?_
    obtain ⟨operation, known⟩ := known_of_breaks h
    cases ho.symm.trans known
  | some operation =>
    by_cases hn : ∃ n, v.toNumber = .ok (some n)
    · obtain ⟨n, hn⟩ := hn
      rw [hw.effect_eq_error_of_number ho hn, breaks_iff_of_number ho hn]
    · have hnone := not_exists.mp hn
      rw [effect_of_no_number ho hnone, breaks_iff_of_no_number ho hnone]
      simp only [unwritable_iff]
      constructor
      · rintro ⟨limit, rfl, hkind, hv, rfl⟩
        exact ⟨hkind, hv, rfl⟩
      · rintro ⟨hkind, hv, rfl⟩
        exact ⟨_, rfl, hkind, hv, rfl⟩

theorem WellFormed.apply_eq_error_iff (hw : t.WellFormed) {r : Record} :
    t.apply false r = .error failure ↔ t.Breaks (r.get t.field) failure := by
  rw [apply_eq, ← hw.effect_eq_error_iff]
  cases t.effect false (r.get t.field) <;> simp [Except.map]

/-- A transform that was read gives a record, unless it breaks for the value of its field. -/
theorem apply_breaks {config : Value} (h : read config = .ok t) (r : Record) :
    (∀ failure, t.apply false r = .error failure ↔ t.Breaks (r.get t.field) failure) ∧
    ((∀ failure, ¬ t.Breaks (r.get t.field) failure) → ∃ r', t.apply false r = .ok r') := by
  have hw := read_wellFormed h
  refine ⟨fun failure => hw.apply_eq_error_iff, fun hnone => ?_⟩
  cases hresult : t.apply false r with
  | ok r' => exact ⟨r', rfl⟩
  | error failure => exact absurd (hw.apply_eq_error_iff.mp hresult) (hnone failure)

/-- Halving fails for an integer of which the half is too large, and gives a record for seven. -/
theorem apply_breaks_half :
    let config : Value :=
      .object [("field", .text "level"), ("operation", .text "divide"), ("operand", .int 2)]
    let halve : Transform := ⟨"level", "divide", .int 2⟩
    read config = .ok halve ∧
      halve.apply false [("level", .int (10 ^ 400))] = .error (.excess .quotient) ∧
      ∃ r', halve.apply false [("level", .int 7)] = .ok r' := by
  intro config halve
  have hread : read config = .ok halve := rfl
  refine ⟨hread, ?_, ?_⟩
  · refine ((apply_breaks hread _).1 _).mpr (.quotient (n := .int (10 ^ 400)) rfl rfl ?_)
    show Magnitude.bound * (2 : Int).natAbs ≤ (10 ^ 400 : Int).natAbs
    decide +kernel
  · refine (apply_breaks hread _).2 fun failure hbreaks => ?_
    cases hbreaks with
    | text known kind unwritable => exact kind rfl
    | operand known number clash =>
      cases number
      exact clash
    | quotient known number overflow =>
      cases number
      have hle : Magnitude.bound * (2 : Int).natAbs ≤ (7 : Int).natAbs := overflow
      exact absurd hle (by decide +kernel)

/-- Transforms that were read fail for records as they come in: a division by one and an addition of
a half for an integer too large for a float, and any for an array with an integer that has no text.
-/
theorem breaks_otherwise :
    let config (operation : String) (operand : Value) : Value :=
      .object [("field", .text "v"), ("operation", .text operation), ("operand", operand)]
    let half := Binary64.ofQuotient false 1 2
    let n : Int := 10 ^ DigitLimit.most
    read (config "divide" (.int 1)) = .ok ⟨"v", "divide", .int 1⟩ ∧
      apply ⟨"v", "divide", .int 1⟩ false [("v", .int (10 ^ 400))] = .error (.excess .quotient) ∧
      read (config "add" (.number (.float half))) = .ok ⟨"v", "add", .float half⟩ ∧
      apply ⟨"v", "add", .float half⟩ false [("v", .int (10 ^ 400))] = .error (.excess .operand) ∧
      read (config "add" (.int 1)) = .ok ⟨"v", "add", .int 1⟩ ∧
      apply ⟨"v", "add", .int 1⟩ false [("v", .array [.int n])] =
        .error (.digitLimit .writing) := by
  intro config half n
  have hdivide : read (config "divide" (.int 1)) = .ok ⟨"v", "divide", .int 1⟩ := rfl
  have hadd : read (config "add" (.number (.float half))) = .ok ⟨"v", "add", .float half⟩ := rfl
  have hone : read (config "add" (.int 1)) = .ok ⟨"v", "add", .int 1⟩ := rfl
  have hbound : Magnitude.bound ≤ (10 ^ 400 : Int).natAbs := by decide +kernel
  refine ⟨hdivide, ?_, hadd, ?_, hone, ?_⟩
  · have hoverflow : (Number.int (10 ^ 400)).Overflows (.int 1) := by
      rw [Number.Overflows, Int.natAbs_one, Nat.mul_one]
      exact hbound
    exact (read_wellFormed hdivide).apply_eq_error_iff.mpr (.quotient rfl rfl hoverflow)
  · exact (read_wellFormed hadd).apply_eq_error_iff.mpr
      (.operand (n := .int (10 ^ 400)) rfl rfl hbound)
  · have hdigits : 10 ^ DigitLimit.most ≤ n.natAbs := by
      rw [Int.natAbs_pow]
      exact Nat.pow_le_pow_left (by decide) _
    exact (read_wellFormed hone).apply_eq_error_iff.mpr
      (.text rfl nofun fun hwritable => hdigits.not_gt hwritable.1)

end Transform

end EventChain
