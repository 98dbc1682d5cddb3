import EventChain.Proofs.Failure
import EventChain.Proofs.Value.Coercion

/-!
# Loose comparison, conversion by conversion

Comparing two values loosely either has an answer at once or comes to comparing them with one of the
two converted (`looseTurn`): a boolean and a timestamp to a number, an array to text. What is
converted is never converted again, so there are two conversions at most, and the outcome is that of
`looseEquals` (`exists_compares`). In which order the values are given does not matter
(`looseEquals_comm`).
-/

namespace EventChain

theorem Number.equals_comm (m n : Number) : m.equals n = n.equals m := by
  unfold equals compareWith
  cases m.place? with
  | none => cases n.place? <;> rfl
  | some p =>
    cases n.place? with
    | none => rfl
    | some q => exact decide_eq_decide.mpr eq_comm

theorem Timestamp.equals_comm (s t : Timestamp) : s.equals t = t.equals s := by
  unfold equals
  rw [BEq.comm (a := s.isNaive), BEq.comm (a := s.instant)]

namespace Value

variable {operands : Operands} {a b : Value}

/-! ## The order of the values -/

theorem identical_bytes_comm (s t : List UInt8) :
    identical operands (bytes s) (bytes t) = identical operands (bytes t) (bytes s) := by
  by_cases h : s = t
  · rw [h]
  · have hleft : (s == t) = false := beq_false_of_ne h
    have hright : (t == s) = false := beq_false_of_ne (Ne.symm h)
    dsimp only [identical]
    rw [hleft, hright, Bool.and_false, Bool.and_false]

theorem looseSettled_comm (a b : Value) :
    looseSettled operands a b = looseSettled operands b a := by
  cases a with
  | number m =>
    cases b with
    | number n => exact congrArg Except.ok (m.equals_comm n)
    | _ => rfl
  | text s =>
    cases b with
    | text t => exact congrArg Except.ok BEq.comm
    | array items =>
      dsimp only [looseSettled]
      cases toText (array items) with
      | error limit => rfl
      | ok shown => exact congrArg Except.ok BEq.comm
    | _ => rfl
  | timestamp s =>
    cases b with
    | timestamp t => exact congrArg Except.ok (s.equals_comm t)
    | _ => rfl
  | array items =>
    cases b with
    | text t =>
      dsimp only [looseSettled]
      cases toText (array items) with
      | error limit => rfl
      | ok shown => exact congrArg Except.ok BEq.comm
    | _ => rfl
  | bytes s =>
    cases b with
    | bytes t => exact congrArg Except.ok (congrArg (true && ·) (identical_bytes_comm s t))
    | _ => rfl
  | _ => cases b <;> rfl

theorem looseEquals_comm (operands : Operands) (a b : Value) :
    looseEquals operands a b = looseEquals operands b a := by
  unfold looseEquals
  rw [Bool.or_comm, Bool.and_comm (a.isNull), Bool.and_comm (decide (a.kind = .timestamp))]
  exact ite_congr rfl (fun _ => rfl) fun _ => looseSettled_comm _ _

/-! ## One conversion -/

/-- What comparing two values comes to: an answer, or comparing two others. -/
inductive Turn where
  | settled (answer : Bool)
  | further (a b : Value)

/-- The value that stands for the number that a value counts as, null where it counts as none. -/
def counted (v : Value) : Except DigitLimit Value := do
  match ← v.toNumber with
  | some n => pure (.number n)
  | none => pure .null

/-- Compares two values as far as the first conversion of one of them. Booleans are converted before
timestamps, these before arrays, and the left value before the right one. -/
def looseTurn (operands : Operands) (a b : Value) : Except DigitLimit Turn := do
  if a.kind = .null ∨ b.kind = .null then pure (.settled (a.kind = b.kind))
  else if a.kind = .boolean then pure (.further (← a.counted) b)
  else if b.kind = .boolean then pure (.further a (← b.counted))
  else if a.kind = .timestamp ∧ b.kind ≠ .timestamp then pure (.further (← a.counted) b)
  else if b.kind = .timestamp ∧ a.kind ≠ .timestamp then pure (.further a (← b.counted))
  else if a.kind = b.kind then
    if a.kind = .array ∨ a.kind = .object then pure (.settled (identical operands a b))
    else pure (.settled (a.agrees b))
  else if a.kind = .array ∧ (b.kind = .number ∨ b.kind = .string) then
    pure (.further (.text (← a.toText)) b)
  else if b.kind = .array ∧ (a.kind = .number ∨ a.kind = .string) then
    pure (.further a (.text (← b.toText)))
  else if (a.kind = .number ∨ a.kind = .string) ∧ (b.kind = .number ∨ b.kind = .string) then
    match ← a.toNumber, ← b.toNumber with
    | some m, some n => pure (.settled (m.equals n))
    | _, _ => pure (.settled false)
  else pure (.settled false)

def Turn.outcome (operands : Operands) : Turn → Except DigitLimit Bool
  | settled answer => pure answer
  | further a b => looseEquals operands a b

theorem looseTurn_number_text (m : Number) (s : String) :
    looseTurn operands (number m) (text s) =
      .ok (.settled (looseSettled.textIsNumber s m)) := by
  show (match m.finite?, Number.ofText? s with
    | some m, some n => pure (Turn.settled (m.equals n))
    | _, _ => pure (Turn.settled false)) = _
  unfold looseSettled.textIsNumber
  cases m.finite? with
  | none => cases Number.ofText? s <;> rfl
  | some m =>
    cases Number.ofText? s with
    | none => rfl
    | some n => exact congrArg (Except.ok ∘ Turn.settled) (m.equals_comm n)

theorem looseTurn_text_number (s : String) (n : Number) :
    looseTurn operands (text s) (number n) =
      .ok (.settled (looseSettled.textIsNumber s n)) := by
  show (match Number.ofText? s, n.finite? with
    | some m, some n => pure (Turn.settled (m.equals n))
    | _, _ => pure (Turn.settled false)) = _
  unfold looseSettled.textIsNumber
  cases Number.ofText? s with
  | none => rfl
  | some m => cases n.finite? <;> rfl

/-- Loose equality is what is left of it after a conversion. -/
theorem looseEquals_eq_bind (a b : Value) :
    looseEquals operands a b = looseTurn operands a b >>= Turn.outcome operands := by
  cases a with
  | number m =>
    cases b with
    | text s =>
      rw [looseTurn_number_text]
      rfl
    | array items =>
      show (toText (array items) >>= fun shown => pure (looseSettled.textIsNumber shown m)) =
        (toText (array items) >>= fun shown => pure (Turn.further (number m) (text shown))) >>=
          Turn.outcome operands
      cases toText (array items) <;> rfl
    | _ => rfl
  | text s =>
    cases b with
    | number n =>
      rw [looseTurn_text_number]
      rfl
    | array items =>
      show (toText (array items) >>= fun shown => pure (s == shown)) =
        (toText (array items) >>= fun shown => pure (Turn.further (text s) (text shown))) >>=
          Turn.outcome operands
      cases toText (array items) <;> rfl
    | _ => rfl
  | array items =>
    cases b with
    | number n =>
      show (toText (array items) >>= fun shown => pure (looseSettled.textIsNumber shown n)) =
        (toText (array items) >>= fun shown => pure (Turn.further (text shown) (number n))) >>=
          Turn.outcome operands
      cases toText (array items) <;> rfl
    | text s =>
      show (toText (array items) >>= fun shown => pure (shown == s)) =
        (toText (array items) >>= fun shown => pure (Turn.further (text shown) (text s))) >>=
          Turn.outcome operands
      cases toText (array items) <;> rfl
    | _ => rfl
  | _ => cases b <;> rfl

/-! ## The end of a comparison -/

/-- The conversions that a value has before it. -/
def conversions (v : Value) : Nat :=
  match v.kind with
  | .boolean | .timestamp | .array => 1
  | .null | .number | .string | .object => 0

theorem conversions_le (v : Value) : v.conversions ≤ 1 := by
  unfold conversions
  split <;> omega

/-- A value and what it is converted to: its number, or the text of an array. -/
inductive Converts : Value → Value → Prop where
  | counted {v w : Value} (hv : v.kind = .boolean ∨ v.kind = .timestamp) (h : v.counted = .ok w) :
      Converts v w
  | shown {v : Value} {s : String} (hv : v.kind = .array) (h : v.toText = .ok s) :
      Converts v (.text s)

/-- What is converted is not converted again. -/
theorem Converts.conversions {v w : Value} (h : Converts v w) :
    w.conversions + 1 = v.conversions := by
  cases h with
  | counted hv h =>
    cases v with
    | boolean | timestamp =>
      cases h
      rfl
    | _ => simp [kind] at hv
  | shown hv _ =>
    unfold Value.conversions
    rw [hv]
    rfl

theorem converts_of_further {a' b' : Value} (h : looseTurn operands a b = .ok (.further a' b')) :
    Converts a a' ∧ b' = b ∨ a' = a ∧ Converts b b' := by
  unfold looseTurn at h
  split at h
  · cases h
  split at h
  · next hkind =>
    obtain ⟨w, hw, h⟩ := bind_eq_ok.mp h
    cases h
    exact .inl ⟨.counted (.inl hkind) hw, rfl⟩
  split at h
  · next hkind =>
    obtain ⟨w, hw, h⟩ := bind_eq_ok.mp h
    cases h
    exact .inr ⟨rfl, .counted (.inl hkind) hw⟩
  split at h
  · next hkind =>
    obtain ⟨w, hw, h⟩ := bind_eq_ok.mp h
    cases h
    exact .inl ⟨.counted (.inr hkind.1) hw, rfl⟩
  split at h
  · next hkind =>
    obtain ⟨w, hw, h⟩ := bind_eq_ok.mp h
    cases h
    exact .inr ⟨rfl, .counted (.inr hkind.1) hw⟩
  split at h
  · split at h <;> cases h
  split at h
  · next hkind =>
    obtain ⟨s, hs, h⟩ := bind_eq_ok.mp h
    cases h
    exact .inl ⟨.shown hkind.1 hs, rfl⟩
  split at h
  · next hkind =>
    obtain ⟨s, hs, h⟩ := bind_eq_ok.mp h
    cases h
    exact .inr ⟨rfl, .shown hkind.1 hs⟩
  split at h
  · obtain ⟨m, -, h⟩ := bind_eq_ok.mp h
    obtain ⟨n, -, h⟩ := bind_eq_ok.mp h
    split at h <;> cases h
  · cases h

theorem conversions_of_further {a' b' : Value}
    (h : looseTurn operands a b = .ok (.further a' b')) :
    a'.conversions + b'.conversions + 1 = a.conversions + b.conversions := by
  rcases converts_of_further h with ⟨ha, rfl⟩ | ⟨rfl, hb⟩
  · have := ha.conversions
    omega
  · have := hb.conversions
    omega

/-- Comparing two values has an outcome after a number of conversions. -/
inductive Compares (operands : Operands) : Nat → Value → Value → Except DigitLimit Bool → Prop where
  | settled {a b : Value} {answer : Bool} (h : looseTurn operands a b = .ok (.settled answer)) :
      Compares operands 0 a b (.ok answer)
  | failed {a b : Value} {limit : DigitLimit} (h : looseTurn operands a b = .error limit) :
      Compares operands 0 a b (.error limit)
  | further {a b a' b' : Value} {n : Nat} {outcome : Except DigitLimit Bool}
      (h : looseTurn operands a b = .ok (.further a' b'))
      (hrest : Compares operands n a' b' outcome) : Compares operands (n + 1) a b outcome

/-- A comparison ends: each conversion leaves fewer of them. -/
theorem exists_compares (operands : Operands) (a b : Value) :
    ∃ n ≤ a.conversions + b.conversions, Compares operands n a b (looseEquals operands a b) := by
  generalize hleft : a.conversions + b.conversions = left
  induction left using Nat.strongRecOn generalizing a b with
  | _ left ih =>
    rw [looseEquals_eq_bind]
    cases hturn : looseTurn operands a b with
    | error limit => exact ⟨0, Nat.zero_le _, .failed hturn⟩
    | ok turn =>
      cases turn with
      | settled answer => exact ⟨0, Nat.zero_le _, .settled hturn⟩
      | further a' b' =>
        have hfewer := conversions_of_further hturn
        obtain ⟨n, hn, hrest⟩ := ih (a'.conversions + b'.conversions) (by omega) a' b' rfl
        exact ⟨n + 1, by omega, .further hturn hrest⟩

/-- Values whose integers have decimal text are loosely equal or not. The comparison ends with that
answer after two conversions at most, in either order. -/
theorem looseEquals_symmetric (operands : Operands) {a b : Value} (ha : a.Writable)
    (hb : b.Writable) :
    ∃ answer, looseEquals operands a b = .ok answer ∧ looseEquals operands b a = .ok answer ∧
      (∃ n ≤ 2, Compares operands n a b (.ok answer)) ∧
      ∃ n ≤ 2, Compares operands n b a (.ok answer) := by
  obtain ⟨answer, hanswer⟩ := ha.looseEquals operands hb
  have hcomm : looseEquals operands b a = .ok answer := by rw [looseEquals_comm, hanswer]
  have hle : a.conversions + b.conversions ≤ 2 := Nat.add_le_add a.conversions_le b.conversions_le
  refine ⟨answer, hanswer, hcomm, ?_, ?_⟩
  · obtain ⟨n, hn, hcompares⟩ := exists_compares operands a b
    exact ⟨n, hn.trans hle, hanswer ▸ hcompares⟩
  · obtain ⟨n, hn, hcompares⟩ := exists_compares operands b a
    exact ⟨n, by omega, hcomm ▸ hcompares⟩

/-- Milliseconds in a text within two arrays, and the timestamp that they are. -/
theorem looseEquals_symmetric_instant :
    let t : Timestamp := ⟨⟨2024, 6, 1, by decide⟩, .midnight, none⟩
    let nested : Value := .array [.array [.text "1717200000000"]]
    nested.Writable ∧ (timestamp t).Writable ∧
      looseEquals .apart nested (timestamp t) = .ok true ∧
      looseEquals .apart (timestamp t) nested = .ok true ∧
      (∃ n ≤ 2, Compares .apart n nested (timestamp t) (.ok true)) ∧
      ∃ n ≤ 2, Compares .apart n (timestamp t) nested (.ok true) := by
  intro t nested
  have hnested : nested.Writable := ⟨⟨trivial, trivial⟩, trivial⟩
  have htrue : looseEquals .apart nested (timestamp t) = .ok true := by decide +kernel
  obtain ⟨answer, hleft, hright, hends, hback⟩ :=
    looseEquals_symmetric .apart hnested (show (timestamp t).Writable from trivial)
  obtain rfl : answer = true := Except.ok.inj (hleft.symm.trans htrue)
  exact ⟨hnested, trivial, hleft, hright, hends, hback⟩

end Value

end EventChain
