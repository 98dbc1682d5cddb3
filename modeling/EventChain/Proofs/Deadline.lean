import EventChain.Deadline
import EventChain.Proofs.Failure
import EventChain.Proofs.Number.Writable

/-!
# Deadlines of timeouts

A timeout that allows a span is a positive number that a clock takes, and can be shown: the
computation that its deadline cuts off ends in an overrun of the deadline's code
(`Deadline.ofTimeout?_eq_ok`). Of two deadlines the one that expires first cuts off
(`Deadline.cut?_inner`, `Deadline.cut?_outer`).
-/

namespace EventChain

/-- A timeout that is not positive sets no limit, however many digits it has. -/
theorem Timeout.span?_of_nonpos {n : Int} (h : n ≤ 0) : span? (some (.int n)) = .ok none := by
  have hlong : (Number.int n).isTooLong = false := by
    rw [Number.isTooLong, decide_eq_false (Int.not_lt.mpr h), Bool.false_and]
  have hpos : ¬ (0 : Rat) < (n : Rat) := not_lt.mpr (Int.cast_nonpos.mpr h)
  simp only [span?, hlong, Number.place?, if_neg hpos]
  rfl

theorem Timeout.span?_eq_some {timeout : Timeout} {span : Rat}
    (h : timeout.span? = .ok (some span)) :
    0 < span ∧ ∃ n, timeout = some n ∧ n.Writable := by
  cases timeout with
  | none => cases h
  | some n =>
    rw [span?] at h
    split at h
    · cases h
    · next hlong =>
      split at h
      · next q hplace =>
        obtain ⟨hpos, hq⟩ := Option.ite_none_right_eq_some.mp (pure_eq_ok.mp h)
        cases hq
        refine ⟨hpos, n, rfl, Number.writable_of_not_isTooLong (by simpa using hlong) ?_⟩
        rintro i rfl
        cases hplace
        exact Int.cast_pos.mp hpos
      · cases h

theorem Timeout.span?_eq_error {timeout : Timeout} {excess : Excess}
    (h : timeout.span? = .error excess) : excess = .operand := by
  cases timeout with
  | none => cases h
  | some n =>
    rw [span?] at h
    split at h
    · cases h
      rfl
    · split at h <;> cases h

namespace Deadline

/-- The deadline has a span, and the computation that it cuts off overruns with a code. -/
structure Overruns (d : Deadline) (code : TimeoutCode) : Prop where
  pos : 0 < d.span
  failure : ∃ o, d.failure = .overrun o ∧ o.code = code
  code : d.code = code

section
variable {code : TimeoutCode} {what : String} {context : Record} {timeout : Timeout}

theorem ofTimeout?_eq_ok {span : Option Rat} (h : timeout.span? = .ok span) :
    ∃ d : Option Deadline, ofTimeout? code what context timeout = .ok d ∧
      d.map Deadline.span = span ∧ ∀ x ∈ d, x.Overruns code := by
  cases span with
  | none =>
    refine ⟨none, ?_, rfl, fun x hx => absurd hx (Option.not_mem_none x)⟩
    unfold ofTimeout?
    rw [h]
    rfl
  | some span =>
    obtain ⟨hpos, n, rfl, hn⟩ := Timeout.span?_eq_some h
    obtain ⟨text, htext⟩ := hn.text
    have hfailure : ∃ o, failureOf code what context n = .overrun o ∧ o.code = code := by
      unfold failureOf
      rw [htext]
      exact ⟨_, rfl, rfl⟩
    refine ⟨some ⟨code, span, failureOf code what context n⟩, ?_, rfl, ?_⟩
    · unfold ofTimeout?
      rw [h]
      rfl
    · rintro _ ⟨⟩
      exact ⟨hpos, hfailure, rfl⟩

theorem ofTimeout?_eq_error {excess : Excess} (h : timeout.span? = .error excess) :
    ofTimeout? code what context timeout = .error .operand := by
  cases Timeout.span?_eq_error h
  unfold ofTimeout?
  rw [h]
  rfl

end

/-! ## Two deadlines -/

section
variable {outer inner : Option Deadline} {d : Deadline} {offset : Rat}

theorem of_cut? {cut : Cut} (h : cut? outer offset inner = some cut) :
    (∃ d ∈ outer, cut = ⟨d.span - offset, d⟩) ∨ ∃ d ∈ inner, cut = ⟨d.span, d⟩ := by
  cases outer with
  | none =>
    cases inner with
    | none => cases h
    | some i =>
      cases h
      exact .inr ⟨i, rfl, rfl⟩
  | some o =>
    cases inner with
    | none =>
      cases h
      exact .inl ⟨o, rfl, rfl⟩
    | some i =>
      simp only [cut?, Option.map_some] at h
      split at h
      · cases h
        exact .inl ⟨o, rfl, rfl⟩
      · cases h
        exact .inr ⟨i, rfl, rfl⟩

theorem cut?_inner (h : ∀ o ∈ outer, d.span < o.span - offset) :
    cut? outer offset (some d) = some ⟨d.span, d⟩ := by
  cases outer with
  | none => rfl
  | some o => exact if_neg (Rat.not_le.mpr (h o rfl))

theorem cut?_outer (h : ∀ i ∈ inner, d.span - offset ≤ i.span) :
    cut? (some d) offset inner = some ⟨d.span - offset, d⟩ := by
  cases inner with
  | none => rfl
  | some i => exact if_pos (h i rfl)

end

end Deadline

end EventChain
