import EventChain.Proofs.Number.Division
import EventChain.Tally

/-!
# Counted deadlines

A tally counts a deadline under its code, keeps its duration, and leaves the counters of the other
codes as they are. Of a list of deadlines it counts under a code those of that code
(`count_recordAll`).
-/

namespace EventChain.Tally

variable {t : Tally} {code other : TimeoutCode} {expired : List (TimeoutCode × Rat)}

@[simp] theorem update_self {c : Counter} : t.update code c code = c := if_pos rfl

theorem update_of_ne {c : Counter} (h : other ≠ code) : t.update code c other = t other := if_neg h

theorem seconds_float (x : Binary64) : ∃ duration, seconds (.float x) = .ok duration := by
  have hfinite : (Binary64.ofInt 1000).isFinite = true := by decide
  cases hd : x.div? (Binary64.ofInt 1000) with
  | none =>
    obtain ⟨negative, m, hy, hm⟩ := Binary64.div?_eq_none hd
    exact absurd (Binary64.ofInt_ne_zero hy hm) (by decide)
  | some duration =>
    refine ⟨duration, ?_⟩
    have hdiv : (Number.float x).div (.int 1000) = .ok (.float duration) := by
      simp only [Number.div, Number.toFloat, hfinite, if_true, pure_bind, hd]
      rfl
    rw [seconds, hdiv]
    rfl

theorem record_milliseconds (t : Tally) (code : TimeoutCode) (span : Rat) :
    ∃ duration, seconds (milliseconds span) = .ok duration ∧
      (t.record code (milliseconds span)).1 = t.update code ((t code).push duration) := by
  obtain ⟨duration, h⟩ := seconds_float ((Binary64.ofRat span).mul (.ofInt 1000))
  refine ⟨duration, h, ?_⟩
  rw [record, milliseconds, h]

theorem recordAll_append (others : List (TimeoutCode × Rat)) :
    t.recordAll (expired ++ others) = (t.recordAll expired).recordAll others :=
  List.foldl_append ..

theorem recordAll_cons (t : Tally) (e : TimeoutCode × Rat) (expired : List (TimeoutCode × Rat)) :
    ∃ duration, t.recordAll (e :: expired) =
      (t.update e.1 ((t e.1).push duration)).recordAll expired := by
  obtain ⟨duration, -, hrecord⟩ := t.record_milliseconds e.1 e.2
  exact ⟨duration, congrArg (·.recordAll expired) hrecord⟩

theorem count_recordAll (t : Tally) (expired : List (TimeoutCode × Rat)) (code : TimeoutCode) :
    (t.recordAll expired code).count =
      (t code).count + expired.countP fun e => e.1 = code := by
  induction expired generalizing t with
  | nil => rfl
  | cons e rest ih =>
    obtain ⟨duration, hcons⟩ := t.recordAll_cons e rest
    rw [hcons, ih, List.countP_cons]
    by_cases h : e.1 = code
    · subst h
      simp only [update_self, Counter.push, decide_true, if_true]
      omega
    · rw [update_of_ne (Ne.symm h)]
      simp [h]

theorem recordAll_of_forall_ne (t : Tally) (h : ∀ e ∈ expired, e.1 ≠ code) :
    t.recordAll expired code = t code := by
  induction expired generalizing t with
  | nil => rfl
  | cons e rest ih =>
    obtain ⟨hhead, hrest⟩ := List.forall_mem_cons.mp h
    obtain ⟨duration, hcons⟩ := t.recordAll_cons e rest
    rw [hcons, ih _ hrest, update_of_ne hhead.symm]

end EventChain.Tally
