import EventChain.Time.Timestamp
import Mathlib.Tactic.SplitIfs

/-!
# Instants

The calendar ends with the year 9999, so instants are bounded (`Timestamp.natAbs_instant_lt`). A
timestamp without an offset has the instant that it has with the offset of UTC.
-/

namespace EventChain

theorem Calendar.daysInMonth_le (year month : Nat) : daysInMonth year month ≤ 31 := by
  unfold daysInMonth
  split_ifs <;> omega

theorem Calendar.daysBeforeYear_le (year : Nat) : daysBeforeYear year ≤ 366 * year := by
  unfold daysBeforeYear
  dsimp only
  omega

theorem Calendar.daysBeforeMonth_le (year month : Nat) :
    daysBeforeMonth year month ≤ 31 * (month - 1) := by
  have hfold (months : List Nat) (days : Nat) :
      months.foldl (fun days m => days + daysInMonth year m) days ≤ days + 31 * months.length := by
    induction months generalizing days with
    | nil => exact Nat.le_refl _
    | cons m rest ih =>
      have hmonth := daysInMonth_le year m
      have hrest := ih (days + daysInMonth year m)
      rw [List.foldl_cons, List.length_cons]
      omega
  simpa [daysBeforeMonth] using hfold (List.range' 1 (month - 1)) 0

theorem Date.ordinal_lt (d : Date) : d.ordinal < 3700000 := by
  obtain ⟨year, month, day, hyear, hlast, hmonth, hdecember, hday, hend⟩ := d
  have hbefore := Calendar.daysBeforeYear_le year
  have hmonths := Calendar.daysBeforeMonth_le year month
  have hdays := Calendar.daysInMonth_le year month
  unfold ordinal
  dsimp only
  omega

theorem TimeOfDay.micros_lt (t : TimeOfDay) : t.micros < dayMicros := by
  obtain ⟨hour, minute, second, micro, hhour, hminute, hsecond, hmicro⟩ := t
  unfold micros dayMicros
  dsimp only
  omega

namespace Timestamp

/-- Instants are less than ten thousand years before or after the start of 1970. -/
theorem natAbs_instant_lt (t : Timestamp) : t.instant.natAbs < 320000000000000000 := by
  obtain ⟨date, time, offset⟩ := t
  have hdate := date.ordinal_lt
  have htime := time.micros_lt
  cases offset with
  | none =>
    simp only [instant, epochDay, dayMicros] at htime ⊢
    omega
  | some o =>
    have hoffset := o.lt_day
    simp only [instant, epochDay, dayMicros] at htime hoffset ⊢
    omega

/-! ## The offset of UTC -/

theorem instant_asUtc (t : Timestamp) : t.asUtc.instant = t.instant := by
  obtain ⟨date, time, offset⟩ := t
  cases offset <;> rfl

theorem isNaive_asUtc (t : Timestamp) : t.asUtc.isNaive = false := by
  obtain ⟨date, time, offset⟩ := t
  cases offset <;> rfl

end Timestamp

end EventChain
