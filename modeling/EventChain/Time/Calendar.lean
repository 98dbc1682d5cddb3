/-!
# Calendar dates

Dates of the proleptic Gregorian calendar from year 1 to year 9999. `Date.ordinal` numbers
the days, day 1 being January 1 of year 1, `Date.ofOrdinal?` is its inverse, and
`Date.ofWeek?` reads a year, week and weekday of the ISO week calendar.
-/

namespace EventChain

namespace Calendar

def isLeap (year : Nat) : Bool := year % 4 = 0 ∧ (year % 100 ≠ 0 ∨ year % 400 = 0)

def daysInMonth (year month : Nat) : Nat :=
  if month = 2 then (if isLeap year then 29 else 28)
  else if month = 4 ∨ month = 6 ∨ month = 9 ∨ month = 11 then 30
  else 31

/-- The number of days before January 1 of a year. -/
def daysBeforeYear (year : Nat) : Nat :=
  let y := year - 1
  365 * y + y / 4 - y / 100 + y / 400

/-- The number of days of a year before the first of a month. -/
def daysBeforeMonth (year month : Nat) : Nat :=
  (List.range' 1 (month - 1)).foldl (fun days m => days + daysInMonth year m) 0

def IsDate (year month day : Nat) : Prop :=
  1 ≤ year ∧ year ≤ 9999 ∧ 1 ≤ month ∧ month ≤ 12 ∧ 1 ≤ day ∧ day ≤ daysInMonth year month

instance (year month day : Nat) : Decidable (IsDate year month day) := by
  unfold IsDate; infer_instance

end Calendar

structure Date where
  year : Nat
  month : Nat
  day : Nat
  isDate : Calendar.IsDate year month day
  deriving DecidableEq

namespace Date

open Calendar

def of? (year month day : Nat) : Option Date :=
  if h : IsDate year month day then some ⟨year, month, day, h⟩ else none

/-- The number of a day, counted from January 1 of year 1 as day 1. -/
def ordinal (d : Date) : Nat := daysBeforeYear d.year + daysBeforeMonth d.year d.month + d.day

/-- The month and day of the `n`-th day of a year, `n` counted from 0. -/
def monthAndDay (year : Nat) : Nat → Nat → Nat → Nat × Nat
  | 0, month, n => (month, n + 1)
  | months + 1, month, n =>
    let days := daysInMonth year month
    if n < days then (month, n + 1) else monthAndDay year months (month + 1) (n - days)

/-- The day with a number, found through the cycles of 400, 100, 4 and 1 years. -/
def ofOrdinal? (ordinal : Int) : Option Date :=
  if ordinal < 1 then none
  else
    let n := (ordinal - 1).toNat
    let (n400, n) := (n / 146097, n % 146097)
    let (n100, n) := (n / 36524, n % 36524)
    let (n4, n) := (n / 1461, n % 1461)
    let (n1, n) := (n / 365, n % 365)
    let year := 400 * n400 + 100 * n100 + 4 * n4 + n1
    if n100 = 4 ∨ n1 = 4 then of? year 12 31
    else
      let (month, day) := monthAndDay (year + 1) 12 1 n
      of? (year + 1) month day

/-- The weekday of a day number: 0 for Monday. -/
def weekday (ordinal : Nat) : Nat := (ordinal + 6) % 7

/-- The Monday of the first ISO week of a year: the week that holds its first Thursday. -/
def firstMonday (year : Nat) : Int :=
  let first := daysBeforeYear year + 1
  let w := weekday first
  (first : Int) - w + (if 3 < w then 7 else 0)

/-- Whether a year has 53 ISO weeks: it starts on a Thursday, or on a Wednesday in a leap year. -/
def hasLongCount (year : Nat) : Bool :=
  let w := weekday (daysBeforeYear year + 1)
  w = 3 || (w = 2 && isLeap year)

/-- The date of a weekday, 1 for Monday to 7 for Sunday, in an ISO week of a year. -/
def ofWeek? (year week day : Nat) : Option Date :=
  if year < 1 ∨ 9999 < year then none
  else if week < 1 ∨ 53 < week ∨ (week = 53 ∧ hasLongCount year = false) then none
  else if day < 1 ∨ 7 < day then none
  else ofOrdinal? (firstMonday year + ((week - 1) * 7 + (day - 1) : Nat))

end Date

end EventChain
