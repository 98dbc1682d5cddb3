import EventChain.Number.Basic
import EventChain.Time.Calendar

/-!
# Timestamps

A `Timestamp` is a date, a time of day and, unless it is naive, an offset from UTC.
`Timestamp.instant` places it on the time line in microseconds since the start of 1970 UTC,
a naive one being read as UTC; `Timestamp.iso` writes it in ISO 8601.
-/

namespace EventChain

def IsTimeOfDay (hour minute second micro : Nat) : Prop :=
  hour < 24 ∧ minute < 60 ∧ second < 60 ∧ micro < 1000000

instance (hour minute second micro : Nat) : Decidable (IsTimeOfDay hour minute second micro) := by
  unfold IsTimeOfDay; infer_instance

structure TimeOfDay where
  hour : Nat
  minute : Nat
  second : Nat
  micro : Nat
  isTimeOfDay : IsTimeOfDay hour minute second micro
  deriving DecidableEq

namespace TimeOfDay

def of? (hour minute second micro : Nat) : Option TimeOfDay :=
  if h : IsTimeOfDay hour minute second micro then some ⟨hour, minute, second, micro, h⟩ else none

def midnight : TimeOfDay := ⟨0, 0, 0, 0, by decide⟩

/-- Microseconds since midnight. -/
def micros (t : TimeOfDay) : Nat := ((t.hour * 60 + t.minute) * 60 + t.second) * 1000000 + t.micro

/-- The time of day a number of microseconds after midnight, days dropped. -/
def ofMicros (n : Nat) : TimeOfDay :=
  ⟨n / 3600000000 % 24, n / 60000000 % 60, n / 1000000 % 60, n % 1000000,
    Nat.mod_lt _ (by decide), Nat.mod_lt _ (by decide), Nat.mod_lt _ (by decide),
    Nat.mod_lt _ (by decide)⟩

end TimeOfDay

/-- A day in microseconds. -/
def dayMicros : Nat := 86400000000

/-- An offset east of UTC in microseconds, less than a day either way. -/
structure Offset where
  micros : Int
  lt_day : micros.natAbs < dayMicros
  deriving DecidableEq

namespace Offset

def utc : Offset := ⟨0, by decide⟩

def of? (micros : Int) : Option Offset :=
  if h : micros.natAbs < dayMicros then some ⟨micros, h⟩ else none

end Offset

structure Timestamp where
  date : Date
  time : TimeOfDay
  offset : Option Offset
  deriving DecidableEq

namespace Timestamp

def isNaive (t : Timestamp) : Bool := t.offset.isNone

/-- The same reading with the offset of UTC in place of a missing one. -/
def asUtc (t : Timestamp) : Timestamp :=
  match t.offset with
  | none => { t with offset := some .utc }
  | some _ => t

/-- The number of January 1, 1970. -/
def epochDay : Int := 719163

/-- Microseconds since the start of 1970 UTC. -/
def instant (t : Timestamp) : Int :=
  ((t.date.ordinal : Int) - epochDay) * dayMicros + t.time.micros
    - (match t.offset with | some o => o.micros | none => 0)

/-- The UTC timestamp of an instant, none outside the years 1 to 9999. -/
def ofInstant? (micros : Int) : Option Timestamp := do
  let date ← Date.ofOrdinal? (micros / dayMicros + epochDay)
  some ⟨date, .ofMicros (micros % dayMicros).toNat, some .utc⟩

/-- Two naive timestamps are equal when their readings are, two with offsets when their instants
are; a naive one never equals one with an offset. -/
def equals (a b : Timestamp) : Bool :=
  a.isNaive == b.isNaive && a.instant == b.instant

/-- Seconds since the start of 1970 UTC, rounded to a float. -/
def seconds (t : Timestamp) : Binary64 :=
  .ofQuotient (decide (t.instant < 0)) t.instant.natAbs 1000000

/-- A number with leading zeros up to a width. -/
def padded (width n : Nat) : String :=
  let digits := Nat.toDigits 10 n
  String.ofList (List.replicate (width - digits.length) '0' ++ digits)

/-- Seconds and a fraction of six digits if there is one. -/
def secondsText (second micro : Nat) : String :=
  padded 2 second ++ (if micro = 0 then "" else "." ++ padded 6 micro)

/-- An offset as sign, hours and minutes, with seconds and their fraction if there are any. -/
def offsetText (o : Offset) : String :=
  let n := o.micros.natAbs
  let seconds := n / 1000000
  let second := seconds % 60
  (if o.micros < 0 then "-" else "+")
    ++ padded 2 (seconds / 3600) ++ ":" ++ padded 2 (seconds / 60 % 60)
    ++ (if second = 0 ∧ n % 1000000 = 0 then "" else ":" ++ secondsText second (n % 1000000))

/-- ISO 8601 text with `separator` between date and time. -/
def isoWith (separator : String) (t : Timestamp) : String :=
  padded 4 t.date.year ++ "-" ++ padded 2 t.date.month ++ "-" ++ padded 2 t.date.day ++ separator
    ++ padded 2 t.time.hour ++ ":" ++ padded 2 t.time.minute ++ ":"
    ++ secondsText t.time.second t.time.micro
    ++ (match t.offset with | some o => offsetText o | none => "")

def iso (t : Timestamp) : String := t.isoWith "T"

end Timestamp

end EventChain
