import EventChain.Text.Blank
import EventChain.Time.Timestamp

/-!
# Timestamps read from ISO 8601 text

`Timestamp.ofIso?` reads a calendar date or a week date, in the form with hyphens or the
form without, and after any one character a time of day, an optional fraction and an
optional offset. Where a hyphen after a week could begin a weekday or a time, two digits
after it are taken for an hour.
-/

namespace EventChain

namespace Iso

/-- Reads exactly `n` digits of the ASCII script. -/
def number? : Nat → List Char → Option (Nat × List Char)
  | n, cs =>
    let head := cs.take n
    if head.length = n ∧ head.all Char.isDigit then
      some (head.foldl (fun total c => 10 * total + (c.toNat - 48)) 0, cs.drop n)
    else none

def digitAt (cs : List Char) (i : Nat) : Bool := cs[i]?.any Char.isDigit

/-- How many characters belong to the date. -/
def dateLength (cs : List Char) : Nat :=
  if cs.length = 7 then 7
  else if cs[4]? = some '-' then
    if cs[5]? = some 'W' then
      if cs[8]? = some '-' then
        if digitAt cs 10 then 8 else 10
      else 8
    else 10
  else if cs[4]? = some 'W' then
    let stop := 7 + ((cs.drop 7).takeWhile Char.isDigit).length
    if stop < 9 then stop else if stop % 2 = 0 then 7 else 8
  else 8

/-- Reads a whole text as a date. -/
def date? (cs : List Char) : Option Date := do
  let (year, rest) ← number? 4 cs
  let (hyphens, rest) := match rest with
    | '-' :: tail => (true, tail)
    | _ => (false, rest)
  let unhyphen (rest : List Char) : Option (List Char) :=
    if hyphens then (match rest with | '-' :: tail => some tail | _ => none) else some rest
  match rest with
  | 'W' :: rest =>
    let (week, rest) ← number? 2 rest
    if rest.isEmpty then Date.ofWeek? year week 1
    else
      let (day, _) ← number? 1 (← unhyphen rest)
      Date.ofWeek? year week day
  | _ =>
    let (month, rest) ← number? 2 rest
    let (day, _) ← number? 2 (← unhyphen rest)
    Date.of? year month day

/-- Hours, minutes, seconds and microseconds as they are written, and whether anything
follows them. -/
structure Reading where
  hour : Nat
  minute : Nat
  second : Nat
  micro : Nat
  more : Bool

/-- Whether text goes on: a NUL ends it. -/
def goesOn : List Char → Bool
  | [] => false
  | c :: _ => c ≠ '\x00'

/-- Reads a fraction of a second: up to six digits count, further ones are dropped. -/
def fraction? (cs : List Char) : Option (Nat × Bool) := do
  let n := min cs.length 6
  let (micro, rest) ← number? n cs
  some (micro * Nat.pow 10 (6 - n), goesOn (rest.dropWhile Char.isDigit))

/-- Reads the remaining `count` fields of two digits. The first mark decides whether fields are
told apart by colons; one character more than a field is left for the caller to judge. -/
def fields? : Nat → Option Bool → List Nat → List Char → Option (List Nat × Nat × Bool)
  | 0, _, read, cs => do
    let (micro, more) ← fraction? cs
    some (read, micro, more)
  | count + 1, colons, read, cs => do
    let (n, rest) ← number? 2 cs
    let read := read ++ [n]
    match rest with
    | [] => some (read, 0, false)
    | c :: tail =>
      if tail.isEmpty ∧ c.toNat < 128 then some (read, 0, c ≠ '\x00')
      else
        let colons := colons.getD (c = ':')
        if colons ∧ c = ':' then fields? count (some colons) read tail
        else if c = '.' ∨ c = ',' then
          let (micro, more) ← fraction? tail
          some (read, micro, more)
        else if colons then none
        else fields? count (some colons) read rest

/-- Reads a time of day, or the hours, minutes and seconds of an offset. -/
def reading? (cs : List Char) : Option Reading := do
  let (read, micro, more) ← fields? 3 none [] cs
  some ⟨read.getD 0 0, read.getD 1 0, read.getD 2 0, micro, more⟩

/-- Reads an offset after its sign; an offset of no whole second is UTC. -/
def offset? (negative : Bool) (cs : List Char) : Option Offset := do
  let r ← reading? cs
  if r.more then none
  else
    let seconds := (r.hour * 60 + r.minute) * 60 + r.second
    if seconds = 0 then some .utc
    else
      let micros : Int := seconds * 1000000 + r.micro
      Offset.of? (if negative then -micros else micros)

/-- Reads a time of day and an optional offset. -/
def timeAndOffset? (cs : List Char) : Option (TimeOfDay × Option Offset) := do
  let isMark (c : Char) : Bool := c = '+' || c = '-' || c = 'Z'
  let r ← reading? (cs.takeWhile (!isMark ·))
  let time ← TimeOfDay.of? r.hour r.minute r.second r.micro
  match cs.dropWhile (!isMark ·) with
  | [] => if r.more then none else some (time, none)
  | 'Z' :: rest => if goesOn rest then none else some (time, some .utc)
  | mark :: rest => do
    let o ← offset? (mark = '-') rest
    some (time, some o)

end Iso

/-- Reads a timestamp; text of a date alone is its midnight. -/
def Timestamp.ofIso? (cs : List Char) : Option Timestamp :=
  if cs.length < 7 then none
  else do
    let n := Iso.dateLength cs
    let date ← Iso.date? (cs.take n)
    match cs.drop n with
    | [] => some ⟨date, .midnight, none⟩
    | _ :: rest =>
      let (time, offset) ← Iso.timeAndOffset? rest
      some ⟨date, time, offset⟩

end EventChain
