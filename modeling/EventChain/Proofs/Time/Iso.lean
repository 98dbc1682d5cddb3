import EventChain.Proofs.Time.Instant
import EventChain.Time.Iso
import Mathlib.Algebra.Group.Nat.Defs
import Mathlib.Data.List.Basic

/-!
# ISO 8601 text read back

The text of a timestamp is read part by part: fields of a fixed number of digits (`Iso.Shows`), the
date (`Iso.date?_dateChars`), the clock (`Iso.reading?_seconds`) and the offset
(`Iso.offset?_offsetChars`). All of it is read as it was written, but for an offset of less than a
second, which is heard as UTC (`Timestamp.ofIso?_iso`).
-/

namespace EventChain

namespace Iso

open Timestamp (padded secondsText offsetText)

variable {width n hour minute second micro count : Nat} {cs ds rest : List Char}
  {colons : Option Bool} {read : List Nat}

theorem ne_of_isDigit {c d : Char} (hc : c.isDigit) (hd : d.isDigit = false) : c ≠ d := by
  rintro rfl
  rw [hd] at hc
  cases hc

/-! ## Fields of digits -/

/-- Text of as many digits as a field is wide, and the number it shows. -/
structure Shows (width n : Nat) (cs : List Char) : Prop where
  length : cs.length = width
  digits : ∀ c ∈ cs, c.isDigit
  value : Nat.ofDigitChars 10 cs 0 = n

theorem isDigit_padded (width n : Nat) : ∀ c ∈ (padded width n).toList, c.isDigit := by
  unfold padded
  rw [String.toList_ofList]
  refine List.forall_mem_append.mpr ⟨fun c hc => ?_, fun c hc => ?_⟩
  · rw [List.eq_of_mem_replicate hc]
    rfl
  · exact Nat.isDigit_of_mem_toDigits (by decide) (by decide) hc

theorem shows_padded (hw : 0 < width) (hn : n < 10 ^ width) :
    Shows width n (padded width n).toList := by
  have hlength : (Nat.toDigits 10 n).length ≤ width :=
    (Nat.length_toDigits_le_iff (by decide) hw).mpr hn
  refine ⟨?_, isDigit_padded width n, ?_⟩ <;> (unfold padded; rw [String.toList_ofList])
  · rw [List.length_append, List.length_replicate]
    omega
  · rw [Nat.ofDigitChars_append, Nat.ofDigitChars_replicate_zero, Nat.mul_zero,
      Nat.ofDigitChars_ten_toDigits]

theorem Shows.ne_nil (h : Shows (width + 1) n cs) : cs ≠ [] := by
  rintro rfl
  cases h.length

theorem Shows.number?_append (h : Shows width n cs) (rest : List Char) :
    number? width (cs ++ rest) = some (n, rest) := by
  unfold Iso.number?
  dsimp only
  rw [List.take_left' h.length, List.drop_left' h.length,
    if_pos ⟨h.length, List.all_eq_true.mpr h.digits⟩]
  exact congrArg (fun n => some (n, rest)) h.value

theorem Shows.number? (h : Shows width n cs) : number? width cs = some (n, []) := by
  have hread := h.number?_append []
  rwa [List.append_nil] at hread

/-! ## Dates -/

def dateChars (d : Date) : List Char :=
  (padded 4 d.year).toList ++ '-' :: ((padded 2 d.month).toList ++ '-' :: (padded 2 d.day).toList)

theorem shows_year (d : Date) : Shows 4 d.year (padded 4 d.year).toList := by
  obtain ⟨-, hyear, -⟩ := d.isDate
  exact shows_padded (by decide) (by omega)

theorem shows_month (d : Date) : Shows 2 d.month (padded 2 d.month).toList := by
  obtain ⟨-, -, -, hmonth, -⟩ := d.isDate
  exact shows_padded (by decide) (by omega)

theorem shows_day (d : Date) : Shows 2 d.day (padded 2 d.day).toList := by
  obtain ⟨-, -, -, -, -, hday⟩ := d.isDate
  have hmonth := Calendar.daysInMonth_le d.year d.month
  exact shows_padded (by decide) (by omega)

theorem length_dateChars (d : Date) : (dateChars d).length = 10 := by
  simp [dateChars, (shows_year d).length, (shows_month d).length, (shows_day d).length]

theorem Shows.isDigit_head {c : Char} (h : Shows width n (c :: cs)) : c.isDigit :=
  h.digits c List.mem_cons_self

theorem date?_dateChars (d : Date) : date? (dateChars d) = some d := by
  have hyear := (shows_year d).number?_append
    ('-' :: ((padded 2 d.month).toList ++ '-' :: (padded 2 d.day).toList))
  have hmonth := (shows_month d).number?_append ('-' :: (padded 2 d.day).toList)
  have hday := (shows_day d).number?
  have hdigits := shows_month d
  have hof : Date.of? d.year d.month d.day = some d := dif_pos d.isDate
  unfold date? dateChars
  simp only [hyear, Option.bind_eq_bind, Option.bind_some]
  -- A digit follows the first hyphen, so that the date is none of a week.
  generalize (padded 2 d.month).toList = month at hmonth hdigits ⊢
  cases month with
  | nil => cases hdigits.length
  | cons c tail =>
    split
    · next heq =>
      cases heq
      exact absurd hdigits.isDigit_head (by decide)
    · simp only [hmonth, hday, hof, Option.bind_some, if_true]

theorem getElem?_four_dateChars (d : Date) (rest : List Char) :
    (dateChars d ++ rest)[4]? = some '-' := by
  simp [dateChars, (shows_year d).length]

theorem getElem?_five_dateChars (d : Date) (rest : List Char) :
    ∃ c, (dateChars d ++ rest)[5]? = some c ∧ c.isDigit := by
  have hmonth := shows_month d
  unfold dateChars
  generalize (padded 2 d.month).toList = month at hmonth ⊢
  cases month with
  | nil => cases hmonth.length
  | cons c tail =>
    exact ⟨c, by simp [List.getElem?_append, (shows_year d).length], hmonth.isDigit_head⟩

theorem dateLength_dateChars (d : Date) (c : Char) (rest : List Char) :
    dateLength (dateChars d ++ c :: rest) = 10 := by
  obtain ⟨m, hm, hdigit⟩ := getElem?_five_dateChars d (c :: rest)
  have hlength : (dateChars d ++ c :: rest).length ≠ 7 := by
    rw [List.length_append, length_dateChars]
    omega
  have hweek : some m ≠ some 'W' := by
    rintro ⟨⟩
    exact absurd hdigit (by decide)
  unfold dateLength
  rw [if_neg hlength, if_pos (getElem?_four_dateChars d _), hm, if_neg hweek]

/-! ## Clocks -/

theorem fields?_end (h : Shows 2 n ds) :
    fields? (count + 1) colons read ds = some (read ++ [n], 0, false) := by
  unfold fields?
  simp only [h.number?, Option.bind_eq_bind, Option.bind_some]

theorem fields?_colon (h : Shows 2 n ds) (hcolons : colons.getD true = true)
    (hrest : rest ≠ []) :
    fields? (count + 1) colons read (ds ++ ':' :: rest) =
      fields? count (some true) (read ++ [n]) rest := by
  conv_lhs => unfold fields?
  simp [h.number?_append, hrest, hcolons]

theorem fields?_point (h : Shows 2 n ds) (hcs : Shows 6 micro cs) :
    fields? (count + 1) colons read (ds ++ '.' :: cs) = some (read ++ [n], micro, false) := by
  have hfraction : fraction? cs = some (micro, false) := by
    unfold fraction?
    rw [hcs.length]
    simp [hcs.number?, goesOn]
  conv_lhs => unfold fields?
  simp [h.number?_append, hcs.ne_nil, hfraction]

/-- The characters of hours and minutes, and what follows them. -/
def clockChars (hour minute : Nat) (rest : List Char) : List Char :=
  (padded 2 hour).toList ++ ':' :: ((padded 2 minute).toList ++ rest)

def secondsChars (second micro : Nat) : List Char :=
  ':' :: (secondsText second micro).toList

theorem reading?_minutes (hhour : hour < 100) (hminute : minute < 100) :
    reading? (clockChars hour minute []) = some ⟨hour, minute, 0, 0, false⟩ := by
  have hh : Shows 2 hour _ := shows_padded (by decide) hhour
  have hm : Shows 2 minute _ := shows_padded (by decide) hminute
  unfold reading? clockChars
  rw [List.append_nil, fields?_colon hh rfl hm.ne_nil, fields?_end hm]
  rfl

theorem reading?_seconds (hhour : hour < 100) (hminute : minute < 100) (hsecond : second < 100)
    (hmicro : micro < 1000000) :
    reading? (clockChars hour minute (secondsChars second micro)) =
      some ⟨hour, minute, second, micro, false⟩ := by
  have hh : Shows 2 hour _ := shows_padded (by decide) hhour
  have hm : Shows 2 minute _ := shows_padded (by decide) hminute
  have hs : Shows 2 second _ := shows_padded (by decide) hsecond
  have hf : Shows 6 micro _ := shows_padded (by decide) hmicro
  have hlast (read : List Nat) : fields? 1 (some true) read (secondsText second micro).toList =
      some (read ++ [second], micro, false) := by
    unfold secondsText
    by_cases hzero : micro = 0
    · rw [if_pos hzero, String.append_empty, fields?_end hs, hzero]
    · rw [if_neg hzero, String.toList_append, String.toList_append]
      exact fields?_point hs hf
  have hsecond : (secondsText second micro).toList ≠ [] := by
    unfold secondsText
    rw [String.toList_append]
    exact List.append_ne_nil_of_left_ne_nil hs.ne_nil _
  unfold reading? clockChars secondsChars
  rw [fields?_colon hh rfl (List.append_ne_nil_of_left_ne_nil hm.ne_nil _),
    fields?_colon hm rfl hsecond, hlast]
  rfl

def IsClockChar (c : Char) : Prop := c.isDigit ∨ c = ':' ∨ c = '.'

theorem isClockChar_of_mem_padded {c : Char} (h : c ∈ (padded width n).toList) : IsClockChar c :=
  .inl (isDigit_padded width n c h)

theorem isClockChar_clockChars (hrest : ∀ c ∈ rest, IsClockChar c) :
    ∀ c ∈ clockChars hour minute rest, IsClockChar c := by
  intro c hc
  simp only [clockChars, List.mem_append, List.mem_cons] at hc
  rcases hc with hc | rfl | hc | hc
  · exact isClockChar_of_mem_padded hc
  · exact .inr (.inl rfl)
  · exact isClockChar_of_mem_padded hc
  · exact hrest c hc

theorem isClockChar_secondsChars : ∀ c ∈ secondsChars second micro, IsClockChar c := by
  intro c hc
  simp only [secondsChars, secondsText, List.mem_cons, String.toList_append, List.mem_append] at hc
  rcases hc with rfl | hc | hc
  · exact .inr (.inl rfl)
  · exact isClockChar_of_mem_padded hc
  · by_cases hzero : micro = 0
    · rw [if_pos hzero] at hc
      cases hc
    · rw [if_neg hzero, String.toList_append, List.mem_append] at hc
      rcases hc with hc | hc
      · exact .inr (.inr (List.mem_singleton.mp hc))
      · exact isClockChar_of_mem_padded hc

/-! ## Offsets -/

def sign (o : Offset) : Char := if o.micros < 0 then '-' else '+'

theorem sign_eq (o : Offset) : sign o = '-' ∨ sign o = '+' := ite_eq_or_eq _ _ _

def offsetChars (o : Offset) : List Char :=
  let n := o.micros.natAbs
  let seconds := n / 1000000
  clockChars (seconds / 3600) (seconds / 60 % 60)
    (if seconds % 60 = 0 ∧ n % 1000000 = 0 then []
    else secondsChars (seconds % 60) (n % 1000000))

theorem toList_offsetText (o : Offset) : (offsetText o).toList = sign o :: offsetChars o := by
  unfold offsetText offsetChars sign clockChars secondsChars
  have hseconds (s micro : Nat) :
      (if s = 0 ∧ micro = 0 then "" else ":" ++ secondsText s micro).toList =
        if s = 0 ∧ micro = 0 then [] else ':' :: (secondsText s micro).toList := by
    by_cases h : s = 0 ∧ micro = 0
    · rw [if_pos h, if_pos h, String.toList_empty]
    · rw [if_neg h, if_neg h, String.toList_append]
      rfl
  by_cases hsign : o.micros < 0 <;> simp [hsign, hseconds]

/-- The offset that is read back: UTC in place of less than a second. -/
def heard (o : Offset) : Offset := if o.micros.natAbs < 1000000 then .utc else o

theorem reading?_offsetChars (o : Offset) :
    let n := o.micros.natAbs
    let seconds := n / 1000000
    reading? (offsetChars o) =
      some ⟨seconds / 3600, seconds / 60 % 60, seconds % 60, n % 1000000, false⟩ := by
  intro n seconds
  have hday : n < 86400000000 := o.lt_day
  have hhour : seconds / 3600 < 100 := by omega
  have hminute : seconds / 60 % 60 < 100 := by omega
  have hchars : offsetChars o = clockChars (seconds / 3600) (seconds / 60 % 60)
    (if seconds % 60 = 0 ∧ n % 1000000 = 0 then []
    else secondsChars (seconds % 60) (n % 1000000)) := rfl
  rw [hchars]
  by_cases hwhole : seconds % 60 = 0 ∧ n % 1000000 = 0
  · rw [if_pos hwhole, reading?_minutes hhour hminute, hwhole.1, hwhole.2]
  · rw [if_neg hwhole, reading?_seconds hhour hminute (by omega) (by omega)]

theorem offset?_offsetChars (o : Offset) :
    offset? (sign o = '-') (offsetChars o) = some (heard o) := by
  obtain ⟨micros, hday⟩ := o
  have hread := reading?_offsetChars ⟨micros, hday⟩
  have hsign : sign ⟨micros, hday⟩ = '-' ↔ micros < 0 := by
    unfold sign
    by_cases h : micros < 0 <;> simp [h]
  have hseconds : (micros.natAbs / 1000000 / 3600 * 60 + micros.natAbs / 1000000 / 60 % 60) * 60 +
      micros.natAbs / 1000000 % 60 = micros.natAbs / 1000000 := by omega
  have hof : Offset.of? micros = some ⟨micros, hday⟩ := dif_pos hday
  unfold offset? heard
  simp only [hread, Option.bind_eq_bind, Option.bind_some, hsign, Bool.false_eq_true, if_false,
    decide_eq_true_eq, hseconds]
  by_cases hsmall : micros.natAbs < 1000000
  · rw [if_pos (by omega), if_pos hsmall]
  · rw [if_neg (by omega), if_neg hsmall, ← hof]
    congr 1
    split_ifs <;> omega

/-! ## Timestamps -/

def offsetTail : Option Offset → List Char
  | none => []
  | some o => sign o :: offsetChars o

theorem timeAndOffset?_chars (t : TimeOfDay) (offset : Option Offset) :
    timeAndOffset?
        (clockChars t.hour t.minute (secondsChars t.second t.micro) ++ offsetTail offset) =
      some (t, offset.map heard) := by
  obtain ⟨hour, minute, second, micro, htime⟩ := t
  have ⟨hhour, hminute, hsecond, hmicro⟩ := htime
  have hread : reading? (clockChars hour minute (secondsChars second micro)) =
      some ⟨hour, minute, second, micro, false⟩ :=
    reading?_seconds (by omega) (by omega) (by omega) hmicro
  have hof : TimeOfDay.of? hour minute second micro = some ⟨hour, minute, second, micro, htime⟩ :=
    dif_pos htime
  -- No mark of an offset stands within the clock.
  have hclock : ∀ c ∈ clockChars hour minute (secondsChars second micro),
      (!(c = '+' || c = '-' || c = 'Z')) = true := by
    intro c hc
    rcases isClockChar_clockChars isClockChar_secondsChars c hc with hdigit | rfl | rfl
    · simp [ne_of_isDigit hdigit]
    · rfl
    · rfl
  unfold timeAndOffset?
  dsimp only
  rw [List.takeWhile_append_of_pos hclock, List.dropWhile_append_of_pos hclock]
  cases offset with
  | none => simp [offsetTail, hread, hof]
  | some o =>
    rcases sign_eq o with hsign | hsign
    all_goals
      have ho := offset?_offsetChars o
      simp only [hsign, Char.reduceEq, decide_true, decide_false] at ho
      simp [offsetTail, hsign, hread, hof, ho]

theorem toList_iso (t : Timestamp) :
    t.iso.toList = dateChars t.date ++
      'T' :: (clockChars t.time.hour t.time.minute (secondsChars t.time.second t.time.micro) ++
        offsetTail t.offset) := by
  obtain ⟨date, time, offset⟩ := t
  unfold Timestamp.iso Timestamp.isoWith dateChars clockChars secondsChars
  cases offset with
  | none => simp [offsetTail]
  | some o => simp [offsetTail, toList_offsetText]

def IsIsoChar (c : Char) : Prop := IsClockChar c ∨ c ∈ ['-', 'T', '+']

theorem isIsoChar_iso (t : Timestamp) : ∀ c ∈ t.iso.toList, IsIsoChar c := by
  have hdigits (width n : Nat) : ∀ c ∈ (padded width n).toList, IsIsoChar c :=
    fun c hc => .inl (isClockChar_of_mem_padded hc)
  have hclock {hour minute : Nat} {rest : List Char} (hrest : ∀ c ∈ rest, IsClockChar c) :
      ∀ c ∈ clockChars hour minute rest, IsIsoChar c :=
    fun c hc => .inl (isClockChar_clockChars hrest c hc)
  have hoffset : ∀ c ∈ offsetTail t.offset, IsIsoChar c := by
    cases t.offset with
    | none => nofun
    | some o =>
      refine List.forall_mem_cons.mpr ⟨?_, hclock ?_⟩
      · rcases sign_eq o with hsign | hsign <;> rw [hsign] <;> exact .inr (by decide)
      · split_ifs
        · nofun
        · exact isClockChar_secondsChars
  rw [toList_iso]
  unfold dateChars
  simp only [List.forall_mem_append, List.forall_mem_cons]
  exact ⟨⟨hdigits 4 _, .inr (by decide), hdigits 2 _, .inr (by decide), hdigits 2 _⟩,
    .inr (by decide), hclock isClockChar_secondsChars, hoffset⟩

end Iso

/-- A timestamp is read back from its text, but for an offset of less than a second. -/
theorem Timestamp.ofIso?_iso (t : Timestamp) :
    ofIso? t.iso.toList = some { t with offset := t.offset.map Iso.heard } := by
  have hlength := Iso.length_dateChars t.date
  rw [Iso.toList_iso]
  unfold ofIso?
  rw [if_neg (by rw [List.length_append]; omega), Iso.dateLength_dateChars]
  dsimp only
  rw [List.take_left' hlength, List.drop_left' hlength, Iso.date?_dateChars]
  simp only [Option.bind_eq_bind, Option.bind_some, Iso.timeAndOffset?_chars]

end EventChain
