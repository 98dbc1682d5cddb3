import EventChain.Proofs.Tally.Seconds
import EventChain.Tally.History
import Mathlib.Data.List.DropRight
import Mathlib.Data.List.Induction

/-!
# What a tally says of its entries

After any entries a counter says how many deadlines of its code were recorded since all counters
started again, and its histogram how many of the latest of them lasted at most so long
(`Tally.play_counts`). An entry for a label of no code changes nothing, and one for a code nothing
but the counter of that code. A deadline that lasted an integer of milliseconds too large for
seconds is counted and left out of the histogram (`Tally.counts_otherwise`).
-/

namespace EventChain

theorem Number.atMost_mono {n : Number} {b b' : Nat} (h : b ≤ b') (hn : n.atMost (.int b) = true) :
    n.atMost (.int b') = true := by
  cases hp : n.place? with
  | none =>
    rw [atMost, compareWith, hp] at hn
    cases hn
  | some p =>
    cases p with
    | below =>
      rw [atMost, compareWith, hp]
      rfl
    | above =>
      rw [atMost, compareWith, hp] at hn
      cases hn
    | finite q =>
      rw [atMost_eq_decide hp rfl, decide_eq_true_eq] at hn ⊢
      exact hn.trans (by exact_mod_cast h)

/-! ## Counters -/

namespace Counter

variable {c : Counter} {lasted : List Number} {ms : Number} {d : Binary64}

/-- A counter after deadlines that lasted so many milliseconds, the first one first. -/
structure Keeps (lasted : List Number) (c : Counter) : Prop where
  count : c.count = lasted.length
  durations : List.Forall₂ (fun ms d => Tally.seconds ms = .ok d) (lasted.reverse.take kept)
    c.durations

/-- The number of durations within each bound and of all of them, told from the milliseconds of all
deadlines counted. -/
def expected (lasted : List Number) : List (String × Nat) :=
  (bounds.map fun bound => ("le_" ++ toString bound,
    (lasted.rtake kept).countP fun ms => ms.atMost (.int (1000 * bound : Nat))))
      ++ [("le_inf", min lasted.length kept)]

theorem keeps_zero : Keeps [] zero := ⟨rfl, .nil⟩

/-- One more deadline is counted, and its duration drives the oldest one out. -/
theorem Keeps.push (h : Keeps lasted c) (hd : Tally.seconds ms = .ok d) :
    Keeps (lasted ++ [ms]) (c.push d) where
  count := by rw [Counter.push, h.count, List.length_append, List.length_singleton]
  durations := by
    have hwindow : (lasted ++ [ms]).reverse.take kept =
        (ms :: lasted.reverse.take kept).take kept := by
      rw [List.reverse_append, List.reverse_singleton, List.singleton_append, kept,
        List.take_succ_cons, List.take_succ_cons, List.take_take]
      rfl
    rw [hwindow]
    exact List.forall₂_take kept (.cons hd h.durations)

theorem Keeps.length_durations (h : Keeps lasted c) :
    c.durations.length = min lasted.length kept := by
  rw [← h.durations.length_eq, List.length_take, List.length_reverse, Nat.min_comm]

theorem countP_of_forall₂ {α β : Type} {R : α → β → Prop} {p : α → Bool} {q : β → Bool}
    {xs : List α} {ys : List β} (h : List.Forall₂ R xs ys) (hpq : ∀ x y, R x y → p x = q y) :
    xs.countP p = ys.countP q := by
  induction h with
  | nil => rfl
  | cons hxy _ ih => rw [List.countP_cons, List.countP_cons, ih, hpq _ _ hxy]

theorem Keeps.within (h : Keeps lasted c) {b : Nat} (hb : 0 < b) (hb' : b ≤ 2 ^ 40) :
    c.within b = (lasted.rtake kept).countP fun ms => ms.atMost (.int (1000 * b : Nat)) := by
  have hsame (ms : Number) (d : Binary64) (hd : Tally.seconds ms = .ok d) :
      ms.atMost (.int (1000 * b : Nat)) = (Number.float d).atMost (.int b) :=
    (Tally.atMost_of_seconds hd hb hb').symm
  rw [Counter.within, ← List.countP_eq_length_filter, List.rtake_eq_reverse_take_reverse,
    List.countP_reverse, countP_of_forall₂ h.durations hsame]

theorem Keeps.histogram (h : Keeps lasted c) : c.histogram = expected lasted := by
  have hbounds : ∀ b ∈ bounds, 0 < b ∧ b ≤ 2 ^ 40 := by decide
  have hwithin (b : Nat) (hb : b ∈ bounds) := h.within (hbounds b hb).1 (hbounds b hb).2
  unfold Counter.histogram expected
  rw [h.length_durations, List.map_congr_left fun b hb => by rw [hwithin b hb]]

theorem within_mono (c : Counter) {b b' : Nat} (h : b ≤ b') : c.within b ≤ c.within b' := by
  rw [within, within, ← List.countP_eq_length_filter, ← List.countP_eq_length_filter]
  exact List.countP_mono_left fun d _ => Number.atMost_mono h

theorem histogram_pairwise (c : Counter) : (c.histogram.map Prod.snd).Pairwise (· ≤ ·) := by
  have hbounds : bounds.Pairwise (· ≤ ·) := by decide
  have hvalues : c.histogram.map Prod.snd = bounds.map c.within ++ [c.durations.length] := by
    rw [Counter.histogram, List.map_append, List.map_map]
    rfl
  rw [hvalues, List.pairwise_append]
  refine ⟨hbounds.map c.within fun b b' => c.within_mono, List.pairwise_singleton _ _, ?_⟩
  intro n hn m hm
  obtain ⟨b, -, rfl⟩ := List.mem_map.mp hn
  obtain rfl := List.mem_singleton.mp hm
  exact List.length_filter_le _ _

end Counter

namespace Tally

/-! ## Entries -/

namespace Entry

/-- The code that an entry is counted under, and the milliseconds that its deadline lasted. -/
def counted? : Entry → Option (TimeoutCode × Number)
  | record code ms => some (code, ms)
  | recordLabel label ms => (TimeoutCode.ofLabel? label).map (·, ms)
  | reset => none

def duration? (code : TimeoutCode) (entry : Entry) : Option Number :=
  entry.counted?.bind fun (other, ms) => if other = code then some ms else none

def isReset : Entry → Bool
  | reset => true
  | record _ _ | recordLabel _ _ => false

end Entry

/-- How long the deadlines of a code lasted that are recorded since all counters started again, in
milliseconds, the first one first. -/
def recorded (code : TimeoutCode) (entries : List Entry) : List Number :=
  (entries.rtakeWhile fun entry => !entry.isReset).filterMap (Entry.duration? code)

/-- The milliseconds have a number of seconds: they are a float, or an integer whose seconds are not
beyond the largest one. -/
def Timed : Number → Prop
  | .int n => n.natAbs < Magnitude.bound * 1000
  | .float _ => True

instance : DecidablePred Timed
  | .int n => inferInstanceAs (Decidable (n.natAbs < Magnitude.bound * 1000))
  | .float _ => .isTrue trivial

/-- If the entry is counted, its deadline has a number of seconds. -/
def Entry.IsTimed (entry : Entry) : Prop := ∀ counted ∈ entry.counted?, Timed counted.2

instance (entry : Entry) : Decidable entry.IsTimed :=
  inferInstanceAs (Decidable (∀ counted ∈ entry.counted?, Timed counted.2))

variable {t : Tally} {code other : TimeoutCode} {ms : Number} {entry : Entry} {entries : List Entry}

theorem Timed.exists_seconds (h : Timed ms) : ∃ d, seconds ms = .ok d := by
  cases ms with
  | int n =>
    rw [seconds_int, if_pos ((Binary64.isFinite_ofQuotient_iff _ (by decide)).mpr h)]
    exact ⟨_, rfl⟩
  | float x => exact seconds_float x

theorem recorded_concat (code : TimeoutCode) (entries : List Entry) (entry : Entry) :
    recorded code (entries ++ [entry]) =
      if entry.isReset then [] else recorded code entries ++ (entry.duration? code).toList := by
  rw [recorded, List.rtakeWhile_concat]
  cases hreset : entry.isReset with
  | true => rfl
  | false =>
    rw [Bool.not_false, if_pos rfl, if_neg (by decide), List.filterMap_append, recorded]
    cases hd : entry.duration? code <;> simp [hd]

theorem take_of_counted (h : entry.counted? = some (code, ms)) :
    t.take entry = t.record code ms := by
  cases entry with
  | record other ms =>
    cases h
    rfl
  | recordLabel label ms =>
    obtain ⟨other, hlabel, hms⟩ := Option.map_eq_some_iff.mp h
    cases hms
    rw [take, recordLabel, hlabel]
  | reset => cases h

theorem take_of_not_counted (hreset : entry.isReset = false) (h : entry.counted? = none) :
    t.take entry = (t, .ok ()) := by
  cases entry with
  | record code ms => cases h
  | recordLabel label ms =>
    rw [take, recordLabel, Option.map_eq_none_iff.mp h]
    rfl
  | reset => cases hreset

theorem record_of_ne (t : Tally) (ms : Number) (h : other ≠ code) :
    (t.record code ms).1 other = t other := by
  unfold record
  split <;> exact update_of_ne h

/-- An entry that is not counted under a code leaves its counter as it is, unless all counters start
again. -/
theorem take_frame (hreset : entry.isReset = false) (h : entry.duration? code = none) :
    (t.take entry).1 code = t code := by
  cases hcounted : entry.counted? with
  | none => rw [take_of_not_counted hreset hcounted]
  | some counted =>
    obtain ⟨other, ms⟩ := counted
    rw [take_of_counted hcounted]
    refine record_of_ne t ms fun heq => ?_
    rw [Entry.duration?, hcounted, heq] at h
    simp at h

theorem take_timed (htimed : entry.IsTimed) : (t.take entry).2 = .ok () := by
  cases hcounted : entry.counted? with
  | none =>
    cases hreset : entry.isReset with
    | false => rw [take_of_not_counted hreset hcounted]
    | true =>
      cases entry with
      | reset => rfl
      | _ => cases hreset
  | some counted =>
    obtain ⟨d, hd⟩ := (htimed counted hcounted).exists_seconds
    rw [take_of_counted hcounted, record, hd]
    rfl

theorem keeps_take {lasted : List Number} (h : (t code).Keeps lasted) (htimed : entry.IsTimed)
    (hreset : entry.isReset = false) :
    ((t.take entry).1 code).Keeps (lasted ++ (entry.duration? code).toList) := by
  cases hd : entry.duration? code with
  | none =>
    rw [take_frame hreset hd, Option.toList_none, List.append_nil]
    exact h
  | some ms =>
    obtain ⟨⟨other, ms'⟩, hcounted, hms⟩ := Option.bind_eq_some_iff.mp hd
    obtain ⟨rfl, rfl⟩ : other = code ∧ ms' = ms := by simpa using hms
    obtain ⟨d, hseconds⟩ := (htimed _ hcounted).exists_seconds
    rw [take_of_counted hcounted, record, hseconds]
    dsimp only
    rw [update_self]
    exact h.push hseconds

/-! ## Histories -/

theorem play_concat (t : Tally) (entries : List Entry) (entry : Entry) :
    t.play (entries ++ [entry]) =
      (((t.play entries).1.take entry).1,
        (t.play entries).2 ++ [((t.play entries).1.take entry).2]) := by
  induction entries generalizing t with
  | nil => rfl
  | cons first rest ih =>
    have hcons (others : List Entry) : t.play (first :: others) =
        (((t.take first).1.play others).1,
          (t.take first).2 :: ((t.take first).1.play others).2) := rfl
    rw [List.cons_append, hcons, ih, hcons]
    rfl

theorem play_timed (t : Tally) (htimed : ∀ entry ∈ entries, entry.IsTimed) :
    ∀ outcome ∈ (t.play entries).2, outcome = .ok () := by
  induction entries using List.reverseRecOn with
  | nil => nofun
  | append_singleton entries entry ih =>
    rw [play_concat]
    obtain ⟨hbefore, hentry⟩ := List.forall_mem_append.mp htimed
    refine List.forall_mem_append.mpr ⟨ih hbefore, fun outcome houtcome => ?_⟩
    rw [List.mem_singleton.mp houtcome]
    exact take_timed (hentry entry (List.mem_singleton_self entry))

theorem keeps_play (code : TimeoutCode) (htimed : ∀ entry ∈ entries, entry.IsTimed) :
    ((empty.play entries).1 code).Keeps (recorded code entries) := by
  induction entries using List.reverseRecOn with
  | nil => exact Counter.keeps_zero
  | append_singleton entries entry ih =>
    obtain ⟨hbefore, hentry⟩ := List.forall_mem_append.mp htimed
    rw [play_concat, recorded_concat]
    cases hreset : entry.isReset with
    | true =>
      cases entry with
      | reset => exact Counter.keeps_zero
      | _ => cases hreset
    | false => exact keeps_take (ih hbefore) (hentry entry (List.mem_singleton_self entry)) hreset

/-- The counters and histograms after any entries whose durations have a number of seconds: no entry
fails, a counter is the number of deadlines of its code since all counters started again, the
histogram is that of the latest of them, and its numbers grow with the bound. A further entry
changes no counter but that of the code it is counted under. -/
theorem play_counts (entries : List Entry) (code : TimeoutCode)
    (htimed : ∀ entry ∈ entries, entry.IsTimed) :
    let t := (empty.play entries).1
    (∀ outcome ∈ (empty.play entries).2, outcome = .ok ()) ∧
      (t code).count = (recorded code entries).length ∧
      (t code).histogram = Counter.expected (recorded code entries) ∧
      ((t code).histogram.map Prod.snd).Pairwise (· ≤ ·) ∧
      (∀ entry : Entry, entry.isReset = false → entry.duration? code = none →
        (t.take entry).1 code = t code) ∧
      ∀ entry : Entry, entry.isReset = false → entry.counted? = none →
        t.take entry = (t, .ok ()) := by
  have hkeeps := keeps_play code htimed
  exact ⟨play_timed empty htimed, hkeeps.count, hkeeps.histogram, Counter.histogram_pairwise _,
    fun entry => take_frame, fun entry => take_of_not_counted⟩

/-- Two deadlines after a reset, with others among them. -/
theorem play_counts_worker :
    let entries : List Entry := [.recordLabel "WORKER_TIMEOUT" (.int 400), .reset,
      .record .worker (.float (.ofInt 1000)), .recordLabel "LATE" (.int 7),
      .record .chain (.int 5000), .recordLabel "WORKER_TIMEOUT" (.int 30001)]
    let t := (empty.play entries).1
    (∀ entry ∈ entries, entry.IsTimed) ∧ (∀ outcome ∈ (empty.play entries).2, outcome = .ok ()) ∧
      (t .worker).count = 2 ∧
      (t .worker).histogram =
        [("le_1", 1), ("le_5", 1), ("le_10", 1), ("le_30", 1), ("le_60", 2), ("le_inf", 2)] ∧
      (t.take (.record .chain (.int 1))).1 .worker = t .worker ∧
      t.take (.recordLabel "LATE" (.int 1)) = (t, .ok ()) := by
  intro entries t
  have htimed : ∀ entry ∈ entries, entry.IsTimed := by decide +kernel
  have hrecorded : recorded .worker entries = [.float (.ofInt 1000), .int 30001] := by decide
  obtain ⟨houtcomes, hcount, hhistogram, -, hframe, hunknown⟩ := play_counts entries .worker htimed
  rw [hrecorded] at hcount hhistogram
  exact ⟨htimed, houtcomes, hcount, hhistogram.trans (by decide), hframe _ rfl rfl,
    hunknown _ rfl rfl⟩

/-- An integer of milliseconds too large for seconds is counted, but in no histogram. -/
theorem counts_otherwise :
    let entries : List Entry := [.record .worker (.int (10 ^ 400))]
    let t := (empty.play entries).1
    (empty.play entries).2 = [.error (.excess .quotient)] ∧ (t .worker).count = 1 ∧
      (t .worker).histogram =
        [("le_1", 0), ("le_5", 0), ("le_10", 0), ("le_30", 0), ("le_60", 0), ("le_inf", 0)] ∧
      (t .worker).histogram ≠ Counter.expected (recorded .worker entries) := by
  intro entries t
  have hseconds : seconds (.int (10 ^ 400)) = .error .quotient := by
    have hlarge : ¬ (10 ^ 400 : Int).natAbs < Magnitude.bound * 1000 := by decide +kernel
    rw [seconds_int, if_neg fun h => hlarge ((Binary64.isFinite_ofQuotient_iff _ (by decide)).mp h)]
  have hplay (ms : Number) : empty.play [.record .worker ms] =
      ((empty.record .worker ms).1, [(empty.record .worker ms).2]) := rfl
  have hentry : empty.record .worker (.int (10 ^ 400)) =
      (empty.update .worker ⟨1, []⟩, .error (.excess .quotient)) := by
    rw [record, hseconds]
    rfl
  have hplayed : empty.play entries =
      (empty.update .worker ⟨1, []⟩, [.error (.excess .quotient)]) := by
    rw [hplay, hentry]
  have hworker : t .worker = ⟨1, []⟩ := congrArg (fun played => played.1 .worker) hplayed
  rw [hplayed, hworker]
  refine ⟨rfl, rfl, rfl, fun h => ?_⟩
  have hlast (ms : Number) : (Counter.expected (recorded .worker [.record .worker ms])).getLast? =
      some ("le_inf", 1) := rfl
  have hempty : (Counter.histogram ⟨1, []⟩).getLast? = some ("le_inf", 0) := rfl
  rw [h, hlast] at hempty
  cases hempty

end Tally

end EventChain
