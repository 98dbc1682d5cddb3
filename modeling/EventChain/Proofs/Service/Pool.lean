import EventChain.Proofs.Service.Crew
import Mathlib.Data.List.InsertIdx

/-!
# The order of a pool

The order in which a pool ends the jobs of a batch, each after the time that it takes on its own, is
one in which they may end as a crew that takes turns: whichever job ends first may take all its
turns before any other takes one (`Crew.exists_leave`), and what waits for the pool then moves up as
the line of the crew does (`Crew.Pooled.exists_next`).
-/

namespace EventChain

namespace Pool

variable {α : Type} {running : List (Running α)}

theorem earliest?_eq_none (h : earliest? running = none) : running = [] := by
  cases running with
  | nil => rfl
  | cons r rest =>
    unfold earliest? at h
    split at h
    · cases h
    · split at h <;> cases h

theorem earliest?_eq_some {first : Running α} {others : List (Running α)}
    (h : earliest? running = some (first, others)) :
    ∃ i, running[i]? = some first ∧ others = running.eraseIdx i := by
  induction running generalizing first others with
  | nil => cases h
  | cons r rest ih =>
    unfold earliest? at h
    split at h
    · next hnone =>
      cases h
      exact ⟨0, rfl, (earliest?_eq_none hnone).symm⟩
    · next best left hbest =>
      split at h
      · cases h
        exact ⟨0, rfl, rfl⟩
      · cases h
        obtain ⟨i, hi, rfl⟩ := ih hbest
        exact ⟨i + 1, hi, rfl⟩

theorem map_task_enter {span : α → Option Rat} {tasks : List α}
    (h : ∀ task ∈ tasks, ∃ seconds, span task = some seconds) (moment : Rat) :
    (tasks.filterMap (enter span moment)).map (·.task) = tasks := by
  induction tasks with
  | nil => rfl
  | cons task rest ih =>
    obtain ⟨⟨seconds, hseconds⟩, hrest⟩ := List.forall_mem_cons.mp h
    have henter : enter span moment task = some ⟨moment + seconds, task⟩ := by
      rw [enter, hseconds]
      rfl
    rw [List.filterMap_cons_some henter, List.map_cons, ih hrest]

theorem length_drain_le (span : α → Option Rat) (rounds : Nat) (running : List (Running α))
    (waiting : List α) : (drain span rounds running waiting).length ≤
      running.length + waiting.countP fun task => (span task).isSome := by
  induction rounds generalizing running waiting with
  | zero => exact Nat.zero_le _
  | succ rounds ih =>
    rw [drain]
    cases hfirst : earliest? running with
    | none => exact Nat.zero_le _
    | some found =>
      obtain ⟨first, others⟩ := found
      obtain ⟨i, hi, rfl⟩ := earliest?_eq_some hfirst
      have hlen := List.length_eraseIdx_of_lt (List.getElem?_eq_some_iff.mp hi).1
      have hpos : 0 < running.length := (Nat.zero_le i).trans_lt (List.getElem?_eq_some_iff.mp hi).1
      cases waiting with
      | nil =>
        have hrest := ih (running.eraseIdx i) []
        simp only [List.length_cons, List.countP_nil] at hrest ⊢
        omega
      | cons task rest =>
        have hrest := ih (running.eraseIdx i ++ (enter span first.finish task).toList) rest
        have hentered : (enter span first.finish task).toList.length =
            if (span task).isSome then 1 else 0 := by
          unfold enter
          cases span task <;> rfl
        rw [List.length_append, hentered] at hrest
        dsimp only
        rw [List.length_cons, List.countP_cons]
        omega

theorem length_finishOrder_le (places : Nat) (span : α → Option Rat) (tasks : List α) :
    (finishOrder places span tasks).length ≤ tasks.countP fun task => (span task).isSome := by
  refine (length_drain_le ..).trans ?_
  have hentered (line : List α) : (line.filterMap (enter span 0)).length =
      line.countP fun task => (span task).isSome := by
    rw [List.length_filterMap_eq_countP]
    simp [enter]
  rw [hentered, ← List.countP_append, List.take_append_drop]

end Pool

namespace Crew

variable {service : Service} {policy : BatchPolicy} {now : Timestamp} {jobs : List Job}
  {crew : Crew}

/-- A crew that has no free place, or no job in line. -/
def Full (policy : BatchPolicy) (crew : Crew) : Prop :=
  crew.waiting = [] ∨ policy.concurrency.toNat ≤ crew.active.length

theorem seat_of_full (service : Service) (h : crew.Full policy) :
    crew.seat service policy = crew := by
  obtain ⟨waiting, active, ended, sent⟩ := crew
  rcases h with h | h
  · obtain rfl : waiting = [] := h
    simp [seat]
  · have hfree : policy.concurrency.toNat - active.length = 0 := Nat.sub_eq_zero_of_le h
    simp [seat, hfree]

theorem full_seat (service : Service) (policy : BatchPolicy) (crew : Crew) :
    (crew.seat service policy).Full policy := by
  unfold Full seat
  simp only [List.drop_eq_nil_iff, List.length_append, List.length_map, List.length_take]
  omega

theorem Full.set (h : crew.Full policy) (i : Nat) (worker : Worker) (sent : List Command) :
    Full policy ⟨crew.waiting, crew.active.set i worker, crew.ended, sent⟩ := by
  simpa only [Full, List.length_set] using h

/-- The job at a place may take all its turns and end before any other takes one. -/
theorem exists_leave (hf : service.engine.dispatcher.Forgetful)
    (hends : ∀ job ∈ jobs, job.Ends service policy now)
    (h : crew.Sound service policy now jobs) {i : Nat} {worker : Worker}
    (hworker : (crew.seat service policy).active[i]? = some worker) :
    ∃ schedule sent, crew.play service policy now schedule =
      ⟨(crew.seat service policy).waiting, (crew.seat service policy).active.eraseIdx i,
        crew.ended ++ [worker.job.alone service policy now], sent⟩ := by
  -- Until the worker leaves no place is free, so that the turns of others cannot come between.
  induction hahead : worker.passage.course.ahead using Nat.strong_induction_on
    generalizing crew worker with
  | h n ih =>
    have hadvanced := crew.advance_advanced service policy now i
    have hsound := h.advance hf i
    have hseated := h.seat
    have hfull := full_seat service policy crew
    have hended : (crew.seat service policy).ended = crew.ended := rfl
    rw [← hended]
    generalize hnext : crew.advance service policy now i = next at hadvanced hsound
    generalize crew.seat service policy = seated at *
    cases hadvanced with
    | idle hnone => cases hnone.symm.trans hworker
    | stay hsome hcourse hendless =>
      cases hendless.symm.trans (hseated.ends hends (List.mem_of_getElem? hsome) hcourse)
    | leave hsome hcourse =>
      obtain rfl := Option.some.inj (hsome.symm.trans hworker)
      have harrive := hseated.active _ (List.mem_of_getElem? hsome)
      rw [Passage.arrive, hcourse] at harrive
      exact ⟨[i], seated.sent, hnext.trans (by rw [Job.alone, ← harrive]; rfl)⟩
    | @onward job passage stop rest s commands course hsome hcourse hturn =>
      obtain rfl := Option.some.inj (hsome.symm.trans hworker)
      have hless : course.ahead < n := by
        cases hturn
        rw [← hahead, hcourse]
        exact Nat.lt_succ_of_le (Course.ahead_onward_le _ _ _)
      have hseat := seat_of_full service
        (hfull.set i ⟨job, { passage with course := course }⟩ (seated.sent ++ commands))
      obtain ⟨schedule, sent, hplay⟩ := ih _ hless hsound
        (by rw [hseat]; exact List.getElem?_set_self (List.getElem?_eq_some_iff.mp hsome).1) rfl
      refine ⟨i :: schedule, sent, ?_⟩
      change (crew.advance service policy now i).play service policy now schedule = _
      rw [hnext, hplay, hseat]
      simp only [List.eraseIdx_set_eq]

theorem seat_leave (service : Service) {active : List Worker} {i : Nat}
    (hplaces : active.length = policy.concurrency.toNat) (hi : i < active.length) (job : Job)
    (waiting : List Job) (ended : List JobOutcome) (sent : List Command) :
    seat service policy ⟨job :: waiting, active.eraseIdx i, ended, sent⟩ =
      ⟨waiting, active.eraseIdx i ++ [⟨job, job.depart service policy.jobTimeout⟩], ended,
        sent⟩ := by
  have hfree : policy.concurrency.toNat - (active.eraseIdx i).length = 1 := by
    rw [List.length_eraseIdx_of_lt hi]
    omega
  simp [seat, hfree]

/-- What runs in a pool, and what waits for it, are the jobs of a crew, each with what it comes to.
-/
structure Pooled (service : Service) (policy : BatchPolicy) (now : Timestamp) (crew : Crew)
    (running : List (Pool.Running JobOutcome)) (waiting : List JobOutcome) : Prop where
  running : running.map (·.task) =
    (crew.seat service policy).active.map fun worker => worker.job.alone service policy now
  waiting : waiting = (crew.seat service policy).waiting.map (·.alone service policy now)

theorem Pooled.isDone {waiting : List JobOutcome} (hc : 1 ≤ policy.concurrency)
    (h : Pooled service policy now crew [] waiting) : crew.isDone = true := by
  by_contra hleft
  have htaken := exists_taken service hc (Bool.eq_false_iff.mpr hleft)
  have hnone := List.map_eq_nil_iff.mp h.running.symm
  rw [hnone] at htaken
  exact absurd htaken (lt_irrefl 0)

/-- The job of any task that runs in the pool may be the next that ends, and the first in line takes
its place. -/
theorem Pooled.exists_next (hf : service.engine.dispatcher.Forgetful)
    (hends : ∀ job ∈ jobs, job.Ends service policy now)
    (hsound : crew.Sound service policy now jobs) {running : List (Pool.Running JobOutcome)}
    {waiting : List JobOutcome} (h : Pooled service policy now crew running waiting) {i : Nat}
    {first : Pool.Running JobOutcome} (hi : running[i]? = some first) :
    ∃ schedule, (crew.play service policy now schedule).ended = crew.ended ++ [first.task] ∧
      (waiting = [] →
        Pooled service policy now (crew.play service policy now schedule) (running.eraseIdx i) []) ∧
      ∀ task rest finish, waiting = task :: rest →
        Pooled service policy now (crew.play service policy now schedule)
          (running.eraseIdx i ++ [⟨finish, task⟩]) rest := by
  have hplace := congrArg (·[i]?) h.running
  simp only [List.getElem?_map, hi, Option.map_some] at hplace
  obtain ⟨worker, hworker, htask⟩ := Option.map_eq_some_iff.mp hplace.symm
  obtain ⟨schedule, sent, hplay⟩ := exists_leave hf hends hsound hworker
  have hplaces := hsound.seat.places
  have hfull := full_seat service policy crew
  obtain ⟨hrunning, hwaiting⟩ := h
  refine ⟨schedule, ?_⟩
  rw [hplay]
  generalize crew.seat service policy = seated at *
  obtain ⟨line, active, ended, sent'⟩ := seated
  dsimp only at *
  have hlen : i < active.length := (List.getElem?_eq_some_iff.mp hworker).1
  have herase : (running.eraseIdx i).map (·.task) =
      (active.eraseIdx i).map fun worker => worker.job.alone service policy now := by
    rw [← List.eraseIdx_map, hrunning, List.eraseIdx_map]
  refine ⟨by rw [htask], fun hnil => ?_, fun task rest finish hcons => ?_⟩
  · obtain rfl : line = [] := List.map_eq_nil_iff.mp (hwaiting.symm.trans hnil)
    have hall : Full policy ⟨[], active.eraseIdx i,
        crew.ended ++ [worker.job.alone service policy now], sent⟩ := .inl rfl
    have hseat := seat_of_full service hall
    exact ⟨by rw [hseat]; exact herase, by rw [hseat]; rfl⟩
  · cases line with
    | nil => simp [hcons] at hwaiting
    | cons job line =>
      obtain ⟨rfl, rfl⟩ : task = job.alone service policy now ∧
          rest = line.map (·.alone service policy now) := by
        simpa [hcons] using hwaiting
      have hseat := seat_leave service
        (hplaces.antisymm (hfull.resolve_left (List.cons_ne_nil _ _))) hlen job line
        (crew.ended ++ [worker.job.alone service policy now]) sent
      exact ⟨by rw [hseat]; simp [herase], by rw [hseat]⟩

/-- The jobs of a crew may end in the order in which a pool ends them. -/
theorem Pooled.exists_drain (hc : 1 ≤ policy.concurrency)
    (hf : service.engine.dispatcher.Forgetful) (hends : ∀ job ∈ jobs, job.Ends service policy now)
    (span : JobOutcome → Option Rat) (rounds : Nat) (hsound : crew.Sound service policy now jobs)
    {running : List (Pool.Running JobOutcome)} {waiting : List JobOutcome}
    (h : Pooled service policy now crew running waiting)
    (hspan : ∀ task ∈ waiting, ∃ seconds, span task = some seconds)
    (hrounds : running.length + waiting.length ≤ rounds) :
    ∃ schedule, (crew.play service policy now schedule).isDone ∧
      (crew.play service policy now schedule).ended =
        crew.ended ++ Pool.drain span rounds running waiting := by
  -- Each round of the pool is a stretch of turns at one place: induction on the rounds left.
  induction rounds generalizing crew running waiting with
  | zero =>
    obtain rfl : running = [] := List.length_eq_zero_iff.mp (by omega)
    exact ⟨[], h.isDone hc, by simp [Pool.drain, Crew.play]⟩
  | succ rounds ih =>
    rw [Pool.drain]
    cases hfirst : Pool.earliest? running with
    | none =>
      obtain rfl := Pool.earliest?_eq_none hfirst
      exact ⟨[], h.isDone hc, by simp [Crew.play]⟩
    | some found =>
      obtain ⟨first, others⟩ := found
      obtain ⟨i, hi, rfl⟩ := Pool.earliest?_eq_some hfirst
      have hlt : i < running.length := (List.getElem?_eq_some_iff.mp hi).1
      have hlen := List.length_eraseIdx_of_lt hlt
      obtain ⟨schedule, hended, hlast, hnext⟩ := h.exists_next hf hends hsound hi
      replace hsound := hsound.play hf schedule
      cases waiting with
      | nil =>
        simp only [List.length_nil] at hrounds
        obtain ⟨more, hdone, hmore⟩ := ih hsound (hlast rfl) hspan (by rw [List.length_nil]; omega)
        refine ⟨schedule ++ more, ?_⟩
        rw [play_append]
        exact ⟨hdone, by rw [hmore, hended]; simp⟩
      | cons task rest =>
        simp only [List.length_cons] at hrounds
        obtain ⟨⟨seconds, hseconds⟩, hrest⟩ := List.forall_mem_cons.mp hspan
        have henter : (Pool.enter span first.finish task).toList =
            [⟨first.finish + seconds, task⟩] := by
          rw [Pool.enter, hseconds]
          rfl
        obtain ⟨more, hdone, hmore⟩ := ih hsound (hnext task rest (first.finish + seconds) rfl)
          hrest (by rw [List.length_append, List.length_singleton]; omega)
        refine ⟨schedule ++ more, ?_⟩
        rw [play_append]
        exact ⟨hdone, by rw [hmore, hended]; simp [henter]⟩

end Crew

end EventChain
