import EventChain.Crew
import EventChain.Proofs.Run.Course

/-!
# Jobs that take turns

A job among others comes to what it comes to alone, as long as the gateway forgets what it was sent:
a job that departs arrives there (`Job.arrive_depart`), and turns do not change where it arrives.
`Crew.Sound` says so of a whole crew, in which no job is lost or taken twice; one turn preserves it
(`Crew.Sound.advance`), and so does a schedule (`Crew.Sound.play`). `Crew.work` counts the turns
that are still to be taken. Each turn at a place whose job ends is one of them
(`Crew.work_advance`), so that no crew of such jobs is stuck (`Crew.exists_done`).
-/

namespace EventChain

open Engine (Outcome)

/-! ## Where a job arrives -/

@[simp] theorem Engine.Outcome.after_zero (outcome : Outcome) : outcome.after 0 = outcome := by
  simp [Outcome.after]

theorem Engine.Outcome.ends_of_ne {outcome : Outcome} (h : outcome.result ≠ .error .endless) :
    outcome.ends = true := by
  unfold Outcome.ends
  split
  · next hendless => exact absurd hendless h
  · rfl

namespace Passage

def arrive (engine : Engine) (now : Timestamp) (p : Passage) : Outcome :=
  (engine.arrive p.chain now p.cut p.course).after p.before

@[simp] theorem arrive_finished (engine : Engine) (now : Timestamp) (outcome : Outcome) :
    (finished outcome).arrive engine now = outcome :=
  outcome.after_zero

end Passage

namespace Service

variable {s : Service} {event : Record} {timeout : Timeout} {now : Timestamp}
  {outer : Option Deadline}

theorem notFound_ne_endless (id : Value) : notFound id ≠ .endless := by
  unfold notFound
  split <;> rintro ⟨⟩

theorem arrive_departLoaded (stored : StoredChain) :
    (s.departLoaded stored event timeout outer).arrive s.engine now =
      s.run stored event timeout now outer := by
  unfold departLoaded run
  cases deadline? stored.chain (timeout.or s.timeout) with
  | error excess => exact Passage.arrive_finished _ _ _
  | ok inner =>
    unfold Engine.execute
    cases Route.build stored.chain stored.nodes s.engine.policy.maxNodes with
    | error failure => rfl
    | ok route => simp only [Passage.arrive, Engine.arrive_depart, Outcome.after]

theorem arrive_depart (id : Value) :
    (s.depart id event timeout outer).arrive s.engine now =
      s.execute id event timeout now outer := by
  unfold depart execute
  cases s.find? id with
  | none => exact Passage.arrive_finished _ _ _
  | some stored =>
    cases outer with
    | none => exact arrive_departLoaded stored
    | some deadline =>
      by_cases h : deadline.span ≤ stored.loading
      · simp only [if_pos h, Passage.arrive_finished]
      · simpa only [if_neg h] using arrive_departLoaded stored

theorem departLoaded_sent (stored : StoredChain) :
    (s.departLoaded stored event timeout outer).course.log.sent = [] := by
  unfold departLoaded
  split
  · rfl
  · split
    · rfl
    · exact Route.depart_sent _ _

theorem depart_sent (id : Value) : (s.depart id event timeout outer).course.log.sent = [] := by
  unfold depart
  split
  · rfl
  · exact departLoaded_sent _
  · split
    · rfl
    · exact departLoaded_sent _

end Service

namespace Job

variable {service : Service} {timeout : Timeout} {now : Timestamp}

theorem arrive_depart (job : Job) :
    (job.depart service timeout).arrive service.engine now = job.run service timeout now := by
  obtain ⟨chain, event⟩ := job
  cases chain with
  | none => exact Passage.arrive_finished _ _ _
  | some chain =>
    simp only [depart, run]
    cases deadline? chain timeout with
    | error excess => exact Passage.arrive_finished _ _ _
    | ok outer => exact Service.arrive_depart chain

theorem depart_sent (job : Job) : (job.depart service timeout).course.log.sent = [] := by
  unfold depart
  split
  · rfl
  · split
    · rfl
    · exact Service.depart_sent _

def alone (service : Service) (policy : BatchPolicy) (now : Timestamp) (job : Job) : JobOutcome :=
  ⟨job, job.run service policy.jobTimeout now⟩

def Ends (service : Service) (policy : BatchPolicy) (now : Timestamp) (job : Job) : Prop :=
  (job.run service policy.jobTimeout now).ends = true

end Job

namespace Crew

variable {service : Service} {policy : BatchPolicy} {now : Timestamp} {jobs : List Job}
  {crew : Crew}

/-! ## The kinds of turn -/

inductive Advanced (service : Service) (now : Timestamp) (crew : Crew) (i : Nat) : Crew → Prop
  | idle (h : crew.active[i]? = none) : Advanced service now crew i crew
  | stay {worker : Worker} {outcome : Outcome} (h : crew.active[i]? = some worker)
      (hcourse : worker.passage.course = .ended outcome) (hends : outcome.ends = false) :
      Advanced service now crew i crew
  | leave {worker : Worker} {outcome : Outcome} (h : crew.active[i]? = some worker)
      (hcourse : worker.passage.course = .ended outcome) :
      Advanced service now crew i ⟨crew.waiting, crew.active.eraseIdx i,
        crew.ended ++ [⟨worker.job, outcome.after worker.passage.before⟩], crew.sent⟩
  | onward {job : Job} {passage : Passage} {stop : Stop} {rest : List Stop} {s : RunState}
      {commands : List Command} {course : Course} (h : crew.active[i]? = some ⟨job, passage⟩)
      (hcourse : passage.course = .underway stop rest s)
      (hturn : service.engine.turn crew.sent passage.chain now passage.cut
        (stop.node.step service.engine.readFilter) rest s = (commands, course)) :
      Advanced service now crew i ⟨crew.waiting,
        crew.active.set i ⟨job, { passage with course := course }⟩, crew.ended,
        crew.sent ++ commands⟩

theorem advance_advanced (service : Service) (policy : BatchPolicy) (now : Timestamp) (crew : Crew)
    (i : Nat) : Advanced service now (crew.seat service policy) i
      (crew.advance service policy now i) := by
  unfold advance
  dsimp only
  split
  · next hnone => exact .idle hnone
  · next job passage hworker =>
    split
    · next outcome hcourse =>
      split
      · exact .leave hworker hcourse
      · next hends => exact .stay hworker hcourse (Bool.eq_false_iff.mpr hends)
    · next hcourse => exact .onward hworker hcourse rfl

/-! ## What turns preserve -/

/-- A crew in which each job of a batch is once, at the end of what it comes to alone or on the way
there, and in which the gateway was sent the commands of those that have begun. -/
structure Sound (service : Service) (policy : BatchPolicy) (now : Timestamp) (jobs : List Job)
    (crew : Crew) : Prop where
  jobs : (crew.ended.map (·.job) ++ crew.active.map (·.job) ++ crew.waiting).Perm jobs
  places : crew.active.length ≤ policy.concurrency.toNat
  active : ∀ worker ∈ crew.active,
    worker.passage.arrive service.engine now = worker.job.run service policy.jobTimeout now
  ended : ∀ o ∈ crew.ended, o = o.job.alone service policy now
  sent : (crew.ended.flatMap (·.outcome.log.sent) ++
    crew.active.flatMap (·.passage.course.log.sent)).Perm crew.sent

theorem sound_assemble {line : List Job} (h : line.Perm jobs) :
    (assemble line).Sound service policy now jobs :=
  ⟨h, Nat.zero_le _, by simp [assemble], by simp [assemble], .nil⟩

theorem exists_split {α : Type} {l : List α} {i : Nat} {a : α} (h : l[i]? = some a) :
    ∃ before after, l = before ++ a :: after ∧ l.eraseIdx i = before ++ after ∧
      ∀ b, l.set i b = before ++ b :: after := by
  obtain ⟨hi, rfl⟩ := List.getElem?_eq_some_iff.mp h
  exact ⟨l.take i, l.drop (i + 1), by simp, List.eraseIdx_eq_take_drop_succ l i,
    fun b => List.set_eq_take_append_cons_drop.trans (if_pos hi)⟩

theorem Sound.seat (h : crew.Sound service policy now jobs) :
    (crew.seat service policy).Sound service policy now jobs := by
  refine ⟨?_, ?_, ?_, h.ended, ?_⟩
  · have hline := List.take_append_drop (policy.concurrency.toNat - crew.active.length) crew.waiting
    simpa [Crew.seat, Function.comp_def, hline] using h.jobs
  · have hplaces := h.places
    simp only [Crew.seat, List.length_append, List.length_map, List.length_take]
    omega
  · intro worker hmem
    rcases List.mem_append.mp hmem with hmem | hmem
    · exact h.active worker hmem
    · obtain ⟨job, -, rfl⟩ := List.mem_map.mp hmem
      exact job.arrive_depart
  · have hnew (line : List Job) :
        (line.map fun job => (⟨job, job.depart service policy.jobTimeout⟩ : Worker)).flatMap
          (·.passage.course.log.sent) = [] := by
      simp [List.flatMap_map, Job.depart_sent]
    simpa only [Crew.seat, List.flatMap_append, hnew, List.append_nil] using h.sent

theorem Sound.leave {waiting : List Job} {before after : List Worker} {worker : Worker}
    {ended : List JobOutcome} {sent : List Command} {outcome : Outcome}
    (h : Sound service policy now jobs ⟨waiting, before ++ worker :: after, ended, sent⟩)
    (hended : worker.passage.course = .ended outcome) :
    Sound service policy now jobs ⟨waiting, before ++ after,
      ended ++ [⟨worker.job, outcome.after worker.passage.before⟩], sent⟩ := by
  have hruns : outcome.after worker.passage.before =
      worker.job.run service policy.jobTimeout now := by
    rw [← h.active worker (by simp), Passage.arrive, hended]
    rfl
  refine ⟨?_, ?_, fun other hmem => h.active other ?_, fun o hmem => ?_, ?_⟩
  · refine .trans ?_ h.jobs
    simpa using List.perm_middle.symm.append_left _
  · have hplaces := h.places
    simp only [List.length_append, List.length_cons] at hplaces ⊢
    omega
  · rcases List.mem_append.mp hmem with hmem | hmem <;> simp [hmem]
  · rcases List.mem_append.mp hmem with hmem | hmem
    · exact h.ended o hmem
    · obtain rfl := List.mem_singleton.mp hmem
      exact congrArg _ hruns
  · refine .trans ?_ h.sent
    have hlog : worker.passage.course.log.sent = outcome.log.sent := by rw [hended]; rfl
    simp only [List.flatMap_append, List.flatMap_cons, List.flatMap_nil, List.append_nil,
      List.append_assoc, hlog]
    exact (List.perm_append_comm_assoc _ _ _).append_left _

theorem Sound.onward {waiting : List Job} {before after : List Worker} {job : Job}
    {passage : Passage} {ended : List JobOutcome} {sent : List Command} {course : Course}
    {commands : List Command}
    (h : Sound service policy now jobs ⟨waiting, before ++ ⟨job, passage⟩ :: after, ended, sent⟩)
    (harrive : service.engine.arrive passage.chain now passage.cut course =
      service.engine.arrive passage.chain now passage.cut passage.course)
    (hsent : course.log.sent = passage.course.log.sent ++ commands) :
    Sound service policy now jobs ⟨waiting,
      before ++ ⟨job, { passage with course := course }⟩ :: after, ended, sent ++ commands⟩ := by
  refine ⟨by simpa using h.jobs, by simpa using h.places, fun other hmem => ?_, h.ended, ?_⟩
  · rcases List.mem_append.mp hmem with hmem | hmem
    · exact h.active other (by simp [hmem])
    · rcases List.mem_cons.mp hmem with rfl | hmem
      · refine .trans ?_ (h.active ⟨job, passage⟩ (by simp))
        simp only [Passage.arrive, harrive]
      · exact h.active other (by simp [hmem])
  · refine .trans ?_ (h.sent.append_right commands)
    simp only [List.flatMap_append, List.flatMap_cons, List.append_assoc, hsent]
    exact ((List.perm_append_comm.append_left _).append_left _).append_left _

theorem Sound.advance (h : crew.Sound service policy now jobs)
    (hf : service.engine.dispatcher.Forgetful) (i : Nat) :
    (crew.advance service policy now i).Sound service policy now jobs := by
  have hadvanced := crew.advance_advanced service policy now i
  replace h := h.seat
  generalize crew.advance service policy now i = next, crew.seat service policy = seated
    at h hadvanced ⊢
  obtain ⟨waiting, active, ended, sent⟩ := seated
  cases hadvanced with
  | idle | stay => exact h
  | leave hworker hcourse =>
    obtain ⟨before, after, rfl, herase, -⟩ := exists_split hworker
    rw [herase]
    exact h.leave hcourse
  | onward hworker hcourse hturn =>
    obtain ⟨before, after, rfl, -, hset⟩ := exists_split hworker
    rw [hset]
    obtain ⟨rfl, hsent⟩ := hturn ▸ Engine.turn_eq hf _ _ _ _ _ _ _
    refine h.onward ?_ ?_
    · rw [hcourse]
      exact service.engine.arrive_onward _ _ _ _
    · rw [hcourse]
      exact hsent

theorem Sound.play (h : crew.Sound service policy now jobs)
    (hf : service.engine.dispatcher.Forgetful) (schedule : List Nat) :
    (crew.play service policy now schedule).Sound service policy now jobs := by
  induction schedule generalizing crew with
  | nil => exact h
  | cons i rest ih => exact ih (h.advance hf i)

theorem play_append (service : Service) (policy : BatchPolicy) (now : Timestamp) (crew : Crew)
    (schedule more : List Nat) :
    crew.play service policy now (schedule ++ more) =
      (crew.play service policy now schedule).play service policy now more :=
  List.foldl_append

/-! ## No crew is stuck -/

theorem Sound.ends (h : crew.Sound service policy now jobs)
    (hends : ∀ job ∈ jobs, job.Ends service policy now) {worker : Worker}
    (hworker : worker ∈ crew.active) {outcome : Outcome}
    (hcourse : worker.passage.course = .ended outcome) : outcome.ends = true := by
  have hjob : worker.job ∈ jobs :=
    h.jobs.mem_iff.mp (by simp [List.mem_map_of_mem (f := Worker.job) hworker])
  have harrive := h.active worker hworker
  rw [Passage.arrive, hcourse] at harrive
  have hdone := hends _ hjob
  rw [Job.Ends, ← harrive] at hdone
  exact hdone

/-- The turns that are still to be taken: one for each stop ahead, and one to end. -/
def work (service : Service) (policy : BatchPolicy) (crew : Crew) : Nat :=
  (crew.waiting.map fun job => (job.depart service policy.jobTimeout).course.ahead + 1).sum +
    (crew.active.map fun worker => worker.passage.course.ahead + 1).sum

theorem work_seat (service : Service) (policy : BatchPolicy) (crew : Crew) :
    (crew.seat service policy).work service policy = crew.work service policy := by
  -- A job in line has the turns ahead that it has once it departs.
  have hline := congrArg
    (fun line : List Job =>
      (line.map fun job => (job.depart service policy.jobTimeout).course.ahead + 1).sum)
    (List.take_append_drop (policy.concurrency.toNat - crew.active.length) crew.waiting)
  simp only [List.map_append, List.sum_append] at hline
  simp only [work, seat, List.map_append, List.sum_append, List.map_map, Function.comp_def]
  omega

/-- Each turn at a place that is taken is one of those that are still to be taken. -/
theorem Sound.work_advance (hsound : crew.Sound service policy now jobs)
    (hends : ∀ job ∈ jobs, job.Ends service policy now) {i : Nat}
    (h : i < (crew.seat service policy).active.length) :
    (crew.advance service policy now i).work service policy < crew.work service policy := by
  rw [← work_seat service policy crew]
  replace hsound := hsound.seat
  have hadvanced := crew.advance_advanced service policy now i
  generalize crew.advance service policy now i = next, crew.seat service policy = seated
    at h hsound hadvanced ⊢
  obtain ⟨waiting, active, ended, sent⟩ := seated
  cases hadvanced with
  | idle hnone => exact absurd (List.getElem?_eq_none_iff.mp hnone) (Nat.not_le.mpr h)
  | stay hworker hcourse hendless =>
    cases hendless.symm.trans (hsound.ends hends (List.mem_of_getElem? hworker) hcourse)
  | leave hworker hcourse =>
    obtain ⟨before, after, rfl, herase, -⟩ := exists_split hworker
    simp only [herase, work, List.map_append, List.map_cons, List.sum_append, List.sum_cons]
    omega
  | @onward job passage stop rest s commands course hworker hcourse hturn =>
    obtain ⟨before, after, rfl, -, hset⟩ := exists_split hworker
    have hstops : passage.course.ahead = rest.length + 1 := by rw [hcourse]; rfl
    have hahead : course.ahead ≤ rest.length := by
      cases hturn
      exact Course.ahead_onward_le _ _ _
    simp only [hset, work, List.map_append, List.map_cons, List.sum_append, List.sum_cons]
    omega

theorem exists_taken (service : Service) (hc : 1 ≤ policy.concurrency)
    (h : crew.isDone = false) : 0 < (crew.seat service policy).active.length := by
  obtain ⟨waiting, active, ended, sent⟩ := crew
  cases active with
  | cons worker rest => simp [seat]
  | nil =>
    cases waiting with
    | nil => simp [isDone] at h
    | cons job line =>
      simp [seat]
      omega

/-- From every state some turns end all jobs, if each ends on its own. -/
theorem Sound.exists_done (h : crew.Sound service policy now jobs) (hc : 1 ≤ policy.concurrency)
    (hf : service.engine.dispatcher.Forgetful) (hends : ∀ job ∈ jobs, job.Ends service policy now) :
    ∃ schedule, (crew.play service policy now schedule).isDone := by
  induction hwork : crew.work service policy using Nat.strong_induction_on generalizing crew with
  | h n ih =>
    cases hdone : crew.isDone with
    | true => exact ⟨[], hdone⟩
    | false =>
      have hless := h.work_advance hends (exists_taken service hc hdone)
      obtain ⟨schedule, hschedule⟩ := ih _ (hwork ▸ hless) (h.advance hf 0) rfl
      exact ⟨0 :: schedule, hschedule⟩

end Crew

end EventChain
