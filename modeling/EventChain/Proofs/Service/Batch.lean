import EventChain.Proofs.Deadline
import EventChain.Proofs.Device.Dispatch
import EventChain.Proofs.Failure
import EventChain.Proofs.Service.Pool
import EventChain.Proofs.Value.Identifier

/-!
# What a batch accounts for

However its jobs take turns, and in whatever order they end, a batch accounts for each of them: with
what it comes to on its own, once, and announced as it ends (`BatchReport.Accounts`). The batch is
reported exactly if each of its failures can be (`Batch.gather_reportable`), which leaves out
failures of chains that cannot be shown, and orders to stop. A batch with a job that never ends has
no report (`Batch.run_endless`).
-/

namespace EventChain

namespace Crew

variable {service : Service} {policy : BatchPolicy} {now : Timestamp} {jobs : List Job}
  {crew : Crew}

theorem Sound.ended_perm (h : crew.Sound service policy now jobs) (hdone : crew.isDone) :
    crew.ended.Perm (jobs.map (·.alone service policy now)) := by
  obtain ⟨waiting, active, ended, sent⟩ := crew
  obtain ⟨rfl, rfl⟩ : waiting = [] ∧ active = [] := by simpa [isDone] using hdone
  have halone : ended = (ended.map (·.job)).map (·.alone service policy now) := by
    rw [List.map_map]
    exact ((List.map_congr_left fun o ho => (h.ended o ho).symm).trans (List.map_id ended)).symm
  rw [halone]
  exact (by simpa using h.jobs : (ended.map (·.job)).Perm jobs).map _

theorem Sound.sent_of_done (h : crew.Sound service policy now jobs) (hdone : crew.isDone) :
    (crew.ended.flatMap (·.outcome.log.sent)).Perm crew.sent := by
  obtain ⟨waiting, active, ended, sent⟩ := crew
  obtain ⟨rfl, rfl⟩ : waiting = [] ∧ active = [] := by simpa [isDone] using hdone
  simpa using h.sent

end Crew

/-! ## Reports -/

namespace BatchReport

variable {service : Service} {policy : BatchPolicy} {now : Timestamp} {jobs : List Job}
  {report : BatchReport}

/-- A report in which each job has what it comes to on its own, as its result or as the reason of
its failure, and which was announced job by job. -/
structure Accounts (service : Service) (policy : BatchPolicy) (now : Timestamp) (jobs : List Job)
    (report : BatchReport) : Prop where
  total : report.total = jobs.length
  settled : report.results.length + report.failures.length = report.total
  results : report.results.Perm
    (jobs.filterMap fun job => (job.alone service policy now).result?.map (job, ·))
  failures : report.failures.Perm
    (jobs.filterMap fun job => (job.alone service policy now).failure?.map (job, ·))
  completed : report.progress.map (·.completed) = List.range' 1 jobs.length
  ofTotal : ∀ p ∈ report.progress, p.total = jobs.length
  announced : (report.progress.map fun p => (p.ended.job, p.ended.success)).Perm
    (jobs.map fun job => (job, (job.alone service policy now).success))

theorem completed_progress (report : BatchReport) :
    report.progress.map (·.completed) = List.range' 1 report.total := by
  unfold progress total
  rw [List.map_map, ← List.zipIdx_map_snd 1 report.ended, List.zipIdx_succ, List.map_map]
  rfl

theorem ended_progress (report : BatchReport) :
    report.progress.map (·.ended) = report.ended := by
  unfold progress
  rw [List.map_map]
  exact List.zipIdx_map_fst 0 report.ended

theorem total_of_mem_progress {progress : Progress} (h : progress ∈ report.progress) :
    progress.total = report.total := by
  obtain ⟨_, -, rfl⟩ := List.mem_map.mp h
  rfl

theorem settled (report : BatchReport) :
    report.results.length + report.failures.length = report.total := by
  unfold results failures total
  induction report.ended with
  | nil => rfl
  | cons o rest ih =>
    obtain ⟨job, result, log⟩ := o
    cases result with
    | ok result | error failure =>
      simp [JobOutcome.result?, JobOutcome.failure?, Except.toOption] at ih ⊢
      omega

theorem accounts_of_perm (h : report.ended.Perm (jobs.map (·.alone service policy now))) :
    report.Accounts service policy now jobs := by
  have htotal : report.total = jobs.length := by simpa [total] using h.length_eq
  refine ⟨htotal, report.settled, ?_, ?_, htotal ▸ report.completed_progress,
    fun progress hmem => (total_of_mem_progress hmem).trans htotal, ?_⟩
  · refine (h.filterMap _).trans ?_
    rw [List.filterMap_map]
    exact .refl _
  · refine (h.filterMap _).trans ?_
    rw [List.filterMap_map]
    exact .refl _
  · rw [← ended_progress] at h
    have hflags := h.map fun o => (o.job, o.success)
    simp only [List.map_map] at hflags
    exact hflags

theorem logged_eq_ok :
    report.logged = .ok () ↔ ∀ entry ∈ report.failures,
      entry.2.isError = true ∧ ∃ text, entry.1.chainId.plain = .ok text := by
  unfold logged
  rw [forM_eq_ok]
  refine forall₂_congr fun entry _ => ?_
  cases herror : entry.2.isError with
  | false =>
    simp only [herror, Bool.not_false, if_true, bind_eq_ok, throw_ne_ok, false_and, exists_const,
      Bool.false_eq_true]
  | true =>
    simp only [herror, Bool.not_true, Bool.false_eq_true, if_false, bind_eq_ok, limited_eq_ok,
      pure_eq_ok, and_true, true_and]

end BatchReport

/-- A job whose failure, if it fails on its own, can be reported: it is an error, and the chain of
the job can be shown. -/
def Job.Reportable (service : Service) (policy : BatchPolicy) (now : Timestamp) (job : Job) :
    Prop :=
  ∀ failure, (job.run service policy.jobTimeout now).result = .error failure →
    failure.isError = true ∧ ∃ text, job.chainId.plain = .ok text

theorem JobOutcome.failure?_eq_some {o : JobOutcome} {failure : Failure} :
    o.failure? = some failure ↔ o.outcome.result = .error failure := by
  unfold failure?
  cases o.outcome.result <;> simp

namespace Batch

variable {service : Service} {policy : BatchPolicy} {now : Timestamp} {jobs : List Job}

theorem gather_eq_ok {ended : List JobOutcome} {report : BatchReport} :
    gather ended = .ok report ↔
      report = ⟨ended, ended.foldl (fun ledger o => ledger.enter o.outcome) .empty⟩ ∧
        report.logged = .ok () := by
  unfold gather
  simp only [bind_eq_ok, pure_eq_ok]
  constructor
  · rintro ⟨⟨⟩, hlogged, rfl⟩
    exact ⟨rfl, hlogged⟩
  · rintro ⟨rfl, hlogged⟩
    exact ⟨(), hlogged, rfl⟩

/-- Jobs are reported in any order of their ends exactly if each can be. -/
theorem gather_reportable {ended : List JobOutcome}
    (h : ended.Perm (jobs.map (·.alone service policy now))) :
    (∃ report, gather ended = .ok report) ↔ ∀ job ∈ jobs, job.Reportable service policy now := by
  simp only [gather_eq_ok, exists_eq_left, BatchReport.logged_eq_ok]
  constructor
  · intro hshown job hjob failure hfails
    have hmem : job.alone service policy now ∈ ended := h.mem_iff.mpr (List.mem_map_of_mem hjob)
    exact hshown (job, failure) (List.mem_filterMap.mpr
      ⟨_, hmem, by rw [JobOutcome.failure?_eq_some.mpr hfails]; rfl⟩)
  · intro hjobs entry hentry
    obtain ⟨o, ho, hfailure⟩ := List.mem_filterMap.mp hentry
    obtain ⟨job, hjob, rfl⟩ := List.mem_map.mp (h.mem_iff.mp ho)
    obtain ⟨failure, hfails, rfl⟩ := Option.map_eq_some_iff.mp hfailure
    exact hjobs job hjob failure (JobOutcome.failure?_eq_some.mp hfails)

/-! ## The order in which jobs end -/

/-- The order in which the jobs end that do, each after the time that it takes on its own. -/
def order (service : Service) (policy : BatchPolicy) (now : Timestamp) (jobs : List Job) :
    List JobOutcome :=
  Pool.finishOrder policy.concurrency.toNat JobOutcome.span?
    (jobs.map (·.alone service policy now))

theorem run_eq (service : Service) (policy : BatchPolicy) (now : Timestamp) (jobs : List Job) :
    run service policy now jobs =
      if policy.concurrency < 0 then .error .negativeConcurrency
      else gather (order service policy now jobs) >>= fun report =>
        if (order service policy now jobs).length < jobs.length then .error .endless
        else .ok report := by
  unfold run
  split
  · rfl
  · dsimp only
    rw [List.length_map]
    refine congrArg (gather (order service policy now jobs) >>= ·) (funext fun report => ?_)
    change (if (order service policy now jobs).length < jobs.length then _ else _) = _
    by_cases h : (order service policy now jobs).length < jobs.length
    · rw [if_pos h, if_pos h]
      rfl
    · rw [if_neg h, if_neg h]
      rfl

theorem span?_alone {job : Job} (h : job.Ends service policy now) :
    ∃ seconds, (job.alone service policy now).span? = some seconds :=
  ⟨_, if_pos h⟩

/-- The jobs of a batch end as those of a crew do under some schedule, if each ends on its own. -/
theorem run_eq_gather (hc : 1 ≤ policy.concurrency) (hf : service.engine.dispatcher.Forgetful)
    (hends : ∀ job ∈ jobs, job.Ends service policy now) :
    ∃ schedule, ((Crew.assemble jobs).play service policy now schedule).isDone ∧
      run service policy now jobs =
        gather ((Crew.assemble jobs).play service policy now schedule).ended := by
  let tasks := jobs.map (·.alone service policy now)
  let running := (tasks.take policy.concurrency.toNat).filterMap (Pool.enter JobOutcome.span? 0)
  have hspan : ∀ task ∈ tasks, ∃ seconds, task.span? = some seconds :=
    List.forall_mem_map.mpr fun job hjob => span?_alone (hends job hjob)
  have hrunning : running.map (·.task) = tasks.take policy.concurrency.toNat :=
    Pool.map_task_enter (fun task htask => hspan task (List.mem_of_mem_take htask)) 0
  have hpooled : Crew.Pooled service policy now (Crew.assemble jobs) running
      (tasks.drop policy.concurrency.toNat) := by
    constructor
    · rw [hrunning]
      simp [tasks, Crew.seat, Crew.assemble, Function.comp_def]
    · simp [tasks, Crew.seat, Crew.assemble]
  have hrounds : running.length + (tasks.drop policy.concurrency.toNat).length ≤ tasks.length := by
    have htaken := congrArg List.length hrunning
    rw [List.length_map, List.length_take] at htaken
    rw [htaken, List.length_drop]
    omega
  have hsound : (Crew.assemble jobs).Sound service policy now jobs :=
    Crew.sound_assemble (.refl jobs)
  obtain ⟨schedule, hdone, hended⟩ := hpooled.exists_drain hc hf hends JobOutcome.span? tasks.length
    hsound (fun task htask => hspan task (List.mem_of_mem_drop htask)) hrounds
  replace hended : ((Crew.assemble jobs).play service policy now schedule).ended =
      order service policy now jobs := hended
  have hlength := ((hsound.play hf schedule).ended_perm hdone).length_eq
  rw [hended, List.length_map] at hlength
  refine ⟨schedule, hdone, ?_⟩
  rw [run_eq, if_neg (by omega), hended]
  cases gather (order service policy now jobs) with
  | error failure => rfl
  | ok report => exact if_neg hlength.not_lt

/-- A batch in which a job never ends has no report. -/
theorem run_endless {job : Job} (hjob : job ∈ jobs) (h : ¬ job.Ends service policy now)
    (report : BatchReport) : run service policy now jobs ≠ .ok report := by
  have hended := Pool.length_finishOrder_le policy.concurrency.toNat JobOutcome.span?
    (jobs.map (·.alone service policy now))
  have hfewer : (jobs.map (·.alone service policy now)).countP (fun task => task.span?.isSome) <
      (jobs.map (·.alone service policy now)).length := by
    refine List.countP_le_length.lt_of_ne fun hall => h ?_
    have hsome := List.countP_eq_length.mp hall _ (List.mem_map_of_mem hjob)
    unfold JobOutcome.span? at hsome
    split at hsome
    · next hends => exact hends
    · cases hsome
  rw [List.length_map] at hfewer
  have hless : (order service policy now jobs).length < jobs.length := hended.trans_lt hfewer
  intro hrun
  rw [run_eq] at hrun
  by_cases hnegative : policy.concurrency < 0
  · rw [if_pos hnegative] at hrun
    cases hrun
  · rw [if_neg hnegative] at hrun
    obtain ⟨gathered, -, hreport⟩ := bind_eq_ok.mp hrun
    rw [if_pos hless] at hreport
    cases hreport

/-- Batches of any jobs, with at least one place and a gateway that forgets what it was sent. From
whatever line the jobs are taken, and however those that have a place take turns, no more of them
have one than there are places, and from every state some turns end all of them, if each ends on its
own. Once all have ended, the batch is reported exactly if the failure of each job that fails on its
own can be, and then every job has in the report what it comes to on its own; the commands that the
gateway was sent are those of the jobs. A batch that is run as a whole is one of these, and has no
report if one of its jobs never ends. -/
theorem run_accounts (hc : 1 ≤ policy.concurrency) (hf : service.engine.dispatcher.Forgetful)
    (jobs : List Job) (now : Timestamp) :
    (∀ line, line.Perm jobs → ∀ schedule,
      let crew := (Crew.assemble line).play service policy now schedule
      crew.active.length ≤ policy.concurrency.toNat ∧
      ((∀ job ∈ jobs, job.Ends service policy now) →
        ∃ more, (crew.play service policy now more).isDone) ∧
      (crew.isDone →
        ((∃ report, gather crew.ended = .ok report) ↔
          ∀ job ∈ jobs, job.Reportable service policy now) ∧
        ∀ report, gather crew.ended = .ok report →
          report.Accounts service policy now jobs ∧ report.sent.Perm crew.sent)) ∧
    ((∀ job ∈ jobs, job.Ends service policy now) → ∃ schedule,
      let crew := (Crew.assemble jobs).play service policy now schedule
      crew.isDone ∧ run service policy now jobs = gather crew.ended) ∧
    ∀ job ∈ jobs, ¬ job.Ends service policy now →
      ∀ report, run service policy now jobs ≠ .ok report := by
  refine ⟨fun line hline schedule => ?_, run_eq_gather hc hf,
    fun job hjob hendless => run_endless hjob hendless⟩
  intro crew
  have hsound : crew.Sound service policy now jobs :=
    (Crew.sound_assemble hline).play hf schedule
  refine ⟨hsound.places, hsound.exists_done hc hf, fun hdone => ?_⟩
  have hended := hsound.ended_perm hdone
  refine ⟨gather_reportable hended, fun report hreport => ?_⟩
  obtain ⟨rfl, -⟩ := gather_eq_ok.mp hreport
  exact ⟨BatchReport.accounts_of_perm hended, hsound.sent_of_done hdone⟩

/-- Two places for a job that overruns, two that have a result, one whose chain is malformed, one
whose chain is missing and one that names none. -/
theorem run_accounts_two_places :
    let engine : Engine := ⟨.standard, ⟨some (.scripted ⟨.boolean true, .null, .int 5, none⟩ []),
      none⟩, Condition.read⟩
    let action (next : Value) : Node :=
      ⟨.int 1, .null, .text "action", .null, .object [("command", .text "cool")], next⟩
    let service : Service := ⟨engine, [⟨.named (.int 6) .null, [action (.int 2)], 0⟩,
      ⟨.named (.int 7) .null, [action .null], 0⟩, ⟨.named (.int 8) .null, [], 1⟩], none⟩
    let policy : BatchPolicy := ⟨2, some (.int 3)⟩
    let now : Timestamp := ⟨⟨2024, 6, 1, by decide⟩, .midnight, some .utc⟩
    let jobs : List Job := [⟨some (.int 7), []⟩, ⟨some (.int 8), []⟩, ⟨some (.int 8), []⟩,
      ⟨some (.int 6), []⟩, ⟨some (.int 9), []⟩, ⟨none, []⟩]
    1 ≤ policy.concurrency ∧ service.engine.dispatcher.Forgetful ∧
      ∃ report, run service policy now jobs = .ok report ∧ report.total = 6 ∧
        report.results.length = 2 ∧ report.failures.length = 4 ∧
        report.progress.map (·.completed) = [1, 2, 3, 4, 5, 6] := by
  intro engine action service policy now jobs
  have hc : 1 ≤ policy.concurrency := by decide
  have hf : service.engine.dispatcher.Forgetful := Dispatcher.Scripted.forgetful ⟨_, _, rfl⟩
  have hends : ∀ job ∈ jobs, (job.run service policy.jobTimeout now).ends = true := by
    decide +kernel
  have herrors : ∀ job ∈ jobs, ∀ failure ∈ (job.alone service policy now).failure?,
      failure.isError = true := by
    decide +kernel
  have hchains : ∀ job ∈ jobs, ∃ text, job.chainId.plain = .ok text := by
    simp only [jobs, List.forall_mem_cons, List.not_mem_nil, false_imp_iff, implies_true, and_true]
    exact ⟨⟨_, rfl⟩, ⟨_, rfl⟩, ⟨_, rfl⟩, ⟨_, rfl⟩, ⟨_, rfl⟩, ⟨_, rfl⟩⟩
  have hjobs : ∀ job ∈ jobs, job.Reportable service policy now := fun job hjob failure hfails =>
    ⟨herrors job hjob failure (JobOutcome.failure?_eq_some.mpr hfails), hchains job hjob⟩
  obtain ⟨hall, hwhole, -⟩ := run_accounts hc hf jobs now
  obtain ⟨schedule, hdone, hrun⟩ := hwhole hends
  obtain ⟨-, -, hdones⟩ := hall jobs (.refl _) schedule
  obtain ⟨hiff, haccounts⟩ := hdones hdone
  obtain ⟨report, hreport⟩ := hiff.mpr hjobs
  obtain ⟨h, -⟩ := haccounts report hreport
  refine ⟨hc, hf, report, hrun.trans hreport, h.total, h.results.length_eq.trans ?_,
    h.failures.length_eq.trans ?_, h.completed⟩
  · decide +kernel
  · decide +kernel

/-- A batch fails over a job that names a chain of too many digits, though the other job has a
result on its own. -/
theorem run_otherwise :
    let service : Service := ⟨⟨.standard, ⟨none, none⟩, Condition.read⟩,
      [⟨.named (.int 7) .null, [], 0⟩], none⟩
    let now : Timestamp := ⟨⟨2024, 6, 1, by decide⟩, .midnight, some .utc⟩
    let n : Int := 10 ^ DigitLimit.most
    let other : Job := ⟨some (.int 7), []⟩
    1 ≤ BatchPolicy.standard.concurrency ∧ service.engine.dispatcher.Forgetful ∧
      (other.run service BatchPolicy.standard.jobTimeout now).result.toOption.isSome ∧
      ∃ failure, run service .standard now [⟨some (.int n), []⟩, other] = .error failure := by
  intro service now n other
  have hc : 1 ≤ BatchPolicy.standard.concurrency := by decide
  have hf : service.engine.dispatcher.Forgetful := fun _ => rfl
  refine ⟨hc, hf, by decide +kernel, ?_⟩
  have hdigits : 10 ^ DigitLimit.most ≤ n.natAbs := by
    rw [Int.natAbs_pow]
    exact Nat.pow_le_pow_left (by decide) _
  clear_value n
  have hfind : service.find? (.int n) = none := by
    refine List.find?_eq_none.mpr fun stored hstored => ?_
    obtain rfl := List.mem_singleton.mp hstored
    have hseven : (Value.int 7).IsKey := trivial
    have hlong : (Value.int n).IsKey := trivial
    rw [Chain.named, hseven.agrees_iff hlong]
    rintro ⟨⟩
    have hten : 10 ^ 1 ≤ 10 ^ DigitLimit.most := Nat.pow_le_pow_right (by decide) (by decide)
    exact absurd (hten.trans hdigits) (by decide)
  have hfails : (Job.run service BatchPolicy.standard.jobTimeout now ⟨some (.int n), []⟩).result =
      .error (Service.notFound (.int n)) := by
    have hspan : BatchPolicy.standard.jobTimeout.span? = .ok (some 60) := by decide +kernel
    obtain ⟨outer, houter, -⟩ : ∃ d,
        Job.deadline? (.int n) BatchPolicy.standard.jobTimeout = .ok d ∧ _ :=
      Deadline.ofTimeout?_eq_ok hspan
    simp only [Job.run, houter, Service.execute, hfind]
  have hends : ∀ job ∈ [⟨some (.int n), []⟩, other], job.Ends service .standard now := by
    refine List.forall_mem_cons.mpr ⟨Engine.Outcome.ends_of_ne ?_, List.forall_mem_singleton.mpr ?_⟩
    · rw [hfails]
      exact fun h => Service.notFound_ne_endless _ (Except.error.inj h)
    · unfold Job.Ends
      decide +kernel
  obtain ⟨schedule, hdone, hrun⟩ := run_eq_gather hc hf hends
  have hended := ((Crew.sound_assemble (.refl _)).play hf schedule).ended_perm hdone
  cases hreport : run service .standard now [⟨some (.int n), []⟩, other] with
  | error failure => exact ⟨failure, rfl⟩
  | ok report =>
    obtain ⟨-, text, htext⟩ := (gather_reportable hended).mp ⟨report, hrun.symm.trans hreport⟩ _
      List.mem_cons_self _ hfails
    exact absurd htext (Value.int_plain_ne_ok hdigits text)

end Batch

end EventChain
