import EventChain.Batch
import EventChain.Proofs.Run.Timing
import EventChain.Proofs.Tally

/-!
# Deadlines around a job

A job runs under its own deadline and that of its chain, and each of its actions under another.
`Job.InTime` is a job that ends before both deadlines around it: it ends as its run does without
them. `Job.Overran` is one that the earlier of the two cuts off. Unless two moments coincide, which
it is the time tells that the run takes under the deadlines of its actions alone
(`Job.run_deadlines`).
-/

namespace EventChain

open Engine (Outcome)

/-! ## What a ledger gains -/

theorem countP_ownExpired (own : List (Rat × Rat)) :
    (ownExpired own).countP (fun e => e.1 = .action) = own.length := by
  unfold ownExpired
  rw [List.countP_map]
  exact List.countP_eq_length.mpr fun _ _ => rfl

theorem code_of_mem_ownExpired {own : List (Rat × Rat)} {e : TimeoutCode × Rat}
    (h : e ∈ ownExpired own) : e.1 = .action := by
  obtain ⟨_, -, rfl⟩ := List.mem_map.mp h
  rfl

theorem Tally.recordAll_ownExpired (t : Tally) (own : List (Rat × Rat)) {code : TimeoutCode}
    (h : code ≠ .action) : t.recordAll (ownExpired own) code = t code :=
  t.recordAll_of_forall_ne fun _ he hcode => h (hcode ▸ code_of_mem_ownExpired he)

namespace Job

/-- A job that ends as a run does: the ledger counts the actions whose own deadlines expired. -/
structure InTime (plain : Outcome) (own : List (Rat × Rat)) (outcome : Outcome) : Prop where
  same : outcome = plain
  actions : ∀ ledger : Ledger,
    ((ledger.enter outcome).tally .action).count = (ledger.tally .action).count + own.length
  others : ∀ (ledger : Ledger) (code : TimeoutCode), code ≠ .action →
    (ledger.enter outcome).tally code = ledger.tally code

/-- A job that a deadline around it cuts off: it fails with the code of the deadline when its span
has passed, the ledger counts the deadline with its span and the actions whose own deadlines expired
before, and no result is published. -/
structure Overran (code : TimeoutCode) (span : Rat) (own : List (Rat × Rat)) (outcome : Outcome) :
    Prop where
  failed : ∃ failure, outcome.result = .error failure ∧ failure.code = code.label
  elapsed : outcome.log.elapsed = span
  expired : outcome.log.expired = expiredBefore span own ++ [(code, span)]
  counted : ∀ ledger : Ledger, ∃ duration,
    Tally.seconds (Tally.milliseconds span) = .ok duration ∧
      (ledger.enter outcome).tally code = (ledger.tally code).push duration
  actions : ∀ ledger : Ledger, ((ledger.enter outcome).tally .action).count =
    (ledger.tally .action).count + (own.filter fun e => e.1 < span).length
  others : ∀ (ledger : Ledger) (other : TimeoutCode), other ≠ code → other ≠ .action →
    (ledger.enter outcome).tally other = ledger.tally other
  published : ∀ ledger : Ledger, (ledger.enter outcome).published = ledger.published

theorem inTime_of_expired {plain outcome : Outcome} {own : List (Rat × Rat)} (h : outcome = plain)
    (hexpired : plain.log.expired = ownExpired own) : InTime plain own outcome := by
  subst h
  refine ⟨rfl, fun ledger => ?_, fun ledger code hcode => ?_⟩
  · simp only [Ledger.enter, hexpired, Tally.count_recordAll, countP_ownExpired]
  · simp only [Ledger.enter, hexpired, Tally.recordAll_ownExpired _ _ hcode]

theorem overran_of_cutOff {d : Deadline} {code : TimeoutCode} {span : Rat} {own : List (Rat × Rat)}
    {outcome : Outcome} (hcode : code ≠ .action) (hd : d.Overruns code) (hspan : d.span = span)
    (h : Engine.CutOff ⟨span, d⟩ (expiredBefore span own) outcome) :
    Overran code span own outcome := by
  obtain ⟨o, hfailure, ho⟩ := hd.failure
  have hexpired : outcome.log.expired = expiredBefore span own ++ [(code, span)] := by
    rw [h.expired, hd.code, hspan]
  have htally (ledger : Ledger) : ∃ duration,
      Tally.seconds (Tally.milliseconds span) = .ok duration ∧
        (ledger.enter outcome).tally = (ledger.tally.recordAll (expiredBefore span own)).update code
          ((ledger.tally code).push duration) := by
    obtain ⟨duration, hduration, hrecord⟩ :=
      (ledger.tally.recordAll (expiredBefore span own)).record_milliseconds code span
    refine ⟨duration, hduration, ?_⟩
    simp only [Ledger.enter, hexpired, Tally.recordAll_append]
    refine hrecord.trans ?_
    rw [expiredBefore, Tally.recordAll_ownExpired _ _ hcode]
  refine ⟨⟨_, h.result, ?_⟩, h.elapsed, hexpired, fun ledger => ?_, fun ledger => ?_,
    fun ledger other hother haction => ?_, fun ledger => ?_⟩
  · rw [hfailure]
    exact congrArg TimeoutCode.label ho
  · obtain ⟨duration, hduration, htally⟩ := htally ledger
    exact ⟨duration, hduration, by rw [htally, Tally.update_self]⟩
  · obtain ⟨duration, -, htally⟩ := htally ledger
    rw [htally, Tally.update_of_ne hcode.symm, Tally.count_recordAll, expiredBefore,
      countP_ownExpired]
  · obtain ⟨duration, -, htally⟩ := htally ledger
    rw [htally, Tally.update_of_ne hother, expiredBefore, Tally.recordAll_ownExpired _ _ haction]
  · simp only [Ledger.enter, h.result]

/-! ## Runs under a deadline or two -/

section
variable {engine : Engine} {gateway : Gateway} {chain : Chain} {nodes : List Node}
  {event : Record} {now : Timestamp}

theorem execute_eq_of_early (h : engine.Timed gateway) {outer inner : Option Deadline}
    (houter : ∀ d ∈ outer, 0 < d.span ∧
      (engine.execute chain nodes event now none).log.elapsed < d.span)
    (hinner : ∀ d ∈ inner, 0 < d.span ∧
      (engine.execute chain nodes event now none).log.elapsed < d.span) :
    engine.execute chain nodes event now (Deadline.cut? outer 0 inner) =
      engine.execute chain nodes event now none := by
  cases hcut : Deadline.cut? outer 0 inner with
  | none => rfl
  | some cut =>
    have hlate : 0 < cut.moment ∧
        (engine.execute chain nodes event now none).log.elapsed < cut.moment := by
      rcases Deadline.of_cut? hcut with ⟨d, hd, rfl⟩ | ⟨d, hd, rfl⟩
      · rw [sub_zero]
        exact houter d hd
      · exact hinner d hd
    exact (h.execute_cut hlate.1 chain nodes event).1 hlate.2

theorem overran_execute (h : engine.Timed gateway) {d : Deadline} {code : TimeoutCode}
    (hcode : code ≠ .action) (hd : d.Overruns code)
    (hle : d.span ≤ (engine.execute chain nodes event now none).log.elapsed) :
    Overran code d.span (expirations engine.actionTimeout 0
        (Engine.delays gateway (engine.visits chain nodes event now none)))
      (engine.execute chain nodes event now (some ⟨d.span, d⟩)) := by
  have hpos : 0 < (⟨d.span, d⟩ : Cut).moment := hd.pos
  exact overran_of_cutOff hcode hd rfl ((h.execute_cut hpos chain nodes event).2 hle)

end

/-! ## A job as a run under two deadlines -/

section
variable {service : Service} {stored : StoredChain} {id : Value} {timeout : Timeout}
  {event : Record} {now : Timestamp}

theorem execute_eq_run (hfind : service.find? id = some stored) (hload : stored.loading = 0)
    {outer : Option Deadline} (houter : ∀ d ∈ outer, d.Overruns .worker) :
    service.execute id event timeout now outer = service.run stored event timeout now outer := by
  unfold Service.execute
  rw [hfind]
  cases outer with
  | none => rfl
  | some d =>
    refine if_neg ?_
    rw [hload]
    exact not_le.mpr (houter d rfl).pos

/-- A job whose chain is loaded in no time is a run that the earlier of two deadlines cuts off. -/
theorem run_eq_execute (hfind : service.find? id = some stored) (hload : stored.loading = 0)
    {job chain : Option Rat} (hjob : timeout.span? = .ok job)
    (hchain : service.timeout.span? = .ok chain) :
    ∃ outer inner : Option Deadline,
      (outer.map Deadline.span = job ∧ ∀ d ∈ outer, d.Overruns .worker) ∧
      (inner.map Deadline.span = chain ∧ ∀ d ∈ inner, d.Overruns .chain) ∧
      run service timeout now ⟨some id, event⟩ = service.engine.execute stored.chain stored.nodes
        event now (Deadline.cut? outer 0 inner) := by
  obtain ⟨outer, houter, hspan, hruns⟩ : ∃ d, deadline? id timeout = .ok d ∧ _ :=
    Deadline.ofTimeout?_eq_ok hjob
  obtain ⟨inner, hinner, hspan', hruns'⟩ :
      ∃ d, Service.deadline? stored.chain service.timeout = .ok d ∧ _ :=
    Deadline.ofTimeout?_eq_ok hchain
  refine ⟨outer, inner, ⟨hspan, hruns⟩, ⟨hspan', hruns'⟩, ?_⟩
  simp only [run, houter]
  rw [execute_eq_run hfind hload hruns]
  simp only [Service.run, Option.none_or, hinner, hload, zero_add]

theorem run_refused (hfind : service.find? id = some stored) (hload : stored.loading = 0)
    {excess : Excess} (h : timeout.span? = .error excess ∨ service.timeout.span? = .error excess) :
    run service timeout now ⟨some id, event⟩ = ⟨.error (.excess .operand), .empty⟩ := by
  cases hjob : timeout.span? with
  | error other =>
    have houter : deadline? id timeout = .error .operand := Deadline.ofTimeout?_eq_error hjob
    simp only [run, houter]
  | ok job =>
    obtain ⟨outer, houter, -, hruns⟩ : ∃ d, deadline? id timeout = .ok d ∧ _ :=
      Deadline.ofTimeout?_eq_ok hjob
    have hinner : Service.deadline? stored.chain service.timeout = .error .operand :=
      Deadline.ofTimeout?_eq_error (h.resolve_left (by simp [hjob]))
    simp only [run, houter]
    rw [execute_eq_run hfind hload hruns]
    simp only [Service.run, Option.none_or, hinner, hload]
    rfl

end

/-- No two things happen at one moment that have to do with deadlines: no answer comes when the
deadline of its action expires, no action ends when that of the job or of the chain does, and these
two differ. -/
structure Untied (timeout : Timeout) (delays : List Rat) (job chain : Option Rat) : Prop where
  answers : ∀ limit, timeout.span? = .ok (some limit) → limit ∉ delays
  ends : ∀ moment ∈ ends timeout 0 delays, moment ∉ job ∧ moment ∉ chain
  apart : ∀ moment ∈ job, moment ∉ chain

/-- Deadlines around a job, for every gateway of scripts that answer some time and raise no timeout
of their own, and every chain that is loaded in no time. The run without them takes the time of its
actions, each its delay up to its own deadline. A job fails at once where its timeout or that of its
chain is too long for a clock. Any other ends as the run does where that ends before both deadlines,
and is cut off by the earlier one elsewhere. Of ties nothing is said, as they are decided by the
clock. -/
theorem run_deadlines {service : Service} {stored : StoredChain} {id : Value}
    {standard : Behaviour} {scripts : List (Option String × Behaviour)}
    (hfind : service.find? id = some stored) (hload : stored.loading = 0)
    (hgateway : service.engine.dispatcher.gateway = some (.scripted standard scripts))
    (hstandard : standard.Punctual ∧ standard.Prompt)
    (hscripts : ∀ script ∈ scripts, script.2.Punctual ∧ script.2.Prompt)
    (timeout : Timeout) (event : Record) (now : Timestamp) :
    let plain := service.engine.execute stored.chain stored.nodes event now none
    let delays := Engine.delays (.scripted standard scripts)
      (service.engine.visits stored.chain stored.nodes event now none)
    let own := expirations service.engine.actionTimeout 0 delays
    let outcome := run service timeout now ⟨some id, event⟩
    plain.log.elapsed = (delays.map (spent service.engine.actionTimeout)).sum ∧
    (∀ excess, timeout.span? = .error excess ∨ service.timeout.span? = .error excess →
      outcome = ⟨.error (.excess .operand), .empty⟩ ∧
        ∀ ledger : Ledger, ledger.enter outcome = ledger) ∧
    ∀ job chain, timeout.span? = .ok job → service.timeout.span? = .ok chain →
      Untied service.engine.actionTimeout delays job chain →
      ((∀ j ∈ job, plain.log.elapsed < j) → (∀ c ∈ chain, plain.log.elapsed < c) →
        InTime plain own outcome) ∧
      (∀ c ∈ chain, c ≤ plain.log.elapsed → (∀ j ∈ job, c < j) →
        Overran .chain c own outcome) ∧
      ∀ j ∈ job, j ≤ plain.log.elapsed → (∀ c ∈ chain, j < c) →
        Overran .worker j own outcome := by
  intro plain delays own outcome
  have htimed : Engine.Timed service.engine (.scripted standard scripts) :=
    ⟨hgateway, Dispatcher.Scripted.after_eq ⟨_, _, hgateway⟩,
      Gateway.punctual_scripted hstandard.1 fun script hs => (hscripts script hs).1,
      Gateway.prompt_scripted hstandard.2 fun script hs => (hscripts script hs).2⟩
  obtain ⟨helapsed, hexpired⟩ := htimed.execute_log stored.chain stored.nodes event
  refine ⟨helapsed, fun excess h => ?_, fun job chain hjob hchain _ => ?_⟩
  · have hrefused : outcome = ⟨.error (.excess .operand), .empty⟩ := run_refused hfind hload h
    refine ⟨hrefused, fun ledger => ?_⟩
    rw [hrefused]
    rfl
  obtain ⟨outer, inner, ⟨rfl, houter⟩, ⟨rfl, hinner⟩, hrun⟩ :=
    run_eq_execute hfind hload hjob hchain
  have hrun : outcome = service.engine.execute stored.chain stored.nodes event now
      (Deadline.cut? outer 0 inner) := hrun
  rw [hrun]
  refine ⟨fun hj hc => inTime_of_expired (execute_eq_of_early htimed ?_ ?_) hexpired,
    fun c hc hle hj => ?_, fun j hj hle hc => ?_⟩
  · exact fun d hd => ⟨(houter d hd).pos, hj _ (Option.mem_map_of_mem _ hd)⟩
  · exact fun d hd => ⟨(hinner d hd).pos, hc _ (Option.mem_map_of_mem _ hd)⟩
  · obtain ⟨d, hd, rfl⟩ := Option.mem_map.mp hc
    have hcut : Deadline.cut? outer 0 inner = some ⟨d.span, d⟩ := by
      rw [Option.mem_def.mp hd]
      refine Deadline.cut?_inner fun o ho => ?_
      rw [sub_zero]
      exact hj _ (Option.mem_map_of_mem _ ho)
    rw [hcut]
    exact overran_execute htimed (by decide) (hinner d hd) hle
  · obtain ⟨d, hd, rfl⟩ := Option.mem_map.mp hj
    have hcut : Deadline.cut? outer 0 inner = some ⟨d.span - 0, d⟩ := by
      rw [Option.mem_def.mp hd]
      refine Deadline.cut?_outer fun i hi => ?_
      rw [sub_zero]
      exact (hc _ (Option.mem_map_of_mem _ hi)).le
    rw [hcut, sub_zero]
    exact overran_execute htimed (by decide) (houter d hd) hle

/-- The deadline of the chain cuts off a job whose first action has timed out, and whose second has
not yet. -/
theorem run_deadlines_two :
    let standard : Behaviour := ⟨.boolean true, .null, .int 5, none⟩
    let engine : Engine := ⟨⟨Route.standardLimit, some (.int 2), false⟩,
      ⟨some (.scripted standard []), none⟩, Condition.read⟩
    let stored : StoredChain := ⟨.named (.int 7) .null, [⟨.int 1, .null, .text "action", .null,
      .object [("command", .text "cool")], .int 2⟩, ⟨.int 2, .null, .text "action", .null,
      .object [("command", .text "open")], .null⟩], 0⟩
    let service : Service := ⟨engine, [stored], some (.int 3)⟩
    let now : Timestamp := ⟨⟨2024, 6, 1, by decide⟩, .midnight, some .utc⟩
    service.find? (.int 7) = some stored ∧ stored.loading = 0 ∧
      service.engine.dispatcher.gateway = some (.scripted standard []) ∧
      (standard.Punctual ∧ standard.Prompt) ∧
      Untied engine.actionTimeout [5, 5] (some 10) (some 3) ∧
      (service.engine.execute stored.chain stored.nodes [] now none).log.elapsed = 4 ∧
      Overran .chain 3 [(2, 2), (4, 2)] (run service (some (.int 10)) now ⟨some (.int 7), []⟩) := by
  intro standard engine stored service now
  have hfind : service.find? (.int 7) = some stored := rfl
  have hstandard : standard.Punctual ∧ standard.Prompt := ⟨nofun, _, rfl⟩
  have hdelays : Engine.delays (.scripted standard [])
      (service.engine.visits stored.chain stored.nodes [] now none) = [5, 5] := by
    decide +kernel
  have hown : expirations engine.actionTimeout 0 [5, 5] = [(2, 2), (4, 2)] := by decide +kernel
  have hends : ends engine.actionTimeout 0 [5, 5] = [2, 4] := by decide +kernel
  have hspent : ([5, 5].map (spent engine.actionTimeout)).sum = 4 := by decide +kernel
  have hlimit : engine.actionTimeout.span? = .ok (some 2) := by decide +kernel
  have hjob : Timeout.span? (some (.int 10)) = .ok (some 10) := by decide +kernel
  have hchain : service.timeout.span? = .ok (some 3) := by decide +kernel
  have huntied : Untied engine.actionTimeout [5, 5] (some 10) (some 3) := by
    refine ⟨fun limit h => ?_, ?_, ?_⟩
    · cases hlimit.symm.trans h
      decide +kernel
    · rw [hends]
      decide +kernel
    · rintro _ ⟨⟩
      decide +kernel
  obtain ⟨helapsed, -, hall⟩ :=
    run_deadlines hfind rfl rfl hstandard (by simp) (some (.int 10)) [] now
  rw [hdelays, hspent] at helapsed
  rw [hdelays, hown] at hall
  refine ⟨hfind, rfl, rfl, hstandard, huntied, helapsed,
    (hall _ _ hjob hchain huntied).2.1 3 rfl ?_ ?_⟩
  · rw [helapsed]
    decide
  · rintro _ ⟨⟩
    decide

/-- A job with a timeout too long for a clock fails, though its run ends before the timeout, and no
other deadline stands around it. -/
theorem deadlines_otherwise :
    let engine : Engine := ⟨.standard, ⟨some (.scripted ⟨.boolean true, .null, .int 0, none⟩ []),
      none⟩, Condition.read⟩
    let stored : StoredChain := ⟨.named (.int 7) .null, [⟨.int 1, .null, .text "action", .null,
      .object [("command", .text "cool")], .null⟩], 0⟩
    let service : Service := ⟨engine, [stored], none⟩
    let now : Timestamp := ⟨⟨2024, 6, 1, by decide⟩, .midnight, some .utc⟩
    let plain := service.engine.execute stored.chain stored.nodes [] now none
    let seconds : Int := (10 ^ 155) ^ 2
    let outcome := run service (some (.int seconds)) now ⟨some (.int 7), []⟩
    (Number.int seconds).place? = some (.finite seconds) ∧ plain.log.elapsed < seconds ∧
      plain.result.toOption.isSome ∧
      outcome = ⟨.error (.excess .operand), .empty⟩ := by
  intro engine stored service now plain seconds outcome
  have hspan : Timeout.span? (some (.int seconds)) = .error .operand := by decide +kernel
  have hrefused : outcome = ⟨.error (.excess .operand), .empty⟩ := run_refused rfl rfl (.inl hspan)
  exact ⟨rfl, by decide +kernel, by decide +kernel, hrefused⟩

end Job

end EventChain
