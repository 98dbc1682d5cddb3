import EventChain.Proofs.Run.Commands
import EventChain.Proofs.Run.Lockstep

/-!
# Runs under other dispatchers

Nothing that becomes of an action steers a run. Whatever gateways two dispatchers have and however
long they wait, runs of a chain under them end alike as long as actions are reported at all: with
the same failure, or with the same status and record and with traces that differ in the results of
actions only (`execute_unsteered`). Before and after each visit the two runs hold the same record.
-/

namespace EventChain

inductive TraceEntry.Alike : TraceEntry → TraceEntry → Prop
  | filter (node : Value) (passed : Bool) : Alike (.filter node passed) (.filter node passed)
  | transform (node : Value) (before after : Record) :
      Alike (.transform node before after) (.transform node before after)
  | action (node : Value) {result other : ActionResult} : result.command = other.command →
      result.record = other.record → Alike (.action node result) (.action node other)
  | unknown (node : Value) (type : String) : Alike (.unknown node type) (.unknown node type)

structure RunState.Alike (s t : RunState) : Prop where
  record : s.record = t.record
  trace : List.Forall₂ TraceEntry.Alike s.trace t.trace

theorem RunState.Alike.push {s t : RunState} (h : s.Alike t) {a b : TraceEntry} (hab : a.Alike b) :
    (s.push a).Alike (t.push b) :=
  ⟨h.record, List.rel_append h.trace (.cons hab .nil)⟩

theorem TraceEntry.alike_refl (a : TraceEntry) : a.Alike a := by
  cases a with
  | filter | transform | unknown => constructor
  | action => exact .action _ rfl rfl

theorem RunState.level_alike : Level RunState.Alike fun _ _ => True where
  record h := h.record
  logs_of_states _ := trivial
  push h entry := h.push entry.alike_refl
  become h _ := ⟨rfl, h.trace⟩

namespace Engine

variable {engine : Engine} {now : Timestamp} {dispatcher : Dispatcher} {timeout : Timeout}

/-- Two outcomes that differ at most in what became of actions, and in what it took. -/
inductive Outcome.Alike : Outcome → Outcome → Prop
  | ok {chain : Value} {status : RunStatus} {trace others : List TraceEntry} {record : Record}
      {log other : Log} : List.Forall₂ TraceEntry.Alike trace others →
      Alike ⟨.ok ⟨chain, status, trace, record⟩, log⟩ ⟨.ok ⟨chain, status, others, record⟩, other⟩
  | error {failure : Failure} {log other : Log} :
      Alike ⟨.error failure, log⟩ ⟨.error failure, other⟩

theorem visitStep_reporting (h : engine.dispatcher.Reporting engine.policy.actionTimeout)
    (now : Timestamp) (s : RunState) (node : Value) (action : Action) :
    ∃ result log, engine.visitStep now none s (.action node action) =
        .goOn { s.push (.action node result) with log := log } ∧
      result.command = action.command ∧ result.record = s.record := by
  obtain ⟨result, hr⟩ := h.perform_eq_ok s.log.sent action s.record
  refine ⟨result, s.log.perform ((engine.dispatcher.after s.log.sent).perform action s.record
    engine.policy.actionTimeout), ?_, Dispatcher.perform_echoes hr⟩
  rw [visitStep, visitStep.acted, hr]

theorem rewired_lockstep (h : engine.dispatcher.Reporting engine.policy.actionTimeout)
    (ho : dispatcher.Reporting timeout) (nodes : List Node) :
    Lockstep engine (engine.rewired dispatcher timeout) now none nodes RunState.Alike
      fun _ _ => True where
  maxNodes := rfl
  readFilter := rfl
  logs_of_states _ := trivial
  visitStep := by
    intro node _ step _ s t hs
    cases step with
    | action node action =>
      replace ho : (engine.rewired dispatcher timeout).dispatcher.Reporting
          (engine.rewired dispatcher timeout).policy.actionTimeout := ho
      obtain ⟨result, log, hv, hcommand, hrecord⟩ := visitStep_reporting h now s node action
      obtain ⟨other, log', hv', hcommand', hrecord'⟩ := visitStep_reporting ho now t node action
      have hentry : (TraceEntry.action node result).Alike (.action node other) :=
        .action node (hcommand.trans hcommand'.symm)
          (hrecord.trans (hs.record.trans hrecord'.symm))
      rw [hv, hv']
      exact .goOn ⟨hs.record, (hs.push hentry).trace⟩
    | _ => exact RunState.level_alike.visitStep_paired (fun _ _ _ => rfl) hs nofun

theorem Outcome.Paired.alike {outcome other : Outcome}
    (h : outcome.Paired RunState.Alike (fun _ _ => True) other) : outcome.Alike other := by
  cases h with
  | @ended s t chain status hs =>
    rw [hs.record]
    exact .ok hs.trace
  | failed => exact .error

/-- Runs under two dispatchers and two timeouts of actions end alike, as long as their actions are
reported. -/
theorem execute_unsteered (h : engine.dispatcher.Reporting engine.policy.actionTimeout)
    (ho : dispatcher.Reporting timeout) (chain : Chain) (nodes : List Node) (event : Record)
    (now : Timestamp) :
    (engine.execute chain nodes event now none).Alike
      ((engine.rewired dispatcher timeout).execute chain nodes event now none) :=
  ((rewired_lockstep h ho nodes).execute_paired chain ⟨rfl, .nil⟩).alike

/-- A device that acknowledges and one that gives a malformed reply: the action of the second run
fails, and both runs go on to the transform. -/
theorem execute_unsteered_malformed :
    let engine : Engine := ⟨.standard,
      ⟨some (.constant (.acknowledged ⟨.boolean true, .null⟩)), none⟩,
      Condition.read⟩
    let dispatcher : Dispatcher := ⟨some (.constant (.value (.text "busy"))), none⟩
    let nodes : List Node := [⟨.int 1, .null, .text "action", .null,
      .object [("command", .text "cool")], .int 2⟩, ⟨.int 2, .null, .text "transform", .null,
      .object [("field", .text "level"), ("operation", .text "add"), ("operand", .int 3)], .null⟩]
    let now : Timestamp := ⟨⟨2024, 6, 1, by decide⟩, .midnight, some .utc⟩
    let run (engine : Engine) :=
      engine.execute (.named (.int 7) .null) nodes [("level", .int 12)] now none
    let other := engine.rewired dispatcher (some (.int 2))
    engine.dispatcher.Reporting engine.policy.actionTimeout ∧
      dispatcher.Reporting (some (.int 2)) ∧
      (run engine).result.map RunResult.failedActions = .ok [] ∧
      (run other).result.map RunResult.failedActions = .ok [.int 1] ∧
      (run engine).Alike (run other) := by
  intro engine dispatcher nodes now run other
  have hacknowledged : engine.dispatcher.Reporting engine.policy.actionTimeout :=
    Dispatcher.reporting_constant rfl trivial
  have hmalformed : dispatcher.Reporting (some (.int 2)) :=
    Dispatcher.reporting_constant rfl ⟨_, rfl⟩
  refine ⟨hacknowledged, hmalformed, ?_, ?_,
    execute_unsteered hacknowledged hmalformed (.named (.int 7) .null) nodes _ now⟩
  · unfold run execute Route.build Route.follow Route.follow
    rfl
  · unfold run execute Route.build Route.follow Route.follow
    rfl

/-- An action under a timeout of no span that has too many digits: skipped without a gateway, and
reported by no run where its device raises a timeout of its own. -/
theorem steered_otherwise :
    let n : Int := -10 ^ DigitLimit.most
    let engine : Engine := ⟨.standard, ⟨none, none⟩, Condition.read⟩
    let dispatcher : Dispatcher :=
      ⟨some (.scripted ⟨.boolean true, .null, .int 0, some ⟨.timeout, .text "late"⟩⟩ []),
        some (.int n)⟩
    let now : Timestamp := ⟨⟨2024, 6, 1, by decide⟩, .midnight, some .utc⟩
    ¬ (engine.execute (.named (.int 7) .null) [.acting (.int 1) "cool"] [] now none).Alike
      ((engine.rewired dispatcher none).execute (.named (.int 7) .null)
        [.acting (.int 1) "cool"] [] now none) := by
  intro n engine dispatcher now halike
  have hneg : n ≤ 0 := Int.neg_nonpos_of_nonneg (Int.pow_nonneg (by decide))
  have hdigits : 10 ^ DigitLimit.most ≤ n.natAbs := by
    rw [Int.natAbs_neg, Int.natAbs_pow]
    exact Nat.pow_le_pow_left (by decide) _
  clear_value n
  let node : Node := .acting (.int 1) "cool"
  let action : Action := ⟨.text "cool", none, [("command", .text "cool")]⟩
  have hseven : (Chain.named (.int 7) .null).id.plain = .ok "7" := rfl
  have hstep : node.step Condition.read = .ok (.action (.int 1) action) := rfl
  have hroom : 0 < Policy.standard.maxNodes := by decide
  obtain ⟨-, hskipped⟩ := execute_single engine node [] now trivial rfl rfl hroom hseven
  obtain ⟨-, hwalk⟩ := execute_single (engine.rewired dispatcher none) node [] now trivial rfl rfl
    hroom hseven
  have hspan : Timeout.span? (some (.int n)) = .ok none := Timeout.span?_of_nonpos hneg
  obtain ⟨limit, hlimit⟩ : ∃ limit, Timeout.text (some (.int n)) = .error limit :=
    Number.intText_eq_error hdigits
  have hfails : dispatcher.perform action [] none =
      ⟨some 0, some (Dispatcher.commandOf action), true, .error (.digitLimit limit)⟩ := by
    unfold Dispatcher.perform
    simp only [dispatcher, Option.none_or, hspan]
    change Performance.mk (some 0) _ true (Dispatcher.timedOutResult action [] (some (.int n))) = _
    rw [Dispatcher.timedOutResult, hlimit]
    rfl
  have hscript : dispatcher.after [] = dispatcher := rfl
  have hvisit : (engine.rewired dispatcher none).visit now none node ⟨[], [], .empty⟩ =
      .fail (.digitLimit limit) (Log.empty.perform
        ⟨some 0, some (Dispatcher.commandOf action), true, .error (.digitLimit limit)⟩) := by
    simp only [visit, rewired, engine, hstep, visitStep, Log.empty, hscript, hfails]
    rfl
  rw [hskipped, hwalk, walk, walk, hvisit] at halike
  cases halike

end Engine

end EventChain
