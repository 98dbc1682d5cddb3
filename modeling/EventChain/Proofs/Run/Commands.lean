import EventChain.Proofs.Run.Scripts
import EventChain.Proofs.Run.Validation

/-!
# The commands of a run

`Orders stops commands` says that the commands are those of the actions among the stops, in order.
They are sent unless no clock can be set to the timeout of actions (`Engine.Sends`). A run that
gives a result has sent the commands of the stops it visited, and one that fails those of the stops
before the one where it fails, and of that stop too if it is an action (`Delivers`). An action fails
a run where it has no result, or where its node cannot be shown (`Aborts`).
-/

namespace EventChain

inductive Orders : List Stop → List Command → Prop
  | nil : Orders [] []
  | action {stop : Stop} {stops : List Stop} {action : Action} {commands : List Command} :
      stop.node.type = .text "action" → Action.read stop.node.config = .ok action →
      Orders stops commands → Orders (stop :: stops) (Dispatcher.commandOf action :: commands)
  | other {stop : Stop} {stops : List Stop} {commands : List Command} :
      stop.node.type ≠ .text "action" → Orders stops commands → Orders (stop :: stops) commands

theorem Orders.append {before stops : List Stop} {commands others : List Command}
    (h : Orders before commands) (hs : Orders stops others) :
    Orders (before ++ stops) (commands ++ others) := by
  induction h with
  | nil => exact hs
  | action ht hr _ ih => exact .action ht hr ih
  | other ht _ ih => exact .other ht ih

def Node.acting (id : Value) (command : String) : Node :=
  ⟨id, .null, .text "action", .null, .object [("command", .text command)], .null⟩

namespace Engine

variable {engine : Engine} {gateway : Gateway} {now : Timestamp}

/-- Why the action of a node fails a run. -/
inductive Aborts (engine : Engine) (node : Node) (action : Action) : Failure → Prop
  | unnamed {limit : DigitLimit} : node.id.plain = .error limit →
      Aborts engine node action (.digitLimit limit)
  | unperformed {gateway : Gateway} {failure : Failure} :
      engine.dispatcher.gateway = some gateway →
      engine.dispatcher.Fails gateway action engine.policy.actionTimeout failure →
      Aborts engine node action failure

/-- The commands that stops send: those of their actions, and none at all where no clock can be set
to the timeout of actions. -/
def Sends (engine : Engine) (stops : List Stop) (commands : List Command) : Prop :=
  match engine.actionTimeout.span? with
  | .ok _ => Orders stops commands
  | .error _ => commands = []

theorem Sends.nil : engine.Sends [] [] := by
  unfold Sends
  cases engine.actionTimeout.span? with
  | ok span => exact .nil
  | error excess => rfl

theorem Sends.append {before stops : List Stop} {commands others : List Command}
    (h : engine.Sends before commands) (hs : engine.Sends stops others) :
    engine.Sends (before ++ stops) (commands ++ others) := by
  unfold Sends at h hs ⊢
  generalize engine.actionTimeout.span? = span at h hs ⊢
  cases span with
  | ok span => exact Orders.append h hs
  | error excess =>
    cases h
    cases hs
    rfl

theorem sends_action {stop : Stop} {action : Action} (ht : stop.node.type = .text "action")
    (hr : Action.read stop.node.config = .ok action) :
    engine.Sends [stop] (Dispatcher.sends engine.actionTimeout action) := by
  unfold Sends Dispatcher.sends
  cases engine.actionTimeout.span? with
  | ok span => exact .action ht hr .nil
  | error excess => rfl

theorem sends_other {stop : Stop} (ht : stop.node.type ≠ .text "action") :
    engine.Sends [stop] [] := by
  unfold Sends
  cases engine.actionTimeout.span? with
  | ok span => exact .other ht .nil
  | error excess => rfl

/-! ## Visits -/

theorem Did.sends {step : Step} {stop : Stop} {r r' : Record} {sent sent' : List Command}
    {entry : TraceEntry} (hg : engine.dispatcher.gateway = some gateway)
    (hb : stop.node.Becomes engine.readFilter step)
    (h : Did engine now step r sent entry r' sent') :
    ∃ commands, engine.Sends [stop] commands ∧ sent' = sent ++ commands := by
  cases h with
  | filter =>
    cases hb with
    | filter ht => exact ⟨[], sends_other (by simp [ht]), (List.append_nil _).symm⟩
  | transform =>
    cases hb with
    | transform ht => exact ⟨[], sends_other (by simp [ht]), (List.append_nil _).symm⟩
  | unknown =>
    cases hb with
    | unknown _ _ ht => exact ⟨[], sends_other ht, (List.append_nil _).symm⟩
  | action hp =>
    cases hb with
    | action ht hr =>
      have hafter : (engine.dispatcher.after sent).gateway = some (gateway.after sent) := by
        simp [Dispatcher.after, hg]
      subst hp
      exact ⟨_, sends_action ht hr, by rw [Dispatcher.perform_sent hafter]; rfl⟩

theorem Traces.sends {stops : List Stop} {entries : List TraceEntry} {r r' : Record}
    {sent sent' : List Command} (hg : engine.dispatcher.gateway = some gateway)
    (h : Traces engine now stops r sent entries r' sent') :
    ∃ commands, engine.Sends stops commands ∧ sent' = sent ++ commands := by
  induction h with
  | nil => exact ⟨[], .nil, (List.append_nil _).symm⟩
  | cons hb hd _ ih =>
    obtain ⟨first, ho, rfl⟩ := hd.sends hg hb
    obtain ⟨commands, hos, rfl⟩ := ih
    exact ⟨first ++ commands, ho.append hos, List.append_assoc ..⟩

theorem visit_sent (hg : engine.dispatcher.gateway = some gateway) (now : Timestamp) (node : Node)
    (s : RunState) : (engine.visit now none node s).log.sent = s.log.sent ++
      match node.action? with
      | some action => Dispatcher.sends engine.actionTimeout action
      | none => [] := by
  have hafter : (engine.dispatcher.after s.log.sent).gateway =
      some (gateway.after s.log.sent) := by
    simp [Dispatcher.after, hg]
  rw [visit_log]
  cases node.action? with
  | none => exact (List.append_nil _).symm
  | some action =>
    dsimp only [Log.perform, performed]
    rw [Dispatcher.perform_sent hafter]
    rfl

theorem aborts_of_visit (hs : engine.dispatcher.Scripted) {node : Node} {action : Action}
    (ha : node.action? = some action) {s : RunState} {failure : Failure} {log : Log}
    (h : engine.visit now none node s = .fail failure log) : engine.Aborts node action failure := by
  obtain ⟨standard, scripts, hg⟩ := hs
  rw [visit, Node.step_of_action? ha] at h
  simp only [visitStep, visitStep.acted, Step.node, Dispatcher.Scripted.after_eq ⟨_, _, hg⟩] at h
  cases hp : (engine.dispatcher.perform action s.record engine.policy.actionTimeout).result with
  | error reason =>
    have hreason : failure = reason := by
      rw [hp, reported] at h
      split at h <;> cases h <;> rfl
    exact hreason ▸ .unperformed hg (Dispatcher.perform_fails hg hp)
  | ok result =>
    rw [hp, reported] at h
    split at h
    · cases h
    · next limit hid =>
      cases h
      exact .unnamed hid

theorem node_of_visit_eq_config {node : Node} {s : RunState} {e : ConfigError} {log : Log}
    (h : engine.visit now none node s = .fail (.config e) log) : e.node = node.id := by
  have hv := visit_visited engine now none node s
  rw [h] at hv
  generalize hf : Failure.config e = failure at hv
  cases hv with
  | unread hstep =>
    subst hf
    exact Node.node_of_step_eq_config hstep
  | unreported => cases hf
  | broke hb hbreak =>
    rw [← hb.node_eq]
    cases hbreak with
    | filter =>
      obtain ⟨_, -, rfl⟩ := Failure.attribute_eq_config hf.symm
      rfl
    | transform =>
      obtain ⟨_, -, rfl⟩ := Failure.attribute_eq_config hf.symm
      rfl
    | report => cases hf
    | action hp =>
      subst hf
      exact absurd ⟨e, rfl⟩ (Dispatcher.configFree_perform _ hp)
    | deadline hcut => cases hcut

/-! ## Runs -/

/-- What a run has sent by the stop where it ends, and which node its config errors name. -/
inductive Delivers (engine : Engine) (route : Route) (event : Record) (now : Timestamp) :
    Outcome → Prop
  | unshown {limit : DigitLimit} : route.chain.id.plain = .error limit →
      Delivers engine route event now ⟨.error (.digitLimit limit), .empty⟩
  | finished {visited rest : List Stop} {result : RunResult} {log : Log} :
      route.stops = visited ++ rest →
      result.trace.map TraceEntry.node = visited.map (·.node.id) → engine.Sends visited log.sent →
      Delivers engine route event now ⟨.ok result, log⟩
  | failed {before rest : List Stop} {stop : Stop} {s : RunState} {failure : Failure} {log : Log} :
      route.stops = before ++ stop :: rest → Reaches engine route event now before s →
      engine.visit now none stop.node s = .fail failure log → stop.node.action? = none →
      (∀ e, failure = .config e → e.node = stop.node.id) → engine.Sends before log.sent →
      Delivers engine route event now ⟨.error failure, log⟩
  | aborted {before rest : List Stop} {stop : Stop} {s : RunState} {action : Action}
      {failure : Failure} {log : Log} :
      route.stops = before ++ stop :: rest → Reaches engine route event now before s →
      engine.visit now none stop.node s = .fail failure log → stop.node.action? = some action →
      engine.Aborts stop.node action failure → engine.Sends (before ++ [stop]) log.sent →
      Delivers engine route event now ⟨.error failure, log⟩

theorem run_delivers {route : Route} {event : Record} (hs : engine.dispatcher.Scripted) :
    Delivers engine route event now (engine.run route event now none) := by
  unfold run
  split
  · next hid => exact .unshown hid
  · next text htext =>
  split
  · exact .finished (List.nil_append _).symm rfl .nil
  · have hw := walk_walked engine route.chain.id now none route.stops ⟨event, [], .empty⟩
    obtain ⟨standard, scripts, hg⟩ := hs
    -- What the stops that are passed have sent and left in the trace.
    have hpassed {before : List Stop} {s : RunState}
        (hp : Passes engine now none before ⟨event, [], .empty⟩ s) :
        s.trace.map TraceEntry.node = before.map (·.node.id) ∧ engine.Sends before s.log.sent := by
      obtain ⟨entries, htrace, ht, -⟩ := hp.traces
      obtain ⟨commands, ho, hsent⟩ := ht.sends hg
      rw [htrace, hsent]
      exact ⟨ht.map_node, ho⟩
    generalize engine.walk route.chain.id now none route.stops ⟨event, [], .empty⟩ = outcome at hw
    cases hw with
    | completed hp =>
      obtain ⟨hnodes, ho⟩ := hpassed hp
      exact .finished (List.append_nil _).symm hnodes ho
    | @halted before rest stop mid s' hstops hp hv =>
      obtain ⟨hnodes, ho⟩ := hpassed hp
      have hvisited := visit_visited engine now none stop.node mid
      rw [hv] at hvisited
      cases hvisited with
      | stopped hb hl =>
        obtain ⟨commands, hstop, hsent⟩ := hl.did.sends hg hb
        have hsplit : route.stops = (before ++ [stop]) ++ rest := by simp [hstops]
        refine .finished hsplit ?_ ?_
        · simp [hl.trace, hnodes, hl.did.entry_node, hb.node_eq]
        · rw [hsent]
          exact ho.append hstop
    | @failed before rest stop mid failure log hstops hp hv =>
      obtain ⟨-, ho⟩ := hpassed hp
      have hreach : Reaches engine route event now before _ := ⟨⟨text, htext⟩, hp⟩
      have hsent := visit_sent hg now stop.node mid
      rw [hv] at hsent
      cases ha : stop.node.action? with
      | none =>
        rw [ha, List.append_nil] at hsent
        refine .failed hstops hreach hv ha (fun e he => ?_) (hsent ▸ ho)
        subst he
        exact node_of_visit_eq_config hv
      | some action =>
        rw [ha] at hsent
        obtain ⟨htype, hread⟩ := Node.action?_eq_some.mp ha
        exact .aborted hstops hreach hv ha (aborts_of_visit ⟨standard, scripts, hg⟩ ha hv)
          (hsent ▸ ho.append (sends_action htype hread))

/-! ## Sent commands -/

/-- Where the chain is refused nothing is sent. A run of its route sends the commands of the
actions up to the stop where it ends, each once and in order, and its config errors name that
stop. As long as every action has a result, this is independent of the scripts and of the timeouts
of actions. -/
theorem execute_sent (hs : engine.dispatcher.Scripted) (chain : Chain) (nodes : List Node)
    (event : Record) (now : Timestamp) :
    (∀ failure, Route.build chain nodes engine.policy.maxNodes = .error failure →
      engine.execute chain nodes event now none = ⟨.error failure, .empty⟩) ∧
    (∀ route, Route.build chain nodes engine.policy.maxNodes = .ok route →
      Delivers engine route event now (engine.execute chain nodes event now none)) ∧
    ∀ dispatcher timeout, engine.Steady → (engine.rewired dispatcher timeout).Steady →
      (engine.execute chain nodes event now none).Matches
        ((engine.rewired dispatcher timeout).execute chain nodes event now none) := by
  refine ⟨fun failure hb => ?_, fun route hb => ?_, fun dispatcher timeout he ho => ?_⟩
  · rw [execute, hb]
  · rw [execute, hb]
    exact run_delivers hs
  · exact execute_matches he ho chain nodes event

/-- The first of two devices fails, and the second is still sent its command. The same commands are
sent where no device answers in time. -/
theorem execute_sent_two :
    let engine : Engine := ⟨.standard, ⟨some (.scripted ⟨.boolean true, .null, .int 0, none⟩
      [(some "fan", ⟨.boolean true, .null, .int 0, some ⟨.runtime, .text "off"⟩⟩)]), none⟩,
      Condition.read⟩
    let slow : Engine := engine.rewired
      ⟨some (.scripted ⟨.boolean true, .null, .int 5, none⟩ []), none⟩ (some (.int 2))
    let nodes : List Node := [⟨.int 1, .null, .text "action", .null,
      .object [("command", .text "cool"), ("deviceId", .text "fan")], .int 2⟩,
      ⟨.int 2, .null, .text "action", .null, .object [("command", .text "open")], .null⟩]
    let now : Timestamp := ⟨⟨2024, 6, 1, by decide⟩, .midnight, some .utc⟩
    let outcome := engine.execute (.named (.int 7) .null) nodes [] now none
    engine.dispatcher.Scripted ∧
      outcome.log.sent = [⟨some "fan", .text "cool"⟩, ⟨none, .text "open"⟩] ∧
      (∃ route, Route.build (.named (.int 7) .null) nodes engine.policy.maxNodes = .ok route ∧
        Delivers engine route [] now outcome) ∧
      outcome.Matches (slow.execute (.named (.int 7) .null) nodes [] now none) := by
  intro engine slow nodes now outcome
  have hs : engine.dispatcher.Scripted := ⟨_, _, rfl⟩
  have hsent : outcome.log.sent = [⟨some "fan", .text "cool"⟩, ⟨none, .text "open"⟩] := by
    unfold outcome execute Route.build Route.follow Route.follow
    rfl
  obtain ⟨route, hb⟩ : ∃ route,
      Route.build (.named (.int 7) .null) nodes engine.policy.maxNodes = .ok route := by
    unfold Route.build Route.follow Route.follow
    exact ⟨_, rfl⟩
  have hsteady : engine.Steady := by
    refine ⟨hs, ⟨none, rfl⟩, Dispatcher.reporting_scripted rfl (.of_no_fault rfl) ?_
      ⟨_, rfl⟩ fun _ => ?_⟩
    · intro script hscript
      obtain rfl := List.mem_singleton.mp hscript
      rintro _ ⟨⟩
      exact DeviceFault.reportable_text (fun _ => DeviceFaultKind.noConfusion) "off"
    · refine ⟨⟨_, rfl⟩, fun script hscript => ?_⟩
      obtain rfl := List.mem_singleton.mp hscript
      exact ⟨_, rfl⟩
  have hslow : slow.Steady :=
    ⟨⟨_, _, rfl⟩, ⟨some 2, by decide +kernel⟩,
      Dispatcher.reporting_scripted rfl (.of_no_fault rfl) (List.forall_mem_nil _) ⟨_, rfl⟩
        fun _ => ⟨⟨_, rfl⟩, List.forall_mem_nil _⟩⟩
  obtain ⟨-, hdelivers, hmatches⟩ := execute_sent hs (.named (.int 7) .null) nodes [] now
  exact ⟨hs, hsent, ⟨route, hb, hdelivers route hb⟩, hmatches _ _ hsteady hslow⟩

/-- An engine whose devices acknowledge every command at once. -/
def obliging (policy : Policy) : Engine :=
  ⟨policy, ⟨some (.scripted ⟨.boolean true, .null, .int 0, none⟩ []), none⟩, Condition.read⟩

theorem execute_single (engine : Engine) (node : Node) (event : Record) (now : Timestamp)
    {chain : Chain} {text : String} (hid : node.id.IsKey) (hchain : node.chain = .null)
    (hnext : node.next = .null) (hlimit : 0 < engine.policy.maxNodes)
    (htext : chain.id.plain = .ok text) :
    Route.build chain [node] engine.policy.maxNodes = .ok ⟨chain, [⟨node.id, node⟩]⟩ ∧
      engine.execute chain [node] event now none =
        engine.walk chain.id now none [⟨node.id, node⟩] ⟨event, [], .empty⟩ := by
  have hb : Route.build chain [node] engine.policy.maxNodes = .ok ⟨chain, [⟨node.id, node⟩]⟩ :=
    Route.build_single hid hchain hnext hlimit
  exact ⟨hb, execute_eq_walk hb (List.cons_ne_nil _ _) htext event⟩

/-- An action shows in the trace though its command was not sent, because its timeout is too long
for a clock. The command of an action is sent whose device has itself cancelled, though the run
stops before the action has a result. -/
theorem sent_otherwise :
    (let engine : Engine := .obliging { Policy.standard with
        actionTimeout := some (.int ((10 ^ 155) ^ 2)) }
      let node : Node := .acting (.int 1) "cool"
      let now : Timestamp := ⟨⟨2024, 6, 1, by decide⟩, .midnight, some .utc⟩
      let outcome := engine.execute (.named (.int 7) .null) [node] [] now none
      (∃ result, outcome.result = .ok result ∧ result.trace.map TraceEntry.node = [node.id]) ∧
        ¬ Orders [⟨node.id, node⟩] outcome.log.sent) ∧
    (let cancelled : DeviceFault := ⟨.interruption "CancelledError", .text ""⟩
      let engine : Engine := ⟨.standard,
        ⟨some (.scripted ⟨.boolean true, .null, .int 0, some cancelled⟩ []), none⟩, Condition.read⟩
      let node : Node := .acting (.int 1) "cool"
      let now : Timestamp := ⟨⟨2024, 6, 1, by decide⟩, .midnight, some .utc⟩
      let outcome := engine.execute (.named (.int 7) .null) [node] [] now none
      Route.build (.named (.int 7) .null) [node] engine.policy.maxNodes =
          .ok ⟨.named (.int 7) .null, [⟨node.id, node⟩]⟩ ∧
        outcome.result = .error (.interrupted "CancelledError" (.text "")) ∧
        ¬ ∃ before stop rest, [⟨node.id, node⟩] = before ++ stop :: rest ∧
          Orders before outcome.log.sent) := by
  have hseven : (Chain.named (.int 7) .null).id.plain = .ok "7" := rfl
  constructor
  · intro engine node now outcome
    have hlong : (Number.int ((10 ^ 155) ^ 2)).isTooLong = true := by decide +kernel
    have hspan : Timeout.span? (some (.int ((10 ^ 155) ^ 2))) = .error .operand := by
      rw [Timeout.span?, if_pos hlong]
      rfl
    let action : Action := ⟨.text "cool", none, [("command", .text "cool")]⟩
    let refused : ActionResult := ⟨.error, .text "cool", [], .none,
      "OverflowError: int too large to convert to float", none⟩
    have hperform : engine.dispatcher.perform action [] engine.policy.actionTimeout =
        ⟨some 0, none, false, .ok refused⟩ := by
      unfold Dispatcher.perform
      simp only [engine, obliging, Option.some_or, hspan]
      rfl
    have hscript : engine.dispatcher.after [] = engine.dispatcher := rfl
    have hvisit : engine.visit now none node ⟨[], [], .empty⟩ =
        .goOn ⟨[], [.action (.int 1) refused], ⟨0 + 0, [], []⟩⟩ := by
      have hstep : node.step engine.readFilter = .ok (.action (.int 1) action) := rfl
      simp only [visit, hstep, visitStep, Log.empty, hscript, hperform]
      rfl
    have ho : outcome = ⟨.ok ⟨.int 7, .completed, [.action (.int 1) refused], []⟩,
        ⟨0 + 0, [], []⟩⟩ := by
      obtain ⟨-, hwalk⟩ := execute_single engine node [] now trivial rfl rfl (by decide) hseven
      rw [show outcome = _ from hwalk, walk, hvisit]
      rfl
    rw [ho]
    refine ⟨⟨_, rfl, rfl⟩, fun horders => ?_⟩
    cases horders with
    | other hne => exact hne rfl
  · intro cancelled engine node now outcome
    have hstep : node.step engine.readFilter =
        .ok (.action node.id ⟨.text "cool", none, [("command", .text "cool")]⟩) := rfl
    obtain ⟨hb, hwalk⟩ := execute_single engine node [] now trivial rfl rfl (by decide) hseven
    have ho : outcome.result = .error (.interrupted "CancelledError" (.text "")) ∧
        outcome.log.sent = [⟨none, .text "cool"⟩] := by
      rw [show outcome = _ from hwalk]
      simp only [walk, visit, hstep]
      exact ⟨rfl, rfl⟩
    refine ⟨hb, ho.1, ?_⟩
    rintro ⟨before, stop, rest, hs, horders⟩
    obtain rfl : before = [] := by
      cases before with
      | nil => rfl
      | cons first others => simp at hs
    rw [ho.2] at horders
    cases horders

end Engine

end EventChain
