import EventChain.Course
import EventChain.Proofs.Device.Dispatch
import EventChain.Proofs.Route.Stops

/-!
# Visits to a node

What a visit does: `Node.Becomes` relates a node to the step its config is read as,
`Engine.Did` a step to the entry it leaves and the record it hands on, and `Engine.Breaks` a step
to the failure that keeps it from being done. `visit_visited` puts them together: a visit that
goes on or halts did one step, and one that fails failed to read the node, to do its step, or to
report it. The log of a visit is that of the action of the node, if it is one (`visit_log`).
-/

namespace EventChain

/-- What the config of a node is read as, by the type of the node. -/
inductive Node.Becomes (readFilter : Value → Except Failure Condition) (node : Node) : Step → Prop
  | filter {condition : Condition} : node.type = .text "filter" →
      readFilter node.config = .ok condition → Becomes readFilter node (.filter node.id condition)
  | transform {t : Transform} : node.type = .text "transform" →
      Transform.read node.config = .ok t → Becomes readFilter node (.transform node.id t)
  | action {action : Action} : node.type = .text "action" →
      Action.read node.config = .ok action → Becomes readFilter node (.action node.id action)
  | unknown {type : String} : node.type ≠ .text "filter" → node.type ≠ .text "transform" →
      node.type ≠ .text "action" → node.type.plain = .ok type →
      Becomes readFilter node (.unknown node.id type node.config)

theorem Node.becomes_of_step {readFilter : Value → Except Failure Condition} {node : Node}
    {step : Step} (h : node.step readFilter = .ok step) : node.Becomes readFilter step := by
  unfold Node.step at h
  split at h
  · next htype =>
    obtain ⟨condition, hc, h⟩ := bind_eq_ok.mp (attributed_eq_ok.mp h)
    cases h
    exact .filter htype hc
  · next htype =>
    obtain ⟨t, ht, h⟩ := bind_eq_ok.mp (attributed_eq_ok.mp h)
    cases h
    exact .transform htype ht
  · next htype =>
    obtain ⟨action, ha, h⟩ := bind_eq_ok.mp (attributed_eq_ok.mp h)
    cases h
    exact .action htype ha
  · next type hf ht ha =>
    obtain ⟨shown, hs, h⟩ := bind_eq_ok.mp h
    cases h
    exact .unknown hf ht ha (limited_eq_ok.mp hs)

theorem Node.Becomes.step_eq {readFilter : Value → Except Failure Condition} {node : Node}
    {step : Step} (h : node.Becomes readFilter step) : node.step readFilter = .ok step := by
  unfold Node.step
  cases h with
  | filter htype hread | transform htype hread | action htype hread =>
    rw [htype]
    simp only [hread]
    rfl
  | unknown hfilter htransform haction hshown =>
    split
    · next htype => exact absurd htype hfilter
    · next htype => exact absurd htype htransform
    · next htype => exact absurd htype haction
    · rw [hshown]
      rfl

theorem Node.Becomes.node_eq {readFilter : Value → Except Failure Condition} {node : Node}
    {step : Step} (h : node.Becomes readFilter step) : step.node = node.id := by
  cases h <;> rfl

/-- The entry of a filter that did not pass. -/
def TraceEntry.IsRefusal : TraceEntry → Prop
  | filter _ passed => passed = false
  | _ => False

namespace Engine

variable {engine : Engine} {now : Timestamp} {cut : Option Cut}

def actionTimeout (engine : Engine) : Timeout :=
  engine.dispatcher.inForce engine.policy.actionTimeout

/-- What a step does to a record, with the entry it leaves. Before it `sent` were the commands
sent. -/
inductive Did (engine : Engine) (now : Timestamp) :
    Step → Record → List Command → TraceEntry → Record → List Command → Prop
  | filter {node : Value} {condition : Condition} {r : Record} {sent : List Command}
      {passed : Bool} : condition.holds now r = .ok passed →
      Did engine now (.filter node condition) r sent (.filter node passed) r sent
  | transform {node : Value} {t : Transform} {r after : Record} {sent : List Command} :
      t.apply engine.policy.strictTransforms r = .ok after →
      Did engine now (.transform node t) r sent (.transform node r after) after sent
  | action {node : Value} {action : Action} {r : Record} {sent : List Command} {p : Performance}
      {result : ActionResult} :
      (engine.dispatcher.after sent).perform action r engine.policy.actionTimeout = p →
      p.result = .ok result →
      Did engine now (.action node action) r sent (.action node result) r (sent ++ p.sent.toList)
  | unknown {node : Value} {type : String} {config : Value} {r : Record} {sent : List Command} :
      Did engine now (.unknown node type config) r sent (.unknown node type) r sent

theorem Did.entry_node {step : Step} {r r' : Record} {sent sent' : List Command}
    {entry : TraceEntry} (h : Did engine now step r sent entry r' sent') :
    entry.node = step.node := by
  cases h <;> rfl

structure Leaves (engine : Engine) (now : Timestamp) (step : Step) (s : RunState)
    (entry : TraceEntry) (s' : RunState) : Prop where
  did : Did engine now step s.record s.log.sent entry s'.record s'.log.sent
  trace : s'.trace = s.trace ++ [entry]

inductive Breaks (engine : Engine) (now : Timestamp) (cut : Option Cut) (s : RunState) :
    Step → Failure → Prop
  | filter {node : Value} {condition : Condition} {failure : Failure} :
      condition.holds now s.record = .error failure →
      Breaks engine now cut s (.filter node condition) (failure.attribute node)
  | transform {node : Value} {t : Transform} {failure : Failure} :
      t.apply engine.policy.strictTransforms s.record = .error failure →
      Breaks engine now cut s (.transform node t) (failure.attribute node)
  | report {node : Value} {t : Transform} {limit : DigitLimit} :
      Breaks engine now cut s (.transform node t) (.digitLimit limit)
  | action {node : Value} {action : Action} {failure : Failure} :
      ((engine.dispatcher.after s.log.sent).perform action s.record
        engine.policy.actionTimeout).result = .error failure →
      Breaks engine now cut s (.action node action) failure
  | deadline {node : Value} {action : Action} {c : Cut} : cut = some c →
      Breaks engine now cut s (.action node action) c.deadline.failure

inductive Stepped (engine : Engine) (now : Timestamp) (cut : Option Cut) (s : RunState)
    (step : Step) : Visit → Prop
  | went {entry : TraceEntry} {s' : RunState} : Leaves engine now step s entry s' →
      ¬ entry.IsRefusal → Stepped engine now cut s step (.goOn s')
  | stopped {entry : TraceEntry} {s' : RunState} : Leaves engine now step s entry s' →
      entry.IsRefusal → Stepped engine now cut s step (.halt s')
  | broke {failure : Failure} {log : Log} : Breaks engine now cut s step failure →
      Stepped engine now cut s step (.fail failure log)

theorem acted_stepped {node : Value} {action : Action} {s : RunState} {p : Performance}
    (hp : (engine.dispatcher.after s.log.sent).perform action s.record
      engine.policy.actionTimeout = p) :
    Stepped engine now cut s (.action node action)
      (visitStep.acted s node p (s.log.perform p)) := by
  unfold visitStep.acted
  cases hr : p.result with
  | ok result => exact .went ⟨.action hp hr, rfl⟩ id
  | error failure => exact .broke (.action (hp ▸ hr))

theorem visitStep_stepped (engine : Engine) (now : Timestamp) (cut : Option Cut) (step : Step)
    (s : RunState) : Stepped engine now cut s step (engine.visitStep now cut s step) := by
  cases step with
  | filter node condition =>
    rw [visitStep, passes]
    cases hc : condition.holds now s.record with
    | error failure => exact .broke (.filter hc)
    | ok passed =>
      cases passed with
      | true => exact .went ⟨.filter hc, rfl⟩ Bool.true_eq_false.mp
      | false => exact .stopped ⟨.filter hc, rfl⟩ rfl
  | transform node t =>
    rw [visitStep, transformed]
    cases ht : t.apply engine.policy.strictTransforms s.record with
    | error failure => exact .broke (.transform ht)
    | ok after =>
      simp only [attributed, pure, Except.pure, bind, Except.bind]
      cases hd : (after.get t.field).display with
      | error limit => exact .broke .report
      | ok shown => exact .went ⟨.transform ht, rfl⟩ id
  | action node action =>
    cases cut with
    | none => exact acted_stepped rfl
    | some c =>
      unfold visitStep
      simp only
      split
      · exact .broke (.deadline rfl)
      · exact acted_stepped rfl
  | unknown node type config => exact .went ⟨.unknown, rfl⟩ id

inductive Visited (engine : Engine) (now : Timestamp) (cut : Option Cut) (s : RunState)
    (node : Node) : Visit → Prop
  | went {step : Step} {entry : TraceEntry} {s' : RunState} :
      node.Becomes engine.readFilter step → Leaves engine now step s entry s' →
      ¬ entry.IsRefusal → Visited engine now cut s node (.goOn s')
  | stopped {step : Step} {entry : TraceEntry} {s' : RunState} :
      node.Becomes engine.readFilter step → Leaves engine now step s entry s' →
      entry.IsRefusal → Visited engine now cut s node (.halt s')
  | unread {failure : Failure} : node.step engine.readFilter = .error failure →
      Visited engine now cut s node (.fail failure s.log)
  | broke {step : Step} {failure : Failure} {log : Log} :
      node.Becomes engine.readFilter step → Breaks engine now cut s step failure →
      Visited engine now cut s node (.fail failure log)
  | unreported {limit : DigitLimit} {log : Log} :
      Visited engine now cut s node (.fail (.digitLimit limit) log)

theorem visit_visited (engine : Engine) (now : Timestamp) (cut : Option Cut) (node : Node)
    (s : RunState) : Visited engine now cut s node (engine.visit now cut node s) := by
  unfold visit
  cases hstep : node.step engine.readFilter with
  | error failure => exact .unread hstep
  | ok step =>
    have hbecomes := Node.becomes_of_step hstep
    have hstepped := visitStep_stepped engine now cut step s
    simp only [reported]
    generalize engine.visitStep now cut s step = visit at hstepped ⊢
    cases step.node.plain with
    | ok shown =>
      cases hstepped with
      | went hl hn => exact .went hbecomes hl hn
      | stopped hl hn => exact .stopped hbecomes hl hn
      | broke hb => exact .broke hbecomes hb
    | error limit =>
      cases hstepped with
      | went => exact .unreported
      | stopped => exact .unreported
      | broke hb => exact .broke hbecomes hb

/-- A run of nodes whose chain can be shown walks along their route. -/
theorem execute_eq_walk {chain : Chain} {nodes : List Node} {route : Route} {text : String}
    (hbuild : Route.build chain nodes engine.policy.maxNodes = .ok route) (hne : nodes ≠ [])
    (htext : chain.id.plain = .ok text) (event : Record) :
    engine.execute chain nodes event now cut =
      engine.walk chain.id now cut route.stops ⟨event, [], .empty⟩ := by
  obtain ⟨hchain, -, hnil⟩ := Route.build_stops hbuild
  have hstops : ¬ route.isEmpty = true := by
    rw [Route.isEmpty, List.isEmpty_iff, hnil]
    exact hne
  simp only [execute, hbuild, run, hchain, htext]
  exact if_neg hstops

end Engine

/-! ## The log of a visit -/

def Node.action? (node : Node) : Option Action :=
  match node.type with
  | .text "action" => (Action.read node.config).toOption
  | _ => none

theorem Node.action?_eq_some {node : Node} {action : Action} : node.action? = some action ↔
    node.type = .text "action" ∧ Action.read node.config = .ok action := by
  unfold Node.action?
  split
  · next htype => cases Action.read node.config <;> simp [htype, Except.toOption]
  · next htype => exact iff_of_false (Option.some_ne_none _).symm fun h => htype h.1

theorem Node.step_of_action? {node : Node} {action : Action}
    {readFilter : Value → Except Failure Condition} (h : node.action? = some action) :
    node.step readFilter = .ok (.action node.id action) :=
  let ⟨htype, hread⟩ := Node.action?_eq_some.mp h
  (Node.Becomes.action htype hread).step_eq

theorem Node.Becomes.action? {node : Node} {step : Step}
    {readFilter : Value → Except Failure Condition} (h : node.Becomes readFilter step) :
    node.action? = match step with
      | .action _ a => some a
      | _ => none := by
  unfold Node.action?
  cases h with
  | filter ht => simp [ht]
  | transform ht => simp [ht]
  | action ht hr => simp [ht, hr, Except.toOption]
  | unknown _ _ ht =>
    split
    · next h => exact absurd h ht
    · rfl

namespace Engine

variable {engine : Engine} {s : RunState}

@[simp] theorem reported_log (id : Value) (visit : Visit) :
    (reported id visit).log = visit.log := by
  unfold reported
  split
  · rfl
  · cases visit <;> rfl

def performed (engine : Engine) (s : RunState) (action : Action) : Performance :=
  (engine.dispatcher.after s.log.sent).perform action s.record engine.policy.actionTimeout

theorem acted_log {id : Value} {p : Performance} {log : Log} :
    (visitStep.acted s id p log).log = log := by
  unfold visitStep.acted
  cases p.result <;> rfl

theorem visit_log (engine : Engine) (now : Timestamp) (node : Node) (s : RunState) :
    (engine.visit now none node s).log = match node.action? with
      | some action => s.log.perform (engine.performed s action)
      | none => s.log := by
  unfold visit
  cases hstep : node.step engine.readFilter with
  | error failure =>
    cases ha : node.action? with
    | none => rfl
    | some action => cases hstep.symm.trans (Node.step_of_action? ha)
  | ok step =>
    rw [(Node.becomes_of_step hstep).action?]
    simp only [reported_log]
    cases step with
    | filter id condition =>
      rw [visitStep]
      rcases passes now id condition s.record with failure | _ | _ <;> rfl
    | transform id t =>
      rw [visitStep]
      cases engine.transformed id t s.record <;> rfl
    | action id action =>
      rw [visitStep]
      exact acted_log
    | unknown id type config => rfl

end Engine

end EventChain
