import EventChain.Proofs.Run.Lockstep
import EventChain.Proofs.Run.Visit

/-!
# Runs under other scripts

What the devices of a scripted gateway do, and how long an action may take, shows in the results of
actions only. As long as clocks can be set to the timeouts, reports do not fail, and no device gives
the order to stop or is waited for without end, a run under other scripts and timeouts goes the same
way: it stops at the same node for the same reason, with the same record and the same commands sent
(`execute_matches`). The two runs go in lockstep: their states match before and after every visit.
-/

namespace EventChain

/-- The two states have come to the same record by the same nodes and commands. -/
structure RunState.Matches (s t : RunState) : Prop where
  record : s.record = t.record
  nodes : s.trace.map TraceEntry.node = t.trace.map TraceEntry.node
  sent : s.log.sent = t.log.sent

theorem RunState.Matches.push {s t : RunState} (h : s.Matches t) {a b : TraceEntry}
    (hab : a.node = b.node) : (s.push a).Matches (t.push b) :=
  ⟨h.record, by simp [RunState.push, h.nodes, hab], h.sent⟩

theorem RunState.level_matches : Level RunState.Matches fun log other => log.sent = other.sent where
  record h := h.record
  logs_of_states h := h.sent
  push h _ := h.push rfl
  become h _ := ⟨rfl, h.nodes, h.sent⟩

namespace Engine

variable {engine : Engine} {now : Timestamp}

/-- The two outcomes agree but for what became of actions and the time it took. -/
inductive Outcome.Matches : Outcome → Outcome → Prop
  | ok {chain : Value} {status : RunStatus} {trace others : List TraceEntry} {record : Record}
      {log other : Log} : trace.map TraceEntry.node = others.map TraceEntry.node →
      log.sent = other.sent →
      Matches ⟨.ok ⟨chain, status, trace, record⟩, log⟩ ⟨.ok ⟨chain, status, others, record⟩, other⟩
  | error {failure : Failure} {log other : Log} : log.sent = other.sent →
      Matches ⟨.error failure, log⟩ ⟨.error failure, other⟩

/-- The gateway answers by scripts, a clock can be set to the timeout of actions, and every action
has a result that can be reported. -/
structure Steady (engine : Engine) : Prop where
  scripted : engine.dispatcher.Scripted
  clocked : ∃ span, engine.actionTimeout.span? = .ok span
  reporting : engine.dispatcher.Reporting engine.policy.actionTimeout

def rewired (engine : Engine) (dispatcher : Dispatcher) (timeout : Timeout) : Engine :=
  { engine with policy.actionTimeout := timeout, dispatcher }

theorem Steady.perform_eq_ok (h : engine.Steady) (action : Action) (r : Record) :
    ∃ result, (engine.dispatcher.perform action r engine.policy.actionTimeout).result =
      .ok result := by
  have hperformed := h.reporting.perform_eq_ok [] action r
  rwa [h.scripted.after_eq] at hperformed

section
variable {dispatcher : Dispatcher} {timeout : Timeout}

theorem Steady.visitStep_action (h : engine.Steady) (s : RunState) (node : Value)
    (action : Action) :
    ∃ result log, engine.visitStep now none s (.action node action) =
        .goOn { s.push (.action node result) with log := log } ∧
      log.sent = s.log.sent ++ [Dispatcher.commandOf action] := by
  obtain ⟨result, hr⟩ := h.perform_eq_ok action s.record
  obtain ⟨standard, scripts, hg⟩ := h.scripted
  obtain ⟨span, hspan⟩ := h.clocked
  refine ⟨result, s.log.perform
    (engine.dispatcher.perform action s.record engine.policy.actionTimeout), ?_, ?_⟩
  · rw [visitStep, visitStep.acted, h.scripted.after_eq, hr]
  · rw [Log.perform, Dispatcher.perform_sent hg, Dispatcher.sends, ← actionTimeout, hspan]

theorem Steady.lockstep (he : engine.Steady) (ho : (engine.rewired dispatcher timeout).Steady)
    (nodes : List Node) :
    Lockstep engine (engine.rewired dispatcher timeout) now none nodes RunState.Matches
      fun log other => log.sent = other.sent where
  maxNodes := rfl
  readFilter := rfl
  logs_of_states h := h.sent
  visitStep := by
    intro node _ step _ s t h
    cases step with
    | action node action =>
      obtain ⟨result, log, hv, hsent⟩ := he.visitStep_action s node action
      obtain ⟨other, log', hv', hsent'⟩ := ho.visitStep_action t node action
      have hpush : (s.push (.action node result)).Matches (t.push (.action node other)) :=
        h.push rfl
      rw [hv, hv']
      exact .goOn ⟨hpush.record, hpush.nodes, by rw [hsent, hsent', h.sent]⟩
    | _ => exact RunState.level_matches.visitStep_paired (fun _ _ _ => rfl) h nofun

theorem Outcome.Paired.matches {outcome other : Outcome}
    (h : outcome.Paired RunState.Matches (fun log other => log.sent = other.sent) other) :
    outcome.Matches other := by
  cases h with
  | @ended s t chain status hs =>
    rw [hs.record]
    exact .ok hs.nodes hs.sent
  | failed hsent => exact .error hsent

theorem execute_matches (he : engine.Steady) (ho : (engine.rewired dispatcher timeout).Steady)
    (chain : Chain) (nodes : List Node) (event : Record) :
    (engine.execute chain nodes event now none).Matches
      ((engine.rewired dispatcher timeout).execute chain nodes event now none) :=
  ((he.lockstep ho nodes).execute_paired chain ⟨rfl, rfl, rfl⟩).matches

end

end Engine

end EventChain
