import EventChain.Proofs.Route.Stops
import EventChain.Run

/-!
# Runs side by side

Two runs of one chain go side by side if, from related states, the two visits to each node lead to
related states again, or end both runs in the same way. `Engine.Lockstep` asks this of the steps of
the nodes, and `Lockstep.execute_paired` gives it of whole runs: they end at the same stop with the
same status or the same failure. Where related states hold the same record only actions can tell
them apart (`Level.visitStep_paired`).
-/

namespace EventChain

variable {states : RunState → RunState → Prop} {logs : Log → Log → Prop}

/-- Two visits that lead to related states, or fail in the same way with related logs. -/
inductive Visit.Paired (states : RunState → RunState → Prop) (logs : Log → Log → Prop) :
    Visit → Visit → Prop
  | goOn {s t : RunState} : states s t → Paired states logs (.goOn s) (.goOn t)
  | halt {s t : RunState} : states s t → Paired states logs (.halt s) (.halt t)
  | fail {failure : Failure} {log other : Log} : logs log other →
      Paired states logs (.fail failure log) (.fail failure other)

namespace Engine

/-- Two outcomes of one status read off related states, or of one failure with related logs. -/
inductive Outcome.Paired (states : RunState → RunState → Prop) (logs : Log → Log → Prop) :
    Outcome → Outcome → Prop
  | ended {s t : RunState} (chain : Value) (status : RunStatus) : states s t →
      Paired states logs ⟨.ok ⟨chain, status, s.trace, s.record⟩, s.log⟩
        ⟨.ok ⟨chain, status, t.trace, t.record⟩, t.log⟩
  | failed {failure : Failure} {log other : Log} : logs log other →
      Paired states logs ⟨.error failure, log⟩ ⟨.error failure, other⟩

/-- The two engines keep related states related at every one of the nodes. -/
structure Lockstep (engine other : Engine) (now : Timestamp) (cut : Option Cut) (nodes : List Node)
    (states : RunState → RunState → Prop) (logs : Log → Log → Prop) : Prop where
  maxNodes : other.policy.maxNodes = engine.policy.maxNodes
  readFilter : other.readFilter = engine.readFilter
  logs_of_states : ∀ {s t}, states s t → logs s.log t.log
  visitStep : ∀ node ∈ nodes, ∀ step, node.step engine.readFilter = .ok step → ∀ s t, states s t →
    (engine.visitStep now cut s step).Paired states logs (other.visitStep now cut t step)

namespace Lockstep

variable {engine other : Engine} {now : Timestamp} {cut : Option Cut} {nodes : List Node}
  {s t : RunState}

/-- Where an identifier cannot be shown, both reports fail. -/
theorem reported_paired (h : Lockstep engine other now cut nodes states logs) {v w : Visit}
    (hvw : v.Paired states logs w) (node : Value) :
    (reported node v).Paired states logs (reported node w) := by
  unfold reported
  cases node.plain with
  | ok text => exact hvw
  | error limit =>
    cases hvw with
    | goOn hs => exact .fail (h.logs_of_states hs)
    | halt hs => exact .fail (h.logs_of_states hs)
    | fail hl => exact .fail hl

theorem visit_paired (h : Lockstep engine other now cut nodes states logs) {node : Node}
    (hn : node ∈ nodes) (hs : states s t) :
    (engine.visit now cut node s).Paired states logs (other.visit now cut node t) := by
  unfold visit
  rw [h.readFilter]
  cases hstep : node.step engine.readFilter with
  | error failure => exact .fail (h.logs_of_states hs)
  | ok step => exact h.reported_paired (h.visitStep node hn step hstep s t hs) step.node

/-- Induction on the stops, the states before each being related. -/
theorem walk_paired (h : Lockstep engine other now cut nodes states logs) (chain : Value)
    {stops : List Stop} (hstops : ∀ stop ∈ stops, stop.node ∈ nodes) (hs : states s t) :
    (engine.walk chain now cut stops s).Paired states logs
      (other.walk chain now cut stops t) := by
  induction stops generalizing s t with
  | nil => exact .ended chain .completed hs
  | cons stop rest ih =>
    obtain ⟨hnode, hrest⟩ := List.forall_mem_cons.mp hstops
    have hv := h.visit_paired hnode hs
    unfold walk
    generalize engine.visit now cut stop.node s = v at hv ⊢
    generalize other.visit now cut stop.node t = w at hv ⊢
    cases hv with
    | goOn hs => exact ih hrest hs
    | halt hs => exact .ended chain .haltedByFilter hs
    | fail hl => exact .failed hl

theorem execute_paired (h : Lockstep engine other now cut nodes states logs) (chain : Chain)
    {event event' : Record} (hs : states ⟨event, [], .empty⟩ ⟨event', [], .empty⟩) :
    (engine.execute chain nodes event now cut).Paired states logs
      (other.execute chain nodes event' now cut) := by
  have hempty : logs .empty .empty := h.logs_of_states hs
  unfold execute
  rw [h.maxNodes]
  cases hb : Route.build chain nodes engine.policy.maxNodes with
  | error failure => exact .failed hempty
  | ok route =>
    obtain ⟨-, hstops, -⟩ := Route.build_stops hb
    dsimp only
    unfold run
    split
    · exact .failed hempty
    split
    · exact .ended route.chain.id .emptyChain hs
    · exact h.walk_paired route.chain.id (fun stop hmem => (hstops stop hmem).1) hs

end Lockstep

end Engine

/-- Related states hold the same record, and stay related when both enter the same. -/
structure Level (states : RunState → RunState → Prop) (logs : Log → Log → Prop) : Prop where
  record : ∀ {s t}, states s t → s.record = t.record
  logs_of_states : ∀ {s t}, states s t → logs s.log t.log
  push : ∀ {s t}, states s t → ∀ entry, states (s.push entry) (t.push entry)
  become : ∀ {s t}, states s t → ∀ after,
    states { s with record := after } { t with record := after }

/-- On states that hold the same record every step but an action does the same. -/
theorem Level.visitStep_paired (h : Level states logs) {engine other : Engine}
    (htransformed : ∀ node t r, other.transformed node t r = engine.transformed node t r)
    {now : Timestamp} {cut : Option Cut} {s t : RunState} (hs : states s t) {step : Step}
    (hstep : ∀ node action, step ≠ .action node action) :
    (engine.visitStep now cut s step).Paired states logs (other.visitStep now cut t step) := by
  cases step with
  | filter node condition =>
    rw [Engine.visitStep, Engine.visitStep, h.record hs]
    cases Engine.passes now node condition t.record with
    | error failure => exact .fail (h.logs_of_states hs)
    | ok passed =>
      cases passed with
      | true => exact .goOn (h.push hs _)
      | false => exact .halt (h.push hs _)
  | transform node tr =>
    rw [Engine.visitStep, Engine.visitStep, htransformed, h.record hs]
    cases engine.transformed node tr t.record with
    | error failure => exact .fail (h.logs_of_states hs)
    | ok after => exact .goOn (h.become (h.push hs _) after)
  | action node action => exact absurd rfl (hstep node action)
  | unknown node type config => exact .goOn (h.push hs _)

end EventChain
