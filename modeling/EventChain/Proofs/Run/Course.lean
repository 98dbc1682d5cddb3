import EventChain.Course
import EventChain.Proofs.Device.Dispatch

/-!
# Runs that take turns

Taking turns changes nothing about a run as long as the gateway forgets what it was sent: its turn
is the visit that it would make alone, and the commands that it sends there are those that its own
log gains (`turn_eq`). `Engine.arrive` is what a course comes to without others, which a turn
preserves (`arrive_onward`), and which for a run that departs is what it comes to as a whole
(`arrive_depart`).
-/

namespace EventChain

namespace Visit

@[simp] theorem log_after (sent : List Command) (v : Visit) :
    (v.after sent).log = { v.log with sent := sent ++ v.log.sent } := by
  cases v <;> rfl

theorem reported_after (node : Value) (sent : List Command) (v : Visit) :
    (Engine.reported node v).after sent = Engine.reported node (v.after sent) := by
  unfold Engine.reported
  cases node.plain with
  | ok text => rfl
  | error limit => cases v <;> rfl

end Visit

namespace Course

variable {chain : Value} {rest : List Stop}

@[simp] theorem log_onward (chain : Value) (rest : List Stop) (v : Visit) :
    (onward chain rest v).log = v.log := by
  cases v with
  | goOn s => cases rest <;> rfl
  | halt | fail => rfl

theorem ahead_onward_le (chain : Value) (rest : List Stop) (v : Visit) :
    (onward chain rest v).ahead ≤ rest.length := by
  cases v with
  | goOn s => cases rest <;> exact le_rfl
  | halt | fail => exact Nat.zero_le _

end Course

theorem Route.depart_sent (route : Route) (event : Record) :
    (route.depart event).log.sent = [] := by
  unfold depart
  cases route.chain.id.plain with
  | error limit => rfl
  | ok text => cases route.stops <;> rfl

namespace Engine

variable {engine : Engine} {now : Timestamp} {cut : Option Cut}

def arrive (engine : Engine) (chain : Value) (now : Timestamp) (cut : Option Cut) :
    Course → Outcome
  | .underway stop rest s => engine.walk chain now cut (stop :: rest) s
  | .ended outcome => outcome

theorem arrive_depart (engine : Engine) (route : Route) (event : Record) (now : Timestamp)
    (cut : Option Cut) :
    engine.arrive route.chain.id now cut (route.depart event) = engine.run route event now cut := by
  unfold Route.depart run Route.isEmpty
  cases route.chain.id.plain with
  | error limit => rfl
  | ok text => cases route.stops <;> rfl

theorem arrive_onward (engine : Engine) (chain : Value) (stop : Stop) (rest : List Stop)
    (s : RunState) :
    engine.arrive chain now cut (.onward chain rest (engine.visit now cut stop.node s)) =
      engine.walk chain now cut (stop :: rest) s := by
  rw [walk]
  cases engine.visit now cut stop.node s with
  | goOn s' => cases rest <;> rfl
  | halt | fail => rfl

/-- A visit does not depend on what the run sent before, but puts it first in the log. -/
theorem visitStep_after (h : engine.dispatcher.Forgetful) (s : RunState) (step : Step) :
    (engine.visitStep now cut { s with log.sent := [] } step).after s.log.sent =
      engine.visitStep now cut s step := by
  cases step with
  | filter node condition =>
    simp only [visitStep]
    cases passes now node condition s.record with
    | error failure => simp [Visit.after]
    | ok passed => cases passed <;> simp [Visit.after, RunState.push]
  | transform node t =>
    simp only [visitStep]
    cases engine.transformed node t s.record <;> simp [Visit.after, RunState.push]
  | action node action =>
    simp only [visitStep, h _]
    generalize engine.dispatcher.perform action s.record engine.policy.actionTimeout = p
    have hacted (log : Log) (hsent : log.sent = s.log.sent ++ p.sent.toList) :
        (visitStep.acted { s with log.sent := [] } node p { log with sent := p.sent.toList }).after
          s.log.sent = visitStep.acted s node p log := by
      unfold visitStep.acted
      cases p.result <;> simp [Visit.after, RunState.push, ← hsent]
    cases cut with
    | none => exact hacted (s.log.perform p) rfl
    | some c =>
      change Visit.after s.log.sent (if s.log.isOvertaken p c.moment then _ else _) =
        if s.log.isOvertaken p c.moment then _ else _
      split
      · simp [Visit.after, Log.interrupt]
      · exact hacted (s.log.perform p) rfl
  | unknown node type config => simp [visitStep, Visit.after, RunState.push]

theorem visitRead_after (h : engine.dispatcher.Forgetful) (read : Except Failure Step)
    (s : RunState) :
    (engine.visitRead now cut read { s with log.sent := [] }).after s.log.sent =
      engine.visitRead now cut read s := by
  cases read with
  | error failure => simp [visitRead, Visit.after]
  | ok step =>
    rw [visitRead, Visit.reported_after, visitStep_after h, visitRead]

theorem turn_eq (h : engine.dispatcher.Forgetful) (earlier : List Command) (chain : Value)
    (now : Timestamp) (cut : Option Cut) (read : Except Failure Step) (rest : List Stop)
    (s : RunState) :
    let turn := engine.turn earlier chain now cut read rest s
    turn.2 = .onward chain rest (engine.visitRead now cut read s) ∧
      turn.2.log.sent = s.log.sent ++ turn.1 := by
  intro turn
  have hamong :
      ({ engine with dispatcher := engine.dispatcher.after earlier } : Engine) = engine := by
    rw [h earlier]
  simp only [turn, Engine.turn, hamong, visitRead_after h, Course.log_onward]
  refine ⟨trivial, ?_⟩
  rw [← visitRead_after h, Visit.log_after]

end Engine

end EventChain
