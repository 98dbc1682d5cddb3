import EventChain.Proofs.Condition.Fields
import EventChain.Proofs.Device.Dispatch
import EventChain.Proofs.Run.Lockstep
import EventChain.Proofs.Run.Visit
import EventChain.Proofs.Transform

/-!
# Fields that no node names

A run of a chain depends on the fields that its filters look up and its transforms change, and on no
others: on two events that agree there it goes the same way (`execute_unmentioned`). Filters look
dotted paths up and transforms set keys, so that one may name a field inside or around that of the
other; the records still agree after a transform, because it changes numbers only, and no path goes
on inside a number. A field that no transform names is in the last record what it was in the event.
-/

namespace EventChain

section
variable (readFilter : Value → Except Failure Condition)

/-- The names of the fields that a node looks up: those of a filter. -/
def Node.tested (node : Node) : List String :=
  match node.step readFilter with
  | .ok (.filter _ condition) => condition.fields
  | _ => []

/-- The names of the fields that a node changes: that of a transform. -/
def Node.changed (node : Node) : List String :=
  match node.step readFilter with
  | .ok (.transform _ t) => [t.field]
  | _ => []

/-- Two records that have the same in all fields that nodes look up or change. -/
structure Record.Agrees (nodes : List Node) (r r' : Record) : Prop where
  tested : ∀ node ∈ nodes, ∀ name ∈ node.tested readFilter, r.lookup name = r'.lookup name
  changed : ∀ node ∈ nodes, ∀ name ∈ node.changed readFilter, r.get name = r'.get name

/-- The record has what the event has in all fields that no node changes. -/
def Record.Keeps (nodes : List Node) (event r : Record) : Prop :=
  ∀ name, (∀ node ∈ nodes, name ∉ node.changed readFilter) → r.get? name = event.get? name

end

variable {readFilter : Value → Except Failure Condition} {nodes : List Node}

/-- Records agree after the same is put in the place of what is no object. -/
theorem Record.Agrees.set {r r' : Record} (h : r.Agrees readFilter nodes r') {key : String}
    {v : Value} (hr : (r.get key).Flat) (hr' : (r'.get key).Flat) (hv : v.Flat) :
    (r.set key v).Agrees readFilter nodes (r'.set key v) where
  tested node hn name hname := by
    by_cases hk : name = key
    · rw [hk, lookup_set_self, lookup_set_self]
    · rw [lookup_set_of_ne hr hv hk, lookup_set_of_ne hr' hv hk, h.tested node hn name hname]
  changed node hn name hname := by
    by_cases hk : name = key
    · rw [hk, get_set_self, get_set_self]
    · rw [get_set_of_ne r v hk, get_set_of_ne r' v hk, h.changed node hn name hname]

theorem Record.Keeps.put {event r : Record} (h : event.Keeps readFilter nodes r) {node : Node}
    (hn : node ∈ nodes) {field : String} (hf : field ∈ node.changed readFilter)
    (n : Option Number) : event.Keeps readFilter nodes (Transform.put r field n) := by
  intro name hname
  have hne : name ≠ field := fun heq => hname node hn (heq ▸ hf)
  cases n with
  | none => exact h name hname
  | some n => rw [Transform.put, get?_set_of_ne r _ hne, h name hname]

/-- Two entries that differ at most in the records they show. -/
inductive TraceEntry.Parallel : TraceEntry → TraceEntry → Prop
  | filter (node : Value) (passed : Bool) : Parallel (.filter node passed) (.filter node passed)
  | transform (node : Value) (before after before' after' : Record) :
      Parallel (.transform node before after) (.transform node before' after')
  | action (node : Value) (result : ActionResult) (r : Record) :
      Parallel (.action node result) (.action node (result.seeing r))
  | unknown (node : Value) (type : String) : Parallel (.unknown node type) (.unknown node type)

structure RunState.Parallel (readFilter : Value → Except Failure Condition) (nodes : List Node)
    (event event' : Record) (s t : RunState) : Prop where
  agrees : s.record.Agrees readFilter nodes t.record
  keeps : event.Keeps readFilter nodes s.record
  keeps' : event'.Keeps readFilter nodes t.record
  trace : List.Forall₂ TraceEntry.Parallel s.trace t.trace
  log : s.log = t.log

theorem RunState.Parallel.push {event event' : Record} {s t : RunState}
    (h : s.Parallel readFilter nodes event event' t) {a b : TraceEntry} (hab : a.Parallel b) :
    (s.push a).Parallel readFilter nodes event event' (t.push b) :=
  { h with trace := List.rel_append h.trace (.cons hab .nil) }

namespace Engine

variable {engine : Engine} {now : Timestamp} {cut : Option Cut} {event event' : Record}

/-- Two outcomes that differ at most in the records they show. -/
inductive Outcome.Parallel : Outcome → Outcome → Prop
  | ok {chain : Value} {status : RunStatus} {trace others : List TraceEntry}
      {record record' : Record} {log : Log} : List.Forall₂ TraceEntry.Parallel trace others →
      Parallel ⟨.ok ⟨chain, status, trace, record⟩, log⟩ ⟨.ok ⟨chain, status, others, record'⟩, log⟩
  | error {failure : Failure} {log : Log} :
      Parallel ⟨.error failure, log⟩ ⟨.error failure, log⟩

theorem transformed_eq (engine : Engine) (node : Value) (t : Transform) (r : Record) :
    engine.transformed node t r = (do
      let n ← attributed node (t.effect engine.policy.strictTransforms (r.get t.field))
      let _ ← limited ((Transform.put r t.field n).get t.field).display
      pure (Transform.put r t.field n)) := by
  rw [transformed, Transform.apply_eq]
  cases t.effect engine.policy.strictTransforms (r.get t.field) <;> rfl

theorem acted_parallel {s t : RunState} (h : s.Parallel readFilter nodes event event' t)
    (node : Value) (p : Performance) (log : Log) :
    (visitStep.acted s node p log).Paired (RunState.Parallel readFilter nodes event event') Eq
      (visitStep.acted t node (p.seeing t.record) log) := by
  unfold visitStep.acted Performance.seeing
  cases p.result with
  | error failure => exact .fail rfl
  | ok result =>
    have hpush := h.push (.action node result t.record)
    exact .goOn ⟨hpush.agrees, hpush.keeps, hpush.keeps', hpush.trace, rfl⟩

section
variable {node : Node} {s t : RunState}

theorem filter_parallel (hn : node ∈ nodes)
    (h : s.Parallel engine.readFilter nodes event event' t) {id : Value} {condition : Condition}
    (hstep : node.step engine.readFilter = .ok (.filter id condition)) :
    (engine.visitStep now cut s (.filter id condition)).Paired
      (RunState.Parallel engine.readFilter nodes event event') Eq
      (engine.visitStep now cut t (.filter id condition)) := by
  have hfields : condition.fields = node.tested engine.readFilter := by
    rw [Node.tested, hstep]
  have hsame : passes now id condition s.record = passes now id condition t.record := by
    rw [passes, passes, Condition.holds_congr now condition
      (hfields ▸ h.agrees.tested node hn)]
  rw [visitStep, visitStep, hsame]
  cases passes now id condition t.record with
  | error failure => exact .fail h.log
  | ok passed =>
    cases passed with
    | true => exact .goOn (h.push (.filter id true))
    | false => exact .halt (h.push (.filter id false))

theorem transform_parallel (hn : node ∈ nodes)
    (h : s.Parallel engine.readFilter nodes event event' t) {id : Value} {tr : Transform}
    (hstep : node.step engine.readFilter = .ok (.transform id tr)) :
    (engine.visitStep now cut s (.transform id tr)).Paired
      (RunState.Parallel engine.readFilter nodes event event') Eq
      (engine.visitStep now cut t (.transform id tr)) := by
  have hfield : tr.field ∈ node.changed engine.readFilter := by
    rw [Node.changed, hstep]
    exact List.mem_singleton_self _
  have hget : s.record.get tr.field = t.record.get tr.field :=
    h.agrees.changed node hn tr.field hfield
  rw [visitStep, visitStep, transformed_eq, transformed_eq, ← hget]
  cases heffect : tr.effect engine.policy.strictTransforms (s.record.get tr.field) with
  | error failure => exact .fail h.log
  | ok n =>
    have hagrees : (Transform.put s.record tr.field n).Agrees engine.readFilter nodes
        (Transform.put t.record tr.field n) := by
      cases n with
      | none => exact h.agrees
      | some n =>
        have hflat := Transform.flat_of_effect heffect
        exact h.agrees.set hflat (hget ▸ hflat) (Value.flat_number n)
    have hafter := hagrees.changed node hn tr.field hfield
    simp only [attributed, pure, Except.pure, bind, Except.bind, ← hafter]
    cases ((Transform.put s.record tr.field n).get tr.field).display with
    | error limit => exact .fail h.log
    | ok text =>
      exact .goOn ⟨hagrees, h.keeps.put hn hfield n, h.keeps'.put hn hfield n,
        (h.push (.transform id _ _ _ _)).trace, h.log⟩

theorem action_parallel (h : s.Parallel engine.readFilter nodes event event' t) (id : Value)
    (action : Action) :
    (engine.visitStep now cut s (.action id action)).Paired
      (RunState.Parallel engine.readFilter nodes event event') Eq
      (engine.visitStep now cut t (.action id action)) := by
  have hseeing := Dispatcher.perform_seeing (engine.dispatcher.after t.log.sent) action
    s.record t.record engine.policy.actionTimeout
  simp only [visitStep, h.log, hseeing]
  generalize (engine.dispatcher.after t.log.sent).perform action s.record
    engine.policy.actionTimeout = p
  cases cut with
  | none => exact acted_parallel h id p _
  | some c =>
    have hsame : t.log.perform (p.seeing t.record) = t.log.perform p := rfl
    have hovertaken : t.log.isOvertaken (p.seeing t.record) c.moment =
        t.log.isOvertaken p c.moment := rfl
    dsimp only
    rw [hsame, hovertaken]
    by_cases hlate : t.log.isOvertaken p c.moment = true
    · rw [if_pos hlate, if_pos hlate]
      exact .fail rfl
    · rw [if_neg hlate, if_neg hlate]
      exact acted_parallel h id p _

end

theorem unmentioned_lockstep (engine : Engine) (now : Timestamp) (cut : Option Cut)
    (nodes : List Node) (event event' : Record) :
    Lockstep engine engine now cut nodes
      (RunState.Parallel engine.readFilter nodes event event') Eq where
  maxNodes := rfl
  readFilter := rfl
  logs_of_states h := h.log
  visitStep := by
    intro node hn step hstep s t h
    cases step with
    | filter id condition => exact filter_parallel hn h hstep
    | transform id tr => exact transform_parallel hn h hstep
    | action id action => exact action_parallel h id action
    | unknown id type config => exact .goOn (h.push (.unknown id type))

/-- On two events that agree in the fields that nodes look up or change, a run ends in the same way
and with the same log, and each keeps all other fields of its event. -/
theorem execute_unmentioned (h : event.Agrees engine.readFilter nodes event') (chain : Chain)
    (now : Timestamp) (cut : Option Cut) :
    (engine.execute chain nodes event now cut).Parallel
        (engine.execute chain nodes event' now cut) ∧
      (∀ result, (engine.execute chain nodes event now cut).result = .ok result →
        event.Keeps engine.readFilter nodes result.record) ∧
      ∀ result, (engine.execute chain nodes event' now cut).result = .ok result →
        event'.Keeps engine.readFilter nodes result.record := by
  have hpaired := (unmentioned_lockstep engine now cut nodes event event').execute_paired chain
    ⟨h, fun _ _ => rfl, fun _ _ => rfl, .nil, rfl⟩
  generalize engine.execute chain nodes event now cut = outcome at hpaired ⊢
  generalize engine.execute chain nodes event' now cut = other at hpaired ⊢
  cases hpaired with
  | @ended s t chain status hs =>
    refine ⟨?_, ?_, ?_⟩
    · rw [hs.log]
      exact .ok hs.trace
    · rintro result ⟨⟩
      exact hs.keeps
    · rintro result ⟨⟩
      exact hs.keeps'
  | failed hlog =>
    subst hlog
    exact ⟨.error, nofun, nofun⟩

/-- A transform of the field `a` comes before a filter that looks up `a.b`. The events differ in a
third field, and one of them names the second by its path. -/
theorem execute_unmentioned_paths :
    let adding : Node := ⟨.int 1, .null, .text "transform", .null, .object [("field", .text "a"),
      ("operation", .text "add"), ("operand", .int 3)], .int 2⟩
    let testing : Node := ⟨.int 2, .null, .text "filter", .null, .object [("field", .text "a.b"),
      ("operator", .text "isNull")], .null⟩
    let engine : Engine := ⟨.standard, ⟨none, none⟩, Condition.read⟩
    let event : Record := [("a", .int 1), ("c", .text "x")]
    let event' : Record := [("c", .text "y"), ("a.b", .null), ("a", .int 1)]
    let now : Timestamp := ⟨⟨2024, 6, 1, by decide⟩, .midnight, some .utc⟩
    let outcome := engine.execute (.named (.int 7) .null) [adding, testing] event now none
    let other := engine.execute (.named (.int 7) .null) [adding, testing] event' now none
    event.Agrees engine.readFilter [adding, testing] event' ∧
      outcome.result.map RunResult.record = .ok [("a", .int 4), ("c", .text "x")] ∧
      outcome.Parallel other ∧
      ∀ result, other.result = .ok result →
        event'.Keeps engine.readFilter [adding, testing] result.record := by
  intro adding testing engine event event' now outcome other
  have hadding : adding.step engine.readFilter =
      .ok (.transform (.int 1) ⟨"a", "add", .int 3⟩) := rfl
  have htesting : testing.step engine.readFilter =
      .ok (.filter (.int 2) (.leaf ⟨"a.b", .isNull, .null, "", none⟩)) := by
    refine (Node.Becomes.filter rfl ?_).step_eq
    change Condition.readAt "" testing.config = _
    rw [Condition.readAt]
    rfl
  have hagrees : event.Agrees engine.readFilter [adding, testing] event' := by
    constructor
    · simp only [List.forall_mem_cons, Node.tested, hadding, htesting, Condition.fields]
      exact ⟨List.forall_mem_nil _, ⟨rfl, List.forall_mem_nil _⟩, List.forall_mem_nil _⟩
    · simp only [List.forall_mem_cons, Node.changed, hadding, htesting]
      exact ⟨⟨rfl, List.forall_mem_nil _⟩, List.forall_mem_nil _, List.forall_mem_nil _⟩
  obtain ⟨hparallel, -, hkeeps⟩ := execute_unmentioned hagrees (.named (.int 7) .null) now none
  refine ⟨hagrees, ?_, hparallel, hkeeps⟩
  have hroute : Route.build (.named (.int 7) .null) [adding, testing] engine.policy.maxNodes =
      .ok ⟨.named (.int 7) .null, [⟨.int 1, adding⟩, ⟨.int 2, testing⟩]⟩ := by
    unfold Route.build Route.follow Route.follow
    rfl
  rw [show outcome = _ from execute_eq_walk hroute (List.cons_ne_nil _ _) rfl event]
  simp only [walk, visit, hadding, htesting]
  rfl

end Engine

end EventChain
