import EventChain.Proofs.Route.Bypass
import EventChain.Proofs.Run.Commands
import EventChain.Proofs.Run.Unreached

/-!
# Runs without a node of no known type

A node of no known type has no part in a run but its entry in the trace. With and without it a run
ends in the same failure or with the same status and record, and the same log; the entry is missing
from the trace of the second (`execute_bypassed`). The node has to be reported for that: where its
identifier or its type cannot be shown, a run that gets to it fails (`Node.Unshown`).
-/

namespace EventChain

@[simp] theorem Node.bypass_step (node u : Node)
    (readFilter : Value → Except Failure Condition) :
    (node.bypass u).step readFilter = node.step readFilter := rfl

/-- The node cannot be reported: its type cannot be shown, or else its identifier. -/
inductive Node.Unshown (u : Node) : DigitLimit → Prop
  | type {limit : DigitLimit} : u.type.plain = .error limit → u.Unshown limit
  | id {limit : DigitLimit} {tag : String} : u.type.plain = .ok tag → u.id.plain = .error limit →
      u.Unshown limit

/-- Two states between nodes that differ by one entry, at a place of the first trace. -/
inductive RunState.Omits (k : Nat) (entry : TraceEntry) : RunState → RunState → Prop
  | mk {record : Record} {before after : List TraceEntry} {log : Log} : before.length = k →
      Omits k entry ⟨record, before ++ entry :: after, log⟩ ⟨record, before ++ after, log⟩

namespace RunState

variable {k : Nat} {entry : TraceEntry} {s t : RunState}

theorem omits_push (entry : TraceEntry) (s : RunState) :
    (s.push entry).Omits s.trace.length entry s := by
  have h : Omits s.trace.length entry ⟨s.record, s.trace ++ [entry], s.log⟩
      ⟨s.record, s.trace ++ [], s.log⟩ := ⟨rfl⟩
  rwa [List.append_nil] at h

theorem Omits.push (h : s.Omits k entry t) (other : TraceEntry) :
    (s.push other).Omits k entry (t.push other) := by
  obtain ⟨hk⟩ := h
  simp only [RunState.push, List.append_assoc, List.cons_append]
  exact ⟨hk⟩

theorem Omits.logged (h : s.Omits k entry t) (log : Log) :
    Omits k entry { s with log := log } { t with log := log } := by
  obtain ⟨hk⟩ := h
  exact ⟨hk⟩

end RunState

namespace Engine

variable {engine : Engine} {now : Timestamp} {cut : Option Cut} {chain : Value} {k : Nat}
  {entry : TraceEntry}

/-- Two outcomes that differ by one entry, at a place of the first trace: both fail alike, both are
halted before the place, or the first trace has the entry there and the second does not. -/
inductive Outcome.Omits (k : Nat) (entry : TraceEntry) : Outcome → Outcome → Prop
  | failed {failure : Failure} {log : Log} :
      Omits k entry ⟨.error failure, log⟩ ⟨.error failure, log⟩
  | halted {chain : Value} {trace : List TraceEntry} {record : Record} {log : Log} :
      trace.length ≤ k →
      Omits k entry ⟨.ok ⟨chain, .haltedByFilter, trace, record⟩, log⟩
        ⟨.ok ⟨chain, .haltedByFilter, trace, record⟩, log⟩
  | passed {chain : Value} {status : RunStatus} {before after : List TraceEntry} {record : Record}
      {log : Log} : before.length = k →
      Omits k entry ⟨.ok ⟨chain, status, before ++ entry :: after, record⟩, log⟩
        ⟨.ok ⟨chain, status, before ++ after, record⟩, log⟩

/-! ## Behind the node -/

theorem level_omits (k : Nat) (entry : TraceEntry) : Level (RunState.Omits k entry) Eq where
  record := by
    rintro s t ⟨hk⟩
    rfl
  logs_of_states := by
    rintro s t ⟨hk⟩
    rfl
  push := RunState.Omits.push
  become := by
    rintro s t ⟨hk⟩ after
    exact ⟨hk⟩

theorem acted_omits {s t : RunState} (h : s.Omits k entry t) (node : Value) (p : Performance)
    (log : Log) : (visitStep.acted s node p log).Paired (RunState.Omits k entry) Eq
      (visitStep.acted t node p log) := by
  unfold visitStep.acted
  cases p.result with
  | error failure => exact .fail rfl
  | ok result => exact .goOn ((h.push (.action node result)).logged log)

theorem lockstep_omits (engine : Engine) (now : Timestamp) (cut : Option Cut) (nodes : List Node)
    (k : Nat) (entry : TraceEntry) :
    Lockstep engine engine now cut nodes (RunState.Omits k entry) Eq where
  maxNodes := rfl
  readFilter := rfl
  logs_of_states := (level_omits k entry).logs_of_states
  visitStep := by
    intro node _ step _ s t hs
    cases step with
    | action node action =>
      have hlog : s.log = t.log := (level_omits k entry).logs_of_states hs
      have hrecord : s.record = t.record := (level_omits k entry).record hs
      unfold visitStep
      simp only [hlog, hrecord]
      cases cut with
      | none => exact acted_omits hs node _ _
      | some c =>
        simp only
        split
        · exact .fail rfl
        · exact acted_omits hs node _ _
    | _ => exact (level_omits k entry).visitStep_paired (fun _ _ _ => rfl) hs nofun

theorem Outcome.Paired.omits {outcome other : Outcome}
    (h : outcome.Paired (RunState.Omits k entry) Eq other) : outcome.Omits k entry other := by
  cases h with
  | ended chain status hs =>
    obtain ⟨hk⟩ := hs
    exact .passed hk
  | failed hl => exact hl ▸ .failed

/-! ## The visit to the node -/

section
variable {u : Node} (hfilter : u.type ≠ .text "filter") (htransform : u.type ≠ .text "transform")
  (haction : u.type ≠ .text "action")
include hfilter htransform haction

theorem step_unknown (readFilter : Value → Except Failure Condition) :
    u.step readFilter = (limited u.type.plain).map fun tag => .unknown u.id tag u.config := by
  unfold Node.step
  split
  · next h => exact absurd h hfilter
  · next h => exact absurd h htransform
  · next h => exact absurd h haction
  · cases u.type.plain <;> rfl

theorem visit_unknown {tag shown : String} (htag : u.type.plain = .ok tag)
    (hid : u.id.plain = .ok shown) (s : RunState) :
    engine.visit now cut u s = .goOn (s.push (.unknown u.id tag)) := by
  have hstep := step_unknown hfilter htransform haction engine.readFilter
  rw [htag] at hstep
  unfold visit
  rw [hstep]
  simp only [limited, pure, Except.pure, Except.map, visitStep, reported, Step.node, hid]

theorem visit_unshown {limit : DigitLimit} (h : u.Unshown limit) (s : RunState) :
    engine.visit now cut u s = .fail (.digitLimit limit) s.log := by
  have hstep := step_unknown hfilter htransform haction engine.readFilter
  unfold visit
  rw [hstep]
  cases h with
  | type htype =>
    rw [htype]
    rfl
  | id htype hid =>
    rw [htype]
    simp only [limited, pure, Except.pure, Except.map, visitStep, reported, Step.node, hid]
    rfl

end

/-- Walks along stops with and without the one at the node: induction on the stops before it. -/
theorem walk_omits {passed rest : List Stop} {stop : Stop} {entry : TraceEntry}
    (hvisit : ∀ s, engine.visit now cut stop.node s = .goOn (s.push entry)) (s : RunState) :
    (engine.walk chain now cut (passed ++ stop :: rest) s).Omits (s.trace.length + passed.length)
      entry (engine.walk chain now cut (passed ++ rest) s) := by
  induction passed generalizing s with
  | nil =>
    rw [List.nil_append, List.nil_append, walk, hvisit]
    exact ((lockstep_omits engine now cut (rest.map Stop.node) _ entry).walk_paired chain
      (fun stop hs => List.mem_map_of_mem hs) (s.omits_push entry)).omits
  | cons first passed ih =>
    rw [List.cons_append, List.cons_append, walk, walk]
    have hvisited := visit_visited engine now cut first.node s
    generalize engine.visit now cut first.node s = visit at hvisited ⊢
    cases hvisited with
    | @went _ _ mid _ hl =>
      have hlength : s.trace.length + (first :: passed).length =
          mid.trace.length + passed.length := by
        rw [hl.trace, List.length_append, List.length_singleton, List.length_cons]
        omega
      exact hlength ▸ ih mid
    | @stopped _ _ last _ hl =>
      refine .halted ?_
      rw [hl.trace, List.length_append, List.length_singleton, List.length_cons]
      omega
    | unread | broke | unreported => exact .failed

/-! ## Runs -/

/-- Redirected links and other identifiers of stops do not show in a walk. -/
theorem walk_bypass {stops others : List Stop} {u : Node}
    (h : others.map Stop.node = stops.map (·.node.bypass u)) (s : RunState) :
    engine.walk chain now cut others s = engine.walk chain now cut stops s := by
  have halike : List.Forall₂ (fun other stop => other.node = stop.node.bypass u) others stops := by
    have hsame := List.forall₂_eq_eq_eq ▸ h
    rwa [List.forall₂_map_left_iff, List.forall₂_map_right_iff] at hsame
  refine walk_eq_of_reached halike fun other stop hnode _ s => ?_
  rw [hnode, visit, visit, Node.bypass_step]

/-- Nodes of no known type are inert, unless they cannot be reported. -/
theorem execute_bypassed {chain : Chain} {before after : List Node} {u : Node}
    (hfilter : u.type ≠ .text "filter") (htransform : u.type ≠ .text "transform")
    (haction : u.type ≠ .text "action") {route : Route}
    (hbuild : Route.build chain (before ++ u :: after) engine.policy.maxNodes = .ok route)
    (hne : before ++ after ≠ []) :
    ∃ passed stop rest, route.stops = passed ++ stop :: rest ∧ stop.node = u ∧
      Route.build chain ((before ++ after).map (·.bypass u)) engine.policy.maxNodes =
        .ok ⟨chain, Route.restart ((passed ++ rest).map (·.bypass u))⟩ ∧
      (∀ tag shown, u.type.plain = .ok tag → u.id.plain = .ok shown → ∀ event now cut,
        (engine.execute chain (before ++ u :: after) event now cut).Omits passed.length
          (.unknown u.id tag)
          (engine.execute chain ((before ++ after).map (·.bypass u)) event now cut)) ∧
      ∀ limit, u.Unshown limit → ∀ event now s, Reaches engine route event now passed s →
        (engine.execute chain (before ++ u :: after) event now none).result =
          .error (.digitLimit limit) := by
  obtain ⟨passed, stop, rest, hroute, hstop, hrest⟩ := Route.build_bypassed hbuild hne
  refine ⟨passed, stop, rest, hroute, hstop, hrest, fun tag shown htag hid event now cut => ?_,
    fun limit hlimit event now s hreach => ?_⟩
  · cases htext : chain.id.plain with
    | error limit =>
      have hchain : route.chain = chain := (Route.build_stops hbuild).1
      simp only [execute, hbuild, hrest, run, hchain, htext]
      exact .failed
    | ok text =>
      have hvisit (s : RunState) :
          engine.visit now cut stop.node s = .goOn (s.push (.unknown u.id tag)) := by
        rw [hstop]
        exact visit_unknown hfilter htransform haction htag hid s
      have hstops : (Route.restart ((passed ++ rest).map (·.bypass u))).map Stop.node =
          (passed ++ rest).map (·.node.bypass u) := by
        rw [Route.map_node_restart, List.map_map]
        rfl
      rw [execute_eq_walk hbuild (by simp) htext, execute_eq_walk hrest (by simpa using hne) htext,
        hroute, walk_bypass hstops]
      rw [← Nat.zero_add passed.length]
      exact walk_omits hvisit ⟨event, [], .empty⟩
  · have hvisit : engine.visit now none stop.node s = .fail (.digitLimit limit) s.log := by
      rw [hstop]
      exact visit_unshown hfilter htransform haction hlimit s
    simp only [execute, hbuild]
    exact hreach.run_eq_error hroute hvisit

/-- A note between two transforms. -/
theorem execute_bypassed_note :
    let chain : Chain := .named (.int 7) .null
    let adding (id next : Value) : Node := ⟨id, .null, .text "transform", .null,
      .object [("field", .text "level"), ("operation", .text "add"), ("operand", .int 3)], next⟩
    let note : Node := ⟨.int 2, .null, .text "note", .null, .null, .int 3⟩
    let engine : Engine := ⟨.standard, ⟨none, none⟩, Condition.read⟩
    let now : Timestamp := ⟨⟨2024, 6, 1, by decide⟩, .midnight, some .utc⟩
    let run (nodes : List Node) := engine.execute chain nodes [("level", .int 12)] now none
    note.type ≠ .text "filter" ∧ note.type ≠ .text "transform" ∧ note.type ≠ .text "action" ∧
      (run ([adding (.int 1) (.int 2)] ++ note :: [adding (.int 3) .null])).Omits 1
        (.unknown (.int 2) "note") (run [adding (.int 1) (.int 3), adding (.int 3) .null]) := by
  intro chain adding note engine now run
  have hfilter : note.type ≠ .text "filter" := by simp [note]
  have htransform : note.type ≠ .text "transform" := by simp [note]
  have haction : note.type ≠ .text "action" := by simp [note]
  have hbuild : Route.build chain ([adding (.int 1) (.int 2)] ++ note :: [adding (.int 3) .null])
      engine.policy.maxNodes = .ok ⟨chain, [⟨.int 1, adding (.int 1) (.int 2)⟩, ⟨.int 2, note⟩,
        ⟨.int 3, adding (.int 3) .null⟩]⟩ := by
    unfold Route.build Route.follow Route.follow Route.follow
    rfl
  obtain ⟨passed, stop, rest, hstops, hstop, -, hrun, -⟩ :=
    execute_bypassed hfilter htransform haction hbuild (by simp)
  refine ⟨hfilter, htransform, haction, ?_⟩
  have htype : stop.node.type = .text "note" := congrArg Node.type hstop
  have hadding (id next : Value) : (adding id next).type ≠ .text "note" := by simp [adding]
  have hone : passed.length = 1 := by
    rcases passed with _ | ⟨first, _ | ⟨second, passed⟩⟩
    · obtain ⟨rfl, -⟩ := List.cons.inj hstops
      exact absurd htype (hadding _ _)
    · rfl
    · obtain ⟨-, hstops⟩ := List.cons.inj (List.cons.inj hstops).2
      have hmem : stop ∈ [(⟨.int 3, adding (.int 3) .null⟩ : Stop)] := by
        rw [hstops]
        exact List.mem_append_right passed List.mem_cons_self
      rw [List.mem_singleton.mp hmem] at htype
      exact absurd htype (hadding _ _)
  exact hone ▸ hrun "note" "2" rfl rfl [("level", .int 12)] now none

/-- A node whose identifier has too many digits: the run with it cannot report it. -/
theorem inert_otherwise :
    let n : Int := 10 ^ DigitLimit.most
    let chain : Chain := .named (.int 7) .null
    let note : Node := ⟨.int n, .null, .text "note", .null, .null, .int 2⟩
    let last : Node := ⟨.int 2, .null, .text "note", .null, .null, .null⟩
    let engine : Engine := ⟨.standard, ⟨none, none⟩, Condition.read⟩
    let now : Timestamp := ⟨⟨2024, 6, 1, by decide⟩, .midnight, some .utc⟩
    note.type ≠ .text "filter" ∧ note.type ≠ .text "transform" ∧ note.type ≠ .text "action" ∧
      (∃ route, Route.build chain [note, last] engine.policy.maxNodes = .ok route) ∧
      ¬ ∃ k entry, (engine.execute chain [note, last] [] now none).Omits k entry
        (engine.execute chain ([last].map (·.bypass note)) [] now none) := by
  intro n chain note last engine now
  have hdigits : 10 ^ DigitLimit.most ≤ n.natAbs := by
    rw [Int.natAbs_pow]
    exact Nat.pow_le_pow_left (by decide) _
  have htwo : n ≠ 2 := by
    have hlt : DigitLimit.most < 10 ^ DigitLimit.most := Nat.lt_pow_self (by decide)
    have hmost : 2 < DigitLimit.most := by decide
    omega
  clear_value n
  have htext : chain.id.plain = .ok "7" := rfl
  have hbuild : Route.build chain [note, last] engine.policy.maxNodes =
      .ok ⟨chain, [Stop.of note, ⟨.int 2, last⟩]⟩ := by
    have hapart : ¬ Route.SameMark note last := by
      intro hsame
      have hagree : (Value.int n).agrees (.int 2) = true :=
        (Value.agrees_iff_sameMark rfl).mpr hsame
      simp [Value.int, Value.agrees, Value.quantity?, htwo] at hagree
    refine (Route.build_threads (by simp)).mpr ⟨⟨?_, ?_⟩, ?_, ⟨.refl _, note, _, rfl, ?_, ?_⟩, ?_⟩
    · simp [note, last, Value.int, Value.checkIdentifier]
    · simpa using hapart
    · simp [Route.OneChain, Route.SameChain, note, last]
    · simp [note, Value.int]
    · exact .cons (by simp [note, Value.int]) ⟨_, rfl, rfl⟩ .nil
    · simp only [List.length_cons, List.length_nil]
      decide
  refine ⟨by simp [note], by simp [note], by simp [note], ⟨_, hbuild⟩, ?_⟩
  rintro ⟨k, entry, homits⟩
  obtain ⟨limit, hlimit⟩ : ∃ limit, note.id.plain = .error limit :=
    Number.intText_eq_error hdigits
  have hstep : note.step Condition.read = .ok (.unknown note.id "note" .null) := rfl
  have hfails : engine.visit now none note ⟨[], [], .empty⟩ = .fail (.digitLimit limit) .empty := by
    simp only [visit, engine, hstep, Step.node, reported, hlimit, visitStep]
    rfl
  have hgoes : engine.visit now none last ⟨[], [], .empty⟩ =
      .goOn ⟨[], [.unknown (.int 2) "note"], .empty⟩ :=
    visit_unknown (by simp [last]) (by simp [last]) (by simp [last]) rfl rfl _
  obtain ⟨-, hsingle⟩ := execute_single engine last [] now trivial rfl rfl (by decide) htext
  have hbypass : [last].map (·.bypass note) = [last] := rfl
  rw [hbypass, hsingle, execute_eq_walk hbuild (by simp) htext, walk, walk] at homits
  simp only [Stop.of, hfails, hgoes] at homits
  cases homits

end Engine

end EventChain
