import EventChain.Proofs.Run.Visit

/-!
# The trace of a run

`Engine.Passes` closes the visits that go on over a list of stops, and `walk_walked` says how a
walk along stops ends: all are passed, or a filter halts or a visit fails at one of them after
those before it were passed. `Engine.Traces` relates the stops that were visited to the entries
they leave, record by record; `execute_result` states the meaning of a whole run by it.
-/

namespace EventChain

namespace Engine

variable {engine : Engine} {now : Timestamp} {cut : Option Cut} {chain : Value}

inductive Passes (engine : Engine) (now : Timestamp) (cut : Option Cut) :
    List Stop → RunState → RunState → Prop
  | nil {s : RunState} : Passes engine now cut [] s s
  | cons {stop : Stop} {rest : List Stop} {s mid s' : RunState} :
      engine.visit now cut stop.node s = .goOn mid → Passes engine now cut rest mid s' →
      Passes engine now cut (stop :: rest) s s'

inductive Walked (engine : Engine) (chain : Value) (now : Timestamp) (cut : Option Cut)
    (stops : List Stop) (s : RunState) : Outcome → Prop
  | completed {s' : RunState} : Passes engine now cut stops s s' →
      Walked engine chain now cut stops s ⟨.ok ⟨chain, .completed, s'.trace, s'.record⟩, s'.log⟩
  | halted (before : List Stop) {rest : List Stop} {stop : Stop} {mid s' : RunState} :
      stops = before ++ stop :: rest → Passes engine now cut before s mid →
      engine.visit now cut stop.node mid = .halt s' →
      Walked engine chain now cut stops s
        ⟨.ok ⟨chain, .haltedByFilter, s'.trace, s'.record⟩, s'.log⟩
  | failed (before : List Stop) {rest : List Stop} {stop : Stop} {mid : RunState}
      {failure : Failure} {log : Log} :
      stops = before ++ stop :: rest → Passes engine now cut before s mid →
      engine.visit now cut stop.node mid = .fail failure log →
      Walked engine chain now cut stops s ⟨.error failure, log⟩

theorem Walked.cons {stop : Stop} {rest : List Stop} {s mid : RunState} {outcome : Outcome}
    (hv : engine.visit now cut stop.node s = .goOn mid)
    (h : Walked engine chain now cut rest mid outcome) :
    Walked engine chain now cut (stop :: rest) s outcome := by
  cases h with
  | completed hp => exact .completed (.cons hv hp)
  | halted before hs hp hh =>
    exact .halted (stop :: before) (by rw [hs, List.cons_append]) (.cons hv hp) hh
  | failed before hs hp hf =>
    exact .failed (stop :: before) (by rw [hs, List.cons_append]) (.cons hv hp) hf

theorem walk_walked (engine : Engine) (chain : Value) (now : Timestamp) (cut : Option Cut)
    (stops : List Stop) (s : RunState) :
    Walked engine chain now cut stops s (engine.walk chain now cut stops s) := by
  induction stops generalizing s with
  | nil => exact .completed .nil
  | cons stop rest ih =>
    unfold walk
    cases hv : engine.visit now cut stop.node s with
    | goOn mid => exact (ih mid).cons hv
    | halt s' => exact .halted [] rfl .nil hv
    | fail failure log => exact .failed [] rfl .nil hv

/-! ## Entries -/

/-- The entries that visits to stops leave, one for each, with the records and the commands sent
before and after them. -/
inductive Traces (engine : Engine) (now : Timestamp) :
    List Stop → Record → List Command → List TraceEntry → Record → List Command → Prop
  | nil {r : Record} {sent : List Command} : Traces engine now [] r sent [] r sent
  | cons {stop : Stop} {stops : List Stop} {step : Step} {entry : TraceEntry}
      {entries : List TraceEntry} {r mid r' : Record} {sent between sent' : List Command} :
      stop.node.Becomes engine.readFilter step → Did engine now step r sent entry mid between →
      Traces engine now stops mid between entries r' sent' →
      Traces engine now (stop :: stops) r sent (entry :: entries) r' sent'

theorem Traces.snoc {stops : List Stop} {stop : Stop} {step : Step} {entry : TraceEntry}
    {entries : List TraceEntry} {r mid r' : Record} {sent between sent' : List Command}
    (h : Traces engine now stops r sent entries mid between)
    (hb : stop.node.Becomes engine.readFilter step)
    (hd : Did engine now step mid between entry r' sent') :
    Traces engine now (stops ++ [stop]) r sent (entries ++ [entry]) r' sent' := by
  induction h with
  | nil => exact .cons hb hd .nil
  | cons hb' hd' _ ih => exact .cons hb' hd' (ih hd)

theorem Traces.map_node {stops : List Stop} {entries : List TraceEntry} {r r' : Record}
    {sent sent' : List Command} (h : Traces engine now stops r sent entries r' sent') :
    entries.map TraceEntry.node = stops.map (·.node.id) := by
  induction h with
  | nil => rfl
  | cons hb hd _ ih => rw [List.map_cons, List.map_cons, ih, hd.entry_node, hb.node_eq]

theorem Traces.length_eq {stops : List Stop} {entries : List TraceEntry} {r r' : Record}
    {sent sent' : List Command} (h : Traces engine now stops r sent entries r' sent') :
    entries.length = stops.length := by
  simpa using congrArg List.length h.map_node

/-- Stops that are passed leave an entry each, none of a filter that did not pass. -/
theorem Passes.traces {stops : List Stop} {s s' : RunState} (h : Passes engine now cut stops s s') :
    ∃ entries, s'.trace = s.trace ++ entries ∧
      Traces engine now stops s.record s.log.sent entries s'.record s'.log.sent ∧
      ∀ entry ∈ entries, ¬ entry.IsRefusal := by
  induction h with
  | nil => exact ⟨[], (List.append_nil _).symm, .nil, by simp⟩
  | @cons stop rest s mid s' hv _ ih =>
    obtain ⟨entries, htrace, ht, hpass⟩ := ih
    have hvisit := visit_visited engine now cut stop.node s
    rw [hv] at hvisit
    cases hvisit with
    | went hb hl hn =>
      refine ⟨_ :: entries, ?_, .cons hb hl.did ht, List.forall_mem_cons.mpr ⟨hn, hpass⟩⟩
      rw [htrace, hl.trace, List.append_assoc, List.singleton_append]

/-- What a walk from the start of a run that gives a result has done: it visited a part of the
stops, and either all of them passed or the last one is a filter that did not. -/
structure Covers (engine : Engine) (now : Timestamp) (stops : List Stop) (event : Record)
    (result : RunResult) : Prop where
  traces : ∃ visited rest sent, stops = visited ++ rest ∧
    Traces engine now visited event [] result.trace result.record sent
  passed : ∀ entry ∈ result.trace.dropLast, ¬ entry.IsRefusal
  status : (result.status = .completed ∧ result.trace.length = stops.length ∧
      ∀ entry ∈ result.trace, ¬ entry.IsRefusal) ∨
    (result.status = .haltedByFilter ∧ ∃ entry ∈ result.trace.getLast?, entry.IsRefusal)

theorem Walked.covers {stops : List Stop} {event : Record} {outcome : Outcome} {result : RunResult}
    (h : Walked engine chain now cut stops ⟨event, [], .empty⟩ outcome)
    (hr : outcome.result = .ok result) : Covers engine now stops event result := by
  cases h with
  | completed hp =>
    cases hr
    obtain ⟨entries, htrace, ht, hpass⟩ := hp.traces
    rw [List.nil_append] at htrace
    subst htrace
    exact ⟨⟨stops, [], _, (List.append_nil _).symm, ht⟩,
      fun entry he => hpass entry (List.mem_of_mem_dropLast he), .inl ⟨rfl, ht.length_eq, hpass⟩⟩
  | @halted before rest stop mid s' hs hp hh =>
    cases hr
    obtain ⟨entries, htrace, ht, hpass⟩ := hp.traces
    rw [List.nil_append] at htrace
    have hvisit := visit_visited engine now cut stop.node mid
    rw [hh] at hvisit
    cases hvisit with
    | @stopped step entry _ hb hl hn =>
      have hall : s'.trace = entries ++ [entry] := by rw [hl.trace, htrace]
      refine ⟨⟨before ++ [stop], rest, s'.log.sent, by simp [hs], ?_⟩, ?_,
        .inr ⟨rfl, entry, ?_, hn⟩⟩
      · rw [hall]
        exact ht.snoc hb hl.did
      · rw [hall, List.dropLast_concat]
        exact hpass
      · simp only [hall, List.getLast?_append, List.getLast?_singleton, Option.some_or,
          Option.mem_some_iff]
  | failed => cases hr

/-! ## Results -/

/-- The result of a run: its entries are those of the first stops of the route in order, each
with what the step of its node does to the record that the entry before it leaves, and its status
says why it ended. -/
theorem execute_result {chain : Chain} {nodes : List Node} {event : Record} {result : RunResult}
    (h : (engine.execute chain nodes event now cut).result = .ok result) :
    ∃ route, Route.build chain nodes engine.policy.maxNodes = .ok route ∧
      (∀ stop ∈ route.stops, stop.node ∈ nodes ∧ Route.Names stop.id stop.node) ∧
      result.trace.map TraceEntry.node <+: route.stops.map (·.node.id) ∧
      (∃ visited rest sent, route.stops = visited ++ rest ∧
        Traces engine now visited event [] result.trace result.record sent) ∧
      (∀ entry ∈ result.trace.dropLast, ¬ entry.IsRefusal) ∧
      (result.status = .emptyChain ↔ nodes = []) ∧
      (nodes = [] → result.trace = [] ∧ result.record = event) ∧
      (result.status = .haltedByFilter ↔ ∃ entry ∈ result.trace.getLast?, entry.IsRefusal) ∧
      (result.status = .completed ↔ nodes ≠ [] ∧ result.trace.length = route.stops.length ∧
        ∀ entry ∈ result.trace, ¬ entry.IsRefusal) := by
  unfold execute at h
  cases hb : Route.build chain nodes engine.policy.maxNodes with
  | error failure => simp [hb] at h
  | ok route =>
  obtain ⟨hchain, hstops, hnil⟩ := Route.build_stops hb
  refine ⟨route, rfl, hstops, ?_⟩
  simp only [hb, run] at h
  split at h
  · cases h
  split at h
  · next hempty =>
    cases h
    have hs : route.stops = [] := by simpa [Route.isEmpty] using hempty
    have hnodes : nodes = [] := hnil.mp hs
    refine ⟨List.nil_prefix, ⟨[], [], [], hs, .nil⟩, by simp, by simp [hnodes], ?_, ?_, ?_⟩
    · exact fun _ => ⟨rfl, rfl⟩
    · simp
    · simp [hnodes]
  · next hempty =>
    have hnodes : nodes ≠ [] := by
      intro hnodes
      exact hempty (by simpa [Route.isEmpty] using hnil.mpr hnodes)
    obtain ⟨⟨visited, rest, sent, hstop, ht⟩, hpass, hstatus⟩ :=
      (walk_walked engine _ now cut route.stops _).covers h
    refine ⟨?_, ⟨visited, rest, sent, hstop, ht⟩, hpass, ?_, fun hnil => absurd hnil hnodes, ?_, ?_⟩
    · rw [ht.map_node, hstop, List.map_append]
      exact List.prefix_append _ _
    · rcases hstatus with ⟨hs, -⟩ | ⟨hs, -⟩ <;> simp [hs, hnodes]
    · rcases hstatus with ⟨hs, -, hall⟩ | ⟨hs, hlast⟩
      · refine iff_of_false (by simp [hs]) ?_
        rintro ⟨entry, he, href⟩
        exact hall entry (List.mem_of_getLast? he) href
      · exact iff_of_true hs hlast
    · rcases hstatus with ⟨hs, hlen, hall⟩ | ⟨hs, entry, he, href⟩
      · exact iff_of_true hs ⟨hnodes, hlen, hall⟩
      · refine iff_of_false (by simp [hs]) ?_
        rintro ⟨-, -, hall⟩
        exact hall entry (List.mem_of_getLast? he) href

/-- A transform before a node of a type that is not known. -/
theorem execute_result_completed :
    (execute ⟨.standard, ⟨none, none⟩, Condition.read⟩ (.named (.int 7) .null)
      [⟨.int 1, .null, .text "transform", .null, .object [("field", .text "level"),
        ("operation", .text "add"), ("operand", .int 3)], .int 2⟩, .bare (.int 2) .null]
      [("level", .int 12)] ⟨⟨2024, 6, 1, by decide⟩, .midnight, some .utc⟩ none).result =
      .ok ⟨.int 7, .completed, [.transform (.int 1) [("level", .int 12)] [("level", .int 15)],
        .unknown (.int 2) "None"], [("level", .int 15)]⟩ ∧
    ∃ route, Route.build (.named (.int 7) .null)
        [⟨.int 1, .null, .text "transform", .null, .object [("field", .text "level"),
          ("operation", .text "add"), ("operand", .int 3)], .int 2⟩, .bare (.int 2) .null]
        Policy.standard.maxNodes = .ok route ∧
      [Value.int 1, Value.int 2] <+: route.stops.map (·.node.id) := by
  have h : (execute ⟨.standard, ⟨none, none⟩, Condition.read⟩ (.named (.int 7) .null)
      [⟨.int 1, .null, .text "transform", .null, .object [("field", .text "level"),
        ("operation", .text "add"), ("operand", .int 3)], .int 2⟩, .bare (.int 2) .null]
      [("level", .int 12)] ⟨⟨2024, 6, 1, by decide⟩, .midnight, some .utc⟩ none).result =
      .ok ⟨.int 7, .completed, [.transform (.int 1) [("level", .int 12)] [("level", .int 15)],
        .unknown (.int 2) "None"], [("level", .int 15)]⟩ := by
    unfold execute Route.build Route.follow Route.follow
    rfl
  obtain ⟨route, hb, -, hprefix, -⟩ := execute_result h
  exact ⟨h, route, hb, hprefix⟩

end Engine

end EventChain
