import EventChain.Proofs.Condition.WellFormed
import EventChain.Proofs.Device.Dispatch
import EventChain.Proofs.Run.Trace
import EventChain.Proofs.Transform

/-!
# Validated routes

Validation reads the nodes of a route without running it. A step that was read ends in no config
error but that of an unknown operation where transforms are strict (`Breaks.strict`), so config
errors of other runs come from nodes that cannot be read: `validate_exact` says that validation
finds the first of them, with the error that every run that gets there ends in.
-/

namespace EventChain

/-! ## Validation -/

namespace Route

variable {readFilter : Value → Except Failure Condition}

theorem validate_eq_ok {route : Route} (h : route.validate readFilter = .ok ()) :
    ∀ stop ∈ route.stops, ∃ step, stop.node.step readFilter = .ok step := by
  obtain ⟨chain, stops⟩ := route
  induction stops with
  | nil => simp
  | cons stop rest ih =>
    obtain ⟨_, hs, h⟩ := bind_eq_ok.mp h
    obtain ⟨step, hs, -⟩ := bind_eq_ok.mp hs
    exact List.forall_mem_cons.mpr ⟨⟨step, hs⟩, ih h⟩

theorem validate_eq_error {route : Route} {failure : Failure}
    (h : route.validate readFilter = .error failure) :
    ∃ before stop rest, route.stops = before ++ stop :: rest ∧
      (∀ other ∈ before, ∃ step, other.node.step readFilter = .ok step) ∧
      stop.node.step readFilter = .error failure := by
  obtain ⟨chain, stops⟩ := route
  induction stops with
  | nil => cases h
  | cons stop rest ih =>
    rcases bind_eq_error.mp h with h | ⟨_, hs, h⟩
    · rcases bind_eq_error.mp h with h | ⟨step, -, h⟩
      · exact ⟨[], stop, rest, rfl, by simp, h⟩
      · cases h
    · obtain ⟨before, found, after, hs', hok, herr⟩ := ih h
      obtain ⟨step, hs, -⟩ := bind_eq_ok.mp hs
      exact ⟨stop :: before, found, after, congrArg (stop :: ·) hs',
        List.forall_mem_cons.mpr ⟨⟨step, hs⟩, hok⟩, herr⟩

end Route

theorem Node.node_of_step_eq_config {readFilter : Value → Except Failure Condition} {node : Node}
    {e : ConfigError} (h : node.step readFilter = .error (.config e)) : e.node = node.id := by
  have hattr {x : Except Failure Step} (h : attributed node.id x = .error (.config e)) :
      e.node = node.id := by
    obtain ⟨inner, -, heq⟩ := attributed_eq_error.mp h
    obtain ⟨e₀, -, rfl⟩ := Failure.attribute_eq_config heq.symm
    rfl
  unfold Node.step at h
  split at h
  · exact hattr h
  · exact hattr h
  · exact hattr h
  · rcases bind_eq_error.mp h with h | ⟨_, -, h⟩
    · exact absurd ⟨e, rfl⟩ (configFree_limited _ _ h)
    · cases h

def ConfigError.IsUnknownOperation (e : ConfigError) : Prop :=
  (∃ name, e.fault = .unknownOperation name) ∧ e.path = some "operation"

namespace Engine

variable {engine : Engine} {now : Timestamp}

/-! ## Steps that were read -/

/-- A step that was read ends in a config error only where transforms are strict, and then in
that of an unknown operation. -/
theorem Breaks.strict {node : Node} {step : Step} {s : RunState} {failure : Failure}
    {e : ConfigError} (hb : node.Becomes Condition.read step)
    (h : Breaks engine now none s step failure) (hf : failure = .config e) :
    engine.policy.strictTransforms = true ∧ e.IsUnknownOperation := by
  cases h with
  | filter hc =>
    obtain ⟨inner, rfl, -⟩ := Failure.attribute_eq_config hf
    cases hb with
    | filter _ hread =>
      exact absurd ⟨inner, rfl⟩ ((Condition.read_wellFormed hread).holds _ hc)
  | transform ht =>
    obtain ⟨inner, rfl, rfl⟩ := Failure.attribute_eq_config hf
    cases hb with
    | transform _ hread =>
      obtain ⟨hstrict, hfault, hpath⟩ := (Transform.read_wellFormed hread).apply_eq_config ht
      exact ⟨hstrict, ⟨_, hfault⟩, hpath⟩
  | report => cases hf
  | action hp =>
    subst hf
    exact absurd ⟨e, rfl⟩ (Dispatcher.configFree_perform _ hp)
  | deadline hcut => cases hcut

theorem visit_strict (hread : engine.readFilter = Condition.read) {node : Node} {s : RunState}
    {e : ConfigError} {log : Log} (hok : ∃ step, node.step Condition.read = .ok step)
    (h : engine.visit now none node s = .fail (.config e) log) :
    engine.policy.strictTransforms = true ∧ e.IsUnknownOperation := by
  have hv := visit_visited engine now none node s
  rw [h] at hv
  generalize hf : Failure.config e = failure at hv
  cases hv with
  | unread hstep =>
    obtain ⟨step, hok⟩ := hok
    rw [hread, hok] at hstep
    cases hstep
  | broke hb hbreak => exact hbreak.strict (hread ▸ hb) hf.symm
  | unreported => cases hf

/-! ## Runs that get to a stop -/

/-- A run of a route passes the first stops. -/
structure Reaches (engine : Engine) (route : Route) (event : Record) (now : Timestamp)
    (before : List Stop) (s : RunState) : Prop where
  shown : ∃ text, route.chain.id.plain = .ok text
  passes : Passes engine now none before ⟨event, [], .empty⟩ s

theorem Passes.walk_append {before rest : List Stop} {s s' : RunState} {chain : Value}
    {cut : Option Cut} (h : Passes engine now cut before s s') :
    engine.walk chain now cut (before ++ rest) s = engine.walk chain now cut rest s' := by
  induction h with
  | nil => rfl
  | cons hv _ ih => rw [List.cons_append, walk, hv, ← ih]

theorem run_eq_error {route : Route} {event : Record} {failure : Failure}
    (h : (engine.run route event now none).result = .error failure) :
    (∃ limit, failure = .digitLimit limit) ∨
      ∃ before stop rest s log, route.stops = before ++ stop :: rest ∧
        Reaches engine route event now before s ∧
        engine.visit now none stop.node s = .fail failure log := by
  unfold run at h
  split at h
  · next limit _ => exact .inl ⟨limit, (Except.error.inj h).symm⟩
  · next text htext =>
    split at h
    · cases h
    · have hw := walk_walked engine route.chain.id now none route.stops
        ⟨event, [], .empty⟩
      generalize engine.walk route.chain.id now none route.stops ⟨event, [], .empty⟩ = outcome
        at h hw
      cases hw with
      | completed => cases h
      | halted => cases h
      | failed before hs hp hv =>
        cases h
        exact .inr ⟨_, _, _, _, _, hs, ⟨⟨text, htext⟩, hp⟩, hv⟩

theorem Reaches.run_eq_error {route : Route} {event : Record} {before rest : List Stop}
    {stop : Stop} {s : RunState} {failure : Failure} {log : Log}
    (h : Reaches engine route event now before s) (hs : route.stops = before ++ stop :: rest)
    (hv : engine.visit now none stop.node s = .fail failure log) :
    (engine.run route event now none).result = .error failure := by
  obtain ⟨text, htext⟩ := h.shown
  have hne : ¬ route.isEmpty = true := by simp [Route.isEmpty, hs]
  simp only [run, htext]
  rw [if_neg hne, hs, h.passes.walk_append, walk, hv]

/-! ## Validation and runs -/

/-- Validation is sound and exact. Where it finds nothing, no run ends in a config error but for
an unknown operation under strict transforms. Where it fails with a config error at a stop, no
run that is not strict ends in one before that stop, and every such run that gets there ends in
this very error. -/
theorem validate_exact (route : Route) :
    (route.validate Condition.read = .ok () → ∀ policy dispatcher event now e,
      (run ⟨policy, dispatcher, Condition.read⟩ route event now none).result =
          .error (.config e) →
        policy.strictTransforms = true ∧ e.IsUnknownOperation) ∧
    ∀ e, route.validate Condition.read = .error (.config e) →
      ∃ before stop rest, route.stops = before ++ stop :: rest ∧
        (∀ other ∈ before, ∃ step, other.node.step Condition.read = .ok step) ∧
        stop.node.step Condition.read = .error (.config e) ∧ e.node = stop.node.id ∧
        ∀ policy dispatcher event now, policy.strictTransforms = false →
          (∀ earlier other later s e' log, before = earlier ++ other :: later →
            Reaches ⟨policy, dispatcher, Condition.read⟩ route event now earlier s →
            visit ⟨policy, dispatcher, Condition.read⟩ now none other.node s ≠
              .fail (.config e') log) ∧
          ∀ s, Reaches ⟨policy, dispatcher, Condition.read⟩ route event now before s →
            (run ⟨policy, dispatcher, Condition.read⟩ route event now none).result =
              .error (.config e) := by
  constructor
  · intro hv policy dispatcher event now e hr
    have hok := Route.validate_eq_ok hv
    rcases run_eq_error hr with ⟨limit, hlimit⟩ | ⟨before, stop, rest, s, log, hs, -, hvisit⟩
    · cases hlimit
    · exact visit_strict rfl (hok stop (by simp [hs])) hvisit
  · intro e hv
    obtain ⟨before, stop, rest, hs, hok, herr⟩ := Route.validate_eq_error hv
    refine ⟨before, stop, rest, hs, hok, herr, Node.node_of_step_eq_config herr, ?_⟩
    intro policy dispatcher event now hlax
    constructor
    · intro earlier other later s e' log hb _ hvisit
      obtain ⟨hstrict, -⟩ := visit_strict rfl (hok other (by simp [hb])) hvisit
      exact Bool.false_ne_true (hlax.symm.trans hstrict)
    · intro s hreach
      have hvisit : visit ⟨policy, dispatcher, Condition.read⟩ now none stop.node s =
          .fail (.config e) s.log := by
        rw [visit, herr]
      exact hreach.run_eq_error hs hvisit

/-- A division by zero, found without a run and by a run alike. -/
theorem validate_exact_division :
    Route.validate Condition.read ⟨.named (.int 7) .null, [⟨.int 1, .int 1, .null,
      .text "transform", .null, .object [("field", .text "level"), ("operation", .text "divide"),
        ("operand", .int 0)], .null⟩]⟩ =
      .error (.config ⟨.divisionByZero, .int 1, some "operand", none⟩) ∧
    (run ⟨.standard, ⟨none, none⟩, Condition.read⟩ ⟨.named (.int 7) .null, [⟨.int 1, .int 1, .null,
      .text "transform", .null, .object [("field", .text "level"), ("operation", .text "divide"),
        ("operand", .int 0)], .null⟩]⟩
      [("level", .int 12)] ⟨⟨2024, 6, 1, by decide⟩, .midnight, some .utc⟩ none).result =
      .error (.config ⟨.divisionByZero, .int 1, some "operand", none⟩) := by
  have hv : Route.validate Condition.read ⟨.named (.int 7) .null, [⟨.int 1, .int 1, .null,
      .text "transform", .null, .object [("field", .text "level"), ("operation", .text "divide"),
        ("operand", .int 0)], .null⟩]⟩ =
      .error (.config ⟨.divisionByZero, .int 1, some "operand", none⟩) := by
    rfl
  obtain ⟨before, stop, rest, hs, -, -, -, hruns⟩ := (validate_exact _).2 _ hv
  have hbefore : before = [] := by
    cases before with
    | nil => rfl
    | cons first others => simp at hs
  subst hbefore
  refine ⟨hv, (hruns .standard ⟨none, none⟩ [("level", .int 12)] _ rfl).2 _ ⟨?_, .nil⟩⟩
  exact ⟨"7", rfl⟩

end Engine

end EventChain
