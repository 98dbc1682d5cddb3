import EventChain.Proofs.Run.Unreached

/-!
# The form of configs

A config is a value, or a text that holds it as JSON. Nodes whose configs decode alike are visited
alike, and chains of such nodes run alike (`execute_eq_of_alike`).
-/

namespace EventChain

section
variable {a b : Value} (h : Config.decode a = Config.decode b)

include h

theorem Condition.read_congr : Condition.read a = Condition.read b := by
  unfold Condition.read
  rw [h]

theorem Transform.read_congr : Transform.read a = Transform.read b := by
  unfold Transform.read
  rw [h]

theorem Action.read_congr : Action.read a = Action.read b := by
  unfold Action.read
  rw [h]

end

/-- Two nodes that differ at most in their names and in the form of their configs. -/
structure Node.Alike (a b : Node) : Prop where
  skeleton : a.skeleton = b.skeleton
  type : a.type = b.type
  config : Config.decode a.config = Config.decode b.config

theorem Node.Alike.id {a b : Node} (h : a.Alike b) : a.id = b.id := by
  rw [← Route.skeleton_id, h.skeleton, Route.skeleton_id]

/-- Nodes that are alike are read as one step, or as two of the same unknown type. -/
theorem Node.Alike.step {a b : Node} (h : a.Alike b) :
    a.step Condition.read = b.step Condition.read ∨ ∃ type,
      a.step Condition.read = .ok (.unknown b.id type a.config) ∧
        b.step Condition.read = .ok (.unknown b.id type b.config) := by
  unfold Node.step
  rw [h.id, h.type, Condition.read_congr h.config, Transform.read_congr h.config,
    Action.read_congr h.config]
  generalize b.type = type
  split
  · exact .inl rfl
  · exact .inl rfl
  · exact .inl rfl
  · cases limited type.plain with
    | error failure => exact .inl rfl
    | ok shown => exact .inr ⟨shown, rfl, rfl⟩

namespace Engine

variable {engine : Engine} {now : Timestamp} {cut : Option Cut}

/-- A visit does not look at the config of a step of an unknown type. -/
theorem visit_eq_of_alike (hread : engine.readFilter = Condition.read) {a b : Node} (h : a.Alike b)
    (s : RunState) : engine.visit now cut a s = engine.visit now cut b s := by
  unfold visit
  rw [hread]
  rcases h.step with hsame | ⟨type, ha, hb⟩
  · rw [hsame]
  · rw [ha, hb]
    rfl

/-- Chains of nodes that are alike one by one end in the same result or failure, with the same
commands sent, in the same time. -/
theorem execute_eq_of_alike (hread : engine.readFilter = Condition.read) {chain : Chain}
    {nodes others : List Node} (h : List.Forall₂ Node.Alike nodes others) (event : Record) :
    engine.execute chain nodes event now cut = engine.execute chain others event now cut := by
  obtain ⟨hlength, halike⟩ := List.forall₂_iff_zip.mp h
  have hlinks : nodes.map Node.skeleton = others.map Node.skeleton := by
    rw [← List.forall₂_eq_eq_eq, List.forall₂_map_left_iff, List.forall₂_map_right_iff]
    exact h.imp fun _ _ hab => hab.skeleton
  refine execute_eq_of_walk hlinks fun visited _ _ _ => ?_
  have hstops := Route.forall₂_stopsAt hlength visited
  exact walk_eq_of_reached hstops fun stop other hz _ => visit_eq_of_alike hread (halike hz)

end Engine

end EventChain
