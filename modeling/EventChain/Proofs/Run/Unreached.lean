import EventChain.Proofs.Route.Skeleton
import EventChain.Proofs.Run.Visit

/-!
# Nodes that a run does not reach

`Engine.visits` lists the stops of a run, the one where it ends included. Nodes are read when they
are visited, and only then: a run depends on the nodes it visits, and on the identifiers, chains and
links of all (`execute_eq_of_visits`).
-/

namespace EventChain

theorem Node.step_congr {a b : Node} {readFilter : Value → Except Failure Condition}
    (h : a.skeleton = b.skeleton) (ht : a.type = b.type) (hc : a.config = b.config) :
    a.step readFilter = b.step readFilter := by
  have hid : a.skeleton.id = b.skeleton.id := congrArg Node.id h
  rw [Route.skeleton_id, Route.skeleton_id] at hid
  unfold Node.step
  rw [hid, ht, hc]

namespace Engine

variable {engine : Engine} {now : Timestamp} {cut : Option Cut}

def reached (engine : Engine) (now : Timestamp) (cut : Option Cut) :
    List Stop → RunState → List Stop
  | [], _ => []
  | stop :: rest, s =>
    stop :: match engine.visit now cut stop.node s with
      | .goOn s => engine.reached now cut rest s
      | .halt _ | .fail _ _ => []

/-- The stops that a run visits: none where the chain is refused or cannot be shown. -/
def visits (engine : Engine) (chain : Chain) (nodes : List Node) (event : Record)
    (now : Timestamp) (cut : Option Cut) : List Stop :=
  match Route.build chain nodes engine.policy.maxNodes, chain.id.plain with
  | .ok route, .ok _ => engine.reached now cut route.stops ⟨event, [], .empty⟩
  | _, _ => []

/-- A run either ends before its first visit, whatever cuts it off later, or is a walk. -/
theorem execute_cases (engine : Engine) (chain : Chain) (nodes : List Node) (event : Record)
    (now : Timestamp) :
    (∃ result, ∀ cut,
      engine.execute chain nodes event now cut = ⟨result, .empty⟩ ∧
      engine.visits chain nodes event now cut = []) ∨
    ∃ stops, ∀ cut,
      engine.execute chain nodes event now cut =
        engine.walk chain.id now cut stops ⟨event, [], .empty⟩ ∧
      engine.visits chain nodes event now cut =
        engine.reached now cut stops ⟨event, [], .empty⟩ := by
  unfold execute visits
  cases hb : Route.build chain nodes engine.policy.maxNodes with
  | error failure => exact .inl ⟨.error failure, fun _ => ⟨rfl, rfl⟩⟩
  | ok route =>
    have hchain : route.chain = chain := (Route.build_stops hb).1
    simp only [run, hchain]
    cases hid : chain.id.plain with
    | error limit => exact .inl ⟨.error (.digitLimit limit), fun _ => ⟨rfl, rfl⟩⟩
    | ok text =>
      by_cases hempty : route.isEmpty
      · have hstops : route.stops = [] := List.isEmpty_iff.mp hempty
        refine .inl ⟨.ok ⟨chain.id, .emptyChain, [], event⟩, fun _ => ⟨if_pos hempty, ?_⟩⟩
        simp only [hstops, reached]
      · exact .inr ⟨route.stops, fun _ => ⟨if_neg hempty, rfl⟩⟩

/-- Walks along stops that are visited alike as far as the first walk gets are one: induction on the
stops, as the first visit of both leads to one state. -/
theorem walk_eq_of_reached {alike : Stop → Stop → Prop} {chain : Value} {stops others : List Stop}
    {s : RunState} (h : List.Forall₂ alike stops others)
    (hvisit : ∀ stop other, alike stop other → stop ∈ engine.reached now cut stops s →
      ∀ s, engine.visit now cut stop.node s = engine.visit now cut other.node s) :
    engine.walk chain now cut stops s = engine.walk chain now cut others s := by
  induction h generalizing s with
  | nil => rfl
  | @cons stop other rest rest' halike _ ih =>
    have hfirst := hvisit stop other halike List.mem_cons_self s
    unfold walk
    rw [← hfirst]
    unfold reached at hvisit
    cases hv : engine.visit now cut stop.node s with
    | goOn mid =>
      simp only [hv] at hvisit
      exact ih fun stop other ha hm => hvisit stop other ha (List.mem_cons_of_mem _ hm)
    | halt mid => rfl
    | fail failure log => rfl

/-- Two chains of the same links are refused alike, or run along the same places. -/
theorem execute_eq_of_walk {chain : Chain} {nodes others : List Node} {event : Record}
    (hlinks : nodes.map Node.skeleton = others.map Node.skeleton)
    (hwalk : ∀ visited text, chain.id.plain = .ok text →
      Route.build chain nodes engine.policy.maxNodes = .ok ⟨chain, Route.stopsAt nodes visited⟩ →
      engine.walk chain.id now cut (Route.stopsAt nodes visited) ⟨event, [], .empty⟩ =
        engine.walk chain.id now cut (Route.stopsAt others visited) ⟨event, [], .empty⟩) :
    engine.execute chain nodes event now cut = engine.execute chain others event now cut := by
  unfold execute
  rcases Route.build_of_skeleton hlinks with ⟨failure, hn, ho⟩ | ⟨visited, hn, ho⟩
  · rw [hn, ho]
  have hlength : nodes.length = others.length := by simpa using congrArg List.length hlinks
  rw [hn, ho]
  simp only [run]
  cases hid : chain.id.plain with
  | error limit => rfl
  | ok text =>
    have hempty : Route.isEmpty ⟨chain, Route.stopsAt nodes visited⟩ =
        Route.isEmpty ⟨chain, Route.stopsAt others visited⟩ := by
      rw [Route.isEmpty, Route.isEmpty, Bool.eq_iff_iff, List.isEmpty_iff, List.isEmpty_iff,
        ← List.length_eq_zero_iff, ← List.length_eq_zero_iff,
        (Route.forall₂_stopsAt hlength visited).length_eq]
    exact if_congr (by rw [hempty]) rfl (hwalk visited text hid hn)

/-- Nodes that a run does not visit have no influence on it but by their identifiers, chains and
links: two chains that have these in common, and the types and configs of the nodes that the run of
the first one visits, end in the same result or failure, with the same commands sent, in the same
time. -/
theorem execute_eq_of_visits {chain : Chain} {nodes others : List Node} {event : Record}
    (hlinks : nodes.map Node.skeleton = others.map Node.skeleton)
    (hsame : ∀ node other, (node, other) ∈ nodes.zip others →
      node ∈ (engine.visits chain nodes event now cut).map Stop.node →
      node.type = other.type ∧ node.config = other.config) :
    engine.execute chain nodes event now cut = engine.execute chain others event now cut := by
  refine execute_eq_of_walk hlinks fun visited text hid hbuild => ?_
  have hlength : nodes.length = others.length := by simpa using congrArg List.length hlinks
  have hstops := Route.forall₂_stopsAt hlength visited
  simp only [visits, hbuild, hid] at hsame
  refine walk_eq_of_reached hstops fun stop other hz hm s => ?_
  obtain ⟨ht, hc⟩ := hsame _ _ hz (List.mem_map_of_mem hm)
  have hstep : stop.node.step engine.readFilter = other.node.step engine.readFilter :=
    Node.step_congr (Route.skeleton_eq_of_mem_zip hlinks hz) ht hc
  rw [visit, visit, hstep]

/-- A filter halts before a node of an unknown type, and before an action that cannot be read. -/
theorem execute_eq_of_visits_halted :
    let chain : Chain := .named (.int 7) .null
    let head : Node := ⟨.int 1, .null, .text "filter", .null, .object [("field", .text "level"),
      ("operator", .text ">"), ("value", .int 20)], .int 2⟩
    let broken : Node := ⟨.int 2, .null, .text "action", .null, .int 3, .null⟩
    let engine : Engine := ⟨.standard, ⟨none, none⟩, Condition.read⟩
    let now : Timestamp := ⟨⟨2024, 6, 1, by decide⟩, .midnight, some .utc⟩
    (∃ failure, broken.step Condition.read = .error failure) ∧
      engine.visits chain [head, .bare (.int 2) .null] [("level", .int 12)] now none =
        [⟨.int 1, head⟩] ∧
      engine.execute chain [head, .bare (.int 2) .null] [("level", .int 12)] now none =
        engine.execute chain [head, broken] [("level", .int 12)] now none := by
  intro chain head broken engine now
  have hhead : head.step engine.readFilter =
      .ok (.filter (.int 1) (.leaf ⟨"level", .greater, .int 20, "", none⟩)) := by
    refine (Node.Becomes.filter rfl ?_).step_eq
    change Condition.readAt "" head.config = _
    rw [Condition.readAt]
    rfl
  have hroute : Route.build chain [head, .bare (.int 2) .null] engine.policy.maxNodes =
      .ok ⟨chain, [⟨.int 1, head⟩, ⟨.int 2, .bare (.int 2) .null⟩]⟩ := by
    unfold Route.build Route.follow Route.follow
    rfl
  have hvisits : engine.visits chain [head, .bare (.int 2) .null] [("level", .int 12)] now none =
      [⟨.int 1, head⟩] := by
    simp only [visits, hroute]
    change engine.reached now none [⟨.int 1, head⟩, ⟨.int 2, .bare (.int 2) .null⟩] _ = _
    simp only [reached, visit, hhead]
    rfl
  refine ⟨⟨_, rfl⟩, hvisits, execute_eq_of_visits rfl fun node other hz hm => ?_⟩
  rw [hvisits] at hm
  cases List.mem_singleton.mp hm
  rcases List.mem_cons.mp hz with hz | hz
  · cases hz
    exact ⟨rfl, rfl⟩
  · cases List.mem_singleton.mp hz

end Engine

end EventChain
