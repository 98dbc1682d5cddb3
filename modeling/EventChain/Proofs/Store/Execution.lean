import EventChain.Proofs.Deadline
import EventChain.Proofs.Json.RoundTrip
import EventChain.Proofs.Run.Configs
import EventChain.Proofs.Store.Snapshot

/-!
# Runs of stored chains

A stored chain runs as its nodes would with the configs that they were drafted with: what is stored
of a config decodes to it (`decode_storedConfig`), and nodes are read from a store in the order of
their identifiers, with the links that they have by now.
-/

namespace EventChain

/-- The config of a node is given as a text, whatever it says, or as a value that JSON can hold. -/
def NodeDraft.HoldsJson (draft : NodeDraft) : Prop :=
  draft.config.kind = .string ∨ draft.config.IsJson

instance (draft : NodeDraft) : Decidable draft.HoldsJson :=
  inferInstanceAs (Decidable (draft.config.kind = .string ∨ draft.config.IsJson))

/-- The node that a draft asks for under an identifier and with a link, its config as it was
given. -/
def NodeDraft.node (draft : NodeDraft) (id : Int) (next : Option Int) : Node where
  id := .int id
  chain := .ofInt? draft.chain
  type := .ofText? draft.type
  name := .ofText? draft.name
  config := draft.config
  next := .ofInt? next

/-! ## Nodes -/

theorem Config.decode_text {v : Value} {text : String} (h : Json.write v = .ok text)
    (hv : v.IsJson) : decode (.text text) = .ok v := by
  have hread := Json.parseText_write h hv
  show ofJson (Json.parseText (some DigitLimit.most) text.toList) = .ok v
  rw [hread]
  rfl

/-- What is stored of a config decodes to what the config decodes to. -/
theorem Store.decode_storedConfig {draft : NodeDraft} {config : Option String}
    (h : storedConfig draft.config = .ok config) (hjson : draft.HoldsJson) :
    Config.decode (.ofText? config) = Config.decode draft.config := by
  obtain ⟨chain, name, type, v, next⟩ := draft
  cases v with
  | null =>
    cases h
    rfl
  | text s =>
    cases h
    rfl
  | boolean _ | number _ | array _ | object _ =>
    have hv := hjson.resolve_left nofun
    unfold storedConfig at h
    dsimp only at h
    split at h
    · next text htext =>
      cases h
      exact Config.decode_text htext hv
    · cases h
  | timestamp _ | bytes _ | foreign _ => exact (hjson.resolve_left nofun).elim

theorem NodeDraft.Makes.alike {draft : NodeDraft} {row : NodeRow} (h : draft.Makes row)
    (hjson : draft.HoldsJson) : row.node.Alike (draft.node row.id row.next) := by
  constructor
  case skeleton =>
    unfold NodeRow.node NodeDraft.node Node.skeleton
    rw [← h.chain]
    rfl
  case type =>
    unfold NodeRow.node NodeDraft.node
    rw [← h.type]
    rfl
  case config => exact Store.decode_storedConfig h.config hjson

/-! ## The service -/

namespace Service

variable {service : Service} {stored : StoredChain} {timeout : Timeout}

theorem run_of_unlimited (hoff : Timeout.span? (timeout.or service.timeout) = .ok none)
    (hload : stored.loading = 0) (event : Record) (now : Timestamp) :
    service.run stored event timeout now none =
      service.engine.execute stored.chain stored.nodes event now none := by
  obtain ⟨inner, hinner, hspan, -⟩ :
      ∃ d, deadline? stored.chain (timeout.or service.timeout) = .ok d ∧ _ :=
    Deadline.ofTimeout?_eq_ok hoff
  obtain rfl : inner = none := Option.map_eq_none_iff.mp hspan
  unfold run
  rw [hinner]
  simp only [hload, zero_add]
  rfl

end Service

namespace Store

theorem agrees_int {m n : Int} : (Value.int m).agrees (.int n) = true ↔ m = n := by
  have hkey (k : Int) : (Value.int k).IsKey := trivial
  rw [(hkey m).agrees_iff (hkey n)]
  exact ⟨fun h => by cases h; rfl, congrArg Value.int⟩

theorem find?_service {s : Store} {row : ChainRow} (hids : (s.chains.map (·.id)).Pairwise (· < ·))
    (hrow : row ∈ s.chains) (engine : Engine) (usual : Timeout) :
    Service.find? { s.service engine with timeout := usual } (.int row.id) =
      some ⟨row.chain, (s.nodesOf row.id).map NodeRow.node, 0⟩ := by
  have hfind : s.chains.find? (·.id = row.id) = some row := find?_id_eq hids hrow
  have hsame : ((fun stored : StoredChain => stored.chain.id.agrees (.int row.id)) ∘
      fun row : ChainRow => ⟨row.chain, (s.nodesOf row.id).map NodeRow.node, 0⟩) =
        fun other : ChainRow => decide (other.id = row.id) :=
    funext fun other => Bool.eq_iff_iff.mpr (agrees_int.trans decide_eq_true_iff.symm)
  unfold Service.find? Store.service
  rw [List.find?_map, hsame, hfind]
  rfl

/-- A chain that exists after any calls runs from the store, no deadline being set, as it runs with
the nodes that were drafted for it since its last deletion: in the order of their identifiers, each
with the config that it was given and with its last link. -/
theorem execute_play {engine : Engine} (hread : engine.readFilter = Condition.read)
    (calls : List Call) {usual timeout : Timeout}
    (hoff : Timeout.span? (timeout.or usual) = .ok none) (event : Record) (now : Timestamp) :
    let played := empty.play calls
    let service : Service := { played.1.service engine with timeout := usual }
    ∀ p ∈ played.2.chains,
      let nodes := played.2.nodes p.2.id
      (∀ q ∈ nodes, q.1.HoldsJson) →
        (nodes.map (·.2.id)).Pairwise (· < ·) ∧
        service.execute (.int p.2.id) event timeout now none =
          engine.execute p.2.chain (nodes.map fun q => q.1.node q.2.id q.2.next) event now
            none := by
  intro played service p hp nodes hjson
  obtain ⟨hchains, hnodes⟩ : played.2.Reflects played.1 := reflects_play calls
  refine ⟨(reflects_play calls).tells.ascending p.2.id, ?_⟩
  have hrow : p.2 ∈ played.1.chains := hchains.stored ▸ List.mem_map_of_mem hp
  have halike : List.Forall₂ Node.Alike ((played.1.nodesOf p.2.id).map NodeRow.node)
      (nodes.map fun q => q.1.node q.2.id q.2.next) := by
    rw [nodesOf, hnodes.stored, List.map_map, List.forall₂_map_left_iff, List.forall₂_map_right_iff,
      List.forall₂_same]
    exact fun q hq => (hnodes.made p.2.id q hq).alike (hjson q hq)
  unfold Service.execute
  rw [find?_service hchains.ids hrow engine usual]
  refine (Service.run_of_unlimited hoff rfl event now).trans ?_
  exact Engine.execute_eq_of_alike hread halike event

/-- An action that is created first, and a filter that is linked to it later: the run visits the
filter first. -/
theorem execute_play_linked :
    let cool : Value := .object [("command", .text "cool")]
    let hot : Value :=
      .object [("field", .text "level"), ("operator", .text ">"), ("value", .int 20)]
    let calls : List Call := [
      .createChain { ChainDraft.standard with name := some "cooling" },
      .createNode ⟨some 1, some "cool", some "action", cool, none⟩,
      .createNode ⟨some 1, some "hot", some "filter", hot, none⟩,
      .link 2 (some 1)]
    let engine : Engine := ⟨.standard, ⟨none, none⟩, Condition.read⟩
    let service := (empty.play calls).1.service engine
    let chain : Chain := ⟨.int 1, .text "cooling", .null, .boolean true, .int 0,
      ⟨.int 1, .number (.float .zero)⟩, .null⟩
    let nodes : List Node := [
      ⟨.int 1, .int 1, .text "action", .text "cool", cool, .null⟩,
      ⟨.int 2, .int 1, .text "filter", .text "hot", hot, .int 1⟩]
    let event : Record := [("level", .int 25)]
    let now : Timestamp := ⟨⟨2024, 6, 1, by decide⟩, .midnight, some .utc⟩
    service.execute (.int 1) event (some (.int 0)) now none =
        engine.execute chain nodes event now none ∧
      (engine.execute chain nodes event now none).result.toOption.map
          (·.trace.map TraceEntry.node) = some [.int 2, .int 1] := by
  intro cool hot calls engine service chain nodes event now
  have hoff : Timeout.span? (Option.or (some (.int 0)) service.timeout) = .ok none :=
    Timeout.span?_of_nonpos le_rfl
  have hchain : ({ ChainDraft.standard with name := some "cooling" },
      ⟨1, none, "cooling", none, true, 0, 1, .zero⟩) ∈ (empty.play calls).2.chains :=
    List.mem_singleton_self _
  have hjson : ∀ q ∈ (empty.play calls).2.nodes 1, q.1.HoldsJson := by decide
  have hread : engine.readFilter = Condition.read := rfl
  obtain ⟨-, hsame⟩ := execute_play hread calls hoff event now _ hchain hjson
  refine ⟨hsame, ?_⟩
  let first : Node := ⟨.int 2, .int 1, .text "filter", .text "hot", hot, .int 1⟩
  let second : Node := ⟨.int 1, .int 1, .text "action", .text "cool", cool, .null⟩
  have hfirst : first.step engine.readFilter =
      .ok (.filter (.int 2) (.leaf ⟨"level", .greater, .int 20, "", none⟩)) := by
    refine (Node.Becomes.filter rfl ?_).step_eq
    change Condition.readAt "" hot = _
    rw [Condition.readAt]
    rfl
  have hroute : Route.build chain nodes engine.policy.maxNodes =
      .ok ⟨chain, [⟨.int 2, first⟩, ⟨.int 1, second⟩]⟩ := by
    unfold Route.build Route.follow Route.follow
    rfl
  rw [Engine.execute_eq_walk hroute (List.cons_ne_nil _ _) rfl event]
  simp only [Engine.walk, Engine.visit, hfirst]
  rfl

end Store

end EventChain
