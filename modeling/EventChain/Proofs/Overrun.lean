import EventChain.Proofs.Condition.WellFormed
import EventChain.Proofs.Route.Marks
import EventChain.Proofs.Run.Visit

/-!
# Failures other than overruns

An overrun is the failure that a deadline gives to the run it cuts off, and nothing else of the
engine ends in one: neither reading a node nor doing its step, and building a route no more than a
report. `OverrunFree` says so of a computation; the lemmas follow the functions of the engine, one
for each that can fail.
-/

namespace EventChain

section
variable {α β : Type}

/-- The failure is not that of a run that a deadline cut off. -/
def Failure.NoOverrun (failure : Failure) : Prop := ∀ o, failure ≠ .overrun o

def OverrunFree (x : Except Failure α) : Prop := FailsWith Failure.NoOverrun x

theorem Failure.noOverrun_digitLimit (limit : DigitLimit) : (digitLimit limit).NoOverrun := nofun

theorem Failure.noOverrun_interrupted (name : String) (detail : Value) :
    (interrupted name detail).NoOverrun :=
  nofun

theorem Failure.noOverrun_endless : endless.NoOverrun := nofun

theorem Failure.noOverrun_ofConfig (e : ConfigError) : (ofConfig e).NoOverrun := by
  unfold ofConfig
  split <;> exact nofun

theorem overrunFree_pure (a : α) : OverrunFree (pure a) := failsWith_pure a

theorem overrunFree_throw {failure : Failure} (h : failure.NoOverrun) :
    OverrunFree (throw failure : Except Failure α) :=
  failsWith_throw h

theorem overrunFree_limited (x : Except DigitLimit α) : OverrunFree (limited x) :=
  failsWith_limited Failure.noOverrun_digitLimit x

theorem overrunFree_refuse (fault : ConfigFault) (path : Option String) :
    OverrunFree (refuse fault path : Except Failure α) :=
  overrunFree_throw (Failure.noOverrun_ofConfig _)

theorem OverrunFree.bind {x : Except Failure α} {f : α → Except Failure β} (hx : OverrunFree x)
    (hf : ∀ a, OverrunFree (f a)) : OverrunFree (x >>= f) :=
  FailsWith.bind hx fun a _ => hf a

theorem overrunFree_limited_bind {x : Except DigitLimit α} {f : α → Except Failure β}
    (hf : ∀ a, OverrunFree (f a)) : OverrunFree (limited x >>= f) :=
  (overrunFree_limited x).bind hf

theorem Failure.NoOverrun.attribute {node : Value} {failure : Failure} (h : failure.NoOverrun) :
    (failure.attribute node).NoOverrun := by
  cases failure with
  | config e => exact noOverrun_ofConfig _
  | overrun o => exact absurd rfl (h o)
  | _ => exact nofun

theorem OverrunFree.attributed {node : Value} {x : Except Failure α} (hx : OverrunFree x) :
    OverrunFree (attributed node x) := by
  intro failure h
  obtain ⟨inner, hinner, rfl⟩ := attributed_eq_error.mp h
  exact (hx inner hinner).attribute

end

/-! ## Reading -/

theorem Config.overrunFree_ofJson {α : Type} (x : Except Json.Fault α) :
    OverrunFree (ofJson x) := by
  unfold ofJson
  split
  · exact overrunFree_pure _
  · exact overrunFree_throw nofun
  · exact overrunFree_refuse _ _

theorem Config.overrunFree_decode (config : Value) : OverrunFree (decode config) := by
  unfold decode
  split
  · exact overrunFree_pure _
  · exact overrunFree_ofJson _
  · split
    · exact overrunFree_ofJson _
    · exact overrunFree_throw nofun
  · exact overrunFree_pure _

namespace Condition

theorem overrunFree_readPattern (found : Value) (source path : String) :
    OverrunFree (readPattern found source path) := by
  unfold readPattern
  split
  · exact overrunFree_pure _
  · exact overrunFree_refuse _ _
  · exact overrunFree_throw nofun
  · exact overrunFree_throw nofun
  · exact overrunFree_throw nofun

theorem overrunFree_readOperand (op : Operator) (v : Value) (path : String) :
    OverrunFree (readOperand op v path) := by
  unfold readOperand
  cases op.shape <;> dsimp only
  case unary => exact overrunFree_pure _
  case any => exact overrunFree_pure _
  case array =>
    split
    · exact overrunFree_pure _
    · exact overrunFree_refuse _ _
  case bounds =>
    split
    · split
      · exact overrunFree_pure _
      · exact overrunFree_refuse _ _
    · exact overrunFree_refuse _ _
  case duration =>
    split
    · split
      · exact overrunFree_refuse _ _
      · exact overrunFree_pure _
    · exact overrunFree_refuse _ _
  case pattern =>
    split
    · exact (overrunFree_readPattern _ _ _).bind fun _ => overrunFree_pure _
    · exact overrunFree_refuse _ _

theorem overrunFree_readLeaf (r : Record) (path : String) : OverrunFree (readLeaf r path) := by
  unfold readLeaf
  dsimp only
  split
  · exact overrunFree_refuse _ _
  split
  · split
    · exact overrunFree_refuse _ _
    split
    · exact overrunFree_pure _
    split
    · exact overrunFree_refuse _ _
    · exact (overrunFree_readOperand _ _ _).bind fun _ => overrunFree_pure _
  · exact overrunFree_refuse _ _

mutual

theorem overrunFree_readAt (path : String) (v : Value) : OverrunFree (readAt path v) := by
  match v with
  | .object r =>
    rw [readAt]
    split
    · split
      · exact overrunFree_refuse _ _
      split
      · next first rest hget =>
        have := Record.sizeOf_get?_lt hget
        exact (overrunFree_readParts path 0 (first :: rest)).bind fun _ => overrunFree_pure _
      · exact overrunFree_refuse _ _
    · exact (overrunFree_readLeaf r path).bind fun _ => overrunFree_pure _
  | .null | .boolean _ | .number _ | .text _ | .array _ | .timestamp _ | .bytes _ | .foreign _ =>
    simp only [readAt]
    exact overrunFree_refuse _ _
termination_by sizeOf v
decreasing_by
  simp only [Value.array.sizeOf_spec, Value.object.sizeOf_spec, List.cons.sizeOf_spec] at *
  omega

theorem overrunFree_readParts (path : String) (i : Nat) (items : List Value) :
    OverrunFree (readParts path i items) := by
  unfold readParts
  split
  · exact overrunFree_pure _
  next first rest =>
  refine (overrunFree_readAt _ first).bind fun _ => ?_
  exact (overrunFree_readParts path (i + 1) rest).bind fun _ => overrunFree_pure _
termination_by sizeOf items

end

theorem overrunFree_read (config : Value) : OverrunFree (read config) :=
  (Config.overrunFree_decode config).bind fun _ => overrunFree_readAt _ _

end Condition

theorem Transform.overrunFree_read (config : Value) : OverrunFree (read config) := by
  refine (Config.overrunFree_decode config).bind fun v => ?_
  split
  · split
    · exact overrunFree_refuse _ _
    split
    · dsimp only
      split
      · exact overrunFree_refuse _ _
      split
      · exact overrunFree_refuse _ _
      · exact overrunFree_pure _
    · exact overrunFree_refuse _ _
  · exact overrunFree_refuse _ _

theorem Action.overrunFree_read (config : Value) : OverrunFree (read config) := by
  refine (Config.overrunFree_decode config).bind fun v => ?_
  split
  · exact overrunFree_limited_bind fun _ => overrunFree_pure _
  · exact overrunFree_refuse _ _

theorem Node.overrunFree_step {readFilter : Value → Except Failure Condition}
    (hread : ∀ config, OverrunFree (readFilter config)) (node : Node) :
    OverrunFree (node.step readFilter) := by
  unfold step
  split
  · exact ((hread _).bind fun _ => overrunFree_pure _).attributed
  · exact ((Transform.overrunFree_read _).bind fun _ => overrunFree_pure _).attributed
  · exact ((Action.overrunFree_read _).bind fun _ => overrunFree_pure _).attributed
  · exact overrunFree_limited_bind fun _ => overrunFree_pure _

/-! ## Filters and transforms -/

namespace Leaf

variable {leaf : Leaf} {now : Timestamp} {v : Value}

theorem overrunFree_refuse (fault : ConfigFault) (key : String) :
    OverrunFree (leaf.refuse fault key : Except Failure Bool) :=
  EventChain.overrunFree_refuse _ _

theorem overrunFree_holdsBetween : OverrunFree (leaf.holdsBetween v) := by
  unfold holdsBetween
  split
  · exact overrunFree_limited_bind fun _ => overrunFree_limited_bind fun _ =>
      overrunFree_limited_bind fun _ => overrunFree_pure _
  · exact overrunFree_refuse _ _

theorem overrunFree_holdsMatches : OverrunFree (leaf.holdsMatches v) := by
  refine overrunFree_limited_bind fun text => ?_
  split
  · exact overrunFree_pure _
  · exact overrunFree_limited_bind fun _ =>
      (Condition.overrunFree_readPattern _ _ _).bind fun _ => overrunFree_pure _

theorem overrunFree_withItems {test : List Value → Bool} : OverrunFree (leaf.withItems test) := by
  unfold withItems
  split
  · exact overrunFree_pure _
  · exact overrunFree_refuse _ _

theorem overrunFree_holdsAge {test : Number → Number → Bool} :
    OverrunFree (leaf.holdsAge test now v) := by
  refine overrunFree_limited_bind fun seconds => ?_
  split
  · exact overrunFree_refuse _ _
  split
  · exact overrunFree_pure _
  · exact overrunFree_limited_bind fun _ => overrunFree_pure _

theorem overrunFree_holdsOf : OverrunFree (leaf.holdsOf now v) := by
  unfold holdsOf
  cases leaf.op <;> dsimp only
  case greater | greaterOrEqual | less | lessOrEqual =>
    exact failsWith_compare Failure.noOverrun_digitLimit
  case equal => exact overrunFree_limited _
  case notEqual => exact overrunFree_limited_bind fun _ => overrunFree_pure _
  case between => exact overrunFree_holdsBetween
  case contains | notContains | startsWith | endsWith =>
    exact failsWith_holdsText Failure.noOverrun_digitLimit
  case matchesPattern => exact overrunFree_holdsMatches
  case isIn | notIn | hasAll | hasAny | hasNone => exact overrunFree_withItems
  case olderThan | newerThan | inLast => exact overrunFree_holdsAge
  all_goals exact overrunFree_pure _

theorem overrunFree_holds (leaf : Leaf) (now : Timestamp) (r : Record) :
    OverrunFree (leaf.holds now r) := by
  unfold holds
  dsimp only
  split
  · exact overrunFree_pure _
  · exact overrunFree_holdsOf

end Leaf

namespace Condition

mutual

theorem overrunFree_holds (now : Timestamp) (r : Record) (c : Condition) :
    OverrunFree (c.holds now r) := by
  cases c with
  | leaf leaf => exact leaf.overrunFree_holds now r
  | compound connective parts path =>
    cases connective with
    | all => exact overrunFree_allHold now r parts
    | any => exact overrunFree_anyHolds now r parts
  | misplaced v => exact overrunFree_refuse _ _

theorem overrunFree_allHold (now : Timestamp) (r : Record) (parts : List Condition) :
    OverrunFree (allHold now r parts) := by
  cases parts with
  | nil => exact overrunFree_pure _
  | cons c rest =>
    refine (overrunFree_holds now r c).bind fun passed => ?_
    split
    · exact overrunFree_allHold now r rest
    · exact overrunFree_pure _

theorem overrunFree_anyHolds (now : Timestamp) (r : Record) (parts : List Condition) :
    OverrunFree (anyHolds now r parts) := by
  cases parts with
  | nil => exact overrunFree_pure _
  | cons c rest =>
    refine (overrunFree_holds now r c).bind fun passed => ?_
    split
    · exact overrunFree_pure _
    · exact overrunFree_anyHolds now r rest

end

end Condition

theorem Transform.overrunFree_apply (t : Transform) (strict : Bool) (r : Record) :
    OverrunFree (t.apply strict r) := by
  unfold apply
  split
  · split
    · exact overrunFree_refuse _ _
    · exact overrunFree_pure _
  · refine overrunFree_limited_bind fun number => ?_
    split
    · exact overrunFree_limited_bind fun _ => overrunFree_pure _
    split
    · exact overrunFree_pure _
    · exact overrunFree_refuse _ _
    · exact overrunFree_throw nofun
    · exact overrunFree_throw nofun

/-! ## Routes -/

namespace Route

variable {chain : Chain} {nodes : List Node} {limit : Int}

theorem overrunFree_checkIdentifier (v : Value) : OverrunFree v.checkIdentifier := by
  unfold Value.checkIdentifier
  split
  · exact overrunFree_throw nofun
  · exact overrunFree_throw nofun
  · exact overrunFree_pure _

theorem overrunFree_refuseNode {α : Type} (fault : ConfigFault) (node : Value)
    (path : Option String) : OverrunFree (refuseNode fault node path : Except Failure α) :=
  overrunFree_throw (Failure.noOverrun_ofConfig _)

theorem overrunFree_refuseCycle {α : Type} (chain : Chain) (fault : ConfigFault) (node : Value) :
    OverrunFree (refuseCycle chain fault node : Except Failure α) :=
  overrunFree_throw (Failure.noOverrun_ofConfig _)

theorem overrunFree_checkNodes (earlier : List Node) :
    OverrunFree (checkNodes chain earlier nodes) := by
  induction nodes generalizing earlier with
  | nil => exact overrunFree_pure _
  | cons node rest ih =>
    refine (overrunFree_checkIdentifier _).bind fun _ => ?_
    have hrest (u : Unit) : OverrunFree (α := Unit) (do
        if !node.chain.isNull && !chain.id.isNull then
          let own ← limited node.chain.plain
          let whole ← limited chain.id.plain
          if own ≠ whole then
            refuseNode (.foreignNode node.chain chain.id) node.id none
        checkNodes chain (earlier ++ [node]) rest) := by
      split
      · refine overrunFree_limited_bind fun _ => overrunFree_limited_bind fun _ => ?_
        split
        · exact (overrunFree_refuseNode _ _ _).bind fun _ => ih _
        · exact ih _
      · exact ih _
    cases indexOf? earlier node.id with
    | some i =>
      simp only [Option.isSome_some, ↓reduceIte]
      exact (overrunFree_refuseNode _ _ _).bind hrest
    | none =>
      simp only [Option.isSome_none, Bool.false_eq_true, ↓reduceIte]
      exact hrest ()

theorem overrunFree_checkLinks (links : List Node) : OverrunFree (checkLinks nodes links) := by
  induction links with
  | nil => exact overrunFree_pure _
  | cons node rest ih =>
    unfold checkLinks
    split
    · refine (overrunFree_checkIdentifier _).bind fun _ => ?_
      split
      · exact (overrunFree_refuseNode _ _ _).bind fun _ => ih
      · exact ih
    · exact ih

theorem overrunFree_follow (steps : Nat) (id : Value) (index : Nat)
    (visited : List (Value × Nat)) :
    OverrunFree (follow chain nodes limit steps id index visited) := by
  fun_induction follow chain nodes limit steps id index visited with
  | case1 => exact overrunFree_pure _
  | case2 => exact overrunFree_refuseCycle _ _ _
  | case3 => exact overrunFree_refuseCycle _ _ _
  | case4 _ _ _ _ _ _ _ _ _ _ _ ih => exact ih
  | case5 => exact overrunFree_pure _

theorem overrunFree_build (chain : Chain) (nodes : List Node) (limit : Int) :
    OverrunFree (build chain nodes limit) := by
  unfold build
  split
  · exact overrunFree_pure _
  refine (overrunFree_checkNodes []).bind fun _ => (overrunFree_checkLinks nodes).bind fun _ => ?_
  split
  · exact overrunFree_refuseCycle _ _ _
  · refine (overrunFree_follow _ _ _ _).bind fun visited => ?_
    dsimp only
    split
    · exact overrunFree_pure _
    · exact overrunFree_refuseCycle _ _ _
  · exact overrunFree_refuseNode _ _ _

end Route

end EventChain
