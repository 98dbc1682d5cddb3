import EventChain.Proofs.Failure
import EventChain.Store.History

/-!
# What a call does to a store

`Store.Performs` names all that a call can do: a chain or a node is created as it was drafted, a
node is linked, a chain is deleted with its nodes, or nothing changes. `performs_perform` says that
a call does one of these.
-/

namespace EventChain

/-- The row holds what the draft asks for, and the standard value of what it leaves open. -/
structure ChainDraft.Makes (draft : ChainDraft) (row : ChainRow) : Prop where
  tenant : row.tenant = draft.tenant
  name : some row.name = draft.name
  description : row.description = draft.description
  enabled : row.enabled = draft.enabled.getD true
  priority : row.priority = draft.priority.getD 0
  attempts : row.attempts = draft.attempts.getD 1
  delay : row.delay = Store.storedDelay (draft.delay.getD (.float .zero))

/-- The row holds what the draft asks for. Its link may have been set since. -/
structure NodeDraft.Makes (draft : NodeDraft) (row : NodeRow) : Prop where
  chain : some row.chain = draft.chain
  name : some row.name = draft.name
  type : some row.type = draft.type
  config : Store.storedConfig draft.config = .ok row.config

namespace Store

theorem checkCells_integer {n : Int} :
    checkCells [.integer n] =
      if Cell.fits n then .ok () else .error (.cell .integerTooLarge) := by
  unfold checkCells Cell.checkAll
  by_cases h : Cell.fits n
  · simp [List.forM, Cell.check, h, bind, Except.bind, pure, Except.pure]
  · simp [List.forM, Cell.check, h, bind, Except.bind, throw, throwThe, MonadExceptOf.throw]

inductive Performs (s : Store) : Call → Store → Event → Prop where
  | chainCreated {draft : ChainDraft} {row : ChainRow} (hid : row.id = nextId (s.chains.map (·.id)))
      (hmakes : draft.Makes row) :
      Performs s (.createChain draft) { s with chains := s.chains ++ [row] } (.chainCreated row)
  | nodeCreated {draft : NodeDraft} {row : NodeRow} (hid : row.id = nextId (s.nodes.map (·.id)))
      (hmakes : draft.Makes row) (hnext : row.next = draft.next)
      (hname : ∀ other ∈ s.nodes, other.name = row.name → other.chain ≠ row.chain) :
      Performs s (.createNode draft) { s with nodes := s.nodes ++ [row] } (.nodeCreated row)
  | linked {next : Option Int} {row : NodeRow} (hrow : row ∈ s.nodes) :
      Performs s (.link row.id next)
        { s with nodes := s.nodes.map fun r => if r.id = row.id then { row with next } else r }
        (.linked { row with next })
  | chainDeleted {row : ChainRow} (hrow : row ∈ s.chains) :
      Performs s (.deleteChain row.id)
        ⟨s.chains.filter (·.id ≠ row.id), s.nodes.filter (·.chain ≠ row.id)⟩
        (.chainDeleted row.id)
  | nodeMissed {node : Int} {next : Option Int} (hmissing : ∀ row ∈ s.nodes, row.id ≠ node) :
      Performs s (.link node next) s .missed
  | chainMissed {chain : Int} (hmissing : ∀ row ∈ s.chains, row.id ≠ chain) :
      Performs s (.deleteChain chain) s .missed
  | refused {call : Call} {fault : StoreFault} : Performs s call s (.refused fault)

variable {s : Store}

/-- An operation that is refused leaves the store, so what it does when it is not says all. -/
theorem performs_settle {α : Type} {call : Call} {event : α → Event}
    {x : Except StoreFault (Store × α)}
    (h : ∀ after a, x = .ok (after, a) → s.Performs call after (event a)) :
    s.Performs call (s.settle event x).1 (s.settle event x).2 := by
  cases x with
  | ok result => exact h result.1 result.2 rfl
  | error fault => exact .refused

theorem performs_createChain {draft : ChainDraft} {after : Store} {row : ChainRow}
    (h : s.createChain draft = .ok (after, row)) :
    s.Performs (.createChain draft) after (.chainCreated row) := by
  obtain ⟨-, -, h⟩ := bind_eq_ok.mp h
  dsimp only at h
  split at h
  · cases h
  next name hname =>
  split at h
  · cases h
  · cases h
    exact .chainCreated rfl ⟨rfl, hname.symm, rfl, rfl, rfl, rfl, rfl⟩

theorem performs_createNode {draft : NodeDraft} {after : Store} {row : NodeRow}
    (h : s.createNode draft = .ok (after, row)) :
    s.Performs (.createNode draft) after (.nodeCreated row) := by
  obtain ⟨config, hconfig, h⟩ := bind_eq_ok.mp h
  obtain ⟨-, -, h⟩ := bind_eq_ok.mp h
  split at h
  · cases h
  · cases h
  · cases h
  next name chain type hname hchain htype =>
  split at h
  · cases h
  next hnew =>
  cases h
  refine .nodeCreated rfl ⟨hchain.symm, hname.symm, htype.symm, hconfig⟩ rfl ?_
  intro other hother hsame hown
  simp only [List.any_eq_true, not_exists, not_and] at hnew
  exact hnew other hother (by simp [hsame, hown])

theorem performs_link {node : Int} {next : Option Int} {after : Store} {row? : Option NodeRow}
    (h : s.link node next = .ok (after, row?)) :
    s.Performs (.link node next) after ((row?.map Event.linked).getD .missed) := by
  obtain ⟨-, -, h⟩ := bind_eq_ok.mp h
  split at h
  · next hnone =>
    cases h
    refine .nodeMissed fun row hrow => ?_
    simpa using List.find?_eq_none.mp hnone row hrow
  · next row hrow =>
    obtain ⟨-, -, h⟩ := bind_eq_ok.mp h
    cases h
    obtain rfl : row.id = node := by simpa using List.find?_some hrow
    exact .linked (List.mem_of_find?_eq_some hrow)

theorem performs_deleteChain {chain : Int} {after : Store} {found : Bool}
    (h : s.deleteChain chain = .ok (after, found)) :
    s.Performs (.deleteChain chain) after (if found then .chainDeleted chain else .missed) := by
  obtain ⟨row?, hrow, h⟩ := bind_eq_ok.mp h
  obtain ⟨-, -, hrow⟩ := bind_eq_ok.mp hrow
  cases hrow
  unfold Store.chain? at h
  split at h
  · next hnone =>
    cases h
    refine .chainMissed fun row hrow => ?_
    simpa using List.find?_eq_none.mp hnone row hrow
  · next row hrow =>
    cases h
    obtain rfl : row.id = chain := by simpa using List.find?_some hrow
    exact .chainDeleted (List.mem_of_find?_eq_some hrow)

theorem performs_perform (s : Store) (call : Call) :
    s.Performs call (s.perform call).1 (s.perform call).2 := by
  cases call with
  | createChain draft => exact performs_settle fun _ _ h => performs_createChain h
  | createNode draft => exact performs_settle fun _ _ h => performs_createNode h
  | link node next => exact performs_settle fun _ _ h => performs_link h
  | deleteChain chain => exact performs_settle fun _ _ h => performs_deleteChain h

end Store

end EventChain
