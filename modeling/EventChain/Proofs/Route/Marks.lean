import EventChain.Proofs.Route.Stops
import EventChain.Proofs.Value.Mark

/-!
# Stops of one identifier

Nodes pass their check when their identifiers are told apart and they belong to the chain, whatever
the identifiers are (`checkNodes_iff`). So a route has no two nodes whose identifiers agree. Stops
may bear the identifier under which a link names their node instead of the node's own; still, stops
of which the identifiers agree are stops at one node (`build_node_eq`).
-/

namespace EventChain.Route

variable {chain : Chain} {nodes : List Node} {limit : Int}

theorem checkNodes_cons_iff {earlier rest : List Node} {node : Node} :
    checkNodes chain earlier (node :: rest) = .ok () ↔
      node.id.checkIdentifier = .ok () ∧ indexOf? earlier node.id = none ∧
        SameChain node.chain chain.id ∧ checkNodes chain (earlier ++ [node]) rest = .ok () := by
  rw [checkNodes, bind_eq_ok, Unique.exists_iff]
  refine and_congr_right fun _ => ?_
  cases indexOf? earlier node.id with
  | some i => simp [bind_eq_ok]
  | none =>
    simp only [Option.isSome_none, Bool.false_eq_true, ↓reduceIte, true_and]
    split
    · next hnull =>
      simp only [Bool.and_eq_true, Bool.not_eq_true', ← Bool.not_eq_true, Value.isNull_iff] at hnull
      simp only [SameChain, hnull, false_or]
      simp only [bind_eq_ok, limited_eq_ok]
      constructor
      · rintro ⟨own, hown, whole, hwhole, h⟩
        split at h
        · simp [bind_eq_ok] at h
        · next heq => exact ⟨⟨own, hown, by simpa [not_not.mp heq] using hwhole⟩, h⟩
      · rintro ⟨⟨text, hown, hwhole⟩, h⟩
        exact ⟨text, hown, text, hwhole, by simpa using h⟩
    · next hnull =>
      have hsame : SameChain node.chain chain.id := by
        simp only [Bool.and_eq_true, Bool.not_eq_true', not_and_or, Bool.not_eq_false,
          Value.isNull_iff] at hnull
        exact hnull.imp_right .inl
      simp [hsame]

def SameMark (a b : Node) : Prop := ∃ mark, a.id.mark? = some mark ∧ b.id.mark? = some mark

theorem SameMark.symm {a b : Node} (h : SameMark a b) : SameMark b a := Value.SameMark.symm h

/-- The nodes have identifiers, and those of any two are told apart. -/
structure Apart (nodes : List Node) : Prop where
  identifiers : ∀ node ∈ nodes, node.id.checkIdentifier = .ok ()
  pairwise : nodes.Pairwise fun a b => ¬ SameMark a b

theorem Apart.eq_of_sameMark (h : Apart nodes) {a b : Node} (ha : a ∈ nodes) (hb : b ∈ nodes)
    (hab : SameMark a b) : a = b := by
  have : Std.Symm fun a b : Node => ¬ SameMark a b := ⟨fun _ _ hn hs => hn hs.symm⟩
  by_contra hne
  exact h.pairwise.forall ha hb hne hab

theorem Apart.sublist {others : List Node} (h : Apart nodes) (hsub : List.Sublist others nodes) :
    Apart others :=
  ⟨fun node hn => h.identifiers node (hsub.subset hn), h.pairwise.sublist hsub⟩

theorem indexOf?_eq_none_iff {id : Value} (h : ∀ node ∈ nodes, node.id.checkIdentifier = .ok ()) :
    indexOf? nodes id = none ↔ ∀ node ∈ nodes, ¬ node.id.SameMark id := by
  unfold indexOf?
  rw [List.findIdx?_eq_none_iff]
  refine forall₂_congr fun node hn => ?_
  rw [← Value.agrees_iff_sameMark (h node hn), Bool.not_eq_true]

/-- Nodes that come after others, which are apart, pass the check when all are apart and they belong
to the chain: induction on the nodes to check. -/
theorem checkNodes_iff {earlier : List Node} (he : Apart earlier) :
    checkNodes chain earlier nodes = .ok () ↔
      Apart (earlier ++ nodes) ∧ OneChain chain nodes := by
  induction nodes generalizing earlier with
  | nil => simpa [checkNodes, OneChain] using he
  | cons node rest ih =>
    have hsplit : earlier ++ node :: rest = earlier ++ [node] ++ rest := by simp
    rw [checkNodes_cons_iff, indexOf?_eq_none_iff he.identifiers, OneChain, List.forall_mem_cons,
      hsplit]
    constructor
    · rintro ⟨hid, hnew, hsame, h⟩
      replace hnew : ∀ other ∈ earlier, ¬ SameMark other node := hnew
      have happart : Apart (earlier ++ [node]) :=
        ⟨List.forall_mem_append.mpr ⟨he.identifiers, by simpa using hid⟩,
          List.pairwise_append.mpr
            ⟨he.pairwise, List.pairwise_singleton _ _, by simpa using hnew⟩⟩
      obtain ⟨hall, hone⟩ := (ih happart).mp h
      exact ⟨hall, hsame, hone⟩
    · rintro ⟨hall, hsame, hone⟩
      have happart : Apart (earlier ++ [node]) := hall.sublist (List.sublist_append_left _ _)
      refine ⟨happart.identifiers node (by simp), fun other ho => ?_, hsame,
        (ih happart).mpr ⟨hall, hone⟩⟩
      exact (List.pairwise_append.mp happart.pairwise).2.2 other ho node List.mem_cons_self

theorem Names.mark_eq {id : Value} {node : Node} (h : Names id node)
    (hid : node.id.checkIdentifier = .ok ()) :
    id.checkIdentifier = .ok () ∧ node.id.mark? = id.mark? := by
  rcases h with rfl | h
  · exact ⟨hid, rfl⟩
  · obtain ⟨hsome, heq⟩ := (Value.agrees_iff hid).mp h
    obtain ⟨mark, hm⟩ := Option.isSome_iff_exists.mp hsome
    exact ⟨Value.checkIdentifier_of_mark (heq.symm.trans hm), heq⟩

theorem build_apart {route : Route} (h : build chain nodes limit = .ok route) : Apart nodes := by
  unfold build at h
  split at h
  · next hnil =>
    obtain rfl : nodes = [] := by simpa using hnil
    exact ⟨by simp, .nil⟩
  · obtain ⟨⟨⟩, hc, -⟩ := bind_eq_ok.mp h
    exact ((checkNodes_iff ⟨by simp, .nil⟩).mp hc).1

theorem build_node_eq {route : Route} (h : build chain nodes limit = .ok route) {a b : Stop}
    (ha : a ∈ route.stops) (hb : b ∈ route.stops) (hab : a.id.agrees b.id = true) :
    a.node = b.node := by
  have hapart := build_apart h
  obtain ⟨-, hstops, -⟩ := build_stops h
  obtain ⟨ham, hnames⟩ := hstops a ha
  obtain ⟨hbm, hnames'⟩ := hstops b hb
  obtain ⟨haid, hmark⟩ := hnames.mark_eq (hapart.identifiers _ ham)
  obtain ⟨-, hmark'⟩ := hnames'.mark_eq (hapart.identifiers _ hbm)
  obtain ⟨hsome, heq⟩ := (Value.agrees_iff haid).mp hab
  obtain ⟨mark, hm⟩ := Option.isSome_iff_exists.mp hsome
  exact hapart.eq_of_sameMark ham hbm ⟨mark, hmark.trans hm, hmark'.trans (heq.symm.trans hm)⟩

end EventChain.Route
