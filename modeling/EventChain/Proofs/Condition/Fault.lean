import EventChain.Proofs.Condition.Grammar
import EventChain.Proofs.Condition.Position
import Mathlib.Data.List.Lex

/-!
# Where a condition is refused

`Violates` says how a part of a config can violate the grammar at its own level, and under which
key. A config is refused at the first part, in the order of a visit, that does (`FirstFault`): the
path of the error leads to it. Every part of a condition that is accepted carries the path of the
part of the config that it was read from (`read_paths`).
-/

namespace EventChain.Condition

/-! ## Violations -/

/-- The object stands for a compound condition, well-formed or not. -/
def IsCompound (r : Record) : Prop := r.get? "type" ≠ none ∨ r.get? "expressions" ≠ none

/-- How a part of a config violates the grammar at its own level: under a key, or, where it is no
object, as a whole. Of several keys the first one that is wrong counts. -/
inductive Violates : Value → Option String → Prop where
  | shape {v : Value} (hshape : ∀ r, v ≠ .object r) : Violates v none
  | type {r : Record} (hcompound : IsCompound r) (hjoins : ∀ connective, ¬ Joins r connective) :
      Violates (.object r) "type"
  | parts {r : Record} {connective : Connective} (hjoins : Joins r connective)
      (hparts : ∀ items, r.get? "expressions" = some (.array items) → items = []) :
      Violates (.object r) "expressions"
  | field {r : Record} (hleaf : ¬ IsCompound r) (hnames : ∀ field, ¬ Names r field) :
      Violates (.object r) "field"
  | operator {r : Record} {field : String} (hleaf : ¬ IsCompound r) (hnames : Names r field)
      (hop : ∀ op : Operator, r.get? "operator" ≠ some (.text op.name)) :
      Violates (.object r) "operator"
  | value {r : Record} {field : String} {op : Operator} (hleaf : ¬ IsCompound r)
      (hnames : Names r field) (hop : r.get? "operator" = some (.text op.name))
      (htakes : ∀ operand pattern, ¬ op.Takes (r.get? "value") operand pattern) :
      Violates (.object r) "value"

/-- The part at a position is the first one that violates the grammar, in the order of a visit. -/
structure FirstFault (v : Value) (position : List Nat) (key : Option String) : Prop where
  violates : ∃ part, configAt? v position = some part ∧ Violates part key
  first : ∀ earlier < position, ∀ part, configAt? v earlier = some part →
    ∀ other, ¬ Violates part other

theorem isCompound_of_joins {r : Record} {connective : Connective} (h : Joins r connective) :
    IsCompound r := by
  obtain ⟨name, hname, -⟩ := h
  exact .inl (by simp [hname])

theorem not_isCompound_iff {r : Record} :
    ¬ IsCompound r ↔ r.get? "type" = none ∧ r.get? "expressions" = none := by
  simp [IsCompound]

theorem isCompound_iff {r : Record} :
    (r.has "type" || r.has "expressions") = true ↔ IsCompound r := by
  rw [← not_iff_not, not_isCompound_iff, Bool.not_eq_true, Bool.or_eq_false_iff, has_eq_false_iff,
    has_eq_false_iff]

theorem Violates.key_eq {v : Value} {key other : Option String} (h : Violates v key)
    (h' : Violates v other) : key = other := by
  have hcompound {r : Record} {connective : Connective} : Joins r connective → IsCompound r :=
    isCompound_of_joins
  cases h <;> cases h' <;> grind

theorem FirstFault.unique {v : Value} {position other : List Nat} {key otherKey : Option String}
    (h : FirstFault v position key) (h' : FirstFault v other otherKey) :
    position = other ∧ key = otherKey := by
  obtain ⟨part, hpart, hviolates⟩ := h.violates
  obtain ⟨part', hpart', hviolates'⟩ := h'.violates
  rcases lt_trichotomy position other with hlt | heq | hgt
  · exact absurd hviolates (h'.first position hlt part hpart key)
  · subst heq
    cases hpart.symm.trans hpart'
    exact ⟨rfl, hviolates.key_eq hviolates'⟩
  · exact absurd hviolates' (h.first other hgt part' hpart' otherKey)

/-! ## What is accepted -/

theorem Grammatical.part {v part : Value} {position : List Nat} (h : Grammatical v)
    (hpart : configAt? v position = some part) : Grammatical part := by
  induction position generalizing v with
  | nil =>
    cases hpart
    exact h
  | cons i rest ih =>
    obtain ⟨item, hitem, hrest⟩ := configAt?_cons.mp hpart
    cases h with
    | leaf htype hparts hshows =>
      rw [partsOf_of_none hparts] at hitem
      cases hitem
    | compound hjoins hparts hfull hitems =>
      rw [partsOf_object hparts] at hitem
      exact ih (hitems item (List.mem_of_getElem? hitem)) hrest

theorem not_violates_of_joins {r : Record} {connective : Connective} {items : List Value}
    (hjoins : Joins r connective) (hparts : r.get? "expressions" = some (.array items))
    (hfull : items ≠ []) (key : Option String) : ¬ Violates (.object r) key := by
  have hcompound := isCompound_of_joins hjoins
  intro hviolates
  cases hviolates with
  | shape hshape => exact hshape r rfl
  | type _ hnone => exact hnone connective hjoins
  | parts _ hempty => exact hfull (hempty items hparts)
  | field hleaf | operator hleaf | value hleaf => exact hleaf hcompound

theorem not_violates_of_shows {r : Record} {field : String} {op : Operator} {operand : Value}
    {pattern : Option Pattern} (hleaf : ¬ IsCompound r) (h : Shows r field op operand pattern)
    (key : Option String) : ¬ Violates (.object r) key := by
  intro hviolates
  cases hviolates with
  | shape hshape => exact hshape r rfl
  | type hcompound => exact hleaf hcompound
  | parts hjoins => exact hleaf (isCompound_of_joins hjoins)
  | field _ hnames => exact hnames field h.named
  | operator _ _ hop => exact hop op h.operator
  | @value _ _ other _ _ hop htakes =>
    have hname : op.name = other.name :=
      Value.text.inj (Option.some.inj (h.operator.symm.trans hop))
    obtain rfl : other = op := by
      rw [← Option.some_inj, ← Operator.ofName?_name, ← hname, Operator.ofName?_name]
    exact htakes operand pattern h.takes

theorem Grammatical.not_violates {v : Value} (h : Grammatical v) (key : Option String) :
    ¬ Violates v key := by
  cases h with
  | leaf htype hparts hshows =>
    exact not_violates_of_shows (not_isCompound_iff.mpr ⟨htype, hparts⟩) hshows key
  | compound hjoins hparts hfull => exact not_violates_of_joins hjoins hparts hfull key

/-! ## What is refused -/

theorem path_of_refuse {α : Type} {fault : ConfigFault} {path : Option String} {e : ConfigError}
    (h : (refuse fault path : Except Failure α) = .error (.config e)) : e.path = path := by
  obtain ⟨rfl, -⟩ := Failure.ofConfig_eq_config.mp (throw_eq_error.mp h)
  rfl

theorem path_of_readPattern {found : Value} {source path : String} {e : ConfigError}
    (h : readPattern found source path = .error (.config e)) : e.path = path := by
  unfold readPattern at h
  split at h
  · cases h
  · exact path_of_refuse h
  · cases h
  · cases h
  · cases h

theorem path_of_readOperand {op : Operator} {v : Value} {path : String} {e : ConfigError}
    (h : readOperand op v path = .error (.config e)) : e.path = path := by
  unfold readOperand at h
  cases hs : op.shape <;> simp only [hs] at h
  case unary => cases h
  case any => cases h
  case array =>
    split at h
    · cases h
    · exact path_of_refuse h
  case bounds =>
    split at h
    · split at h
      · cases h
      · exact path_of_refuse h
    · exact path_of_refuse h
  case duration =>
    split at h
    · split at h
      · exact path_of_refuse h
      · cases h
    · exact path_of_refuse h
  case pattern =>
    split at h
    · rcases bind_eq_error.mp h with h | ⟨_, -, h⟩
      · exact path_of_readPattern h
      · cases h
    · exact path_of_refuse h

/-- A leaf is refused at the first of its keys that is wrong. -/
theorem violates_of_readLeaf {r : Record} {path : String} {e : ConfigError}
    (hleaf : ¬ IsCompound r) (h : readLeaf r path = .error (.config e)) :
    ∃ key : String, Violates (.object r) key ∧ e.path = keyPath path key := by
  unfold readLeaf at h
  dsimp only at h
  split at h
  · next hnone =>
    refine ⟨"field", .field hleaf fun field hnames => ?_, path_of_refuse h⟩
    cases hnone.symm.trans (names_iff.mpr hnames)
  next field hfield =>
  have hnames := names_iff.mp hfield
  split at h
  · next name hname =>
    have hname := Record.get_eq_text_iff.mp hname
    split at h
    · next hunknown =>
      refine ⟨"operator", .operator hleaf hnames fun op hop => ?_, path_of_refuse h⟩
      cases hname.symm.trans hop
      cases hunknown.symm.trans (Operator.ofName?_name op)
    next op hop =>
    obtain rfl := ofName?_eq_some_iff.mp hop
    split at h
    · cases h
    next hshape =>
    split at h
    · next hvalue =>
      refine ⟨"value", .value hleaf hnames hname fun operand pattern htakes => ?_,
        path_of_refuse h⟩
      obtain ⟨v, hv⟩ := htakes.exists_given hshape
      cases hvalue.symm.trans hv
    · next v hvalue =>
      rcases bind_eq_error.mp h with hoperand | ⟨_, -, h⟩
      · refine ⟨"value", .value hleaf hnames hname fun operand pattern htakes => ?_,
          path_of_readOperand hoperand⟩
        rw [hvalue] at htakes
        cases hoperand.symm.trans (readOperand_of_takes htakes)
      · cases h
  · next hother =>
    refine ⟨"operator", .operator hleaf hnames fun op hop => ?_, path_of_refuse h⟩
    exact hother _ (Record.get_eq_text_iff.mpr hop)

/-- Parts are refused at the first one that is, those before it being accepted. -/
theorem readParts_stops {path : String} {items : List Value} {i : Nat} {failure : Failure}
    (h : readParts path i items = .error failure) :
    ∃ j item, items[j]? = some item ∧ readAt (partPath path (i + j)) item = .error failure ∧
      ∀ k < j, ∀ other, items[k]? = some other →
        ∃ c, readAt (partPath path (i + k)) other = .ok c := by
  induction items generalizing i with
  | nil =>
    rw [readParts] at h
    cases h
  | cons first rest ih =>
    rw [readParts] at h
    rcases bind_eq_error.mp h with h | ⟨part, hpart, h⟩
    · exact ⟨0, first, rfl, h, fun k hk => absurd hk (Nat.not_lt_zero k)⟩
    rcases bind_eq_error.mp h with h | ⟨_, -, h⟩
    · obtain ⟨j, item, hitem, hfails, hbefore⟩ := ih h
      refine ⟨j + 1, item, hitem, ?_, fun k hk other hother => ?_⟩
      · rwa [show i + (j + 1) = i + 1 + j by omega]
      · cases k with
        | zero =>
          cases hother
          exact ⟨part, hpart⟩
        | succ k =>
          rw [show i + (k + 1) = i + 1 + k by omega]
          exact hbefore k (by omega) other hother
    · cases h

/-- The first fault of a part is that of the whole, where neither the whole itself nor the parts
before it have any. -/
theorem FirstFault.cons {r : Record} {items : List Value} {item : Value} {j : Nat}
    {position : List Nat} {key : Option String} (h : FirstFault item position key)
    (hparts : r.get? "expressions" = some (.array items)) (hitem : items[j]? = some item)
    (hwhole : ∀ other, ¬ Violates (.object r) other)
    (hbefore : ∀ k < j, ∀ other, items[k]? = some other → Grammatical other) :
    FirstFault (.object r) (j :: position) key := by
  have hpartsOf := partsOf_object hparts
  constructor
  case violates =>
    obtain ⟨part, hpart, hviolates⟩ := h.violates
    exact ⟨part, configAt?_cons.mpr ⟨item, hpartsOf ▸ hitem, hpart⟩, hviolates⟩
  case first =>
    intro earlier hlt part hpart other
    cases earlier with
    | nil =>
      cases hpart
      exact hwhole other
    | cons k rest =>
      obtain ⟨found, hfound, hpart⟩ := configAt?_cons.mp hpart
      rw [hpartsOf] at hfound
      rcases List.cons_lt_cons_iff.mp hlt with hk | ⟨rfl, hrest⟩
      · exact ((hbefore k hk found hfound).part hpart).not_violates other
      · cases hitem.symm.trans hfound
        exact h.first rest hrest part hpart other

theorem FirstFault.root {v : Value} {key : Option String} (h : Violates v key) :
    FirstFault v [] key :=
  ⟨⟨v, rfl, h⟩, fun earlier hlt => absurd hlt (List.not_lt_nil earlier)⟩

theorem firstFault_of_readAt {base : List Nat} {v : Value} {e : ConfigError}
    (h : readAt (pathOf base) v = .error (.config e)) :
    ∃ position key, FirstFault v position key ∧ e.path = faultPath (base ++ position) key := by
  match v, h with
  | .object r, h =>
    rw [readAt] at h
    split at h
    · next hkeys =>
      have hcompound := isCompound_iff.mp hkeys
      split at h
      · next hnone =>
        refine ⟨[], "type", .root (.type hcompound fun connective hjoins => ?_), ?_⟩
        · cases hnone.symm.trans (connective?_eq_some_iff.mpr hjoins)
        · rw [path_of_refuse h, List.append_nil, keyPath_pathOf, faultPath_some]
      next connective hconnective =>
      have hjoins := connective?_eq_some_iff.mp hconnective
      split at h
      · next first rest hget =>
        have := Record.sizeOf_get?_lt hget
        have hwhole := not_violates_of_joins hjoins hget (List.cons_ne_nil first rest)
        rcases bind_eq_error.mp h with h | ⟨_, -, h⟩
        · obtain ⟨j, item, hitem, hfails, hbefore⟩ := readParts_stops h
          have hmember := List.sizeOf_lt_of_mem (List.mem_of_getElem? hitem)
          rw [Nat.zero_add, partPath_pathOf] at hfails
          obtain ⟨position, key, hfault, hpath⟩ := firstFault_of_readAt hfails
          refine ⟨j :: position, key, hfault.cons hget hitem hwhole fun k hk other hother => ?_, ?_⟩
          · obtain ⟨c, hc⟩ := hbefore k hk other hother
            exact (mirrors_of_readAt hc).grammatical
          · rw [hpath, List.append_assoc]
            rfl
        · cases h
      · next hother =>
        refine ⟨[], "expressions", .root (.parts hjoins fun items hitems => ?_), ?_⟩
        · cases items with
          | nil => rfl
          | cons first rest => exact absurd hitems (hother first rest)
        · rw [path_of_refuse h, List.append_nil, keyPath_pathOf, faultPath_some]
    · next hkeys =>
      rcases bind_eq_error.mp h with h | ⟨_, -, h⟩
      · obtain ⟨key, hviolates, hpath⟩ := violates_of_readLeaf (mt isCompound_iff.mpr hkeys) h
        refine ⟨[], key, .root hviolates, ?_⟩
        rw [hpath, List.append_nil, keyPath_pathOf, faultPath_some]
      · cases h
  | .null, h | .boolean _, h | .number _, h | .text _, h | .array _, h | .timestamp _, h
  | .bytes _, h | .foreign _, h =>
    simp only [readAt] at h
    refine ⟨[], none, .root (.shape (by simp)), ?_⟩
    rw [path_of_refuse h, List.append_nil, faultPath_none]
termination_by sizeOf v
decreasing_by
  simp only [Value.array.sizeOf_spec, Value.object.sizeOf_spec, List.cons.sizeOf_spec] at *
  omega

/-! ## Paths of conditions -/

/-- Every part of a condition carries the path of its position, and mirrors the part of the config
that stands there. -/
theorem Mirrors.node {base position : List Nat} {v : Value} {c node : Condition}
    (h : Mirrors (pathOf base) v c) (hnode : c.nodeAt? position = some node) :
    path? node = some (pathOf (base ++ position)) ∧
      ∃ part, configAt? v position = some part ∧ Mirrors (pathOf (base ++ position)) part node := by
  induction position generalizing base v c with
  | nil =>
    cases hnode
    rw [List.append_nil]
    refine ⟨?_, v, rfl, h⟩
    cases h <;> rfl
  | cons i rest ih =>
    cases h with
    | leaf => cases hnode
    | @compound _ r _ items _ hjoins hparts hfull hlength hitems =>
      obtain ⟨child, hchild, hnode⟩ := nodeAt?_compound.mp hnode
      have hi : i < items.length := hlength ▸ (List.getElem?_eq_some_iff.mp hchild).1
      have hitem := List.getElem?_eq_getElem hi
      have hmirrors := hitems i items[i] child hitem hchild
      rw [partPath_pathOf] at hmirrors
      obtain ⟨hpath, part, hpart, hmirrors⟩ := ih hmirrors hnode
      rw [List.append_assoc] at hpath hmirrors
      have hfound : (partsOf (.object r))[i]? = some items[i] := partsOf_object hparts ▸ hitem
      exact ⟨hpath, part, configAt?_cons.mpr ⟨items[i], hfound, hpart⟩, hmirrors⟩

/-- The error of a config that is refused has the path of its first fault, and each part of a
condition that is accepted has a path that leads back to the part of the config that it mirrors. -/
theorem read_paths {config v : Value} (hv : Config.decode config = .ok v) :
    (∀ e, read config = .error (.config e) →
      (∃ position key, FirstFault v position key) ∧
        ∀ position key, FirstFault v position key → e.path = faultPath position key) ∧
    ∀ c, read config = .ok c → ∀ position node, c.nodeAt? position = some node →
      path? node = some (pathOf position) ∧
        ∃ part, Mirrors (pathOf position) part node ∧
          ∀ other, path? node = some (pathOf other) → configAt? v other = some part := by
  have hread : read config = readAt (pathOf []) v := by
    rw [read, hv]
    rfl
  rw [hread]
  constructor
  · intro e he
    obtain ⟨position, key, hfault, hpath⟩ := firstFault_of_readAt he
    refine ⟨⟨position, key, hfault⟩, fun other otherKey hother => ?_⟩
    obtain ⟨rfl, rfl⟩ := hfault.unique hother
    exact hpath
  · intro c hc position node hnode
    obtain ⟨hpath, part, hpart, hmirrors⟩ := (mirrors_of_readAt hc).node hnode
    refine ⟨hpath, part, hmirrors, fun other hother => ?_⟩
    obtain rfl := pathOf_injective (Option.some.inj (hother.symm.trans hpath))
    exact hpart

/-- A compound condition in another, the second part of which names no field. -/
theorem read_paths_nested :
    let present : Value := .object [("field", .text "a"), ("operator", .text "isNull")]
    let nameless : Value := .object [("operator", .text "=="), ("value", .int 1)]
    let inner : Value := .object [("type", .text "OR"), ("expressions", .array [present, nameless])]
    let config : Value := .object [("type", .text "AND"), ("expressions", .array [inner])]
    Config.decode config = .ok config ∧
      ∃ e, read config = .error (.config e) ∧
        e.path = some "expressions[0].expressions[1].field" := by
  intro present nameless inner config
  have hdecode : Config.decode config = .ok config := rfl
  have hand : Joins [("type", .text "AND"), ("expressions", .array [inner])] .all :=
    ⟨"AND", rfl, by decide⟩
  have hor : Joins [("type", .text "OR"), ("expressions", .array [present, nameless])] .any :=
    ⟨"OR", rfl, by decide⟩
  obtain ⟨e, he⟩ : ∃ e, read config = .error (.config e) := by
    have hpresent (path : String) :
        readAt path present = .ok (.leaf ⟨"a", .isNull, .null, path, none⟩) := by
      rw [readAt]
      rfl
    have hnameless (path : String) : readAt path nameless =
        .error (.config ⟨.noField, .null, keyPath path "field", none⟩) := by
      rw [readAt]
      rfl
    have hinner (path : String) : ∃ e, readAt path inner = .error (.config e) := by
      rw [readAt_of_joins hor rfl (List.cons_ne_nil _ _), readParts, hpresent]
      simp only [readParts, hnameless]
      exact ⟨_, rfl⟩
    obtain ⟨e, he⟩ := hinner (partPath "" 0)
    refine ⟨e, ?_⟩
    show readAt "" config = .error (.config e)
    rw [readAt_of_joins hand rfl (List.cons_ne_nil _ _), readParts, he]
    rfl
  have hfault : FirstFault config [0, 1] "field" := by
    have hleaf : ¬ IsCompound [("operator", .text "=="), ("value", .int 1)] :=
      not_isCompound_iff.mpr ⟨rfl, rfl⟩
    have hnameless : Violates nameless "field" := by
      refine .field hleaf fun field hnames => ?_
      rcases hnames.2 with hfield | ⟨-, hkey⟩
      · cases hfield
      · cases hkey
    have hshows :
        Shows [("field", .text "a"), ("operator", .text "isNull")] "a" .isNull .null none :=
      ⟨⟨by decide, .inl rfl⟩, rfl, .unary (by decide)⟩
    have hpresent : Grammatical present := .leaf rfl rfl hshows
    have hinner : FirstFault inner [1] "field" := by
      have hwhole := not_violates_of_joins hor rfl (List.cons_ne_nil _ _)
      refine (FirstFault.root hnameless).cons rfl rfl hwhole ?_
      intro k hk other hother
      obtain rfl : k = 0 := by omega
      cases hother
      exact hpresent
    have hwhole := not_violates_of_joins hand rfl (List.cons_ne_nil _ _)
    refine hinner.cons rfl rfl hwhole ?_
    exact fun k hk => absurd hk (Nat.not_lt_zero k)
  obtain ⟨hrefused, -⟩ := read_paths hdecode
  exact ⟨hdecode, e, he, (hrefused e he).2 [0, 1] "field" hfault⟩

/-- A config that is null counts as an object without entries: it is refused for the field that is
missing, not as a whole. -/
theorem paths_otherwise :
    FirstFault .null [] none ∧ ∃ e, read .null = .error (.config e) ∧
      e.path ≠ faultPath [] none ∧ e.path = some "field" := by
  have hread : read .null = .error (.config ⟨.noField, .null, "field", none⟩) := by
    show readAt "" (.object []) = _
    rw [readAt]
    rfl
  exact ⟨.root (.shape (by simp)), _, hread, by decide, rfl⟩

end EventChain.Condition
