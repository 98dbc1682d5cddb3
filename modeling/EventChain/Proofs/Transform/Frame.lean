import EventChain.Proofs.Condition.Fields
import EventChain.Proofs.Transform

/-!
# What a transform leaves alone

A transform touches its field and nothing else (`touchesOnly_of_apply`): the keys stay, each other
key keeps its value, and so does every name that is looked up, dotted paths through the field
included, as only a value that counts as a number is replaced, and no object does. Conditions that
do not name the field are blind to the transform, and transforms of two fields may be applied in
either order.
-/

namespace EventChain.Transform

variable {t u : Transform} {strict : Bool} {r r' : Record}

/-- The second record differs from the first at most in the value of a field. -/
structure TouchesOnly (field : String) (r r' : Record) : Prop where
  keys : r'.map Prod.fst = r.map Prod.fst
  others : ∀ key, key ≠ field → r'.get? key = r.get? key
  lookups : ∀ name, name ≠ field → r'.lookup name = r.lookup name
  conditions : ∀ (c : Condition) (now : Timestamp),
    field ∉ c.fields → c.holds now r' = c.holds now r

theorem touchesOnly_refl (field : String) (r : Record) : TouchesOnly field r r :=
  ⟨rfl, fun _ _ => rfl, fun _ _ => rfl, fun _ _ _ => rfl⟩

theorem touchesOnly_set {field : String} {v : Value} (h : r.get? field = some v) (hv : v.Flat)
    (n : Number) : TouchesOnly field r (r.set field (.number n)) := by
  have hflat : (r.get field).Flat := by simpa [Record.get, h] using hv
  have hlookups (name : String) (hne : name ≠ field) :
      (r.set field (.number n)).lookup name = r.lookup name :=
    Record.lookup_set_of_ne hflat (Value.flat_number n) hne
  refine ⟨Record.map_fst_set _ (by simp [h]), fun _ hne => Record.get?_set_of_ne r _ hne, hlookups,
    fun c now hc => Condition.holds_congr now c fun name hname => hlookups name ?_⟩
  rintro rfl
  exact hc hname

theorem effect_null_ne_some {n : Number} : t.effect strict .null ≠ .ok (some n) := by
  intro h
  unfold effect at h
  split at h
  · cases strict <;> cases h
  · cases h

theorem get?_of_effect {n : Number} (h : t.effect strict (r.get t.field) = .ok (some n)) :
    r.get? t.field = some (r.get t.field) := by
  refine Record.get?_of_get rfl fun hnull => ?_
  rw [hnull] at h
  exact effect_null_ne_some h

theorem touchesOnly_put {number : Option Number}
    (h : t.effect strict (r.get t.field) = .ok number) :
    TouchesOnly t.field r (put r t.field number) := by
  cases number with
  | none => exact touchesOnly_refl t.field r
  | some n => exact touchesOnly_set (get?_of_effect h) (flat_of_effect h) n

theorem touchesOnly_of_apply (h : t.apply strict r = .ok r') : TouchesOnly t.field r r' := by
  rw [apply_eq] at h
  cases heffect : t.effect strict (r.get t.field) with
  | error failure =>
    rw [heffect] at h
    cases h
  | ok number =>
    rw [heffect] at h
    cases h
    exact touchesOnly_put heffect

/-! ## Two fields -/

/-- What a transform does to its field is not changed by a transform of another. -/
theorem effect_of_touchesOnly (strict : Bool) (h : TouchesOnly u.field r r')
    (hne : t.field ≠ u.field) :
    t.effect strict (r'.get t.field) = t.effect strict (r.get t.field) := by
  rw [Record.get, Record.get, h.others t.field hne]

theorem put_comm {number other : Option Number} (hne : t.field ≠ u.field)
    (h : t.effect strict (r.get t.field) = .ok number) :
    put (put r t.field number) u.field other = put (put r u.field other) t.field number := by
  cases number with
  | none => rfl
  | some n =>
    cases other with
    | none => rfl
    | some m => exact Record.set_comm _ _ (by simp [get?_of_effect h]) hne.symm

/-- One transform after another of a different field: both take effect on the values as they are. -/
theorem apply_bind_apply (hne : u.field ≠ t.field) (r : Record) :
    t.apply strict r >>= u.apply strict = (do
      let number ← t.effect strict (r.get t.field)
      let other ← u.effect strict (r.get u.field)
      pure (put (put r t.field number) u.field other)) := by
  rw [apply_eq t strict r]
  cases h : t.effect strict (r.get t.field) with
  | error failure => rfl
  | ok number =>
    have hother := effect_of_touchesOnly (t := u) strict (touchesOnly_put h) hne
    simp only [Except.map, bind, Except.bind, apply_eq u, hother]
    rfl

/-- A transform touches no more than its field. Transforms of two fields that are applied one after
the other give one record in either order, or fail in both. -/
theorem apply_touches (t : Transform) :
    (∀ strict r r', t.apply strict r = .ok r' → TouchesOnly t.field r r') ∧
    ∀ (u : Transform) strict r, u.field ≠ t.field →
      (t.apply strict r >>= u.apply strict).toOption =
        (u.apply strict r >>= t.apply strict).toOption := by
  refine ⟨fun strict r r' h => touchesOnly_of_apply h, fun u strict r hne => ?_⟩
  rw [apply_bind_apply hne, apply_bind_apply hne.symm]
  cases ht : t.effect strict (r.get t.field) with
  | error failure => cases u.effect strict (r.get u.field) <;> rfl
  | ok number =>
    cases u.effect strict (r.get u.field) with
    | error failure => rfl
    | ok other => exact congrArg some (put_comm hne.symm ht)

/-- A level in text is raised, which a path through the level does not see, nor the doubling of the
load. -/
theorem apply_touches_level :
    let raise : Transform := ⟨"level", "add", .int 5⟩
    let double : Transform := ⟨"load", "multiply", .int 2⟩
    let r : Record := [("level", .text " 30 "), ("load", .int 4)]
    let r' : Record := [("level", .int 35), ("load", .int 4)]
    raise.apply false r = .ok r' ∧ TouchesOnly "level" r r' ∧
      r'.lookup "level.low" = r.lookup "level.low" ∧ double.field ≠ raise.field ∧
      (raise.apply false r >>= double.apply false).toOption =
        (double.apply false r >>= raise.apply false).toOption := by
  intro raise double r r'
  have happly : raise.apply false r = .ok r' := rfl
  have hne : double.field ≠ raise.field := by decide
  obtain ⟨htouches, hcommutes⟩ := apply_touches raise
  have honly := htouches false r r' happly
  exact ⟨happly, honly, honly.lookups "level.low" (by decide), hne, hcommutes double false r hne⟩

end EventChain.Transform
