import EventChain.Chain

/-!
# Computations that fail

How computations of the engine end: `bind_eq_ok` and `bind_eq_error` take a sequence of two
apart, `limited_eq_error` and `attributed_eq_error` say what a digit limit and an attribution to
a node make of a failure. `Failure.ofConfig_eq_config` names the only way in which a fault
surfaces as a config error: its message can be written. `FailsWith` says which failures end a
computation, and `ConfigFree` that no config error does.
-/

namespace EventChain

section
variable {ε α β : Type}

theorem bind_eq_ok {x : Except ε α} {f : α → Except ε β} {b : β} :
    (x >>= f) = .ok b ↔ ∃ a, x = .ok a ∧ f a = .ok b := by
  cases x with
  | error e => simp [bind, Except.bind]
  | ok a => simp [bind, Except.bind]

theorem bind_eq_error {x : Except ε α} {f : α → Except ε β} {e : ε} :
    (x >>= f) = .error e ↔ x = .error e ∨ ∃ a, x = .ok a ∧ f a = .error e := by
  cases x with
  | error e => simp [bind, Except.bind]
  | ok a => simp [bind, Except.bind]

theorem bind_pure_eq_error {x : Except ε α} {f : α → β} {e : ε} :
    (do return f (← x)) = .error e ↔ x = .error e := by
  cases x <;> simp [bind, Except.bind, pure, Except.pure]

@[simp] theorem pure_eq_ok {a b : α} : (pure a : Except ε α) = .ok b ↔ a = b :=
  ⟨fun h => Except.ok.inj h, fun h => congrArg _ h⟩

@[simp] theorem pure_ne_error {a : α} {e : ε} : (pure a : Except ε α) ≠ .error e := nofun

@[simp] theorem throw_eq_error {e f : ε} : (throw e : Except ε α) = .error f ↔ e = f :=
  ⟨fun h => Except.error.inj h, fun h => congrArg _ h⟩

@[simp] theorem throw_ne_ok {e : ε} {a : α} : (throw e : Except ε α) ≠ .ok a := nofun

theorem forM_eq_ok {xs : List α} {f : α → Except ε Unit} :
    xs.forM f = .ok () ↔ ∀ x ∈ xs, f x = .ok () := by
  induction xs with
  | nil => simp [List.forM]
  | cons x rest ih =>
    rw [List.forM, bind_eq_ok, List.forall_mem_cons, ih]
    exact ⟨fun ⟨_, h, hrest⟩ => ⟨h, hrest⟩, fun ⟨h, hrest⟩ => ⟨(), h, hrest⟩⟩

end

section
variable {α : Type}

@[simp] theorem limited_eq_ok {x : Except DigitLimit α} {a : α} :
    limited x = .ok a ↔ x = .ok a := by
  cases x <;> simp [limited]

theorem limited_eq_error {x : Except DigitLimit α} {failure : Failure} :
    limited x = .error failure ↔ ∃ limit, x = .error limit ∧ failure = .digitLimit limit := by
  cases x with
  | error limit => simp [limited, eq_comm (b := failure)]
  | ok a => simp [limited]

@[simp] theorem attributed_eq_ok {node : Value} {x : Except Failure α} {a : α} :
    attributed node x = .ok a ↔ x = .ok a := by
  cases x <;> simp [attributed]

theorem attributed_eq_error {node : Value} {x : Except Failure α} {failure : Failure} :
    attributed node x = .error failure ↔
      ∃ inner, x = .error inner ∧ failure = inner.attribute node := by
  cases x with
  | error inner => simp [attributed, eq_comm (b := failure)]
  | ok a => simp [attributed]

@[simp] theorem refuse_ne_ok {fault : ConfigFault} {path : Option String} {a : α} :
    (refuse fault path : Except Failure α) ≠ .ok a := by
  simp [refuse]

end

namespace Failure

def IsConfig (failure : Failure) : Prop := ∃ e, failure = .config e

theorem ofConfig_eq_config {e e' : ConfigError} :
    ofConfig e = .config e' ↔ e = e' ∧ ∃ text, e.message = .ok text := by
  unfold ofConfig
  cases e.message <;> simp

theorem ofConfig_eq_of_message {e : ConfigError} {text : String} (h : e.message = .ok text) :
    ofConfig e = .config e := by
  simp [ofConfig, h]

theorem message_eq_ok {e : ConfigError} (hf : ∃ text, e.fault.message = .ok text)
    (hn : ∃ text, e.node.plain = .ok text) : ∃ text, e.message = .ok text := by
  obtain ⟨text, hf⟩ := hf
  obtain ⟨shown, hn⟩ := hn
  unfold ConfigError.message
  rw [hf, hn]
  exact ⟨_, rfl⟩

theorem not_isConfig_digitLimit (limit : DigitLimit) : ¬ (digitLimit limit).IsConfig := by
  rintro ⟨e, h⟩
  cases h

theorem not_isConfig_excess (x : Excess) : ¬ (excess x).IsConfig := by
  rintro ⟨e, h⟩
  cases h

theorem attribute_eq_config {node : Value} {failure : Failure} {e : ConfigError}
    (h : failure.attribute node = .config e) :
    ∃ inner, failure = .config inner ∧ e = inner.withNode node := by
  cases failure with
  | config inner => exact ⟨inner, rfl, (ofConfig_eq_config.mp h).1.symm⟩
  | _ => cases h

end Failure

/-! ## What a computation fails with -/

section
variable {α β : Type} {P : Failure → Prop}

/-- The failures of the computation are among these. -/
def FailsWith (P : Failure → Prop) (x : Except Failure α) : Prop :=
  ∀ failure, x = .error failure → P failure

theorem failsWith_pure (a : α) : FailsWith P (pure a) := fun _ h => absurd h pure_ne_error

theorem failsWith_throw {failure : Failure} (h : P failure) :
    FailsWith P (throw failure : Except Failure α) :=
  fun _ heq => throw_eq_error.mp heq ▸ h

theorem failsWith_limited (h : ∀ limit, P (.digitLimit limit)) (x : Except DigitLimit α) :
    FailsWith P (limited x) := by
  intro failure heq
  obtain ⟨limit, -, rfl⟩ := limited_eq_error.mp heq
  exact h limit

theorem FailsWith.bind {x : Except Failure α} {f : α → Except Failure β} (hx : FailsWith P x)
    (hf : ∀ a, x = .ok a → FailsWith P (f a)) : FailsWith P (x >>= f) := by
  intro failure h
  rcases bind_eq_error.mp h with h | ⟨a, ha, h⟩
  · exact hx failure h
  · exact hf a ha failure h

theorem failsWith_limited_bind (h : ∀ limit, P (.digitLimit limit)) {x : Except DigitLimit α}
    {f : α → Except Failure β} (hf : ∀ a, x = .ok a → FailsWith P (f a)) :
    FailsWith P (limited x >>= f) :=
  (failsWith_limited h x).bind fun a ha => hf a (limited_eq_ok.mp ha)

def ConfigFree (x : Except Failure α) : Prop :=
  ∀ failure, x = .error failure → ¬ failure.IsConfig

theorem configFree_pure (a : α) : ConfigFree (pure a) := failsWith_pure a

theorem configFree_limited (x : Except DigitLimit α) : ConfigFree (limited x) :=
  failsWith_limited Failure.not_isConfig_digitLimit x

theorem configFree_excess (x : Excess) : ConfigFree (throw (.excess x) : Except Failure α) :=
  failsWith_throw (Failure.not_isConfig_excess x)

theorem ConfigFree.bind {x : Except Failure α} {f : α → Except Failure β} (hx : ConfigFree x)
    (hf : ∀ a, x = .ok a → ConfigFree (f a)) : ConfigFree (x >>= f) :=
  FailsWith.bind hx hf

theorem configFree_limited_bind {x : Except DigitLimit α} {f : α → Except Failure β}
    (hf : ∀ a, x = .ok a → ConfigFree (f a)) : ConfigFree (limited x >>= f) :=
  failsWith_limited_bind Failure.not_isConfig_digitLimit hf

end

end EventChain
