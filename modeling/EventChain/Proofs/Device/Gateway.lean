import EventChain.Device.Gateway
import Mathlib.Algebra.Order.Ring.Rat

/-!
# Gateways

No answer of a gateway takes less than no time (`Gateway.delay_nonneg`). What a scripted gateway
sends back is what the script of the device says, unless the command cannot be shown or the delay is
too long for a clock (`Gateway.send_behaves`); so a fault of it is one of a script, or an error with
a text (`Gateway.fault_of_scripts`).
-/

namespace EventChain

/-! ## Faults -/

/-- The fault is an error, and a report can show it. -/
structure DeviceFault.Reportable (fault : DeviceFault) : Prop where
  error : ∀ name, fault.kind ≠ .interruption name
  shown : ∃ text, fault.message = .ok text

theorem DeviceFault.reportable_text {kind : DeviceFaultKind}
    (h : ∀ name, kind ≠ .interruption name) (text : String) :
    DeviceFault.Reportable ⟨kind, .text text⟩ := by
  refine ⟨h, ?_⟩
  unfold message
  split <;> exact ⟨_, rfl⟩

/-- The device raises no timeout of its own. -/
def Behaviour.Punctual (b : Behaviour) : Prop :=
  ∀ fault, b.fault = some fault → fault.kind ≠ .timeout

def Behaviour.Reportable (b : Behaviour) : Prop := ∀ fault, b.fault = some fault → fault.Reportable

theorem Behaviour.Reportable.of_no_fault {b : Behaviour} (h : b.fault = none) : b.Reportable := by
  intro fault hfault
  cases h.symm.trans hfault

def Behaviour.Prompt (b : Behaviour) : Prop := ∃ seconds, b.delay.seconds = some seconds

theorem Number.seconds_nonneg {n : Number} {seconds : Rat} (h : n.seconds = some seconds) :
    0 ≤ seconds := by
  unfold Number.seconds at h
  split at h
  · cases h
    split
    · exact le_refl 0
    · next hneg => exact not_lt.mp hneg
  · cases h
  · cases h
    exact le_refl 0
  · cases h
    exact le_refl 0

namespace Gateway

def Punctual (gateway : Gateway) : Prop :=
  ∀ command fault, (gateway.send command).result = .error fault → fault.kind ≠ .timeout

def Reportable (gateway : Gateway) : Prop :=
  ∀ command fault, (gateway.send command).result = .error fault → fault.Reportable

def Prompt (gateway : Gateway) : Prop :=
  ∀ command, ∃ delay, (gateway.send command).delay = some delay

/-! ## Scripts -/

section
variable {standard : Behaviour} {scripts : List (Option String × Behaviour)} {command : Command}

theorem behaviour_of_scripts {P : Behaviour → Prop} (h : P standard)
    (hs : ∀ script ∈ scripts, P script.2) (device : Option String) :
    P ((scripts.lookup device).getD standard) := by
  cases hl : scripts.lookup device with
  | none => exact h
  | some behaviour =>
    obtain ⟨before, rest, hsplit, -⟩ := List.lookup_eq_some_iff.mp hl
    exact hs (device, behaviour) (by simp [hsplit])

inductive Behaves (b : Behaviour) : Response → Prop
  | unshown {limit : DigitLimit} : Behaves b ⟨some 0, .error ⟨.value, .text limit.message⟩⟩
  | tooLong {name text : String} : Behaves b ⟨some 0, .error ⟨.other name, .text text⟩⟩
  | fails {fault : DeviceFault} : b.fault = some fault → Behaves b ⟨b.delay.seconds, .error fault⟩
  | acknowledges : b.fault = none →
      Behaves b ⟨b.delay.seconds, .ok (.acknowledged ⟨b.ack, b.response⟩)⟩

theorem send_behaves (standard : Behaviour) (scripts : List (Option String × Behaviour))
    (command : Command) :
    Behaves ((scripts.lookup command.device).getD standard)
      ((scripted standard scripts).send command) := by
  rw [send]
  split
  · exact .unshown
  · dsimp only
    split
    · exact .tooLong
    · split
      · next hfault => exact .fails hfault
      · next hnone => exact .acknowledges hnone

/-- What holds of the faults in scripts, and of errors with a text, holds of the faults of a
gateway. -/
theorem fault_of_scripts {P : DeviceFault → Prop}
    (htext : ∀ kind text, kind ≠ .timeout → (∀ name, kind ≠ .interruption name) →
      P ⟨kind, .text text⟩)
    (h : ∀ fault, standard.fault = some fault → P fault)
    (hs : ∀ script ∈ scripts, ∀ fault, script.2.fault = some fault → P fault)
    {fault : DeviceFault} (hf : ((scripted standard scripts).send command).result = .error fault) :
    P fault := by
  have hbehaves := send_behaves standard scripts command
  have hfaults := behaviour_of_scripts (P := fun b => ∀ fault, b.fault = some fault → P fault)
    h hs command.device
  generalize (scripts.lookup command.device).getD standard = b,
    (scripted standard scripts).send command = response at hbehaves hfaults hf
  cases hbehaves with
  | unshown | tooLong =>
    cases hf
    exact htext _ _ nofun nofun
  | fails hfault =>
    cases hf
    exact hfaults _ hfault
  | acknowledges => cases hf

theorem punctual_scripted (h : standard.Punctual) (hs : ∀ script ∈ scripts, script.2.Punctual) :
    (scripted standard scripts).Punctual :=
  fun _ _ => fault_of_scripts (fun _ _ hkind _ => hkind) h hs

theorem reportable_scripted (h : standard.Reportable)
    (hs : ∀ script ∈ scripts, script.2.Reportable) : (scripted standard scripts).Reportable :=
  fun _ _ => fault_of_scripts (fun _ text _ hkind => DeviceFault.reportable_text hkind text) h hs

theorem prompt_scripted (h : standard.Prompt) (hs : ∀ script ∈ scripts, script.2.Prompt) :
    (scripted standard scripts).Prompt := by
  intro command
  have hbehaves := send_behaves standard scripts command
  have hprompt := behaviour_of_scripts (P := Behaviour.Prompt) h hs command.device
  generalize (scripts.lookup command.device).getD standard = b,
    (scripted standard scripts).send command = response at hbehaves hprompt
  cases hbehaves with
  | unshown | tooLong => exact ⟨0, rfl⟩
  | fails | acknowledges => exact hprompt

theorem send_scripted_eq_ok {reply : Reply}
    (h : ((scripted standard scripts).send command).result = .ok reply) :
    let behaviour := (scripts.lookup command.device).getD standard
    reply = .acknowledged ⟨behaviour.ack, behaviour.response⟩ := by
  have hbehaves := send_behaves standard scripts command
  generalize (scripted standard scripts).send command = response at hbehaves h
  cases hbehaves with
  | unshown | tooLong | fails => cases h
  | acknowledges =>
    cases h
    rfl

end

/-! ## Delays -/

theorem delay_nonneg {gateway : Gateway} {command : Command} {delay : Rat}
    (h : (gateway.send command).delay = some delay) : 0 ≤ delay := by
  cases gateway with
  | constant reply =>
    cases h
    exact le_refl 0
  | scripted standard scripts =>
    have hbehaves := send_behaves standard scripts command
    generalize (scripted standard scripts).send command = response at hbehaves h
    cases hbehaves with
    | unshown | tooLong =>
      cases h
      exact le_refl 0
    | fails | acknowledges => exact Number.seconds_nonneg h
  | transport answer =>
    obtain ⟨seconds, -, rfl⟩ := Option.map_eq_some_iff.mp h
    split
    · exact le_refl 0
    · next hneg => exact not_lt.mp hneg

end Gateway

end EventChain
