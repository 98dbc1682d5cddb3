import EventChain.Device.Dispatch
import EventChain.Proofs.Deadline
import EventChain.Proofs.Device.Gateway

/-!
# Dispatched actions

How an action ends that has a gateway: with a reply or a fault in time, when its deadline expires,
or never (`perform_performed`). The gateway is sent the command in any case, unless no clock can be
set to the timeout. What it does becomes part of the result; an action has none in the few ways that
`Fails` lists (`perform_fails`), and no config error is among them (`configFree_perform`).
-/

namespace EventChain

def Reply.Showable : Reply → Prop
  | value v => ∃ text, v.display = .ok text
  | attributes _ | acknowledged _ => True

/-- The result as it is where the action sees another record. -/
def ActionResult.seeing (result : ActionResult) (r : Record) : ActionResult :=
  { result with record := r }

def Performance.seeing (p : Performance) (r : Record) : Performance :=
  { p with result := p.result.map (·.seeing r) }

theorem Response.isLate_iff {response : Response} {limit : Rat} :
    response.isLate limit = true ↔ ∀ delay ∈ response.delay, limit ≤ delay := by
  simp [Response.isLate, Option.all_eq_true]

namespace Dispatcher

variable {d : Dispatcher} {gateway : Gateway} {action : Action} {r : Record} {timeout : Timeout}

/-- The timeout of an action: that of the call, or else that of the dispatcher. -/
def inForce (d : Dispatcher) (timeout : Timeout) : Timeout := timeout.or d.defaultTimeout

def commandOf (action : Action) : Command := ⟨action.device, action.command⟩

def InTime (d : Dispatcher) (gateway : Gateway) (action : Action) (timeout : Timeout) : Prop :=
  ∃ span, (d.inForce timeout).span? = .ok span ∧
    ∃ delay ∈ (gateway.send (commandOf action)).delay, ∀ limit ∈ span, delay < limit

inductive Faulted (action : Action) (r : Record) (timeout : Timeout) (fault : DeviceFault) :
    Except Failure ActionResult → Prop
  | timedOut : fault.kind = .timeout →
      Faulted action r timeout fault (timedOutResult action r timeout)
  | interrupted {name : String} : fault.kind = .interruption name →
      Faulted action r timeout fault (throw (.interrupted name fault.detail))
  | shown {text : String} : fault.kind ≠ .timeout → (∀ name, fault.kind ≠ .interruption name) →
      fault.message = .ok text → Faulted action r timeout fault
        (pure ⟨.error, action.command, r, .none, fault.kind.name ++ ": " ++ text, none⟩)
  | unshown {limit : DigitLimit} : fault.kind ≠ .timeout →
      (∀ name, fault.kind ≠ .interruption name) → fault.message = .error limit →
      Faulted action r timeout fault (throw (.digitLimit limit))

theorem faultedResult_faulted (action : Action) (r : Record) (timeout : Timeout)
    (fault : DeviceFault) :
    Faulted action r timeout fault (faultedResult action r timeout fault) := by
  unfold faultedResult
  split
  · next hkind => exact .timedOut hkind
  · next hkind => exact .interrupted hkind
  · next kind htimeout hinterruption =>
    cases hm : fault.message with
    | ok text => exact .shown htimeout hinterruption hm
    | error limit => exact .unshown htimeout hinterruption hm

theorem faultedResult_of_reportable {fault : DeviceFault} (h : fault.Reportable)
    (hkind : fault.kind ≠ .timeout) :
    ∃ text, fault.message = .ok text ∧ faultedResult action r timeout fault =
      .ok ⟨.error, action.command, r, .none, fault.kind.name ++ ": " ++ text, none⟩ := by
  obtain ⟨text, htext⟩ := h.shown
  have hfaulted := faultedResult_faulted action r timeout fault
  generalize faultedResult action r timeout fault = result at hfaulted
  cases hfaulted with
  | timedOut htimeout => exact absurd htimeout hkind
  | interrupted hinterruption => exact absurd hinterruption (h.error _)
  | shown _ _ hm => exact ⟨_, hm, rfl⟩
  | unshown _ _ hm => cases htext.symm.trans hm

inductive Performed (d : Dispatcher) (gateway : Gateway) (action : Action) (r : Record)
    (timeout : Timeout) : Performance → Prop
  | replied {reply : Reply} : d.InTime gateway action timeout →
      (gateway.send (commandOf action)).result = .ok reply →
      Performed d gateway action r timeout ⟨(gateway.send (commandOf action)).delay,
        commandOf action, false, repliedResult action r reply⟩
  | faulted {fault : DeviceFault} : d.InTime gateway action timeout →
      (gateway.send (commandOf action)).result = .error fault →
      Performed d gateway action r timeout ⟨(gateway.send (commandOf action)).delay,
        commandOf action, fault.kind = .timeout, faultedResult action r (d.inForce timeout) fault⟩
  | expired {limit : Rat} : (d.inForce timeout).span? = .ok (some limit) →
      (∀ delay ∈ (gateway.send (commandOf action)).delay, limit ≤ delay) →
      Performed d gateway action r timeout ⟨some limit, commandOf action, true,
        timedOutResult action r (d.inForce timeout)⟩
  | endless : (d.inForce timeout).span? = .ok none →
      (gateway.send (commandOf action)).delay = none →
      Performed d gateway action r timeout ⟨none, commandOf action, false, throw .endless⟩
  | refused {excess : Excess} : (d.inForce timeout).span? = .error excess →
      Performed d gateway action r timeout ⟨some 0, none, false, pure ⟨.error, action.command, r,
        .none, (Failure.excess excess).label ++ ": " ++ excess.message, none⟩⟩

/-- An action that is waited for because its deadline, if it has one, does not expire. -/
theorem awaited_performed {span : Option Rat} (hspan : (d.inForce timeout).span? = .ok span)
    (hlate : ∀ limit ∈ span, ¬ (gateway.send (commandOf action)).isLate limit = true) :
    Performed d gateway action r timeout (awaited action r (d.inForce timeout) (commandOf action)
      (gateway.send (commandOf action))) := by
  unfold awaited
  cases hdelay : (gateway.send (commandOf action)).delay with
  | none =>
    cases span with
    | none => exact .endless hspan hdelay
    | some limit => exact absurd (Response.isLate_iff.mpr (by simp [hdelay])) (hlate limit rfl)
  | some delay =>
    have hin : d.InTime gateway action timeout := by
      refine ⟨span, hspan, delay, hdelay, fun limit hlimit => ?_⟩
      have hnot := mt Response.isLate_iff.mpr (hlate limit hlimit)
      simpa [hdelay] using hnot
    cases hresult : (gateway.send (commandOf action)).result with
    | ok reply => simpa only [hdelay] using Performed.replied (r := r) hin hresult
    | error fault => simpa only [hdelay] using Performed.faulted (r := r) hin hresult

theorem perform_performed (h : d.gateway = some gateway) (action : Action) (r : Record)
    (timeout : Timeout) : Performed d gateway action r timeout (d.perform action r timeout) := by
  unfold perform
  simp only [h]
  split
  · next hspan => exact .refused hspan
  · next hspan => exact awaited_performed hspan nofun
  · next limit hspan =>
    split
    · next hlate => exact .expired hspan (Response.isLate_iff.mp hlate)
    · next hlate =>
      refine awaited_performed hspan ?_
      rintro _ ⟨⟩
      exact hlate

/-- An action under a timeout that no clock can be set to is refused, whatever the gateway. -/
theorem perform_of_span?_eq_error {excess : Excess} (h : d.gateway = some gateway)
    (hspan : (d.inForce timeout).span? = .error excess) :
    d.perform action r timeout = ⟨some 0, none, false, pure ⟨.error, action.command, r, .none,
      (Failure.excess excess).label ++ ": " ++ excess.message, none⟩⟩ := by
  rw [inForce] at hspan
  simp only [perform, h, hspan]

/-- The command of an action as far as it is sent under a timeout: no clock can be set to some. -/
def sends (timeout : Timeout) (action : Action) : List Command :=
  match timeout.span? with
  | .ok _ => [commandOf action]
  | .error _ => []

theorem perform_sent (h : d.gateway = some gateway) :
    (d.perform action r timeout).sent.toList = sends (d.inForce timeout) action := by
  have hp := perform_performed h action r timeout
  generalize d.perform action r timeout = p at hp
  unfold sends
  cases hp with
  | replied hin | faulted hin =>
    obtain ⟨span, hspan, -⟩ := hin
    rw [hspan]
    rfl
  | expired hspan | endless hspan =>
    rw [hspan]
    rfl
  | refused hspan =>
    rw [hspan]
    rfl

/-! ## What a result shows of the action -/

theorem timedOutResult_seeing (r' : Record) :
    timedOutResult action r' timeout = (timedOutResult action r timeout).map (·.seeing r') := by
  unfold timedOutResult
  cases timeout.text <;> rfl

theorem repliedResult_seeing (r' : Record) (reply : Reply) :
    repliedResult action r' reply = (repliedResult action r reply).map (·.seeing r') := by
  unfold repliedResult
  cases reply.acknowledgement? with
  | none =>
    cases reply with
    | value v =>
      dsimp only
      cases v.display <;> rfl
    | attributes entries => rfl
    | acknowledged a => rfl
  | some a =>
    dsimp only
    split <;> rfl

theorem faultedResult_seeing (r' : Record) (fault : DeviceFault) :
    faultedResult action r' timeout fault =
      (faultedResult action r timeout fault).map (·.seeing r') := by
  unfold faultedResult
  split
  · exact timedOutResult_seeing r'
  · rfl
  · cases fault.message <;> rfl

theorem awaited_seeing (r' : Record) (command : Command) (response : Response) :
    awaited action r' timeout command response =
      (awaited action r timeout command response).seeing r' := by
  unfold awaited
  split
  · rfl
  · rw [repliedResult_seeing (r := r)]
    rfl
  · rw [faultedResult_seeing (r := r)]
    rfl

/-- The record that an action sees shows in its result and in nothing else. -/
theorem perform_seeing (d : Dispatcher) (action : Action) (r r' : Record) (timeout : Timeout) :
    d.perform action r' timeout = (d.perform action r timeout).seeing r' := by
  unfold perform
  cases d.gateway with
  | none => rfl
  | some gateway =>
    simp only [timedOutResult_seeing (r := r) r', awaited_seeing (r := r) r']
    rcases Timeout.span? (timeout.or d.defaultTimeout) with excess | _ | limit
    · rfl
    · rfl
    · dsimp only
      split <;> rfl

theorem timedOutResult_echoes {result : ActionResult}
    (h : timedOutResult action r timeout = .ok result) :
    result.command = action.command ∧ result.record = r := by
  obtain ⟨shown, -, h⟩ := bind_eq_ok.mp h
  cases h
  exact ⟨rfl, rfl⟩

theorem repliedResult_echoes {reply : Reply} {result : ActionResult}
    (h : repliedResult action r reply = .ok result) :
    result.command = action.command ∧ result.record = r := by
  unfold repliedResult at h
  split at h
  · split at h
    · obtain ⟨shown, -, h⟩ := bind_eq_ok.mp h
      cases h
      exact ⟨rfl, rfl⟩
    · cases h
      exact ⟨rfl, rfl⟩
  · split at h <;> cases h <;> exact ⟨rfl, rfl⟩

theorem faultedResult_echoes {fault : DeviceFault} {result : ActionResult}
    (h : faultedResult action r timeout fault = .ok result) :
    result.command = action.command ∧ result.record = r := by
  have hfaulted := faultedResult_faulted action r timeout fault
  rw [h] at hfaulted
  generalize hok : Except.ok result = outcome at hfaulted
  cases hfaulted with
  | timedOut => exact timedOutResult_echoes hok.symm
  | shown =>
    cases hok
    exact ⟨rfl, rfl⟩
  | interrupted | unshown => cases hok

theorem perform_echoes {result : ActionResult}
    (h : (d.perform action r timeout).result = .ok result) :
    result.command = action.command ∧ result.record = r := by
  cases hg : d.gateway with
  | none =>
    unfold perform at h
    rw [hg] at h
    cases h
    exact ⟨rfl, rfl⟩
  | some gateway =>
    have hp := perform_performed hg action r timeout
    generalize d.perform action r timeout = p at h hp
    cases hp with
    | replied => exact repliedResult_echoes h
    | faulted => exact faultedResult_echoes h
    | expired => exact timedOutResult_echoes h
    | endless => cases h
    | refused =>
      cases h
      exact ⟨rfl, rfl⟩

/-! ## Failures -/

/-- Why an action has no result though its command was sent: a report cannot show the reply, the
fault or the timeout, the device gives the order to stop, or it never answers. -/
inductive Fails (d : Dispatcher) (gateway : Gateway) (action : Action) (timeout : Timeout) :
    Failure → Prop
  | reply {v : Value} {limit : DigitLimit} : d.InTime gateway action timeout →
      (gateway.send (commandOf action)).result = .ok (.value v) → v.display = .error limit →
      Fails d gateway action timeout (.digitLimit limit)
  | fault {fault : DeviceFault} {limit : DigitLimit} : d.InTime gateway action timeout →
      (gateway.send (commandOf action)).result = .error fault → fault.message = .error limit →
      Fails d gateway action timeout (.digitLimit limit)
  | timeout {fault : DeviceFault} {limit : DigitLimit} : d.InTime gateway action timeout →
      (gateway.send (commandOf action)).result = .error fault → fault.kind = .timeout →
      (d.inForce timeout).text = .error limit → Fails d gateway action timeout (.digitLimit limit)
  | interrupted {fault : DeviceFault} {name : String} : d.InTime gateway action timeout →
      (gateway.send (commandOf action)).result = .error fault → fault.kind = .interruption name →
      Fails d gateway action timeout (.interrupted name fault.detail)
  | endless : (d.inForce timeout).span? = .ok none →
      (gateway.send (commandOf action)).delay = none → Fails d gateway action timeout .endless

theorem timedOutResult_eq_error {failure : Failure}
    (h : timedOutResult action r timeout = .error failure) :
    ∃ limit, timeout.text = .error limit ∧ failure = .digitLimit limit := by
  rcases bind_eq_error.mp h with h | ⟨shown, -, h⟩
  · exact limited_eq_error.mp h
  · cases h

theorem repliedResult_eq_error {reply : Reply} {failure : Failure}
    (h : repliedResult action r reply = .error failure) :
    ∃ v limit, reply = .value v ∧ v.display = .error limit ∧ failure = .digitLimit limit := by
  unfold repliedResult at h
  split at h
  · split at h
    · rcases bind_eq_error.mp h with h | ⟨shown, -, h⟩
      · obtain ⟨limit, hlimit, rfl⟩ := limited_eq_error.mp h
        exact ⟨_, limit, rfl, hlimit, rfl⟩
      · cases h
    · cases h
  · split at h <;> cases h

theorem perform_fails (h : d.gateway = some gateway) {failure : Failure}
    (hp : (d.perform action r timeout).result = .error failure) :
    d.Fails gateway action timeout failure := by
  have hperformed := perform_performed h action r timeout
  generalize d.perform action r timeout = p at hp hperformed
  cases hperformed with
  | replied hin hr =>
    obtain ⟨v, limit, rfl, hlimit, rfl⟩ := repliedResult_eq_error hp
    exact .reply hin hr hlimit
  | @faulted fault hin hr =>
    have hfaulted := faultedResult_faulted action r (d.inForce timeout) fault
    generalize faultedResult action r (d.inForce timeout) fault = result at hp hfaulted
    cases hfaulted with
    | timedOut hkind =>
      obtain ⟨limit, hlimit, rfl⟩ := timedOutResult_eq_error hp
      exact .timeout hin hr hkind hlimit
    | interrupted hkind =>
      cases hp
      exact .interrupted hin hr hkind
    | shown => cases hp
    | unshown _ _ hm =>
      cases hp
      exact .fault hin hr hm
  | expired hspan =>
    -- A deadline that expires is a number that can be shown.
    obtain ⟨limit, hlimit, -⟩ := timedOutResult_eq_error hp
    obtain ⟨-, n, hn, hwritable⟩ := Timeout.span?_eq_some hspan
    obtain ⟨text, htext⟩ := hwritable.text
    rw [hn] at hlimit
    cases htext.symm.trans hlimit
  | endless hspan hdelay =>
    cases hp
    exact .endless hspan hdelay
  | refused => cases hp

section
variable {P : Failure → Prop}

/-- Whatever a device raises, and whichever deadline of its own expires, an action has a result that
only the limit on digits, the order to stop and a wait without end can fail. -/
theorem failsWith_perform (hlimit : ∀ limit, P (.digitLimit limit))
    (hstop : ∀ name detail, P (.interrupted name detail)) (hwait : P .endless) :
    FailsWith P (d.perform action r timeout).result := by
  intro failure h
  cases hg : d.gateway with
  | none =>
    unfold perform at h
    rw [hg] at h
    cases h
  | some gateway =>
    cases perform_fails hg h with
    | reply | fault | timeout => exact hlimit _
    | interrupted => exact hstop _ _
    | endless => exact hwait

theorem configFree_perform : ConfigFree (d.perform action r timeout).result :=
  failsWith_perform Failure.not_isConfig_digitLimit (fun _ _ => by simp [Failure.IsConfig])
    (by simp [Failure.IsConfig])

end

/-! ## Reports -/

/-- No report of an action fails. Replies can be shown, what devices raise are errors that can be
shown, and so can the timeout, or else nothing is sent under it, or no device raises a timeout of
its own; and without a timeout every device answers some time. -/
structure Reporting (d : Dispatcher) (timeout : Timeout) : Prop where
  replies : ∀ gateway ∈ d.gateway, ∀ earlier command reply,
    ((gateway.after earlier).send command).result = .ok reply → reply.Showable
  faults : ∀ gateway ∈ d.gateway, ∀ earlier, (gateway.after earlier).Reportable
  timeouts : ∀ limit, (d.inForce timeout).text = .error limit →
    (∃ excess, (d.inForce timeout).span? = .error excess) ∨
      ∀ gateway ∈ d.gateway, ∀ earlier, (gateway.after earlier).Punctual
  ends : (d.inForce timeout).span? = .ok none →
    ∀ gateway ∈ d.gateway, ∀ earlier, (gateway.after earlier).Prompt

theorem Reporting.perform_eq_ok (h : d.Reporting timeout) (earlier : List Command)
    (action : Action) (r : Record) :
    ∃ result, ((d.after earlier).perform action r timeout).result = .ok result := by
  cases hg : d.gateway with
  | none =>
    unfold perform after
    rw [hg]
    exact ⟨_, rfl⟩
  | some gateway =>
    have hafter : (d.after earlier).gateway = some (gateway.after earlier) := by
      simp [after, hg]
    cases hp : ((d.after earlier).perform action r timeout).result with
    | ok result => exact ⟨result, rfl⟩
    | error failure =>
      exfalso
      cases perform_fails hafter hp with
      | reply _ hr hlimit =>
        obtain ⟨text, htext⟩ := h.replies gateway hg earlier _ _ hr
        cases htext.symm.trans hlimit
      | fault _ hr hlimit =>
        obtain ⟨text, htext⟩ := (h.faults gateway hg earlier _ _ hr).shown
        cases htext.symm.trans hlimit
      | timeout hin hr hkind hlimit =>
        obtain ⟨span, hspan, -⟩ := hin
        rcases h.timeouts _ hlimit with ⟨excess, hexcess⟩ | hpunctual
        · cases hspan.symm.trans hexcess
        · exact hpunctual gateway hg earlier _ _ hr hkind
      | interrupted _ hr hkind => exact (h.faults gateway hg earlier _ _ hr).error _ hkind
      | endless hspan hdelay =>
        obtain ⟨delay, hsome⟩ := h.ends hspan gateway hg earlier (commandOf action)
        cases hdelay.symm.trans hsome

/-! ## Gateways of one reply, and of scripts -/

theorem reporting_constant {reply : Reply} (hg : d.gateway = some (.constant reply))
    (h : reply.Showable) : d.Reporting timeout where
  replies := by
    intro gateway hgateway earlier command other hr
    cases hg.symm.trans hgateway
    cases hr
    exact h
  faults := by
    intro gateway hgateway earlier
    cases hg.symm.trans hgateway
    exact nofun
  timeouts limit _ := by
    refine .inr fun gateway hgateway earlier => ?_
    cases hg.symm.trans hgateway
    exact nofun
  ends := by
    intro _ gateway hgateway earlier
    cases hg.symm.trans hgateway
    exact fun _ => ⟨0, rfl⟩

/-- Answers do not depend on what was sent before. -/
def Forgetful (d : Dispatcher) : Prop := ∀ earlier, d.after earlier = d

def Scripted (d : Dispatcher) : Prop :=
  ∃ standard scripts, d.gateway = some (.scripted standard scripts)

theorem Scripted.after_eq (h : d.Scripted) (earlier : List Command) : d.after earlier = d := by
  obtain ⟨standard, scripts, h⟩ := h
  obtain ⟨gateway, default⟩ := d
  cases h
  rfl

theorem Scripted.forgetful (h : d.Scripted) : d.Forgetful := h.after_eq

/-- Scripts that raise errors which can be shown, and that answer some time, make a dispatcher
report under any timeout that can be shown. -/
theorem reporting_scripted {standard : Behaviour} {scripts : List (Option String × Behaviour)}
    (hg : d.gateway = some (.scripted standard scripts)) (h : standard.Reportable)
    (hs : ∀ script ∈ scripts, script.2.Reportable)
    (htext : ∃ text, (d.inForce timeout).text = .ok text)
    (hprompt : (d.inForce timeout).span? = .ok none →
      standard.Prompt ∧ ∀ script ∈ scripts, script.2.Prompt) : d.Reporting timeout where
  replies := by
    intro gateway hgateway earlier command reply hr
    cases hg.symm.trans hgateway
    rw [Gateway.send_scripted_eq_ok hr]
    trivial
  faults := by
    intro gateway hgateway earlier
    cases hg.symm.trans hgateway
    exact Gateway.reportable_scripted h hs
  timeouts limit hlimit := by
    obtain ⟨text, htext⟩ := htext
    cases htext.symm.trans hlimit
  ends := by
    intro hspan gateway hgateway earlier
    cases hg.symm.trans hgateway
    exact Gateway.prompt_scripted (hprompt hspan).1 (hprompt hspan).2

end Dispatcher

end EventChain
