import EventChain.Device.Shift
import EventChain.Proofs.Device.Dispatch
import EventChain.Proofs.Tally

/-!
# What the calls of a dispatcher come to

Every call of a dispatcher has a result, and the result tells what became of the call
(`Dispatcher.Classified`): skipped without a gateway, a success where a reply that acknowledges came
in time, timed out where the deadline expired, an error in all other cases. Over a shift the counter
of actions agrees with the results that show its code (`Shift.play_classifies`).
-/

namespace EventChain

/-! ## Ordinary gateways -/

/-- A reply that can be shown, and that acknowledges by a boolean if it is an acknowledgement. -/
structure Reply.Ordinary (reply : Reply) : Prop where
  showable : reply.Showable
  marked : ∀ a, reply = .acknowledged a → ∃ mark, a.ack = .boolean mark

/-- A device that acknowledges by a boolean, waits for a finite time, and raises only errors that
can be shown and are no timeouts. -/
structure Behaviour.Ordinary (b : Behaviour) : Prop where
  marked : ∃ mark, b.ack = .boolean mark
  finite : ∃ q, b.delay.place? = some (.finite q)
  punctual : b.Punctual
  reportable : b.Reportable

theorem Behaviour.Ordinary.prompt {b : Behaviour} (h : b.Ordinary) : b.Prompt := by
  obtain ⟨q, hq⟩ := h.finite
  unfold Prompt Number.seconds
  rw [hq]
  exact ⟨_, rfl⟩

/-- A gateway that gives one ordinary reply, or of which all scripts are ordinary. -/
inductive Gateway.Ordinary : Gateway → Prop
  | constant {reply : Reply} (hreply : reply.Ordinary) : Ordinary (.constant reply)
  | scripted {standard : Behaviour} {scripts : List (Option String × Behaviour)}
      (hstandard : standard.Ordinary) (hscripts : ∀ script ∈ scripts, script.2.Ordinary) :
      Ordinary (.scripted standard scripts)

theorem Gateway.Ordinary.after_eq {gateway : Gateway} (h : gateway.Ordinary)
    (earlier : List Command) : gateway.after earlier = gateway := by
  cases h <;> rfl

theorem Gateway.Ordinary.punctual {gateway : Gateway} (h : gateway.Ordinary) :
    gateway.Punctual := by
  cases h with
  | constant => exact nofun
  | scripted hstandard hscripts =>
    exact punctual_scripted hstandard.punctual fun script hs => (hscripts script hs).punctual

theorem Gateway.Ordinary.reportable {gateway : Gateway} (h : gateway.Ordinary) :
    gateway.Reportable := by
  cases h with
  | constant => exact nofun
  | scripted hstandard hscripts =>
    exact reportable_scripted hstandard.reportable fun script hs => (hscripts script hs).reportable

theorem Gateway.Ordinary.prompt {gateway : Gateway} (h : gateway.Ordinary) : gateway.Prompt := by
  cases h with
  | constant => exact fun _ => ⟨0, rfl⟩
  | scripted hstandard hscripts =>
    exact prompt_scripted hstandard.prompt fun script hs => (hscripts script hs).prompt

theorem Gateway.Ordinary.reply {gateway : Gateway} (h : gateway.Ordinary) {command : Command}
    {reply : Reply} (hr : (gateway.send command).result = .ok reply) : reply.Ordinary := by
  cases h with
  | constant hreply =>
    cases hr
    exact hreply
  | @scripted standard scripts hstandard hscripts =>
    have hbehaviour := behaviour_of_scripts (P := Behaviour.Ordinary) hstandard hscripts
      command.device
    rw [send_scripted_eq_ok hr]
    refine ⟨trivial, ?_⟩
    rintro _ ⟨⟩
    exact hbehaviour.marked

namespace Reply

def Accepts (reply : Reply) : Prop :=
  ∃ response, reply.acknowledgement? = some ⟨.boolean true, response⟩

/-- The response of an acknowledgement, or the whole reply where it is malformed. -/
def response (reply : Reply) : Reply :=
  match reply.acknowledgement? with
  | some a => .value a.response
  | .none => reply

theorem boolean_of_marked? {ack response : Value} {a : Acknowledgement}
    (h : marked? ack response = some a) : ∃ mark, a.ack = .boolean mark := by
  unfold marked? at h
  split at h
  · cases h
    exact ⟨_, rfl⟩
  · cases h

theorem Ordinary.boolean {reply : Reply} (h : reply.Ordinary) {a : Acknowledgement}
    (ha : reply.acknowledgement? = some a) : ∃ mark, a.ack = .boolean mark := by
  unfold acknowledgement? at ha
  split at ha
  · cases ha
    exact h.marked a rfl
  · exact boolean_of_marked? ha
  · exact boolean_of_marked? ha
  · cases ha

end Reply

namespace Dispatcher

/-! ## What becomes of a call -/

variable {d : Dispatcher} {gateway : Gateway} {call : Call} {reply : Reply}

/-- The gateway gives the reply, and that before the deadline in force. -/
def Answers (d : Dispatcher) (call : Call) (reply : Reply) : Prop :=
  ∃ gateway ∈ d.gateway, d.InTime gateway call.action call.timeout ∧
    (gateway.send (commandOf call.action)).result = .ok reply

def Expires (d : Dispatcher) (call : Call) : Prop :=
  ∃ gateway ∈ d.gateway, ∃ limit, (d.inForce call.timeout).span? = .ok (some limit) ∧
    ∀ delay ∈ (gateway.send (commandOf call.action)).delay, limit ≤ delay

/-- The commands that a call sends: its own, if there is a gateway and a clock can be set to the
deadline in force. -/
def sent (d : Dispatcher) (call : Call) : List Command :=
  match d.gateway with
  | none => []
  | some _ => sends (d.inForce call.timeout) call.action

theorem perform_sent_eq (d : Dispatcher) (call : Call) :
    (d.perform call.action call.record call.timeout).sent.toList = d.sent call := by
  unfold sent
  cases hg : d.gateway with
  | none =>
    unfold perform
    rw [hg]
    rfl
  | some gateway => exact perform_sent hg

theorem answers_iff (h : d.gateway = some gateway) :
    d.Answers call reply ↔ d.InTime gateway call.action call.timeout ∧
      (gateway.send (commandOf call.action)).result = .ok reply := by
  simp [Answers, h]

theorem not_expires_of_inTime (h : d.gateway = some gateway)
    (hin : d.InTime gateway call.action call.timeout) : ¬ d.Expires call := by
  rintro ⟨other, hother, limit, hlimit, hle⟩
  cases h.symm.trans hother
  obtain ⟨span, hspan, delay, hdelay, hlt⟩ := hin
  cases hspan.symm.trans hlimit
  exact (hlt limit rfl).not_ge (hle delay hdelay)

theorem not_expires_of_no_gateway (h : d.gateway = none) : ¬ d.Expires call := by
  rintro ⟨gateway, hgateway, -⟩
  cases h.symm.trans hgateway

theorem not_expires_of_no_limit
    (h : ∀ limit, (d.inForce call.timeout).span? ≠ .ok (some limit)) : ¬ d.Expires call := by
  rintro ⟨-, -, limit, hlimit, -⟩
  exact h limit hlimit

theorem not_inTime_of_refused {excess : Excess}
    (h : (d.inForce call.timeout).span? = .error excess) :
    ¬ d.InTime gateway call.action call.timeout := by
  rintro ⟨span, hspan, -⟩
  cases h.symm.trans hspan

theorem forgetful_of_ordinary (h : ∀ gateway ∈ d.gateway, gateway.Ordinary) : d.Forgetful := by
  intro earlier
  obtain ⟨gateway, defaultTimeout⟩ := d
  cases gateway with
  | none => rfl
  | some gateway => simp [after, (h gateway rfl).after_eq]

structure Classified (d : Dispatcher) (call : Call) (result : ActionResult) : Prop where
  skipped : result.status = .skipped ↔ d.gateway = none
  success : result.status = .success ↔ ∃ reply, d.Answers call reply ∧ reply.Accepts
  expired : result.code = some .action ↔ d.Expires call
  uncoded : result.code = none ↔ ¬ d.Expires call
  answered : ∀ reply, d.Answers call reply → result.response = reply.response
  unanswered : (∀ reply, ¬ d.Answers call reply) → result.response = .none

theorem repliedResult_classified (h : reply.Ordinary) (action : Action) (r : Record) :
    ∃ result, repliedResult action r reply = .ok result ∧ result.status ≠ .skipped ∧
      (result.status = .success ↔ reply.Accepts) ∧ result.code = none ∧
      result.response = reply.response := by
  unfold repliedResult Reply.Accepts Reply.response
  cases ha : reply.acknowledgement? with
  | none =>
    cases reply with
    | value v =>
      obtain ⟨text, ht⟩ := h.showable
      dsimp only
      rw [ht]
      exact ⟨_, rfl, nofun, by simp, rfl, rfl⟩
    | attributes entries => exact ⟨_, rfl, nofun, by simp, rfl, rfl⟩
    | acknowledged a => cases ha
  | some a =>
    obtain ⟨ack, response⟩ := a
    obtain ⟨mark, rfl⟩ : ∃ mark, ack = .boolean mark := h.boolean ha
    cases mark with
    | true => exact ⟨_, rfl, nofun, by simp, rfl, rfl⟩
    | false => exact ⟨_, rfl, nofun, by simp, rfl, rfl⟩

/-- An error without a response is the result of a call that no reply comes to in time. -/
theorem classified_of_unanswered {result : ActionResult} (hg : d.gateway = some gateway)
    (hanswers : ∀ reply, ¬ d.Answers call reply) (hstatus : result.status = .error)
    (hresponse : result.response = .none) (hexpired : result.code = some .action ↔ d.Expires call)
    (huncoded : result.code = none ↔ ¬ d.Expires call) : d.Classified call result where
  skipped := by simp [hstatus, hg]
  success := by simp [hstatus, hanswers]
  expired := hexpired
  uncoded := huncoded
  answered reply hreply := absurd hreply (hanswers reply)
  unanswered _ := hresponse

theorem classified_of_no_gateway (hg : d.gateway = none) :
    d.Classified call ⟨.skipped, call.action.command, call.record, .none, none, none⟩ := by
  have hanswers (reply : Reply) : ¬ d.Answers call reply := by
    rintro ⟨gateway, hgateway, -⟩
    cases hg.symm.trans hgateway
  have hexpires : ¬ d.Expires call := not_expires_of_no_gateway hg
  exact ⟨by simp [hg], by simp [hanswers], by simp [hexpires], by simp [hexpires],
    fun reply hreply => absurd hreply (hanswers reply), fun _ => rfl⟩

theorem classified_of_reply (hg : d.gateway = some gateway) (h : reply.Ordinary)
    (hin : d.InTime gateway call.action call.timeout)
    (hr : (gateway.send (commandOf call.action)).result = .ok reply) :
    ∃ result, repliedResult call.action call.record reply = .ok result ∧
      d.Classified call result ∧ result.code = none := by
  have hexpires := not_expires_of_inTime hg hin
  have hanswers {other : Reply} : d.Answers call other ↔ other = reply := by
    rw [answers_iff hg, hr]
    simp [hin, eq_comm]
  obtain ⟨result, hresult, hskipped, hsuccess, hcode, hresponse⟩ :=
    repliedResult_classified h call.action call.record
  refine ⟨result, hresult, ⟨?_, ?_, ?_, ?_, ?_, ?_⟩, hcode⟩
  · simp [hskipped, hg]
  · simp [hsuccess, hanswers]
  · simp [hcode, hexpires]
  · simp [hcode, hexpires]
  · rintro other hother
    rw [hresponse, hanswers.mp hother]
  · exact fun hnone => absurd (hanswers.mpr rfl) (hnone reply)

theorem perform_classified (h : ∀ gateway ∈ d.gateway, gateway.Ordinary) (call : Call) :
    ∃ result, (d.perform call.action call.record call.timeout).result = .ok result ∧
      d.Classified call result ∧
      ((d.perform call.action call.record call.timeout).timedOut = true ↔
        result.code = some .action) := by
  cases hg : d.gateway with
  | none =>
    unfold perform
    rw [hg]
    exact ⟨_, rfl, classified_of_no_gateway hg, by simp⟩
  | some gateway =>
    have hordinary := h gateway hg
    have hp := perform_performed hg call.action call.record call.timeout
    generalize d.perform call.action call.record call.timeout = p at hp
    cases hp with
    | replied hin hr =>
      obtain ⟨result, hresult, hclassified, hcode⟩ :=
        classified_of_reply hg (hordinary.reply hr) hin hr
      exact ⟨result, hresult, hclassified, by simp [hcode]⟩
    | faulted hin hr =>
      have hexpires := not_expires_of_inTime hg hin
      have hanswers (reply : Reply) : ¬ d.Answers call reply := by
        simp [answers_iff hg, hr]
      have hkind := hordinary.punctual _ _ hr
      obtain ⟨text, -, hresult⟩ := faultedResult_of_reportable (hordinary.reportable _ _ hr) hkind
      exact ⟨_, hresult, classified_of_unanswered hg hanswers rfl rfl (by simp [hexpires])
        (by simp [hexpires]), by simp [hkind]⟩
    | endless _ hdelay =>
      obtain ⟨delay, hsome⟩ := hordinary.prompt (commandOf call.action)
      cases hdelay.symm.trans hsome
    | @expired limit hspan hle =>
      have hexpires : d.Expires call := ⟨gateway, hg, limit, hspan, hle⟩
      have hanswers (reply : Reply) : ¬ d.Answers call reply :=
        fun h => not_expires_of_inTime hg ((answers_iff hg).mp h).1 hexpires
      obtain ⟨-, n, hn, hwritable⟩ := Timeout.span?_eq_some hspan
      obtain ⟨text, htext⟩ : ∃ text, Timeout.text (d.inForce call.timeout) = .ok text :=
        hn ▸ hwritable.text
      rw [timedOutResult, htext]
      exact ⟨_, rfl, classified_of_unanswered hg hanswers rfl rfl (by simp [hexpires])
        (by simp [hexpires]), by simp⟩
    | refused hspan =>
      have hexpires : ¬ d.Expires call := not_expires_of_no_limit (by simp [hspan])
      have hanswers (reply : Reply) : ¬ d.Answers call reply :=
        fun h => not_inTime_of_refused hspan ((answers_iff hg).mp h).1
      exact ⟨_, rfl, classified_of_unanswered hg hanswers rfl rfl (by simp [hexpires])
        (by simp [hexpires]), by simp⟩

end Dispatcher

namespace Shift

/-! ## Shifts -/

variable {s : Shift}

def expirations (s : Shift) : Nat := s.log.expired.countP fun e => e.1 = .action

theorem count_tally (s : Shift) : (s.tally .action).count = s.expirations := by
  rw [tally, Tally.count_recordAll]
  exact Nat.zero_add _

theorem take_classifies (h : ∀ gateway ∈ s.dispatcher.gateway, gateway.Ordinary)
    (call : Dispatcher.Call) :
    ∃ result, (s.take call).2 = .ok result ∧ s.dispatcher.Classified call result ∧
      (s.take call).1.dispatcher = s.dispatcher ∧
      (s.take call).1.log.sent = s.log.sent ++ s.dispatcher.sent call ∧
      (s.take call).1.expirations =
        s.expirations + if result.code = some .action then 1 else 0 := by
  have hafter := Dispatcher.forgetful_of_ordinary h s.log.sent
  obtain ⟨result, hresult, hclassified, htimedOut⟩ := Dispatcher.perform_classified h call
  refine ⟨result, ?_, hclassified, rfl, ?_, ?_⟩
  · rw [take, hafter]
    exact hresult
  · rw [take, hafter, ← Dispatcher.perform_sent_eq]
    rfl
  · rw [expirations, take, hafter, Log.perform, List.countP_append, ← expirations]
    congr 1
    by_cases hcode : result.code = some .action
    · rw [if_pos hcode, if_pos (htimedOut.mpr hcode)]
      rfl
    · rw [if_neg hcode, if_neg (mt htimedOut.mp hcode)]
      rfl

theorem play_classified (h : ∀ gateway ∈ s.dispatcher.gateway, gateway.Ordinary)
    (calls : List Dispatcher.Call) :
    ∃ results, (s.play calls).2 = results.map .ok ∧
      List.Forall₂ s.dispatcher.Classified calls results ∧
      (s.play calls).1.log.sent = s.log.sent ++ calls.flatMap s.dispatcher.sent ∧
      (s.play calls).1.expirations =
        s.expirations + results.countP fun result => result.code = some .action := by
  induction calls generalizing s with
  | nil => exact ⟨[], rfl, .nil, (List.append_nil _).symm, rfl⟩
  | cons call rest ih =>
    obtain ⟨result, hresult, hclassified, hdispatcher, hsent, hexpirations⟩ :=
      take_classifies h call
    obtain ⟨results, hresults, hall, hsents, hcount⟩ := ih (s := (s.take call).1) (hdispatcher ▸ h)
    rw [hdispatcher] at hall hsents
    refine ⟨result :: results, ?_, .cons hclassified hall, ?_, ?_⟩
    · rw [play]
      exact List.cons_eq_cons.mpr ⟨hresult, hresults⟩
    · rw [play, hsents, hsent, List.flatMap_cons, List.append_assoc]
    · rw [play, hcount, hexpirations, List.countP_cons]
      simp only [decide_eq_true_eq]
      omega

/-- Every call of a shift has a result that tells what became of it, every command is sent under
whose deadline it can be waited for, and the counter of actions is the number of results that show
its code. -/
theorem play_classifies {d : Dispatcher} (h : ∀ gateway ∈ d.gateway, gateway.Ordinary)
    (calls : List Dispatcher.Call) :
    ∃ results, ((begin d).play calls).2 = results.map .ok ∧
      List.Forall₂ d.Classified calls results ∧
      ((begin d).play calls).1.log.sent = calls.flatMap d.sent ∧
      (((begin d).play calls).1.tally .action).count =
        results.countP fun result => result.code = some .action := by
  obtain ⟨results, hresults, hall, hsent, hcount⟩ := play_classified (s := begin d) h calls
  refine ⟨results, hresults, hall, hsent, ?_⟩
  rw [count_tally, hcount]
  exact Nat.zero_add _

/-- A lamp answers at once, a pump after its deadline, and a valve is jammed. -/
theorem play_classifies_pump :
    let quick : Behaviour := ⟨.boolean true, .text "on", .int 0, none⟩
    let slow : Behaviour := ⟨.boolean true, .null, .int 3, none⟩
    let jammed : Behaviour := ⟨.boolean true, .null, .int 0, some ⟨.runtime, .text "jammed"⟩⟩
    let d : Dispatcher :=
      ⟨some (.scripted quick [("pump", slow), ("valve", jammed)]), some (.int 2)⟩
    let call (device : String) : Dispatcher.Call := ⟨⟨.text "start", device, []⟩, [], none⟩
    let calls := [call "lamp", call "pump", call "valve"]
    (∀ gateway ∈ d.gateway, gateway.Ordinary) ∧
      ∃ results, ((begin d).play calls).2 = results.map .ok ∧
        List.Forall₂ d.Classified calls results ∧
        results.map (·.status) = [.success, .error, .error] ∧
        ((begin d).play calls).1.log.sent = calls.flatMap d.sent ∧
        (((begin d).play calls).1.tally .action).count =
          results.countP fun result => result.code = some .action := by
  intro quick slow jammed d call calls
  have hscript (behaviour : Behaviour)
      (h : behaviour = quick ∨ behaviour = slow ∨ behaviour = jammed) : behaviour.Ordinary := by
    rcases h with rfl | rfl | rfl
    · exact ⟨⟨_, rfl⟩, ⟨_, rfl⟩, nofun, nofun⟩
    · exact ⟨⟨_, rfl⟩, ⟨_, rfl⟩, nofun, nofun⟩
    · refine ⟨⟨_, rfl⟩, ⟨_, rfl⟩, ?_, ?_⟩
      · rintro _ ⟨⟩
        exact nofun
      · rintro _ ⟨⟩
        exact DeviceFault.reportable_text (by nofun) "jammed"
  have hordinary : ∀ gateway ∈ d.gateway, gateway.Ordinary := by
    rintro _ ⟨⟩
    refine .scripted (hscript quick (.inl rfl)) fun script hs => hscript script.2 ?_
    simp only [List.mem_cons, List.not_mem_nil, or_false] at hs
    rcases hs with rfl | rfl
    · exact .inr (.inl rfl)
    · exact .inr (.inr rfl)
  obtain ⟨results, hresults, hall, hsent, hcount⟩ := play_classifies hordinary calls
  have hstatuses : (((begin d).play calls).2.map fun result => result.toOption.map (·.status)) =
      [some .success, some .error, some .error] := by decide +kernel
  refine ⟨hordinary, results, hresults, hall, ?_, hsent, hcount⟩
  rw [hresults, List.map_map] at hstatuses
  refine (List.map_inj_right fun _ _ h => Option.some.inj h).mp ?_
  rw [List.map_map]
  exact hstatuses

/-- A reply that comes at once is not a success where no clock can be set to the deadline. -/
theorem classified_otherwise :
    let accepted : Reply := .acknowledged ⟨.boolean true, .null⟩
    let d : Dispatcher := ⟨some (.constant accepted), none⟩
    let n : Int := 10 ^ 400
    let call : Dispatcher.Call := ⟨⟨.text "cool", none, []⟩, [], some (.int n)⟩
    (Gateway.constant accepted).Ordinary ∧
      (Gateway.constant accepted).send (Dispatcher.commandOf call.action) = ⟨some 0, .ok accepted⟩ ∧
      accepted.Accepts ∧
      ∃ result, ((begin d).take call).2 = .ok result ∧ result.status = .error ∧
        result.code = none ∧ result.response = .none := by
  intro accepted d n call
  have hlong : (Number.int n).isTooLong = true := by decide +kernel
  clear_value n
  have hspan : (d.inForce call.timeout).span? = .error .operand := by
    rw [Dispatcher.inForce, Option.some_or, Timeout.span?, if_pos hlong]
    rfl
  have hmarked : ∀ a, accepted = .acknowledged a → ∃ mark, a.ack = .boolean mark := by
    intro a ha
    obtain rfl := Reply.acknowledged.inj ha
    exact ⟨_, rfl⟩
  have hperform : d.perform call.action call.record call.timeout = _ :=
    Dispatcher.perform_of_span?_eq_error rfl hspan
  exact ⟨.constant ⟨trivial, hmarked⟩, rfl, ⟨_, rfl⟩, _, congrArg Performance.result hperform, rfl,
    rfl, rfl⟩

end Shift

end EventChain
