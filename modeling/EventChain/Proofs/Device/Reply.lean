import EventChain.Proofs.Device.Shift

/-!
# Marks in replies

A reply states a mark and a response as an acknowledgement, in the attributes of an object, or in
the entries of a mapping. An object and a mapping are checked for a boolean mark and are malformed
without one. An acknowledgement is taken as it is, and then any mark counts as its truth. Where the
mark is a boolean, the three come to the same (`Dispatcher.perform_alike`).
-/

namespace EventChain

/-- What a result tells of an action: its status and its error. -/
def ActionResult.outcome (result : ActionResult) : ActionStatus × Option String :=
  (result.status, result.error)

/-- The outcome of an action as a mark decides it. Only a boolean is one. -/
def Value.verdict : Value → ActionStatus × Option String
  | .boolean true => (.success, none)
  | .boolean false => (.error, some "Command not acknowledged")
  | _ => (.error, some "Malformed reply")

theorem Value.verdict_of_ne_boolean {mark : Value} (h : ∀ b, mark ≠ .boolean b) :
    mark.verdict = (.error, some "Malformed reply") := by
  cases mark with
  | boolean b => exact absurd rfl (h b)
  | null | number | text | array | timestamp | object | bytes | foreign => rfl

theorem Value.eq_of_verdict {mark : Value} (h : mark.verdict.1 = .success) :
    mark = .boolean true := by
  unfold verdict at h
  split at h
  · rfl
  · cases h
  · cases h

namespace Reply

inductive States : Reply → Value → Value → Prop
  | acknowledged {mark response : Value} : States (.acknowledged ⟨mark, response⟩) mark response
  | attributes {entries : Record} {mark response : Value} (hmark : entries.get "ack" = mark)
      (hresponse : entries.get "device_response" = response) :
      States (.attributes entries) mark response
  | mapping {entries : Record} {mark response : Value} (hmark : entries.get "ack" = mark)
      (hresponse : entries.get? "deviceResponse" = some response) :
      States (.value (.object entries)) mark response

variable {reply : Reply} {mark response : Value}

/-- The mark is a boolean, or else the reply is not taken as it is, and a report can show it. -/
def Checked (reply : Reply) (mark : Value) : Prop :=
  (∃ b, mark = .boolean b) ∨ (∀ a, reply ≠ .acknowledged a) ∧ reply.Showable

theorem marked?_of_ne_boolean (h : ∀ b, mark ≠ .boolean b) :
    marked? mark response = Option.none := by
  unfold marked?
  split
  · next b => exact absurd rfl (h b)
  · rfl

theorem States.acknowledgement?_of_boolean {b : Bool} (h : reply.States (.boolean b) response) :
    reply.acknowledgement? = some ⟨.boolean b, response⟩ := by
  cases h with
  | acknowledged => rfl
  | attributes hmark hresponse =>
    rw [acknowledgement?, hmark, hresponse]
    rfl
  | mapping hmark hresponse =>
    rw [acknowledgement?, hmark, hresponse]
    rfl

theorem States.acknowledgement?_of_ne_boolean (h : reply.States mark response)
    (hreply : ∀ a, reply ≠ .acknowledged a) (hmark : ∀ b, mark ≠ .boolean b) :
    reply.acknowledgement? = Option.none := by
  cases h with
  | acknowledged => exact absurd rfl (hreply _)
  | attributes hentry _ =>
    rw [acknowledgement?, hentry]
    exact marked?_of_ne_boolean hmark
  | mapping hentry _ =>
    rw [acknowledgement?, hentry]
    exact marked?_of_ne_boolean hmark

end Reply

namespace Dispatcher

variable {d : Dispatcher} {call : Call} {reply other : Reply} {mark response : Value}

def replying (d : Dispatcher) (delay : Rat) (reply : Reply) : Dispatcher :=
  { d with gateway := some (.transport fun _ _ => ⟨delay, .ok reply⟩) }

def replyPerformance (d : Dispatcher) (delay : Rat) (reply : Reply) (call : Call) : Performance :=
  (d.replying delay reply).perform call.action call.record call.timeout

def replyOutcome (d : Dispatcher) (delay : Rat) (reply : Reply) (call : Call) :
    Except Failure (ActionStatus × Option String) :=
  (d.replyPerformance delay reply call).result.map ActionResult.outcome

/-! ## Replies in time -/

theorem repliedResult_of_boolean {action : Action} {r : Record} {b : Bool}
    (h : reply.States (.boolean b) response) (h' : other.States (.boolean b) response) :
    repliedResult action r reply = repliedResult action r other := by
  unfold repliedResult
  rw [h.acknowledgement?_of_boolean, h'.acknowledgement?_of_boolean]

theorem outcome_of_checked {action : Action} {r : Record} (h : reply.States mark response)
    (hc : reply.Checked mark) :
    (repliedResult action r reply).map ActionResult.outcome = .ok mark.verdict := by
  by_cases hmark : ∃ b, mark = .boolean b
  · obtain ⟨b, rfl⟩ := hmark
    unfold repliedResult
    rw [h.acknowledgement?_of_boolean]
    cases b <;> rfl
  · have hne : ∀ b, mark ≠ .boolean b := fun b hb => hmark ⟨b, hb⟩
    obtain ⟨hreply, hshown⟩ := hc.resolve_left hmark
    unfold repliedResult
    rw [h.acknowledgement?_of_ne_boolean hreply hne, Value.verdict_of_ne_boolean hne]
    cases reply with
    | value v =>
      obtain ⟨text, htext⟩ := hshown
      dsimp only
      rw [htext]
      rfl
    | attributes entries => rfl
    | acknowledged a => exact absurd rfl (hreply a)

theorem outcome_of_acknowledged {action : Action} {r : Record} :
    (repliedResult action r (.acknowledged ⟨mark, response⟩)).map ActionResult.outcome =
      .ok (Value.boolean mark.isTruthy).verdict := by
  unfold repliedResult
  dsimp only [Reply.acknowledgement?]
  cases mark.isTruthy <;> rfl

/-! ## Replies at any time -/

/-- A reply counts, or what becomes of the call is no success and the same under any reply. -/
theorem replyPerformance_cases (d : Dispatcher) (delay : Rat) (call : Call) :
    (∃ elapsed, ∀ reply, d.replyPerformance delay reply call =
      ⟨elapsed, commandOf call.action, false, repliedResult call.action call.record reply⟩) ∨
    ∃ p : Performance, (∀ reply, d.replyPerformance delay reply call = p) ∧
      (∀ reply, ¬ (d.replying delay reply).Answers call reply) ∧
      ∀ result, p.result = .ok result → result.status ≠ .success := by
  rcases hspan : (d.inForce call.timeout).span? with excess | _ | limit
  · refine .inr ⟨_, fun reply => perform_of_span?_eq_error rfl hspan, ?_, ?_⟩
    · rintro reply ⟨-, -, ⟨span, hok, -⟩, -⟩
      cases hspan.symm.trans hok
    · rintro _ ⟨⟩
      simp
  · refine .inl ⟨some (if delay < 0 then 0 else delay), fun reply => ?_⟩
    rw [inForce] at hspan
    simp only [replyPerformance, replying, perform, Gateway.send, hspan]
    rfl
  · by_cases hle : limit ≤ if delay < 0 then 0 else delay
    · refine .inr ⟨⟨limit, commandOf call.action, true,
        timedOutResult call.action call.record (d.inForce call.timeout)⟩, fun reply => ?_, ?_, ?_⟩
      · rw [inForce] at hspan
        simp only [replyPerformance, replying, perform, Gateway.send, hspan, Response.isLate,
          Option.map_some, Option.all_some, decide_eq_true_eq, if_pos hle]
        rfl
      · rintro reply ⟨gateway, hg, hin, -⟩
        exact not_expires_of_inTime hg hin ⟨_, rfl, limit, hspan, by rintro _ ⟨⟩; exact hle⟩
      · intro result hresult
        obtain ⟨shown, -, h⟩ := bind_eq_ok.mp hresult
        cases h
        simp
    · refine .inl ⟨some (if delay < 0 then 0 else delay), fun reply => ?_⟩
      rw [inForce] at hspan
      simp only [replyPerformance, replying, perform, Gateway.send, hspan, Response.isLate,
        Option.map_some, Option.all_some, decide_eq_true_eq, if_neg hle]
      rfl

/-- Replies that state the same and are checked have the same outcome, which is a success only where
the mark is true; in time the mark alone decides it. Where the mark is a boolean, they come to the
same in everything. An acknowledgement in time is taken as it is: its mark counts as its truth. -/
theorem perform_alike (d : Dispatcher) (delay : Rat) (call : Call)
    (h : reply.States mark response) (h' : other.States mark response) :
    (reply.Checked mark → other.Checked mark →
      d.replyOutcome delay reply call = d.replyOutcome delay other call) ∧
    (reply.Checked mark → ∀ outcome, d.replyOutcome delay reply call = .ok outcome →
      outcome.1 = .success → mark = .boolean true) ∧
    (reply.Checked mark → (d.replying delay reply).Answers call reply →
      d.replyOutcome delay reply call = .ok mark.verdict) ∧
    (∀ b, mark = .boolean b →
      d.replyPerformance delay reply call = d.replyPerformance delay other call) ∧
    ∀ a, reply = .acknowledged a → (d.replying delay reply).Answers call reply →
      d.replyOutcome delay reply call = .ok (Value.boolean mark.isTruthy).verdict := by
  unfold replyOutcome
  rcases d.replyPerformance_cases delay call with ⟨elapsed, hreplied⟩ | ⟨p, hsame, hlate, hfail⟩
  · simp only [hreplied]
    refine ⟨fun hc hc' => ?_, fun hc outcome houtcome hsuccess => ?_,
      fun hc _ => outcome_of_checked h hc, ?_, ?_⟩
    · rw [outcome_of_checked h hc, outcome_of_checked h' hc']
    · rw [outcome_of_checked h hc] at houtcome
      exact Value.eq_of_verdict (Except.ok.inj houtcome ▸ hsuccess)
    · rintro b rfl
      rw [repliedResult_of_boolean h h']
    · rintro a rfl -
      cases h
      exact outcome_of_acknowledged
  · simp only [hsame]
    refine ⟨fun _ _ => trivial, fun _ outcome houtcome hsuccess => ?_,
      fun _ hin => absurd hin (hlate reply), fun _ _ => trivial,
      fun _ _ hin => absurd hin (hlate reply)⟩
    cases hresult : p.result with
    | error failure =>
      rw [hresult] at houtcome
      cases houtcome
    | ok result =>
      rw [hresult] at houtcome
      cases houtcome
      exact absurd hsuccess (hfail result hresult)

/-- An object and a mapping whose mark is a text are both malformed. -/
theorem perform_alike_text :
    let mark : Value := .text "yes"
    let object : Reply := .attributes [("ack", mark), ("device_response", .null)]
    let mapping : Reply := .value (.object [("ack", mark), ("deviceResponse", .null)])
    let d : Dispatcher := ⟨none, some (.int 5)⟩
    let call : Call := ⟨⟨.text "cool", none, []⟩, [], none⟩
    object.States mark .null ∧ mapping.States mark .null ∧ object.Checked mark ∧
      mapping.Checked mark ∧ (d.replying 1 mapping).Answers call mapping ∧
      d.replyOutcome 1 mapping call = d.replyOutcome 1 object call ∧
      d.replyOutcome 1 mapping call = .ok (.error, some "Malformed reply") := by
  intro mark object mapping d call
  have hobject : object.States mark .null := .attributes rfl rfl
  have hmapping : mapping.States mark .null := .mapping rfl rfl
  have hobjectChecked : object.Checked mark := .inr ⟨nofun, trivial⟩
  have hmappingChecked : mapping.Checked mark := .inr ⟨nofun, _, rfl⟩
  have hspan : Timeout.span? (some (.int 5)) = .ok (some 5) := by decide +kernel
  have hanswers : (d.replying 1 mapping).Answers call mapping := by
    refine ⟨_, rfl, ⟨some 5, hspan, 1, by decide +kernel, ?_⟩, rfl⟩
    rintro _ ⟨⟩
    decide +kernel
  obtain ⟨hsame, -, hverdict, -⟩ := d.perform_alike 1 call hmapping hobject
  exact ⟨hobject, hmapping, hobjectChecked, hmappingChecked, hanswers,
    hsame hmappingChecked hobjectChecked, hverdict hmappingChecked hanswers⟩

/-- An acknowledgement whose mark is a text succeeds, where an object that states the same is
malformed. -/
theorem alike_otherwise :
    let mark : Value := .text "yes"
    let acknowledgement : Reply := .acknowledged ⟨mark, .null⟩
    let object : Reply := .attributes [("ack", mark), ("device_response", .null)]
    let d : Dispatcher := ⟨none, none⟩
    let call : Call := ⟨⟨.text "cool", none, []⟩, [], none⟩
    acknowledgement.States mark .null ∧ object.States mark .null ∧
      d.replyOutcome 0 acknowledgement call = .ok (.success, none) ∧
      d.replyOutcome 0 object call = .ok (.error, some "Malformed reply") :=
  ⟨.acknowledged, .attributes rfl rfl, rfl, rfl⟩

end Dispatcher

end EventChain
