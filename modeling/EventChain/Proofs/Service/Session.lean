import EventChain.Proofs.Broadcast
import EventChain.Proofs.Deadline
import EventChain.Proofs.Overrun
import EventChain.Proofs.Tally
import EventChain.Session

/-!
# What a session leaves behind

A run ends in an overrun only where the deadline around it cuts it off, and that deadline is then
the last that expired; all others are those of actions (`Outcome.Accounted`), whatever the devices
do. So the counter of chains counts the calls that overran, and listeners that stay hear what the
callers get and nothing else (`Session.play_accounts`).
-/

namespace EventChain

open Engine (Outcome)

/-! ## Runs under a deadline -/

/-- The deadlines that expired are those of actions. -/
def Log.Inner (log : Log) : Prop := ∀ e ∈ log.expired, e.1 = .action

/-- How a run fails: for a reason of its own, or cut off by the deadline around it. -/
inductive Fails (cut : Option Cut) : Failure → Log → Prop
  | own {failure : Failure} {log : Log} (hfree : failure.NoOverrun) (hlog : log.Inner) :
      Fails cut failure log
  | cutOff {c : Cut} {log before : Log} (hcut : cut = some c) (hbefore : before.Inner)
      (hlog : log.expired = before.expired ++ [(c.deadline.code, c.deadline.span)]) :
      Fails cut c.deadline.failure log

/-- Only a visit that fails may have been cut off. -/
def Visit.Accounted (cut : Option Cut) : Visit → Prop
  | goOn s | halt s => s.log.Inner
  | fail failure log => Fails cut failure log

/-- Only a run that fails may have been cut off, and only one whose chain can be shown has a
result. -/
def Engine.Outcome.Accounted (cut : Option Cut) (outcome : Outcome) : Prop :=
  match outcome.result with
  | .ok result => outcome.log.Inner ∧ ∃ shown, result.chain.plain = .ok shown
  | .error failure => Fails cut failure outcome.log

theorem Log.inner_empty : Log.empty.Inner := fun _ h => absurd h List.not_mem_nil

theorem Log.Inner.perform {log : Log} (h : log.Inner) (p : Performance) :
    (log.perform p).Inner := by
  refine List.forall_mem_append.mpr ⟨h, fun e he => ?_⟩
  split at he
  · rw [List.mem_singleton.mp he]
  · cases he

theorem Fails.of_error {α : Type} {cut : Option Cut} {x : Except Failure α} {failure : Failure}
    {log : Log} (hx : OverrunFree x) (h : x = .error failure) (hlog : log.Inner) :
    Fails cut failure log :=
  .own (hx failure h) hlog

namespace Engine

variable {engine : Engine} {now : Timestamp} {cut : Option Cut} {s : RunState}

theorem acted_accounted {node : Value} {p : Performance} {log : Log} (hp : OverrunFree p.result)
    (hlog : log.Inner) : (visitStep.acted s node p log).Accounted cut := by
  unfold visitStep.acted
  cases hr : p.result with
  | ok result => exact hlog
  | error failure => exact .of_error hp hr hlog

theorem visitStep_accounted (step : Step) (hs : s.log.Inner) :
    (engine.visitStep now cut s step).Accounted cut := by
  cases step with
  | filter node condition =>
    have hfree : OverrunFree (passes now node condition s.record) :=
      (condition.overrunFree_holds now s.record).attributed
    rw [visitStep]
    rcases hpasses : passes now node condition s.record with failure | _ | _
    · exact .of_error hfree hpasses hs
    · exact hs
    · exact hs
  | transform node t =>
    have hfree : OverrunFree (engine.transformed node t s.record) :=
      (t.overrunFree_apply _ _).attributed.bind fun _ =>
        overrunFree_limited_bind fun _ => overrunFree_pure _
    rw [visitStep]
    cases htransformed : engine.transformed node t s.record with
    | error failure => exact .of_error hfree htransformed hs
    | ok after => exact hs
  | action node action =>
    have hfree : OverrunFree ((engine.dispatcher.after s.log.sent).perform action s.record
        engine.policy.actionTimeout).result :=
      Dispatcher.failsWith_perform Failure.noOverrun_digitLimit Failure.noOverrun_interrupted
        Failure.noOverrun_endless
    unfold visitStep
    cases cut with
    | none => exact acted_accounted hfree (hs.perform _)
    | some c =>
      dsimp only
      split
      · exact .cutOff rfl hs rfl
      · exact acted_accounted hfree (hs.perform _)
  | unknown node type config => exact hs

theorem reported_accounted {node : Value} {visit : Visit} (h : visit.Accounted cut) :
    (reported node visit).Accounted cut := by
  unfold reported
  split
  · exact h
  · cases visit with
    | goOn s | halt s => exact .own nofun h
    | fail failure log => exact h

theorem visit_accounted (hread : ∀ config, OverrunFree (engine.readFilter config)) (node : Node)
    (hs : s.log.Inner) : (engine.visit now cut node s).Accounted cut := by
  unfold visit
  cases hstep : node.step engine.readFilter with
  | error failure => exact .of_error (Node.overrunFree_step hread node) hstep hs
  | ok step => exact reported_accounted (visitStep_accounted step hs)

theorem walk_accounted (hread : ∀ config, OverrunFree (engine.readFilter config)) {chain : Value}
    {shown : String} (hchain : chain.plain = .ok shown) (stops : List Stop) (hs : s.log.Inner) :
    (engine.walk chain now cut stops s).Accounted cut := by
  induction stops generalizing s with
  | nil => exact ⟨hs, shown, hchain⟩
  | cons stop rest ih =>
    have hvisit : (engine.visit now cut stop.node s).Accounted cut :=
      visit_accounted hread stop.node hs
    unfold walk
    cases hv : engine.visit now cut stop.node s with
    | goOn mid =>
      rw [hv] at hvisit
      exact ih hvisit
    | halt mid =>
      rw [hv] at hvisit
      exact ⟨hvisit, shown, hchain⟩
    | fail failure log =>
      rw [hv] at hvisit
      exact hvisit

theorem execute_accounted (hread : ∀ config, OverrunFree (engine.readFilter config))
    (chain : Chain) (nodes : List Node) (event : Record) :
    (engine.execute chain nodes event now cut).Accounted cut := by
  unfold execute
  cases hbuild : Route.build chain nodes engine.policy.maxNodes with
  | error failure => exact .of_error (Route.overrunFree_build _ _ _) hbuild Log.inner_empty
  | ok route =>
    dsimp only
    unfold run
    split
    · exact .own nofun Log.inner_empty
    · next shown hshown =>
      split
      · exact ⟨Log.inner_empty, shown, hshown⟩
      · exact walk_accounted hread hshown _ Log.inner_empty

end Engine

/-! ## Calls -/

def Engine.Outcome.overran (outcome : Outcome) : Bool :=
  match outcome.result with
  | .error (.overrun _) => true
  | _ => false

/-- An outcome that accounts for the deadline of its chain: the deadline expired once where the
call overran, and elsewhere not at all. A result can be announced. -/
structure Engine.Outcome.Balanced (outcome : Outcome) : Prop where
  expired : (outcome.log.expired.countP fun e => e.1 = .chain) = if outcome.overran then 1 else 0
  code : ∀ o, outcome.result = .error (.overrun o) → o.code = .chain
  shown : ∀ result, outcome.result = .ok result → ∃ shown, result.chain.plain = .ok shown

theorem Log.Inner.countP_chain {log : Log} (h : log.Inner) :
    (log.expired.countP fun e => e.1 = .chain) = 0 :=
  List.countP_eq_zero.mpr fun e he => by rw [h e he]; decide

theorem Engine.Outcome.balanced_of_error {failure : Failure} {log : Log}
    (hfree : failure.NoOverrun) (hlog : log.Inner) :
    (⟨.error failure, log⟩ : Outcome).Balanced := by
  refine ⟨?_, fun o h => absurd (Except.error.inj h) (hfree o), nofun⟩
  have hover : (⟨.error failure, log⟩ : Outcome).overran = false := by
    cases failure with
    | overrun o => exact absurd rfl (hfree o)
    | _ => rfl
  rw [hlog.countP_chain, hover]
  rfl

theorem Engine.Outcome.Accounted.balanced {cut : Option Cut} {outcome : Outcome}
    (h : outcome.Accounted cut) (hcut : ∀ c, cut = some c → c.deadline.Overruns .chain) :
    outcome.Balanced := by
  obtain ⟨result, log⟩ := outcome
  cases result with
  | ok result =>
    obtain ⟨hinner, hshown⟩ := h
    refine ⟨hinner.countP_chain, nofun, ?_⟩
    rintro _ ⟨⟩
    exact hshown
  | error failure =>
    cases h with
    | own hfree hlog => exact balanced_of_error hfree hlog
    | @cutOff c _ before hc hbefore hlog =>
      obtain ⟨-, ⟨o, ho, hcode⟩, hchain⟩ := hcut c hc
      rw [ho]
      refine ⟨?_, ?_, nofun⟩
      · rw [hlog, List.countP_append, hbefore.countP_chain, hchain]
        rfl
      · rintro _ ⟨⟩
        exact hcode

namespace Service

variable {s : Service}

theorem run_balanced (hread : ∀ config, OverrunFree (s.engine.readFilter config))
    (stored : StoredChain) (event : Record) (timeout : Timeout) (now : Timestamp) :
    (s.run stored event timeout now none).Balanced := by
  unfold run
  cases hspan : Timeout.span? (timeout.or s.timeout) with
  | error excess =>
    have hd : deadline? stored.chain (timeout.or s.timeout) = .error .operand :=
      Deadline.ofTimeout?_eq_error hspan
    rw [hd]
    exact Outcome.balanced_of_error nofun Log.inner_empty
  | ok span =>
    obtain ⟨d, hd, -, hruns⟩ : ∃ d, deadline? stored.chain (timeout.or s.timeout) = .ok d ∧ _ :=
      Deadline.ofTimeout?_eq_ok hspan
    rw [hd]
    have haccounted : (s.engine.execute stored.chain stored.nodes event now
        (Deadline.cut? none stored.loading d)).Accounted _ := Engine.execute_accounted hread _ _ _
    have hbalanced := haccounted.balanced fun c hc => ?_
    · exact ⟨hbalanced.expired, hbalanced.code, hbalanced.shown⟩
    · rcases Deadline.of_cut? hc with ⟨_, hnone, -⟩ | ⟨x, hx, rfl⟩
      · cases hnone
      · exact hruns x hx

/-- Every call accounts for the deadline of its chain. -/
theorem answer_balanced (hread : ∀ config, OverrunFree (s.engine.readFilter config))
    (call : Call) : (s.answer call).Balanced := by
  cases call with
  | execute id event timeout now =>
    dsimp only [answer]
    unfold execute
    cases s.find? id with
    | none =>
      refine Outcome.balanced_of_error (fun o => ?_) Log.inner_empty
      unfold notFound
      split <;> exact nofun
    | some stored => exact run_balanced hread stored event timeout now
  | run chain nodes event timeout now => exact run_balanced hread _ event timeout now

end Service

/-! ## Announcements -/

namespace Session

/-- No listener that is there leaves or brings in another. -/
def Turn.Steady (audience : Audience) (turn : Turn) : Prop :=
  ∀ who ∈ audience.listeners, turn.reaction who = .listen ∨ turn.reaction who = .fail

def returned (answers : List Answer) : List RunResult :=
  answers.filterMap (·.outcome.result.toOption)

def heardBy (who : Listener) (answers : List Answer) : List RunResult :=
  answers.flatMap fun answer => (answer.news.filter (·.1 = who)).map (·.2)

/-- What some calls come to for the listeners and the ledger. Each listener heard of the results
that the callers got, in order and once each, and nobody else of any; no call that failed was heard
of; and the counter of chains grew by the number of calls that overran. -/
structure Accounts (s last : Session) (answers : List Answer) : Prop where
  service : last.service = s.service
  audience : last.audience = s.audience
  heard : ∀ who, heardBy who answers =
    if who ∈ s.audience.listeners then returned answers else []
  silent : ∀ answer ∈ answers, ∀ failure, answer.outcome.result = .error failure →
    answer.news = []
  counted : (last.ledger.tally.counter TimeoutCode.chain.label).count =
    (s.ledger.tally.counter TimeoutCode.chain.label).count + answers.countP (·.outcome.overran)
  code : ∀ answer ∈ answers, ∀ o, answer.outcome.result = .error (.overrun o) → o.code = .chain

variable {s : Session}

theorem news_of_listeners (audience : Audience) (result : RunResult) (who : Listener) :
    ((audience.listeners.map (·, result)).filter (·.1 = who)).map (·.2) =
      if who ∈ audience.listeners then [result] else [] := by
  rw [List.filter_map, List.map_map]
  have hfilter : audience.listeners.filter ((fun news : Listener × RunResult => news.1 = who) ∘
      (·, result)) = List.replicate (audience.listeners.count who) who := List.filter_eq who
  rw [hfilter, List.map_replicate]
  split
  next hmem => rw [List.count_eq_one_of_mem audience.nodup hmem]; rfl
  next hmem => rw [List.count_eq_zero_of_not_mem hmem]; rfl

theorem counter_chain (t : Tally) : t.counter TimeoutCode.chain.label = t .chain := by
  have hlabel : TimeoutCode.ofLabel? TimeoutCode.chain.label = some .chain := by decide
  rw [Tally.counter, hlabel]

theorem announce_ok {audience : Audience} {reaction : Listener → Reaction} {outcome : Outcome}
    {result : RunResult} (hr : outcome.result = .ok result) (hbalanced : outcome.Balanced)
    (h : ∀ who ∈ audience.listeners, reaction who = .listen ∨ reaction who = .fail) :
    announce audience reaction outcome =
      (audience, ⟨outcome, audience.listeners.map (·, result)⟩) := by
  obtain ⟨shown, hshown⟩ := hbalanced.shown result hr
  obtain ⟨calls, hemit, hheard⟩ := Audience.emit_steady hshown h
  obtain ⟨_, log⟩ := outcome
  cases hr
  rw [announce]
  dsimp only
  rw [hemit, ← hheard, List.map_map]
  rfl

theorem announce_error {outcome : Outcome} {failure : Failure}
    (hr : outcome.result = .error failure) (audience : Audience) (reaction : Listener → Reaction) :
    announce audience reaction outcome = (audience, ⟨outcome, []⟩) := by
  rw [announce, hr]

theorem take_accounts (hread : ∀ config, OverrunFree (s.service.engine.readFilter config))
    {turn : Turn} (hsteady : turn.Steady s.audience) :
    Accounts s (s.take turn).1 [(s.take turn).2] := by
  have hserving (config : Value) :
      OverrunFree ((s.serving turn.stored).engine.readFilter config) := hread config
  have hbalanced := Service.answer_balanced hserving turn.call
  unfold take
  generalize (s.serving turn.stored).answer turn.call = outcome at hbalanced
  have hcounted (news : List (Listener × RunResult)) :
      ((s.ledger.enter outcome).tally.counter TimeoutCode.chain.label).count =
        (s.ledger.tally.counter TimeoutCode.chain.label).count +
          [(⟨outcome, news⟩ : Answer)].countP (·.outcome.overran) := by
    rw [counter_chain, counter_chain, Ledger.enter, Tally.count_recordAll, hbalanced.expired,
      List.countP_singleton]
  cases hr : outcome.result with
  | ok result =>
    simp only [announce_ok hr hbalanced hsteady]
    constructor
    case heard =>
      intro who
      simpa [heardBy, returned, hr, Except.toOption] using
        news_of_listeners s.audience result who
    case silent => simp [hr]
    case counted => exact hcounted _
    case code => simp [hr]
    all_goals rfl
  | error failure =>
    simp only [announce_error hr]
    constructor
    case heard =>
      intro who
      simp [heardBy, returned, hr, Except.toOption]
    case silent => simp
    case counted => exact hcounted _
    case code =>
      intro answer hanswer
      obtain rfl := List.mem_singleton.mp hanswer
      exact hbalanced.code
    all_goals rfl

theorem accounts_nil : Accounts s s [] where
  service := rfl
  audience := rfl
  heard who := by split <;> rfl
  silent _ h := absurd h List.not_mem_nil
  counted := by rw [List.countP_nil, Nat.add_zero]
  code _ h := absurd h List.not_mem_nil

theorem Accounts.append {mid last : Session} {answers later : List Answer}
    (h : Accounts s mid answers) (hlater : Accounts mid last later) :
    Accounts s last (answers ++ later) where
  service := hlater.service.trans h.service
  audience := hlater.audience.trans h.audience
  heard who := by
    have hheard : heardBy who (answers ++ later) = heardBy who answers ++ heardBy who later :=
      List.flatMap_append
    have hreturned : returned (answers ++ later) = returned answers ++ returned later :=
      List.filterMap_append
    rw [hheard, hreturned, h.heard, hlater.heard, h.audience]
    split <;> rfl
  silent := List.forall_mem_append.mpr ⟨h.silent, hlater.silent⟩
  counted := by rw [hlater.counted, h.counted, List.countP_append, Nat.add_assoc]
  code := List.forall_mem_append.mpr ⟨h.code, hlater.code⟩

/-- Calls of one service account for what they came to, whatever is stored when they are made, for
every gateway, and for listeners that stay though they may fail. -/
theorem play_accounts (hread : ∀ config, OverrunFree (s.service.engine.readFilter config))
    {turns : List Turn} (hsteady : ∀ turn ∈ turns, turn.Steady s.audience) :
    (s.play turns).2.length = turns.length ∧ Accounts s (s.play turns).1 (s.play turns).2 := by
  induction turns generalizing s with
  | nil => exact ⟨rfl, accounts_nil⟩
  | cons turn rest ih =>
    obtain ⟨hturn, hrest⟩ := List.forall_mem_cons.mp hsteady
    have htake := take_accounts hread hturn
    have hafter (config : Value) :
        OverrunFree ((s.take turn).1.service.engine.readFilter config) := by
      rw [htake.service]
      exact hread config
    rw [← htake.audience] at hrest
    obtain ⟨hlength, hlater⟩ := ih hafter hrest
    exact ⟨congrArg (· + 1) hlength, htake.append hlater⟩

/-- A call of a chain that is missing, one that its deadline cuts off, and one without a deadline in
which the device raises a timeout of its own; one of the listeners fails. -/
theorem play_accounts_three :
    let late : Behaviour := ⟨.boolean true, .null, .int 5, some ⟨.timeout, .text "late"⟩⟩
    let engine : Engine := ⟨.standard, ⟨some (.scripted late []), none⟩, Condition.read⟩
    let stored : StoredChain := ⟨.named (.int 7) .null, [⟨.int 1, .null, .text "action", .null,
      .object [("command", .text "cool")], .null⟩], 0⟩
    let s := begin ⟨engine, [], none⟩ ⟨["log", "history"], by decide⟩
    let now : Timestamp := ⟨⟨2024, 6, 1, by decide⟩, .midnight, some .utc⟩
    let reaction (who : Listener) : Reaction := if who = "log" then .fail else .listen
    let turns : List Turn := [⟨[], .execute (.int 7) [] none now, reaction⟩,
      ⟨[stored], .execute (.int 7) [] (some (.int 1)) now, reaction⟩,
      ⟨[], .run stored.chain stored.nodes [] (some (.int 0)) now, reaction⟩]
    let answers := (s.play turns).2
    answers.map (·.outcome.overran) = [false, true, false] ∧ (returned answers).length = 1 ∧
      heardBy "history" answers = returned answers ∧
      ((s.play turns).1.ledger.tally.counter TimeoutCode.chain.label).count = 1 := by
  intro late engine stored s now reaction turns answers
  have hsteady : ∀ turn ∈ turns, turn.Steady s.audience := by
    have hreaction (who : Listener) : reaction who = .listen ∨ reaction who = .fail := by
      simp only [reaction]
      split
      · exact .inr rfl
      · exact .inl rfl
    rintro turn hturn who -
    simp only [turns, List.mem_cons, List.not_mem_nil, or_false] at hturn
    rcases hturn with rfl | rfl | rfl <;> exact hreaction who
  obtain ⟨-, haccounts⟩ := play_accounts Condition.overrunFree_read hsteady
  have hcount : answers.countP (·.outcome.overran) = 1 := by decide +kernel
  refine ⟨by decide +kernel, by decide +kernel, haccounts.heard "history", ?_⟩
  rw [haccounts.counted, hcount]
  rfl

end Session

end EventChain
