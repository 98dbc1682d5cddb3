import EventChain.Proofs.Route.Marks
import EventChain.Proofs.Run.Course
import EventChain.Shared

/-!
# Runs that share a route

Sharing a route is invisible as long as the gateway forgets what it was sent. Whoever reads a step
first, the memo holds under the identifier of a stop only what a fresh reading of its node gives
(`Memo.Sound.read`), and so every run goes its own way: under any schedule it comes to what it comes
to alone, and the commands of all runs are those of each, interleaved (`play_isolated`). One turn
preserves all of this, whether the run whose turn it is goes on, halts or fails (`Sound.advance`).
-/

namespace EventChain

variable {engine : Engine} {route : Route} {chain : Chain} {nodes : List Node} {limit : Int}
  {readFilter : Value → Except Failure Condition}

/-! ## The memo -/

/-- What is kept under the identifier of a stop is the step of its node. -/
def Memo.Sound (readFilter : Value → Except Failure Condition) (route : Route) (memo : Memo) :
    Prop :=
  ∀ entry ∈ memo.entries, ∃ stop ∈ route.stops, stop.id = entry.1 ∧
    stop.node.step readFilter = .ok entry.2

theorem Memo.Sound.get? {memo : Memo} (h : memo.Sound readFilter route)
    (hb : Route.build chain nodes limit = .ok route) {stop : Stop} (hs : stop ∈ route.stops)
    {step : Step} (hg : memo.get? stop.id = some step) : stop.node.step readFilter = .ok step := by
  obtain ⟨entry, hfind, rfl⟩ := Option.map_eq_some_iff.mp hg
  obtain ⟨other, ho, hid, hstep⟩ := h entry (List.mem_of_find?_eq_some hfind)
  have hagree : other.id.agrees stop.id = true := by
    simpa [hid] using List.find?_some hfind
  rw [← Route.build_node_eq hb ho hs hagree, hstep]

theorem Memo.Sound.read {memo : Memo} (h : memo.Sound readFilter route)
    (hb : Route.build chain nodes limit = .ok route) {stop : Stop} (hs : stop ∈ route.stops) :
    (memo.read readFilter stop).1 = stop.node.step readFilter ∧
      (memo.read readFilter stop).2.Sound readFilter route := by
  unfold Memo.read
  cases hg : memo.get? stop.id with
  | some step => exact ⟨(h.get? hb hs hg).symm, h⟩
  | none =>
    cases hstep : stop.node.step readFilter with
    | error failure => exact ⟨rfl, h⟩
    | ok step =>
      refine ⟨rfl, fun entry he => ?_⟩
      rcases List.mem_append.mp he with he | he
      · exact h entry he
      · obtain rfl := List.mem_singleton.mp he
        exact ⟨stop, hs, rfl, hstep⟩

/-! ## One turn -/

def Course.Within (stops : List Stop) : Course → Prop
  | underway stop rest _ => ∀ s ∈ stop :: rest, s ∈ stops
  | ended _ => True

theorem Course.within_onward {stops rest : List Stop} (h : ∀ s ∈ rest, s ∈ stops) (chain : Value)
    (v : Visit) : (onward chain rest v).Within stops := by
  cases v with
  | goOn s =>
    cases rest with
    | nil => trivial
    | cons stop rest => exact h
  | halt | fail => trivial

theorem Route.within_depart (route : Route) (event : Record) :
    (route.depart event).Within route.stops := by
  unfold depart
  cases route.chain.id.plain with
  | error limit => trivial
  | ok text =>
    cases route.stops with
    | nil => trivial
    | cons stop rest => exact fun _ hs => hs

theorem Route.ahead_depart_le (route : Route) (event : Record) :
    (route.depart event).ahead ≤ route.size := by
  unfold depart
  cases route.chain.id.plain with
  | error limit => exact Nat.zero_le _
  | ok text =>
    unfold size
    cases route.stops with
    | nil => exact le_rfl
    | cons stop rest => exact le_rfl

namespace Sharing

/-- The run at a place is on its way to what it comes to alone. -/
structure Follows (engine : Engine) (route : Route) (event : Record) (sharing : Sharing) (i : Nat)
    (run : Sharer) : Prop where
  within : run.course.Within route.stops
  arrives : engine.arrive route.chain.id run.now none run.course =
    engine.run route event run.now none
  sent : sharing.sentBy i = run.course.log.sent

/-- The memo is sound, each event has its run, and the commands are those of the runs. -/
structure Sound (engine : Engine) (route : Route) (events : List (Record × Timestamp))
    (sharing : Sharing) : Prop where
  memo : sharing.memo.Sound engine.readFilter route
  runs : ∀ i event now, events[i]? = some (event, now) → ∃ course,
    sharing.runs[i]? = some ⟨now, course⟩ ∧ Follows engine route event sharing i ⟨now, course⟩
  length : sharing.runs.length = events.length
  senders : ∀ sent ∈ sharing.sent, sent.1 < events.length

variable {events : List (Record × Timestamp)} {sharing : Sharing}

theorem start_sound (engine : Engine) (route : Route) (events : List (Record × Timestamp)) :
    (start route events).Sound engine route events where
  memo := by simp [start, Memo.empty, Memo.Sound]
  runs i event now h := by
    refine ⟨route.depart event, by simp [start, h], route.within_depart event,
      engine.arrive_depart route event now none, ?_⟩
    rw [route.depart_sent]
    rfl
  length := by simp [start]
  senders := by simp [start]

theorem sentBy_append (memo : Memo) (runs others : List Sharer) (sent : List (Nat × Command))
    (commands : List Command) (i j : Nat) :
    sentBy ⟨memo, sent ++ commands.map (i, ·), runs⟩ j =
      sentBy ⟨memo, sent, others⟩ j ++ if i = j then commands else [] := by
  by_cases hij : i = j
  · simp [sentBy, hij, List.filter_map, Function.comp_def]
  · simp [sentBy, hij, List.filter_map, Function.comp_def]

theorem Follows.turn {event : Record} {i : Nat} {now : Timestamp} {stop : Stop} {rest : List Stop}
    {s : RunState} (h : Follows engine route event sharing i ⟨now, .underway stop rest s⟩)
    (hf : engine.dispatcher.Forgetful) {earlier commands : List Command} {course : Course}
    (hturn : engine.turn earlier route.chain.id now none (stop.node.step engine.readFilter) rest s =
      (commands, course)) (memo : Memo) (runs : List Sharer) :
    Follows engine route event ⟨memo, sharing.sent ++ commands.map (i, ·), runs⟩ i
      ⟨now, course⟩ := by
  obtain ⟨rfl, hsent⟩ := hturn ▸ Engine.turn_eq hf earlier route.chain.id now none
    (stop.node.step engine.readFilter) rest s
  refine ⟨?_, (engine.arrive_onward _ stop rest s).trans h.arrives, ?_⟩
  · exact Course.within_onward (fun s hs => h.within s (List.mem_cons_of_mem _ hs)) _ _
  · rw [sentBy_append _ _ sharing.runs, if_pos rfl, hsent]
    exact congrArg (· ++ commands) h.sent

theorem Follows.other {event : Record} {i j : Nat} {run : Sharer}
    (h : Follows engine route event sharing j run) (hij : i ≠ j) (commands : List Command)
    (memo : Memo) (runs : List Sharer) :
    Follows engine route event ⟨memo, sharing.sent ++ commands.map (i, ·), runs⟩ j run :=
  ⟨h.within, h.arrives, by
    rw [sentBy_append _ _ sharing.runs, if_neg hij, List.append_nil]
    exact h.sent⟩

theorem Sound.advance (h : sharing.Sound engine route events)
    (hb : Route.build chain nodes limit = .ok route) (hf : engine.dispatcher.Forgetful) (i : Nat) :
    (sharing.advance engine route i).Sound engine route events := by
  unfold Sharing.advance
  split
  · next at' stop rest s hrun =>
    have hi : i < events.length := by
      rw [← h.length]
      exact (List.getElem?_eq_some_iff.mp hrun).1
    obtain ⟨⟨event, now⟩, hevent⟩ : ∃ e, events[i]? = some e := ⟨_, List.getElem?_eq_getElem hi⟩
    obtain ⟨course, hcourse, hfollows⟩ := h.runs i event now hevent
    obtain ⟨rfl, rfl⟩ : now = at' ∧ course = .underway stop rest s := by
      simpa [hrun, eq_comm] using hcourse
    obtain ⟨hread, hmemo⟩ := h.memo.read hb (hfollows.within stop List.mem_cons_self)
    dsimp only
    rw [hread]
    generalize hturn : engine.turn (sharing.sent.map (·.2)) route.chain.id now none
      (stop.node.step engine.readFilter) rest s = turn
    obtain ⟨commands, course⟩ := turn
    refine ⟨hmemo, fun j other at' hother => ?_, by simpa using h.length, fun sent hmem => ?_⟩
    · by_cases hij : i = j
      · subst hij
        obtain ⟨rfl, rfl⟩ : event = other ∧ now = at' := by simpa [hevent] using hother
        exact ⟨course, List.getElem?_set_self (h.length ▸ hi), hfollows.turn hf hturn _ _⟩
      · obtain ⟨course', hcourse', hfollows'⟩ := h.runs j other at' hother
        exact ⟨course', (List.getElem?_set_ne hij).trans hcourse', hfollows'.other hij _ _ _⟩
    · rcases List.mem_append.mp hmem with hmem | hmem
      · exact h.senders sent hmem
      · obtain ⟨command, -, rfl⟩ := List.mem_map.mp hmem
        exact hi
  · exact h

theorem advance_ahead (engine : Engine) (route : Route) (sharing : Sharing) (i : Nat) {j : Nat}
    {run : Sharer} (hj : sharing.runs[j]? = some run) :
    ∃ after, (sharing.advance engine route i).runs[j]? = some after ∧
      after.course.ahead ≤ run.course.ahead - if i = j then 1 else 0 := by
  unfold Sharing.advance
  split
  · next now stop rest s hrun =>
    by_cases hij : i = j
    · subst hij
      obtain rfl := Option.some.inj (hrun.symm.trans hj)
      exact ⟨_, List.getElem?_set_self (List.getElem?_eq_some_iff.mp hj).1,
        by simpa [Course.ahead, Engine.turn] using Course.ahead_onward_le _ rest _⟩
    · exact ⟨run, (List.getElem?_set_ne hij).trans hj, by simp [hij]⟩
  · next hnone =>
    refine ⟨run, hj, ?_⟩
    split
    · next hij =>
      subst hij
      obtain ⟨now, course⟩ := run
      cases course with
      | underway stop rest s => exact absurd hj (hnone now stop rest s)
      | ended outcome => exact le_rfl
    · exact le_rfl

/-! ## Whole schedules -/

theorem Sound.play (h : sharing.Sound engine route events)
    (hb : Route.build chain nodes limit = .ok route) (hf : engine.dispatcher.Forgetful)
    (schedule : List Nat) : (sharing.play engine route schedule).Sound engine route events := by
  induction schedule generalizing sharing with
  | nil => exact h
  | cons i rest ih => exact ih (h.advance hb hf i)

theorem play_ahead (engine : Engine) (route : Route) (schedule : List Nat) {j : Nat} {run : Sharer}
    (hj : sharing.runs[j]? = some run) :
    ∃ after, (sharing.play engine route schedule).runs[j]? = some after ∧
      after.course.ahead ≤ run.course.ahead - schedule.count j := by
  induction schedule generalizing sharing run with
  | nil => exact ⟨run, hj, le_rfl⟩
  | cons i rest ih =>
    obtain ⟨mid, hmid, hle⟩ := advance_ahead engine route sharing i hj
    obtain ⟨after, hafter, hle'⟩ := ih hmid
    refine ⟨after, hafter, ?_⟩
    rw [List.count_cons]
    simp only [beq_iff_eq]
    omega

theorem Follows.ended {event : Record} {i : Nat} {run : Sharer}
    (h : Follows engine route event sharing i run) {outcome : Engine.Outcome}
    (he : run.course = .ended outcome) : outcome = engine.run route event run.now none := by
  have harrives := h.arrives
  rw [he] at harrives
  exact harrives

/-- Runs that share the route of a chain under any schedule: what the memo holds is the steps of
nodes, each to be found under the identifier of its stop, and for each event there is a run that,
where it has ended, came to what it comes to alone, and it has ended after as many turns as there
are stops. The commands that the gateway was sent are those of the runs, each in the order of its
own. -/
theorem play_isolated (hb : Route.build chain nodes limit = .ok route)
    (hf : engine.dispatcher.Forgetful) (events : List (Record × Timestamp))
    (schedule : List Nat) :
    let sharing := (start route events).play engine route schedule
    sharing.memo.Sound engine.readFilter route ∧
    (∀ stop ∈ route.stops, ∀ step, sharing.memo.get? stop.id = some step →
      stop.node.step engine.readFilter = .ok step) ∧
    (∀ i event now, events[i]? = some (event, now) → ∃ course,
      sharing.runs[i]? = some ⟨now, course⟩ ∧ sharing.sentBy i = course.log.sent ∧
      (∀ outcome, course = .ended outcome → outcome = engine.run route event now none) ∧
      (route.size ≤ schedule.count i → course = .ended (engine.run route event now none))) ∧
    sharing.runs.length = events.length ∧ ∀ sent ∈ sharing.sent, sent.1 < events.length := by
  intro sharing
  have hsound : sharing.Sound engine route events :=
    (start_sound engine route events).play hb hf schedule
  refine ⟨hsound.memo, fun stop hs step hg => hsound.memo.get? hb hs hg, fun i event now hi => ?_,
    hsound.length, hsound.senders⟩
  obtain ⟨course, hrun, hfollows⟩ := hsound.runs i event now hi
  refine ⟨course, hrun, hfollows.sent, fun outcome he => hfollows.ended he, fun hcount => ?_⟩
  have hstart : (start route events).runs[i]? = some ⟨now, route.depart event⟩ := by
    simp [start, hi]
  obtain ⟨after, hafter, hle⟩ := play_ahead engine route schedule hstart
  obtain rfl := Option.some.inj (hrun.symm.trans hafter)
  have hahead := route.ahead_depart_le event
  cases course with
  | underway stop rest s =>
    simp only [Course.ahead] at hle hahead
    omega
  | ended outcome => rw [hfollows.ended rfl]

/-- Two runs take turns: the first fails at a node that cannot be read, the second is halted by the
filter before it, of which the first has read the step. -/
theorem play_isolated_two :
    let head : Node := ⟨.int 1, .null, .text "filter", .null, .object [("field", .text "level"),
      ("operator", .text ">"), ("value", .int 20)], .int 2⟩
    let broken : Node := ⟨.int 2, .null, .text "action", .null, .int 3, .null⟩
    let route : Route := ⟨.named (.int 7) .null, [⟨.int 1, head⟩, ⟨.int 2, broken⟩]⟩
    let engine : Engine := ⟨.standard, ⟨none, none⟩, Condition.read⟩
    let now : Timestamp := ⟨⟨2024, 6, 1, by decide⟩, .midnight, some .utc⟩
    let sharing := (start route [([("level", .int 30)], now), ([("level", .int 12)], now)]).play
      engine route [0, 1, 0, 1]
    Route.build (.named (.int 7) .null) [head, broken] engine.policy.maxNodes = .ok route ∧
      engine.dispatcher.Forgetful ∧
      sharing.runs[0]? = some ⟨now, .ended (engine.run route [("level", .int 30)] now none)⟩ ∧
      sharing.runs[1]? = some ⟨now, .ended (engine.run route [("level", .int 12)] now none)⟩ := by
  intro head broken route engine now sharing
  have hb : Route.build (.named (.int 7) .null) [head, broken] engine.policy.maxNodes =
      .ok route := by
    unfold Route.build Route.follow Route.follow
    rfl
  have hf : engine.dispatcher.Forgetful := fun _ => rfl
  obtain ⟨-, -, hruns, -⟩ := play_isolated hb hf
    [([("level", .int 30)], now), ([("level", .int 12)], now)] [0, 1, 0, 1]
  obtain ⟨first, hfirst, -, -, hended⟩ := hruns 0 [("level", .int 30)] now rfl
  obtain ⟨second, hsecond, -, -, hended'⟩ := hruns 1 [("level", .int 12)] now rfl
  rw [hended (by decide)] at hfirst
  rw [hended' (by decide)] at hsecond
  exact ⟨hb, hf, hfirst, hsecond⟩

end Sharing

end EventChain
