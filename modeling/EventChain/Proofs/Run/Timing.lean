import EventChain.Course
import EventChain.Proofs.Deadline
import EventChain.Proofs.Device.Gateway
import EventChain.Proofs.Run.Unreached
import Mathlib.Algebra.Order.BigOperators.Group.List
import Mathlib.Tactic.Linarith

/-!
# The time of a run

Only actions take time. `spent` is what an action takes under a deadline of its own, and
`expirations` are the moments at which such deadlines expire in a row of actions: they and nothing
else show in the log of a run (`execute_log`). A run under an outer deadline is the run without it
where that ends before the deadline does; elsewhere it is cut off at that moment, and of the
deadlines of actions those count that expired before it (`execute_cut`).
-/

namespace EventChain

/-! ## Actions in a row -/

/-- The seconds that an action takes under a timeout whose answer comes after a delay: none where no
clock can be set to the timeout, as the command is not sent then. -/
def spent (timeout : Timeout) (delay : Rat) : Rat :=
  match timeout.span? with
  | .ok (some limit) => min limit delay
  | .ok none => delay
  | .error _ => 0

/-- The moment at which the own deadline of each action expires, and its span, where it does: the
actions start at a moment, one after the other. -/
def expirations (timeout : Timeout) : Rat → List Rat → List (Rat × Rat)
  | _, [] => []
  | start, delay :: rest =>
    (match timeout.span? with
      | .ok (some limit) => if limit ≤ delay then [(start + limit, limit)] else []
      | _ => []) ++ expirations timeout (start + spent timeout delay) rest

/-- The moments at which actions end that start at a moment, one after the other. -/
def ends (timeout : Timeout) : Rat → List Rat → List Rat
  | _, [] => []
  | start, delay :: rest =>
    (start + spent timeout delay) :: ends timeout (start + spent timeout delay) rest

/-- The log of expired deadlines of actions. -/
def ownExpired (expired : List (Rat × Rat)) : List (TimeoutCode × Rat) :=
  expired.map fun e => (.action, e.2)

@[simp] theorem ownExpired_append (expired others : List (Rat × Rat)) :
    ownExpired (expired ++ others) = ownExpired expired ++ ownExpired others :=
  List.map_append ..

/-- The deadlines of actions that expired before a moment. -/
def expiredBefore (moment : Rat) (expired : List (Rat × Rat)) : List (TimeoutCode × Rat) :=
  ownExpired (expired.filter fun e => e.1 < moment)

theorem expiredBefore_append {moment : Rat} {expired others : List (Rat × Rat)} :
    expiredBefore moment (expired ++ others) =
      expiredBefore moment expired ++ expiredBefore moment others := by
  unfold expiredBefore
  rw [List.filter_append, ownExpired_append]

section
variable {timeout : Timeout} {start : Rat} {delays : List Rat}

theorem spent_nonneg {delay : Rat} (h : 0 ≤ delay) : 0 ≤ spent timeout delay := by
  unfold spent
  split
  · next hspan => exact le_min (Timeout.span?_eq_some hspan).1.le h
  · exact h
  · exact le_refl 0

theorem expirations_append (others : List Rat) :
    expirations timeout start (delays ++ others) = expirations timeout start delays ++
      expirations timeout (start + (delays.map (spent timeout)).sum) others := by
  induction delays generalizing start with
  | nil => simp [expirations]
  | cons delay rest ih => simp [expirations, ih, add_assoc]

theorem eq_of_mem_expirations_singleton {delay : Rat} {e : Rat × Rat}
    (h : e ∈ expirations timeout start [delay]) : e.1 = start + spent timeout delay := by
  simp only [expirations, List.append_nil] at h
  split at h
  · next limit hspan =>
    split at h
    · next hle =>
      cases List.mem_singleton.mp h
      rw [spent, hspan]
      exact congrArg (start + ·) (min_eq_left hle).symm
    · cases h
  · cases h

theorem le_of_mem_expirations (hd : ∀ delay ∈ delays, 0 ≤ delay) {e : Rat × Rat}
    (h : e ∈ expirations timeout start delays) : start ≤ e.1 := by
  induction delays generalizing start with
  | nil => cases h
  | cons delay rest ih =>
    obtain ⟨hdelay, hrest⟩ := List.forall_mem_cons.mp hd
    have hspent : 0 ≤ spent timeout delay := spent_nonneg hdelay
    rw [← List.singleton_append, expirations_append] at h
    rcases List.mem_append.mp h with h | h
    · rw [eq_of_mem_expirations_singleton h]
      exact le_add_of_nonneg_right hspent
    · have hnext := ih hrest h
      rw [List.map_singleton, List.sum_singleton] at hnext
      linarith

end

namespace Engine

variable {engine : Engine} {now : Timestamp} {node : Node} {s : RunState} {cut : Cut}

/-! ## Actions on time -/

/-- An engine whose gateway answers every command some time, in the same way whatever came before
it, no device raising a timeout of its own. -/
structure Timed (engine : Engine) (gateway : Gateway) : Prop where
  answers : engine.dispatcher.gateway = some gateway
  after : ∀ earlier, engine.dispatcher.after earlier = engine.dispatcher
  punctual : gateway.Punctual
  prompt : gateway.Prompt

/-- The delay of an action whose command is answered some time. -/
def delay (gateway : Gateway) (action : Action) : Rat :=
  (gateway.send (Dispatcher.commandOf action)).delay.getD 0

def delays (gateway : Gateway) (stops : List Stop) : List Rat :=
  (stops.filterMap (·.node.action?)).map (delay gateway)

theorem Timed.send_delay {gateway : Gateway} (h : engine.Timed gateway) (action : Action) :
    (gateway.send (Dispatcher.commandOf action)).delay = some (delay gateway action) := by
  obtain ⟨seconds, hseconds⟩ := h.prompt (Dispatcher.commandOf action)
  rw [delay, hseconds]
  rfl

section
variable {gateway : Gateway} {timeout : Timeout} {stop : Stop} {stops : List Stop}

theorem delays_cons (gateway : Gateway) (stop : Stop) (stops : List Stop) :
    delays gateway (stop :: stops) = delays gateway [stop] ++ delays gateway stops := by
  unfold delays
  rw [← List.map_append, ← List.filterMap_append]
  rfl

theorem delay_nonneg (gateway : Gateway) (action : Action) : 0 ≤ delay gateway action := by
  unfold delay
  cases h : (gateway.send (Dispatcher.commandOf action)).delay with
  | none => exact le_refl 0
  | some seconds => exact Gateway.delay_nonneg h

theorem nonneg_of_mem_delays {seconds : Rat} (h : seconds ∈ delays gateway stops) :
    0 ≤ seconds := by
  obtain ⟨action, -, rfl⟩ := List.mem_map.mp h
  exact delay_nonneg gateway action

theorem Timed.performed_eq (h : Timed engine gateway) (s : RunState) (action : Action) :
    (engine.performed s action).elapsed =
        some (spent engine.actionTimeout (delay gateway action)) ∧
      ∀ log : Log, (log.perform (engine.performed s action)).expired = log.expired ++
        ownExpired (expirations engine.actionTimeout log.elapsed [delay gateway action]) := by
  have hp := Dispatcher.perform_performed h.answers action s.record engine.policy.actionTimeout
  have hdelay := h.send_delay action
  -- An action that is answered in time takes its delay, and no deadline expires.
  have hanswered (hin : engine.dispatcher.InTime gateway action engine.policy.actionTimeout) :
      spent engine.actionTimeout (delay gateway action) = delay gateway action ∧
        ∀ start, expirations engine.actionTimeout start [delay gateway action] = [] := by
    obtain ⟨span, hspan, seconds, hseconds, hin⟩ := hin
    replace hspan : engine.actionTimeout.span? = .ok span := hspan
    cases hdelay.symm.trans hseconds
    cases span with
    | none => simp [spent, expirations, hspan]
    | some limit =>
      have hlt : delay gateway action < limit := hin limit rfl
      simp [spent, expirations, hspan, hlt, hlt.le]
  rw [performed, h.after]
  generalize engine.dispatcher.perform action s.record engine.policy.actionTimeout = p at hp
  cases hp with
  | replied hin =>
    obtain ⟨hspent, hnone⟩ := hanswered hin
    rw [hspent]
    exact ⟨hdelay, fun log => by rw [hnone]; rfl⟩
  | faulted hin hr =>
    obtain ⟨hspent, hnone⟩ := hanswered hin
    rw [hspent]
    refine ⟨hdelay, fun log => ?_⟩
    rw [hnone, Log.perform, decide_eq_false (h.punctual _ _ hr)]
    rfl
  | @expired limit hspan hlate =>
    replace hspan : engine.actionTimeout.span? = .ok (some limit) := hspan
    have hle : limit ≤ delay gateway action := hlate _ hdelay
    simp [Log.perform, spent, expirations, ownExpired, hspan, hle]
  | endless _ hnone => cases hdelay.symm.trans hnone
  | @refused excess hspan =>
    replace hspan : engine.actionTimeout.span? = .error excess := hspan
    simp [Log.perform, spent, expirations, ownExpired, hspan]

theorem Timed.performed_log (h : Timed engine gateway) (s : RunState) (action : Action)
    (log : Log) :
    (log.perform (engine.performed s action)).elapsed =
      log.elapsed + spent engine.actionTimeout (delay gateway action) := by
  rw [Log.perform, (h.performed_eq s action).1]
  rfl

theorem Timed.isOvertaken_iff (h : Timed engine gateway) (s : RunState) (action : Action)
    (log : Log) (moment : Rat) : log.isOvertaken (engine.performed s action) moment = true ↔
      moment ≤ (log.perform (engine.performed s action)).elapsed := by
  rw [h.performed_log, Log.isOvertaken, (h.performed_eq s action).1]
  exact decide_eq_true_iff

/-- A visit that ends before the deadline is that of a run without one, and every other is cut
off. -/
theorem Timed.visit_cut (h : Timed engine gateway) (hs : s.log.elapsed < cut.moment) :
    ((engine.visit now none node s).log.elapsed < cut.moment ∧
      engine.visit now (some cut) node s = engine.visit now none node s) ∨
    (cut.moment ≤ (engine.visit now none node s).log.elapsed ∧
      ∃ sent, engine.visit now (some cut) node s = .fail cut.deadline.failure
        ⟨cut.moment, sent, s.log.expired ++ [(cut.deadline.code, cut.deadline.span)]⟩) := by
  have hlog := visit_log engine now node s
  cases ha : node.action? with
  | none =>
    rw [ha] at hlog
    refine .inl ⟨hlog ▸ hs, ?_⟩
    unfold visit
    cases hstep : node.step engine.readFilter with
    | error failure => rfl
    | ok step =>
      cases step with
      | action id action =>
        rw [(Node.becomes_of_step hstep).action?] at ha
        cases ha
      | _ => rfl
  | some action =>
    rw [ha] at hlog
    have hstep : node.step engine.readFilter = .ok (.action node.id action) :=
      Node.step_of_action? ha
    have hvisit : engine.visit now (some cut) node s =
        if s.log.isOvertaken (engine.performed s action) cut.moment then
          reported node.id (.fail cut.deadline.failure
            (s.log.interrupt (engine.performed s action) cut))
        else engine.visit now none node s := by
      simp only [visit, hstep, visitStep, performed, Step.node]
      split <;> rfl
    simp only [hvisit, hlog, h.isOvertaken_iff]
    by_cases hle : cut.moment ≤ (s.log.perform (engine.performed s action)).elapsed
    · rw [if_pos hle]
      refine .inr ⟨hle, (s.log.interrupt (engine.performed s action) cut).sent, ?_⟩
      unfold reported
      split <;> rfl
    · exact .inl ⟨not_le.mp hle, if_neg hle⟩


theorem Timed.visit_log (h : Timed engine gateway) (now : Timestamp) (stop : Stop)
    (s : RunState) :
    (engine.visit now none stop.node s).log.elapsed =
        s.log.elapsed + ((delays gateway [stop]).map (spent engine.actionTimeout)).sum ∧
      (engine.visit now none stop.node s).log.expired =
        s.log.expired ++ ownExpired
          (expirations engine.actionTimeout s.log.elapsed (delays gateway [stop])) := by
  rw [Engine.visit_log]
  cases ha : stop.node.action? with
  | none => simp [delays, ha, expirations, ownExpired]
  | some action =>
    have helapsed := h.performed_log s action s.log
    have hexpired := (h.performed_eq s action).2 s.log
    simpa [delays, ha] using And.intro helapsed hexpired

theorem eq_of_mem_expirations_stop {start : Rat} {e : Rat × Rat}
    (h : e ∈ expirations timeout start (delays gateway [stop])) :
    e.1 = start + ((delays gateway [stop]).map (spent timeout)).sum := by
  cases ha : stop.node.action? with
  | none => simp [delays, ha, expirations] at h
  | some action =>
    simp only [delays, List.filterMap_cons, ha, List.filterMap_nil, List.map_cons,
      List.map_nil] at h ⊢
    rw [List.sum_singleton]
    exact eq_of_mem_expirations_singleton h

theorem expiredBefore_stop {start moment : Rat}
    (h : start + ((delays gateway [stop]).map (spent timeout)).sum < moment) :
    expiredBefore moment (expirations timeout start (delays gateway [stop])) =
      ownExpired (expirations timeout start (delays gateway [stop])) := by
  refine congrArg ownExpired (List.filter_eq_self.mpr fun e he => ?_)
  rw [eq_of_mem_expirations_stop he]
  exact decide_eq_true h

theorem expiredBefore_stops {start moment : Rat}
    (h : moment ≤ start + ((delays gateway [stop]).map (spent timeout)).sum) :
    expiredBefore moment (expirations timeout start (delays gateway (stop :: stops))) = [] := by
  refine List.map_eq_nil_iff.mpr (List.filter_eq_nil_iff.mpr fun e he => ?_)
  rw [delays_cons, expirations_append] at he
  have hend : start + ((delays gateway [stop]).map (spent timeout)).sum ≤ e.1 := by
    rcases List.mem_append.mp he with he | he
    · exact (eq_of_mem_expirations_stop he).ge
    · exact le_of_mem_expirations (fun _ => nonneg_of_mem_delays) he
  simpa using h.trans hend

/-! ## Runs -/

/-- A walk takes the time of the actions among the stops it visits, and the deadlines that expire
are theirs. -/
theorem Timed.walk_log (h : Timed engine gateway) (now : Timestamp) (chain : Value)
    (stops : List Stop) (s : RunState) :
    (engine.walk chain now none stops s).log.elapsed = s.log.elapsed +
        ((delays gateway (engine.reached now none stops s)).map (spent engine.actionTimeout)).sum ∧
      (engine.walk chain now none stops s).log.expired = s.log.expired ++ ownExpired
        (expirations engine.actionTimeout s.log.elapsed
          (delays gateway (engine.reached now none stops s))) := by
  induction stops generalizing s with
  | nil => simp [walk, reached, delays, expirations, ownExpired]
  | cons stop rest ih =>
    obtain ⟨helapsed, hexpired⟩ := h.visit_log now stop s
    unfold walk reached
    cases hv : engine.visit now none stop.node s with
    | goOn mid =>
      rw [hv] at helapsed hexpired
      obtain ⟨ihelapsed, ihexpired⟩ := ih mid
      simp only [Visit.log] at helapsed hexpired
      simp only
      rw [delays_cons, List.map_append, List.sum_append, expirations_append, ownExpired_append,
        ihelapsed, ihexpired, helapsed, hexpired, add_assoc, List.append_assoc]
      exact ⟨rfl, rfl⟩
    | halt mid =>
      rw [hv] at helapsed hexpired
      exact ⟨helapsed, hexpired⟩
    | fail failure log =>
      rw [hv] at helapsed hexpired
      exact ⟨helapsed, hexpired⟩

theorem Timed.visit_le_walk (h : Timed engine gateway) (now : Timestamp) (chain : Value)
    (stop : Stop) (stops : List Stop) (s : RunState) :
    (engine.visit now none stop.node s).log.elapsed ≤
      (engine.walk chain now none (stop :: stops) s).log.elapsed := by
  unfold walk
  cases engine.visit now none stop.node s with
  | goOn mid =>
    simp only [Visit.log]
    rw [(h.walk_log now chain stops mid).1]
    refine le_add_of_nonneg_right (List.sum_nonneg fun t ht => ?_)
    obtain ⟨seconds, hd, rfl⟩ := List.mem_map.mp ht
    exact spent_nonneg (nonneg_of_mem_delays hd)
  | halt mid => exact le_refl _
  | fail failure log => exact le_refl _

/-- A run that a deadline cuts off after others had expired. -/
structure CutOff (cut : Cut) (expired : List (TimeoutCode × Rat)) (outcome : Outcome) : Prop where
  result : outcome.result = .error cut.deadline.failure
  elapsed : outcome.log.elapsed = cut.moment
  expired : outcome.log.expired = expired ++ [(cut.deadline.code, cut.deadline.span)]

/-- A walk under a deadline is the walk without it where that ends before the deadline expires, and
is cut off elsewhere. Induction on the stops: the visits before the deadline are those of both. -/
theorem Timed.walk_cut (h : Timed engine gateway) (chain : Value) (stops : List Stop)
    (s : RunState) (hs : s.log.elapsed < cut.moment) :
    ((engine.walk chain now none stops s).log.elapsed < cut.moment →
      engine.walk chain now (some cut) stops s = engine.walk chain now none stops s) ∧
    (cut.moment ≤ (engine.walk chain now none stops s).log.elapsed →
      CutOff cut (s.log.expired ++ expiredBefore cut.moment (expirations engine.actionTimeout
          s.log.elapsed (delays gateway (engine.reached now none stops s))))
        (engine.walk chain now (some cut) stops s)) := by
  induction stops generalizing s with
  | nil => exact ⟨fun _ => rfl, fun hle => absurd hs (not_lt.mpr hle)⟩
  | cons stop rest ih =>
    obtain ⟨helapsed, hexpired⟩ := h.visit_log now stop s
    unfold walk reached
    rcases h.visit_cut hs with ⟨hlt, hsame⟩ | ⟨hle, sent, hcut⟩
    · rw [hsame]
      cases hv : engine.visit now none stop.node s with
      | goOn mid =>
        rw [hv] at hlt helapsed hexpired
        obtain ⟨hearly, hlate⟩ := ih mid hlt
        refine ⟨hearly, fun hle => ⟨(hlate hle).result, (hlate hle).elapsed, ?_⟩⟩
        simp only [Visit.log] at hlt helapsed hexpired
        have hkept := expiredBefore_stop (helapsed ▸ hlt)
        simp only
        rw [(hlate hle).expired, hexpired, helapsed,
          delays_cons _ _ (engine.reached now none rest mid), expirations_append,
          expiredBefore_append, hkept]
        simp only [List.append_assoc]
      | halt mid =>
        rw [hv] at hlt
        exact ⟨fun _ => rfl, fun hle => absurd hlt (not_lt.mpr hle)⟩
      | fail failure log =>
        rw [hv] at hlt
        exact ⟨fun _ => rfl, fun hle => absurd hlt (not_lt.mpr hle)⟩
    · have hplain := hle.trans (h.visit_le_walk now chain stop rest s)
      rw [walk] at hplain
      rw [hcut]
      refine ⟨fun hlt => absurd hlt (not_lt.mpr hplain), fun _ => ⟨rfl, rfl, ?_⟩⟩
      rw [expiredBefore_stops (helapsed ▸ hle), List.append_nil]

theorem Timed.execute_log (h : Timed engine gateway) (chain : Chain) (nodes : List Node)
    (event : Record) :
    (engine.execute chain nodes event now none).log.elapsed =
        ((delays gateway (engine.visits chain nodes event now none)).map
          (spent engine.actionTimeout)).sum ∧
      (engine.execute chain nodes event now none).log.expired =
        ownExpired (expirations engine.actionTimeout 0
          (delays gateway (engine.visits chain nodes event now none))) := by
  rcases engine.execute_cases chain nodes event now with ⟨result, hrun⟩ | ⟨stops, hrun⟩
  · rw [(hrun none).1, (hrun none).2]
    exact ⟨rfl, rfl⟩
  · rw [(hrun none).1, (hrun none).2]
    obtain ⟨helapsed, hexpired⟩ := h.walk_log now chain.id stops ⟨event, [], .empty⟩
    exact ⟨helapsed.trans (zero_add _), hexpired⟩

/-- A run under a deadline is the run without it where that ends before the deadline expires, and
is cut off elsewhere. -/
theorem Timed.execute_cut (h : Timed engine gateway) (hcut : 0 < cut.moment) (chain : Chain)
    (nodes : List Node) (event : Record) :
    ((engine.execute chain nodes event now none).log.elapsed < cut.moment →
      engine.execute chain nodes event now (some cut) =
        engine.execute chain nodes event now none) ∧
    (cut.moment ≤ (engine.execute chain nodes event now none).log.elapsed →
      CutOff cut (expiredBefore cut.moment (expirations engine.actionTimeout 0
          (delays gateway (engine.visits chain nodes event now none))))
        (engine.execute chain nodes event now (some cut))) := by
  rcases engine.execute_cases chain nodes event now with ⟨result, hrun⟩ | ⟨stops, hrun⟩
  · rw [(hrun none).1, (hrun (some cut)).1]
    exact ⟨fun _ => rfl, fun hle => absurd hcut (not_lt.mpr hle)⟩
  · rw [(hrun none).1, (hrun none).2, (hrun (some cut)).1]
    exact h.walk_cut chain.id stops ⟨event, [], .empty⟩ hcut

end

end Engine

end EventChain
