import EventChain.Broadcast
import EventChain.Proofs.Failure
import EventChain.Proofs.Value.Identifier
import Mathlib.Data.List.Induction
import Mathlib.Data.List.Nodup

/-!
# What an audience hears

Every request of a sequence is served by the audience that the ones before it left
(`Audience.play_serves`). A result reaches the listeners that were there when it was emitted, in
their order and each of them once, whatever they do with it, unless the emission cannot be reported
or one of them gives the order to stop. What they change during the delivery stays for the next
request: who leaves is called nevertheless, and who is brought in is not called yet.
-/

namespace EventChain

namespace Audience

/-! ## Requests -/

def Stays (reaction : Listener → Reaction) (who : Listener) : Bool := reaction who ≠ .leave

/-- Whom a reaction brings in. -/
def brought? : Reaction → Option Listener
  | .bring other => some other
  | .listen | .fail | .leave | .interrupt _ => none

def stops (reaction : Listener → Reaction) (who : Listener) : Bool :=
  match reaction who with
  | .interrupt _ => true
  | _ => false

/-- Someone is brought in by one of some listeners that are called in order: by one that is called
when the newcomer is not there, or has left already. -/
def Brought (reaction : Listener → Reaction) (s : Audience) (called : List Listener)
    (other : Listener) : Prop :=
  ∃ before who after, called = before ++ who :: after ∧ reaction who = .bring other ∧
    (other ∈ s.listeners → other ∈ before ∧ reaction other = .leave)

/-- What has become of an audience after some of its listeners have been called and others not. -/
structure Midway (reaction : Listener → Reaction) (s : Audience) (called waiting : List Listener)
    (t : Audience) (newcomers : List Listener) : Prop where
  listeners : t.listeners = called.filter (Stays reaction) ++ (waiting ++ newcomers)
  sublist : newcomers.Sublist (called.filterMap fun who => brought? (reaction who))
  mem_iff : ∀ other, other ∈ newcomers ↔ Brought reaction s called other

/-- Listeners are called, and others wait in vain: who hears the news, and who is there then. -/
structure Hears (reaction : Listener → Reaction) (s : Audience) (called waiting : List Listener)
    (t : Audience) (answer : Answer) : Prop where
  listeners : s.listeners = called ++ waiting
  heard : answer.heard = called
  once : ∀ who ∈ called, answer.heard.count who = 1
  /-- A listener is there when it is called, so that it can leave. -/
  leaves : ∀ call ∈ answer.calls, reaction call.1 = .leave → call.2 = .ok ()
  after : ∃ newcomers, Midway reaction s called waiting t newcomers

inductive Emits (result : RunResult) (reaction : Listener → Reaction) (s : Audience) :
    Audience → Answer → Prop
  | unshown {limit : DigitLimit} : result.chain.plain = .error limit →
      Emits result reaction s s ⟨.error (.emission (.digitLimit limit)), []⟩
  | delivered {shown : String} {t : Audience} {answer : Answer} : result.chain.plain = .ok shown →
      (∀ who ∈ s.listeners, stops reaction who = false) → answer.outcome = .ok () →
      Hears reaction s s.listeners [] t answer → Emits result reaction s t answer
  | stopped {shown name : String} {called waiting : List Listener} {who : Listener} {t : Audience}
      {answer : Answer} : result.chain.plain = .ok shown →
      (∀ who ∈ called, stops reaction who = false) → reaction who = .interrupt name →
      answer.outcome = .error (.emission (.interrupted name (.text ""))) →
      Hears reaction s (called ++ [who]) waiting t answer → Emits result reaction s t answer

inductive Serves (s : Audience) : Request → Audience → Answer → Prop
  | joins {who : Listener} {t : Audience} : who ∉ s.listeners →
      t.listeners = s.listeners ++ [who] → Serves s (.subscribe who) t ⟨.ok (), []⟩
  | present {who : Listener} : who ∈ s.listeners →
      Serves s (.subscribe who) s ⟨.error (.subscription .alreadySubscribed), []⟩
  | leaves {who : Listener} {t : Audience} : who ∈ s.listeners →
      t.listeners = s.listeners.erase who → Serves s (.unsubscribe who) t ⟨.ok (), []⟩
  | absent {who : Listener} : who ∉ s.listeners →
      Serves s (.unsubscribe who) s ⟨.error (.subscription .notSubscribed), []⟩
  | emits {result : RunResult} {reaction : Listener → Reaction} {t : Audience} {answer : Answer} :
      Emits result reaction s t answer → Serves s (.emit result reaction) t answer

variable {a s t : Audience} {who other : Listener} {reaction : Listener → Reaction}
  {called waiting newcomers : List Listener} {chain : Value}

/-! ## Subscriptions -/

theorem subscribe_of_mem (h : who ∈ a.listeners) : a.subscribe who = .error .alreadySubscribed :=
  dif_pos h

theorem subscribe_of_not_mem (h : who ∉ a.listeners) :
    ∃ b, a.subscribe who = .ok b ∧ b.listeners = a.listeners ++ [who] :=
  ⟨_, dif_neg h, rfl⟩

theorem unsubscribe_of_mem (h : who ∈ a.listeners) :
    ∃ b, a.unsubscribe who = .ok b ∧ b.listeners = a.listeners.erase who :=
  ⟨_, if_pos h, rfl⟩

theorem unsubscribe_of_not_mem (h : who ∉ a.listeners) :
    a.unsubscribe who = .error .notSubscribed := if_neg h

/-! ## One call -/

theorem call_of_leave (hleave : reaction who = .leave) (h : who ∈ a.listeners) :
    ∃ b, a.call reaction who = (b, .ok ()) ∧ b.listeners = a.listeners.erase who := by
  obtain ⟨b, hb, hlisteners⟩ := unsubscribe_of_mem h
  refine ⟨b, ?_, hlisteners⟩
  rw [call, hleave]
  dsimp only
  rw [hb]
  rfl

theorem call_of_bring_mem (hbring : reaction who = .bring other) (h : other ∈ a.listeners) :
    (a.call reaction who).1 = a := by
  rw [call, hbring]
  dsimp only
  rw [subscribe_of_mem h]
  rfl

theorem call_of_bring_not_mem (hbring : reaction who = .bring other) (h : other ∉ a.listeners) :
    (a.call reaction who).1.listeners = a.listeners ++ [other] := by
  obtain ⟨b, hb, hlisteners⟩ := subscribe_of_not_mem h
  rw [call, hbring]
  dsimp only
  rw [hb]
  exact hlisteners

theorem brought_concat_iff : Brought reaction s (called ++ [who]) other ↔
    Brought reaction s called other ∨ reaction who = .bring other ∧
      (other ∈ s.listeners → other ∈ called ∧ reaction other = .leave) := by
  constructor
  · rintro ⟨before, bringer, after, hcalled, hbring, hleft⟩
    rcases List.eq_nil_or_concat after with rfl | ⟨after, last, rfl⟩
    · obtain ⟨rfl, hwho⟩ := List.append_inj' hcalled rfl
      cases hwho
      exact .inr ⟨hbring, hleft⟩
    · rw [List.concat_eq_append, ← List.cons_append, ← List.append_assoc] at hcalled
      exact .inl ⟨before, bringer, after, (List.append_inj' hcalled rfl).1, hbring, hleft⟩
  · rintro (⟨before, bringer, after, rfl, hbring, hleft⟩ | ⟨hbring, hleft⟩)
    · exact ⟨before, bringer, after ++ [who], by simp, hbring, hleft⟩
    · exact ⟨called, who, [], rfl, hbring, hleft⟩

theorem filter_concat (called : List Listener) (who : Listener) :
    (called ++ [who]).filter (Stays reaction) =
      called.filter (Stays reaction) ++ if reaction who = .leave then [] else [who] := by
  by_cases h : reaction who = .leave <;> simp [Stays, h]

theorem Midway.left_of_mem (h : Midway reaction s called waiting t newcomers)
    (hs : s.listeners = called ++ waiting) (hother : other ∈ s.listeners) :
    other ∈ t.listeners ∨ other ∈ called ∧ reaction other = .leave := by
  rw [h.listeners]
  rw [hs] at hother
  rcases List.mem_append.mp hother with hcalled | hwaiting
  · by_cases hleave : reaction other = .leave
    · exact .inr ⟨hcalled, hleave⟩
    · exact .inl (List.mem_append_left _ (List.mem_filter.mpr ⟨hcalled, decide_eq_true hleave⟩))
  · exact .inl (List.mem_append_right _ (List.mem_append_left _ hwaiting))

theorem Midway.keep (h : Midway reaction s called (who :: waiting) t newcomers)
    (hs : s.listeners = called ++ who :: waiting) (hstays : reaction who ≠ .leave)
    (hthere : ∀ other, reaction who = .bring other → other ∈ t.listeners) :
    Midway reaction s (called ++ [who]) waiting t newcomers where
  listeners := by rw [h.listeners, filter_concat, if_neg hstays]; simp
  sublist := by
    rw [List.filterMap_append]
    exact h.sublist.trans (List.sublist_append_left _ _)
  mem_iff other := by
    rw [brought_concat_iff, h.mem_iff]
    refine ⟨.inl, fun hbrought => hbrought.elim id fun ⟨hbring, hleft⟩ => ?_⟩
    rw [← h.mem_iff]
    have hmem := hthere other hbring
    rw [h.listeners, List.mem_append, List.mem_append, List.mem_filter] at hmem
    have hnodup := s.nodup
    rw [hs] at hnodup
    rcases hmem with ⟨hcalled, hstill⟩ | hwaiting | hnew
    · have hin : other ∈ s.listeners := hs ▸ List.mem_append_left _ hcalled
      exact absurd (hleft hin).2 (of_decide_eq_true hstill)
    · have hin : other ∈ s.listeners := hs ▸ List.mem_append_right _ hwaiting
      exact absurd hwaiting (List.disjoint_of_nodup_append hnodup (hleft hin).1)
    · exact hnew

/-- A call leaves the audience midway with one more of its listeners called. -/
theorem Midway.call (h : Midway reaction s called (who :: waiting) t newcomers)
    (hs : s.listeners = called ++ who :: waiting) :
    ∃ newcomers, Midway reaction s (called ++ [who]) waiting (t.call reaction who).1 newcomers := by
  have hwho : who ∈ t.listeners := by
    rw [h.listeners]
    exact List.mem_append_right _ List.mem_cons_self
  cases hreaction : reaction who with
  | listen =>
    rw [Audience.call, hreaction]
    exact ⟨newcomers, h.keep hs (by simp [hreaction]) (by simp [hreaction])⟩
  | fail =>
    rw [Audience.call, hreaction]
    exact ⟨newcomers, h.keep hs (by simp [hreaction]) (by simp [hreaction])⟩
  | interrupt name =>
    rw [Audience.call, hreaction]
    exact ⟨newcomers, h.keep hs (by simp [hreaction]) (by simp [hreaction])⟩
  | leave =>
    obtain ⟨b, hb, hlisteners⟩ := call_of_leave hreaction hwho
    refine ⟨newcomers, ?_, ?_, fun other => ?_⟩
    · have hnot : who ∉ called.filter (Stays reaction) :=
        fun hmem => of_decide_eq_true (List.mem_filter.mp hmem).2 hreaction
      rw [hb, hlisteners, h.listeners, List.erase_append_right _ hnot, List.cons_append,
        List.erase_cons_head, filter_concat, if_pos hreaction, List.append_nil]
    · rw [List.filterMap_append]
      exact h.sublist.trans (List.sublist_append_left _ _)
    · rw [brought_concat_iff, h.mem_iff, hreaction]
      simp
  | bring other =>
    by_cases hother : other ∈ t.listeners
    · rw [call_of_bring_mem hreaction hother]
      refine ⟨newcomers, h.keep hs (by simp [hreaction]) fun o ho => ?_⟩
      cases hreaction.symm.trans ho
      exact hother
    · refine ⟨newcomers ++ [other], ?_, ?_, fun o => ?_⟩
      · rw [call_of_bring_not_mem hreaction hother, h.listeners, filter_concat,
          if_neg (by simp [hreaction])]
        simp
      · rw [List.filterMap_append]
        refine h.sublist.append ?_
        simp [hreaction, brought?]
      · rw [brought_concat_iff, List.mem_append, h.mem_iff, hreaction, List.mem_singleton]
        refine or_congr_right ⟨?_, fun hbring => ?_⟩
        · rintro rfl
          exact ⟨rfl, fun hin => (h.left_of_mem hs hin).resolve_left hother⟩
        · cases hbring.1
          rfl

/-! ## Deliveries -/

theorem stops_iff : stops reaction who = true ↔ ∃ name, reaction who = .interrupt name := by
  unfold stops
  cases reaction who <;> simp

theorem handled_call {shown : String} (hshown : chain.plain = .ok shown)
    (hgoesOn : stops reaction who = false) (a : Audience) :
    handled chain (a.call reaction who).2 = .ok () := by
  have hlimited : limited chain.plain = .ok shown := limited_eq_ok.mpr hshown
  have hsettled (change : Except SubscriptionFault Audience) :
      handled chain ((a.settle change).2.mapError .subscription) = .ok () := by
    cases change with
    | ok after => rfl
    | error fault =>
      change (limited chain.plain >>= fun _ => pure ()) = _
      rw [hlimited]
      rfl
  unfold call
  cases hreaction : reaction who with
  | listen => rfl
  | fail =>
    change (limited chain.plain >>= fun _ => pure ()) = _
    rw [hlimited]
    rfl
  | leave => exact hsettled _
  | bring other => exact hsettled _
  | interrupt name => simp [stops, hreaction] at hgoesOn

theorem callAll_cons {shown : String} (hshown : chain.plain = .ok shown)
    (hgoesOn : stops reaction who = false) (a : Audience) (rest : List Listener) :
    a.callAll reaction chain (who :: rest) =
      (((a.call reaction who).1.callAll reaction chain rest).1,
        (who, (a.call reaction who).2) ::
          ((a.call reaction who).1.callAll reaction chain rest).2.1,
        ((a.call reaction who).1.callAll reaction chain rest).2.2) := by
  rw [callAll]
  simp only [handled_call hshown hgoesOn]

theorem callAll_of_interrupt {name : String} (h : reaction who = .interrupt name) (a : Audience)
    (rest : List Listener) : a.callAll reaction chain (who :: rest) =
      ((a.call reaction who).1, [(who, (a.call reaction who).2)],
        .error (.interrupted name (.text ""))) := by
  rw [callAll, call, h]
  rfl

/-- Listeners that do not give the order to stop are called before the rest is. -/
theorem callAll_append {shown : String} (hshown : chain.plain = .ok shown)
    (hgoOn : ∀ who ∈ called, stops reaction who = false) (a : Audience) (rest : List Listener) :
    a.callAll reaction chain (called ++ rest) =
      (((a.callAll reaction chain called).1.callAll reaction chain rest).1,
        (a.callAll reaction chain called).2.1 ++
          ((a.callAll reaction chain called).1.callAll reaction chain rest).2.1,
        ((a.callAll reaction chain called).1.callAll reaction chain rest).2.2) := by
  induction called generalizing a with
  | nil => rfl
  | cons first called ih =>
    obtain ⟨hfirst, hcalled⟩ := List.forall_mem_cons.mp hgoOn
    rw [List.cons_append, callAll_cons hshown hfirst, ih hcalled, callAll_cons hshown hfirst]
    rfl

theorem ended_callAll {shown : String} (hshown : chain.plain = .ok shown)
    (hgoOn : ∀ who ∈ called, stops reaction who = false) (a : Audience) :
    (a.callAll reaction chain called).2.2 = .ok () := by
  induction called generalizing a with
  | nil => rfl
  | cons first called ih =>
    obtain ⟨hfirst, hcalled⟩ := List.forall_mem_cons.mp hgoOn
    rw [callAll_cons hshown hfirst]
    exact ih hcalled _

theorem callAll_singleton {shown : String} (hshown : chain.plain = .ok shown) (a : Audience)
    (who : Listener) :
    (a.callAll reaction chain [who]).1 = (a.call reaction who).1 ∧
      (a.callAll reaction chain [who]).2.1 = [(who, (a.call reaction who).2)] := by
  cases hstops : stops reaction who with
  | true =>
    obtain ⟨name, hname⟩ := stops_iff.mp hstops
    rw [callAll_of_interrupt hname]
    exact ⟨rfl, rfl⟩
  | false =>
    rw [callAll_cons hshown hstops]
    exact ⟨rfl, rfl⟩

section
-- Only the last of the listeners that are called may give the order to stop.
variable {shown : String} (hshown : chain.plain = .ok shown)
  (hgoOn : ∀ who ∈ called.dropLast, stops reaction who = false)
include hshown hgoOn

theorem midway_callAll (hs : s.listeners = called ++ waiting) : ∃ newcomers,
    Midway reaction s called waiting (s.callAll reaction chain called).1 newcomers := by
  induction called using List.reverseRecOn generalizing waiting with
  | nil =>
    refine ⟨[], ?_, List.Sublist.refl _, fun other => by simp [Brought]⟩
    rw [List.append_nil]
    exact hs
  | append_singleton called who ih =>
    rw [List.dropLast_concat] at hgoOn
    rw [List.append_assoc, List.singleton_append] at hs
    obtain ⟨newcomers, h⟩ := ih (fun other hother => hgoOn other (List.dropLast_subset _ hother)) hs
    rw [callAll_append hshown hgoOn, (callAll_singleton hshown _ who).1]
    exact h.call hs

theorem heard_callAll (a : Audience) :
    (a.callAll reaction chain called).2.1.map Prod.fst = called := by
  induction called using List.reverseRecOn with
  | nil => rfl
  | append_singleton called who ih =>
    rw [List.dropLast_concat] at hgoOn
    rw [callAll_append hshown hgoOn, (callAll_singleton hshown _ who).2, List.map_append,
      ih fun other hother => hgoOn other (List.dropLast_subset _ hother)]
    rfl

theorem leaves_callAll (hs : s.listeners = called ++ waiting)
    {call : Listener × Except Mishap Unit} (hcall : call ∈ (s.callAll reaction chain called).2.1)
    (hleave : reaction call.1 = .leave) : call.2 = .ok () := by
  induction called using List.reverseRecOn generalizing waiting with
  | nil => cases hcall
  | append_singleton called who ih =>
    rw [List.dropLast_concat] at hgoOn
    rw [List.append_assoc, List.singleton_append] at hs
    have hbefore : ∀ other ∈ called.dropLast, stops reaction other = false :=
      fun other hother => hgoOn other (List.dropLast_subset _ hother)
    rw [callAll_append hshown hgoOn, (callAll_singleton hshown _ who).2] at hcall
    rcases List.mem_append.mp hcall with hearlier | hlast
    · exact ih hbefore hs hearlier
    · obtain rfl := List.mem_singleton.mp hlast
      obtain ⟨newcomers, h⟩ := midway_callAll hshown hbefore hs
      have hwho : who ∈ (s.callAll reaction chain called).1.listeners := by
        rw [h.listeners]
        exact List.mem_append_right _ List.mem_cons_self
      obtain ⟨b, hb, -⟩ := call_of_leave hleave hwho
      rw [hb]

theorem hears_callAll (hs : s.listeners = called ++ waiting) (outcome : Except Rejection Unit) :
    Hears reaction s called waiting (s.callAll reaction chain called).1
      ⟨outcome, (s.callAll reaction chain called).2.1⟩ := by
  have hheard := heard_callAll hshown hgoOn s
  refine ⟨hs, hheard, fun who hwho => ?_, fun call hcall => leaves_callAll hshown hgoOn hs hcall,
    midway_callAll hshown hgoOn hs⟩
  have hnodup := s.nodup
  rw [hs] at hnodup
  rw [Answer.heard, hheard]
  exact List.count_eq_one_of_mem hnodup.of_append_left hwho

end

theorem emit_of_shown {result : RunResult} {shown : String} (h : result.chain.plain = .ok shown)
    (a : Audience) (reaction : Listener → Reaction) :
    a.emit result reaction = a.callAll reaction result.chain a.listeners := by
  simp only [emit, limited_eq_ok.mpr h]

theorem emit_of_unshown {result : RunResult} {limit : DigitLimit}
    (h : result.chain.plain = .error limit) (a : Audience) (reaction : Listener → Reaction) :
    a.emit result reaction = (a, [], .error (.digitLimit limit)) := by
  simp only [emit, limited_eq_error.mpr ⟨limit, h, rfl⟩]
  rfl

theorem emit_steady {result : RunResult} {shown : String} (hshown : result.chain.plain = .ok shown)
    (h : ∀ who ∈ a.listeners, reaction who = .listen ∨ reaction who = .fail) :
    ∃ calls, a.emit result reaction = (a, calls, .ok ()) ∧ calls.map Prod.fst = a.listeners := by
  have hgoOn : ∀ who ∈ a.listeners, stops reaction who = false := by
    intro who hwho
    rcases h who hwho with hreaction | hreaction <;> simp [stops, hreaction]
  have hsame (listeners : List Listener)
      (hsteady : ∀ who ∈ listeners, reaction who = .listen ∨ reaction who = .fail)
      (hgoOn : ∀ who ∈ listeners, stops reaction who = false) :
      (a.callAll reaction result.chain listeners).1 = a := by
    induction listeners with
    | nil => rfl
    | cons who rest ih =>
      obtain ⟨hwho, hrest⟩ := List.forall_mem_cons.mp hsteady
      obtain ⟨hfirst, hothers⟩ := List.forall_mem_cons.mp hgoOn
      have hcall : (a.call reaction who).1 = a := by
        unfold call
        rcases hwho with hwho | hwho <;> rw [hwho]
      rw [callAll_cons hshown hfirst, hcall]
      exact ih hrest hothers
  refine ⟨(a.callAll reaction result.chain a.listeners).2.1, ?_, heard_callAll hshown
    (fun who hwho => hgoOn who (List.dropLast_subset _ hwho)) a⟩
  rw [emit_of_shown hshown]
  exact Prod.ext (hsame a.listeners h hgoOn) (Prod.ext rfl (ended_callAll hshown hgoOn a))

theorem emits_take (s : Audience) (result : RunResult) (reaction : Listener → Reaction) :
    Emits result reaction s (s.take (.emit result reaction)).1
      (s.take (.emit result reaction)).2 := by
  rw [take]
  cases hplain : result.chain.plain with
  | error limit =>
    rw [emit_of_unshown hplain]
    exact .unshown hplain
  | ok shown =>
    rw [emit_of_shown hplain]
    cases hfind : s.listeners.find? (stops reaction) with
    | none =>
      have hgoOn : ∀ who ∈ s.listeners, stops reaction who = false := by
        simpa using List.find?_eq_none.mp hfind
      have hended := ended_callAll hplain hgoOn s
      refine .delivered hplain hgoOn (congrArg (Except.mapError Rejection.emission) hended) ?_
      exact hears_callAll hplain (fun who hwho => hgoOn who (List.dropLast_subset _ hwho))
        (List.append_nil _).symm _
    | some who =>
      obtain ⟨hstops, called, waiting, hs, hgoOn⟩ := List.find?_eq_some_iff_append.mp hfind
      simp only [Bool.not_eq_eq_eq_not, Bool.not_true] at hgoOn
      obtain ⟨name, hname⟩ := stops_iff.mp hstops
      have hstopped : s.callAll reaction result.chain s.listeners =
          s.callAll reaction result.chain (called ++ [who]) := by
        rw [hs, callAll_append hplain hgoOn, callAll_append hplain hgoOn,
          callAll_of_interrupt hname, callAll_of_interrupt hname]
      have hcalled : s.listeners = (called ++ [who]) ++ waiting := by
        rw [hs, List.append_assoc, List.singleton_append]
      have hbefore : ∀ other ∈ (called ++ [who]).dropLast, stops reaction other = false := by
        rwa [List.dropLast_concat]
      rw [hstopped]
      refine .stopped hplain hgoOn hname ?_ (hears_callAll hplain hbefore hcalled _)
      rw [callAll_append hplain hgoOn, callAll_of_interrupt hname]
      rfl

theorem serves_take (s : Audience) (request : Request) :
    Serves s request (s.take request).1 (s.take request).2 := by
  cases request with
  | subscribe who =>
    rw [take]
    by_cases h : who ∈ s.listeners
    · rw [subscribe_of_mem h]
      exact .present h
    · obtain ⟨b, hb, hlisteners⟩ := subscribe_of_not_mem h
      rw [hb]
      exact .joins h hlisteners
  | unsubscribe who =>
    rw [take]
    by_cases h : who ∈ s.listeners
    · obtain ⟨b, hb, hlisteners⟩ := unsubscribe_of_mem h
      rw [hb]
      exact .leaves h hlisteners
    · rw [unsubscribe_of_not_mem h]
      exact .absent h
  | emit result reaction => exact .emits (emits_take s result reaction)

/-! ## Sequences of requests -/

theorem play_cons (a : Audience) (request : Request) (rest : List Request) :
    a.play (request :: rest) = (((a.take request).1.play rest).1,
      (a.take request).2 :: ((a.take request).1.play rest).2) := rfl

theorem play_append (a : Audience) (before after : List Request) :
    a.play (before ++ after) =
      (((a.play before).1.play after).1,
        (a.play before).2 ++ ((a.play before).1.play after).2) := by
  induction before generalizing a with
  | nil => rfl
  | cons request rest ih => rw [List.cons_append, play_cons, ih, play_cons]; rfl

/-- Wherever a request stands in a sequence, it is served by the audience that those before it left:
no listener is in it twice, only who is not there may subscribe, only who is there unsubscribe, and
a result that can be reported reaches exactly those who are there, up to one that gives the order to
stop. -/
theorem play_serves (a : Audience) (before : List Request) (request : Request)
    (after : List Request) :
    ∃ answer, (a.play (before ++ request :: after)).2 =
        (a.play before).2 ++ answer :: ((a.play (before ++ [request])).1.play after).2 ∧
      (a.play before).1.listeners.Nodup ∧ (a.play (before ++ [request])).1.listeners.Nodup ∧
      Serves (a.play before).1 request (a.play (before ++ [request])).1 answer := by
  refine ⟨((a.play before).1.take request).2, ?_, Audience.nodup _, Audience.nodup _, ?_⟩
  · rw [play_append, play_append]
    rfl
  · rw [play_append]
    exact serves_take _ request

/-- The result of a chain whose identifier cannot be shown reaches nobody. -/
theorem serves_otherwise :
    let n : Int := 10 ^ DigitLimit.most
    let result : RunResult := ⟨.int n, .completed, [], []⟩
    let request : Request := .emit result fun _ => .listen
    let answers := (empty.play [.subscribe "history", request]).2
    answers.map Answer.heard = [[], []] ∧ ∃ limit,
      answers.map Answer.outcome = [.ok (), .error (.emission (.digitLimit limit))] := by
  intro n result request answers
  have hdigits : 10 ^ DigitLimit.most ≤ n.natAbs := by
    rw [Int.natAbs_pow]
    exact Nat.pow_le_pow_left (by decide) _
  clear_value n
  cases hplain : result.chain.plain with
  | ok shown => exact absurd hplain (Value.int_plain_ne_ok hdigits shown)
  | error limit =>
    have hanswers : answers = [⟨.ok (), []⟩, ⟨.error (.emission (.digitLimit limit)), []⟩] := by
      simp only [answers, request, play, take, emit_of_unshown hplain]
      rfl
    rw [hanswers]
    exact ⟨rfl, limit, rfl⟩

end Audience

end EventChain
