/-!
# Audiences

An `Audience` is the list of listeners that hear about finished runs. No listener is in it
twice. A listener that hears news may fail, leave or bring in another, or give the order to stop.
-/

namespace EventChain

abbrev Listener := String

structure Audience where
  listeners : List Listener
  nodup : listeners.Nodup := by simp

inductive SubscriptionFault where
  | alreadySubscribed
  | notSubscribed
  deriving DecidableEq, Repr

def SubscriptionFault.message : SubscriptionFault → String
  | alreadySubscribed => "Listener is already subscribed"
  | notSubscribed => "Listener is not subscribed"

/-- What a listener does with news. -/
inductive Reaction where
  | listen
  | fail
  | leave
  | bring (other : Listener)
  /-- The order to stop, by its name. -/
  | interrupt (name : String)
  deriving DecidableEq, Repr

namespace Audience

def empty : Audience := ⟨[], by simp⟩

def subscribe (a : Audience) (who : Listener) : Except SubscriptionFault Audience :=
  if h : who ∈ a.listeners then throw .alreadySubscribed
  else pure ⟨a.listeners ++ [who], by
    have := a.nodup
    simp only [List.nodup_append, List.nodup_cons, List.not_mem_nil, not_false_eq_true,
      List.nodup_nil, and_self, List.mem_singleton, true_and, this]
    intro x hx y hy e
    exact h (hy ▸ e ▸ hx)⟩

def unsubscribe (a : Audience) (who : Listener) : Except SubscriptionFault Audience :=
  if who ∈ a.listeners then pure ⟨a.listeners.erase who, a.nodup.erase who⟩
  else throw .notSubscribed

end Audience

end EventChain
