import EventChain.Course

/-!
# Shared routes

Many runs may share one route. The first that comes to a stop reads the step of its node, and a
`Memo` keeps it for the others; a step that cannot be read is not kept. A `Sharing` is what the runs
of one route have come to between two turns: `Sharing.advance` gives one of them its turn, and
`Sharing.play` gives turns by a schedule.
-/

namespace EventChain

/-- The steps that were read, under the identifiers of their stops. -/
structure Memo where
  entries : List (Value × Step)

namespace Memo

def empty : Memo := ⟨[]⟩

def get? (memo : Memo) (id : Value) : Option Step :=
  (memo.entries.find? (·.1.agrees id)).map (·.2)

def keep (memo : Memo) (id : Value) (step : Step) : Memo := ⟨memo.entries ++ [(id, step)]⟩

/-- The step of a stop, which is read where it is not kept yet. -/
def read (readFilter : Value → Except Failure Condition) (memo : Memo) (stop : Stop) :
    Except Failure Step × Memo :=
  match memo.get? stop.id with
  | some step => (.ok step, memo)
  | none =>
    match stop.node.step readFilter with
    | .ok step => (.ok step, memo.keep stop.id step)
    | .error failure => (.error failure, memo)

end Memo

/-- A run that shares a route, at its own instant. -/
structure Sharer where
  now : Timestamp
  course : Course

/-- Runs that share a route, with the steps read so far and the commands sent so far, each with the
place of the run that sent it. -/
structure Sharing where
  memo : Memo
  sent : List (Nat × Command)
  runs : List Sharer

namespace Sharing

/-- Begins a run for each event, at the instant given with it. -/
def start (route : Route) (events : List (Record × Timestamp)) : Sharing :=
  ⟨.empty, [], events.map fun (event, now) => ⟨now, route.depart event⟩⟩

/-- Gives the run at a place its turn; a run that has ended takes none. -/
def advance (engine : Engine) (route : Route) (sharing : Sharing) (i : Nat) : Sharing :=
  match sharing.runs[i]? with
  | some ⟨now, .underway stop rest s⟩ =>
    let (read, memo) := sharing.memo.read engine.readFilter stop
    let (sent, course) :=
      engine.turn (sharing.sent.map (·.2)) route.chain.id now none read rest s
    ⟨memo, sharing.sent ++ sent.map (i, ·), sharing.runs.set i ⟨now, course⟩⟩
  | _ => sharing

def play (engine : Engine) (route : Route) (schedule : List Nat) (sharing : Sharing) : Sharing :=
  schedule.foldl (advance engine route) sharing

/-- The schedule that runs one after another. -/
def inTurn (route : Route) (runs : Nat) : List Nat :=
  (List.range runs).flatMap (List.replicate route.size)

/-- The commands that the run at a place has sent. -/
def sentBy (sharing : Sharing) (i : Nat) : List Command :=
  (sharing.sent.filter (·.1 = i)).map (·.2)

/-- What the runs came to that have ended. -/
def outcomes (sharing : Sharing) : List Engine.Outcome :=
  sharing.runs.filterMap fun run => match run.course with
    | .ended outcome => some outcome
    | .underway _ _ _ => none

end Sharing

end EventChain
