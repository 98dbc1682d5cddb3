import EventChain.Batch
import EventChain.Course

/-!
# Crews

The jobs of a batch run side by side, as many at once as there are places. A `Crew` is what they
have come to between two turns: `Crew.seat` gives free places to jobs in line, where their deadlines
begin, and `Crew.advance` gives one of those with a place its turn, which either visits the next
stop of its run or, where the run has ended, gives the place up. A run that never ends keeps its
place.
-/

namespace EventChain

/-- A run under its deadlines, the seconds that passed before it, and the identifier under which it
is reported. -/
structure Passage where
  chain : Value
  cut : Option Cut
  before : Rat
  course : Course

/-- What a run comes to that began after some seconds. -/
def Engine.Outcome.after (before : Rat) (outcome : Engine.Outcome) : Engine.Outcome :=
  { outcome with log.elapsed := before + outcome.log.elapsed }

/-- A passage that ended before a run began. -/
def Passage.finished (outcome : Engine.Outcome) : Passage := ⟨.null, none, 0, .ended outcome⟩

namespace Service

/-- Begins a run of a chain that has been loaded. -/
def departLoaded (s : Service) (stored : StoredChain) (event : Record) (timeout : Timeout)
    (outer : Option Deadline) : Passage :=
  match deadline? stored.chain (timeout.or s.timeout) with
  | .error excess => .finished ⟨.error (.excess excess), ⟨stored.loading, [], []⟩⟩
  | .ok inner =>
    let cut := Deadline.cut? outer stored.loading inner
    match Route.build stored.chain stored.nodes s.engine.policy.maxNodes with
    | .error failure => ⟨stored.chain.id, cut, stored.loading, .ended ⟨.error failure, .empty⟩⟩
    | .ok route => ⟨route.chain.id, cut, stored.loading, route.depart event⟩

/-- Loads the chain of an identifier and begins its run. -/
def depart (s : Service) (id : Value) (event : Record) (timeout : Timeout)
    (outer : Option Deadline) : Passage :=
  match s.find? id, outer with
  | none, _ => .finished ⟨.error (notFound id), .empty⟩
  | some stored, none => s.departLoaded stored event timeout none
  | some stored, some deadline =>
    if deadline.span ≤ stored.loading then
      .finished ⟨.error deadline.failure, ⟨deadline.span, [], [(deadline.code, deadline.span)]⟩⟩
    else s.departLoaded stored event timeout outer

end Service

def Job.depart (service : Service) (timeout : Timeout) (job : Job) : Passage :=
  match job.chain with
  | none => .finished ⟨.error .noChain, .empty⟩
  | some chain =>
    match deadline? chain timeout with
    | .error excess => .finished ⟨.error (.excess excess), .empty⟩
    | .ok outer => service.depart chain job.event none outer

/-- A job that has a place. -/
structure Worker where
  job : Job
  passage : Passage

/-- The jobs in line, those that have a place, those that ended in their order, and the commands
that all of them have sent. -/
structure Crew where
  waiting : List Job
  active : List Worker
  ended : List JobOutcome
  sent : List Command

namespace Crew

def assemble (jobs : List Job) : Crew := ⟨jobs, [], [], []⟩

def isDone (crew : Crew) : Bool := crew.waiting.isEmpty && crew.active.isEmpty

/-- Lets the first jobs in line into the places that are free. -/
def seat (service : Service) (policy : BatchPolicy) (crew : Crew) : Crew :=
  let free := policy.concurrency.toNat - crew.active.length
  { crew with
    waiting := crew.waiting.drop free
    active := crew.active ++
      (crew.waiting.take free).map fun job => ⟨job, job.depart service policy.jobTimeout⟩ }

/-- Gives the job at a place its turn, once the free places are taken. -/
def advance (service : Service) (policy : BatchPolicy) (now : Timestamp) (crew : Crew) (i : Nat) :
    Crew :=
  let crew := crew.seat service policy
  match crew.active[i]? with
  | none => crew
  | some ⟨job, passage⟩ =>
    match passage.course with
    | .ended outcome =>
      if outcome.ends then
        { crew with
          active := crew.active.eraseIdx i
          ended := crew.ended ++ [⟨job, outcome.after passage.before⟩] }
      else crew
    | .underway stop rest s =>
      let (sent, course) := service.engine.turn crew.sent passage.chain now passage.cut
        (stop.node.step service.engine.readFilter) rest s
      { crew with
        active := crew.active.set i ⟨job, { passage with course }⟩
        sent := crew.sent ++ sent }

def play (service : Service) (policy : BatchPolicy) (now : Timestamp) (schedule : List Nat)
    (crew : Crew) : Crew :=
  schedule.foldl (advance service policy now) crew

end Crew

end EventChain
