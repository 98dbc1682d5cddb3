import EventChain.Pool
import EventChain.Service

/-!
# Batches

A batch runs many jobs through a service, no more at once than its concurrency allows and
each under a deadline of its own. A job that fails is reported and stops no other, unless what it
fails with is no error. `Batch.run` gives the results and failures in the order in which the jobs
end, with the progress reported after each.
-/

namespace EventChain

/-- A chain to run on an event; the chain may be missing. -/
structure Job where
  chain : Option Value
  event : Record

structure BatchPolicy where
  concurrency : Int
  jobTimeout : Timeout

namespace BatchPolicy

def standard : BatchPolicy := ⟨20, some (.float (.ofInt 60))⟩

end BatchPolicy

/-- A job with what it came to. -/
structure JobOutcome where
  job : Job
  outcome : Engine.Outcome

/-- What is reported when a job ends: how many have ended, of how many, and which one. -/
structure Progress where
  completed : Nat
  total : Nat
  ended : JobOutcome

structure BatchReport where
  /-- The jobs in the order in which they ended. -/
  ended : List JobOutcome
  ledger : Ledger

namespace Job

/-- The deadline around a job. -/
def deadline? (chain : Value) (timeout : Timeout) : Except Excess (Option Deadline) :=
  Deadline.ofTimeout? .worker "Worker" [("chainId", chain)] timeout

/-- Runs a job on its own. -/
def run (service : Service) (timeout : Timeout) (now : Timestamp) (job : Job) : Engine.Outcome :=
  match job.chain with
  | none => ⟨.error .noChain, .empty⟩
  | some chain =>
    match deadline? chain timeout with
    | .error excess => ⟨.error (.excess excess), .empty⟩
    | .ok outer => service.execute chain job.event none now outer

/-- The identifier of the job's chain, null if it names none. -/
def chainId (job : Job) : Value := job.chain.getD .null

end Job

namespace JobOutcome

def result? (o : JobOutcome) : Option RunResult := o.outcome.result.toOption

def failure? (o : JobOutcome) : Option Failure :=
  match o.outcome.result with
  | .ok _ => none
  | .error failure => some failure

def success (o : JobOutcome) : Bool := o.result?.isSome

/-- The seconds that the job takes, `none` if it never ends. -/
def span? (o : JobOutcome) : Option Rat :=
  if o.outcome.ends then some o.outcome.log.elapsed else none

end JobOutcome

namespace BatchReport

def total (report : BatchReport) : Nat := report.ended.length

/-- The jobs that have a result, with it. -/
def results (report : BatchReport) : List (Job × RunResult) :=
  report.ended.filterMap fun o => o.result?.map (o.job, ·)

/-- The jobs that failed, with the reason. -/
def failures (report : BatchReport) : List (Job × Failure) :=
  report.ended.filterMap fun o => o.failure?.map (o.job, ·)

def sent (report : BatchReport) : List Command := report.ended.flatMap (·.outcome.log.sent)

/-- What is reported after each job. -/
def progress (report : BatchReport) : List Progress :=
  report.ended.zipIdx.map fun (o, i) => ⟨i + 1, report.total, o⟩

/-- Reports the jobs that failed, which fails where the report cannot show a chain. A failure that
is no error is not reported but passed on. -/
def logged (report : BatchReport) : Except Failure Unit :=
  report.failures.forM fun (job, failure) => do
    if !failure.isError then throw failure
    let _ ← limited job.chainId.plain

end BatchReport

namespace Batch

/-- Reports jobs in the order in which they ended. -/
def gather (ended : List JobOutcome) : Except Failure BatchReport := do
  let report : BatchReport :=
    ⟨ended, ended.foldl (fun ledger o => ledger.enter o.outcome) .empty⟩
  report.logged
  pure report

/-- Runs jobs as a batch. It waits for all of them, also for one that never ends or gets no place.
-/
def run (service : Service) (policy : BatchPolicy) (now : Timestamp) (jobs : List Job) :
    Except Failure BatchReport :=
  if policy.concurrency < 0 then throw .negativeConcurrency
  else do
    let outcomes := jobs.map fun job => ⟨job, job.run service policy.jobTimeout now⟩
    let ended := Pool.finishOrder policy.concurrency.toNat JobOutcome.span? outcomes
    let report ← gather ended
    if ended.length < outcomes.length then throw .endless
    pure report

end Batch

end EventChain
