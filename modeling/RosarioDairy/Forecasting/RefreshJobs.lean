import RosarioDairy.Foundations.Table
import RosarioDairy.Foundations.Interleaving

/-!
# Forecast refresh jobs — one maintenance worker at a time

Manual refreshes and the midnight schedule share one session advisory lock and one table of tracked
jobs.  The lock and the rows are separate: a request releases the lock before the worker takes it,
recovery fails abandoned rows from any process, and a launch that fails updates its row without the
lock.  Every statement of a process is one atomic step here; instants are counted in microseconds.
-/

namespace RosarioDairy
namespace Forecasting
namespace Refresh

open Foundations

/-! ## Rows -/

inductive JobStatus
  | queued
  | running
  | succeeded
  | failed
  deriving DecidableEq, Repr

inductive Trigger
  | manual
  | scheduled
  deriving DecidableEq, Repr

/-- The commands of one maintenance run, in `stages` in their order. -/
inductive Stage
  | refreshForecastPatterns
  | refreshForecastModels
  | refreshWeeklyForecasts
  | refreshProvisionalForecasts
  | refreshBetaGraphs
  | refreshProjectionEvidence
  deriving DecidableEq, Repr

def Stage.name : Stage → String
  | .refreshForecastPatterns => "refresh_forecast_patterns"
  | .refreshForecastModels => "refresh_forecast_models"
  | .refreshWeeklyForecasts => "refresh_weekly_forecasts"
  | .refreshProvisionalForecasts => "refresh_provisional_forecasts"
  | .refreshBetaGraphs => "refresh_beta_graphs"
  | .refreshProjectionEvidence => "refresh_projection_evidence"

def stages : List Stage :=
  [.refreshForecastPatterns, .refreshForecastModels, .refreshWeeklyForecasts,
    .refreshProvisionalForecasts, .refreshBetaGraphs, .refreshProjectionEvidence]

/-- `results` holds the last output line of each stage that has ended. -/
structure ForecastRefreshJob where
  pk : Nat
  scope : String
  status : JobStatus
  trigger : Trigger
  requestedBy : Option Nat
  stage : String
  results : List (Stage × String)
  errorCode : String
  createdAt : Int
  startedAt : Option Int
  finishedAt : Option Int
  deriving DecidableEq, Repr

instance : Row ForecastRefreshJob := ⟨ForecastRefreshJob.pk⟩

namespace ForecastRefreshJob

/-- The status is one of `ACTIVE`. -/
def active (job : ForecastRefreshJob) : Bool :=
  decide (job.status = .queued) || decide (job.status = .running)

def fail (job : ForecastRefreshJob) (stage errorCode : String) (now : Int) : ForecastRefreshJob :=
  { job with
    status := .failed
    stage := stage
    errorCode := errorCode
    finishedAt := some now }

/-- A row of the job table with the defaults of its fields. -/
def fresh (trigger : Trigger) (requestedBy : Option Nat) (now : Int) (pk : Nat) :
    ForecastRefreshJob :=
  { pk := pk
    scope := "all"
    status := .queued
    trigger := trigger
    requestedBy := requestedBy
    stage := "queued"
    results := []
    errorCode := ""
    createdAt := now
    startedAt := none
    finishedAt := none }

/-- `job.results[stage] = output` -/
def setResult (job : ForecastRefreshJob) (stage : Stage) (output : String) : ForecastRefreshJob :=
  if job.results.any (fun entry => decide (entry.1 = stage)) then
    { job with
      results := job.results.map (fun entry =>
        if entry.1 = stage then (stage, output) else entry) }
  else
    { job with results := job.results ++ [(stage, output)] }

end ForecastRefreshJob

/-- The holder of the advisory lock, the job table, the clock, and how many statements the database
has refused because of `one_active_forecast_refresh`. -/
structure Db (K : Type) where
  owner : Option K
  jobs : Table ForecastRefreshJob
  now : Int
  refused : Nat

/-- The functions that open `maintenance_lock`. -/
inductive Caller
  | enqueue
  | lookup
  | runMaintenance
  | consolidateCustomers
  deriving DecidableEq, Repr

/-- Where a statement stands; the statements of a worker name the job it works on. -/
inductive Point
  | tryLock
  | unlock (caller : Caller)
  | readClock
  | interruptRunning
  | expireQueued
  | readJobs
  | create
  | takes (job : Nat)
  | saveRunning (job : Nat)
  | saveStage (job : Nat) (stage : Stage)
  | callCommand (job : Nat) (stage : Stage)
  | saveResults (job : Nat) (stage : Stage)
  | finishes (job : Nat)
  | saveOutcome (job : Nat)
  | launch (job : Nat)
  | launchFailed (job : Nat)
  | consolidate
  deriving DecidableEq, Repr

inductive Failure
  | integrityError
  | doesNotExist
  | interrupted
  deriving DecidableEq, Repr

/-! ## Statements -/

section Statements

variable {K : Type} [DecidableEq K]

abbrev Session (K : Type) := Program Point (Db K)

/-- `SELECT pg_try_advisory_lock(LOCK_ID)`; no operation takes the lock a second time while it holds
it. -/
def tryLock (me : K) : Session K Bool :=
  .statement .tryLock fun db =>
    match db.owner with
    | none => (true, { db with owner := some me })
    | some _ => (false, db)

def unlock (me : K) (caller : Caller) : Session K Unit :=
  .statement (.unlock caller) fun db =>
    ((), if db.owner = some me then { db with owner := none } else db)

def timezoneNow (point : Point) : Session K Int := .statement point fun db => (db.now, db)

/-- The first row in the order of the table, which is by descending key. -/
def first (p : ForecastRefreshJob → Bool) : Session K (Option ForecastRefreshJob) :=
  .statement .readJobs fun db => (db.jobs.newest p, db)

def get (pk : Nat) : Session K (Option ForecastRefreshJob) :=
  .statement .readJobs fun db => (db.jobs.find pk, db)

/-- Another row would break the unique constraint if the row `pk` of this scope were active. -/
def conflicts (jobs : Table ForecastRefreshJob) (scope : String) (pk : Nat) : Bool :=
  jobs.rows.any fun job => job.active && decide (job.scope = scope) && !decide (job.pk = pk)

def create (trigger : Trigger) (requestedBy : Option Nat) :
    Session K (Option ForecastRefreshJob) :=
  .statement .create fun db =>
    if conflicts db.jobs "all" db.jobs.next then
      (none, { db with refused := db.refused + 1 })
    else
      (some (.fresh trigger requestedBy db.now db.jobs.next),
        { db with jobs := db.jobs.create (.fresh trigger requestedBy db.now) })

/-- `UPDATE`s that cannot make a row active. -/
def update (point : Point) (p : ForecastRefreshJob → Bool)
    (f : ForecastRefreshJob → ForecastRefreshJob) (hpk : ∀ job, (f job).pk = job.pk) :
    Session K Unit :=
  .statement point fun db => ((), { db with jobs := db.jobs.updateWhere p f hpk })

/-- `job.save(update_fields=['status', 'started_at'])` of a job that is now running. -/
def saveRunning (job : ForecastRefreshJob) : Session K Bool :=
  .statement (.saveRunning job.pk) fun db =>
    if conflicts db.jobs job.scope job.pk then
      (false, { db with refused := db.refused + 1 })
    else
      (true, { db with
        jobs := db.jobs.updateWhere (fun row => decide (row.pk = job.pk)) fun row =>
          { row with
            status := job.status
            startedAt := job.startedAt } })

end Statements

/-! ## Operations -/

section Operations

variable {K : Type} [DecidableEq K]

/-- The lock around `body`, which is told whether it was acquired. -/
def maintenanceLock {α : Type} (me : K) (caller : Caller) (body : Bool → Session K α) :
    Session K α := do
  let acquired ← tryLock me
  let answer ← body acquired
  if acquired then
    unlock me caller
    pure answer
  else
    pure answer

/-- Ten minutes. -/
def startGrace : Int := 10 * 60 * 1000000

def recoverAbandoned : Session K Unit := do
  let now ← timezoneNow .readClock
  update .interruptRunning (fun job => decide (job.status = .running))
    (fun job => job.fail "interrupted" "worker_interrupted" now) (fun _ => rfl)
  update .expireQueued
    (fun job => decide (job.status = .queued) && decide (job.createdAt < now - startGrace))
    (fun job => job.fail "interrupted" "worker_not_started" now) (fun _ => rfl)

def enqueue (me : K) (user : Option Nat) :
    Session K (Except Failure (Option ForecastRefreshJob × Bool)) :=
  maintenanceLock me .enqueue fun acquired =>
    if acquired then do
      recoverAbandoned
      match ← first ForecastRefreshJob.active with
      | some job => pure (.ok (some job, false))
      | none =>
          match ← create .manual user with
          | some job => pure (.ok (some job, true))
          | none => pure (.error .integrityError)
    else do
      match ← first ForecastRefreshJob.active with
      | some job => pure (.ok (some job, false))
      | none => pure (.ok (none, false))

/-- The response has been committed; `started` says whether the child process could be started. -/
def launchAfterCommit (started : Bool) (job : ForecastRefreshJob) : Session K Unit := do
  let launched ← Program.statement (.launch job.pk) fun db => (started, db)
  if launched then
    pure ()
  else do
    let now ← timezoneNow .readClock
    update (.launchFailed job.pk)
      (fun row => decide (row.pk = job.pk) && decide (row.status = .queued))
      (fun row => row.fail "launch_failed" "worker_launch_failed" now) (fun _ => rfl)

/-- What a stage's command does: print its result, raise an error (a `ValueError` or another), or end
the process's run from outside. -/
inductive Called
  | printed (output : String)
  | raised (valueError : Bool)
  | interrupted

/-- The loop over the stages, with the job as the worker holds it; it also says whether an interrupt
goes on past the `finally`. -/
def runStages (callCommand : Stage → Called) (job : ForecastRefreshJob) :
    List Stage → Session K (ForecastRefreshJob × Bool)
  | [] => pure ({ job with status := .succeeded, stage := "complete" }, false)
  | stage :: rest => do
      let job := { job with stage := stage.name }
      update (.saveStage job.pk stage) (fun row => decide (row.pk = job.pk))
        (fun row => { row with stage := job.stage }) (fun _ => rfl)
      match ← Program.statement (.callCommand job.pk stage)
          fun db => (callCommand stage, db) with
      | .printed output => do
          let job := job.setResult stage output
          update (.saveResults job.pk stage) (fun row => decide (row.pk = job.pk))
            (fun row => { row with results := job.results }) (fun _ => rfl)
          runStages callCommand job rest
      | .raised valueError =>
          pure ({ job with
            status := .failed
            errorCode := if valueError then "source_changed" else "refresh_failed" }, false)
      | .interrupted => pure (job, true)

inductive Maintained
  | busy (job : Option Nat)
  | notQueued (status : JobStatus) (job : Nat)
  | ended (status : JobStatus) (job : Nat) (results : List (Stage × String))
  deriving DecidableEq, Repr

/-- The job of a scheduled run (no id) or of a launched one. -/
def pickJob (jobId : Option Nat) : Session K (Except Failure ForecastRefreshJob) :=
  match jobId with
  | none => do
      match ← first fun job => decide (job.status = .queued) with
      | some job => pure (.ok job)
      | none =>
          match ← create .scheduled none with
          | some job => pure (.ok job)
          | none => pure (.error .integrityError)
  | some pk => do
      match ← get pk with
      | some job => pure (.ok job)
      | none => pure (.error .doesNotExist)

/-- The part of `run_maintenance` that works on a queued job. -/
def work (callCommand : Stage → Called) (job : ForecastRefreshJob) :
    Session K (Except Failure Maintained) := do
  let now ← timezoneNow (.takes job.pk)
  let job := { job with status := .running, startedAt := some now }
  if ← saveRunning job then
    let (job, interrupted) ← runStages callCommand job stages
    let now ← timezoneNow (.finishes job.pk)
    let job := { job with finishedAt := some now }
    update (.saveOutcome job.pk) (fun row => decide (row.pk = job.pk))
      (fun row =>
        { row with
          status := job.status
          stage := job.stage
          errorCode := job.errorCode
          finishedAt := job.finishedAt
          results := job.results }) (fun _ => rfl)
    if interrupted then
      pure (.error .interrupted)
    else
      pure (.ok (.ended job.status job.pk job.results))
  else
    pure (.error .integrityError)

def runMaintenance (me : K) (jobId : Option Nat) (callCommand : Stage → Called) :
    Session K (Except Failure Maintained) :=
  maintenanceLock me .runMaintenance fun acquired =>
    if acquired then do
      recoverAbandoned
      match ← pickJob jobId with
      | .error e => pure (.error e)
      | .ok job =>
          if job.status = .queued then
            work callCommand job
          else
            pure (.ok (.notQueued job.status job.pk))
    else do
      let active ← first ForecastRefreshJob.active
      pure (.ok (.busy (active.map ForecastRefreshJob.pk)))

def lookup (me : K) (jobId : Option Nat) : Session K (Option ForecastRefreshJob) := do
  maintenanceLock me .lookup fun acquired =>
    if acquired then recoverAbandoned else pure ()
  match jobId with
  | some pk => get pk
  | none => first fun _ => true

/-- The maintenance command that merges customers under the same lock; no job row changes. -/
def consolidateCustomers (me : K) : Session K Unit :=
  maintenanceLock me .consolidateCustomers fun acquired =>
    if acquired then
      Program.statement .consolidate fun db => ((), db)
    else
      pure ()

end Operations

/-! ## Processes -/

/-- What a process runs.  What its surroundings decide, whether a child process can be started and
what each stage's command does, is part of the operation. -/
inductive Operation
  | post (user : Option Nat) (started : Bool)
  | lookup (jobId : Option Nat)
  | runMaintenance (jobId : Option Nat) (callCommand : Stage → Called)
  | consolidateCustomers

inductive Reply
  | posted (job : Option ForecastRefreshJob) (alreadyRunning : Bool)
  | found (job : Option ForecastRefreshJob)
  | maintained (result : Maintained)
  | consolidated
  | raised (e : Failure)

section Processes

variable {K : Type} [DecidableEq K]

/-- `ForecastRefreshView.post` -/
def post (me : K) (user : Option Nat) (started : Bool) : Session K Reply := do
  match ← enqueue me user with
  | .error e => pure (.raised e)
  | .ok (none, _) => pure (.posted none false)
  | .ok (some job, false) => pure (.posted (some job) true)
  | .ok (some job, true) => do
      launchAfterCommit started job
      let job ← get job.pk
      pure (.posted job false)

def Operation.program (me : K) : Operation → Session K Reply
  | .post user started => Refresh.post me user started
  | .lookup jobId => do
      let job ← Refresh.lookup me jobId
      pure (.found job)
  | .runMaintenance jobId callCommand => do
      match ← Refresh.runMaintenance me jobId callCommand with
      | .ok result => pure (.maintained result)
      | .error e => pure (.raised e)
  | .consolidateCustomers => do
      Refresh.consolidateCustomers me
      pure .consolidated

/-- The lock ends with its session, and the clock may show anything. -/
def forecastWorkers (K : Type) [DecidableEq K] : Machine K Operation Int Point (Db K) Reply :=
  { program := Operation.program
    release := fun k db => if db.owner = some k then { db with owner := none } else db
    ambient := fun now db => { db with now := now } }

/-- The database before the first forecast refresh. -/
def Db.initial (now : Int) : Db K :=
  { owner := none
    jobs := .empty
    now := now
    refused := 0 }

end Processes

end Refresh
end Forecasting
end RosarioDairy
