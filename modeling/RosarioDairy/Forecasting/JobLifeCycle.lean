import RosarioDairy.Foundations.Annotations
import RosarioDairy.Forecasting.OneWorker

/-!
# Job life cycle — queued, running, and then done

Every statement that writes a status is checked against the moves of the life cycle.  The save of
`running` is the one that does not look at the row: it makes a legal move as long as the row it was
read as queued stays queued, which only the handler of a failed launch can break.
-/

namespace RosarioDairy
namespace Forecasting
namespace Refresh

open Foundations

variable {K : Type}

/-! ## Moves -/

/-- The moves of the life cycle. -/
inductive JobStatus.Moves : JobStatus → JobStatus → Prop
  | starts : Moves .queued .running
  | withdrawn : Moves .queued .failed
  | succeeds : Moves .running .succeeded
  | fails : Moves .running .failed

/-- The job has ended. -/
def JobStatus.Ended (status : JobStatus) : Prop := status = .succeeded ∨ status = .failed

theorem JobStatus.Ended.not_moves {status status' : JobStatus} (h : status.Ended) :
    ¬ status.Moves status' := by
  intro hmove
  cases hmove with
  | starts => rcases h with h | h <;> cases h
  | withdrawn => rcases h with h | h <;> cases h
  | succeeds => rcases h with h | h <;> cases h
  | fails => rcases h with h | h <;> cases h

/-- No row vanishes, a status changes only as `may` allows, and new rows are queued. -/
structure RowsMove (may : Nat → JobStatus → JobStatus → Prop)
    (jobs jobs' : Table ForecastRefreshJob) : Prop where
  kept : ∀ job ∈ jobs.rows, ∃ job' ∈ jobs'.rows, job'.pk = job.pk ∧
    (job'.status = job.status ∨ may job.pk job.status job'.status)
  queued : ∀ job' ∈ jobs'.rows, (∃ job ∈ jobs.rows, job.pk = job'.pk) ∨ job'.status = .queued

section RowsMove

variable {may : Nat → JobStatus → JobStatus → Prop} {jobs jobs' : Table ForecastRefreshJob}

theorem RowsMove.refl (jobs : Table ForecastRefreshJob) : RowsMove may jobs jobs :=
  { kept := fun job hjob => ⟨job, hjob, rfl, Or.inl rfl⟩
    queued := fun job hjob => Or.inl ⟨job, hjob, rfl⟩ }

theorem RowsMove.create (jobs : Table ForecastRefreshJob) (mk : Nat → ForecastRefreshJob)
    (hpk : ∀ n, Row.pk (mk n) = n) (hmk : (mk jobs.next).status = .queued) :
    RowsMove may jobs (jobs.create mk hpk) := by
  constructor
  · intro job hjob
    exact ⟨job, List.mem_append.2 (Or.inl hjob), rfl, Or.inl rfl⟩
  · intro job' hjob'
    rcases List.mem_append.1 hjob' with hold | hnew
    · exact Or.inl ⟨job', hold, rfl⟩
    · rw [List.mem_singleton.1 hnew]
      exact Or.inr hmk

theorem RowsMove.updateWhere {p : ForecastRefreshJob → Bool}
    {f : ForecastRefreshJob → ForecastRefreshJob} (hpk : ∀ job, Row.pk (f job) = Row.pk job)
    (hf : ∀ job ∈ jobs.rows, p job = true →
      (f job).status = job.status ∨ may job.pk job.status (f job).status) :
    RowsMove may jobs (jobs.updateWhere p f hpk) := by
  have hkey : ∀ job, (if p job then f job else job).pk = job.pk := by
    intro job
    split
    · exact hpk job
    · rfl
  constructor
  · intro job hjob
    refine ⟨_, List.mem_map.2 ⟨job, hjob, rfl⟩, hkey job, ?_⟩
    by_cases hp : p job = true
    · rw [if_pos hp]
      exact hf job hjob hp
    · rw [if_neg hp]
      exact Or.inl rfl
  · intro job' hjob'
    obtain ⟨job, hjob, rfl⟩ := List.mem_map.1 hjob'
    exact Or.inl ⟨job, hjob, (hkey job).symm⟩

theorem RowsMove.imp {may' : Nat → JobStatus → JobStatus → Prop} (h : RowsMove may jobs jobs')
    (hmay : ∀ job ∈ jobs.rows, ∀ status, may job.pk job.status status →
      status = job.status ∨ may' job.pk job.status status) : RowsMove may' jobs jobs' := by
  refine ⟨?_, h.queued⟩
  intro job hjob
  obtain ⟨job', hjob', hpk, hstatus⟩ := h.kept job hjob
  refine ⟨job', hjob', hpk, ?_⟩
  rcases hstatus with hsame | hmoved
  · exact Or.inl hsame
  · exact hmay job hjob job'.status hmoved

end RowsMove

/-! ## The annotation -/

def QueuedRow (job : Nat) (db : Db K) : Prop :=
  ∃ row ∈ db.jobs.rows, row.pk = job ∧ row.status = .queued

/-- A worker that has read its job as queued, and has not saved it yet, finds it queued. -/
def FindsQueued : Point → Db K → Prop
  | .takes job | .saveRunning job => QueuedRow job
  | _ => fun _ => True

/-- The changes of a status that the statement at a place can make. -/
def May : Point → Nat → JobStatus → JobStatus → Prop
  | .saveRunning job => fun pk _ status => pk = job ∧ status = .running
  | .saveOutcome job => fun pk _ status => pk = job ∧ status ≠ .queued
  | .interruptRunning | .expireQueued | .launchFailed _ => fun _ => JobStatus.Moves
  | _ => fun _ _ _ => False

def lifeCycle (K : Type) : Annotation K Point (Db K) :=
  { holds := fun _ => FindsQueued
    does := fun point db db' => RowsMove (May point) db.jobs db'.jobs }

/-- The program is annotated from every state. -/
def Free {α : Type} (k : K) (p : Session K α) : Prop :=
  ∀ db, (lifeCycle K).Annotates k (fun _ _ => True) p db

section Rules

variable {α β : Type} {k : K}

theorem free_returns (a : α) : Free k (Program.returns a : Session K α) := fun _ => trivial

theorem free_bind {p : Session K α} {next : α → Session K β} (hp : Free k p)
    (hnext : ∀ a, Free k (next a)) : Free k (p >>= next) :=
  fun db => (hp db).bind fun a t _ => hnext a t

theorem free_statement {point : Point} {f : Db K → α × Db K}
    (hpoint : ∀ db : Db K, FindsQueued point db)
    (hdoes : ∀ db, RowsMove (May point) db.jobs (f db).2.jobs) :
    Free k (Program.statement point f) :=
  fun db => Annotation.annotates_statement (hpoint db) fun t _ => ⟨hdoes t, trivial⟩

/-- A statement that reads. -/
theorem free_read {point : Point} {g : Db K → α} (hpoint : ∀ db : Db K, FindsQueued point db) :
    Free k (Program.statement point fun db => (g db, db)) :=
  free_statement hpoint fun db => RowsMove.refl db.jobs

theorem free_update {point : Point} {p : ForecastRefreshJob → Bool}
    {f : ForecastRefreshJob → ForecastRefreshJob} {hpk : ∀ job, (f job).pk = job.pk}
    (hpoint : ∀ db : Db K, FindsQueued point db)
    (hf : ∀ job, p job = true →
      (f job).status = job.status ∨ May point job.pk job.status (f job).status) :
    Free k (update point p f hpk) :=
  free_statement hpoint fun _ => RowsMove.updateWhere hpk fun job _ => hf job

end Rules

/-! ## Programs -/

section Programs

variable {k : K}

theorem free_first (p : ForecastRefreshJob → Bool) : Free k (first p) :=
  free_read fun _ => trivial

theorem free_get (pk : Nat) : Free k (get pk) := free_read fun _ => trivial

theorem rowsMove_create {point : Point} (trigger : Trigger) (user : Option Nat) (db : Db K) :
    RowsMove (May point) db.jobs
      (if conflicts db.jobs "all" db.jobs.next then
        ((none : Option ForecastRefreshJob), { db with refused := db.refused + 1 })
      else
        (some (.fresh trigger user db.now db.jobs.next),
          { db with jobs := db.jobs.create (.fresh trigger user db.now) })).2.jobs := by
  split
  · exact RowsMove.refl db.jobs
  · exact RowsMove.create db.jobs (.fresh trigger user db.now) (fun _ => rfl) rfl

theorem free_create (trigger : Trigger) (user : Option Nat) : Free k (create trigger user) :=
  free_statement (fun _ => trivial) (rowsMove_create trigger user)

theorem free_recoverAbandoned : Free k recoverAbandoned := by
  refine free_bind (free_read fun _ => trivial) fun now => ?_
  refine free_bind (free_update (fun _ => trivial) ?_) fun _ => free_update (fun _ => trivial) ?_
  · intro job hp
    have hrunning : job.status = .running := of_decide_eq_true hp
    refine Or.inr ?_
    rw [hrunning]
    exact .fails
  · intro job hp
    simp only [Bool.and_eq_true, decide_eq_true_eq] at hp
    refine Or.inr ?_
    rw [hp.1]
    exact .withdrawn

theorem free_launchAfterCommit (started : Bool) (job : ForecastRefreshJob) :
    Free k (launchAfterCommit started job) := by
  refine free_bind (free_read fun _ => trivial) fun launched => ?_
  cases launched with
  | true => exact free_returns ()
  | false =>
      refine free_bind (free_read fun _ => trivial) fun now => free_update (fun _ => trivial) ?_
      intro row hp
      simp only [Bool.and_eq_true, decide_eq_true_eq] at hp
      refine Or.inr ?_
      rw [hp.2]
      exact .withdrawn

/-- What the worker has read, the moment it has read it. -/
def PickedQueued (picked : Except Failure ForecastRefreshJob) (db : Db K) : Prop :=
  ∀ job, picked = .ok job → job.status = .queued → QueuedRow job.pk db

theorem pickedQueued_of_mem {db : Db K} {job : ForecastRefreshJob} (hjob : job ∈ db.jobs.rows) :
    PickedQueued (.ok job) db := by
  rintro job' hEq hqueued
  cases hEq
  exact ⟨job, hjob, rfl, hqueued⟩

theorem pickedQueued_error (e : Failure) (db : Db K) : PickedQueued (.error e) db := by
  intro job hEq
  cases hEq

/-- A statement that reads or creates a job. -/
theorem annotates_found {point : Point} {f : Db K → Option ForecastRefreshJob × Db K}
    (hpoint : ∀ db : Db K, FindsQueued point db)
    (hdoes : ∀ db, RowsMove (May point) db.jobs (f db).2.jobs)
    (hfound : ∀ db job, (f db).1 = some job → job ∈ (f db).2.jobs.rows) (db : Db K) :
    (lifeCycle K).Annotates k
      (fun found db => ∀ job, found = some job → PickedQueued (.ok job) db)
      (Program.statement point f) db := by
  refine Annotation.annotates_statement (hpoint db) fun t _ => ⟨hdoes t, ?_⟩
  intro job hjob
  exact pickedQueued_of_mem (hfound t job hjob)

theorem annotates_pickJob (jobId : Option Nat) (db : Db K) :
    (lifeCycle K).Annotates k PickedQueued (pickJob jobId) db := by
  cases jobId with
  | none =>
      -- no job is asked for: the newest queued one, or a new one
      refine (annotates_found ?_ ?_ ?_ db).bind ?_
      · exact fun _ => trivial
      · exact fun db => RowsMove.refl db.jobs
      · intro db job hjob
        exact (Table.newest_eq_some hjob).1
      · intro found t hfound
        cases found with
        | some job => exact hfound job rfl
        | none =>
            refine (annotates_found ?_ ?_ ?_ t).bind ?_
            · exact fun _ => trivial
            · exact rowsMove_create .scheduled none
            · intro db job hjob
              -- a conflicting job refuses the creation
              split at hjob
              · cases hjob
              · rename_i hfree
                cases hjob
                rw [if_neg hfree]
                exact List.mem_append.2 (Or.inr (List.mem_singleton.2 rfl))
            · intro created t' hcreated
              cases created with
              | some job => exact hcreated job rfl
              | none => exact pickedQueued_error _ t'
  | some pk =>
      -- the job asked for must still be queued when it is taken
      refine (annotates_found ?_ ?_ ?_ db).bind ?_
      · exact fun _ => trivial
      · exact fun db => RowsMove.refl db.jobs
      · intro db job hjob
        exact (Table.find_eq_some.1 hjob).1
      · intro found t hfound
        cases found with
        | some job => exact hfound job rfl
        | none => exact pickedQueued_error _ t

@[simp] theorem setResult_status (job : ForecastRefreshJob) (stage : Stage) (output : String) :
    (job.setResult stage output).status = job.status := by
  unfold ForecastRefreshJob.setResult
  split
  · rfl
  · rfl

/-- The worker holds a job that is not queued, through all stages. -/
theorem annotates_runStages (callCommand : Stage → Called) (rest : List Stage) :
    ∀ (job : ForecastRefreshJob) (db : Db K), job.status ≠ .queued →
      (lifeCycle K).Annotates k (fun answer _ => answer.1.status ≠ .queued)
        (runStages callCommand job rest) db := by
  induction rest with
  | nil =>
      intro job db _ hEq
      cases hEq
  | cons stage rest ih =>
      intro job db hjob
      have hsave : Free k (update (.saveStage job.pk stage) (fun row => decide (row.pk = job.pk))
          (fun row => { row with stage := stage.name }) (fun _ => rfl) : Session K Unit) :=
        free_update (fun _ => trivial) fun _ _ => Or.inl rfl
      refine (hsave db).bind fun _ t _ => ?_
      refine Annotation.Annotates.bind (Q := fun _ _ => True) ?_ fun called t' _ => ?_
      · refine free_read ?_ t
        exact fun _ => trivial
      · cases called with
        | printed output =>
            refine Annotation.Annotates.bind (Q := fun _ _ => True) ?_ fun _ t'' _ => ?_
            · refine free_update ?_ ?_ t'
              · exact fun _ => trivial
              · exact fun _ _ => Or.inl rfl
            · refine ih _ t'' ?_
              simpa using hjob
        | raised valueError =>
            intro hEq
            cases hEq
        | interrupted => exact hjob

theorem annotates_work (callCommand : Stage → Called) (job : ForecastRefreshJob) (db : Db K)
    (hqueued : QueuedRow job.pk db) :
    (lifeCycle K).Annotates k (fun _ _ => True) (work callCommand job) db := by
  refine Annotation.Annotates.bind (Q := fun _ => QueuedRow job.pk) ?_ fun now t ht => ?_
  · exact Annotation.annotates_statement hqueued fun t ht => ⟨RowsMove.refl t.jobs, ht⟩
  refine Annotation.Annotates.bind (Q := fun _ _ => True) ?_ fun saved t' _ => ?_
  · refine Annotation.annotates_statement ht fun t _ => ⟨?_, trivial⟩
    dsimp only
    -- the row may have left the queue meanwhile; then nothing is saved
    split
    · exact RowsMove.refl t.jobs
    · refine RowsMove.updateWhere ?_ ?_
      · exact fun _ => rfl
      · exact fun row _ hp => Or.inr ⟨of_decide_eq_true hp, rfl⟩
  cases saved with
  | false => trivial
  | true =>
      refine Annotation.Annotates.bind
        (annotates_runStages callCommand stages
          { job with
            status := .running
            startedAt := some now } t' ?_) fun answer u hanswer => ?_
      · -- the copy that the stages carry is the running one
        intro hEq
        cases hEq
      obtain ⟨last, interrupted⟩ := answer
      refine Annotation.Annotates.bind (Q := fun _ _ => True) ?_ fun finishedAt u' _ => ?_
      · refine free_read ?_ u
        exact fun _ => trivial
      refine Annotation.Annotates.bind (Q := fun _ _ => True) ?_ fun _ u'' _ => ?_
      · refine free_update ?_ ?_ u'
        · exact fun _ => trivial
        · -- the last save writes an end to a row that was running
          exact fun row hp => Or.inr ⟨of_decide_eq_true hp, hanswer⟩
      · cases interrupted with
        | true => trivial
        | false => trivial

end Programs

section Locking

variable [DecidableEq K] {k : K}

theorem free_maintenanceLock {α : Type} {caller : Caller} {body : Bool → Session K α}
    (hbody : ∀ acquired, Free k (body acquired)) : Free k (maintenanceLock k caller body) := by
  refine free_bind ?_ fun acquired => free_bind (hbody acquired) fun answer => ?_
  · refine free_statement (fun _ => trivial) fun db => ?_
    split
    · exact RowsMove.refl db.jobs
    · exact RowsMove.refl db.jobs
  · cases acquired with
    | false => exact free_returns answer
    | true =>
        refine free_bind ?_ fun _ => free_returns answer
        refine free_statement (fun _ => trivial) fun db => ?_
        dsimp only
        split
        · exact RowsMove.refl db.jobs
        · exact RowsMove.refl db.jobs

theorem free_enqueue (user : Option Nat) : Free k (enqueue k user) := by
  refine free_maintenanceLock fun acquired => ?_
  cases acquired with
  | false =>
      refine free_bind (free_first _) fun active => ?_
      cases active with
      | some job => exact free_returns _
      | none => exact free_returns _
  | true =>
      refine free_bind free_recoverAbandoned fun _ => free_bind (free_first _) fun active => ?_
      cases active with
      | some job => exact free_returns _
      | none =>
          refine free_bind (free_create _ _) fun created => ?_
          cases created with
          | some job => exact free_returns _
          | none => exact free_returns _

theorem free_runMaintenance (jobId : Option Nat) (callCommand : Stage → Called) :
    Free k (runMaintenance k jobId callCommand) := by
  refine free_maintenanceLock fun acquired => ?_
  cases acquired with
  | false => exact free_bind (free_first _) fun _ => free_returns _
  | true =>
      refine free_bind free_recoverAbandoned fun _ db => ?_
      refine (annotates_pickJob jobId db).bind fun picked t hpicked => ?_
      cases picked with
      | error e => trivial
      | ok job =>
          by_cases hqueued : job.status = .queued
          · simp only [hqueued, if_true]
            exact annotates_work callCommand job t (hpicked job rfl hqueued)
          · simp only [hqueued, if_false]
            trivial

theorem free_lookup (jobId : Option Nat) : Free k (lookup k jobId) := by
  refine free_bind (free_maintenanceLock fun acquired => ?_) fun _ => ?_
  · cases acquired with
    | false => exact free_returns ()
    | true => exact free_recoverAbandoned
  · cases jobId with
    | some pk => exact free_get pk
    | none => exact free_first _

theorem free_post (user : Option Nat) (started : Bool) : Free k (post k user started) := by
  refine free_bind (free_enqueue user) fun answer => ?_
  rcases answer with e | ⟨active, created⟩
  · exact free_returns _
  · cases active with
    | none => exact free_returns _
    | some job =>
        cases created with
        | false => exact free_returns _
        | true =>
            exact free_bind (free_launchAfterCommit started job) fun _ =>
              free_bind (free_get job.pk) fun _ => free_returns _

theorem free_program (op : Operation) : Free k (op.program k) := by
  cases op with
  | post user started => exact free_post user started
  | lookup jobId => exact free_bind (free_lookup jobId) fun _ => free_returns _
  | runMaintenance jobId callCommand =>
      refine free_bind (free_runMaintenance jobId callCommand) fun result => ?_
      cases result with
      | ok result => exact free_returns _
      | error e => exact free_returns _
  | consolidateCustomers =>
      refine free_bind (free_maintenanceLock fun acquired => ?_) fun _ => free_returns _
      cases acquired with
      | false => exact free_returns ()
      | true => exact free_statement (fun _ => trivial) fun db => RowsMove.refl db.jobs

/-! ## Every interleaving -/

/-- The event runs a stage of the job. -/
def RunsStage (job : Nat) (S : System K Point (Db K) Reply) (e : Event K Operation Int) : Prop :=
  ∃ k stage, e = .steps k ∧ S.At k (.callCommand job stage)

/-- One event of the life of the jobs: statuses move along, and a stage runs for a running job. -/
structure LivesOn (S : System K Point (Db K) Reply) (e : Event K Operation Int) : Prop where
  moves : RowsMove (fun _ => JobStatus.Moves) S.shared.jobs
    ((forecastWorkers K).act S e).shared.jobs
  stages : ∀ job, RunsStage job S e →
    ∀ row ∈ S.shared.jobs.rows, row.pk = job → row.status = .running

/-- Only a statement changes a row. -/
theorem act_jobs_eq (S : System K Point (Db K) Reply) {e : Event K Operation Int}
    (he : ∀ k, e ≠ .steps k) : ((forecastWorkers K).act S e).shared.jobs = S.shared.jobs := by
  cases e with
  | starts k op =>
      simp only [Machine.act]
      split
      · rfl
      · rfl
  | steps k => exact absurd rfl (he k)
  | crashes k =>
      simp only [Machine.act, forecastWorkers]
      split
      · rfl
      · rfl
  | ambient now => rfl

/-- A worker before its first save keeps a queued row, unless a launch failure overtakes it. -/
theorem queuedRow_act {S : System K Point (Db K) Reply} (h : S.Sound (outline K))
    {e : Event K Operation Int} (hovertakes : ¬ OvertakesWorker S e) {p : K} {job : Nat}
    (hp : S.At p (.takes job) ∨ S.At p (.saveRunning job)) (he : e ≠ .steps p)
    (hqueued : QueuedRow job S.shared) :
    QueuedRow job ((forecastWorkers K).act S e).shared := by
  obtain ⟨row, hrow, hpk, hstatus⟩ := hqueued
  have hsame (hjobs : ((forecastWorkers K).act S e).shared.jobs = S.shared.jobs) :
      QueuedRow job ((forecastWorkers K).act S e).shared :=
    ⟨row, by rw [hjobs]; exact hrow, hpk, hstatus⟩
  by_cases hstep : ∃ q, e = .steps q
  · obtain ⟨q, rfl⟩ := hstep
    -- a process at one of the two points works on the job
    have hworks : WorksOn S p job := by
      rcases hp with hp | hp
      · exact ⟨_, hp, rfl⟩
      · exact ⟨_, hp, rfl⟩
    -- and holds the lock, so the process that steps does not
    have hq : S.shared.owner ≠ some q := by
      rw [owner_of_worksOn h hworks]
      intro hEq
      exact he (by rw [Option.some.inj hEq])
    rcases step_without_lock h hq with hjobs | ⟨job', now, hat, hjobs⟩
    · exact hsame hjobs
    · -- the other process may only fail a job, and `hovertakes` says it is not this one
      have hother : row.pk ≠ job' := by
        intro hEq
        have hjob : job = job' := hpk.symm.trans hEq
        subst hjob
        exact hovertakes ⟨q, p, job, rfl, hat, hp, row, hrow, hpk, hstatus⟩
      refine ⟨row, ?_, hpk, hstatus⟩
      rw [hjobs]
      refine List.mem_map.2 ⟨row, hrow, ?_⟩
      simp [hother]
  · -- what is no step of a process leaves the jobs alone
    exact hsame (act_jobs_eq S fun q hq => hstep ⟨q, hq⟩)

/-- The worker's first save finds a queued row, its last one a running row. -/
theorem moves_of_may {S : System K Point (Db K) Reply} (h : S.Sound (outline K)) {k : K}
    {point : Point} (hat : S.At k point) (hqueued : FindsQueued point S.shared) :
    ∀ job ∈ S.shared.jobs.rows, ∀ status, May point job.pk job.status status →
      status = job.status ∨ job.status.Moves status := by
  intro row hrow status hmay
  have hasserts := asserts_of_at h hat
  cases point with
  | saveRunning job =>
      obtain ⟨hpk, rfl⟩ := hmay
      obtain ⟨row', hrow', hpk', hstatus'⟩ := hqueued
      obtain rfl := S.shared.jobs.eq_of_pk_eq hrow hrow' (hpk.trans hpk'.symm)
      rw [hstatus']
      exact Or.inr .starts
  | saveOutcome job =>
      obtain ⟨hpk, hstatus⟩ := hmay
      rw [hasserts.jobs row hrow hpk]
      cases status with
      | queued => exact absurd rfl hstatus
      | running => exact Or.inl rfl
      | succeeded => exact Or.inr .succeeds
      | failed => exact Or.inr .fails
  | interruptRunning => exact Or.inr hmay
  | expireQueued => exact Or.inr hmay
  | launchFailed job => exact Or.inr hmay
  | _ => exact hmay.elim

theorem livesOn {S : System K Point (Db K) Reply} (h : S.Sound (outline K))
    (hannotated : S.Annotated (lifeCycle K)) (e : Event K Operation Int) : LivesOn S e := by
  constructor
  · by_cases hstep : ∃ k point, e = .steps k ∧ S.At k point
    · obtain ⟨k, point, rfl, hat⟩ := hstep
      obtain ⟨hqueued, hdoes⟩ := hannotated.steps (M := forecastWorkers K) hat
      exact hdoes.imp (moves_of_may h hat hqueued)
    · have hsame : ((forecastWorkers K).act S e).shared.jobs = S.shared.jobs := by
        by_cases hk : ∃ k, e = .steps k
        · obtain ⟨k, rfl⟩ := hk
          rw [act_steps_idle fun point hat => hstep ⟨k, point, rfl, hat⟩]
        · exact act_jobs_eq S fun k he => hk ⟨k, he⟩
      rw [hsame]
      exact RowsMove.refl _
  · rintro job ⟨k, stage, rfl, hat⟩ row hrow hpk
    exact Held.jobs (asserts_of_at h hat) row hrow hpk

theorem act_lifeCycle {S : System K Point (Db K) Reply} (h : S.Sound (outline K))
    (hannotated : S.Annotated (lifeCycle K)) {e : Event K Operation Int}
    (hovertakes : ¬ OvertakesWorker S e) :
    ((forecastWorkers K).act S e).Annotated (lifeCycle K) := by
  refine act_annotated ?_ hannotated e fun k point hat he => ?_
  · exact fun k op => free_program op
  obtain ⟨hqueued, -⟩ := hannotated.steps (M := forecastWorkers K) hat
  cases point with
  | takes job => exact queuedRow_act h hovertakes (Or.inl hat) he hqueued
  | saveRunning job => exact queuedRow_act h hovertakes (Or.inr hat) he hqueued
  | _ => trivial

/-- The life of the jobs in a run: every event is legal, and a job that has ended stays as it is and
runs no stage. -/
structure JobsLive (S : System K Point (Db K) Reply) (events : List (Event K Operation Int)) :
    Prop where
  legal : (forecastWorkers K).EachEvent LivesOn S events
  ended : ∀ pre post, events = pre ++ post →
    ∀ job ∈ ((forecastWorkers K).run S pre).shared.jobs.rows, job.status.Ended →
      (∃ job' ∈ ((forecastWorkers K).run S events).shared.jobs.rows,
        job'.pk = job.pk ∧ job'.status = job.status) ∧
      (forecastWorkers K).EachEvent (fun T e => ¬ RunsStage job.pk T e)
        ((forecastWorkers K).run S pre) post

theorem ended_stays {events : List (Event K Operation Int)} :
    ∀ {S : System K Point (Db K) Reply}, (forecastWorkers K).EachEvent LivesOn S events →
      ∀ job ∈ S.shared.jobs.rows, job.status.Ended →
        (∃ job' ∈ ((forecastWorkers K).run S events).shared.jobs.rows,
          job'.pk = job.pk ∧ job'.status = job.status) ∧
        (forecastWorkers K).EachEvent (fun T e => ¬ RunsStage job.pk T e) S events := by
  induction events with
  | nil =>
      intro S _ job hjob _
      exact ⟨⟨job, hjob, rfl, rfl⟩, trivial⟩
  | cons e rest ih =>
      intro S hlegal job hjob hended
      obtain ⟨job', hjob', hpk, hstatus⟩ := hlegal.1.moves.kept job hjob
      have hsame : job'.status = job.status := hstatus.resolve_right hended.not_moves
      obtain ⟨⟨last, hlast, hlastpk, hlaststatus⟩, hnone⟩ :=
        ih hlegal.2 job' hjob' (by rw [hsame]; exact hended)
      rw [hpk] at hnone hlastpk
      refine ⟨⟨last, hlast, hlastpk, hlaststatus.trans hsame⟩, ?_, hnone⟩
      intro hruns
      have hrunning := hlegal.1.stages job.pk hruns job hjob rfl
      rw [hrunning] at hended
      rcases hended with h | h
      · cases h
      · cases h

theorem jobsLive_of_legal {S : System K Point (Db K) Reply}
    {events : List (Event K Operation Int)}
    (h : (forecastWorkers K).EachEvent LivesOn S events) : JobsLive S events := by
  refine ⟨h, ?_⟩
  rintro pre post rfl job hjob hended
  have hrun : (forecastWorkers K).run S (pre ++ post) =
      (forecastWorkers K).run ((forecastWorkers K).run S pre) post :=
    List.foldl_append
  rw [hrun]
  exact ended_stays (EachEvent.suffix h) job hjob hended

/-- In every interleaving in which no launch failure overtakes a worker, jobs live by the rules. -/
theorem job_life_cycle (now : Int) (events : List (Event K Operation Int))
    (hovertakes : (forecastWorkers K).EachEvent (fun S e => ¬ OvertakesWorker S e)
      (System.start (Db.initial now)) events) :
    JobsLive (System.start (Db.initial now)) events := by
  refine jobsLive_of_legal (eachEvent_of_invariant
    (I := fun S => S.Sound (outline K) ∧ S.Annotated (lifeCycle K)) ?_ ?_ hovertakes)
  · rintro S e ⟨hsound, hannotated⟩ he
    exact ⟨livesOn hsound hannotated e, act_sound forecastWorkers_follows hsound e,
      act_lifeCycle hsound hannotated he⟩
  · exact ⟨sound_start (initial_inv now), annotated_start _⟩

end Locking

/-! ## A job that ran, and one that failed first -/

/-- The midnight run creates a job and starts its first stage. -/
def midnightRun : List (Event Nat Operation Int) :=
  .starts 0 (.runMaintenance none fun _ => .printed "null") :: List.replicate 10 (.steps 0)

theorem job_life_cycle_midnight :
    JobsLive (System.start (Db.initial 0)) midnightRun := by
  refine job_life_cycle 0 midnightRun ?_
  refine ⟨?_, ?_, ?_, ?_, ?_, ?_, ?_, ?_, ?_, ?_, ?_, trivial⟩
  · rintro ⟨q, p, job, he, -⟩
    cases he
  all_goals
    rintro ⟨q, p, job, he, hat, -⟩
    cases he
    cases hat

/-- After the launch failure the worker goes on: the failed job runs. -/
theorem failed_job_runs :
    ¬ ∀ (now : Int) (events : List (Event Nat Operation Int)),
      JobsLive (System.start (Db.initial now)) events := by
  intro h
  have hended := (h 0 ((adoptedJob ++ [.steps 0]) ++ [.steps 1, .steps 1])).ended
    (adoptedJob ++ [.steps 0]) [.steps 1, .steps 1] rfl
    ((ForecastRefreshJob.fresh .manual none 0 1).fail "launch_failed" "worker_launch_failed" 0)
    (List.mem_singleton.2 rfl) (Or.inr rfl)
  obtain ⟨⟨job, hjob, -, hfailed⟩, -⟩ := hended
  cases List.mem_singleton.1 hjob
  cases hfailed

end Refresh
end Forecasting
end RosarioDairy
