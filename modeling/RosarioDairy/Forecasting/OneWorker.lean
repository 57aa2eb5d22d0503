import RosarioDairy.Forecasting.RefreshJobs

/-!
# One forecast worker — what every interleaving of refresh jobs keeps

The outline of the maintenance processes: whoever holds the lock knows the status of every row, up to
launches that fail meanwhile, which turn queued rows into failed ones.  From it: there is at most one
active job and the database refuses no statement; only the holder of the lock runs stages; recovery
leaves no running row.  A launch failure overtakes a worker that has read its job as queued and has
not yet saved it as running, and marks that job failed.
-/

namespace RosarioDairy
namespace Forecasting
namespace Refresh

open Foundations

variable {K : Type}

/-! ## What the holder of the lock knows -/

/-- The lock is held by `k`, and every row has a key and a status as `Φ` says. -/
structure Held (k : K) (Φ : Nat → JobStatus → Prop) (db : Db K) : Prop where
  owner : db.owner = some k
  jobs : ∀ job ∈ db.jobs.rows, Φ job.pk job.status

def Anything (_ : Nat) (_ : JobStatus) : Prop := True

def NotRunning (_ : Nat) (status : JobStatus) : Prop := status ≠ .running

def NotActive (_ : Nat) (status : JobStatus) : Prop := status ≠ .running ∧ status ≠ .queued

/-- Only the row `job` can be active, and it does not run yet. -/
def OnlyQueued (job : Nat) (pk : Nat) (status : JobStatus) : Prop :=
  status ≠ .running ∧ (status = .queued → pk = job)

def Runs (job : Nat) (pk : Nat) (status : JobStatus) : Prop := pk = job → status = .running

/-- A queued row may be withdrawn. -/
def Withdrawable (Φ : Nat → JobStatus → Prop) : Prop := ∀ pk, Φ pk .queued → Φ pk .failed

theorem withdrawable_anything : Withdrawable Anything := fun _ _ => trivial

theorem withdrawable_notRunning : Withdrawable NotRunning := by
  intro pk _ h
  cases h

theorem withdrawable_notActive : Withdrawable NotActive := fun _ h => absurd rfl h.2

theorem withdrawable_onlyQueued (job : Nat) : Withdrawable (OnlyQueued job) := by
  intro pk _
  refine ⟨?_, ?_⟩
  · intro h
    cases h
  · intro h
    cases h

theorem withdrawable_runs (job : Nat) : Withdrawable (Runs job) := by
  intro pk h hpk
  cases h hpk

/-! ## The outline -/

/-- There are no new rows, and no status changes but from queued to failed. -/
def Withdrawn (jobs jobs' : Table ForecastRefreshJob) : Prop :=
  ∀ job' ∈ jobs'.rows, ∃ job ∈ jobs.rows, job.pk = job'.pk
    ∧ (job'.status = job.status ∨ job.status = .queued ∧ job'.status = .failed)

theorem Withdrawn.refl (jobs : Table ForecastRefreshJob) : Withdrawn jobs jobs :=
  fun job hjob => ⟨job, hjob, rfl, Or.inl rfl⟩

theorem Withdrawn.trans {jobs jobs' jobs'' : Table ForecastRefreshJob} (h : Withdrawn jobs jobs')
    (h' : Withdrawn jobs' jobs'') : Withdrawn jobs jobs'' := by
  intro job'' hjob''
  obtain ⟨job', hjob', hpk', hstatus'⟩ := h' job'' hjob''
  obtain ⟨job, hjob, hpk, hstatus⟩ := h job' hjob'
  refine ⟨job, hjob, hpk.trans hpk', ?_⟩
  rcases hstatus' with hsame' | ⟨hqueued', hfailed'⟩
  · rcases hstatus with hsame | ⟨hqueued, hfailed⟩
    · exact Or.inl (hsame'.trans hsame)
    · exact Or.inr ⟨hqueued, hsame'.trans hfailed⟩
  · rcases hstatus with hsame | ⟨hqueued, -⟩
    · exact Or.inr ⟨hsame ▸ hqueued', hfailed'⟩
    · exact Or.inr ⟨hqueued, hfailed'⟩

def AtMostOneActive (jobs : Table ForecastRefreshJob) : Prop :=
  ∀ job ∈ jobs.rows, ∀ job' ∈ jobs.rows, job.active = true → job'.active = true → job = job'

/-- The update of the handler for a launch that has failed. -/
def launchFailed (job : Nat) (now : Int) (jobs : Table ForecastRefreshJob) :
    Table ForecastRefreshJob :=
  jobs.updateWhere (fun row => decide (row.pk = job) && decide (row.status = .queued))
    (fun row => row.fail "launch_failed" "worker_launch_failed" now) (fun _ => rfl)

theorem withdrawn_launchFailed (job : Nat) (now : Int) (jobs : Table ForecastRefreshJob) :
    Withdrawn jobs (launchFailed job now jobs) := by
  intro new hnew
  obtain ⟨row, hrow, rfl⟩ := List.mem_map.1 hnew
  by_cases hp : (decide (row.pk = job) && decide (row.status = .queued)) = true
  · refine ⟨row, hrow, by simp only [hp, if_true]; rfl, Or.inr ?_⟩
    simp only [Bool.and_eq_true, decide_eq_true_eq] at hp
    exact ⟨hp.2, by simp [hp, ForecastRefreshJob.fail]⟩
  · exact ⟨row, hrow, by simp only [hp]; rfl, Or.inl (by simp only [hp]; rfl)⟩

/-- What process `k` knows at each place of its program. -/
def Asserts (k : K) : Point → Db K → Prop
  | .interruptRunning | .expireQueued | .consolidate => Held k Anything
  | .unlock .enqueue | .unlock .lookup => Held k NotRunning
  | .create => Held k NotActive
  | .takes job | .saveRunning job => Held k (OnlyQueued job)
  | .saveStage job _ | .callCommand job _ | .saveResults job _ | .finishes job
  | .saveOutcome job => Held k (Runs job)
  | _ => fun _ => True

/-- Job rows change under the lock, or by the handler for a failed launch. -/
def Does (k : K) (point : Point) (db db' : Db K) : Prop :=
  Asserts k point db ∧
    match point with
    | .launchFailed job => ∃ now, db'.jobs = launchFailed job now db.jobs
    | _ => db.owner = some k ∨ db'.jobs = db.jobs

def outline (K : Type) : Outline K Point (Db K) :=
  { inv := fun db => AtMostOneActive db.jobs ∧ db.refused = 0
    rely := fun k db db' =>
      (db.owner = some k ↔ db'.owner = some k)
        ∧ (db.owner = some k → Withdrawn db.jobs db'.jobs)
    does := Does }

theorem outline_preorder : (outline K).Preorder := by
  refine ⟨?_, ?_⟩
  · intro k db
    exact ⟨Iff.rfl, fun _ => Withdrawn.refl db.jobs⟩
  · intro k db db' db'' h h'
    refine ⟨h.1.trans h'.1, ?_⟩
    intro howner
    exact (h.2 howner).trans (h'.2 (h.1.1 howner))

theorem stable_true (k : K) : (outline K).Stable k (fun _ => True) := fun _ _ _ _ _ => trivial

/-- What the holder knows of the rows survives the withdrawal of queued ones. -/
theorem stable_held {k : K} {Φ : Nat → JobStatus → Prop} (hΦ : Withdrawable Φ) :
    (outline K).Stable k (Held k Φ) := by
  intro db db' h hrely _
  refine ⟨hrely.1.1 h.owner, ?_⟩
  intro job' hjob'
  obtain ⟨job, hjob, hpk, hstatus⟩ := hrely.2 h.owner job' hjob'
  have hold := h.jobs job hjob
  rw [hpk] at hold
  rcases hstatus with hsame | ⟨hqueued, hfailed⟩
  · rw [hsame]
    exact hold
  · rw [hqueued] at hold
    rw [hfailed]
    exact hΦ job'.pk hold

theorem stable_and {k : K} {P : Db K → Prop} (p : Prop) (hP : (outline K).Stable k P) :
    (outline K).Stable k (fun db => p ∧ P db) :=
  fun db db' h hrely hinv => ⟨h.1, hP db db' h.2 hrely hinv⟩

/-- Nobody else relies on what happens under the lock. -/
theorem rely_of_owner {k j : K} (hj : j ≠ k) {db db' : Db K} (h : db.owner = some k)
    (h' : db'.owner = some k ∨ db'.owner = none) : (outline K).rely j db db' := by
  have hkj : ¬ k = j := fun h => hj h.symm
  have hold : ¬ db.owner = some j := by simp [h, hkj]
  have hnew : ¬ db'.owner = some j := by
    rcases h' with h' | h'
    · simp [h', hkj]
    · simp [h']
  exact ⟨iff_of_false hold hnew, fun howner => absurd howner hold⟩

theorem does_of {k : K} {point : Point} (hpoint : ∀ job, point ≠ .launchFailed job)
    {db db' : Db K} (hasserts : Asserts k point db)
    (h : db.owner = some k ∨ db'.jobs = db.jobs) : Does k point db db' := by
  refine ⟨hasserts, ?_⟩
  cases point with
  | launchFailed job => exact absurd rfl (hpoint job)
  | _ => exact h

/-! ## Statements -/

/-- A statement that reads. -/
theorem triple_read {α : Type} {k : K} {point : Point} {P : Db K → Prop} {Q : α → Db K → Prop}
    {g : Db K → α} (hpoint : ∀ job, point ≠ .launchFailed job) (hP : (outline K).Stable k P)
    (hQ : ∀ a, (outline K).Stable k (Q a)) (hasserts : ∀ db, P db → Asserts k point db)
    (h : ∀ db, AtMostOneActive db.jobs → P db → Q (g db) db) :
    (outline K).Triple k P (.statement point fun db => (g db, db)) Q := by
  apply Outline.triple_statement hP hQ
  intro db hinv hPdb
  exact ⟨does_of hpoint (hasserts db hPdb) (Or.inr rfl), hinv,
    fun j _ => outline_preorder.refl j db, h db hinv.1 hPdb⟩

theorem triple_timezoneNow {k : K} {point : Point} {P : Db K → Prop}
    (hpoint : ∀ job, point ≠ .launchFailed job) (hP : (outline K).Stable k P)
    (hasserts : ∀ db, P db → Asserts k point db) :
    (outline K).Triple k P (timezoneNow point) (fun _ => P) :=
  triple_read hpoint hP (fun _ => hP) hasserts (fun _ _ h => h)

theorem AtMostOneActive.updateWhere {jobs : Table ForecastRefreshJob} (h : AtMostOneActive jobs)
    {p : ForecastRefreshJob → Bool} {f : ForecastRefreshJob → ForecastRefreshJob}
    (hpk : ∀ job, Row.pk (f job) = Row.pk job)
    (hf : ∀ job ∈ jobs.rows, p job = true → (f job).active = true → job.active = true) :
    AtMostOneActive (jobs.updateWhere p f hpk) := by
  have hactive : ∀ job ∈ jobs.rows, (if p job then f job else job).active = true →
      job.active = true := by
    intro job hjob hact
    by_cases hp : p job
    · exact hf job hjob hp (by simpa [hp] using hact)
    · simpa [hp] using hact
  intro new hnew new' hnew' hact hact'
  obtain ⟨job, hjob, rfl⟩ := List.mem_map.1 hnew
  obtain ⟨job', hjob', rfl⟩ := List.mem_map.1 hnew'
  rw [h job hjob job' hjob' (hactive job hjob hact) (hactive job' hjob' hact')]

/-- An update under the lock that makes no row active. -/
theorem triple_update {k : K} {point : Point} {p : ForecastRefreshJob → Bool}
    {f : ForecastRefreshJob → ForecastRefreshJob} {hpk : ∀ job, (f job).pk = job.pk}
    {Φ Ψ : Nat → JobStatus → Prop} (hpoint : ∀ job, point ≠ .launchFailed job)
    (hΦ : Withdrawable Φ) (hΨ : Withdrawable Ψ) (hasserts : ∀ db, Held k Φ db → Asserts k point db)
    (hf : ∀ job, Φ job.pk job.status → p job = true → (f job).active = true → job.active = true)
    (hnext : ∀ job, Φ job.pk job.status → Ψ job.pk (if p job then f job else job).status) :
    (outline K).Triple k (Held k Φ) (update point p f hpk) (fun _ => Held k Ψ) := by
  apply Outline.triple_statement (stable_held hΦ) (fun _ => stable_held hΨ)
  intro db hinv h
  refine ⟨does_of hpoint (hasserts db h) (Or.inl h.owner), ⟨?_, hinv.2⟩,
    fun j hj => rely_of_owner hj h.owner (Or.inl h.owner), ⟨h.owner, ?_⟩⟩
  · exact hinv.1.updateWhere hpk (fun job hjob => hf job (h.jobs job hjob))
  · intro job' hjob'
    obtain ⟨job, hjob, rfl⟩ := List.mem_map.1 hjob'
    have hkey : (if p job then f job else job).pk = job.pk := by
      by_cases hp : p job
      · simp [hp, hpk]
      · simp [hp]
    rw [hkey]
    exact hnext job (h.jobs job hjob)

/-- Reading the newest row that satisfies `p` under the lock. -/
theorem triple_first {k : K} {Φ : Nat → JobStatus → Prop} (p : ForecastRefreshJob → Bool)
    {Q : Option ForecastRefreshJob → Db K → Prop} (hΦ : Withdrawable Φ)
    (hQ : ∀ job, (outline K).Stable k (Q job))
    (hsome : ∀ db job, AtMostOneActive db.jobs → Held k Φ db → job ∈ db.jobs.rows →
      p job = true → Q (some job) db)
    (hnone : ∀ db, Held k Φ db → (∀ job ∈ db.jobs.rows, p job = false) → Q none db) :
    (outline K).Triple k (Held k Φ) (first p) Q := by
  refine triple_read (by simp) (stable_held hΦ) hQ ?_ ?_
  · intro db _
    exact trivial
  intro db hone h
  cases hfirst : db.jobs.newest p with
  | some job =>
      obtain ⟨hjob, hp⟩ := Table.newest_eq_some hfirst
      exact hsome db job hone h hjob hp
  | none => exact hnone db h (Table.newest_eq_none.1 hfirst)

theorem triple_firstUnheld (k : K) (p : ForecastRefreshJob → Bool) :
    (outline K).Triple k (fun _ => True) (first p) (fun _ _ => True) :=
  triple_read (by simp) (stable_true k) (fun _ => stable_true k) (fun _ _ => trivial)
    (fun _ _ _ => trivial)

theorem triple_get (k : K) (pk : Nat) :
    (outline K).Triple k (fun _ => True) (get pk) (fun _ _ => True) :=
  triple_read (by simp) (stable_true k) (fun _ => stable_true k) (fun _ _ => trivial)
    (fun _ _ _ => trivial)

theorem conflicts_eq_false {jobs : Table ForecastRefreshJob} {scope : String} {pk : Nat}
    (h : ∀ job ∈ jobs.rows, job.active = true → job.pk = pk) :
    conflicts jobs scope pk = false := by
  refine List.any_eq_false.2 ?_
  intro job hjob
  by_cases hactive : job.active
  · simp [h job hjob hactive]
  · simp [hactive]

/-- Without an active row, a new job is the only one. -/
theorem triple_create {k : K} (trigger : Trigger) (user : Option Nat)
    {Q : Option ForecastRefreshJob → Db K → Prop} (hQ : ∀ job, (outline K).Stable k (Q job))
    (h : ∀ db, Held k NotActive db →
      Q (some (.fresh trigger user db.now db.jobs.next))
        { db with jobs := db.jobs.create (.fresh trigger user db.now) }) :
    (outline K).Triple k (Held k NotActive) (create trigger user) Q := by
  apply Outline.triple_statement (stable_held withdrawable_notActive) hQ
  intro db hinv hheld
  have hinactive : ∀ job ∈ db.jobs.rows, ¬ job.active = true := by
    intro job hjob hactive
    have hstatus := hheld.jobs job hjob
    simp [ForecastRefreshJob.active, hstatus.1, hstatus.2] at hactive
  have hfree : conflicts db.jobs "all" db.jobs.next = false :=
    conflicts_eq_false (fun job hjob hactive => absurd hactive (hinactive job hjob))
  simp only [hfree, Bool.false_eq_true, if_false]
  refine ⟨does_of (by simp) hheld (Or.inl hheld.owner), ⟨?_, hinv.2⟩,
    fun j hj => rely_of_owner hj hheld.owner (Or.inl hheld.owner), h db hheld⟩
  intro job hjob job' hjob' hactive hactive'
  have hnew : ∀ row ∈ (db.jobs.create (.fresh trigger user db.now)).rows, row.active = true →
      row = .fresh trigger user db.now db.jobs.next := by
    intro row hrow hact
    rcases List.mem_append.1 hrow with hold | hlast
    · exact absurd hact (hinactive row hold)
    · exact List.mem_singleton.1 hlast
  rw [hnew job hjob hactive, hnew job' hjob' hactive']

theorem notActive_of_first {k : K} {db : Db K} (h : Held k NotRunning db)
    (hnone : ∀ job ∈ db.jobs.rows, job.status ≠ .queued) : Held k NotActive db :=
  ⟨h.owner, fun job hjob => ⟨h.jobs job hjob, hnone job hjob⟩⟩

/-- The saves of a stage leave the status alone. -/
theorem triple_saveField {k : K} {job : Nat} {point : Point}
    {f : ForecastRefreshJob → ForecastRefreshJob} {hpk : ∀ row, (f row).pk = row.pk}
    (hpoint : ∀ job, point ≠ .launchFailed job)
    (hasserts : ∀ db, Held k (Runs job) db → Asserts k point db)
    (hf : ∀ row, (f row).status = row.status) :
    (outline K).Triple k (Held k (Runs job))
      (update point (fun row => decide (row.pk = job)) f hpk) (fun _ => Held k (Runs job)) := by
  refine triple_update hpoint (withdrawable_runs job) (withdrawable_runs job) hasserts ?_ ?_
  · intro row _ _ hactive
    simpa [ForecastRefreshJob.active, hf] using hactive
  · intro row hrow
    split
    · rw [hf]
      exact hrow
    · exact hrow

/-- What the worker knows of the job it has read. -/
def Picked (k : K) : Except Failure ForecastRefreshJob → Db K → Prop
  | .ok job => fun db =>
      Held k NotRunning db ∧ (job.status = .queued → Held k (OnlyQueued job.pk) db)
  | .error _ => Held k Anything

theorem stable_picked (k : K) (picked : Except Failure ForecastRefreshJob) :
    (outline K).Stable k (Picked k picked) := by
  cases picked with
  | error e => exact stable_held withdrawable_anything
  | ok job =>
      intro db db' h hrely hinv
      refine ⟨stable_held withdrawable_notRunning db db' h.1 hrely hinv, ?_⟩
      intro hqueued
      exact stable_held (withdrawable_onlyQueued job.pk) db db' (h.2 hqueued) hrely hinv

theorem picked_of_mem {k : K} {db : Db K} (hone : AtMostOneActive db.jobs)
    (h : Held k NotRunning db) {job : ForecastRefreshJob} (hjob : job ∈ db.jobs.rows) :
    Picked k (.ok job) db := by
  refine ⟨h, ?_⟩
  intro hqueued
  refine ⟨h.owner, ?_⟩
  intro row hrow
  refine ⟨h.jobs row hrow, ?_⟩
  intro hrowQueued
  rw [hone row hrow job hjob (by simp [ForecastRefreshJob.active, hrowQueued])
    (by simp [ForecastRefreshJob.active, hqueued])]

theorem picked_created {k : K} {db : Db K} (trigger : Trigger) (user : Option Nat)
    (h : Held k NotActive db) :
    Picked k (.ok (.fresh trigger user db.now db.jobs.next))
      { db with jobs := db.jobs.create (.fresh trigger user db.now) } := by
  have honly : Held k (OnlyQueued db.jobs.next)
      { db with jobs := db.jobs.create (.fresh trigger user db.now) } := by
    refine ⟨h.owner, ?_⟩
    intro job hjob
    rcases List.mem_append.1 hjob with hold | hlast
    · have hstatus := h.jobs job hold
      exact ⟨hstatus.1, fun hqueued => absurd hqueued hstatus.2⟩
    · rw [List.mem_singleton.1 hlast]
      exact ⟨by simp [ForecastRefreshJob.fresh], fun _ => rfl⟩
  exact ⟨⟨honly.owner, fun job hjob => (honly.jobs job hjob).1⟩, fun _ => honly⟩

/-! ## Operations -/

theorem triple_recoverAbandoned (k : K) :
    (outline K).Triple k (Held k Anything) recoverAbandoned (fun _ => Held k NotRunning) := by
  apply Outline.triple_bind outline_preorder (fun _ => Held k Anything)
  · exact triple_timezoneNow (by simp) (stable_held withdrawable_anything) (fun _ _ => trivial)
  · intro now
    apply Outline.triple_bind outline_preorder (fun _ => Held k NotRunning)
    · refine triple_update (by simp) withdrawable_anything withdrawable_notRunning ?_ ?_ ?_
      · intro db h
        exact h
      · intro job _ _ hactive
        simp [ForecastRefreshJob.active, ForecastRefreshJob.fail] at hactive
      · intro job _
        by_cases hrunning : job.status = .running
        · simp [hrunning, NotRunning, ForecastRefreshJob.fail]
        · simp [hrunning, NotRunning]
    · intro _
      refine triple_update (by simp) withdrawable_notRunning withdrawable_notRunning ?_ ?_ ?_
      · intro db h
        exact ⟨h.owner, fun _ _ => trivial⟩
      · intro job _ _ hactive
        simp [ForecastRefreshJob.active, ForecastRefreshJob.fail] at hactive
      · intro job hjob
        split
        · simp [NotRunning, ForecastRefreshJob.fail]
        · exact hjob

/-- After looking for a job: it has been picked, or there is none and `missing` holds. -/
def PickedOr (k : K) (missing : Db K → Prop) (found : Option ForecastRefreshJob) :
    Db K → Prop :=
  match found with
  | some job => Picked k (.ok job)
  | none => missing

theorem triple_pickJob (k : K) (jobId : Option Nat) :
    (outline K).Triple k (Held k NotRunning) (pickJob jobId) (Picked k) := by
  cases jobId with
  | none =>
      apply Outline.triple_bind outline_preorder
        (PickedOr k (Held k NotActive))
      · apply triple_first _ withdrawable_notRunning
        · intro found
          cases found with
          | none => exact stable_held withdrawable_notActive
          | some job => exact stable_picked k (.ok job)
        · -- the queued job found is the one active row
          intro db job hone h hjob _
          exact picked_of_mem hone h hjob
        · -- no queued job and none running: nothing is active
          intro db h hnone
          refine notActive_of_first h ?_
          intro job hjob hqueued
          exact absurd hqueued (of_decide_eq_false (hnone job hjob))
      · intro found
        cases found with
        | some job => exact Outline.triple_returns (stable_picked k (.ok job)) (fun _ _ h => h)
        | none =>
            -- then one is created, unless another row conflicts
            apply Outline.triple_bind outline_preorder
              (PickedOr k (Held k Anything))
            · apply triple_create
              · intro created
                cases created with
                | none => exact stable_held withdrawable_anything
                | some job => exact stable_picked k (.ok job)
              · intro db h
                exact picked_created .scheduled none h
            · intro created
              cases created with
              | some job =>
                  exact Outline.triple_returns (stable_picked k (.ok job)) (fun _ _ h => h)
              | none =>
                  exact Outline.triple_returns (stable_held withdrawable_anything)
                    (fun _ _ h => h)
  | some pk =>
      apply Outline.triple_bind outline_preorder
        (PickedOr k (Held k Anything))
      · refine triple_read (by simp) (stable_held withdrawable_notRunning) ?_ ?_ ?_
        · intro found
          cases found with
          | none => exact stable_held withdrawable_anything
          | some job => exact stable_picked k (.ok job)
        · intro db _
          exact trivial
        · -- the job asked for is read under the lock
          intro db hone h
          cases hfind : db.jobs.find pk with
          | some job => exact picked_of_mem hone h (Table.find_eq_some.1 hfind).1
          | none => exact ⟨h.owner, fun _ _ => trivial⟩
      · intro found
        cases found with
        | some job => exact Outline.triple_returns (stable_picked k (.ok job)) (fun _ _ h => h)
        | none =>
            exact Outline.triple_returns (stable_held withdrawable_anything) (fun _ _ h => h)

@[simp] theorem setResult_pk (job : ForecastRefreshJob) (stage : Stage) (output : String) :
    (job.setResult stage output).pk = job.pk := by
  unfold ForecastRefreshJob.setResult
  split
  · rfl
  · rfl

theorem triple_runStages (k : K) (callCommand : Stage → Called) (rest : List Stage) :
    ∀ job : ForecastRefreshJob, (outline K).Triple k (Held k (Runs job.pk))
      (runStages callCommand job rest)
      (fun answer db => answer.1.pk = job.pk ∧ Held k (Runs job.pk) db) := by
  induction rest with
  | nil =>
      intro job
      exact Outline.triple_returns (stable_held (withdrawable_runs job.pk)) (fun _ _ h => ⟨rfl, h⟩)
  | cons stage rest ih =>
      -- each stage saves its name, calls its command and saves what it printed
      intro job
      apply Outline.triple_bind outline_preorder (fun _ => Held k (Runs job.pk))
      · exact triple_saveField (by simp) (fun _ h => h) (fun _ => rfl)
      · intro _
        apply Outline.triple_bind outline_preorder (fun _ => Held k (Runs job.pk))
        · exact triple_read (by simp) (stable_held (withdrawable_runs job.pk))
            (fun _ => stable_held (withdrawable_runs job.pk)) (fun _ h => h) (fun _ _ h => h)
        · intro called
          cases called with
          | printed output =>
              -- after a stage that printed, the other stages run on the changed copy
              apply Outline.triple_bind outline_preorder (fun _ => Held k (Runs job.pk))
              · simp only [setResult_pk]
                exact triple_saveField (by simp) (fun _ h => h) (fun _ => rfl)
              · intro _
                have hrest := ih (({ job with stage := stage.name } :
                  ForecastRefreshJob).setResult stage output)
                simp only [setResult_pk] at hrest
                exact hrest
          | raised valueError =>
              exact Outline.triple_returns (stable_held (withdrawable_runs job.pk))
                (fun _ _ h => ⟨rfl, h⟩)
          | interrupted =>
              exact Outline.triple_returns (stable_held (withdrawable_runs job.pk))
                (fun _ _ h => ⟨rfl, h⟩)

/-- No other row is active when the worker saves its job as running. -/
theorem triple_saveRunning (k : K) (job : ForecastRefreshJob) (hrunning : job.status = .running) :
    (outline K).Triple k (Held k (OnlyQueued job.pk)) (saveRunning job)
      (fun saved db => saved = true ∧ Held k (Runs job.pk) db) := by
  apply Outline.triple_statement (stable_held (withdrawable_onlyQueued job.pk))
    (fun saved => stable_and _ (stable_held (withdrawable_runs job.pk)))
  intro db hinv h
  -- under the lock only this job's row can be active, and its save is allowed
  have hpk : ∀ row ∈ db.jobs.rows, row.active = true → row.pk = job.pk := by
    intro row hrow hactive
    have hstatus := h.jobs row hrow
    simp only [ForecastRefreshJob.active, hstatus.1, decide_false, Bool.or_false,
      decide_eq_true_eq] at hactive
    exact hstatus.2 hactive
  simp only [conflicts_eq_false hpk, Bool.false_eq_true, if_false]
  refine ⟨does_of (by simp) h (Or.inl h.owner), ⟨?_, hinv.2⟩,
    fun j hj => rely_of_owner hj h.owner (Or.inl h.owner), trivial, h.owner, ?_⟩
  · -- two active rows after the save were active before, so they are one row
    intro new hnew new' hnew' hactive hactive'
    obtain ⟨row, hrow, rfl⟩ := List.mem_map.1 hnew
    obtain ⟨row', hrow', rfl⟩ := List.mem_map.1 hnew'
    -- a row active after the save is this job's row
    have hkey : ∀ r ∈ db.jobs.rows, (if decide (r.pk = job.pk) = true then
        { r with status := job.status, startedAt := job.startedAt } else r).active = true →
        r.pk = job.pk := by
      intro r hr hact
      by_cases hrpk : r.pk = job.pk
      · exact hrpk
      · exact hpk r hr (by simpa [hrpk] using hact)
    have hsame := db.jobs.eq_of_pk_eq hrow hrow'
      ((hkey row hrow hactive).trans (hkey row' hrow' hactive').symm)
    rw [hsame]
  · intro new hnew
    obtain ⟨row, hrow, rfl⟩ := List.mem_map.1 hnew
    intro hrowpk
    by_cases hrpk : row.pk = job.pk
    · simpa [hrpk] using hrunning
    · simp [hrpk] at hrowpk

theorem triple_work (k : K) (callCommand : Stage → Called) (job : ForecastRefreshJob) :
    (outline K).Triple k (Held k (OnlyQueued job.pk)) (work callCommand job)
      (fun _ => Held k Anything) := by
  apply Outline.triple_bind outline_preorder (fun _ => Held k (OnlyQueued job.pk))
  · exact triple_timezoneNow (by simp) (stable_held (withdrawable_onlyQueued job.pk))
      (fun _ h => h)
  · intro now
    apply Outline.triple_bind outline_preorder
      (fun saved db => saved = true ∧ Held k (Runs job.pk) db)
    · exact triple_saveRunning k { job with status := .running, startedAt := some now } rfl
    · intro saved
      cases saved with
      | false =>
          -- an integrity error is impossible here: the row that conflicts would be this one
          intro db _ h
          cases h.1
      | true =>
          -- the copy answered by the stages is still this job's
          apply Outline.triple_bind outline_preorder
            (fun answer db => answer.1.pk = job.pk ∧ Held k (Runs job.pk) db)
          · exact Outline.triple_weaken (fun _ _ h => h.2) (fun _ _ h => h)
              (triple_runStages k callCommand stages
                { job with status := .running, startedAt := some now })
          · intro answer
            obtain ⟨last, interrupted⟩ := answer
            intro db hinv h
            obtain ⟨hlast, hheld⟩ := h
            simp only at hlast
            refine (?_ : (outline K).Triple k (Held k (Runs last.pk)) _ _) db hinv
              (hlast ▸ hheld)
            -- the last save frees the job: it is no longer running
            apply Outline.triple_bind outline_preorder (fun _ => Held k (Runs last.pk))
            · exact triple_timezoneNow (by simp) (stable_held (withdrawable_runs last.pk))
                (fun _ h => h)
            · intro finishedAt
              apply Outline.triple_bind outline_preorder (fun _ => Held k Anything)
              · refine triple_update (by simp) (withdrawable_runs last.pk) withdrawable_anything
                  ?_ ?_ ?_
                · intro db h
                  exact h
                · intro row hrow hp _
                  simp [ForecastRefreshJob.active, hrow (of_decide_eq_true hp)]
                · intro row _
                  exact trivial
              · intro _
                cases interrupted with
                | true =>
                    exact Outline.triple_returns (stable_held withdrawable_anything)
                      (fun _ _ h => h)
                | false =>
                    exact Outline.triple_returns (stable_held withdrawable_anything)
                      (fun _ _ h => h)

/-- The handler for a failed launch withdraws a queued row, whoever holds the lock. -/
theorem triple_launchAfterCommit (k : K) (started : Bool) (job : ForecastRefreshJob) :
    (outline K).Triple k (fun _ => True) (launchAfterCommit started job) (fun _ _ => True) := by
  apply Outline.triple_bind outline_preorder (fun _ _ => True)
  · exact triple_read (by simp) (stable_true k) (fun _ => stable_true k) (fun _ _ => trivial)
      (fun _ _ _ => trivial)
  · intro launched
    cases launched with
    | true => exact Outline.triple_returns (stable_true k) (fun _ _ _ => trivial)
    | false =>
        apply Outline.triple_bind outline_preorder (fun _ _ => True)
        · exact triple_timezoneNow (by simp) (stable_true k) (fun _ _ => trivial)
        · intro now
          apply Outline.triple_statement (stable_true k) (fun _ => stable_true k)
          intro db hinv _
          refine ⟨⟨trivial, now, rfl⟩, ⟨?_, hinv.2⟩, ?_, trivial⟩
          · refine hinv.1.updateWhere
              (f := fun row => row.fail "launch_failed" "worker_launch_failed" now) (fun _ => rfl) ?_
            intro row _ _ hactive
            simp [ForecastRefreshJob.active, ForecastRefreshJob.fail] at hactive
          · intro j _
            refine ⟨Iff.rfl, fun _ => withdrawn_launchFailed job.pk now db.jobs⟩

theorem initial_inv (now : Int) : (outline K).inv (Db.initial now) := by
  refine ⟨?_, rfl⟩
  intro job hjob
  cases hjob

/-- What a function leaves behind when it gives the lock back. -/
def Leaves : Caller → Nat → JobStatus → Prop
  | .enqueue | .lookup => NotRunning
  | .runMaintenance | .consolidateCustomers => Anything

theorem withdrawable_leaves (caller : Caller) : Withdrawable (Leaves caller) := by
  cases caller with
  | enqueue => exact withdrawable_notRunning
  | lookup => exact withdrawable_notRunning
  | runMaintenance => exact withdrawable_anything
  | consolidateCustomers => exact withdrawable_anything

theorem asserts_unlock {k : K} {caller : Caller} {db : Db K} (h : Held k (Leaves caller) db) :
    Asserts k (.unlock caller) db := by
  cases caller with
  | enqueue => exact h
  | lookup => exact h
  | runMaintenance => trivial
  | consolidateCustomers => trivial

theorem triple_tryLock (k : K) :
    (outline K).Triple k (fun _ => True) (tryLock k)
      (fun acquired db => acquired = true → Held k Anything db) := by
  apply Outline.triple_statement (stable_true k)
  · intro acquired db db' h hrely hinv hacquired
    exact stable_held withdrawable_anything db db' (h hacquired) hrely hinv
  · intro db hinv _
    cases howner : db.owner with
    | none =>
        simp only
        refine ⟨⟨trivial, Or.inr rfl⟩, hinv, ?_, fun _ => ⟨rfl, fun _ _ => trivial⟩⟩
        intro j hj
        have hkj : ¬ k = j := fun h => hj h.symm
        exact ⟨by simp [howner, hkj], by simp [howner]⟩
    | some j =>
        simp only
        refine ⟨⟨trivial, Or.inr rfl⟩, hinv, fun j _ => outline_preorder.refl j db, ?_⟩
        intro h
        cases h

section Locking

variable [DecidableEq K]

theorem triple_unlock (k : K) (caller : Caller) :
    (outline K).Triple k (Held k (Leaves caller)) (unlock k caller) (fun _ _ => True) := by
  apply Outline.triple_statement (stable_held (withdrawable_leaves caller))
    (fun _ => stable_true k)
  intro db hinv h
  simp only [h.owner, if_true]
  exact ⟨does_of (by simp) (asserts_unlock h) (Or.inl h.owner), hinv,
    fun j hj => rely_of_owner hj h.owner (Or.inr rfl), trivial⟩

/-- The lock around a body: the body runs under it, or knows nothing. -/
theorem triple_maintenanceLock {α : Type} {k : K} {caller : Caller} {body : Bool → Session K α}
    (hheld : (outline K).Triple k (Held k Anything) (body true) (fun _ => Held k (Leaves caller)))
    (hbusy : (outline K).Triple k (fun _ => True) (body false) (fun _ _ => True)) :
    (outline K).Triple k (fun _ => True) (maintenanceLock k caller body) (fun _ _ => True) := by
  apply Outline.triple_bind outline_preorder _ (triple_tryLock k)
  intro acquired
  cases acquired with
  | true =>
      apply Outline.triple_bind outline_preorder (fun _ => Held k (Leaves caller))
      · exact Outline.triple_weaken (fun db _ h => h rfl) (fun _ _ h => h) hheld
      · intro answer
        apply Outline.triple_bind outline_preorder _ (triple_unlock k caller)
        intro _
        exact Outline.triple_returns (stable_true k) (fun _ _ _ => trivial)
  | false =>
      apply Outline.triple_bind outline_preorder (fun _ _ => True)
      · exact Outline.triple_weaken (fun _ _ _ => trivial) (fun _ _ h => h) hbusy
      · intro answer
        exact Outline.triple_returns (stable_true k) (fun _ _ _ => trivial)

theorem triple_enqueue (k : K) (user : Option Nat) :
    (outline K).Triple k (fun _ => True) (enqueue k user) (fun _ _ => True) := by
  apply triple_maintenanceLock
  · apply Outline.triple_bind outline_preorder _ (triple_recoverAbandoned k)
    intro _
    apply Outline.triple_bind outline_preorder
      (fun active => Held k (if active = none then NotActive else NotRunning))
    · apply triple_first _ withdrawable_notRunning
      · intro active
        cases active with
        | none => exact stable_held withdrawable_notActive
        | some job => exact stable_held withdrawable_notRunning
      · -- a job that is queued already is answered as it is
        intro db job _ h _ _
        exact h
      · intro db h hnone
        -- no active job: a new one can be queued
        refine notActive_of_first h ?_
        intro job hjob hqueued
        have hinactive := hnone job hjob
        simp [ForecastRefreshJob.active, hqueued] at hinactive
    · intro active
      cases active with
      | some job =>
          exact Outline.triple_returns (stable_held withdrawable_notRunning) (fun _ _ h => h)
      | none =>
          apply Outline.triple_bind outline_preorder (fun _ => Held k NotRunning)
          · apply triple_create _ _ (fun _ => stable_held withdrawable_notRunning)
            intro db h
            refine ⟨h.owner, ?_⟩
            intro job hjob
            rcases List.mem_append.1 hjob with hold | hlast
            · exact (h.jobs job hold).1
            · rw [List.mem_singleton.1 hlast]
              simp [NotRunning, ForecastRefreshJob.fresh]
          · intro created
            cases created with
            | some job =>
                exact Outline.triple_returns (stable_held withdrawable_notRunning) (fun _ _ h => h)
            | none =>
                exact Outline.triple_returns (stable_held withdrawable_notRunning) (fun _ _ h => h)
  · -- the lock is taken by another: the call answers what it sees, and changes nothing
    apply Outline.triple_bind outline_preorder _ (triple_firstUnheld k _)
    intro active
    cases active with
    | some job => exact Outline.triple_returns (stable_true k) (fun _ _ _ => trivial)
    | none => exact Outline.triple_returns (stable_true k) (fun _ _ _ => trivial)

theorem triple_runMaintenance (k : K) (jobId : Option Nat) (callCommand : Stage → Called) :
    (outline K).Triple k (fun _ => True) (runMaintenance k jobId callCommand)
      (fun _ _ => True) := by
  apply triple_maintenanceLock
  · apply Outline.triple_bind outline_preorder _ (triple_recoverAbandoned k)
    intro _
    apply Outline.triple_bind outline_preorder _ (triple_pickJob k jobId)
    intro picked
    cases picked with
    | error e => exact Outline.triple_returns (stable_held withdrawable_anything) (fun _ _ h => h)
    | ok job =>
        by_cases hqueued : job.status = .queued
        · simp only [hqueued, if_true]
          exact Outline.triple_weaken (fun _ _ h => h.2 hqueued) (fun _ _ h => h)
            (triple_work k callCommand job)
        · simp only [hqueued, if_false]
          exact Outline.triple_returns (stable_picked k (.ok job))
            (fun _ _ h => ⟨h.1.owner, fun _ _ => trivial⟩)
  · apply Outline.triple_bind outline_preorder _ (triple_firstUnheld k _)
    intro active
    exact Outline.triple_returns (stable_true k) (fun _ _ _ => trivial)

theorem triple_lookup (k : K) (jobId : Option Nat) :
    (outline K).Triple k (fun _ => True) (lookup k jobId) (fun _ _ => True) := by
  apply Outline.triple_bind outline_preorder (fun _ _ => True)
  · apply triple_maintenanceLock
    · exact triple_recoverAbandoned k
    · exact Outline.triple_returns (stable_true k) (fun _ _ _ => trivial)
  · intro _
    cases jobId with
    | some pk => exact triple_get k pk
    | none => exact triple_firstUnheld k _

theorem triple_consolidateCustomers (k : K) :
    (outline K).Triple k (fun _ => True) (consolidateCustomers k) (fun _ _ => True) := by
  apply triple_maintenanceLock
  · exact triple_read (by simp) (stable_held withdrawable_anything)
      (fun _ => stable_held withdrawable_anything) (fun _ h => h) (fun _ _ h => h)
  · exact Outline.triple_returns (stable_true k) (fun _ _ _ => trivial)

theorem triple_post (k : K) (user : Option Nat) (started : Bool) :
    (outline K).Triple k (fun _ => True) (post k user started) (fun _ _ => True) := by
  apply Outline.triple_bind outline_preorder _ (triple_enqueue k user)
  intro answer
  have hreturns : ∀ reply, (outline K).Triple k (fun _ => True) (.returns reply)
      (fun (_ : Reply) _ => True) :=
    fun reply => Outline.triple_returns (stable_true k) (fun _ _ _ => trivial)
  cases answer with
  | error e => exact hreturns _
  | ok answer =>
      obtain ⟨active, created⟩ := answer
      cases active with
      | none => exact hreturns _
      | some job =>
          cases created with
          | false => exact hreturns _
          | true =>
              apply Outline.triple_bind outline_preorder _ (triple_launchAfterCommit k started job)
              intro _
              apply Outline.triple_bind outline_preorder _ (triple_get k job.pk)
              intro found
              exact hreturns _

theorem triple_program (k : K) (op : Operation) :
    (outline K).Triple k (fun _ => True) (op.program k) (fun _ _ => True) := by
  cases op with
  | post user started => exact triple_post k user started
  | lookup jobId =>
      apply Outline.triple_bind outline_preorder _ (triple_lookup k jobId)
      intro job
      exact Outline.triple_returns (stable_true k) (fun _ _ _ => trivial)
  | runMaintenance jobId callCommand =>
      apply Outline.triple_bind outline_preorder _ (triple_runMaintenance k jobId callCommand)
      intro result
      cases result with
      | ok result => exact Outline.triple_returns (stable_true k) (fun _ _ _ => trivial)
      | error e => exact Outline.triple_returns (stable_true k) (fun _ _ _ => trivial)
  | consolidateCustomers =>
      apply Outline.triple_bind outline_preorder _ (triple_consolidateCustomers k)
      intro _
      exact Outline.triple_returns (stable_true k) (fun _ _ _ => trivial)

theorem forecastWorkers_follows : (forecastWorkers K).Follows (outline K) := by
  refine ⟨outline_preorder, ?_, ?_, ?_⟩
  · intro k op db hinv
    exact triple_program k op db hinv trivial
  · intro k db hinv
    by_cases howner : db.owner = some k
    · simp only [forecastWorkers, howner, if_true]
      exact ⟨hinv, fun j hj => rely_of_owner hj howner (Or.inr rfl)⟩
    · simp only [forecastWorkers, howner, if_false]
      exact ⟨hinv, fun j _ => outline_preorder.refl j db⟩
  · intro now db hinv
    exact ⟨hinv, fun j => outline_preorder.refl j db⟩

theorem run_initial_sound (now : Int) (events : List (Event K Operation Int)) :
    ((forecastWorkers K).run (System.start (Db.initial now)) events).Sound (outline K) :=
  run_sound forecastWorkers_follows (sound_start (initial_inv now)) events

/-! ## Recovery -/

/-- The job table after recovery at the instant `now`. -/
def recovered (now : Int) (jobs : Table ForecastRefreshJob) : Table ForecastRefreshJob :=
  (jobs.updateWhere (fun job => decide (job.status = .running))
    (fun job => job.fail "interrupted" "worker_interrupted" now) (fun _ => rfl)).updateWhere
    (fun job => decide (job.status = .queued) && decide (job.createdAt < now - startGrace))
    (fun job => job.fail "interrupted" "worker_not_started" now) (fun _ => rfl)

/-- Recovery only fails rows: none is running afterwards, and those still queued were there. -/
theorem mem_recovered {now : Int} {jobs : Table ForecastRefreshJob} {row : ForecastRefreshJob}
    (h : row ∈ (recovered now jobs).rows) :
    row.status ≠ .running ∧ (row.status = .queued → row ∈ jobs.rows) := by
  obtain ⟨mid, hmid, rfl⟩ := List.mem_map.1 h
  obtain ⟨old, hold, rfl⟩ := List.mem_map.1 hmid
  by_cases hrunning : old.status = .running
  · simp [hrunning, ForecastRefreshJob.fail]
  · simp only [hrunning, decide_false, Bool.false_eq_true, if_false]
    split
    · simp [ForecastRefreshJob.fail]
    · exact ⟨hrunning, fun _ => hold⟩

/-- A refresh requested now, while nothing else happens, finds or creates a queued job and leaves no
running one; where a worker has been interrupted the job is a new one. -/
def Requeues (db : Db K) : Prop :=
  ∀ (me : K) (user : Option Nat), ∃ job created db',
    (enqueue me user).runAlone db = (.ok (some job, created), db')
      ∧ job ∈ db'.jobs.rows ∧ job.status = .queued
      ∧ (∀ row ∈ db'.jobs.rows, row.status ≠ .running) ∧ db'.owner = none
      ∧ ((∃ row ∈ db.jobs.rows, row.status = .running) → created = true)

theorem requeues {db : Db K} (hone : AtMostOneActive db.jobs) (howner : db.owner = none) :
    Requeues db := by
  intro me user
  -- recovery ends every running job, so what is active is queued
  have hrun : ∀ row ∈ (recovered db.now db.jobs).rows, row.status ≠ .running :=
    fun row hrow => (mem_recovered hrow).1
  have hlock : (tryLock me).runAlone db = (true, { db with owner := some me }) := by
    simp [tryLock, howner]
  have hrecover : (recoverAbandoned : Session K Unit).runAlone { db with owner := some me }
      = ((), { db with owner := some me, jobs := recovered db.now db.jobs }) := rfl
  cases hfirst : (recovered db.now db.jobs).newest ForecastRefreshJob.active with
  | some job =>
      obtain ⟨hjob, hactive⟩ := Table.newest_eq_some hfirst
      have hqueued : job.status = .queued := by
        simpa [ForecastRefreshJob.active, hrun job hjob] using hactive
      refine ⟨job, false, { db with jobs := recovered db.now db.jobs }, ?_, hjob, hqueued, hrun,
        howner, ?_⟩
      · simp [enqueue, maintenanceLock, Program.runAlone_bind, hlock, hrecover, first, hfirst,
          unlock, howner]
      · -- a row that ran before would be a second active one
        rintro ⟨row, hrow, hrunning⟩
        have hsame := hone row hrow job ((mem_recovered hjob).2 hqueued)
          (by simp [ForecastRefreshJob.active, hrunning])
          (by simp [ForecastRefreshJob.active, hqueued])
        rw [hsame, hqueued] at hrunning
        cases hrunning
  | none =>
      -- nothing is active, so the creation meets no conflict
      have hinactive := Table.newest_eq_none.1 hfirst
      have hfree : conflicts (recovered db.now db.jobs) "all" (recovered db.now db.jobs).next
          = false :=
        conflicts_eq_false (fun row hrow hact => by simp [hinactive row hrow] at hact)
      refine ⟨_, true,
        { db with jobs := (recovered db.now db.jobs).create (.fresh .manual user db.now) },
        ?_, List.mem_append.2 (Or.inr (List.mem_singleton.2 rfl)), rfl, ?_, howner, fun _ => rfl⟩
      · simp [enqueue, maintenanceLock, Program.runAlone_bind, hlock, hrecover, first, hfirst,
          create, hfree, unlock, howner]
      · -- the created row is queued, and the others were not running
        intro row hrow
        rcases List.mem_append.1 hrow with hold | hlast
        · exact hrun row hold
        · rw [List.mem_singleton.1 hlast]
          simp [ForecastRefreshJob.fresh]

/-! ## Every interleaving -/

/-- The job whose worker stands at a place, from reading it as queued to saving its outcome. -/
def Point.job : Point → Option Nat
  | .takes job | .saveRunning job | .saveStage job _ | .callCommand job _ | .saveResults job _
  | .finishes job | .saveOutcome job => some job
  | _ => none

/-- Process `k` is the worker of `job`. -/
def WorksOn (S : System K Point (Db K) Reply) (k : K) (job : Nat) : Prop :=
  ∃ point, S.At k point ∧ point.job = some job

/-- What holds whatever the order of the steps and crashes. -/
structure OneWorker (S : System K Point (Db K) Reply) : Prop where
  one_active : AtMostOneActive S.shared.jobs
  never_refused : S.shared.refused = 0
  one_works : ∀ p q job job', WorksOn S p job → WorksOn S q job' → p = q
  recovers : ∀ p, S.At p (.unlock .enqueue) ∨ S.At p (.unlock .lookup) →
    ∀ row ∈ S.shared.jobs.rows, row.status ≠ .running
  requeues : S.shared.owner = none → Requeues S.shared

/-- A step that marks a job as failed although another process is its worker and holds the lock. -/
def FailsWorkersJob (S : System K Point (Db K) Reply) (e : Event K Operation Int) : Prop :=
  ∃ q p job, e = .steps q ∧ p ≠ q ∧ S.shared.owner = some p ∧ WorksOn S p job
    ∧ (∃ row ∈ S.shared.jobs.rows, row.pk = job ∧ row.status ≠ .failed)
    ∧ ∃ row ∈ ((forecastWorkers K).act S e).shared.jobs.rows, row.pk = job ∧ row.status = .failed

/-- The handler of a failed launch comes after a worker has read the job and before that worker saves
it as running. -/
def OvertakesWorker (S : System K Point (Db K) Reply) (e : Event K Operation Int) : Prop :=
  ∃ q p job, e = .steps q ∧ S.At q (.launchFailed job)
    ∧ (S.At p (.takes job) ∨ S.At p (.saveRunning job))
    ∧ ∃ row ∈ S.shared.jobs.rows, row.pk = job ∧ row.status = .queued

theorem asserts_of_at {S : System K Point (Db K) Reply} (h : S.Sound (outline K)) {k : K}
    {point : Point} (hk : S.At k point) : Asserts k point S.shared :=
  (h.steps (M := forecastWorkers K) outline_preorder hk).1

theorem owner_of_worksOn {S : System K Point (Db K) Reply} (h : S.Sound (outline K)) {k : K}
    {job : Nat} (hk : WorksOn S k job) : S.shared.owner = some k := by
  obtain ⟨point, hat, hjob⟩ := hk
  have hasserts := asserts_of_at h hat
  cases point with
  | takes job => exact Held.owner hasserts
  | saveRunning job => exact Held.owner hasserts
  | saveStage job stage => exact Held.owner hasserts
  | callCommand job stage => exact Held.owner hasserts
  | saveResults job stage => exact Held.owner hasserts
  | finishes job => exact Held.owner hasserts
  | saveOutcome job => exact Held.owner hasserts
  | _ => cases hjob

theorem oneWorker_of_sound {S : System K Point (Db K) Reply} (h : S.Sound (outline K)) :
    OneWorker S := by
  refine ⟨h.inv.1, h.inv.2, ?_, ?_, requeues h.inv.1⟩
  · intro p q job job' hp hq
    have howner := owner_of_worksOn h hp
    rw [owner_of_worksOn h hq] at howner
    exact (Option.some.inj howner).symm
  · intro p hp
    rcases hp with hp | hp
    · exact Held.jobs (asserts_of_at h hp)
    · exact Held.jobs (asserts_of_at h hp)

/-- A worker that is past its first save knows that its row is running. -/
theorem running_or_before {S : System K Point (Db K) Reply} (h : S.Sound (outline K)) {p : K}
    {job : Nat} (hp : WorksOn S p job) :
    Held p (Runs job) S.shared ∨ S.At p (.takes job) ∨ S.At p (.saveRunning job) := by
  obtain ⟨point, hat, hjob⟩ := hp
  have hasserts := asserts_of_at h hat
  cases point with
  | takes pk =>
      cases hjob
      exact Or.inr (Or.inl hat)
  | saveRunning pk =>
      cases hjob
      exact Or.inr (Or.inr hat)
  | saveStage pk stage =>
      cases hjob
      exact Or.inl hasserts
  | callCommand pk stage =>
      cases hjob
      exact Or.inl hasserts
  | saveResults pk stage =>
      cases hjob
      exact Or.inl hasserts
  | finishes pk =>
      cases hjob
      exact Or.inl hasserts
  | saveOutcome pk =>
      cases hjob
      exact Or.inl hasserts
  | _ => cases hjob

/-- Without the lock, a step leaves the table alone or is the handler of a failed launch. -/
theorem step_without_lock {S : System K Point (Db K) Reply} (h : S.Sound (outline K)) {q : K}
    (hq : S.shared.owner ≠ some q) :
    ((forecastWorkers K).act S (.steps q)).shared.jobs = S.shared.jobs
      ∨ ∃ job now, S.At q (.launchFailed job)
        ∧ ((forecastWorkers K).act S (.steps q)).shared.jobs
          = launchFailed job now S.shared.jobs := by
  by_cases hidle : ∀ point, ¬ S.At q point
  · rw [act_steps_idle hidle]
    exact Or.inl rfl
  · obtain ⟨point, hat⟩ := not_forall_not.1 hidle
    have hdoes := (h.steps (M := forecastWorkers K) outline_preorder hat).2
    cases point with
    | launchFailed job =>
        obtain ⟨now, hjobs⟩ := hdoes
        exact Or.inr ⟨job, now, hat, hjobs⟩
    | _ => exact Or.inl (hdoes.resolve_left hq)

theorem overtakes_of_fails {S : System K Point (Db K) Reply} (h : S.Sound (outline K))
    {e : Event K Operation Int} (hfails : FailsWorkersJob S e) : OvertakesWorker S e := by
  obtain ⟨q, p, job, rfl, hpq, howner, hworks, ⟨row, hrow, hpk, hstatus⟩,
    ⟨row', hrow', hpk', hfailed⟩⟩ := hfails
  -- a process other than the worker does not hold the lock
  have hq : S.shared.owner ≠ some q := by
    rw [howner]
    exact fun hEq => hpq (Option.some.inj hEq)
  -- without the lock a step leaves the jobs or fails one queued job
  rcases step_without_lock h hq with hsame | ⟨job', now, hat, hjobs⟩
  · rw [hsame] at hrow'
    have hrows := S.shared.jobs.eq_of_pk_eq hrow hrow' (hpk.trans hpk'.symm)
    rw [hrows] at hstatus
    exact absurd hfailed hstatus
  · rw [hjobs] at hrow'
    obtain ⟨old, hold, rfl⟩ := List.mem_map.1 hrow'
    -- the row that failed is the one the step was for
    by_cases hp : (decide (old.pk = job') && decide (old.status = .queued)) = true
    · simp only [hp, if_true] at hpk'
      have hpkOld : old.pk = job := hpk'
      simp only [Bool.and_eq_true, decide_eq_true_eq] at hp
      have hjob : job' = job := hp.1.symm.trans hpkOld
      subst hjob
      refine ⟨q, p, job', rfl, hat, ?_, old, hold, hpkOld, hp.2⟩
      -- the worker's job was queued, so it had not been saved as running yet
      rcases running_or_before h hworks with hruns | hbefore
      · have hrunning := hruns.jobs old hold hpkOld
        rw [hp.2] at hrunning
        cases hrunning
      · exact hbefore
    · simp only [hp] at hpk' hfailed
      have hrows := S.shared.jobs.eq_of_pk_eq hrow hold (hpk.trans hpk'.symm)
      rw [hrows] at hstatus
      exact absurd hfailed hstatus

theorem fails_of_overtakes {S : System K Point (Db K) Reply} (h : S.Sound (outline K))
    {e : Event K Operation Int} (hovertakes : OvertakesWorker S e) : FailsWorkersJob S e := by
  obtain ⟨q, p, job, rfl, hat, hp, row, hrow, hpk, hqueued⟩ := hovertakes
  have hworks : WorksOn S p job := by
    rcases hp with hp | hp
    · exact ⟨_, hp, rfl⟩
    · exact ⟨_, hp, rfl⟩
  have hpq : p ≠ q := by
    intro hEq
    subst hEq
    rcases hp with hp | hp
    · cases Option.some.inj (hat.symm.trans hp)
    · cases Option.some.inj (hat.symm.trans hp)
  obtain ⟨now, hjobs⟩ := (h.steps (M := forecastWorkers K) outline_preorder hat).2
  refine ⟨q, p, job, rfl, hpq, owner_of_worksOn h hworks, hworks,
    ⟨row, hrow, hpk, by simp [hqueued]⟩, row.fail "launch_failed" "worker_launch_failed" now,
    ?_, hpk, rfl⟩
  rw [hjobs]
  refine List.mem_map.2 ⟨row, hrow, ?_⟩
  simp [hpk, hqueued]

/-- In every interleaving there is one worker, the table never refuses an active job, and recovery
leaves no running job; and a job is marked as failed beside its worker exactly where the handler of a
failed launch overtakes that worker. -/
theorem one_forecast_worker (now : Int) (events : List (Event K Operation Int)) :
    OneWorker ((forecastWorkers K).run (System.start (Db.initial now)) events)
      ∧ ((forecastWorkers K).EachEvent (fun S e => ¬ FailsWorkersJob S e)
          (System.start (Db.initial now)) events
        ↔ (forecastWorkers K).EachEvent (fun S e => ¬ OvertakesWorker S e)
          (System.start (Db.initial now)) events) := by
  refine ⟨oneWorker_of_sound (run_initial_sound now events), ?_⟩
  apply eachEvent_congr forecastWorkers_follows
  · intro S h e
    exact not_congr ⟨overtakes_of_fails h, fails_of_overtakes h⟩
  · exact sound_start (initial_inv now)

end Locking

/-- A refresh is requested, and the midnight run reads its job as queued. -/
def adoptedJob : List (Event Nat Operation Int) :=
  .starts 0 (.post none false) :: List.replicate 9 (.steps 0)
    ++ .starts 1 (.runMaintenance none fun _ => .printed "null") :: List.replicate 5 (.steps 1)

/-- Then the launch fails, and its handler marks the job of the midnight worker as failed. -/
theorem launch_failure_overtakes :
    ¬ (forecastWorkers Nat).EachEvent (fun S e => ¬ FailsWorkersJob S e)
      (System.start (Db.initial 0)) (adoptedJob ++ [.steps 0]) := by
  intro h
  refine EachEvent.last h (fails_of_overtakes (run_initial_sound 0 adoptedJob) ?_)
  refine ⟨0, 1, 1, rfl, rfl, Or.inl rfl, .fresh .manual none 0 1, ?_, rfl, rfl⟩
  exact List.mem_singleton.2 rfl

end Refresh
end Forecasting
end RosarioDairy
