import RosarioDairy.Forecasting.Serving
import RosarioDairy.Forecasting.Training

/-!
# Publication — what a published monthly forecast rests on

Runs and issues are written once and never change.  A run is what `learning.train` makes of the sales and
the reviews before its cutoff, and an issue repeats the prediction of its run on the first day of its
month.  So whatever is published in a month is the issue of that day, by a run that is still current.
-/

namespace RosarioDairy
namespace Forecasting

open Foundations

/-! ## The findings of `learning.train` -/

/-- What the monthly models rest on: the parameters of a workshop, with fitting and predicting in place
of the training. -/
structure Laboratory (D F : Type) where
  source : Source D
  arithmetic : Arithmetic F
  parameterNames : String → List String
  monthDigest : List MonthEntry → D
  coverageDigest : List (Int × D × Bool) → D
  artifactDigest : Artifact F → D
  models : MonthlyModels F (Artifact F)

section Laboratory

variable {D F : Type} [LinearOrder F] (lab : Laboratory D F)

omit [LinearOrder F] in
def Laboratory.findings (rows : List (MonthRow F)) (result : TrainingResult F (Artifact F)) :
    Findings D F :=
  { status := result.status
    artifact := result.research.map Research.artifact
    artifactSha256 := result.research.map fun research => lab.artifactDigest research.artifact
    selectedCandidate := result.selectedCandidate
    selectedBaseline := result.selectedBaseline
    trainingEnd := result.research.bind fun _ => rows.getLast?.map MonthRow.month
    nextMonth := result.research.map fun research =>
      { date := research.artifact.targetMonth
        predictedRevenue := research.predicted
        lowerBound := research.lowerBound
        upperBound := research.upperBound
        sampleCount := research.sampleCount }
    retrospectiveGate := result.research.map fun research =>
      { below15Percent := research.below15Percent
        noWorseThanBaseline := research.noWorseThanBaseline } }

def Laboratory.workshop : Workshop D F :=
  { source := lab.source
    arithmetic := lab.arithmetic
    parameterNames := lab.parameterNames
    monthDigest := lab.monthDigest
    coverageDigest := lab.coverageDigest
    artifactDigest := lab.artifactDigest
    train := fun rows =>
      ((train lab.arithmetic lab.models rows).map (lab.findings rows)).mapError fun _ => .trainingFailed
    predictBaseline := fun name rows =>
      (do
        let fitted ← lab.models.fitModel name rows
        lab.models.predictModel fitted).mapError fun _ => .trainingFailed }

end Laboratory

/-! ## Rows that are written once -/

section Publication

variable {D F : Type} [DecidableEq D] [LinearOrder F] (W : Workshop D F)

/-- The run is what the training made of a ledger and its reviews before the cutoff. -/
structure TrainedOn (run : MonthlyModelRun D F) (ledger : List LedgerSale)
    (reviewed : Registry D F) : Prop where
  engine : run.engineVersion = engineVersion
  source : run.sourceRevision = (loadSnapshot W.source ledger run.cutoff).revision
  coverage : run.coverageRevision =
    coverageRevision W (validCoverage W reviewed (loadSnapshot W.source ledger run.cutoff))
  findings : W.train (coverageRows W (loadSnapshot W.source ledger run.cutoff)
    (validCoverage W reviewed (loadSnapshot W.source ledger run.cutoff))) = .ok run.findings
  status : run.status = run.findings.status

/-- The issue repeats the prediction of its run, on the first day of its month. -/
structure IssuedBy (run : MonthlyModelRun D F) (issued : MonthlyIssuedForecast) : Prop where
  modelRun : issued.modelRun = run.pk
  day : localDay W issued.issuedAt = issued.targetMonth
  cutoff : run.cutoff = monthStart issued.targetMonth
  status : run.status = "research_candidate"
  point : ∃ point, run.findings.nextMonth = some point ∧ point.date = issued.targetMonth ∧
    issued.value = W.arithmetic.toCents point.predictedRevenue ∧
    issued.lowerBound = W.arithmetic.toCents point.lowerBound ∧
    issued.upperBound = W.arithmetic.toCents point.upperBound
  bounds : 0 ≤ issued.lowerBound ∧ issued.lowerBound ≤ issued.value ∧
    issued.value ≤ issued.upperBound

structure SoundRegistry (registry : Registry D F) : Prop where
  trained : ∀ run ∈ registry.runs.rows, ∃ ledger reviewed, TrainedOn W run ledger reviewed
  engines : ∀ issued ∈ registry.issued.rows, issued.engineVersion = engineVersion
  issued : ∀ issued ∈ registry.issued.rows, ∃ run ∈ registry.runs.rows, IssuedBy W run issued
  once : (registry.issued.rows.map MonthlyIssuedForecast.targetMonth).Nodup

/-- What a refresh takes to the lock: it was read before, and what it has found is still there. -/
structure SoundPreparation (registry : Registry D F) (prepared : Preparation D F) : Prop where
  snapshot : ∃ ledger, prepared.snapshot =
    loadSnapshot W.source ledger (monthStart prepared.requested)
  coverage : ∃ reviewed, prepared.coverage = validCoverage W reviewed prepared.snapshot
  run : ∀ run, prepared.run = some run → run ∈ registry.runs.rows ∧
    matchesLookup prepared.snapshot (coverageRevision W prepared.coverage) run = true
  findings : ∀ findings, prepared.findings = some findings →
    W.train (coverageRows W prepared.snapshot prepared.coverage) = .ok findings

omit [DecidableEq D] [LinearOrder F] in
/-- Nothing is deleted or changed. -/
structure Grown (registry registry' : Registry D F) : Prop where
  runs : ∀ run ∈ registry.runs.rows, run ∈ registry'.runs.rows
  issued : ∀ issued ∈ registry.issued.rows, issued ∈ registry'.issued.rows

variable {W}

omit [DecidableEq D] [LinearOrder F] in
theorem Grown.refl (registry : Registry D F) : Grown registry registry :=
  ⟨fun _ h => h, fun _ h => h⟩

omit [DecidableEq D] [LinearOrder F] in
theorem Grown.trans {r r' r'' : Registry D F} (h : Grown r r') (h' : Grown r' r'') : Grown r r'' :=
  ⟨fun run hrun => h'.runs run (h.runs run hrun),
    fun issued hissued => h'.issued issued (h.issued issued hissued)⟩

omit [LinearOrder F] in
theorem SoundPreparation.grown {registry registry' : Registry D F} {prepared : Preparation D F}
    (h : SoundPreparation W registry prepared) (hgrown : Grown registry registry') :
    SoundPreparation W registry' prepared :=
  { h with run := fun run hrun => ⟨hgrown.runs run (h.run run hrun).1, (h.run run hrun).2⟩ }

/-! ## Refreshing -/

omit [LinearOrder F] in
/-- The run a refresh goes on with: one that matches what it has read, old or new. -/
theorem obtainRun_ok {registry : Registry D F} {now : Int} {prepared : Preparation D F}
    {runs : Table (MonthlyModelRun D F)} {run : MonthlyModelRun D F} {created : Bool}
    (hprepared : SoundPreparation W registry prepared)
    (h : obtainRun W registry now prepared = .ok (runs, run, created)) :
    run ∈ runs.rows ∧ run.cutoff = monthStart prepared.requested ∧
      (∀ r ∈ registry.runs.rows, r ∈ runs.rows) ∧
      ∀ r ∈ runs.rows, r ∈ registry.runs.rows ∨ ∃ ledger reviewed, TrainedOn W r ledger reviewed := by
  obtain ⟨ledger, hsnapshot⟩ := hprepared.snapshot
  obtain ⟨reviewed, hcoverage⟩ := hprepared.coverage
  have hcutoff : ∀ r : MonthlyModelRun D F,
      matchesLookup prepared.snapshot (coverageRevision W prepared.coverage) r = true →
      r.cutoff = monthStart prepared.requested := by
    intro r hr
    simp only [matchesLookup, Bool.and_eq_true, decide_eq_true_eq] at hr
    rw [hr.2, hsnapshot]
    rfl
  unfold obtainRun at h
  cases hrun : prepared.run with
  | some found =>
      simp only [hrun, Except.ok.injEq, Prod.mk.injEq] at h
      obtain ⟨rfl, rfl, -⟩ := h
      obtain ⟨hmem, hmatches⟩ := hprepared.run found hrun
      exact ⟨hmem, hcutoff found hmatches, fun _ hr => hr, fun _ hr => Or.inl hr⟩
  | none =>
      cases hfindings : prepared.findings with
      | none => simp [hrun, hfindings] at h
      | some findings =>
          simp only [hrun, hfindings] at h
          split at h
          · next found hfound =>
              simp only [Except.ok.injEq, Prod.mk.injEq] at h
              obtain ⟨rfl, rfl, -⟩ := h
              obtain ⟨hmem, hmatches⟩ := Table.newest_eq_some hfound
              exact ⟨hmem, hcutoff found hmatches, fun _ hr => hr, fun _ hr => Or.inl hr⟩
          · simp only [Except.ok.injEq, Prod.mk.injEq] at h
            obtain ⟨rfl, rfl, -⟩ := h
            have hasOf : prepared.snapshot.asOf = monthStart prepared.requested := by
              rw [hsnapshot]
              rfl
            refine ⟨List.mem_append_right _ (List.mem_singleton_self _), hasOf,
              fun _ hr => List.mem_append_left _ hr, ?_⟩
            intro r hr
            rcases List.mem_append.1 hr with hold | hnew
            · exact Or.inl hold
            · -- the new row records what the findings were computed from
              rw [List.mem_singleton.1 hnew]
              refine Or.inr ⟨ledger, reviewed, ?_⟩
              have hsame : loadSnapshot W.source ledger prepared.snapshot.asOf =
                  prepared.snapshot := by rw [hasOf, ← hsnapshot]
              have htrain := hprepared.findings findings hfindings
              exact
                { engine := rfl
                  source := by rw [hsame]
                  coverage := by rw [hsame, ← hcoverage]
                  findings := by rw [hsame, ← hcoverage, htrain]
                  status := rfl }

omit [LinearOrder F] in
/-- A refresh issues at most one forecast, for the day that it was asked for and that it is. -/
theorem issueForecast_ok {registry : Registry D F} {now : Int} {prepared : Preparation D F}
    {run : MonthlyModelRun D F} {issues : Table MonthlyIssuedForecast} {issued : Bool}
    (hcutoff : run.cutoff = monthStart prepared.requested)
    (h : issueForecast W registry now prepared run = .ok (issues, issued)) :
    issues = registry.issued ∨ ∃ new : MonthlyIssuedForecast,
      issues.rows = registry.issued.rows ++ [new] ∧ new.engineVersion = engineVersion ∧
        IssuedBy W run new ∧ ∀ old ∈ registry.issued.rows, old.engineVersion = engineVersion →
          old.targetMonth ≠ new.targetMonth := by
  unfold issueForecast at h
  split at h
  · next point artifact hpoint _ =>
      split at h
      · next hconditions =>
          obtain ⟨hstatus, hday, hdate⟩ := hconditions
          obtain ⟨-, h⟩ := require_bind_eq_ok.1 h
          obtain ⟨baseline, -, h⟩ := bind_eq_ok.1 h
          simp only at h
          split at h
          · exact Or.inl (pure_pair_eq_ok.1 h).1.symm
          · next hnone =>
              obtain ⟨hbounds, h⟩ := require_bind_eq_ok.1 h
              obtain ⟨rfl, -⟩ := pure_pair_eq_ok.1 h
              refine Or.inr ⟨_, rfl, rfl, ?_, ?_⟩
              · exact
                  { modelRun := rfl
                    day := hday.symm
                    cutoff := hcutoff
                    status := hstatus
                    point := ⟨point, hpoint, hdate, rfl, rfl, rfl⟩
                    bounds := hbounds.2 }
              · intro old hold hengine htarget
                refine hnone (List.any_eq_true.2 ⟨old, hold, ?_⟩)
                rw [Bool.and_eq_true, decide_eq_true_eq, decide_eq_true_eq]
                exact ⟨hengine, htarget⟩
      · exact Or.inl (pure_pair_eq_ok.1 h).1.symm
  · exact Or.inl (pure_pair_eq_ok.1 h).1.symm

theorem sound_recordRefresh {world : World D F} {prepared : Preparation D F}
    {registry : Registry D F} {run : MonthlyModelRun D F} {created issued : Bool} {scored : Nat}
    (hsound : SoundRegistry W world.registry)
    (hprepared : SoundPreparation W world.registry prepared)
    (h : recordRefresh W world prepared = .ok (registry, run, created, scored, issued)) :
    SoundRegistry W registry ∧ Grown world.registry registry := by
  unfold recordRefresh at h
  obtain ⟨checked, -, h⟩ := bind_eq_ok.1 h
  obtain ⟨-, h⟩ := require_bind_eq_ok.1 h
  obtain ⟨⟨runs, run', created'⟩, hrun, h⟩ := bind_eq_ok.1 h
  obtain ⟨⟨issues, issued'⟩, hissue, h⟩ := bind_eq_ok.1 h
  cases pure_eq_ok.1 h
  obtain ⟨hmem, hcutoff, hkept, hruns⟩ := obtainRun_ok hprepared hrun
  have htrained : ∀ r ∈ runs.rows, ∃ ledger reviewed, TrainedOn W r ledger reviewed := by
    intro r hr
    rcases hruns r hr with hold | hnew
    · exact hsound.trained r hold
    · exact hnew
  rcases issueForecast_ok hcutoff hissue with hsame | ⟨new, hrows, hengine, hby, hfresh⟩
  · have hissued : issues = world.registry.issued := hsame
    subst hissued
    refine ⟨{ hsound with
      trained := htrained
      issued := ?_ }, ⟨hkept, fun _ hi => hi⟩⟩
    intro i hi
    obtain ⟨r, hr, hir⟩ := hsound.issued i hi
    exact ⟨r, hkept r hr, hir⟩
  · have hrows : issues.rows = world.registry.issued.rows ++ [new] := hrows
    refine ⟨⟨htrained, ?_, ?_, ?_⟩, ⟨hkept, ?_⟩⟩
    · intro i hi
      rcases List.mem_append.1 (hrows ▸ hi) with hold | hnew
      · exact hsound.engines i hold
      · rw [List.mem_singleton.1 hnew]
        exact hengine
    · intro i hi
      rcases List.mem_append.1 (hrows ▸ hi) with hold | hnew
      · obtain ⟨r, hr, hir⟩ := hsound.issued i hold
        exact ⟨r, hkept r hr, hir⟩
      · rw [List.mem_singleton.1 hnew]
        exact ⟨run, hmem, hby⟩
    · show (issues.rows.map MonthlyIssuedForecast.targetMonth).Nodup
      rw [hrows, List.map_append]
      refine List.nodup_append.2 ⟨hsound.once, List.nodup_singleton _, ?_⟩
      intro month hmonth month' hmonth'
      obtain ⟨old, hold, rfl⟩ := List.mem_map.1 hmonth
      rw [List.mem_singleton.1 hmonth']
      exact hfresh old hold (hsound.engines old hold)
    · intro i hi
      show i ∈ issues.rows
      rw [hrows]
      exact List.mem_append_left _ hi

omit [DecidableEq D] [LinearOrder F] in
theorem promote_rows (registry : Registry D F) (now : Int) (run : MonthlyModelRun D F) (gate : Gate F)
    (reason : String) : (promote registry now run gate reason).1.runs = registry.runs ∧
      (promote registry now run gate reason).1.issued = registry.issued := by
  unfold promote
  split
  · exact ⟨rfl, rfl⟩
  · split
    · exact ⟨rfl, rfl⟩
    · exact ⟨rfl, rfl⟩

omit [LinearOrder F] in
/-- Promotions touch neither runs nor issues. -/
theorem sound_promote {registry registry' : Registry D F} (hruns : registry'.runs = registry.runs)
    (hissued : registry'.issued = registry.issued) (h : SoundRegistry W registry) :
    SoundRegistry W registry' ∧ Grown registry registry' := by
  refine ⟨⟨?_, ?_, ?_, ?_⟩, ⟨?_, ?_⟩⟩
  · rw [hruns]
    exact h.trained
  · rw [hissued]
    exact h.engines
  · rw [hissued, hruns]
    exact h.issued
  · rw [hissued]
    exact h.once
  · rw [hruns]
    exact fun _ hr => hr
  · rw [hissued]
    exact fun _ hi => hi

/-! ## Runs -/

/-- What happens: refreshes up to their lock and from there on, activations, reviews that were begun in
an earlier world, changes of the recorded sales and the passage of time. -/
inductive PublicationEvent
  | prepares (call : Nat) (asOf : Option Int)
  | commits (call : Nat)
  | activates (modelId : Nat)
  | attests (ledger : List LedgerSale) (now : Int) (month : Int) (note : String) (reviewer : Bool)
      (confirmZero : Bool)
  | sells (ledger : List LedgerSale)
  | passes (now : Int)

variable (W)

/-- The event among those of the lifecycle; nothing but refreshes writes runs and issues. -/
def PublicationEvent.toLifecycle (m : Maintenance D F) : PublicationEvent → LifecycleEvent D F
  | .prepares call asOf => .prepares call asOf
  | .commits call => .commits call
  | .activates modelId => .activates modelId
  | .attests ledger now month note reviewer confirmZero =>
      let registry := m.world.registry
      let before : World D F :=
        { registry := registry
          ledger := ledger
          now := now }
      let coverage := match attestCoverage W before m.world month note reviewer confirmZero with
        | .ok coverage => coverage
        | .error _ => registry.coverage
      .changes m.world.ledger m.world.now registry.runs coverage registry.issued registry.scores
  | .sells ledger =>
      let registry := m.world.registry
      .changes ledger m.world.now registry.runs registry.coverage registry.issued registry.scores
  | .passes now =>
      let registry := m.world.registry
      .changes m.world.ledger now registry.runs registry.coverage registry.issued registry.scores

def Maintenance.publish (m : Maintenance D F) (e : PublicationEvent) : Maintenance D F :=
  m.act W (e.toLifecycle W m)

/-- What holds between two events. -/
structure PublicationInvariant (m : Maintenance D F) : Prop where
  lifecycle : LifecycleInvariant W m
  registry : SoundRegistry W m.world.registry
  waiting : ∀ call prepared, m.waiting call = some prepared →
    SoundPreparation W m.world.registry prepared

variable {W}

omit [LinearOrder F] in
theorem sound_prepareRefresh {world : World D F} {asOf : Option Int} {prepared : Preparation D F}
    (h : prepareRefresh W world asOf = .ok prepared) :
    SoundPreparation W world.registry prepared := by
  unfold prepareRefresh at h
  obtain ⟨snapshot, hsnapshot, h⟩ := bind_eq_ok.1 h
  have hload : snapshot = loadSnapshot W.source world.ledger
      (monthStart (asOf.getD (localDay W world.now))) := by
    unfold lifecycleSnapshot at hsnapshot
    obtain ⟨-, hsnapshot⟩ := require_bind_eq_ok.1 hsnapshot
    exact (pure_eq_ok.1 hsnapshot).symm
  cases hrun : world.registry.runs.newest (matchesLookup snapshot
      (coverageRevision W (validCoverage W world.registry snapshot))) with
  | some run =>
      simp only [hrun] at h
      cases pure_eq_ok.1 h
      refine ⟨⟨world.ledger, hload⟩, ⟨world.registry, rfl⟩, ?_, ?_⟩
      · rintro run' ⟨rfl⟩
        exact Table.newest_eq_some hrun
      · intro findings hfindings
        cases hfindings
  | none =>
      simp only [hrun] at h
      obtain ⟨findings, htrain, h⟩ := bind_eq_ok.1 h
      cases pure_eq_ok.1 h
      refine ⟨⟨world.ledger, hload⟩, ⟨world.registry, rfl⟩, ?_, ?_⟩
      · intro run' hrun'
        cases hrun'
      · rintro findings' ⟨rfl⟩
        exact htrain

theorem sound_commitRefresh {world : World D F} {prepared : Preparation D F}
    (hsound : SoundRegistry W world.registry)
    (hprepared : SoundPreparation W world.registry prepared) :
    SoundRegistry W (settled world.registry (commitRefresh W world prepared)) ∧
      Grown world.registry (settled world.registry (commitRefresh W world prepared)) := by
  cases hcommit : commitRefresh W world prepared with
  | error e => exact ⟨hsound, Grown.refl _⟩
  | ok answer =>
      unfold commitRefresh at hcommit
      obtain ⟨⟨registry, run, created, scored, issued⟩, hrecord, hcommit⟩ := bind_eq_ok.1 hcommit
      cases pure_eq_ok.1 hcommit
      obtain ⟨hrecorded, hgrown⟩ := sound_recordRefresh hsound hprepared hrecord
      obtain ⟨hruns, hissued⟩ := promote_rows registry world.now run
        (qualityGate W registry world.now run prepared.snapshot prepared.coverage)
        "automatic_quality_gate"
      obtain ⟨hpromoted, hpromotedGrown⟩ := sound_promote hruns hissued hrecorded
      exact ⟨hpromoted, hgrown.trans hpromotedGrown⟩

theorem sound_activateModel {world : World D F} (hsound : SoundRegistry W world.registry)
    (modelId : Nat) :
    SoundRegistry W (settled world.registry (activateModel W world modelId)) ∧
      Grown world.registry (settled world.registry (activateModel W world modelId)) := by
  cases hactivate : activateModel W world modelId with
  | error e => exact ⟨hsound, Grown.refl _⟩
  | ok answer =>
      unfold activateModel at hactivate
      obtain ⟨snapshot, -, hactivate⟩ := bind_eq_ok.1 hactivate
      obtain ⟨run, -, hactivate⟩ := bind_eq_ok.1 hactivate
      obtain ⟨-, hactivate⟩ := require_bind_eq_ok.1 hactivate
      obtain ⟨-, hactivate⟩ := require_bind_eq_ok.1 hactivate
      obtain ⟨-, hactivate⟩ := require_bind_eq_ok.1 hactivate
      cases pure_eq_ok.1 hactivate
      obtain ⟨hruns, hissued⟩ := promote_rows world.registry world.now run
        (qualityGate W world.registry world.now run snapshot
          (validCoverage W world.registry snapshot)) "operator_activation_or_rollback"
      exact sound_promote hruns hissued hsound

/-- One event keeps the invariant, and every run and issue there is. -/
theorem publicationInvariant_publish {m : Maintenance D F} (h : PublicationInvariant W m)
    (e : PublicationEvent) : PublicationInvariant W (m.publish W e) ∧
      Grown m.world.registry (m.publish W e).world.registry := by
  have hlifecycle := lifecycleInvariant_act h.lifecycle (e.toLifecycle W m)
  -- other changes leave the runs and the issues as they are
  have hchanged : ∀ ledger now coverage, e.toLifecycle W m = .changes ledger now m.world.registry.runs
      coverage m.world.registry.issued m.world.registry.scores →
      PublicationInvariant W (m.publish W e) ∧
        Grown m.world.registry (m.publish W e).world.registry := by
    intro ledger now coverage he
    unfold Maintenance.publish
    rw [he] at hlifecycle ⊢
    have hgrown : Grown m.world.registry
        { m.world.registry with
          runs := m.world.registry.runs
          coverage := coverage
          issued := m.world.registry.issued
          scores := m.world.registry.scores } := ⟨fun _ hr => hr, fun _ hi => hi⟩
    exact ⟨⟨hlifecycle, { h.registry with }, fun call prepared hcall =>
      (h.waiting call prepared hcall).grown hgrown⟩, hgrown⟩
  cases e with
  | prepares call asOf =>
      refine ⟨⟨hlifecycle, h.registry, ?_⟩, Grown.refl _⟩
      intro call' prepared hcall
      by_cases hsame : call' = call
      · subst hsame
        simp only [Maintenance.publish, PublicationEvent.toLifecycle, Maintenance.act,
          Function.update_self] at hcall
        cases hprepare : prepareRefresh W m.world asOf with
        | error e =>
            rw [hprepare] at hcall
            cases hcall
        | ok result =>
            rw [hprepare] at hcall
            cases hcall
            exact sound_prepareRefresh hprepare
      · simp only [Maintenance.publish, PublicationEvent.toLifecycle, Maintenance.act,
          Function.update_of_ne hsame] at hcall
        exact h.waiting call' prepared hcall
  | commits call =>
      unfold Maintenance.publish at *
      simp only [PublicationEvent.toLifecycle] at hlifecycle ⊢
      cases hcall : m.waiting call with
      | none =>
          simp only [Maintenance.act, hcall]
          exact ⟨h, Grown.refl _⟩
      | some prepared =>
          obtain ⟨hsound, hgrown⟩ := sound_commitRefresh h.registry (h.waiting call prepared hcall)
          refine ⟨⟨hlifecycle, ?_, ?_⟩, ?_⟩
          · simp only [Maintenance.act, hcall]
            exact hsound
          · intro call' prepared' hcall'
            simp only [Maintenance.act, hcall] at hcall' ⊢
            by_cases hsame : call' = call
            · simp [hsame] at hcall'
            · simp only [Function.update_of_ne hsame] at hcall'
              exact (h.waiting call' prepared' hcall').grown hgrown
          · simp only [Maintenance.act, hcall]
            exact hgrown
  | activates modelId =>
      obtain ⟨hsound, hgrown⟩ := sound_activateModel h.registry modelId
      exact ⟨⟨hlifecycle, hsound, fun call prepared hcall =>
        (h.waiting call prepared hcall).grown hgrown⟩, hgrown⟩
  | attests ledger now month note reviewer confirmZero => exact hchanged _ _ _ rfl
  | sells ledger => exact hchanged _ _ _ rfl
  | passes now => exact hchanged _ _ _ rfl

theorem publicationInvariant_run {m : Maintenance D F} (h : PublicationInvariant W m)
    (events : List PublicationEvent) :
    PublicationInvariant W (events.foldl (Maintenance.publish W) m) ∧
      Grown m.world.registry (events.foldl (Maintenance.publish W) m).world.registry := by
  induction events generalizing m with
  | nil => exact ⟨h, Grown.refl _⟩
  | cons e rest ih =>
      obtain ⟨hnext, hgrown⟩ := publicationInvariant_publish h e
      obtain ⟨hlast, hgrown'⟩ := ih hnext
      exact ⟨hlast, hgrown.trans hgrown'⟩

theorem publicationInvariant_start (ledger : List LedgerSale) (now : Int) :
    PublicationInvariant W (Maintenance.start ledger now : Maintenance D F) := by
  refine ⟨lifecycleInvariant_start ledger now, ⟨?_, ?_, ?_, List.nodup_nil⟩, ?_⟩
  · exact fun _ hr => absurd hr List.not_mem_nil
  · exact fun _ hi => absurd hi List.not_mem_nil
  · exact fun _ hi => absurd hi List.not_mem_nil
  · intro call prepared hcall
    cases hcall

/-! ## What is published -/

variable (W)

/-- What a published point rests on.  Its run is the deployed one, by a promotion that passed the gate,
and was trained on the sales and the reviews before the month as they still are; the issue was made on
the first day of this month; and the gate is eligible now. -/
structure PublishedFrom (world : World D F) (point : ForecastPoint) (run : MonthlyModelRun D F)
    (issued : MonthlyIssuedForecast) : Prop where
  point : point = issuedPoint run issued
  month : issued.targetMonth = monthStart (localDay W world.now)
  firstDay : IssuedBy W run issued
  trained : ∃ ledger reviewed, TrainedOn W run ledger reviewed
  cutoff : run.cutoff = issued.targetMonth
  source : run.sourceRevision = (loadSnapshot W.source world.ledger issued.targetMonth).revision
  coverage : run.coverageRevision = coverageRevision W
    (validCoverage W world.registry (loadSnapshot W.source world.ledger issued.targetMonth))
  promoted : ∃ promotion, world.registry.promotions.rows.getLast? = some promotion ∧
    promotion.modelRun = run.pk ∧ promotion.evidence.eligible = true
  evidence : ∃ evidence, SoundEvidence W world.registry world.registry
    (loadSnapshot W.source world.ledger issued.targetMonth) evidence

/-- There is a run and an issue behind a point. -/
def Published (world : World D F) (point : ForecastPoint) : Prop :=
  ∃ run ∈ world.registry.runs.rows, ∃ issued ∈ world.registry.issued.rows,
    PublishedFrom W world point run issued

/-- Reports and charts publish sound points only. -/
def PublicationSound (world : World D F) : Prop :=
  (∀ scope period payload, report W world scope period = .ok payload →
    ∀ point ∈ payload.forecast, Published W world point) ∧
  ∀ period points, chartForecast W world period = .ok points → ∀ point ∈ points, Published W world point

/-- A point that was published is never revised. -/
def NeverRevised (world later : World D F) : Prop :=
  ∀ payload payload' point point', report W world "real" "monthly" = .ok payload →
    report W later "real" "monthly" = .ok payload' → point ∈ payload.forecast →
      point' ∈ payload'.forecast → point'.date = point.date → point' = point

variable {W}

omit [DecidableEq D] [LinearOrder F] in
theorem mem_publishedPoints {context : ModelContext D F} {point : ForecastPoint}
    (h : point ∈ publishedPoints context) : ∃ run issued, context.run = some run ∧
      context.issued = some issued ∧ context.status = "ready" ∧ point = issuedPoint run issued := by
  unfold publishedPoints at h
  split at h
  · next run issued hrun hissued =>
      split at h
      · next hready => exact ⟨run, issued, hrun, hissued, hready, List.mem_singleton.1 h⟩
      · exact absurd h List.not_mem_nil
  · exact absurd h List.not_mem_nil

theorem mem_forecast {world : World D F} {scope period : String} {payload : ForecastReport D F}
    {point : ForecastPoint} (h : report W world scope period = .ok payload)
    (hpoint : point ∈ payload.forecast) :
    ∃ context, modelContext W world = .ok context ∧ point ∈ publishedPoints context := by
  unfold report at h
  obtain ⟨-, h⟩ := require_bind_eq_ok.1 h
  obtain ⟨context, hcontext, h⟩ := bind_eq_ok.1 h
  have hfound : modelContext W world = .ok context := by
    cases hcase : modelContext W world with
    | error e =>
        rw [hcase] at hcontext
        cases hcontext
    | ok found =>
        rw [hcase] at hcontext
        cases hcontext
        rfl
  refine ⟨context, hfound, ?_⟩
  cases hlatest : context.latest with
  | none =>
      simp only [hlatest] at h
      cases pure_eq_ok.1 h
      exact absurd hpoint List.not_mem_nil
  | some latest =>
      simp only [hlatest] at h
      split at h
      · cases pure_eq_ok.1 h
        exact absurd hpoint List.not_mem_nil
      · cases pure_eq_ok.1 h
        exact hpoint

theorem mem_chartForecast {world : World D F} {period : String} {points : List ForecastPoint}
    {point : ForecastPoint} (h : chartForecast W world period = .ok points) (hpoint : point ∈ points) :
    ∃ context, modelContext W world = .ok context ∧ point ∈ publishedPoints context := by
  unfold chartForecast at h
  obtain ⟨-, h⟩ := require_bind_eq_ok.1 h
  obtain ⟨context, hcontext, h⟩ := bind_eq_ok.1 h
  cases hcase : modelContext W world with
  | error e =>
      rw [hcase] at hcontext
      cases hcontext
  | ok found =>
      rw [hcase] at hcontext
      cases hcontext
      cases pure_eq_ok.1 h
      refine ⟨_, rfl, ?_⟩
      split at hpoint
      · exact hpoint
      · exact absurd hpoint List.not_mem_nil

omit [DecidableEq D] [LinearOrder F] in
/-- Only a run that is deployed and passes the gate is ready, unless it calls itself so. -/
theorem modelStatus_ready {registry : Registry D F} {run : MonthlyModelRun D F}
    {latest : Option (MonthlyModelRun D F)} {gate : Gate F} {issued : Option MonthlyIssuedForecast}
    (hrun : run.status ≠ "ready")
    (h : modelStatus registry (some run) latest (some gate) issued = "ready") :
    gate.eligible = true ∧ registry.deployment = some run.pk := by
  simp only [modelStatus] at h
  split at h
  · exact absurd h hrun
  · split at h
    · exact absurd h (by decide)
    · split at h
      · next hready => exact ⟨hready.1, hready.2.1⟩
      · exact absurd h (by decide)

theorem published_of_context {m : Maintenance D F} (h : PublicationInvariant W m)
    (htrain : ∀ rows findings, W.train rows = .ok findings → findings.status ≠ "ready")
    {context : ModelContext D F} {point : ForecastPoint}
    (hcontext : modelContext W m.world = .ok context) (hpoint : point ∈ publishedPoints context) :
    Published W m.world point := by
  obtain ⟨run, issued, hrun, hissued, hready, hform⟩ := mem_publishedPoints hpoint
  unfold modelContext at hcontext
  obtain ⟨snapshot, hsnapshot, hcontext⟩ := bind_eq_ok.1 hcontext
  have hload : snapshot = loadSnapshot W.source m.world.ledger
      (monthStart (localDay W m.world.now)) := by
    unfold lifecycleSnapshot at hsnapshot
    obtain ⟨-, hsnapshot⟩ := require_bind_eq_ok.1 hsnapshot
    exact (pure_eq_ok.1 hsnapshot).symm
  cases pure_eq_ok.1 hcontext
  simp only at hrun hissued hready
  rw [hrun] at hissued hready
  obtain ⟨hmem, hmatches⟩ := Table.newest_eq_some hrun
  simp only [matchesLookup, Bool.and_eq_true, decide_eq_true_eq] at hmatches
  obtain ⟨⟨⟨-, hsource⟩, hcoverage⟩, hcutoff⟩ := hmatches
  rw [Option.bind_some] at hissued
  have hmemIssued := List.mem_of_find?_eq_some hissued
  have hselected := List.find?_some hissued
  simp only [Bool.and_eq_true, decide_eq_true_eq] at hselected
  obtain ⟨hmodel, hmonth⟩ := hselected
  obtain ⟨ledger, reviewed, htrained⟩ := h.registry.trained run hmem
  -- a run does not call itself ready, so it was found deployed and eligible
  have hstatus : run.status ≠ "ready" := by
    rw [htrained.status]
    exact htrain _ _ htrained.findings
  rw [Option.map_some] at hready
  obtain ⟨heligible, hdeployed⟩ := modelStatus_ready hstatus hready
  -- the issue belongs to this very run
  obtain ⟨run', hmem', hby⟩ := h.registry.issued issued hmemIssued
  have hsame : run' = run := Table.eq_of_pk_eq _ hmem' hmem (hby.modelRun.symm.trans hmodel)
  subst hsame
  have hasOf : snapshot.asOf = issued.targetMonth := by
    rw [hload, hmonth]
    rfl
  have hcurrent : loadSnapshot W.source m.world.ledger issued.targetMonth = snapshot := by
    rw [hmonth, ← hload]
  have htrail := h.lifecycle.trail
  have hlast := htrail.deployed.symm.trans hdeployed
  obtain ⟨promotion, hpromotion, hpromoted⟩ := Option.map_eq_some_iff.1 hlast
  refine ⟨run', hmem, issued, hmemIssued, ?_⟩
  exact
    { point := hform
      month := hmonth
      firstDay := hby
      trained := ⟨ledger, reviewed, htrained⟩
      cutoff := hcutoff.trans hasOf
      source := by rw [hcurrent, hsource]
      coverage := by rw [hcurrent, hcoverage]
      promoted := ⟨promotion, hpromotion, hpromoted,
        (htrail.evidenced promotion (List.mem_of_getLast? hpromotion)).1⟩
      evidence := by
        rw [hcurrent]
        exact ⟨_, soundEvidence_of_eligible heligible⟩ }

omit [LinearOrder F] in
/-- Issues of one month are one issue, in whatever order they were made. -/
theorem SoundRegistry.issued_eq {registry : Registry D F} (h : SoundRegistry W registry)
    {issued issued' : MonthlyIssuedForecast} (hissued : issued ∈ registry.issued.rows)
    (hissued' : issued' ∈ registry.issued.rows) (hmonth : issued.targetMonth = issued'.targetMonth) :
    issued = issued' :=
  List.inj_on_of_nodup_map h.once hissued hissued' hmonth

end Publication

/-! ## Trained workshops -/

section Trained

variable {D F : Type} [DecidableEq D] [LinearOrder F] (lab : Laboratory D F)

omit [DecidableEq D] in
/-- None of the five results of the training is called ready. -/
theorem train_status {rows : List (MonthRow F)} {result : TrainingResult F (Artifact F)}
    (h : train lab.arithmetic lab.models rows = .ok result) : result.status ≠ "ready" := by
  unfold train at h
  split at h
  · cases pure_eq_ok.1 h
    simp [TrainingResult.ended]
  · split at h
    · cases h
    · obtain ⟨reports, -, h⟩ := bind_eq_ok.1 h
      split at h
      · cases pure_eq_ok.1 h
        simp [TrainingResult.ended]
      · split at h
        · cases pure_eq_ok.1 h
          simp [TrainingResult.ended]
        · obtain ⟨tested, -, h⟩ := bind_eq_ok.1 h
          split at h
          · cases pure_eq_ok.1 h
            simp [TrainingResult.ended]
          · obtain ⟨refit, -, h⟩ := bind_eq_ok.1 h
            split at h
            · cases pure_eq_ok.1 h
              simp [TrainingResult.ended]
            · cases pure_eq_ok.1 h
              simp

omit [DecidableEq D] in
theorem workshop_status {rows : List (MonthRow F)} {findings : Findings D F}
    (h : lab.workshop.train rows = .ok findings) : findings.status ≠ "ready" := by
  cases htrain : train lab.arithmetic lab.models rows with
  | error e =>
      simp [Laboratory.workshop, htrain, Except.map, Except.mapError] at h
  | ok result =>
      simp only [Laboratory.workshop, htrain, Except.map, Except.mapError, Except.ok.injEq] at h
      rw [← h]
      exact train_status lab htrain

/-- After every sequence of refreshes, activations, reviews, changes of the sales and passing days, every
published point was issued on the first day of its month by the deployed run, which was trained on the
sales and reviews before the month as they still are and passes the gate on sound evidence. -/
theorem publication_sound (ledger : List LedgerSale) (now : Int) (events : List PublicationEvent) :
    PublicationSound lab.workshop
      (events.foldl (Maintenance.publish lab.workshop) (.start ledger now)).world := by
  obtain ⟨hinv, -⟩ := publicationInvariant_run
    (publicationInvariant_start (W := lab.workshop) ledger now) events
  refine ⟨?_, ?_⟩
  · intro scope period payload hreport point hpoint
    obtain ⟨context, hcontext, hpublished⟩ := mem_forecast hreport hpoint
    exact published_of_context hinv (fun _ _ => workshop_status lab) hcontext hpublished
  · intro period points hchart point hpoint
    obtain ⟨context, hcontext, hpublished⟩ := mem_chartForecast hchart hpoint
    exact published_of_context hinv (fun _ _ => workshop_status lab) hcontext hpublished

/-- What was published for a month is never revised: whenever a forecast of this month is published
again, after any further events, it is the same one. -/
theorem publication_final (ledger : List LedgerSale) (now : Int) (events later : List PublicationEvent) :
    NeverRevised lab.workshop
      (events.foldl (Maintenance.publish lab.workshop) (.start ledger now)).world
      ((events ++ later).foldl (Maintenance.publish lab.workshop) (.start ledger now)).world := by
  rw [List.foldl_append]
  obtain ⟨hinv, -⟩ := publicationInvariant_run
    (publicationInvariant_start (W := lab.workshop) ledger now) events
  obtain ⟨hlater, hgrown⟩ := publicationInvariant_run hinv later
  intro payload payload' point point' hreport hreport' hpoint hpoint' hdate
  obtain ⟨context, hcontext, hpublished⟩ := mem_forecast hreport hpoint
  obtain ⟨context', hcontext', hpublished'⟩ := mem_forecast hreport' hpoint'
  obtain ⟨run, hrun, issued, hissued, hfrom⟩ :=
    published_of_context hinv (fun _ _ => workshop_status lab) hcontext hpublished
  obtain ⟨run', hrun', issued', hissued', hfrom'⟩ :=
    published_of_context hlater (fun _ _ => workshop_status lab) hcontext' hpublished'
  -- the issue and its run are still there, and there is one issue for a month
  have hmonth : issued'.targetMonth = issued.targetMonth := by
    rw [hfrom'.point, hfrom.point] at hdate
    exact hdate
  have hsame : issued' = issued :=
    hlater.registry.issued_eq hissued' (hgrown.issued issued hissued) hmonth
  subst hsame
  have hruns : run' = run := Table.eq_of_pk_eq _ hrun' (hgrown.runs run hrun)
    (hfrom'.firstDay.modelRun.symm.trans hfrom.firstDay.modelRun)
  rw [hfrom'.point, hfrom.point, hruns]

end Trained

end Forecasting
end RosarioDairy
