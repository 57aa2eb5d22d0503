import RosarioDairy.Forecasting.Lifecycle

/-!
# Promotion gate — what is promoted, and on which evidence

Two results about the lifecycle of monthly models.  An eligible gate rests on twelve consecutive
reviewed months up to the month before the cutoff, each with a current score of a forecast that was
issued on its first day.  And in every run of refreshes and activations, with any other changes in
between, the promotions form one chain that ends at the deployed run.
-/

namespace RosarioDairy
namespace Forecasting

open Foundations

section PromotionGate

variable {D F : Type} [DecidableEq D] [LinearOrder F] (W : Workshop D F)

/-! ## Evidence -/

/-- What one month of evidence rests on: a review at its current revision, and a score at that
revision of the forecast issued on its first day by a run trained through the month before. -/
structure MonthEvidence (registry reviewed : Registry D F) (snapshot : SalesSnapshot D)
    (row : EvidenceRow F) : Prop where
  reviewed : ∃ attestation ∈ reviewed.coverage.rows, attestation.month = row.month
    ∧ attestation.sourceRevision = revisionOf W snapshot row.month
  issued : ∃ issued ∈ registry.issued.rows, ∃ run ∈ registry.runs.rows,
    ∃ score ∈ registry.scores.rows,
      (issued.engineVersion = engineVersion ∧ issued.targetMonth = row.month
        ∧ (Day.toYmd row.month).day = 1 ∧ localDay W issued.issuedAt = row.month)
      ∧ (run.pk = issued.modelRun
        ∧ run.trainedThrough = some (monthEnd (shiftMonth row.month (-1))))
      ∧ (score.issued = issued.pk ∧ score.coverageVerified = true
        ∧ score.actualRevision = revisionOf W snapshot row.month)
      ∧ row.actual = W.arithmetic.ofCents score.actual
      ∧ row.predicted = W.arithmetic.ofCents issued.value
      ∧ row.baseline = W.arithmetic.ofCents issued.baselineValue

/-- The evidence of an eligible gate. -/
structure SoundEvidence (registry reviewed : Registry D F) (snapshot : SalesSnapshot D)
    (evidence : Evidence F) : Prop where
  rows : evidence.months = evidence.rows.map EvidenceRow.month
  twelve : evidence.months.length = 12
  consecutive : evidence.months.IsChain fun month next => next = shiftMonth month 1
  last : evidence.months.getLast? = some (shiftMonth snapshot.asOf (-1))
  months : ∀ row ∈ evidence.rows, MonthEvidence W registry reviewed snapshot row
  metrics : evidence.metrics = score W.arithmetic (evidence.rows.map EvidenceRow.asPrediction)
  baseline : evidence.baselineMetrics
    = score W.arithmetic (evidence.rows.map EvidenceRow.asBaseline)
  accurate : ∃ wape base, evidence.metrics.wapePercent = some wape
    ∧ evidence.baselineMetrics.wapePercent = some base
    ∧ wape < W.arithmetic.ofNat 15 ∧ wape ≤ base

variable {W}

theorem monthEvidence_of_entry {registry reviewed : Registry D F} {snapshot : SalesSnapshot D}
    {issued : MonthlyIssuedForecast} {row : EvidenceRow F}
    (hissued : issued ∈ closedIssues registry snapshot)
    (h : evidenceEntry W registry snapshot (validCoverage W reviewed snapshot) issued = some row) :
    MonthEvidence W registry reviewed snapshot row := by
  unfold evidenceEntry at h
  split at h
  · next hentry =>
      rw [Bool.and_eq_true] at hentry
      obtain ⟨hcovers, hprospective⟩ := hentry
      obtain ⟨current, hscore, rfl⟩ := Option.map_eq_some_iff.1 h
      obtain ⟨attestation, hattestation, hmonth⟩ := List.any_eq_true.1 hcovers
      obtain ⟨hrow, hvalid⟩ := List.mem_filter.1 hattestation
      obtain ⟨hmem, hengine⟩ := List.mem_filter.1 hissued
      obtain ⟨hcurrent, hmatches⟩ := Table.newest_eq_some hscore
      obtain ⟨run, hfind, hissue⟩ := (Option.any_eq_true _ _).1 hprospective
      obtain ⟨hrun, hpk⟩ := Table.find_eq_some.1 hfind
      simp only [Bool.and_eq_true, decide_eq_true_eq] at hmonth hvalid hengine hmatches
      simp only [prospectiveIssue, Bool.and_eq_true, decide_eq_true_eq] at hissue
      obtain ⟨⟨⟨⟨⟨⟨⟨⟨⟨hfirst, hday⟩, -⟩, -⟩, -⟩, -⟩, htrained⟩, -⟩, -⟩, -⟩ := hissue
      refine ⟨⟨attestation, hrow, hmonth, ?_⟩, issued, hmem, run, hrun, current, hcurrent,
        ⟨hengine.1, rfl, hfirst, hday⟩, ⟨hpk, htrained⟩, ⟨hmatches.1.1, hmatches.1.2, hmatches.2⟩,
        rfl, rfl, rfl⟩
      rw [hvalid.2, hmonth]
  · cases h

theorem gapless_recentEvidence (registry : Registry D F) (snapshot : SalesSnapshot D)
    (coverage : List (MonthlyCoverage D)) :
    Gapless EvidenceRow.month (recentEvidence W registry snapshot coverage) :=
  (gapless_contiguous _).suffix (List.drop_suffix _ _)

theorem length_recentEvidence (registry : Registry D F) (snapshot : SalesSnapshot D)
    (coverage : List (MonthlyCoverage D)) :
    (recentEvidence W registry snapshot coverage).length ≤ 12 := by
  simp only [recentEvidence, List.length_drop]
  omega

theorem monthEvidence_of_mem {registry reviewed : Registry D F} {snapshot : SalesSnapshot D}
    {row : EvidenceRow F}
    (h : row ∈ recentEvidence W registry snapshot (validCoverage W reviewed snapshot)) :
    MonthEvidence W registry reviewed snapshot row := by
  obtain ⟨issued, hissued, hentry⟩ := List.mem_filterMap.1
    (mem_of_mem_contiguous (List.mem_of_mem_drop h))
  exact monthEvidence_of_entry (List.mem_mergeSort.1 hissued) hentry

@[simp] theorem because_eq_nil {p : Prop} [Decidable p] {reason : String} :
    because p reason = [] ↔ ¬ p := by
  unfold because
  split
  · next hp => simp [hp]
  · next hp => simp [hp]

/-- An eligible gate rests on sound evidence. -/
theorem soundEvidence_of_eligible {registry reviewed : Registry D F} {now : Int}
    {run : MonthlyModelRun D F} {snapshot : SalesSnapshot D}
    (h : (qualityGate W registry now run snapshot (validCoverage W reviewed snapshot)).eligible
      = true) :
    SoundEvidence W registry reviewed snapshot
      (qualityGate W registry now run snapshot (validCoverage W reviewed snapshot)).prospective := by
  -- eligible means that no reason was found against the evidence
  have hreasons : evidenceReasons W snapshot
      (prospectiveEvidence W registry snapshot (validCoverage W reviewed snapshot)) = [] := by
    have hnil := List.isEmpty_iff.1 h
    simp only [qualityGate, List.append_eq_nil_iff] at hnil
    exact hnil.2
  have hlength := length_recentEvidence (W := W) registry snapshot
    (validCoverage W reviewed snapshot)
  have hgapless := gapless_recentEvidence (W := W) registry snapshot
    (validCoverage W reviewed snapshot)
  simp only [evidenceReasons] at hreasons
  -- too few periods would be a reason by itself
  split at hreasons
  · cases hreasons
  next hperiods =>
    simp only [List.append_eq_nil_iff, because_eq_nil, not_not] at hreasons
    obtain ⟨⟨hlast, hbelow⟩, hbase⟩ := hreasons
    have htwelve : (recentEvidence W registry snapshot
        (validCoverage W reviewed snapshot)).length = 12 := by
      simp only [prospectiveEvidence, score, List.length_map] at hperiods
      omega
    refine
      { rows := rfl
        twelve := by simpa only [qualityGate, prospectiveEvidence, List.length_map] using htwelve
        consecutive := (List.isChain_map EvidenceRow.month).2 hgapless
        last := hlast
        months := fun row hrow => monthEvidence_of_mem hrow
        metrics := rfl
        baseline := rfl
        accurate := ?_ }
    -- the reasons left: both errors exist, and the model's is not the worse one
    simp only [not_or] at hbase
    obtain ⟨hwape, hbaseline, hworse⟩ := hbase
    obtain ⟨wape, hwape⟩ := Option.ne_none_iff_exists'.1 hwape
    obtain ⟨base, hbaseline⟩ := Option.ne_none_iff_exists'.1 hbaseline
    refine ⟨wape, base, hwape, hbaseline, ?_, ?_⟩
    · rw [hwape] at hbelow
      exact not_le.1 fun hle => hbelow (decide_eq_true hle)
    · exact not_lt.1 fun hlt => hworse ⟨wape, hwape, base, hbaseline, hlt⟩

/-! ## Runs -/

/-- What happens: `refresh_models` up to its lock and from there on, `activate_model`, and any other
change of the tables (but the deployment and the promotions), of the recorded sales and of the
clock. -/
inductive LifecycleEvent (D F : Type)
  | prepares (call : Nat) (asOf : Option Int)
  | commits (call : Nat)
  | activates (modelId : Nat)
  | changes (ledger : List LedgerSale) (now : Int) (runs : Table (MonthlyModelRun D F))
      (coverage : Table (MonthlyCoverage D)) (issued : Table MonthlyIssuedForecast)
      (scores : Table (MonthlyForecastScore D))

/-- The world, and the refreshes that wait for the lock. -/
structure Maintenance (D F : Type) where
  world : World D F
  waiting : Nat → Option (Preparation D F)

def World.fresh (ledger : List LedgerSale) (now : Int) : World D F :=
  { registry :=
      { runs := .empty
        coverage := .empty
        issued := .empty
        scores := .empty
        deployment := none
        promotions := .empty }
    ledger := ledger
    now := now }

def Maintenance.start (ledger : List LedgerSale) (now : Int) : Maintenance D F :=
  { world := .fresh ledger now
    waiting := fun _ => none }

/-- The registry after a transaction: as it was when the transaction failed. -/
def settled {α : Type} (registry : Registry D F)
    (answer : Except LifecycleError (Registry D F × α)) : Registry D F :=
  match answer with
  | .ok (registry, _) => registry
  | .error _ => registry

variable (W)

def Maintenance.act (m : Maintenance D F) : LifecycleEvent D F → Maintenance D F
  | .prepares call asOf =>
      { m with
        waiting := Function.update m.waiting call (prepareRefresh W m.world asOf).toOption }
  | .commits call =>
      match m.waiting call with
      | none => m
      | some prepared =>
          { world :=
              { m.world with
                registry := settled m.world.registry (commitRefresh W m.world prepared) }
            waiting := Function.update m.waiting call none }
  | .activates modelId =>
      { m with
        world :=
          { m.world with
            registry := settled m.world.registry (activateModel W m.world modelId) } }
  | .changes ledger now runs coverage issued scores =>
      { m with
        world :=
          { registry :=
              { m.world.registry with
                runs := runs
                coverage := coverage
                issued := issued
                scores := scores }
            ledger := ledger
            now := now } }

/-- Each promotion names the run of the one before it as the previous run, and another run than
that. -/
def Chained : Option Nat → List (MonthlyPromotion F) → Prop
  | _, [] => True
  | previous, promotion :: rest =>
      promotion.previousRun = previous ∧ previous ≠ some promotion.modelRun
        ∧ Chained (some promotion.modelRun) rest

/-- The deployment and the trail of promotions. -/
structure PromotionTrail (registry : Registry D F) : Prop where
  deployed : registry.deployment
    = registry.promotions.rows.getLast?.map MonthlyPromotion.modelRun
  chained : Chained none registry.promotions.rows
  evidenced : ∀ promotion ∈ registry.promotions.rows, promotion.evidence.eligible = true
    ∧ ∃ registry reviewed snapshot, SoundEvidence W registry reviewed snapshot
      promotion.evidence.prospective

variable {W}

omit [LinearOrder F] in
/-- A chain can be continued after its last run. -/
theorem chained_append {previous : Option Nat} {promotions : List (MonthlyPromotion F)}
    {promotion : MonthlyPromotion F} (h : Chained previous promotions)
    (hprevious : promotion.previousRun
      = (promotions.getLast?.map MonthlyPromotion.modelRun).or previous)
    (hother : promotion.previousRun ≠ some promotion.modelRun) :
    Chained previous (promotions ++ [promotion]) := by
  induction promotions generalizing previous with
  | nil =>
      have hfirst : promotion.previousRun = previous := by simpa using hprevious
      exact ⟨hfirst, hfirst ▸ hother, trivial⟩
  | cons first rest ih =>
      obtain ⟨hfirst, hdiffers, hrest⟩ := h
      refine ⟨hfirst, hdiffers, ih hrest ?_⟩
      cases hlast : rest.getLast? with
      | none =>
          rw [List.getLast?_eq_none_iff.1 hlast] at hprevious
          simpa using hprevious
      | some last =>
          rw [List.getLast?_cons, hlast] at hprevious
          simpa using hprevious

omit [DecidableEq D] in
/-- A promotion continues the trail. -/
theorem trail_promote {registry evidenced reviewed : Registry D F} {snapshot : SalesSnapshot D}
    {gate : Gate F} (h : PromotionTrail W registry)
    (hgate : gate.eligible = true → SoundEvidence W evidenced reviewed snapshot gate.prospective)
    (now : Int) (run : MonthlyModelRun D F) (reason : String) :
    PromotionTrail W (promote registry now run gate reason).1 := by
  unfold promote
  split
  · exact h
  next heligible =>
    split
    · exact h
    next hother =>
      have heligible : gate.eligible = true := by simpa using heligible
      refine ⟨by simp, chained_append h.chained ?_ hother, ?_⟩
      · rw [Option.or_none]
        exact h.deployed
      · intro promotion hpromotion
        rcases List.mem_append.1 hpromotion with hold | hnew
        · exact h.evidenced promotion hold
        · rw [List.mem_singleton.1 hnew]
          exact ⟨heligible, evidenced, reviewed, snapshot, hgate heligible⟩

/-- Recording a refresh does not touch the deployment and the promotions. -/
theorem trail_recordRefresh {world : World D F} {prepared : Preparation D F}
    {registry : Registry D F} {run : MonthlyModelRun D F} {created issued : Bool} {scored : Nat}
    (hrecord : recordRefresh W world prepared = .ok (registry, run, created, scored, issued))
    (h : PromotionTrail W world.registry) : PromotionTrail W registry := by
  unfold recordRefresh at hrecord
  obtain ⟨checked, -, hrecord⟩ := bind_eq_ok.1 hrecord
  obtain ⟨-, hrecord⟩ := require_bind_eq_ok.1 hrecord
  obtain ⟨⟨runs, run, created⟩, -, hrecord⟩ := bind_eq_ok.1 hrecord
  obtain ⟨⟨issues, issued⟩, -, hrecord⟩ := bind_eq_ok.1 hrecord
  cases pure_eq_ok.1 hrecord
  exact ⟨h.deployed, h.chained, h.evidenced⟩

theorem trail_commitRefresh {world : World D F} {prepared : Preparation D F}
    {reviewed : Registry D F}
    (hcoverage : prepared.coverage = validCoverage W reviewed prepared.snapshot)
    (h : PromotionTrail W world.registry) :
    PromotionTrail W (settled world.registry (commitRefresh W world prepared)) := by
  cases hcommit : commitRefresh W world prepared with
  | error e => exact h
  | ok answer =>
      unfold commitRefresh at hcommit
      obtain ⟨⟨registry, run, created, scored, issued⟩, hrecord, hcommit⟩ :=
        bind_eq_ok.1 hcommit
      cases pure_eq_ok.1 hcommit
      have hgate : (qualityGate W registry world.now run prepared.snapshot
          prepared.coverage).eligible = true →
          SoundEvidence W registry reviewed prepared.snapshot (qualityGate W registry world.now run
            prepared.snapshot prepared.coverage).prospective := by
        rw [hcoverage]
        exact soundEvidence_of_eligible
      exact trail_promote (trail_recordRefresh hrecord h) hgate _ run _

theorem trail_activateModel {world : World D F} {modelId : Nat}
    (h : PromotionTrail W world.registry) :
    PromotionTrail W (settled world.registry (activateModel W world modelId)) := by
  cases hactivate : activateModel W world modelId with
  | error e => exact h
  | ok answer =>
      unfold activateModel at hactivate
      obtain ⟨snapshot, -, hactivate⟩ := bind_eq_ok.1 hactivate
      obtain ⟨run, -, hactivate⟩ := bind_eq_ok.1 hactivate
      obtain ⟨-, hactivate⟩ := require_bind_eq_ok.1 hactivate
      obtain ⟨-, hactivate⟩ := require_bind_eq_ok.1 hactivate
      obtain ⟨-, hactivate⟩ := require_bind_eq_ok.1 hactivate
      cases pure_eq_ok.1 hactivate
      exact trail_promote h soundEvidence_of_eligible _ run _

omit [LinearOrder F] in
/-- The coverage a refresh takes to the lock was valid for its snapshot. -/
theorem prepareRefresh_coverage {world : World D F} {asOf : Option Int}
    {prepared : Preparation D F} (h : prepareRefresh W world asOf = .ok prepared) :
    prepared.coverage = validCoverage W world.registry prepared.snapshot := by
  unfold prepareRefresh at h
  obtain ⟨snapshot, -, h⟩ := bind_eq_ok.1 h
  cases hrun : world.registry.runs.newest (matchesLookup snapshot
      (coverageRevision W (validCoverage W world.registry snapshot))) with
  | some run =>
      simp only [hrun] at h
      cases pure_eq_ok.1 h
      rfl
  | none =>
      simp only [hrun] at h
      obtain ⟨findings, -, h⟩ := bind_eq_ok.1 h
      cases pure_eq_ok.1 h
      rfl

variable (W)

/-- What holds between two events. -/
structure LifecycleInvariant (m : Maintenance D F) : Prop where
  trail : PromotionTrail W m.world.registry
  waiting : ∀ call prepared, m.waiting call = some prepared →
    ∃ reviewed, prepared.coverage = validCoverage W reviewed prepared.snapshot

variable {W}

theorem lifecycleInvariant_start (ledger : List LedgerSale) (now : Int) :
    LifecycleInvariant W (Maintenance.start ledger now) := by
  refine ⟨⟨rfl, trivial, ?_⟩, ?_⟩
  · intro promotion hpromotion
    cases hpromotion
  · intro call prepared hcall
    cases hcall

theorem lifecycleInvariant_act {m : Maintenance D F} (h : LifecycleInvariant W m) (e : LifecycleEvent D F) :
    LifecycleInvariant W (m.act W e) := by
  cases e with
  | prepares call asOf =>
      -- preparing reads the world and changes only its own waiting call
      refine ⟨h.trail, ?_⟩
      intro call' prepared hcall
      by_cases hsame : call' = call
      · subst hsame
        simp only [Maintenance.act, Function.update_self] at hcall
        cases hprepare : prepareRefresh W m.world asOf with
        | error e =>
            rw [hprepare] at hcall
            cases hcall
        | ok result =>
            rw [hprepare] at hcall
            cases hcall
            exact ⟨m.world.registry, prepareRefresh_coverage hprepare⟩
      · simp only [Maintenance.act, Function.update_of_ne hsame] at hcall
        exact h.waiting call' prepared hcall
  | commits call =>
      cases hcall : m.waiting call with
      | none => simpa only [Maintenance.act, hcall] using h
      | some prepared =>
          -- the coverage of a prepared call was read from some registry before
          obtain ⟨reviewed, hcoverage⟩ := h.waiting call prepared hcall
          simp only [Maintenance.act, hcall]
          refine ⟨trail_commitRefresh hcoverage h.trail, ?_⟩
          intro call' prepared' hcall'
          by_cases hsame : call' = call
          · simp [hsame] at hcall'
          · simp only [Function.update_of_ne hsame] at hcall'
            exact h.waiting call' prepared' hcall'
  | activates modelId => exact ⟨trail_activateModel h.trail, h.waiting⟩
  | changes ledger now runs coverage issued scores =>
      exact ⟨⟨h.trail.deployed, h.trail.chained, h.trail.evidenced⟩, h.waiting⟩

theorem lifecycleInvariant_run {m : Maintenance D F} (h : LifecycleInvariant W m)
    (events : List (LifecycleEvent D F)) : LifecycleInvariant W (events.foldl (Maintenance.act W) m) := by
  induction events generalizing m with
  | nil => exact h
  | cons e rest ih => exact ih (lifecycleInvariant_act h e)

variable (W)

/-- Whatever the tables hold, the gate is eligible only on sound evidence. -/
def GateSound : Prop :=
  ∀ (registry reviewed : Registry D F) (now : Int) (run : MonthlyModelRun D F)
    (snapshot : SalesSnapshot D),
    (qualityGate W registry now run snapshot (validCoverage W reviewed snapshot)).eligible = true →
      SoundEvidence W registry reviewed snapshot
        (qualityGate W registry now run snapshot (validCoverage W reviewed snapshot)).prospective

/-- After every sequence of refreshes, activations and other changes the deployment is the run of the
latest promotion and the promotions form a chain, made on sound evidence. -/
theorem promotion_gate (ledger : List LedgerSale) (now : Int)
    (events : List (LifecycleEvent D F)) :
    PromotionTrail W (events.foldl (Maintenance.act W) (.start ledger now)).world.registry
      ∧ GateSound W := by
  refine ⟨(lifecycleInvariant_run (lifecycleInvariant_start ledger now) events).trail, ?_⟩
  intro registry reviewed now run snapshot heligible
  exact soundEvidence_of_eligible heligible

end PromotionGate

end Forecasting
end RosarioDairy
