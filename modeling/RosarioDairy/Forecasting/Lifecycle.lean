import RosarioDairy.Foundations.Checked
import RosarioDairy.Foundations.Table
import RosarioDairy.Forecasting.Learning

/-!
# Lifecycle — issued monthly forecasts, their evidence and promotions

A monthly model is fitted outside the lock, and saved, scored, issued and possibly promoted under it.
What a fit computes is a parameter; everything that decides about issuing, scoring, eligibility and
promotion is here.  Digests are functions of what they are taken of.
-/

namespace RosarioDairy
namespace Forecasting

open Foundations

def engineVersion : String := "regular-monthly-sarima-v2"

def minMonths : Nat := 36

/-! ## Rows -/

structure NextMonth (F : Type) where
  date : Int
  predictedRevenue : F
  lowerBound : F
  upperBound : F
  sampleCount : Nat
  deriving DecidableEq, Repr

structure RetrospectiveGate where
  below15Percent : Bool
  noWorseThanBaseline : Bool
  deriving DecidableEq, Repr

/-- The findings of a training run, as far as they are read again; a missing entry is `none`. -/
structure Findings (D F : Type) where
  status : String
  artifact : Option (Artifact F)
  artifactSha256 : Option D
  selectedCandidate : Option String
  selectedBaseline : Option String
  trainingEnd : Option Int
  nextMonth : Option (NextMonth F)
  retrospectiveGate : Option RetrospectiveGate
  deriving DecidableEq, Repr

structure MonthlyModelRun (D F : Type) where
  pk : Nat
  engineVersion : String
  sourceRevision : D
  coverageRevision : D
  cutoff : Int
  trainedThrough : Option Int
  status : String
  findings : Findings D F
  createdAt : Int
  deriving DecidableEq, Repr

structure MonthlyCoverage (D : Type) where
  pk : Nat
  month : Int
  sourceRevision : D
  confirmedZero : Bool
  deriving DecidableEq, Repr

structure MonthlyIssuedForecast where
  pk : Nat
  modelRun : Nat
  engineVersion : String
  targetMonth : Int
  value : Int
  lowerBound : Int
  upperBound : Int
  baselineValue : Int
  issuedAt : Int
  deriving DecidableEq, Repr

structure MonthlyForecastScore (D : Type) where
  pk : Nat
  issued : Nat
  actualRevision : D
  coverageVerified : Bool
  actual : Int
  error : Int
  absoluteError : Int
  baselineAbsoluteError : Int
  createdAt : Int
  deriving DecidableEq, Repr

/-- One month of prospective evidence. -/
structure EvidenceRow (F : Type) where
  month : Int
  actual : F
  predicted : F
  baseline : F
  deriving DecidableEq, Repr

structure Evidence (F : Type) where
  metrics : Score F
  baselineMetrics : Score F
  months : List Int
  rows : List (EvidenceRow F)
  deriving DecidableEq, Repr

structure Gate (F : Type) where
  reasons : List String
  missingCoverageMonths : List Int
  prospective : Evidence F
  deriving DecidableEq, Repr

/-- `'eligible': not reasons` -/
def Gate.eligible {F : Type} (gate : Gate F) : Bool := gate.reasons.isEmpty

structure MonthlyPromotion (F : Type) where
  pk : Nat
  modelRun : Nat
  previousRun : Option Nat
  reason : String
  evidence : Gate F
  createdAt : Int
  deriving DecidableEq, Repr

instance (D F : Type) : Row (MonthlyModelRun D F) := ⟨MonthlyModelRun.pk⟩
instance (D : Type) : Row (MonthlyCoverage D) := ⟨MonthlyCoverage.pk⟩
instance : Row MonthlyIssuedForecast := ⟨MonthlyIssuedForecast.pk⟩
instance (D : Type) : Row (MonthlyForecastScore D) := ⟨MonthlyForecastScore.pk⟩
instance (F : Type) : Row (MonthlyPromotion F) := ⟨MonthlyPromotion.pk⟩

/-- The tables of the lifecycle; `deployment` is the model run of the row of scope
`regular-monthly`, the only one there is. -/
structure Registry (D F : Type) where
  runs : Table (MonthlyModelRun D F)
  coverage : Table (MonthlyCoverage D)
  issued : Table MonthlyIssuedForecast
  scores : Table (MonthlyForecastScore D)
  deployment : Option Nat
  promotions : Table (MonthlyPromotion F)

/-- The tables, the recorded sales and the clock. -/
structure World (D F : Type) where
  registry : Registry D F
  ledger : List LedgerSale
  now : Int

inductive LifecycleError
  | futureDate
  | sourceChanged
  | checksumFailed
  | staleModel
  | withheld (reasons : List String)
  | doesNotExist
  | integrityError
  | trainingFailed
  deriving DecidableEq, Repr

/-- What the lifecycle is given: the source of snapshots, floating-point arithmetic, the names of a
model's parameters, the digests, and the training code, which may raise an error. -/
structure Workshop (D F : Type) where
  source : Source D
  arithmetic : Arithmetic F
  parameterNames : String → List String
  monthDigest : List MonthEntry → D
  coverageDigest : List (Int × D × Bool) → D
  artifactDigest : Artifact F → D
  train : List (MonthRow F) → Except LifecycleError (Findings D F)
  predictBaseline : String → List (MonthRow F) → Except LifecycleError F

section Lifecycle

variable {D F : Type} [DecidableEq D] [LinearOrder F] (W : Workshop D F)

def localDay (now : Int) : Int := W.source.zone.localDate now

def revisionOf (snapshot : SalesSnapshot D) (month : Int) : D :=
  monthRevision W.monthDigest snapshot month

/-- `_snapshot` of the lifecycle: the cutoff is the first of the month. -/
def lifecycleSnapshot (world : World D F) (asOf : Option Int) :
    Except LifecycleError (SalesSnapshot D) := do
  let today := localDay W world.now
  let day := asOf.getD today
  require (day ≤ today) .futureDate
  pure (loadSnapshot W.source world.ledger (monthStart day))

/-! ## Coverage -/

/-- The coverage rows of completed months that still describe what is recorded. -/
def validCoverage (registry : Registry D F) (snapshot : SalesSnapshot D) :
    List (MonthlyCoverage D) :=
  registry.coverage.rows.filter fun row =>
    decide (row.month < snapshot.asOf) && decide (row.sourceRevision = revisionOf W snapshot row.month)

def coverageRevision (coverage : List (MonthlyCoverage D)) : D :=
  W.coverageDigest ((coverage.mergeSort fun row row' => decide (row.month ≤ row'.month)).map
    fun row => (row.month, row.sourceRevision, row.confirmedZero))

def confirmedZeroMonths (coverage : List (MonthlyCoverage D)) : List Int :=
  (coverage.filter MonthlyCoverage.confirmedZero).map MonthlyCoverage.month

def coverageRows (snapshot : SalesSnapshot D) (coverage : List (MonthlyCoverage D)) :
    List (MonthRow F) :=
  monthlyRows W.arithmetic snapshot (confirmedZeroMonths coverage)

/-- `month in coverage` -/
def covers (coverage : List (MonthlyCoverage D)) (month : Int) : Bool :=
  coverage.any fun row => decide (row.month = month)

/-! ## Evidence -/

/-- The artifact of a run is the accepted state that its findings select and sign. -/
def signedArtifact (findings : Findings D F) (artifact : Artifact F) : Bool :=
  isSarimaArtifact W.arithmetic W.parameterNames artifact
    && decide (findings.selectedCandidate = some artifact.name)
    && decide (some (W.artifactDigest artifact) = findings.artifactSha256)

/-- `_prospective_issue`, of an issue and its run. -/
def prospectiveIssue (issued : MonthlyIssuedForecast) (run : MonthlyModelRun D F) : Bool :=
  decide ((Day.toYmd issued.targetMonth).day = 1)
    && decide (localDay W issued.issuedAt = issued.targetMonth)
    && decide (run.createdAt ≤ issued.issuedAt) && decide (run.cutoff = issued.targetMonth)
    && decide (run.status = "research_candidate")
    && decide (run.findings.status = "research_candidate")
    && decide (run.trainedThrough = some (monthEnd (shiftMonth issued.targetMonth (-1))))
    && decide (run.engineVersion = issued.engineVersion)
    && run.findings.artifact.any (fun artifact =>
      signedArtifact W run.findings artifact && decide (minMonths ≤ artifact.trainingMonths))
    && decide (run.findings.nextMonth.map NextMonth.date = some issued.targetMonth)

def isProspective (registry : Registry D F) (issued : MonthlyIssuedForecast) : Bool :=
  (registry.runs.find issued.modelRun).any (prospectiveIssue W issued)

/-- The issues of this engine for completed months. -/
def closedIssues (registry : Registry D F) (snapshot : SalesSnapshot D) :
    List MonthlyIssuedForecast :=
  registry.issued.rows.filter fun issued =>
    decide (issued.engineVersion = engineVersion) && decide (issued.targetMonth < snapshot.asOf)

/-- The recorded regular revenue of a month, or zero where that has been confirmed. -/
def scoredActual (snapshot : SalesSnapshot D) (coverage : List (MonthlyCoverage D)) (month : Int) :
    Option Int :=
  if snapshot.sales.any (fun sale =>
      decide (sale.segment = .regular) && decide (monthStart sale.day = month)) then
    some (regularRevenue snapshot month)
  else if month ∈ confirmedZeroMonths coverage then some 0
  else none

/-- One round of the loop of `_score_issued`. -/
def scoreIssue (registry : Registry D F) (snapshot : SalesSnapshot D)
    (coverage : List (MonthlyCoverage D)) (now : Int)
    (scores : Table (MonthlyForecastScore D) × Nat) (issued : MonthlyIssuedForecast) :
    Table (MonthlyForecastScore D) × Nat :=
  let month := issued.targetMonth
  match scoredActual snapshot coverage month with
  | none => scores
  | some actual =>
      if isProspective W registry issued = false ∨ actual < 0 then
        scores
      else
        let revision := revisionOf W snapshot month
        let verified := covers coverage month
        if scores.1.rows.any (fun score => decide (score.issued = issued.pk)
            && decide (score.actualRevision = revision)
            && decide (score.coverageVerified = verified)) then
          scores
        else
          (scores.1.create fun pk =>
            { pk := pk
              issued := issued.pk
              actualRevision := revision
              coverageVerified := verified
              actual := actual
              error := issued.value - actual
              absoluteError := |issued.value - actual|
              baselineAbsoluteError := |issued.baselineValue - actual|
              createdAt := now }, scores.2 + 1)

/-- `_score_issued`: the scores afterwards, and how many are new. -/
def scoreIssued (registry : Registry D F) (snapshot : SalesSnapshot D)
    (coverage : List (MonthlyCoverage D)) (now : Int) : Table (MonthlyForecastScore D) × Nat :=
  (closedIssues registry snapshot).foldl (scoreIssue W registry snapshot coverage now)
    (registry.scores, 0)

/-- The score of an issue under verified coverage at the current revision of its month. -/
def currentScore (registry : Registry D F) (snapshot : SalesSnapshot D)
    (issued : MonthlyIssuedForecast) : Option (MonthlyForecastScore D) :=
  registry.scores.newest fun score => decide (score.issued = issued.pk) && score.coverageVerified
    && decide (score.actualRevision = revisionOf W snapshot issued.targetMonth)

/-- What an issue contributes to the evidence. -/
def evidenceEntry (registry : Registry D F) (snapshot : SalesSnapshot D)
    (coverage : List (MonthlyCoverage D)) (issued : MonthlyIssuedForecast) :
    Option (EvidenceRow F) :=
  if covers coverage issued.targetMonth && isProspective W registry issued then
    (currentScore W registry snapshot issued).map fun score =>
      { month := issued.targetMonth
        actual := W.arithmetic.ofCents score.actual
        predicted := W.arithmetic.ofCents issued.value
        baseline := W.arithmetic.ofCents issued.baselineValue }
  else none

def EvidenceRow.asPrediction (row : EvidenceRow F) : Compared F :=
  { actual := row.actual
    predicted := row.predicted }

def EvidenceRow.asBaseline (row : EvidenceRow F) : Compared F :=
  { actual := row.actual
    predicted := row.baseline }

/-- `contiguous[-12:]` of the entries in the order of their months. -/
def recentEvidence (registry : Registry D F) (snapshot : SalesSnapshot D)
    (coverage : List (MonthlyCoverage D)) : List (EvidenceRow F) :=
  let issues := (closedIssues registry snapshot).mergeSort fun issued issued' =>
    decide (issued.targetMonth ≤ issued'.targetMonth)
  let stretch := contiguous EvidenceRow.month
    (issues.filterMap (evidenceEntry W registry snapshot coverage))
  stretch.drop (stretch.length - 12)

def prospectiveEvidence (registry : Registry D F) (snapshot : SalesSnapshot D)
    (coverage : List (MonthlyCoverage D)) : Evidence F :=
  let recent := recentEvidence W registry snapshot coverage
  { metrics := score W.arithmetic (recent.map EvidenceRow.asPrediction)
    baselineMetrics := score W.arithmetic (recent.map EvidenceRow.asBaseline)
    months := recent.map EvidenceRow.month
    rows := recent }

/-! ## The gate -/

/-- A reason that is given when `p` holds. -/
def because (p : Prop) [Decidable p] (reason : String) : List String := if p then [reason] else []

def targetPercent : F := W.arithmetic.ofNat 15

/-- The reasons that the prospective evidence gives. -/
def evidenceReasons (snapshot : SalesSnapshot D) (evidence : Evidence F) : List String :=
  let metrics := evidence.metrics
  let baseline := evidence.baselineMetrics
  if metrics.periods < 12 then
    ["needs_12_prospective_reviewed_months"]
  else
    because (evidence.months.getLast? ≠ some (shiftMonth snapshot.asOf (-1)))
        "prospective_evidence_is_stale"
      ++ because (metrics.wapePercent.all (fun wape => decide (targetPercent W ≤ wape)) = true)
        "prospective_error_not_below_15_percent"
      ++ because (metrics.wapePercent = none ∨ baseline.wapePercent = none
          ∨ ∃ wape ∈ metrics.wapePercent, ∃ base ∈ baseline.wapePercent, base < wape)
        "prospective_model_worse_than_baseline"

/-- The twelve months up to the last one a run was trained on that have no coverage. -/
def missingCoverage (run : MonthlyModelRun D F) (coverage : List (MonthlyCoverage D)) : List Int :=
  match run.trainedThrough with
  | none => []
  | some day =>
      ((List.range 12).map fun n => shiftMonth (monthStart day) (-(n : Int))).filter fun month =>
        !covers coverage month

def qualityGate (registry : Registry D F) (now : Int) (run : MonthlyModelRun D F)
    (snapshot : SalesSnapshot D) (coverage : List (MonthlyCoverage D)) : Gate F :=
  let findings := run.findings
  let evidence := prospectiveEvidence W registry snapshot coverage
  let validArtifact := findings.artifact.any
    (isSarimaArtifact W.arithmetic W.parameterNames)
  let validHash := findings.artifact.any fun artifact =>
    decide (some (W.artifactDigest artifact) = findings.artifactSha256)
  let missing := missingCoverage run coverage
  { reasons :=
      because (findings.status ≠ "research_candidate") "insufficient_or_invalid_training_history"
        ++ because (validHash = false ∨ validArtifact = false) "missing_or_invalid_fitted_artifact"
        ++ because (run.engineVersion ≠ engineVersion ∨ validArtifact = false
            ∨ findings.selectedCandidate ≠ findings.artifact.map Artifact.name)
          "primary_model_must_be_sarima"
        ++ because (findings.nextMonth.map NextMonth.date ≠ some (monthStart (localDay W now)))
          "stale_training_data"
        ++ because (missing ≠ [] ∨ run.trainedThrough = none) "unverified_ledger_coverage"
        ++ because (findings.retrospectiveGate.any (fun gate =>
            gate.below15Percent && gate.noWorseThanBaseline) = false)
          "retrospective_accuracy_gate_failed"
        ++ evidenceReasons W snapshot evidence
    missingCoverageMonths := missing
    prospective := evidence }

/-! ## Promotion -/

/-- `_promote` -/
def promote (registry : Registry D F) (now : Int) (run : MonthlyModelRun D F) (gate : Gate F)
    (reason : String) : Registry D F × Bool :=
  if gate.eligible = false then
    (registry, false)
  else if registry.deployment = some run.pk then
    (registry, false)
  else
    ({ registry with
        promotions := registry.promotions.create fun pk =>
          { pk := pk
            modelRun := run.pk
            previousRun := registry.deployment
            reason := reason
            evidence := gate
            createdAt := now }
        deployment := some run.pk }, true)

/-! ## Refreshing and activating -/

/-- What `refresh_models` has computed when it takes the lock. -/
structure Preparation (D F : Type) where
  requested : Int
  snapshot : SalesSnapshot D
  coverage : List (MonthlyCoverage D)
  run : Option (MonthlyModelRun D F)
  findings : Option (Findings D F)

def matchesLookup (snapshot : SalesSnapshot D) (coverageHash : D) (run : MonthlyModelRun D F) :
    Bool :=
  decide (run.engineVersion = engineVersion) && decide (run.sourceRevision = snapshot.revision)
    && decide (run.coverageRevision = coverageHash) && decide (run.cutoff = snapshot.asOf)

/-- The part of `refresh_models` before the lock. -/
def prepareRefresh (world : World D F) (asOf : Option Int) :
    Except LifecycleError (Preparation D F) := do
  let requested := asOf.getD (localDay W world.now)
  let snapshot ← lifecycleSnapshot W world (some requested)
  let coverage := validCoverage W world.registry snapshot
  let run := world.registry.runs.newest (matchesLookup snapshot (coverageRevision W coverage))
  match run with
  | some run =>
      pure
        { requested := requested
          snapshot := snapshot
          coverage := coverage
          run := some run
          findings := none }
  | none => do
      let findings ← W.train (coverageRows W snapshot coverage)
      pure
        { requested := requested
          snapshot := snapshot
          coverage := coverage
          run := none
          findings := some findings }

/-- The run of a refresh: the one found before, or `get_or_create` under the lock. -/
def obtainRun (registry : Registry D F) (now : Int) (prepared : Preparation D F) :
    Except LifecycleError (Table (MonthlyModelRun D F) × MonthlyModelRun D F × Bool) :=
  let coverageHash := coverageRevision W prepared.coverage
  match prepared.run, prepared.findings with
  | some run, _ => .ok (registry.runs, run, false)
  | none, none => .error .trainingFailed
  | none, some findings =>
      match registry.runs.newest (matchesLookup prepared.snapshot coverageHash) with
      | some run => .ok (registry.runs, run, false)
      | none =>
          let row (pk : Nat) : MonthlyModelRun D F :=
            { pk := pk
              engineVersion := engineVersion
              sourceRevision := prepared.snapshot.revision
              coverageRevision := coverageHash
              cutoff := prepared.snapshot.asOf
              trainedThrough := findings.trainingEnd.map monthEnd
              status := findings.status
              findings := findings
              createdAt := now }
          .ok (registry.runs.create row, row registry.runs.next, true)

/-- The issue of a refresh on the first of a month. -/
def issueForecast (registry : Registry D F) (now : Int) (prepared : Preparation D F)
    (run : MonthlyModelRun D F) : Except LifecycleError (Table MonthlyIssuedForecast × Bool) := do
  match run.findings.nextMonth, run.findings.artifact with
  | some point, some artifact =>
      -- issued only on the day asked for, which must be the first of the month predicted
      if run.status = "research_candidate" ∧ prepared.requested = localDay W now
          ∧ point.date = prepared.requested then
        -- the artifact must be the one that was trained
        require (some (W.artifactDigest artifact) = run.findings.artifactSha256) .checksumFailed
        let baseline ← W.predictBaseline (run.findings.selectedBaseline.getD "")
          (coverageRows W prepared.snapshot prepared.coverage)
        let value := W.arithmetic.toCents point.predictedRevenue
        let lower := W.arithmetic.toCents point.lowerBound
        let upper := W.arithmetic.toCents point.upperBound
        -- a month is issued once for each engine; a second call finds the first one
        if registry.issued.rows.any (fun issued => decide (issued.engineVersion = engineVersion)
            && decide (issued.targetMonth = prepared.requested)) then
          pure (registry.issued, false)
        else do
          -- the check constraint of the table
          require (0 ≤ value ∧ 0 ≤ lower ∧ lower ≤ value ∧ value ≤ upper) .integrityError
          pure (registry.issued.create fun pk =>
            { pk := pk
              modelRun := run.pk
              engineVersion := engineVersion
              targetMonth := prepared.requested
              value := value
              lowerBound := lower
              upperBound := upper
              baselineValue := W.arithmetic.toCents baseline
              issuedAt := now }, true)
      else
        pure (registry.issued, false)
  | _, _ => pure (registry.issued, false)

/-- The result dictionary of `refresh_models`. -/
structure Refreshed (F : Type) where
  created : Bool
  newScores : Nat
  issued : Bool
  promoted : Bool
  qualityGate : Gate F

/-- What the transaction of `refresh_models` records before it looks at the gate: the run, its scores
and its issue. -/
def recordRefresh (world : World D F) (prepared : Preparation D F) :
    Except LifecycleError (Registry D F × MonthlyModelRun D F × Bool × Nat × Bool) := do
  let registry := world.registry
  let checked ← lifecycleSnapshot W world (some prepared.requested)
  let checkedCoverage := validCoverage W registry checked
  require (checked.revision = prepared.snapshot.revision
    ∧ coverageRevision W checkedCoverage = coverageRevision W prepared.coverage) .sourceChanged
  let (runs, run, created) ← obtainRun W registry world.now prepared
  let registry := { registry with runs := runs }
  let (scores, scored) := scoreIssued W registry prepared.snapshot prepared.coverage world.now
  let registry := { registry with scores := scores }
  let (issues, issued) ← issueForecast W registry world.now prepared run
  pure ({ registry with issued := issues }, run, created, scored, issued)

/-- The transaction of `refresh_models`. -/
def commitRefresh (world : World D F) (prepared : Preparation D F) :
    Except LifecycleError (Registry D F × Refreshed F) := do
  let (registry, run, created, scored, issued) ← recordRefresh W world prepared
  let gate := qualityGate W registry world.now run prepared.snapshot prepared.coverage
  let (promotedRegistry, promoted) :=
    promote registry world.now run gate "automatic_quality_gate"
  pure (promotedRegistry,
    { created := created
      newScores := scored
      issued := issued
      promoted := promoted
      qualityGate := gate })

/-- `activate_model` -/
def activateModel (world : World D F) (modelId : Nat) :
    Except LifecycleError (Registry D F × Bool) := do
  let registry := world.registry
  let snapshot ← lifecycleSnapshot W world none
  let coverage := validCoverage W registry snapshot
  let run ← demand (registry.runs.find modelId) .doesNotExist
  require (run.engineVersion = engineVersion) .doesNotExist
  require (run.sourceRevision = snapshot.revision
    ∧ run.coverageRevision = coverageRevision W coverage ∧ run.cutoff = snapshot.asOf) .staleModel
  let gate := qualityGate W registry world.now run snapshot coverage
  require (gate.eligible = true) (.withheld gate.reasons)
  pure (promote registry world.now run gate "operator_activation_or_rollback")

end Lifecycle

end Forecasting
end RosarioDairy
