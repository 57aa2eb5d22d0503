import RosarioDairy.Forecasting.PromotionGate
import RosarioDairy.Text

/-!
# Serving — what requests are told about the monthly forecast

`model_context` looks for the run that was trained on the sales and the coverage as they are now;
`report` and the monthly chart publish its issue of the current month only where the quality gate lets it
pass and it is the deployed run.  Requests never train a model.  `attest_coverage` is here as well, so
that all that writes the tables of the lifecycle is.
-/

namespace RosarioDairy
namespace Forecasting

open Foundations

/-- What `model_context` returns. -/
structure ModelContext (D F : Type) where
  snapshot : SalesSnapshot D
  run : Option (MonthlyModelRun D F)
  latest : Option (MonthlyModelRun D F)
  gate : Option (Gate F)
  issued : Option MonthlyIssuedForecast
  status : String

/-- `issued_point` -/
structure ForecastPoint where
  date : Int
  endDate : Int
  predictedRevenue : Int
  lowerBound : Int
  upperBound : Int
  trainedThrough : Option Int
  rangeKind : String
  pointKind : String
  sampleCount : Option Nat
  deriving DecidableEq, Repr

/-- The payload of `report`, as far as it depends on anything. -/
structure ForecastReport (D F : Type) where
  horizonDays : Nat
  period : String
  stage : String
  status : String
  modelStatus : Option String
  qualityStatus : Option String
  statusMessage : String
  availablePeriods : List String
  modelId : Option Nat
  method : String
  qualityGate : Option (Gate F)
  forecast : List ForecastPoint
  regularStatus : String
  predictedRevenue : Option Int
  dataEnd : Option Int
  currentSourceRevision : Option D
  warnings : List String

inductive ServingError
  | invalidScopeOrPeriod
  | unsupportedChartPeriod
  | lifecycle (e : LifecycleError)
  deriving DecidableEq, Repr

section Serving

variable {D F : Type} [DecidableEq D] [LinearOrder F] (W : Workshop D F)

/-- The chain of conditions that ends `model_context`. -/
def modelStatus (registry : Registry D F) (run latest : Option (MonthlyModelRun D F))
    (gate : Option (Gate F)) (issued : Option MonthlyIssuedForecast) : String :=
  match run with
  | none => if latest.isSome then "refresh_required" else "training_required"
  | some run =>
      if run.status ≠ "research_candidate" then run.status
      else if gate.any (fun gate => gate.reasons.contains "stale_training_data") then "stale_data"
      else if gate.any Gate.eligible ∧ registry.deployment = some run.pk ∧ issued.isSome then "ready"
      else "research_only"

/-- `model_context` -/
def modelContext (world : World D F) : Except LifecycleError (ModelContext D F) := do
  let snapshot ← lifecycleSnapshot W world none
  let registry := world.registry
  let coverage := validCoverage W registry snapshot
  let run := registry.runs.newest (matchesLookup snapshot (coverageRevision W coverage))
  let latest := run.or (registry.runs.newest fun run => decide (run.engineVersion = engineVersion))
  let gate := run.map fun run => qualityGate W registry world.now run snapshot coverage
  let issued := run.bind fun run => registry.issued.rows.find? fun issued =>
    decide (issued.modelRun = run.pk) &&
      decide (issued.targetMonth = monthStart (localDay W world.now))
  pure
    { snapshot := snapshot
      run := run
      latest := latest
      gate := gate
      issued := issued
      status := modelStatus registry run latest gate issued }

omit [DecidableEq D] [LinearOrder F] in
def issuedPoint (run : MonthlyModelRun D F) (issued : MonthlyIssuedForecast) : ForecastPoint :=
  { date := issued.targetMonth
    endDate := monthEnd issued.targetMonth
    predictedRevenue := issued.value
    lowerBound := issued.lowerBound
    upperBound := issued.upperBound
    trainedThrough := run.trainedThrough
    rangeKind := "historical_absolute_error_band"
    pointKind := "regular_monthly_revenue"
    sampleCount := run.findings.nextMonth.map NextMonth.sampleCount }

/-- The points that are published: one, or none. -/
def publishedPoints (context : ModelContext D F) : List ForecastPoint :=
  match context.run, context.issued with
  | some run, some issued => if context.status = "ready" then [issuedPoint run issued] else []
  | _, _ => []

def statusMessage (status : String) : String :=
  if status = "stale_data" then
    "A SARIMA research model is fitted, but actual sales stop before the month needed for a current forecast. Demo data is excluded."
  else if status = "refresh_required" then
    "Actual sales or coverage changed; run offline model maintenance before using a forecast."
  else if status = "research_only" then
    "A fitted research model is available; coverage and prospective accuracy gates have not cleared publication."
  else if status = "ready" then
    "Approved one-month-ahead forecast for regular dairy revenue; feeding is excluded."
  else "More complete regular-sales history is required to train a validated model."

/-- The payload while there is no model. -/
def emptyReport (snapshot : SalesSnapshot D) (period : String) : ForecastReport D F :=
  { horizonDays := if period = "weekly" then 7 else if period = "monthly" then 30 else 365
    period := period
    stage := "pattern_investigation"
    status := "pending_update"
    modelStatus := none
    qualityStatus := none
    statusMessage := "The previous engine has been retired. The replacement is investigating regular-sales patterns; no new prediction model has been validated."
    availablePeriods := ["weekly", "monthly", "yearly"]
    modelId := none
    method := "unavailable"
    qualityGate := none
    forecast := []
    regularStatus := "not_evaluated"
    predictedRevenue := none
    dataEnd := (snapshot.sales.map RecordedSale.day).max?
    currentSourceRevision := none
    warnings :=
      ["Historical ledger coverage must be reviewed before production publication.",
        toString snapshot.excludedDemoCount ++ " generated demonstration invoices excluded."] }

/-- The payload with a model, before it is told apart by its period. -/
def modelReport (context : ModelContext D F) (latest : MonthlyModelRun D F) (period : String) :
    ForecastReport D F :=
  let empty : ForecastReport D F := emptyReport context.snapshot period
  { empty with
    stage := "monthly_model_learning"
    status := context.status
    modelStatus := some context.status
    qualityStatus := some (if context.status = "ready" then "approved" else "withheld")
    statusMessage := statusMessage context.status
    availablePeriods := ["monthly"]
    modelId := some latest.pk
    method := latest.findings.selectedCandidate.getD "unavailable"
    qualityGate := context.gate
    regularStatus := context.status
    currentSourceRevision := some context.snapshot.revision
    warnings := empty.warnings ++
      match context.gate with
      | some gate => gate.reasons
      | none => ["Offline retraining required."] }

/-- `report` -/
def report (world : World D F) (scope period : String) :
    Except ServingError (ForecastReport D F) := do
  require (scope = "real" ∧ period ∈ ["weekly", "monthly", "yearly"]) .invalidScopeOrPeriod
  let context ← (modelContext W world).mapError .lifecycle
  match context.latest with
  | none => pure (emptyReport context.snapshot period)
  | some latest =>
      let payload := modelReport context latest period
      if period ≠ "monthly" then
        pure
          { payload with
            status := "unsupported_horizon"
            statusMessage := "The replacement currently evaluates monthly regular revenue only. Weekly and yearly forecasts are withheld." }
      else
        let points := publishedPoints context
        pure
          { payload with
            forecast := points
            predictedRevenue := points.head?.map ForecastPoint.predictedRevenue }

/-- The published points in the view of regular sales of `chart_report`; the other views have none. -/
def chartForecast (world : World D F) (period : String) :
    Except ServingError (List ForecastPoint) := do
  require (period ∈ ["weekly", "monthly", "yearly"]) .unsupportedChartPeriod
  let context ← (modelContext W world).mapError .lifecycle
  pure (if period = "monthly" then publishedPoints context else [])

/-! ## Coverage -/

inductive AttestationError
  | notACompletedMonth
  | noteRequired
  | noReviewer
  | unclassifiedEntries
  | zeroUnconfirmed
  | sourceChanged
  | lifecycle (e : LifecycleError)
  deriving DecidableEq, Repr

/-- `attest_coverage`: the month is reviewed in the world as it was, and attested where it is the same
under the lock. -/
def attestCoverage (before world : World D F) (month : Int) (note : String) (reviewer : Bool)
    (confirmZero : Bool) : Except AttestationError (Table (MonthlyCoverage D)) := do
  let snapshot ← (lifecycleSnapshot W before none).mapError .lifecycle
  require ((Day.toYmd month).day = 1 ∧ month < snapshot.asOf) .notACompletedMonth
  require (strip note ≠ "") .noteRequired
  require reviewer .noReviewer
  let entries := snapshot.sales.filter fun sale => decide (monthStart sale.day = month)
  require (¬ ∃ sale ∈ entries, sale.segment = .unclassified ∧ sale.revenue ≠ 0) .unclassifiedEntries
  let zero := !entries.any fun sale => decide (sale.segment = .regular)
  require (zero = false ∨ confirmZero) .zeroUnconfirmed
  let checked ← (lifecycleSnapshot W world none).mapError .lifecycle
  require (revisionOf W checked month = revisionOf W snapshot month) .sourceChanged
  let revision := revisionOf W snapshot month
  let coverage := world.registry.coverage
  pure (if coverage.rows.any fun row =>
      decide (row.month = month) && decide (row.sourceRevision = revision) then coverage
    else coverage.create fun pk =>
      { pk := pk
        month := month
        sourceRevision := revision
        confirmedZero := zero })

end Serving

end Forecasting
end RosarioDairy
