import Mathlib.Data.List.Sort
import RosarioDairy.Forecasting.Prospective
import RosarioDairy.Forecasting.Training

/-!
# BetaGraph — the centered chart of combined, regular and feeding sales

`build` draws the periods around the current one: predictions reconstructed from fitted components or
replayed from a saved chart, and for completed periods the predictions that were issued in advance.
Predictions are counted in centavos.  Fitting and projecting are parameters.
-/

namespace RosarioDairy
namespace Forecasting
namespace Graph

/-! ## Calendar -/

inductive GraphScope
  | real
  | demo2026
  deriving DecidableEq, Repr

def View.label : View → String
  | .combined => "Combined"
  | .regular => "Regular sales"
  | .feeding => "Milk feeding"

def Period.name : Period → String
  | .weekly => "weekly"
  | .monthly => "monthly"
  | .yearly => "yearly"

def firstOfYear (year : Int) : Int :=
  Day.ofYmd
    { year := year.toNat
      month := 1
      day := 1 }

def demoOrigin : Int := firstOfYear 2026

def advance (day : Int) (period : Period) (n : Int) : Int :=
  match period with
  | .weekly => day + 7 * n
  | .monthly => shiftMonth day n
  | .yearly => firstOfYear (Day.year day + n)

/-- The last day of the period that a day lies in. -/
def lastDay (day : Int) : Period → Int
  | .weekly => boundary day .weekly + 6
  | .monthly => monthEnd day
  | .yearly => firstOfYear (Day.year day + 1) - 1

/-- The periods of the centered chart. -/
def window (period : Period) (asOf : Int) : List Int :=
  let radius : Nat := if period = .yearly then 2 else 3
  (List.range (2 * radius + 1)).map fun n : Nat =>
    advance (boundary asOf period) period ((n : Int) - radius)

/-- Calendar steps from an exclusive cutoff, including the current bucket. -/
def horizon (target cutoff : Int) : Period → Int
  | .weekly => (target - cutoff) / 7 + 1
  | .monthly =>
      ((Day.year target : Int) - Day.year cutoff) * 12 + Day.month target - Day.month cutoff + 1
  | .yearly => (Day.year target : Int) - Day.year cutoff

/-- `horizon_unit` -/
def horizonUnit : Period → String
  | .yearly => "year_offset"
  | period => Period.name period

/-! ## Issued predictions -/

/-- A `GraphPrediction` with the columns of its run. -/
structure IssueRecord (D : Type) where
  pk : Nat
  run : Nat
  view : View
  target : Int
  value : Int
  issuedAt : Int
  runScope : GraphScope
  runPeriod : Period
  runAsOf : Int
  runEngineVersion : String
  runSourceRevision : D
  deriving DecidableEq, Repr

structure IssueDetails (D : Type) where
  predictionId : Nat
  runId : Nat
  engineVersion : String
  issuedAt : Int
  runAsOf : Int
  forecastOrigin : Int
  cutoffBasis : String
  sourceRevision : D
  revisionKind : String
  horizon : Int
  horizonUnit : String
  deriving DecidableEq, Repr

structure Issued (D : Type) where
  value : Int
  provenance : IssueDetails D
  deriving DecidableEq, Repr

/-- The records of one run for the three views. -/
structure Bundle (D : Type) where
  combined : IssueRecord D
  regular : IssueRecord D
  feeding : IssueRecord D
  deriving DecidableEq, Repr

def Bundle.record {D : Type} (bundle : Bundle D) : View → IssueRecord D
  | .combined => bundle.combined
  | .regular => bundle.regular
  | .feeding => bundle.feeding

section Issues

variable {D : Type} (zone : Zone)

/-- `_issue_details` -/
def issueDetails (record : IssueRecord D) (target : Int) (period : Period) : IssueDetails D :=
  let cutoff := boundary record.runAsOf (if period = .yearly then .monthly else period)
  { predictionId := record.pk
    runId := record.run
    engineVersion := record.runEngineVersion
    issuedAt := record.issuedAt
    runAsOf := record.runAsOf
    forecastOrigin := cutoff
    cutoffBasis := "issuing_run_calendar"
    sourceRevision := record.runSourceRevision
    revisionKind := "graph_input_revision"
    horizon := horizon target cutoff period
    horizonUnit := horizonUnit period }

def issuedOf (record : IssueRecord D) (target : Int) (period : Period) : Issued D :=
  { value := record.value
    provenance := issueDetails record target period }

/-- Issued for the target before its first day and before the extraction ended. -/
def eligibleIssue (period : Period) (target asOf : Int) (record : IssueRecord D) : Bool :=
  decide (record.runScope = .real) && decide (record.runPeriod = period)
    && decide (record.target = target) && decide (zone.localDate record.issuedAt < target)
    && decide (zone.localDate record.issuedAt < asOf + 1)

/-- The newest records first. -/
def eligibleIssues (records : List (IssueRecord D)) (period : Period) (target asOf : Int) :
    List (IssueRecord D) :=
  (records.filter (eligibleIssue zone period target asOf)).insertionSort fun a b =>
    b.issuedAt < a.issuedAt ∨ (b.issuedAt = a.issuedAt ∧ b.pk ≤ a.pk)

/-- `bundles[run]`, where it is complete and adds up. -/
def bundleOf (found : List (IssueRecord D)) (run : Nat) : Option (Bundle D) := do
  let recordOf (view : View) : Option (IssueRecord D) :=
    (found.filter fun record => decide (record.run = run) && decide (record.view = view)).getLast?
  let combined ← recordOf .combined
  let regular ← recordOf .regular
  let feeding ← recordOf .feeding
  if (combined.value - regular.value - feeding.value).natAbs ≤ 1 then
    some
      { combined := combined
        regular := regular
        feeding := feeding }
  else
    none

/-- The newest issue of one view. -/
def newestIssue (found : List (IssueRecord D)) (target : Int) (period : Period) (view : View) :
    Option (Issued D) :=
  (found.find? fun record => decide (record.view = view)).map fun record =>
    issuedOf record target period

/-- The issues of components; no combined sum is made up of them. -/
def componentIssues (regular feeding : Option (Issued D)) : View → Option (Option (Issued D))
  | .regular => regular.map some
  | .feeding => feeding.map some
  | .combined => if regular.isSome || feeding.isSome then some none else none

/-- `_issued_predictions`: for each view no key, a key without a value, or an issue. -/
def issuedPredictions (records : List (IssueRecord D)) (period : Period) (target asOf : Int) :
    View → Option (Option (Issued D)) :=
  let found := eligibleIssues zone records period target asOf
  match (found.map IssueRecord.run).eraseDups.findSome? (bundleOf found) with
  | some bundle => fun view => some (some (issuedOf (bundle.record view) target period))
  | none =>
      componentIssues (newestIssue found target period .regular)
        (newestIssue found target period .feeding)

end Issues

/-! ## Components -/

/-- A fitted component, or why there is none. -/
structure Component (S : Type) where
  status : String
  state : Option S
  modelBasis : Option String
  selection : Option String
  fallbackReason : Option String
  deriving DecidableEq, Repr

def Component.withoutState {S : Type} (status : String) (modelBasis : Option String) : Component S :=
  { status := status
    state := none
    modelBasis := modelBasis
    selection := none
    fallbackReason := none }

structure PathRow where
  predicted : Int
  lowerBound : Int
  upperBound : Int
  deriving DecidableEq, Repr

/-- Fitting and projecting; a weekly dependency says whether its history is too short. -/
structure Models (S W : Type) where
  trainedThrough : S → Int
  project : S → Int → Except Raised (List PathRow)
  weeklyInsufficient : W → Bool
  weeklyComponent : W → Except Raised (Component S)
  train : List (ObservedRow Int) → Period → Except Raised (Component S)

/-- The unit that a period is modelled in. -/
def unitOf : Period → Period
  | .weekly => .weekly
  | _ => .monthly

/-- Amounts that the charts accept: finite, not negative and below `1e18`. -/
def inCurrency (value : Int) : Bool := decide (0 ≤ value) && decide (value < 10 ^ 20)

section Paths

variable {S W : Type} (M : Models S W)

def PathRow.sum (rows : List PathRow) : PathRow :=
  { predicted := (rows.map PathRow.predicted).sum
    lowerBound := (rows.map PathRow.lowerBound).sum
    upperBound := (rows.map PathRow.upperBound).sum }

/-- `path[day]` -/
def rowAt (path : List (Int × PathRow)) (day : Int) : Except Raised PathRow :=
  match path.lookup day with
  | some row => pure row
  | none => .error (.caught "KeyError")

/-- `future_rows` -/
def futureRows (component : Component S) (targets : List Int) (period : Period) :
    Except Raised (List (Int × PathRow)) :=
  match component.state with
  | none => pure []
  | some state => do
      let origin := M.trainedThrough state
      let last := targets.getLast?.getD origin
      let finish := if period = .yearly then advance last .monthly (12 - Day.month last) else last
      let steps :=
        if period = .weekly then (finish - origin) / 7
        else ((Day.year finish : Int) - Day.year origin) * 12 + Day.month finish - Day.month origin
      let rows ← M.project state steps
      let path := rows.zipIdx.map fun entry =>
        (advance origin (unitOf period) ((entry.2 : Int) + 1), entry.1)
      targets.mapM fun target =>
        if period = .yearly then do
          let parts ← (List.range 12).mapM fun n : Nat => rowAt path (shiftMonth target n)
          pure (target, PathRow.sum parts)
        else do
          let row ← rowAt path target
          pure (target, row)

/-- `_point` -/
def pointValue (component : Component S) (target : Int) (period : Period) :
    Except Raised (Option Int) :=
  match component.state with
  | none => pure none
  | some _ => do
      match ← attempt (futureRows M component [target] period) with
      | .ok ((_, row) :: _) => pure (if inCurrency row.predicted then some row.predicted else none)
      | .ok [] => .error (.other "list index out of range")
      | .error _ => pure none

/-! ## The current year -/

structure AnnualOutlook where
  completedMonths : Nat
  missingCompletedMonths : List Int
  invalidCompletedMonths : List Int
  invalidCurrentMonthActual : Bool
  observedRevenue : Int
  forecastMonths : Int
  forecastRevenue : Option Int
  currentMonth : Int
  currentMonthActual : Option Int
  currentMonthModelPrediction : Option Int
  currentMonthEstimate : Option Int
  currentMonthFloorApplied : Bool
  prediction : Option Int
  deriving DecidableEq, Repr

/-- The actual amount of a completed month. -/
def monthActual (rows : List (ObservedRow Int)) (month : Int) : Option Int :=
  ((rows.filter fun row => decide (row.date = month)).getLast?).bind fun row =>
    row.actual.filter inCurrency

/-- `annual_outlook` -/
def annualOutlook (component : Component S) (target cutoff : Int) (rows : List (ObservedRow Int))
    (currentActual : Option Int) : Except Raised AnnualOutlook := do
  -- the completed months of the target's year, January up to the cutoff
  let months := (List.range (Day.month cutoff - 1)).map fun n : Nat => shiftMonth target n
  let missing := months.filter fun month => (monthActual rows month).isNone
  let observed := (months.map fun month => (monthActual rows month).getD 0).sum
  let invalidCurrent := currentActual.any fun actual => !inCurrency actual
  let recorded := currentActual.filter inCurrency
  let details : AnnualOutlook :=
    { completedMonths := months.length
      missingCompletedMonths := missing
      invalidCompletedMonths := (rows.filter fun row =>
        months.contains row.date && row.actual.any fun actual => !inCurrency actual).map
          ObservedRow.date
      invalidCurrentMonthActual := invalidCurrent
      observedRevenue := observed
      forecastMonths := 13 - Day.month cutoff
      forecastRevenue := none
      currentMonth := cutoff
      currentMonthActual := recorded
      currentMonthModelPrediction := none
      currentMonthEstimate := none
      currentMonthFloorApplied := false
      prediction := none }
  -- the total needs every completed month and a trained component
  if missing ≠ [] ∨ invalidCurrent = true ∨ component.state.isNone = true then
    pure details
  else do
    let targets := (List.range (13 - Day.month cutoff)).map fun n : Nat =>
      shiftMonth target ((Day.month cutoff - 1 + n : Nat) : Int)
    match ← attempt (futureRows M component targets .monthly) with
    | .error _ => pure details
    | .ok points =>
        let values := points.map fun point => point.2.predicted
        match values with
        | [] => pure details
        | modelValue :: later =>
            if points.map Prod.fst ≠ targets ∨ values.all inCurrency = false then
              pure details
            else
              -- the current month is at least what it has already sold
              let estimate := (recorded.map (max modelValue)).getD modelValue
              let remaining := (estimate :: later).sum
              let result := observed + remaining
              -- a total that money cannot hold is not shown
              if inCurrency result then
                pure
                  { details with
                    forecastRevenue := some remaining
                    currentMonthModelPrediction := some modelValue
                    currentMonthEstimate := some estimate
                    currentMonthFloorApplied := decide (modelValue < estimate)
                    prediction := some result }
              else
                pure details

end Paths

/-! ## The chart -/

/-- What a period's component is fitted to. -/
structure Item (S W D : Type) where
  rows : List (ObservedRow Int)
  primary : Option S
  signature : D
  weekly : Option W
  primaryRequired : Bool
  cutoff : Int
  sourceRevision : D

structure DisplayedSale where
  id : Nat
  day : Int
  segment : Segment
  amount : Int
  deriving DecidableEq, Repr

/-- `context`, whose calendar follows from the period and the date. -/
structure Context (S W D : Type) where
  period : Period
  scope : GraphScope
  asOf : Int
  inputs : Int → Segment → Item S W D
  sales : List DisplayedSale
  revision : D

structure GraphPoint (D : Type) where
  date : Int
  endDate : Int
  actual : Option Int
  pastPrediction : Option Int
  futurePrediction : Option Int
  predictionBasis : String
  isCurrent : Bool
  isPartialPeriod : Bool
  issuedPrediction : Option Int
  issuedProvenance : Option (IssueDetails D)
  forecastOrigin : Option Int
  horizon : Option Int
  horizonUnit : Option String
  outlookBasis : Option String
  isNowcast : Bool
  annualOutlook : List (Segment × Option AnnualOutlook)
  deriving DecidableEq, Repr

/-- A view of a chart; the evaluation lists what is scored under each basis. -/
structure GraphView (D : Type) where
  label : String
  points : List (GraphPoint D)
  evaluation : List (String × Compared Int)
  message : Option String
  deriving DecidableEq, Repr

/-- Saved components by the signature of what they were fitted to. -/
abbrev Artifacts (S D : Type) : Type := D → Option (Component S)

structure GraphChart (S D : Type) where
  scope : GraphScope
  period : Period
  asOf : Int
  views : View → GraphView D
  artifacts : Artifacts S D

section Build

variable {S W D : Type} [DecidableEq D] (M : Models S W)

def Context.calendar (ctx : Context S W D) : List Int := window ctx.period ctx.asOf

def Context.current (ctx : Context S W D) : Int := boundary ctx.asOf ctx.period

/-- The item a view shows the cutoff of. -/
def Context.shownItem (ctx : Context S W D) (target : Int) : View → Item S W D
  | .feeding => ctx.inputs target .feeding
  | _ => ctx.inputs target .regular

/-- `totals[bucket].get(segment)` -/
def segmentTotal (sales : List DisplayedSale) (bucketOf : Int → Int) (bucket : Int)
    (segment : Segment) : Option Int :=
  match sales.filter fun sale =>
      decide (sale.segment = segment) && decide (bucketOf sale.day = bucket) with
  | [] => none
  | found => some (found.map DisplayedSale.amount).sum

/-- The recorded amount of a view. -/
def actualOf (total : Segment → Option Int) : View → Option Int
  | .regular => total .regular
  | .feeding => total .feeding
  | .combined =>
      match total .regular, total .feeding with
      | none, none => none
      | regular, feeding => some (regular.getD 0 + feeding.getD 0)

/-- The component of an item that nothing has been saved for. -/
def newComponent (unit : Period) (allowTraining : Bool) (item : Item S W D) :
    Except Raised (Component S) :=
  if allowTraining = false then pure (Component.withoutState "unavailable" none)
  else
    match item.weekly.filter fun weekly => !M.weeklyInsufficient weekly with
    | some weekly => M.weeklyComponent weekly
    | none =>
        match item.primary with
        | some primary =>
            pure
              { status := "provisional"
                state := some primary
                modelBasis := some "primary_monthly_sarima"
                selection := some "reuse_primary_monthly_sarima_selection"
                fallbackReason := none }
        | none =>
            if item.primaryRequired then
              pure (Component.withoutState "primary_refresh_required"
                (some "primary_monthly_sarima"))
            else do
              let component ← M.train item.rows unit
              if item.weekly.isSome then
                pure
                  { component with
                    modelBasis := some "provisional_fallback"
                    fallbackReason :=
                      some "annual_weekly_sarima_requires_130_contiguous_completed_weeks" }
              else
                pure component

/-- `artifacts[signature]`, added to the artifacts where it is missing. -/
def resolve (unit : Period) (allowTraining : Bool) (artifacts : Artifacts S D)
    (item : Item S W D) : Except Raised (Artifacts S D × Component S) :=
  match artifacts item.signature with
  | some component => pure (artifacts, component)
  | none => do
      let component ← newComponent M unit allowTraining item
      pure (Function.update artifacts item.signature (some component), component)

/-- The predictions for one period. -/
structure TargetResult where
  target : Int
  predicted : View → Option Int
  annual : Segment → Option AnnualOutlook

/-- A combined prediction is the sum of two component predictions. -/
def combine (regular feeding : Option Int) : Option Int :=
  match regular, feeding with
  | some regular, some feeding => some (regular + feeding)
  | _, _ => none

def Context.isAnnualOutlook (ctx : Context S W D) (target : Int) : Bool :=
  decide (ctx.scope = .real) && decide (ctx.period = .yearly) && decide (target = ctx.current)

/-- The prediction of one segment, with the details of the current year. -/
def predictSegment (ctx : Context S W D) (allowTraining : Bool) (artifacts : Artifacts S D)
    (target : Int) (segment : Segment) :
    Except Raised (Artifacts S D × Option Int × Option AnnualOutlook) := do
  let item := ctx.inputs target segment
  let (artifacts, component) ← resolve M (unitOf ctx.period) allowTraining artifacts item
  if ctx.isAnnualOutlook target then do
    let recorded := segmentTotal ctx.sales monthStart item.cutoff segment
    let details ← annualOutlook M component target item.cutoff item.rows recorded
    pure (artifacts, details.prediction, some details)
  else do
    let value ← pointValue M component target ctx.period
    pure (artifacts, value, none)

/-- The predictions from the components. -/
def predictTarget (ctx : Context S W D) (allowTraining : Bool) (artifacts : Artifacts S D)
    (target : Int) : Except Raised (Artifacts S D × TargetResult) := do
  let (artifacts, regular, regularDetails) ←
    predictSegment M ctx allowTraining artifacts target .regular
  let (artifacts, feeding, feedingDetails) ←
    predictSegment M ctx allowTraining artifacts target .feeding
  pure
    (artifacts,
      { target := target
        predicted := fun view =>
          match view with
          | .regular => regular
          | .feeding => feeding
          | .combined => combine regular feeding
        annual := fun segment =>
          match segment with
          | .regular => regularDetails
          | .feeding => feedingDetails
          | .unclassified => none })

/-- `next(p for p in saved_views[view]['points'] if …)` -/
def savedPrediction (ctx : Context S W D) (saved : View → GraphView D) (target : Int) (view : View) :
    Except Raised (Option Int) :=
  match (saved view).points.find? fun point => decide (point.date = target) with
  | some point =>
      pure (if target < ctx.current then point.pastPrediction else point.futurePrediction)
  | none => .error (.other "StopIteration")

/-- The predictions of a saved chart; the current year is computed again. -/
def replayTarget (ctx : Context S W D) (allowTraining : Bool) (saved : View → GraphView D)
    (artifacts : Artifacts S D) (target : Int) : Except Raised (Artifacts S D × TargetResult) := do
  let combined ← savedPrediction ctx saved target .combined
  let regular ← savedPrediction ctx saved target .regular
  let feeding ← savedPrediction ctx saved target .feeding
  if ctx.isAnnualOutlook target then
    predictTarget M ctx allowTraining artifacts target
  else
    pure
      (artifacts,
        { target := target
          predicted := fun view =>
            match view with
            | .regular => regular
            | .feeding => feeding
            | .combined => combined
          annual := fun _ => none })

/-- One round of the loop over the calendar. -/
def buildStep (ctx : Context S W D) (allowTraining : Bool) (saved : Option (View → GraphView D))
    (built : Artifacts S D × List TargetResult) (target : Int) :
    Except Raised (Artifacts S D × List TargetResult) := do
  let (artifacts, result) ←
    match saved with
    | some saved => replayTarget M ctx allowTraining saved built.1 target
    | none => predictTarget M ctx allowTraining built.1 target
  pure (artifacts, built.2 ++ [result])

/-- `issued[target]`, which is empty outside the real scope. -/
def Context.issued (ctx : Context S W D) (zone : Zone) (records : List (IssueRecord D))
    (target : Int) : View → Option (Option (Issued D)) :=
  if ctx.scope = .real then issuedPredictions zone records ctx.period target ctx.asOf
  else fun _ => none

/-- The prediction that is shown, with its basis: a completed period keeps what was issued for it. -/
def shownPrediction (ctx : Context S W D) (issue : Option (Option (Issued D))) (target : Int)
    (predicted : Option Int) : Option Int × String :=
  let basis :=
    if ctx.scope = .demo2026 then "fixed_origin_demo"
    else if target < ctx.current then "historical_test"
    else "forecast"
  if ctx.scope = .real ∧ target < ctx.current then
    match issue with
    | some (some issue) => (some issue.value, "issued_forecast")
    | some none => (none, basis)
    | none => (predicted, basis)
  else
    (predicted, basis)

def outlookBasis (ctx : Context S W D) (target : Int) : Option String :=
  if ctx.current ≤ target ∧ ctx.scope = .real then
    if ctx.isAnnualOutlook target then
      some "completed_month_actuals_plus_remaining_monthly_forecast"
    else if ctx.period = .yearly then some "single_origin_monthly_forecast_sum"
    else some "latest_closed_period_forecast"
  else
    none

/-- The point of a view for one period. -/
def graphPoint (ctx : Context S W D) (zone : Zone) (records : List (IssueRecord D)) (view : View)
    (result : TargetResult) : GraphPoint D :=
  let target := result.target
  let issue := ctx.issued zone records target view
  -- an issued forecast is shown before the model's own prediction
  let shown := shownPrediction ctx issue target (result.predicted view)
  let item := ctx.shownItem target view
  let actual := actualOf (segmentTotal ctx.sales (fun day => boundary day ctx.period) target) view
  let provenance := (issue.bind id).map Issued.provenance
  let issuedBasis := if shown.2 = "issued_forecast" then provenance else none
  { date := target
    endDate := lastDay target ctx.period
    actual := actual
    pastPrediction := if target < ctx.current then shown.1 else none
    futurePrediction := if ctx.current ≤ target then shown.1 else none
    predictionBasis := shown.2
    isCurrent := decide (target = ctx.current)
    -- in the demo the year that it plays is cut at both ends
    isPartialPeriod := decide (target = ctx.current)
      || (decide (ctx.scope = .demo2026) && actual.isSome
        && (decide (target < demoOrigin) || decide (firstOfYear 2027 ≤ lastDay target ctx.period)))
    issuedPrediction := (issue.bind id).map Issued.value
    issuedProvenance := provenance
    forecastOrigin := some ((issuedBasis.map IssueDetails.forecastOrigin).getD item.cutoff)
    horizon := some ((issuedBasis.map IssueDetails.horizon).getD
      (horizon target item.cutoff ctx.period))
    horizonUnit := some (horizonUnit ctx.period)
    outlookBasis := outlookBasis ctx target
    isNowcast := ctx.isAnnualOutlook target
    annualOutlook :=
      if ctx.isAnnualOutlook target then
        view.segments.map fun segment => (segment, result.annual segment)
      else
        [] }

/-- What a completed period contributes to the evaluation. -/
def evaluated (point : GraphPoint D) : Option (String × Compared Int) :=
  match point.isPartialPeriod, point.actual, point.pastPrediction with
  | false, some actual, some predicted =>
      some
        (point.predictionBasis,
          { actual := actual
            predicted := predicted })
  | _, _, _ => none

def graphView (view : View) (points : List (GraphPoint D)) : GraphView D :=
  { label := View.label view
    points := points
    evaluation := points.filterMap evaluated
    message :=
      if points.any fun point => point.pastPrediction.isSome || point.futurePrediction.isSome then none
      else some "Not enough sales history yet." }

/-- `build` -/
def build (zone : Zone) (records : List (IssueRecord D)) (ctx : Context S W D)
    (artifacts : Artifacts S D) (allowTraining : Bool) (saved : Option (View → GraphView D)) :
    Except Raised (GraphChart S D) := do
  let (artifacts, results) ←
    ctx.calendar.foldlM (buildStep M ctx allowTraining saved) (artifacts, [])
  pure
    { scope := ctx.scope
      period := ctx.period
      asOf := ctx.asOf
      views := fun view => graphView view (results.map (graphPoint ctx zone records view))
      artifacts := fun signature =>
        if saved.isNone && ctx.calendar.any (fun target =>
            decide ((ctx.inputs target .regular).signature = signature)
              || decide ((ctx.inputs target .feeding).signature = signature)) then
          artifacts signature
        else none }

end Build

end Graph
end Forecasting
end RosarioDairy
