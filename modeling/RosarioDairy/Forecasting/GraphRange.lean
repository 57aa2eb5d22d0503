import RosarioDairy.Forecasting.SeasonalOutlook

/-!
# GraphRange — saved forecasts and recorded revenue over a requested calendar

`report` reads the chart of a day from what a refresh saved, and `range_report` lays its points and the
issued predictions of completed periods out over any calendar.  Neither fits nor projects anything.
-/

namespace RosarioDairy
namespace Forecasting
namespace Graph

/-- What `checked` returns of the findings of a run. -/
structure SavedRun (S D : Type) where
  views : View → GraphView D
  artifacts : Artifacts S D
  seasonalOutlook : Option Json

section Report

variable {S W D : Type} [DecidableEq D] (M : Models S W) (zone : Zone)

/-- The chart of a day with its seasonal outlook. -/
structure Report (S D : Type) where
  chart : GraphChart S D
  outlook : Option (Outlook D)

/-- `report` -/
def report (records : List (IssueRecord D)) (ctx : Context S W D) (saved : Option (SavedRun S D)) :
    Except Raised (Report S D) := do
  let artifacts : Artifacts S D := (saved.map SavedRun.artifacts).getD fun _ => none
  let chart ← build M zone records ctx artifacts false (saved.map SavedRun.views)
  let outlook ← buildSeasonalOutlook M ctx chart.views artifacts
    (saved.bind SavedRun.seasonalOutlook) false
  pure
    { chart := chart
      outlook := outlook }

/-! ## The requested calendar -/

def maxBuckets : Nat := 1200

/-- The loop of `calendar`, with the number of periods that may still be added. -/
def calendarFrom (period : Period) (last : Int) : Nat → Int → Except Raised (List Int)
  | 0, target =>
      if target ≤ last then
        .error (.caught ("Choose a range containing at most 1200 " ++ Period.name period
          ++ " periods."))
      else
        pure []
  | buckets + 1, target =>
      if target ≤ last then do
        let rest ← calendarFrom period last buckets (advance target period 1)
        pure (target :: rest)
      else
        pure []

/-- `calendar` -/
def calendar (period : Period) (startDate endDate : Int) : Except Raised (List Int) :=
  calendarFrom period (boundary endDate period) maxBuckets (boundary startDate period)

/-- `issues.get(target, {})`, looked up only where predictions have been retained. -/
def rangeIssues (records : List (IssueRecord D)) (ctx : Context S W D) (first last target : Int) :
    View → Option (Option (Issued D)) :=
  let retained := records.any fun record =>
    decide (record.runScope = ctx.scope) && decide (record.runPeriod = ctx.period)
      && decide (record.target = target) && decide (first ≤ target)
      && decide (target ≤ min last ctx.current)
  if retained = true ∧ target < ctx.current then
    issuedPredictions zone records ctx.period target ctx.asOf
  else
    fun _ => none

/-- A period that nothing has been saved for. -/
def blankPoint (ctx : Context S W D) (target : Int) : GraphPoint D :=
  { date := target
    endDate := lastDay target ctx.period
    actual := none
    pastPrediction := none
    futurePrediction := none
    predictionBasis := if target < ctx.current then "historical_test" else "forecast"
    isCurrent := false
    isPartialPeriod := false
    issuedPrediction := none
    issuedProvenance := none
    forecastOrigin := none
    horizon := none
    horizonUnit := none
    outlookBasis := none
    isNowcast := false
    annualOutlook := [] }

/-- The saved point of a period: of the centered chart, or else of the outlook. -/
def savedPoint (saved : Report S D) (view : View) (target : Int) : Option (GraphPoint D) :=
  (byDate (saved.chart.views view).points target).or
    (saved.outlook.bind fun outlook =>
      byDate ((outlook.views view).points.map OutlookPoint.point) target)

/-- A completed period shows what was issued for it; a regular one without a prediction shows a
retained comparison. -/
def completed (ctx : Context S W D) (issue : Option (Option (Issued D))) (comparison : Option Int)
    (view : View) (point : GraphPoint D) : GraphPoint D :=
  match issue with
  | some (some issue) =>
      { point with
        pastPrediction := some issue.value
        issuedPrediction := some issue.value
        issuedProvenance := some issue.provenance
        predictionBasis := "issued_forecast"
        forecastOrigin := some issue.provenance.forecastOrigin
        horizon := some issue.provenance.horizon }
  | some none =>
      { point with
        pastPrediction := none
        issuedPrediction := none
        issuedProvenance := none }
  | none =>
      match if view = .regular ∧ point.pastPrediction = none then comparison else none with
      | none => point
      | some predicted =>
          { point with
            pastPrediction := some predicted
            predictionBasis := "historical_test"
            outlookBasis :=
              if ctx.period = .yearly then some "sum_of_12_monthly_rolling_predictions"
              else point.outlookBasis }

/-- A saved point under today's recorded revenue. -/
def displayed (ctx : Context S W D) (actual : Option Int) (target : Int) (point : GraphPoint D) :
    GraphPoint D :=
  { point with
    actual := if target ≤ ctx.current then actual else none
    isCurrent := decide (target = ctx.current)
    isPartialPeriod := decide (target = ctx.current) }

/-- The point of a view in the requested calendar. -/
def rangePoint (records : List (IssueRecord D)) (ctx : Context S W D) (saved : Report S D)
    (sales : List DisplayedSale) (comparisons : Int → Option Int) (first last : Int) (view : View)
    (target : Int) : GraphPoint D :=
  let actual := actualOf (segmentTotal (sales.filter fun sale => decide (sale.day ≤ ctx.asOf))
    (fun day => boundary day ctx.period) target) view
  let point := displayed ctx actual target
    ((savedPoint saved view target).getD (blankPoint ctx target))
  if target < ctx.current then
    completed ctx (rangeIssues zone records ctx first last target view)
      (if first < ctx.current then comparisons target else none) view point
  else
    point

structure RangeView (D : Type) where
  label : String
  points : List (GraphPoint D)
  evaluation : List (String × Compared Int)
  availablePredictionPoints : Nat
  expectedPredictionPoints : Nat
  message : Option String
  deriving DecidableEq, Repr

/-- What a point of the requested calendar contributes to the evaluation. -/
def rangeEvaluated (ctx : Context S W D) (point : GraphPoint D) : Option (String × Compared Int) :=
  match decide (point.date < ctx.current), point.actual, point.pastPrediction with
  | true, some actual, some predicted =>
      some
        (point.predictionBasis,
          { actual := actual
            predicted := predicted })
  | _, _, _ => none

def rangeView (ctx : Context S W D) (view : View) (points : List (GraphPoint D)) : RangeView D :=
  let count := points.countP fun point =>
    point.pastPrediction.isSome || point.futurePrediction.isSome
  { label := View.label view
    points := points
    evaluation := points.filterMap (rangeEvaluated ctx)
    availablePredictionPoints := count
    expectedPredictionPoints := points.length
    message := if count = 0 then some "No saved estimates are available for these dates." else none }

structure RangeReport (D : Type) where
  startDate : Int
  endDate : Int
  views : View → RangeView D

/-- `range_report`, of the context of today; `comparisons` are the retained research comparisons. -/
def rangeReport (records : List (IssueRecord D)) (ctx : Context S W D)
    (run : Option (SavedRun S D)) (sales : List DisplayedSale) (comparisons : Int → Option Int)
    (startDate endDate : Int) : Except Raised (RangeReport D) := do
  let dates ← calendar ctx.period startDate endDate
  let saved ← report M zone records ctx run
  match dates.head?, dates.getLast? with
  | some first, some last =>
      pure
        { startDate := startDate
          endDate := endDate
          views := fun view => rangeView ctx view
            (dates.map (rangePoint zone records ctx saved sales comparisons first last view)) }
  | _, _ => .error (.other "list index out of range")

end Report

end Graph
end Forecasting
end RosarioDairy
