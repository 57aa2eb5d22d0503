import RosarioDairy.Forecasting.BetaGraph
import RosarioDairy.Text

/-!
# SeasonalOutlook — a full season ahead of the current period

`build_seasonal_outlook` extends the chart over a full season, from the saved components or by replaying
a saved outlook.  What was saved is JSON of any shape: a view is replayed only when each of its points
carries what a fresh point would, and the combined view only when it is the sum of the other two.
-/

namespace RosarioDairy
namespace Forecasting
namespace Graph

/-! ## Saved JSON -/

/-- A parsed JSON value; numbers with a fraction count hundredths. -/
inductive Json
  | null
  | bool (value : Bool)
  | int (value : Int)
  | float (hundredths : Int)
  | nonfinite
  | str (value : String)
  | arr (items : List Json)
  | obj (fields : List (String × Json))

abbrev JsonObject : Type := List (String × Json)

/-- The fields of an object; of anything else none are read. -/
def Json.fields : Json → Option JsonObject
  | .obj fields => some fields
  | _ => none

def Json.items : Json → Option (List Json)
  | .arr items => some items
  | _ => none

def isText (value : Option Json) (text : String) : Bool :=
  match value with
  | some (.str s) => decide (s = text)
  | _ => false

def isBool (value : Option Json) (expected : Bool) : Bool :=
  match value with
  | some (.bool b) => b == expected
  | _ => false

def isNull (value : Option Json) : Bool :=
  match value with
  | some .null => true
  | _ => false

def isInt (value : Option Json) (expected : Int) : Bool :=
  match value with
  | some (.int n) => decide (n = expected)
  | _ => false

/-- `date.isoformat()` -/
def isoDate (day : Int) : String :=
  let ymd := Day.toYmd day
  zeroPad 4 ymd.year ++ "-" ++ zeroPad 2 ymd.month ++ "-" ++ zeroPad 2 ymd.day

/-- A saved prediction: `none` where it is not one, else null or an accepted amount.  An integer too
large for a float raises an error when it is tested for being finite. -/
def predictionOf (value : Json) : Except Raised (Option (Option Int)) :=
  match value with
  | .null => pure (some none)
  | .int n =>
      if 2 ^ 1024 - 2 ^ 970 ≤ n.natAbs then
        .error (.other "int too large to convert to float")
      else
        pure (if inCurrency (100 * n) then some (some (100 * n)) else none)
  | .float hundredths => pure (if inCurrency hundredths then some (some hundredths) else none)
  | _ => pure none

/-- A saved point that has been accepted: its prediction, and the object it is replayed from. -/
structure SavedPoint where
  futurePrediction : Option Int
  fields : JsonObject

/-- `{point['date']: point for point in points}.get(day)` -/
def byDate {D : Type} (points : List (GraphPoint D)) (day : Int) : Option (GraphPoint D) :=
  points.reverse.find? fun point => decide (point.date = day)

section Replay

variable {S W D : Type} (ctx : Context S W D)

/-- Periods in a season. -/
def seasonLength (period : Period) : Nat := if period = .weekly then 52 else 12

def Context.seasonDates : List Int :=
  (List.range (seasonLength ctx.period)).map fun n : Nat => advance ctx.current ctx.period n

def Context.outlookBasisName : String :=
  if ctx.scope = .demo2026 then "fixed_origin_demo" else "forecast"

/-- Every field but the prediction is that of a fresh point. -/
def describesPoint (cutoff target : Int) (n : Nat) (fields : JsonObject) : Bool :=
  isText (fields.lookup "date") (isoDate target)
    && isText (fields.lookup "end_date") (isoDate (lastDay target ctx.period))
    && isNull (fields.lookup "past_prediction")
    && isBool (fields.lookup "is_current") (decide (n = 0))
    && isBool (fields.lookup "is_partial_period") (decide (n = 0))
    && isText (fields.lookup "forecast_origin") (isoDate cutoff)
    && isInt (fields.lookup "horizon") (horizon target cutoff ctx.period)
    && isText (fields.lookup "horizon_unit") (Period.name ctx.period)
    && isText (fields.lookup "prediction_basis") ctx.outlookBasisName

/-- Accept one saved point of a view; within the centered chart its prediction is the one shown
there. -/
def readPoint (cutoff : Int) (centered : List (GraphPoint D)) (target : Int) (n : Nat)
    (point : Json) : Except Raised (Option SavedPoint) :=
  match point.fields with
  | none => pure none
  | some fields =>
      match fields.lookup "future_prediction" with
      | none => pure none
      | some value =>
          if describesPoint ctx cutoff target n fields = false then pure none
          else do
            match ← predictionOf value with
            | none => pure none
            | some prediction =>
                if (byDate centered target).all fun shown =>
                    decide (prediction = shown.futurePrediction) then
                  pure (some
                    { futurePrediction := prediction
                      fields := fields })
                else
                  pure none

/-- The points of a view, up to the first one that is not accepted. -/
def readPoints (cutoff : Int) (centered : List (GraphPoint D)) :
    List (Int × Nat) → List Json → Except Raised (Option (List SavedPoint))
  | [], [] => pure (some [])
  | (target, n) :: dates, point :: points => do
      match ← readPoint ctx cutoff centered target n point with
      | none => pure none
      | some saved => do
          let rest ← readPoints cutoff centered dates points
          pure (rest.map fun rest => saved :: rest)
  | _, _ => pure none

def View.key : View → String
  | .combined => "combined"
  | .regular => "regular"
  | .feeding => "feeding"

/-- `retained[view]` -/
def retainedPoints (data : View → GraphView D) (saved : Option Json) (view : View) :
    Except Raised (Option (List SavedPoint)) :=
  let outlook : JsonObject := ((saved.bind Json.fields).getD [])
  let points := ((((outlook.lookup "views").bind Json.fields).bind fun views =>
    (views.lookup (View.key view)).bind Json.fields).bind fun fields =>
      (fields.lookup "points").bind Json.items)
  match points with
  | none => pure none
  | some points =>
      if isText (outlook.lookup "period") (Period.name ctx.period)
          && isText (outlook.lookup "as_of") (isoDate ctx.asOf)
          && decide (points.length = seasonLength ctx.period) then
        readPoints ctx (ctx.shownItem ctx.current view).cutoff (data view).points
          ctx.seasonDates.zipIdx points
      else
        pure none

/-- The saved combined points are the sums of the component points. -/
def sumsUp (regular feeding combined : List SavedPoint) : Bool :=
  ((regular.zip feeding).zip combined).all fun points =>
    decide (points.2.futurePrediction =
      combine points.1.1.futurePrediction points.1.2.futurePrediction)

/-- A valid checksum does not make an inconsistent component sum a forecast. -/
def withoutIncoherent (retained : View → Option (List SavedPoint)) :
    View → Option (List SavedPoint) :=
  match retained .regular, retained .feeding, retained .combined with
  | some regular, some feeding, some combined =>
      if sumsUp regular feeding combined then retained
      else Function.update retained .combined none
  | _, _, _ => Function.update retained .combined none

end Replay

/-! ## The outlook -/

/-- A point of an outlook; a replayed one keeps the object it was saved as. -/
structure OutlookPoint (D : Type) where
  point : GraphPoint D
  saved : Option JsonObject

structure OutlookView (D : Type) where
  label : String
  points : List (OutlookPoint D)
  message : Option String

structure Outlook (D : Type) where
  period : Period
  asOf : Int
  views : View → OutlookView D

section Outlook

variable {S W D : Type} (M : Models S W) (ctx : Context S W D)

/-- The projected amounts of one segment; a path with a gap or an amount out of range is dropped. -/
def projectedPath (artifacts : Artifacts S D) (segment : Segment) :
    Except Raised (List (Int × Int)) :=
  match artifacts (ctx.inputs ctx.current segment).signature with
  | none => pure []
  | some component =>
      if component.state.isNone then pure []
      else do
        match ← attempt (futureRows M component ctx.seasonDates ctx.period) with
        | .error _ => pure []
        | .ok rows =>
            if rows.map Prod.fst = ctx.seasonDates
                ∧ rows.all (fun row => inCurrency row.2.predicted) = true then
              pure (rows.map fun row => (row.1, row.2.predicted))
            else
              pure []

/-- A point that is neither replayed nor part of the centered chart. -/
def freshPoint (view : View) (target : Int) (n : Nat) (value : Option Int) : GraphPoint D :=
  let item := ctx.shownItem ctx.current view
  { date := target
    endDate := lastDay target ctx.period
    actual := none
    pastPrediction := none
    futurePrediction := value
    predictionBasis := ctx.outlookBasisName
    isCurrent := decide (n = 0)
    isPartialPeriod := decide (n = 0)
    issuedPrediction := none
    issuedProvenance := none
    forecastOrigin := some item.cutoff
    horizon := some (horizon target item.cutoff ctx.period)
    horizonUnit := some (Period.name ctx.period)
    outlookBasis := if ctx.scope = .real then some "latest_closed_period_forecast" else none
    isNowcast := false
    annualOutlook := [] }

/-- The projected amount of a view, the sum of its parts. -/
def projectedValue (projected : Segment → List (Int × Int)) (view : View) (target : Int) :
    Option Int :=
  let value :=
    match view with
    | .regular => (projected .regular).lookup target
    | .feeding => (projected .feeding).lookup target
    | .combined =>
        combine ((projected .regular).lookup target) ((projected .feeding).lookup target)
  value.filter inCurrency

/-- The point of a view: replayed, taken from the centered chart, or projected. -/
def outlookPoint (data : View → GraphView D) (retained : View → Option (List SavedPoint))
    (projected : Segment → List (Int × Int)) (allowProjection : Bool) (view : View)
    (entry : Int × Nat) : OutlookPoint D :=
  let shown := byDate (data view).points entry.1
  let actual := if entry.2 = 0 then shown.bind GraphPoint.actual else none
  match (retained view).bind fun points => points[entry.2]? with
  | some saved =>
      { point :=
          { freshPoint ctx view entry.1 entry.2 saved.futurePrediction with actual := actual }
        saved := some saved.fields }
  | none =>
      match if allowProjection then shown else none with
      | some point =>
          { point := { point with actual := actual }
            saved := none }
      | none =>
          let value := if allowProjection then projectedValue projected view entry.1 else none
          { point := { freshPoint ctx view entry.1 entry.2 value with actual := actual }
            saved := none }

def outlookView (view : View) (points : List (OutlookPoint D)) : OutlookView D :=
  { label := View.label view
    points := points
    message :=
      if points.any fun entry => entry.point.futurePrediction.isSome then none
      else some "Refresh saved forecasts or provide sufficient observed history." }

/-- The argument `saved_outlook` is `None`. -/
def nothingSaved : Option Json → Bool
  | none => true
  | some .null => true
  | _ => false

/-- `projected`: both paths, but none when a saved outlook is replayed or nothing may be projected. -/
def projectedPaths (artifacts : Artifacts S D) (saved : Option Json) (allowProjection : Bool) :
    Except Raised (Segment → List (Int × Int)) :=
  if allowProjection && nothingSaved saved then do
    let regularPath ← projectedPath M ctx artifacts .regular
    let feedingPath ← projectedPath M ctx artifacts .feeding
    pure fun segment =>
      match segment with
      | .regular => regularPath
      | .feeding => feedingPath
      | .unclassified => []
  else
    pure fun _ => []

/-- `build_seasonal_outlook` -/
def buildSeasonalOutlook (data : View → GraphView D) (artifacts : Artifacts S D)
    (saved : Option Json) (allowProjection : Bool) : Except Raised (Option (Outlook D)) := do
  if ctx.period = .yearly then pure none
  else do
    let projected ← projectedPaths M ctx artifacts saved allowProjection
    let combined ← retainedPoints ctx data saved .combined
    let regular ← retainedPoints ctx data saved .regular
    let feeding ← retainedPoints ctx data saved .feeding
    let retained := withoutIncoherent fun view =>
      match view with
      | .combined => combined
      | .regular => regular
      | .feeding => feeding
    pure (some
      { period := ctx.period
        asOf := ctx.asOf
        views := fun view => outlookView view
          (ctx.seasonDates.zipIdx.map
            (outlookPoint ctx data retained projected allowProjection view)) })

end Outlook

end Graph
end Forecasting
end RosarioDairy
