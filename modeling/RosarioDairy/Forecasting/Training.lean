import RosarioDairy.Forecasting.Learning

/-!
# Training — walk-forward evaluation and selection of models

The three training programs: monthly, weekly and provisional.  Each evaluates its candidates on earlier
periods first, selects by that, and then looks at the later test periods.  Fitting and predicting are
parameters, deterministic functions of the rows they are given that may raise errors; the programs
catch some of these.
-/

namespace RosarioDairy
namespace Forecasting

/-! ## Errors -/

/-- An error that the training programs catch, with its text, or another one. -/
inductive Raised
  | caught (reason : String)
  | other (error : String)
  deriving DecidableEq, Repr

/-- The `try` of the training programs. -/
def attempt {α : Type} : Except Raised α → Except Raised (Except String α)
  | .ok a => .ok (.ok a)
  | .error (.caught reason) => .ok (.error reason)
  | .error (.other e) => .error (.other e)

/-! ## Walk-forward evaluation -/

structure Fold (F : Type) where
  date : Int
  trainedThrough : Int
  actual : F
  predicted : F
  diagnostics : Option String
  deriving DecidableEq, Repr

/-- How rows are read, and the forecast a candidate makes from the rows before a period. -/
structure Walker (R F : Type) where
  date : R → Int
  actual : R → F
  forecast : String → List R → Except Raised (F × Option String)

section Walks

variable {R F : Type} (W : Walker R F)

def walkFold (name : String) (rows : List R) (index : Nat) : Except Raised (Fold F) := do
  let (predicted, diagnostics) ← W.forecast name (rows.take index)
  match rows[index]?, rows[index - 1]? with
  | some row, some before =>
      pure
        { date := W.date row
          trainedThrough := W.date before
          actual := W.actual row
          predicted := predicted
          diagnostics := diagnostics }
  | _, _ => .error (.other "list index out of range")

/-- `walk_forward` and `walk_weekly` -/
def walk (name : String) (rows : List R) (start stop : Nat) : Except Raised (List (Fold F)) :=
  (List.range' start (stop - start)).mapM (walkFold W name rows)

end Walks

/-! ## Candidates -/

structure Scored (F : Type) where
  score : Score F
  rows : List (Fold F)
  deriving DecidableEq, Repr

/-- The entry of a candidate in the findings; a failure is recorded with its reason. -/
structure CandidateReport (F : Type) where
  name : String
  isPrimary : Bool
  validation : Except String (Scored F)
  test : Option (Except String (Scored F))

section Candidates

variable {R F : Type} [LinearOrder F] (W : Walker R F) (A : Arithmetic F)

def Fold.asCompared (fold : Fold F) : Compared F :=
  { actual := fold.actual
    predicted := fold.predicted }

def scored (folds : List (Fold F)) : Scored F :=
  { score := score A (folds.map Fold.asCompared)
    rows := folds }

/-- The first loop over the candidates. -/
def validate (primary names : List String) (rows : List R) (start stop : Nat) :
    Except Raised (List (CandidateReport F)) :=
  names.mapM fun name => do
    let outcome ← attempt (walk W name rows start stop)
    pure
      { name := name
        isPrimary := primary.contains name
        validation := outcome.map (scored A)
        test := none }

def CandidateReport.wape (report : CandidateReport F) : Option F :=
  match report.validation with
  | .ok result => result.score.wapePercent
  | .error _ => none

def CandidateReport.eligible (report : CandidateReport F) : Bool := report.wape.isSome

/-- The second loop, over the candidates that have been scored. -/
def testEligible (rows : List R) (start : Nat) (reports : List (CandidateReport F)) :
    Except Raised (List (CandidateReport F)) :=
  reports.mapM fun report =>
    if report.eligible then do
      let outcome ← attempt (walk W report.name rows start rows.length)
      pure { report with test := some (outcome.map (scored A)) }
    else
      pure report

/-- `min` with a key: the first of the best ones. -/
def firstBest {α : Type} (better : α → α → Bool) : List α → Option α
  | [] => none
  | a :: rest => some (rest.foldl (fun best b => if better b best then b else best) a)

/-- The scored candidate of a group with the lowest validation error, the first of equal ones. -/
def bestOf (group : List String) (reports : List (CandidateReport F)) : Option String :=
  (firstBest (fun report best => report.wape.any fun wape => best.wape.any fun least =>
      decide (wape < least))
    (reports.filter fun report => report.eligible && group.contains report.name)).map
      CandidateReport.name

def reportOf (reports : List (CandidateReport F)) (name : String) : Option (CandidateReport F) :=
  reports.find? fun report => decide (report.name = name)

/-- `candidates[name].get('test')` -/
def testOf (reports : List (CandidateReport F)) (name : String) : Option (Scored F) :=
  (reportOf reports name).bind fun report => report.test.bind Except.toOption

end Candidates

/-! ## Results -/

/-- What a research candidate reports about its test and its next period. -/
structure Research (F S : Type) where
  selectedTest : Score F
  baselineTest : Option (Score F)
  below15Percent : Bool
  noWorseThanBaseline : Bool
  artifact : S
  predicted : F
  lowerBound : F
  upperBound : F
  sampleCount : Nat

structure TrainingResult (F S : Type) where
  status : String
  selectedCandidate : Option String
  selectedBaseline : Option String
  reason : Option String
  candidates : List (CandidateReport F)
  research : Option (Research F S)

def TrainingResult.ended {F S : Type} (status : String) (selected : Option String)
    (reason : Option String) (candidates : List (CandidateReport F)) : TrainingResult F S :=
  { status := status
    selectedCandidate := selected
    selectedBaseline := none
    reason := reason
    candidates := candidates
    research := none }

section Results

variable {F S : Type} [LinearOrder F] (A : Arithmetic F)

/-- The half width of the range around the next period's prediction. -/
def bandWidth (folds : List (Fold F)) : F :=
  let errors := (folds.map fun fold => A.abs (A.sub fold.predicted fold.actual)).mergeSort
    fun error error' => decide (error ≤ error')
  errors.getD (min (errors.length - 1) ((9 * (errors.length + 1) + 9) / 10 - 1)) (A.ofNat 0)

def research (selectedTest : Scored F) (baselineTest : Option (Scored F)) (artifact : S)
    (value : F) : Research F S :=
  let width := bandWidth A selectedTest.rows
  let wape := selectedTest.score.wapePercent
  let base := baselineTest.bind fun test => test.score.wapePercent
  { selectedTest := selectedTest.score
    baselineTest := baselineTest.map Scored.score
    below15Percent := wape.any fun wape => decide (wape < A.ofNat 15)
    noWorseThanBaseline := wape.any fun wape => base.any fun base => decide (wape ≤ base)
    artifact := artifact
    predicted := value
    lowerBound := A.round (max (A.ofNat 0) (A.sub value width)) 2
    upperBound := A.round (A.add value width) 2
    sampleCount := selectedTest.rows.length }

end Results

/-! ## Monthly training -/

/-- Fitting and predicting of monthly models; `diagnostics` is what a SARIMA fold repeats of its
fit. -/
structure MonthlyModels (F S : Type) where
  fitModel : String → List (MonthRow F) → Except Raised S
  predictModel : S → Except Raised F
  diagnostics : S → String

def sarimaNames : List String := sarimaConfigs.map Prod.fst

def benchmarks : List String :=
  ["previous_month", "trailing_3_mean", "trailing_6_mean", "trailing_3_median",
    "same_month_last_year"]

/-- `CANDIDATES`; ties between equal scores go to the earlier one. -/
def candidates : List String :=
  sarimaNames ++ benchmarks ++ ["exponential_level", "damped_trend", "ridge_ar_10", "ridge_ar_100"]

def minTrainingMonths : Nat := 36

def validationMonths : Nat := 6

def testMonths : Nat := 12

section Monthly

variable {F S : Type} [LinearOrder F] (A : Arithmetic F) (M : MonthlyModels F S)

def monthlyWalker : Walker (MonthRow F) F :=
  { date := MonthRow.month
    actual := MonthRow.revenue
    forecast := fun name rows => do
      let fitted ← M.fitModel name rows
      let predicted ← M.predictModel fitted
      pure (predicted, if sarimaNames.contains name then some (M.diagnostics fitted) else none) }

/-- The months of the rows follow each other. -/
def noMissingMonths (rows : List (MonthRow F)) : Bool :=
  (rows.zip rows.tail).all fun pair => decide (shiftMonth pair.1.month 1 = pair.2.month)

/-- `learning.train` -/
def train (rows : List (MonthRow F)) : Except Raised (TrainingResult F S) := do
  if rows.length < minTrainingMonths then
    pure (.ended "insufficient_history" none none [])
  else if noMissingMonths rows = false then
    .error (.caught "Training history contains missing months.")
  else do
    let validationStart := rows.length - testMonths - validationMonths
    let testStart := rows.length - testMonths
    -- the validation stops before the test months
    let reports ← validate (monthlyWalker M) A sarimaNames candidates rows validationStart testStart
    match bestOf sarimaNames reports with
    | none => pure (.ended "no_valid_candidates" none none reports)
    | some selected =>
        match bestOf benchmarks reports with
        | none => pure (.ended "no_valid_baseline" (some selected) none reports)
        | some baseline => do
            -- only the candidates that passed the validation are tested
            let reports ← testEligible (monthlyWalker M) A rows testStart reports
            match testOf reports selected with
            | none => pure (.ended "selected_model_failed" (some selected) none reports)
            | some selectedTest => do
                -- the chosen candidate is fitted again on all months
                let refit ← attempt (do
                  let fitted ← M.fitModel selected rows
                  let value ← M.predictModel fitted
                  pure (fitted, value))
                match refit with
                | .error reason =>
                    pure (.ended "selected_model_failed" (some selected) (some reason) reports)
                | .ok (fitted, value) =>
                    pure
                      { status := "research_candidate"
                        selectedCandidate := some selected
                        selectedBaseline := some baseline
                        reason := none
                        candidates := reports
                        research := some (research A selectedTest (testOf reports baseline)
                          fitted value) }

end Monthly

/-! ## Weekly training -/

/-- A week that starts on `date`. -/
structure WeekRow (F : Type) where
  date : Int
  revenue : F
  deriving DecidableEq, Repr

/-- `fit_weekly`, which also predicts the next week. -/
structure WeeklyModels (F S : Type) where
  fitWeekly : String → List (WeekRow F) → Except Raised (S × F)

def weeklyConfigs : List String :=
  ["weekly_sarima_010_100_52", "weekly_sarima_100_100_52", "weekly_sarima_011_100_52"]

def weeklyBaselines : List String := ["previous_week", "trailing_4_mean", "same_week_last_year"]

def validationWeeks : Nat := 13

def testWeeks : Nat := 13

def minWeeks : Nat := 104 + validationWeeks + testWeeks

section Weekly

variable {F S : Type} [LinearOrder F] (A : Arithmetic F) (M : WeeklyModels F S)

/-- `_currency` -/
def currency (value : F) : Except Raised F :=
  if A.isFinite value = false ∨ A.ofNat (10 ^ 18) ≤ value then
    .error (.caught "Weekly prediction is outside supported currency precision.")
  else
    pure (A.round (max (A.ofNat 0) value) 2)

/-- `_baseline` -/
def weeklyBaseline (name : String) (values : List F) : Except Raised F :=
  let valueAt (fromEnd : Nat) : Except Raised F :=
    match if fromEnd ≤ values.length then values[values.length - fromEnd]? else none with
    | some value => pure value
    | none => .error (.other "list index out of range")
  if name = "previous_week" then valueAt 1
  else if name = "trailing_4_mean" then
    pure (A.div (A.sum (values.drop (values.length - 4))) (A.ofNat 4))
  else if name = "same_week_last_year" then valueAt 52
  else .error (.caught "Unknown weekly baseline.")

def weeklyWalker : Walker (WeekRow F) F :=
  { date := WeekRow.date
    actual := WeekRow.revenue
    forecast := fun name rows => do
      if weeklyConfigs.contains name then do
        let (_, value) ← M.fitWeekly name rows
        pure (value, none)
      else do
        let value ← weeklyBaseline A name (rows.map WeekRow.revenue)
        let value ← currency A value
        pure (value, none) }

/-- `train_weekly` -/
def trainWeekly (rows : List (WeekRow F)) : Except Raised (TrainingResult F S) := do
  if rows.length < minWeeks then
    pure (.ended "insufficient_history" none none [])
  else do
    let testStart := rows.length - testWeeks
    let validationStart := testStart - validationWeeks
    let reports ← validate (weeklyWalker A M) A weeklyConfigs (weeklyConfigs ++ weeklyBaselines) rows
      validationStart testStart
    match bestOf weeklyConfigs reports, bestOf weeklyBaselines reports with
    | some selected, some baseline => do
        let reports ← testEligible (weeklyWalker A M) A rows testStart reports
        match testOf reports selected, testOf reports baseline with
        | some selectedTest, some baselineTest => do
            match ← attempt (M.fitWeekly selected rows) with
            | .error reason =>
                pure (.ended "selected_model_failed" (some selected) (some reason) reports)
            | .ok (artifact, value) =>
                pure
                  { status := "research_candidate"
                    selectedCandidate := some selected
                    selectedBaseline := some baseline
                    reason := none
                    candidates := reports
                    research := some (research A selectedTest (some baselineTest) artifact value) }
        | _, _ => pure (.ended "selected_model_failed" (some selected) none reports)
    | _, _ => pure (.ended "no_valid_candidates" none none reports)

end Weekly

/-! ## Provisional training -/

/-- A period, with no amount where nothing has been recorded. -/
structure ObservedRow (F : Type) where
  date : Int
  actual : Option F
  deriving DecidableEq, Repr

/-- The fit of a candidate to rows with a season, and its path of predictions. -/
structure ProvisionalModels (F S : Type) where
  fit : String → List (ObservedRow F) → Nat → Except Raised S
  project : S → Int → Except Raised (List F)

/-- A fitted state carries the name of its candidate and the last date it was fitted to. -/
structure ProvisionalState (S : Type) where
  name : String
  trainedThrough : Int
  fitted : S

structure Evaluation (F : Type) where
  wape : Option F
  sampleCount : Nat
  rows : List (Fold F)

structure ProvisionalResult (F S : Type) where
  status : String
  state : Option (ProvisionalState S)
  validation : List (String × Except String (Evaluation F))
  test : Option (Evaluation F)
  selectedCandidate : Option String
  fitFailure : Option (String × String)
  seasonalTermsEnabled : Bool
  observedPeriods : Nat
  missingPeriods : Nat

/-- The candidate a result names, by its state or as the one that failed. -/
def ProvisionalResult.named {F S : Type} (result : ProvisionalResult F S) : Option String :=
  match result.state with
  | some state => some state.name
  | none => result.selectedCandidate

section Provisional

variable {F S : Type} [LinearOrder F] (A : Arithmetic F) (M : ProvisionalModels F S)

/-- The periods between two dates, of weeks or of months. -/
def stepsBetween (weekly : Bool) (origin date : Int) : Int :=
  if weekly then (date - origin) / 7
  else ((Day.year date : Int) - Day.year origin) * 12 + Day.month date - Day.month origin

/-- `path[step - 1]`, where a negative index counts from the end. -/
def pathAt (path : List F) (step : Int) : Except Raised F :=
  let index := if 0 ≤ step - 1 then step - 1 else path.length + (step - 1)
  match if 0 ≤ index then path[index.toNat]? else none with
  | some value => pure value
  | none => .error (.other "list index out of range")

def fitProvisional (name : String) (rows : List (ObservedRow F)) (season : Nat) :
    Except Raised (ProvisionalState S) := do
  let fitted ← M.fit name rows season
  match rows.getLast? with
  | some last =>
      pure
        { name := name
          trainedThrough := last.date
          fitted := fitted }
  | none => .error (.other "list index out of range")

/-- `evaluate` -/
def evaluate (state : ProvisionalState S) (rows : List (ObservedRow F)) (weekly : Bool) :
    Except Raised (Evaluation F) := do
  let origin := state.trainedThrough
  match rows.getLast? with
  | none => .error (.other "list index out of range")
  | some last => do
      let path ← M.project state.fitted (stepsBetween weekly origin last.date)
      let comparisons ← (rows.filterMap fun row => row.actual.map fun actual => (row.date, actual)).mapM
        fun observed => do
          let predicted ← pathAt path (stepsBetween weekly origin observed.1)
          pure
            { date := observed.1
              trainedThrough := origin
              actual := observed.2
              predicted := predicted
              diagnostics := none }
      let denominator := A.sum (comparisons.map fun fold => A.abs fold.actual)
      let error := A.sum (comparisons.map fun fold => A.abs (A.sub fold.actual fold.predicted))
      pure
        { wape :=
            if denominator = A.ofNat 0 then none
            else some (A.round (A.div (A.mul (A.ofNat 100) error) denominator) 4)
          sampleCount := comparisons.length
          rows := comparisons }

/-- The indices of the observed periods. -/
def observedIndices (rows : List (ObservedRow F)) : List Nat :=
  (List.range rows.length).filter fun index =>
    (rows[index]?.bind ObservedRow.actual).isSome

def provisionalCandidates (rows : List (ObservedRow F)) (validationIndex season : Nat) :
    List String :=
  if 2 * season ≤ validationIndex
      ∧ 2 * season ≤ (rows.take validationIndex).countP (fun row => row.actual.isSome) then
    ["local_level", "ar1", "seasonal_ar"]
  else
    ["local_level", "ar1"]

/-- Fit every candidate before the validation periods and evaluate it on them. -/
def validateProvisional (rows : List (ObservedRow F)) (weekly : Bool)
    (validationIndex testIndex season : Nat) :
    Except Raised (List (String × Except String (Evaluation F))) :=
  (provisionalCandidates rows validationIndex season).mapM fun name => do
    let outcome ← attempt (do
      let state ← fitProvisional M name (rows.take validationIndex) season
      evaluate A M state ((rows.take testIndex).drop validationIndex) weekly)
    pure (name, outcome)

def resultWape (result : String × Except String (Evaluation F)) : Option F :=
  result.2.toOption.bind Evaluation.wape

/-- `ranked[0]` -/
def rankedFirst (results : List (String × Except String (Evaluation F))) : Option String :=
  (firstBest (fun result best => (resultWape result).any fun wape =>
      (resultWape best).any fun least => decide (wape < least))
    (results.filter fun result => (resultWape result).isSome)).map Prod.fst

/-- The test of the selected candidate, and its fit to all rows. -/
def testProvisional (rows : List (ObservedRow F)) (weekly : Bool) (testIndex season : Nat)
    (name : String) : Except Raised (ProvisionalState S × Evaluation F) := do
  let testState ← fitProvisional M name (rows.take testIndex) season
  let test ← evaluate A M testState (rows.drop testIndex) weekly
  let state ← fitProvisional M name rows season
  let _ ← M.project state.fitted 1
  pure (state, test)

def holdoutOf (observed : Nat) : Nat := min 6 (max 1 (observed / 5))

/-- The first period of the test window. -/
def testIndexOf (rows : List (ObservedRow F)) : Nat :=
  let observed := observedIndices rows
  observed.getD (observed.length - holdoutOf observed.length) 0

/-- The first period of the validation window. -/
def validationIndexOf (rows : List (ObservedRow F)) : Nat :=
  let observed := observedIndices rows
  observed.getD (observed.length - 2 * holdoutOf observed.length) 0

/-- `provisional.train` -/
def trainProvisional (rows : List (ObservedRow F)) (weekly : Bool) :
    Except Raised (ProvisionalResult F S) := do
  let observed := (observedIndices rows).length
  let season := if weekly then 52 else 12
  -- every ending but the last one reports the same fields
  let ended (status : String) (validation : List (String × Except String (Evaluation F)))
      (selected : Option String) (failure : Option (String × String)) :
      ProvisionalResult F S :=
    { status := status
      state := none
      validation := validation
      test := none
      selectedCandidate := selected
      fitFailure := failure
      seasonalTermsEnabled := false
      observedPeriods := observed
      missingPeriods := rows.length - observed }
  if observed < 6 then
    pure (ended "insufficient_data" [] none none)
  else do
    -- the candidate is chosen on the months before the test
    let results ← validateProvisional A M rows weekly (validationIndexOf rows) (testIndexOf rows)
      season
    match rankedFirst results with
    | none => pure (ended "fit_failed" results none none)
    | some name => do
        -- a fit that fails names its candidate and its reason
        match ← attempt (testProvisional A M rows weekly (testIndexOf rows) season name) with
        | .error reason => pure (ended "fit_failed" results (some name) (some (name, reason)))
        | .ok (state, test) =>
            pure
              { status := "provisional"
                state := some state
                validation := results
                test := some test
                selectedCandidate := none
                fitFailure := none
                seasonalTermsEnabled := decide (name = "seasonal_ar")
                observedPeriods := observed
                missingPeriods := rows.length - observed }

end Provisional

end Forecasting
end RosarioDairy
