import RosarioDairy.Foundations.Binary64
import RosarioDairy.Forecasting.Prospective

/-!
# Weekly model — training on weekly rows, and checking what was trained

`train_weekly` walks every candidate through the validation weeks, chooses the best fitted model and
the best simple baseline there, walks both through the test weeks and fits the chosen model once more
on everything.  `_valid_findings` recomputes all of this from the retained folds, for any rows.
Fitting itself is a parameter.
-/

namespace RosarioDairy
namespace Forecasting
namespace Weekly

open Foundations

/-! ## Candidates -/

def version : String := "regular-weekly-sarima-v1"
def minTrain : Nat := 104
def validationWeeks : Nat := 13
def testWeeks : Nat := 13
def minWeeks : Nat := minTrain + validationWeeks + testWeeks

/-- The keys of `CONFIGS`. -/
inductive Config
  | weeklySarima010
  | weeklySarima100
  | weeklySarima011
  deriving DecidableEq, Repr

/-- `BASELINES` -/
inductive Baseline
  | previousWeek
  | trailing4Mean
  | sameWeekLastYear
  deriving DecidableEq, Repr

inductive CandidateName
  | config (name : Config)
  | baseline (name : Baseline)
  deriving DecidableEq, Repr

def configs : List Config := [.weeklySarima010, .weeklySarima100, .weeklySarima011]

def baselines : List Baseline := [.previousWeek, .trailing4Mean, .sameWeekLastYear]

/-- `(*CONFIGS, *BASELINES)` -/
def names : List CandidateName := configs.map .config ++ baselines.map .baseline

def CandidateName.config? : CandidateName → Option Config
  | .config name => some name
  | .baseline _ => none

def CandidateName.baseline? : CandidateName → Option Baseline
  | .config _ => none
  | .baseline name => some name

structure Specification where
  order : List Nat
  seasonalOrder : List Nat
  trend : String
  deriving DecidableEq, Repr

def Config.specification : Config → Specification
  | .weeklySarima010 =>
      { order := [0, 1, 0]
        seasonalOrder := [1, 0, 0, 52]
        trend := "n" }
  | .weeklySarima100 =>
      { order := [1, 0, 0]
        seasonalOrder := [1, 0, 0, 52]
        trend := "c" }
  | .weeklySarima011 =>
      { order := [0, 1, 1]
        seasonalOrder := [1, 0, 0, 52]
        trend := "n" }

/-! ## Numbers -/

/-- A decimal number of the source. -/
def literal (numerator : Int) (denominator : Nat) : Double := .ofRat (numerator / denominator)

def zero : Double := literal 0 1

/-- `1e18` -/
def currencyLimit : Double := literal (10 ^ 18) 1

/-- `.005` -/
def tolerance : Double := literal 5 1000

/-- `math.isclose(a, b, rel_tol=0, abs_tol=.005)` -/
def close (a b : Double) : Bool := Double.isClose tolerance a b

/-- `0 <= value < 1e18`, for a finite value -/
def isCurrency (value : Double) : Bool :=
  value.isFinite && zero.le value && value.lt currencyLimit

/-- `_currency` -/
def currency (value : Double) : Except String Double :=
  if value.isFinite = false ∨ currencyLimit.le value = true then
    .error "Weekly prediction is outside supported currency precision."
  else
    .ok ((if zero.lt value then value else zero).roundPlaces 2)

/-! ## Rows and artifacts -/

structure Row where
  date : Int
  revenue : Double
  deriving DecidableEq

/-- `rows[index]` -/
def rowAt (rows : List Row) (index : Nat) : Row :=
  rows.getD index
    { date := 0
      revenue := .nan }

structure Artifact where
  name : Config
  family : String
  converged : Bool
  statsmodelsVersion : String
  trainingWeeks : Nat
  normalizedHistory : List Double
  scale : Double
  params : List Double
  paramNames : Option (List String)
  specification : Specification
  trainedThrough : Int
  targetWeek : Int
  deriving DecidableEq

/-- What the checks read of the statistics library. -/
structure Statsmodels where
  version : String
  parameterNames : Config → List String

/-- `key.startswith(('ar.', 'ma.'))` -/
def isLagParameter (key : String) : Bool :=
  "ar.".toList.isPrefixOf key.toList || "ma.".toList.isPrefixOf key.toList

/-- `valid_weekly_artifact` -/
def validWeeklyArtifact (library : Statsmodels) (state : Artifact) : Bool :=
  let parameterNames := library.parameterNames state.name
  let named := parameterNames.zip state.params
  state.family == "SARIMA" && state.converged && state.statsmodelsVersion == library.version &&
    decide (minTrain ≤ state.trainingWeeks) &&
    state.normalizedHistory.length == state.trainingWeeks &&
    state.scale.isFinite && zero.lt state.scale &&
    state.params.length == parameterNames.length &&
    state.paramNames.getD parameterNames == parameterNames &&
    state.params.all Double.isFinite &&
    (named.find? fun entry => entry.1 == "sigma2").any (fun entry => zero.le entry.2) &&
    (named.all fun entry => !isLagParameter entry.1 || entry.2.abs.lt (literal 1 1)) &&
    (state.normalizedHistory.all fun value => value.isFinite && zero.le value) &&
    decide (state.specification = state.name.specification) &&
    weekday state.trainedThrough == 0 && state.targetWeek - state.trainedThrough == 7

/-! ## Folds and scores -/

structure Fold where
  date : Int
  trainedThrough : Int
  actual : Double
  predicted : Double
  deriving DecidableEq

/-- The result of `score`. -/
structure Metrics where
  periods : Nat
  wapePercent : Option Double
  mae : Option Double
  bias : Option Double
  deriving DecidableEq

/-- `score` -/
def score (folds : List Fold) : Metrics :=
  let total := Double.sum (folds.map fun row => row.actual.abs)
  let error := Double.sum (folds.map fun row => (row.predicted.sub row.actual).abs)
  let bias := Double.sum (folds.map fun row => row.predicted.sub row.actual)
  let count := literal folds.length 1
  { periods := folds.length
    wapePercent :=
      if total.beq zero then none
      else some ((((literal 100 1).mul error).div total).roundPlaces 4)
    mae := if folds = [] then none else some ((error.div count).roundPlaces 2)
    bias := if folds = [] then none else some ((bias.div count).roundPlaces 2) }

/-- Equality of two metrics values, which may be absent. -/
def sameMetric : Option Double → Option Double → Bool
  | none, none => true
  | some a, some b => a.beq b
  | _, _ => false

/-- `metrics == other` -/
def Metrics.same (metrics other : Metrics) : Bool :=
  metrics.periods == other.periods && sameMetric metrics.wapePercent other.wapePercent &&
    sameMetric metrics.mae other.mae && sameMetric metrics.bias other.bias

structure Candidate where
  validation : Option Metrics
  validationRows : Option (List Fold)
  failed : Option String
  test : Option Metrics
  testRows : Option (List Fold)
  testFailed : Option String
  deriving DecidableEq

/-- `c.get('validation', {}).get('wape_percent')` -/
def Candidate.wapePercent (candidate : Candidate) : Option Double :=
  candidate.validation.bind Metrics.wapePercent

/-- `min(names, key=key)`: the first name with the least key. -/
def minBy {α : Type} (key : α → Double) : List α → Option α
  | [] => none
  | first :: rest =>
      some (rest.foldl (fun best next => if (key next).lt (key best) then next else best) first)

/-! ## Training -/

structure NextWeek where
  date : Int
  predictedRevenue : Double
  lowerBound : Double
  upperBound : Double
  sampleCount : Nat
  deriving DecidableEq

/-- What a successful training returns, apart from texts. -/
structure Findings (D : Type) where
  engineVersion : String
  selectedCandidate : Config
  selectedBaseline : Baseline
  selectionBasis : String
  trainingWeeks : Nat
  validationStart : Int
  validationEnd : Int
  testStart : Int
  testEnd : Int
  selectedTest : Metrics
  baselineTest : Metrics
  artifact : Artifact
  artifactSha256 : D
  nextWeek : NextWeek
  candidates : List (CandidateName × Candidate)

/-- The results of `train_weekly`, by status. -/
inductive Trained (D : Type)
  | insufficientHistory (availableWeeks requiredWeeks : Nat)
  | noValidCandidates (candidates : List (CandidateName × Candidate))
  | selectedModelFailed (selected : Config) (reason : Option String)
      (candidates : List (CandidateName × Candidate))
  | researchCandidate (findings : Findings D)

/-- `fit_weekly`: an artifact and the prediction of the next week. -/
abbrev Fit : Type := Config → List Row → Except String (Artifact × Double)

/-- `_baseline` -/
def Baseline.value (name : Baseline) (values : List Double) : Double :=
  match name with
  | .previousWeek => values.getD (values.length - 1) .nan
  | .trailing4Mean => (Double.sum (values.drop (values.length - 4))).div (literal 4 1)
  | .sameWeekLastYear => values.getD (values.length - 52) .nan

section Training

variable {D : Type} (digest : Artifact → D) (fit : Fit)

def predict (name : CandidateName) (rows : List Row) : Except String Double :=
  match name with
  | .config name => (fit name rows).map Prod.snd
  | .baseline name => currency (name.value (rows.map Row.revenue))

/-- One step of `walk_weekly`. -/
def foldAt (name : CandidateName) (rows : List Row) (i : Nat) : Except String Fold := do
  let value ← predict fit name (rows.take i)
  return { date := (rowAt rows i).date
           trainedThrough := (rowAt rows (i - 1)).date
           actual := (rowAt rows i).revenue
           predicted := value }

/-- `walk_weekly`, over the weeks `start` to `start + weeks - 1` -/
def walkWeekly (name : CandidateName) (rows : List Row) (start weeks : Nat) :
    Except String (List Fold) :=
  (List.range' start weeks).mapM (foldAt fit name rows)

/-- A candidate after the validation weeks. -/
def validated (rows : List Row) (name : CandidateName) : Candidate :=
  match walkWeekly fit name rows (rows.length - testWeeks - validationWeeks) validationWeeks with
  | .ok folds =>
      { validation := some (score folds)
        validationRows := some folds
        failed := none
        test := none
        testRows := none
        testFailed := none }
  | .error reason =>
      { validation := none
        validationRows := none
        failed := some reason
        test := none
        testRows := none
        testFailed := none }

/-- A candidate after the test weeks, which only eligible candidates reach. -/
def tested (rows : List Row) (name : CandidateName) : Candidate :=
  let candidate := validated fit rows name
  if candidate.wapePercent.isSome then
    match walkWeekly fit name rows (rows.length - testWeeks) testWeeks with
    | .ok folds =>
        { candidate with
          test := some (score folds)
          testRows := some folds }
    | .error reason => { candidate with testFailed := some reason }
  else candidate

/-- The width of the error band: the value at the ninth decile of the sorted errors. -/
def bandWidth (folds : List Fold) : Double :=
  let errors := (folds.map fun row => (row.predicted.sub row.actual).abs).mergeSort Double.le
  errors.getD (min (errors.length - 1) ((9 * (errors.length + 1) + 9) / 10 - 1)) .nan

/-- `round(max(0, value), 2)` -/
def lowerBound (value : Double) : Double :=
  (if zero.lt value then value else zero).roundPlaces 2

/-- `train_weekly` -/
def trainWeekly (rows : List Row) : Trained D :=
  if rows.length < minWeeks then .insufficientHistory rows.length minWeeks
  else
    let wape := fun name => ((validated fit rows name).wapePercent).getD .nan
    -- a candidate without a validation error cannot be chosen
    let eligible := names.filter fun name => (validated fit rows name).wapePercent.isSome
    let candidates := names.map fun name => (name, tested fit rows name)
    match minBy (wape ∘ .config) (eligible.filterMap CandidateName.config?),
        minBy (wape ∘ .baseline) (eligible.filterMap CandidateName.baseline?) with
    | some selected, some baseline =>
        match (tested fit rows (.config selected)).test, (tested fit rows (.baseline baseline)).test,
            (tested fit rows (.config selected)).testRows with
        | some selectedTest, some baselineTest, some folds =>
            -- the chosen configuration is fitted again on all weeks
            match fit selected rows with
            | .error reason => .selectedModelFailed selected (some reason) candidates
            | .ok (artifact, value) =>
                -- the band around the prediction is measured on the test weeks
                let width := bandWidth folds
                .researchCandidate
                  { engineVersion := version
                    selectedCandidate := selected
                    selectedBaseline := baseline
                    selectionBasis := "earlier_validation_weekly_wape"
                    trainingWeeks := rows.length
                    validationStart := (rowAt rows (rows.length - testWeeks - validationWeeks)).date
                    validationEnd := (rowAt rows (rows.length - testWeeks - 1)).date
                    testStart := (rowAt rows (rows.length - testWeeks)).date
                    testEnd := (rowAt rows (rows.length - 1)).date
                    selectedTest := selectedTest
                    baselineTest := baselineTest
                    artifact := artifact
                    artifactSha256 := digest artifact
                    nextWeek :=
                      { date := artifact.targetWeek
                        predictedRevenue := value
                        lowerBound := lowerBound (value.sub width)
                        upperBound := (value.add width).roundPlaces 2
                        sampleCount := folds.length }
                    candidates := candidates }
        | _, _, _ => .selectedModelFailed selected none candidates
    | _, _ => .noValidCandidates (names.map fun name => (name, validated fit rows name))

end Training

/-! ## Checking -/

/-- One round of the loop of `_valid_folds`. -/
def validFold (rows : List Row) (entry : Fold × Nat) : Bool :=
  entry.1.date == (rowAt rows entry.2).date &&
    entry.1.trainedThrough == (rowAt rows (entry.2 - 1)).date &&
    entry.1.actual.isFinite && close entry.1.actual (rowAt rows entry.2).revenue &&
    isCurrency entry.1.predicted

/-- `_valid_folds`, over the weeks `start` to `start + weeks - 1` -/
def validFolds (folds : List Fold) (rows : List Row) (start weeks : Nat) : Bool :=
  folds.length == weeks && (folds.zipIdx start).all (validFold rows)

/-- One round of the loop over the candidates. -/
def validCandidate (rows : List Row) (candidate : Candidate) : Bool :=
  match candidate.validationRows with
  | none => true
  | some [] => true
  | some folds =>
      validFolds folds rows (rows.length - testWeeks - validationWeeks) validationWeeks &&
        candidate.validation.any (Metrics.same (score folds))

/-- `eligible.get(name)`: the recomputed validation error of a candidate with folds. -/
def eligibleWape (candidates : List (CandidateName × Candidate)) (name : CandidateName) :
    Option Double :=
  (candidates.lookup name).bind fun candidate =>
    match candidate.validationRows with
    | none => none
    | some [] => none
    | some folds => (score folds).wapePercent

/-- The check of the retained test outcome of a winner. -/
def validTest (candidates : List (CandidateName × Candidate)) (rows : List Row) (name : CandidateName)
    (metrics : Metrics) : Bool :=
  (candidates.lookup name).any fun candidate =>
    candidate.testRows.any fun folds =>
      validFolds folds rows (rows.length - testWeeks) testWeeks && (score folds).same metrics &&
        candidate.test.any fun test => test.same metrics

/-- `_valid_findings` -/
def validFindings {D : Type} [DecidableEq D] (library : Statsmodels) (digest : Artifact → D)
    (findings : Findings D) (rows : List Row) : Bool :=
  let artifact := findings.artifact
  let wape := fun name => (eligibleWape findings.candidates name).getD .nan
  let primaries := configs.filter fun name => (eligibleWape findings.candidates (.config name)).isSome
  let comparisons := baselines.filter fun name =>
    (eligibleWape findings.candidates (.baseline name)).isSome
  findings.engineVersion == version &&
    findings.selectionBasis == "earlier_validation_weekly_wape" &&
    decide (minWeeks ≤ rows.length) && findings.trainingWeeks == rows.length &&
    validWeeklyArtifact library artifact && decide (digest artifact = findings.artifactSha256) &&
    decide (findings.selectedCandidate = artifact.name) &&
    artifact.trainingWeeks == rows.length &&
    artifact.trainedThrough == (rowAt rows (rows.length - 1)).date &&
    ((artifact.normalizedHistory.zip rows).all fun entry =>
      close (entry.1.mul artifact.scale) entry.2.revenue) &&
    findings.validationStart == (rowAt rows (rows.length - testWeeks - validationWeeks)).date &&
    findings.validationEnd == (rowAt rows (rows.length - testWeeks - 1)).date &&
    findings.testStart == (rowAt rows (rows.length - testWeeks)).date &&
    findings.testEnd == (rowAt rows (rows.length - 1)).date &&
    (findings.candidates.all fun entry => validCandidate rows entry.2) &&
    decide (minBy (wape ∘ .config) primaries = some findings.selectedCandidate) &&
    decide (minBy (wape ∘ .baseline) comparisons = some findings.selectedBaseline) &&
    validTest findings.candidates rows (.config findings.selectedCandidate) findings.selectedTest &&
    validTest findings.candidates rows (.baseline findings.selectedBaseline) findings.baselineTest

end Weekly
end Forecasting
end RosarioDairy
