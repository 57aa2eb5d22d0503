import RosarioDairy.Forecasting.Benchmarks

/-!
# Seasonal — portable fitted states

Which saved states are accepted as one of the fixed monthly SARIMA models.  A state is a JSON object;
here it is read field by field, and an object with a missing field or a field of another type is no
`Artifact` at all; `remaining` is the text of the fields that nothing reads.
-/

namespace RosarioDairy
namespace Forecasting

structure SarimaConfig where
  order : List Int
  seasonalOrder : List Int
  trend : String
  deriving DecidableEq, Repr

/-- `SARIMA_CONFIGS`, in its order. -/
def sarimaConfigs : List (String × SarimaConfig) :=
  [("sarima_000_100_12",
      { order := [0, 0, 0]
        seasonalOrder := [1, 0, 0, 12]
        trend := "c" }),
    ("sarima_100_100_12",
      { order := [1, 0, 0]
        seasonalOrder := [1, 0, 0, 12]
        trend := "c" }),
    ("sarima_010_100_12",
      { order := [0, 1, 0]
        seasonalOrder := [1, 0, 0, 12]
        trend := "n" }),
    ("sarima_110_100_12",
      { order := [1, 1, 0]
        seasonalOrder := [1, 0, 0, 12]
        trend := "n" }),
    ("sarima_011_100_12",
      { order := [0, 1, 1]
        seasonalOrder := [1, 0, 0, 12]
        trend := "n" })]

def minSarimaTrainingMonths : Nat := 18

structure Artifact (F : Type) where
  family : String
  name : String
  order : List Int
  seasonalOrder : List Int
  trend : String
  scale : F
  normalizedHistory : List F
  params : List F
  paramNames : List String
  converged : Bool
  trainedThrough : Int
  targetMonth : Int
  trainingMonths : Nat
  remaining : String
  deriving DecidableEq, Repr

/-- `is_sarima_artifact`; `parameterNames` are the names the library gives a model's parameters. -/
def isSarimaArtifact {F : Type} [LinearOrder F] (A : Arithmetic F)
    (parameterNames : String → List String) (state : Artifact F) : Bool :=
  match sarimaConfigs.lookup state.name with
  | none => false
  | some spec =>
      decide (minSarimaTrainingMonths ≤ state.trainingMonths)
        && decide (state.normalizedHistory.length = state.trainingMonths)
        && A.isFinite state.scale && decide (A.ofNat 0 < state.scale)
        && state.normalizedHistory.all (fun value => A.isFinite value && decide (A.ofNat 0 ≤ value))
        && state.params.all A.isFinite
        && decide (state.family = "SARIMA") && state.converged
        && decide (state.order = spec.order) && decide (state.seasonalOrder = spec.seasonalOrder)
        && decide (state.trend = spec.trend)
        && decide (state.paramNames = parameterNames state.name)
        && decide (state.params.length = state.paramNames.length)
        && state.params.getLast?.any (fun variance => decide (A.ofNat 0 ≤ variance))

end Forecasting
end RosarioDairy
