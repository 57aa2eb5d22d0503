import Mathlib.Order.Defs.LinearOrder
import RosarioDairy.Calendar

/-!
# Benchmarks — floating-point scores of predictions

The scores compare predictions with what was recorded.  Their arithmetic is that of the platform's
floating-point numbers: a type with a linear order (every number a score can meet compares with every
other) and the operations the scores apply, of which nothing else is assumed.
-/

namespace RosarioDairy
namespace Forecasting

/-- The floating-point operations of the forecasting code; `ofCents` is `float(amount)` of an amount
in centavos and `toCents` is `Decimal(str(value))` of a value that has been rounded to them. -/
structure Arithmetic (F : Type) where
  ofCents : Int → F
  toCents : F → Int
  ofNat : Nat → F
  isFinite : F → Bool
  add : F → F → F
  sub : F → F → F
  mul : F → F → F
  div : F → F → F
  abs : F → F
  sum : List F → F
  round : F → Nat → F

section Scores

variable {F : Type} [LinearOrder F] (A : Arithmetic F)

/-- What a score reads of a row. -/
structure Compared (F : Type) where
  actual : F
  predicted : F
  deriving DecidableEq, Repr

structure Score (F : Type) where
  periods : Nat
  wapePercent : Option F
  mae : Option F
  bias : Option F
  deriving DecidableEq, Repr

def score (rows : List (Compared F)) : Score F :=
  let total := A.sum (rows.map fun row => A.abs row.actual)
  let error := A.sum (rows.map fun row => A.abs (A.sub row.predicted row.actual))
  let bias := A.sum (rows.map fun row => A.sub row.predicted row.actual)
  let count := A.ofNat rows.length
  { periods := rows.length
    wapePercent :=
      if total = A.ofNat 0 then none
      else some (A.round (A.div (A.mul (A.ofNat 100) error) total) 4)
    mae := if rows = [] then none else some (A.round (A.div error count) 2)
    bias := if rows = [] then none else some (A.round (A.div bias count) 2) }

end Scores

end Forecasting
end RosarioDairy
