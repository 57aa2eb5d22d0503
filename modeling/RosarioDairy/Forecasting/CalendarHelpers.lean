import RosarioDairy.Forecasting.Prospective

/-!
# CalendarHelpers — the calendar of the chart and of its readiness

The chart and the description of its readiness compute the periods of a day and the steps between
periods on their own; a period of the readiness that is no week is a month.
-/

namespace RosarioDairy
namespace Forecasting

/-! ## The chart -/

namespace Chart

/-- `period_start` -/
def periodStart (day : Int) : Period → Int
  | .weekly => day - weekday day
  | .yearly =>
      Day.ofYmd
        { year := Day.year day
          month := 1
          day := 1 }
  | .monthly =>
      Day.ofYmd
        { year := Day.year day
          month := Day.month day
          day := 1 }

/-- `period_end` -/
def periodEnd (day : Int) : Period → Int
  | .weekly => periodStart day .weekly + 6
  | .yearly =>
      Day.ofYmd
        { year := Day.year day
          month := 12
          day := 31 }
  | .monthly => monthEnd day

end Chart

/-! ## The readiness of the chart -/

namespace GraphReadiness

/-- `_start` -/
def start (day : Int) : Period → Int
  | .weekly => day - weekday day
  | _ =>
      Day.ofYmd
        { year := Day.year day
          month := Day.month day
          day := 1 }

/-- `_steps` -/
def steps (origin target : Option Int) (unit : Period) : Option Int :=
  match origin, target with
  | some origin, some target =>
      match unit with
      | .weekly => some ((target - origin) / 7)
      | _ =>
          some (((Day.year target : Int) - Day.year origin) * 12 + Day.month target
            - Day.month origin)
  | _, _ => none

/-- `_previous` -/
def previous (day : Int) : Period → Int
  | .weekly => day - 7
  | _ =>
      let index := (Day.year day : Int) * 12 + Day.month day - 2
      Day.ofYmd
        { year := (index / 12).toNat
          month := (index % 12).toNat + 1
          day := 1 }

end GraphReadiness

end Forecasting
end RosarioDairy
