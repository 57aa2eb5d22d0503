import RosarioDairy.Foundations.Tilings
import RosarioDairy.Forecasting.CalendarHelpers
import RosarioDairy.Forecasting.MonthRuns

/-!
# CalendarTilings — weeks, months and years as tilings of the calendar

The weeks, the months and the years are counted from the first day of the calendar, which is a Monday;
a year is twelve months taken together.
-/

namespace RosarioDairy
namespace Forecasting

open Foundations

/-! ## Months -/

/-- The first day of a month, counted from January of year 1. -/
def firstOfMonth (i : Nat) : Int :=
  Day.ofYmd
    { year := i / 12 + 1
      month := i % 12 + 1
      day := 1 }

def monthIndex (day : Int) : Nat := (Day.year day - 1) * 12 + (Day.month day - 1)

theorem firstOfMonth_eq (i : Nat) :
    firstOfMonth i = ((Day.daysBeforeYear (i / 12 + 1) +
      Day.preceding (Day.isLeap (i / 12 + 1)) (i % 12 + 1) + 1 : Nat) : Int) := by
  unfold firstOfMonth
  rw [Day.ofYmd_first]
  push_cast
  rfl

theorem isMonth_firstOfMonth (i : Nat) : IsMonth (firstOfMonth i) :=
  ⟨i / 12 + 1, i % 12 + 1, by omega, by omega, by omega, firstOfMonth_eq i⟩

theorem toYmd_firstOfMonth (i : Nat) :
    Day.toYmd (firstOfMonth i) =
      { year := i / 12 + 1
        month := i % 12 + 1
        day := 1 } := by
  have hlt : Day.preceding (Day.isLeap (i / 12 + 1)) (i % 12 + 1) <
      Day.preceding (Day.isLeap (i / 12 + 1)) (i % 12 + 1 + 1) :=
    Day.preceding_mono _ _ (by omega) _ (Nat.lt_succ_self _) (by omega)
  rw [firstOfMonth_eq, Day.toYmd_of_month (by omega) (by omega) (by omega) (Nat.le_refl _) hlt,
    Nat.sub_self]

theorem monthIndex_firstOfMonth (i : Nat) : monthIndex (firstOfMonth i) = i := by
  unfold monthIndex Day.year Day.month
  rw [toYmd_firstOfMonth]
  simp only
  omega

section Days

variable {day : Int} (hday : 1 ≤ day)
include hday

theorem year_eq : Day.year day = monthIndex day / 12 + 1 := by
  obtain ⟨hyear, hfirst, hlast, _⟩ := Day.first_of_month hday
  unfold monthIndex Day.year Day.month
  omega

theorem month_eq : Day.month day = monthIndex day % 12 + 1 := by
  obtain ⟨hyear, hfirst, hlast, _⟩ := Day.first_of_month hday
  unfold monthIndex Day.year Day.month
  omega

/-- The number of months since January of year 0. -/
theorem monthIndex_eq : (Day.year day : Int) * 12 + Day.month day = monthIndex day + 13 := by
  rw [year_eq hday, month_eq hday]
  omega

theorem ofYmd_month :
    Day.ofYmd
      { year := Day.year day
        month := Day.month day
        day := 1 } = firstOfMonth (monthIndex day) := by
  rw [year_eq hday, month_eq hday]
  rfl

theorem monthStart_eq_firstOfMonth : monthStart day = firstOfMonth (monthIndex day) := by
  rw [← ofYmd_month hday]
  exact (Day.first_of_month hday).2.2.2.1.symm

/-- A month is shifted along the months, as long as it stays in the calendar. -/
theorem shiftMonth_eq_firstOfMonth {n : Int} {i : Nat} (hi : (monthIndex day : Int) + n = i) :
    shiftMonth day n = firstOfMonth i := by
  have hindex : (Day.year day : Int) * 12 + Day.month day - 1 + n = ((i + 12 : Nat) : Int) := by
    rw [monthIndex_eq hday]
    push_cast
    omega
  have hyear : (((i + 12 : Nat) : Int) / 12).toNat = i / 12 + 1 := by omega
  have hmonth : (((i + 12 : Nat) : Int) % 12).toNat + 1 = i % 12 + 1 := by omega
  unfold shiftMonth
  simp only [hindex]
  rw [hyear, hmonth]
  rfl

end Days

theorem one_le_firstOfMonth (i : Nat) : 1 ≤ firstOfMonth i := (isMonth_firstOfMonth i).days.1

theorem firstOfMonth_succ (i : Nat) : firstOfMonth (i + 1) = monthEnd (firstOfMonth i) + 1 := by
  rw [← (isMonth_firstOfMonth i).shiftMonth]
  refine (shiftMonth_eq_firstOfMonth (one_le_firstOfMonth i) ?_).symm
  rw [monthIndex_firstOfMonth]
  push_cast
  rfl

/-! ## The tilings -/

def monthTiling : Tiling :=
  { first := firstOfMonth
    index := monthIndex
    first_lt := by
      intro i
      rw [firstOfMonth_succ]
      exact Int.lt_add_one_of_le (isMonth_firstOfMonth i).days.2.1
    first_index_le := by
      intro day hday
      have hone : 1 ≤ day := (one_le_firstOfMonth 0).trans hday
      rw [← monthStart_eq_firstOfMonth hone]
      exact (isMonth_monthStart hone).2
    lt_first_index := by
      intro day hday
      have hone : 1 ≤ day := (one_le_firstOfMonth 0).trans hday
      rw [firstOfMonth_succ, ← monthStart_eq_firstOfMonth hone]
      exact Int.lt_add_one_of_le (le_monthEnd hone) }

/-- The first day of the calendar is a Monday. -/
def weekTiling : Tiling :=
  { first := fun i => 7 * i + 1
    index := fun day => ((day - 1) / 7).toNat
    first_lt := by
      intro i
      push_cast
      omega
    first_index_le := by
      intro day hday
      omega
    lt_first_index := by
      intro day hday
      push_cast
      omega }

def tiling : Period → Tiling
  | .weekly => weekTiling
  | .monthly => monthTiling
  | .yearly => monthTiling.coarsen 12 (by decide)

/-- The calendar begins on its first day. -/
theorem tiling_first_zero (period : Period) : (tiling period).first 0 = 1 := by
  cases period with
  | weekly => rfl
  | monthly => decide
  | yearly => decide

end Forecasting
end RosarioDairy
