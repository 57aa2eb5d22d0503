import RosarioDairy.Forecasting.CalendarTilings
import RosarioDairy.Forecasting.GraphHistory
import RosarioDairy.Forecasting.GraphRange
import RosarioDairy.Forecasting.WeeklyRows

/-!
# CalendarAgreement — one calendar in all modules

Every calendar helper of the forecasts is an operation of the tiling of its period: the first day of the
bucket of a day, the last one, so many buckets on, or the number of buckets between two days.
-/

namespace RosarioDairy
namespace Forecasting

open Foundations

section Buckets

variable {day : Int} (hday : 1 ≤ day) (period : Period)
include hday

theorem first_zero_le_day : (tiling period).first 0 ≤ day := by
  rw [tiling_first_zero]
  exact hday

/-! ## The bucket of a day -/

theorem weekStart_eq :
    day - weekday day = weekTiling.first (weekTiling.index day) := by
  simp only [weekTiling, weekday]
  omega

theorem ofYmd_year :
    Day.ofYmd
      { year := Day.year day
        month := 1
        day := 1 } = (tiling .yearly).first ((tiling .yearly).index day) := by
  have hyear : 12 * (monthIndex day / 12) / 12 + 1 = Day.year day := by
    rw [year_eq hday]
    omega
  have hmonth : 12 * (monthIndex day / 12) % 12 + 1 = 1 := by omega
  have hfirst : (tiling .yearly).first ((tiling .yearly).index day) =
      firstOfMonth (12 * (monthIndex day / 12)) := rfl
  rw [hfirst, firstOfMonth, hyear, hmonth]

theorem periodStart_eq :
    Chart.periodStart day period = (tiling period).first ((tiling period).index day) := by
  cases period with
  | weekly => exact weekStart_eq hday
  | monthly => exact ofYmd_month hday
  | yearly => exact ofYmd_year hday

theorem boundary_eq : boundary day period = Chart.periodStart day period := by
  cases period with
  | weekly => rfl
  | monthly => exact (monthStart_eq_firstOfMonth hday).trans (ofYmd_month hday).symm
  | yearly => rfl

theorem monthEnd_eq_firstOfMonth : monthEnd day = firstOfMonth (monthIndex day + 1) - 1 := by
  have hsame : monthEnd day = monthEnd (firstOfMonth (monthIndex day)) := by
    unfold monthEnd
    rw [year_eq hday, month_eq hday, year_eq (one_le_firstOfMonth _), month_eq (one_le_firstOfMonth _),
      monthIndex_firstOfMonth]
  rw [hsame, firstOfMonth_succ, Int.add_sub_cancel]

/-- The last day of a year is the day before the next one. -/
theorem ofYmd_lastOfYear :
    Day.ofYmd
      { year := Day.year day
        month := 12
        day := 31 } = (tiling .yearly).first ((tiling .yearly).index day + 1) - 1 := by
  have hlast : Day.ofYmd
      { year := Day.year day
        month := 12
        day := 31 } = Day.daysBeforeYear (Day.year day + 1) := by
    have hone : 1 ≤ Day.year day := by
      rw [year_eq hday]
      exact Nat.succ_pos _
    rw [Day.daysBeforeYear_succ hone, Day.leapDays_eq, Day.ofYmd]
    cases Day.isLeap (Day.year day) with
    | true => simp [Day.daysBeforeMonth]; omega
    | false => simp [Day.daysBeforeMonth]; omega
  have hnext : (tiling .yearly).first ((tiling .yearly).index day + 1) =
      firstOfMonth (12 * (monthIndex day / 12 + 1)) := rfl
  have hyear : 12 * (monthIndex day / 12 + 1) / 12 + 1 = Day.year day + 1 := by
    rw [year_eq hday]
    omega
  have hmonth : 12 * (monthIndex day / 12 + 1) % 12 + 1 = 1 := by omega
  have hjanuary : ∀ leap, Day.preceding leap 1 = 0 := by decide
  rw [hlast, hnext, firstOfMonth_eq, hyear, hmonth, hjanuary]
  push_cast
  omega

theorem periodEnd_eq :
    Chart.periodEnd day period = (tiling period).first ((tiling period).index day + 1) - 1 := by
  cases period with
  | weekly =>
      have hfirst : Chart.periodEnd day .weekly = Chart.periodStart day .weekly + 6 := rfl
      rw [hfirst, periodStart_eq hday]
      simp only [tiling, weekTiling]
      push_cast
      omega
  | monthly => exact monthEnd_eq_firstOfMonth hday
  | yearly => exact ofYmd_lastOfYear hday

end Buckets

/-! ## Steps -/

section Steps

variable {day : Int} (hday : 1 ≤ day)
include hday

/-- Months and years on, from any day. -/
theorem advance_eq {period : Period} (hperiod : period ≠ .weekly) (n : Nat) :
    Graph.advance day period n = (tiling period).first ((tiling period).index day + n) := by
  cases period with
  | weekly => exact absurd rfl hperiod
  | monthly => exact shiftMonth_eq_firstOfMonth hday (by push_cast; rfl)
  | yearly =>
      have hyear : ((Day.year day : Int) + n).toNat = 12 * (monthIndex day / 12 + n) / 12 + 1 := by
        rw [year_eq hday]
        omega
      have hmonth : 12 * (monthIndex day / 12 + n) % 12 + 1 = 1 := by omega
      have hfirst : (tiling .yearly).first ((tiling .yearly).index day + n) =
          firstOfMonth (12 * (monthIndex day / 12 + n)) := rfl
      have hadvance : Graph.advance day .yearly n = Graph.firstOfYear ((Day.year day : Int) + n) := rfl
      rw [hadvance, Graph.firstOfYear, hyear, hfirst, firstOfMonth, hmonth]

/-- Any number of steps is taken at once. -/
theorem advance_advance (period : Period) (m n : Nat) :
    Graph.advance (Graph.advance day period m) period n = Graph.advance day period (m + n) := by
  by_cases hperiod : period = .weekly
  · subst hperiod
    simp only [Graph.advance]
    omega
  · have hfirst : 1 ≤ (tiling period).first ((tiling period).index day + m) := by
      rw [← tiling_first_zero period]
      exact Tiling.first_zero_le _
    have hsum : Graph.advance day period (m + n) =
        (tiling period).first ((tiling period).index day + (m + n)) := advance_eq hday hperiod (m + n)
    rw [advance_eq hday hperiod, advance_eq hfirst hperiod, Tiling.index_first, hsum, Nat.add_assoc]

/-- Months back undo as many months on. -/
theorem shiftMonth_neg (hfirst : (Day.toYmd day).day = 1) (n : Nat) :
    shiftMonth (shiftMonth day n) (-n) = day := by
  have hon : shiftMonth day n = firstOfMonth (monthIndex day + n) :=
    shiftMonth_eq_firstOfMonth hday (by push_cast; rfl)
  have hback : shiftMonth (firstOfMonth (monthIndex day + n)) (-n) = firstOfMonth (monthIndex day) := by
    refine shiftMonth_eq_firstOfMonth (one_le_firstOfMonth _) ?_
    rw [monthIndex_firstOfMonth]
    push_cast
    omega
  rw [hon, hback, ← monthStart_eq_firstOfMonth hday, monthStart, hfirst]
  omega

/-- Shifting a month counts in the number of months since the year 0. -/
theorem months_shiftMonth (n : Nat) :
    (Day.year (shiftMonth day n) : Int) * 12 + Day.month (shiftMonth day n) =
      (Day.year day : Int) * 12 + Day.month day + n := by
  have hon : shiftMonth day n = firstOfMonth (monthIndex day + n) :=
    shiftMonth_eq_firstOfMonth hday (by push_cast; rfl)
  rw [hon, monthIndex_eq (one_le_firstOfMonth _), monthIndex_firstOfMonth, monthIndex_eq hday]
  push_cast
  omega

/-- The steps that the readiness counts are those the chart takes. -/
theorem steps_advance {period : Period} (hperiod : period ≠ .yearly) (n : Nat) :
    GraphReadiness.steps (some day) (some (Graph.advance day period n)) period = some (n : Int) := by
  cases period with
  | weekly =>
      simp only [GraphReadiness.steps, Graph.advance, Option.some.injEq]
      omega
  | monthly =>
      have hmonths := months_shiftMonth hday n
      simp only [GraphReadiness.steps, Graph.advance, Option.some.injEq]
      omega
  | yearly => exact absurd rfl hperiod

theorem horizon_advance (period : Period) (n : Nat) :
    Graph.horizon (Graph.advance day period n) day period =
      if period = .yearly then (n : Int) else n + 1 := by
  cases period with
  | weekly =>
      rw [if_neg (by decide)]
      simp only [Graph.horizon, Graph.advance]
      omega
  | monthly =>
      have hmonths := months_shiftMonth hday n
      rw [if_neg (by decide)]
      simp only [Graph.horizon, Graph.advance]
      omega
  | yearly =>
      have hon : Graph.advance day .yearly n = firstOfMonth (12 * (monthIndex day / 12 + n)) :=
        advance_eq hday (by decide) n
      have hto := year_eq (one_le_firstOfMonth (12 * (monthIndex day / 12 + n)))
      rw [monthIndex_firstOfMonth] at hto
      rw [if_pos rfl, hon]
      simp only [Graph.horizon, hto, year_eq hday]
      omega

end Steps

/-- A step of a bucket leads to the first day of another one. -/
theorem advance_first (period : Period) (i n : Nat) :
    Graph.advance ((tiling period).first i) period n = (tiling period).first (i + n) := by
  by_cases hperiod : period = .weekly
  · subst hperiod
    simp only [Graph.advance, tiling, weekTiling]
    push_cast
    omega
  · have hfirst : 1 ≤ (tiling period).first i := by
      rw [← tiling_first_zero period]
      exact Tiling.first_zero_le _
    rw [advance_eq hfirst hperiod, Tiling.index_first]

theorem previous_first {period : Period} (hperiod : period ≠ .yearly) (i : Nat) :
    GraphReadiness.previous ((tiling period).first (i + 1)) period = (tiling period).first i := by
  cases period with
  | weekly =>
      simp only [GraphReadiness.previous, tiling, weekTiling]
      push_cast
      omega
  | monthly =>
      have hindex := monthIndex_eq (one_le_firstOfMonth (i + 1))
      rw [monthIndex_firstOfMonth] at hindex
      have htwo : (Day.year (firstOfMonth (i + 1)) : Int) * 12 + Day.month (firstOfMonth (i + 1)) - 2 =
          ((i + 12 : Nat) : Int) := by
        rw [hindex]
        push_cast
        omega
      have hyear : (((i + 12 : Nat) : Int) / 12).toNat = i / 12 + 1 := by omega
      have hmonth : (((i + 12 : Nat) : Int) % 12).toNat + 1 = i % 12 + 1 := by omega
      have hfirst : ∀ j, (tiling .monthly).first j = firstOfMonth j := fun _ => rfl
      simp only [hfirst, GraphReadiness.previous, htwo]
      rw [hyear, hmonth]
      rfl
  | yearly => exact absurd rfl hperiod

/-- The exclusive end of a period is the first day of the next one. -/
theorem periodEnd_first (period : Period) (i : Nat) :
    periodEnd ((tiling period).first i) period = (tiling period).first (i + 1) := by
  cases period with
  | weekly =>
      simp only [periodEnd, tiling, weekTiling]
      push_cast
      omega
  | monthly => exact advance_first .monthly i 1
  | yearly =>
      refine shiftMonth_eq_firstOfMonth (one_le_firstOfMonth (12 * i)) ?_
      rw [monthIndex_firstOfMonth]
      push_cast
      omega

/-! ## The requested calendar -/

theorem calendarFrom_eq (period : Period) (last : Nat) (buckets : Nat) (i : Nat) :
    Graph.calendarFrom period ((tiling period).first last) buckets ((tiling period).first i) =
      if last + 1 - i ≤ buckets then
        .ok ((List.range' i (last + 1 - i)).map (tiling period).first)
      else
        .error (.caught ("Choose a range containing at most 1200 " ++ Graph.Period.name period
          ++ " periods.")) := by
  -- the interval is compared through the numbers of its buckets
  have hle : (tiling period).first i ≤ (tiling period).first last ↔ i ≤ last :=
    (tiling period).strictMono.le_iff_le
  -- one bucket a round; the induction moves the start and keeps the last bucket
  induction buckets generalizing i with
  | zero =>
      unfold Graph.calendarFrom
      by_cases hmore : i ≤ last
      · rw [if_pos (hle.2 hmore), if_neg (by omega)]
      · -- no bucket is left, and none is asked for
        have hnone : last + 1 - i = 0 := by omega
        rw [if_neg fun h => hmore (hle.1 h), hnone, if_pos (Nat.le_refl 0)]
        rfl
  | succ buckets ih =>
      unfold Graph.calendarFrom
      by_cases hmore : i ≤ last
      · have hnext : Graph.advance ((tiling period).first i) period 1 = (tiling period).first (i + 1) :=
          advance_first period i 1
        have hcount : last + 1 - i = (last + 1 - (i + 1)) + 1 := by omega
        rw [if_pos (hle.2 hmore), hnext, ih (i + 1) ((tiling period).strictMono.le_iff_le), hcount]
        -- the limit is reached one bucket later on both sides
        by_cases hfits : last + 1 - (i + 1) ≤ buckets
        · rw [if_pos hfits, if_pos (Nat.succ_le_succ hfits), List.range'_succ]
          rfl
        · rw [if_neg hfits, if_neg fun h => hfits (Nat.le_of_succ_le_succ h)]
          rfl
      · have hnone : last + 1 - i = 0 := by omega
        rw [if_neg fun h => hmore (hle.1 h), hnone, if_pos (Nat.zero_le _)]
        rfl

/-- The calendar lists the buckets between two days, unless there are too many. -/
theorem calendar_eq {startDate endDate : Int} (hstart : 1 ≤ startDate) (hend : 1 ≤ endDate)
    (period : Period) :
    Graph.calendar period startDate endDate =
      if ((tiling period).between startDate endDate).length ≤ Graph.maxBuckets then
        .ok ((tiling period).between startDate endDate)
      else
        .error (.caught ("Choose a range containing at most 1200 " ++ Graph.Period.name period
          ++ " periods.")) := by
  unfold Graph.calendar
  rw [boundary_eq hstart, boundary_eq hend, periodStart_eq hstart, periodStart_eq hend,
    calendarFrom_eq, Tiling.length_between]
  rfl

/-! ## Agreement -/

/-- What the calendar helpers agree on for a period and a day. -/
structure CalendarAgreement (period : Period) (day : Int) : Prop where
  /-- The day lies between the first and the last day of its bucket. -/
  inside : Chart.periodStart day period ≤ day ∧ day ≤ Chart.periodEnd day period
  /-- A bucket that the day lies in is its bucket. -/
  only : ∀ other, 1 ≤ other → Chart.periodStart other period ≤ day →
    day ≤ Chart.periodEnd other period →
      Chart.periodStart other period = Chart.periodStart day period ∧
        Chart.periodEnd other period = Chart.periodEnd day period
  /-- The bucket as the evaluation of projections has it, with an exclusive end. -/
  prospective : boundary day period = Chart.periodStart day period ∧
    periodEnd (Chart.periodStart day period) period = Chart.periodEnd day period + 1
  /-- The bucket of the weekly model. -/
  weekly : period = .weekly → Weekly.weekStart day = Chart.periodStart day period
  /-- The bucket of the provisional projections and of the readiness, which know no years. -/
  provisional : period ≠ .yearly → Provisional.start day period = Chart.periodStart day period
  readiness : period ≠ .yearly → GraphReadiness.start day period = Chart.periodStart day period
  /-- The next bucket begins on the day after the last day. -/
  next : Graph.advance (Chart.periodStart day period) period 1 = Chart.periodEnd day period + 1
  adds : ∀ m n : Nat, Graph.advance (Graph.advance day period m) period n =
    Graph.advance day period (m + n)
  shifts : (Day.toYmd day).day = 1 → ∀ n : Nat, shiftMonth (shiftMonth day n) (-n) = day
  /-- One bucket back undoes one on, and, unless it is the first of the calendar, conversely. -/
  previous : period ≠ .yearly →
    GraphReadiness.previous (Graph.advance (Chart.periodStart day period) period 1) period =
        Chart.periodStart day period ∧
      (1 < Chart.periodStart day period →
        Graph.advance (GraphReadiness.previous (Chart.periodStart day period) period) period 1 =
          Chart.periodStart day period)
  steps : period ≠ .yearly → ∀ n : Nat,
    GraphReadiness.steps (some day) (some (Graph.advance day period n)) period = some (n : Int)
  horizon : ∀ n : Nat, Graph.horizon (Graph.advance day period n) day period =
    if period = .yearly then (n : Int) else n + 1
  /-- The calendar from the day on: the buckets that meet the interval, unless there are too many. -/
  calendar : ∀ endDate, day ≤ endDate → ∃ buckets : List Int,
    buckets.Pairwise (· < ·) ∧
      (∀ bucket, bucket ∈ buckets ↔ (∃ other, 1 ≤ other ∧ Chart.periodStart other period = bucket) ∧
        bucket ≤ endDate ∧ day ≤ Chart.periodEnd bucket period) ∧
      Graph.calendar period day endDate =
        if buckets.length ≤ Graph.maxBuckets then .ok buckets
        else
          .error (.caught ("Choose a range containing at most 1200 " ++ Graph.Period.name period
            ++ " periods."))

section Agreement

theorem one_le_first (period : Period) (i : Nat) : 1 ≤ (tiling period).first i := by
  rw [← tiling_first_zero period]
  exact Tiling.first_zero_le i

/-- The first days of the buckets are those of their days. -/
theorem periodStart_first (period : Period) (i : Nat) :
    Chart.periodStart ((tiling period).first i) period = (tiling period).first i := by
  rw [periodStart_eq (one_le_first period i), Tiling.index_first]

theorem periodEnd_first_eq (period : Period) (i : Nat) :
    Chart.periodEnd ((tiling period).first i) period = (tiling period).first (i + 1) - 1 := by
  rw [periodEnd_eq (one_le_first period i), Tiling.index_first]

variable {day : Int} (hday : 1 ≤ day) (period : Period)
include hday

theorem inside_bucket : Chart.periodStart day period ≤ day ∧ day ≤ Chart.periodEnd day period := by
  have hfirst := first_zero_le_day hday period
  rw [periodStart_eq hday, periodEnd_eq hday]
  exact ⟨(tiling period).first_index_le hfirst,
    Int.le_sub_one_of_lt ((tiling period).lt_first_index hfirst)⟩

theorem only_bucket {other : Int} (hother : 1 ≤ other) (hle : Chart.periodStart other period ≤ day)
    (hge : day ≤ Chart.periodEnd other period) :
    Chart.periodStart other period = Chart.periodStart day period ∧
      Chart.periodEnd other period = Chart.periodEnd day period := by
  rw [periodStart_eq hother] at hle ⊢
  rw [periodEnd_eq hother] at hge ⊢
  have hindex : (tiling period).index day = (tiling period).index other :=
    Tiling.index_eq hle (Int.lt_of_le_sub_one hge)
  rw [periodStart_eq hday, periodEnd_eq hday, hindex]
  exact ⟨rfl, rfl⟩

theorem provisional_start (hperiod : period ≠ .yearly) :
    Provisional.start day period = Chart.periodStart day period := by
  cases period with
  | weekly => rfl
  | monthly => exact boundary_eq hday .monthly
  | yearly => exact absurd rfl hperiod

omit hday in
theorem readiness_start (hperiod : period ≠ .yearly) :
    GraphReadiness.start day period = Chart.periodStart day period := by
  cases period with
  | weekly => rfl
  | monthly => rfl
  | yearly => exact absurd rfl hperiod

theorem previous_next (hperiod : period ≠ .yearly) :
    GraphReadiness.previous (Graph.advance (Chart.periodStart day period) period 1) period =
        Chart.periodStart day period ∧
      (1 < Chart.periodStart day period →
        Graph.advance (GraphReadiness.previous (Chart.periodStart day period) period) period 1 =
          Chart.periodStart day period) := by
  rw [periodStart_eq hday]
  generalize (tiling period).index day = i
  have hnext : ∀ j, Graph.advance ((tiling period).first j) period 1 = (tiling period).first (j + 1) :=
    fun j => advance_first period j 1
  constructor
  · rw [hnext, previous_first hperiod]
  · intro hlater
    -- a bucket that is not the first one comes after another
    obtain ⟨j, rfl⟩ : ∃ j, i = j + 1 := by
      refine Nat.exists_eq_succ_of_ne_zero ?_
      rintro rfl
      rw [tiling_first_zero] at hlater
      exact absurd hlater (Int.lt_irrefl 1)
    rw [previous_first hperiod, hnext]

theorem calendar_buckets {endDate : Int} (hend : day ≤ endDate) :
    ∃ buckets : List Int, buckets.Pairwise (· < ·) ∧
      (∀ bucket, bucket ∈ buckets ↔ (∃ other, 1 ≤ other ∧ Chart.periodStart other period = bucket) ∧
        bucket ≤ endDate ∧ day ≤ Chart.periodEnd bucket period) ∧
      Graph.calendar period day endDate =
        if buckets.length ≤ Graph.maxBuckets then .ok buckets
        else
          .error (.caught ("Choose a range containing at most 1200 " ++ Graph.Period.name period
            ++ " periods.")) := by
  refine ⟨(tiling period).between day endDate, Tiling.sorted_between day endDate, ?_,
    calendar_eq hday (hday.trans hend) period⟩
  intro bucket
  rw [Tiling.mem_between (first_zero_le_day hday period) hend]
  constructor
  · rintro ⟨i, rfl, hbefore, hafter⟩
    refine ⟨⟨_, one_le_first period i, periodStart_first period i⟩, hbefore, ?_⟩
    rw [periodEnd_first_eq]
    exact Int.le_sub_one_of_lt hafter
  · rintro ⟨⟨other, hother, rfl⟩, hbefore, hafter⟩
    rw [periodStart_eq hother] at hbefore hafter ⊢
    rw [periodEnd_first_eq] at hafter
    exact ⟨_, rfl, hbefore, Int.lt_of_le_sub_one hafter⟩

/-- The calendar helpers of all modules agree on every period and day. -/
theorem calendar_helpers_agree : CalendarAgreement period day :=
  { inside := inside_bucket hday period
    only := fun _ hother hle hge => only_bucket hday period hother hle hge
    prospective := by
      refine ⟨boundary_eq hday period, ?_⟩
      rw [periodStart_eq hday, periodEnd_first, periodEnd_eq hday, Int.sub_add_cancel]
    weekly := by
      rintro rfl
      rfl
    provisional := provisional_start hday period
    readiness := readiness_start period
    next := by
      rw [periodStart_eq hday, periodEnd_eq hday, Int.sub_add_cancel]
      exact advance_first period _ 1
    adds := advance_advance hday period
    shifts := shiftMonth_neg hday
    previous := previous_next hday period
    steps := steps_advance hday
    horizon := horizon_advance hday period
    calendar := fun _ hend => calendar_buckets hday period hend }

end Agreement

theorem calendar_helpers_agree_leap_day : CalendarAgreement .monthly 738945 :=
  calendar_helpers_agree (by decide) .monthly

end Forecasting
end RosarioDairy
