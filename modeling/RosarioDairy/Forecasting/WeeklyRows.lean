import RosarioDairy.Forecasting.MonthRuns
import RosarioDairy.Forecasting.WeeklyModel

/-!
# WeeklyRows — the weeks a weekly model is trained on

Weeks count from Monday to Sunday, and only those that lie wholly inside the latest run of months with
regular sales, and before the cutoff.  A week without a sale splits the history.
-/

namespace RosarioDairy
namespace Forecasting
namespace Weekly

open Foundations

variable {D : Type}

/-! ## Rows -/

/-- `week_start` -/
def weekStart (day : Int) : Int := day - weekday day

def regularSales (snapshot : SalesSnapshot D) : List RecordedSale :=
  snapshot.sales.filter fun sale => decide (sale.segment = .regular)

/-- The keys of `totals`. -/
def saleWeeks (snapshot : SalesSnapshot D) : List Int :=
  (regularSales snapshot).map fun sale => weekStart sale.day

/-- `totals[week]` -/
def weekTotal (snapshot : SalesSnapshot D) (week : Int) : Int :=
  (((regularSales snapshot).filter fun sale => decide (weekStart sale.day = week)).map
    RecordedSale.revenue).sum

/-- `sorted(months)` -/
def saleMonths (snapshot : SalesSnapshot D) : List Int :=
  ((regularSales snapshot).map fun sale => monthStart sale.day).dedup.mergeSort fun m m' =>
    decide (m ≤ m')

/-- The first week from the start of a month on. -/
def firstWeek (month : Int) : Int :=
  if weekStart month < month then weekStart month + 7 else weekStart month

/-- The last day a week may end on. -/
def lastDay (snapshot : SalesSnapshot D) (month : Int) : Int := min (monthEnd month) (snapshot.asOf - 1)

/-- `weekly_rows` -/
def weeklyRows (snapshot : SalesSnapshot D) : List Row :=
  match (contiguous id (saleMonths snapshot)).head?, (contiguous id (saleMonths snapshot)).getLast? with
  | some first, some last =>
      (Periods.span (fun week => week + 7) (firstWeek first) (lastDay snapshot last - 6)).foldl
        (restart (fun week => decide (week ∈ saleWeeks snapshot)) fun week =>
          { date := week
            revenue := .ofRat (weekTotal snapshot week / 100) }) []
  | _, _ => []

/-! ## What the rows are -/

/-- A month with a regular sale. -/
def SaleMonth (snapshot : SalesSnapshot D) (month : Int) : Prop :=
  ∃ sale ∈ snapshot.sales, sale.segment = .regular ∧ monthStart sale.day = month

/-- The longest run of months with regular sales that ends in the latest such month. -/
structure LatestMonths (snapshot : SalesSnapshot D) (first last : Int) : Prop where
  starts : SaleMonth snapshot first
  ends : SaleMonth snapshot last
  latest : ∀ month, SaleMonth snapshot month → month ≤ last
  whole : ∀ month, IsMonth month → first ≤ month → month ≤ last → SaleMonth snapshot month
  longest : ∀ month, SaleMonth snapshot month →
    (∀ later, IsMonth later → month ≤ later → later ≤ last → SaleMonth snapshot later) → first ≤ month

/-- The weeks from Monday to Sunday inside these months and before the cutoff, in order. -/
structure FullWeeks (snapshot : SalesSnapshot D) (first last : Int) (weeks : List Int) : Prop where
  sorted : weeks.Pairwise (· < ·)
  mem : ∀ week, week ∈ weeks ↔
    weekday week = 0 ∧ first ≤ week ∧ week + 6 ≤ monthEnd last ∧ week + 6 < snapshot.asOf

/-- The regular sales on the seven days of a week. -/
def salesOf (snapshot : SalesSnapshot D) (week : Int) : List RecordedSale :=
  snapshot.sales.filter fun sale =>
    decide (sale.segment = .regular) && decide (week ≤ sale.day) && decide (sale.day ≤ week + 6)

/-- A week and the exact total of its regular sales, as a floating-point number. -/
def exactRow (snapshot : SalesSnapshot D) (week : Int) : Row :=
  { date := week
    revenue := .ofRat (((salesOf snapshot week).map RecordedSale.revenue).sum / 100) }

/-! ## Weeks -/

theorem weekStart_eq_iff {week day : Int} (hweek : weekday week = 0) :
    weekStart day = week ↔ week ≤ day ∧ day ≤ week + 6 := by
  unfold weekStart weekday at *
  omega

theorem weekday_firstWeek (month : Int) : weekday (firstWeek month) = 0 := by
  unfold firstWeek weekStart weekday
  split
  · omega
  · omega

/-- No week starts between the start of a month and its first week. -/
theorem firstWeek_le_iff {month week : Int} (hweek : weekday week = 0) :
    firstWeek month ≤ week ↔ month ≤ week := by
  unfold firstWeek weekStart weekday at *
  split
  · omega
  · omega

section Rows

variable (snapshot : SalesSnapshot D) {week : Int}

theorem filter_weekStart (hweek : weekday week = 0) :
    (regularSales snapshot).filter (fun sale => decide (weekStart sale.day = week)) =
      salesOf snapshot week := by
  rw [regularSales, List.filter_filter, salesOf]
  apply List.filter_congr
  intro sale _
  simp only [weekStart_eq_iff hweek, Bool.decide_and]
  rw [Bool.and_comm, Bool.and_assoc]

theorem mem_saleWeeks (hweek : weekday week = 0) :
    week ∈ saleWeeks snapshot ↔ salesOf snapshot week ≠ [] := by
  rw [← filter_weekStart snapshot hweek, saleWeeks, List.mem_map, ne_eq, List.filter_eq_nil_iff]
  simp

theorem mem_saleMonths (month : Int) : month ∈ saleMonths snapshot ↔ SaleMonth snapshot month := by
  rw [saleMonths, List.mem_mergeSort, List.mem_dedup, List.mem_map]
  constructor
  · rintro ⟨sale, hsale, rfl⟩
    obtain ⟨hmem, hsegment⟩ := List.mem_filter.1 hsale
    exact ⟨sale, hmem, of_decide_eq_true hsegment, rfl⟩
  · rintro ⟨sale, hmem, hsegment, rfl⟩
    exact ⟨sale, List.mem_filter.2 ⟨hmem, decide_eq_true hsegment⟩, rfl⟩

/-- The latest run of months with regular sales is what the loop over the sorted months keeps. -/
theorem latestMonths_contiguous (hdates : ∀ sale ∈ snapshot.sales, 1 ≤ sale.day) {first last : Int}
    (hfirst : (contiguous id (saleMonths snapshot)).head? = some first)
    (hlast : (contiguous id (saleMonths snapshot)).getLast? = some last) :
    LatestMonths snapshot first last := by
  have hmonths : ∀ month, SaleMonth snapshot month → IsMonth month := by
    rintro month ⟨sale, hsale, _, rfl⟩
    exact (isMonth_monthStart (hdates sale hsale)).1
  have hsorted : (saleMonths snapshot).Pairwise (· < ·) := sorted_dedup_mergeSort _
  -- the run of months is sorted and ends with the latest month of sales
  obtain ⟨hrun, hmem⟩ := contiguous_sorted
    (fun month hmonth => hmonths month ((mem_saleMonths snapshot month).1 hmonth)) hsorted
  have hlatest := le_getLast hsorted ((getLast?_contiguous id _).symm.trans hlast)
  obtain ⟨hfirstMem, hafter⟩ := (hmem first).1 (List.mem_of_head? hfirst)
  have hlastMem := ((hmem last).1 (List.mem_of_getLast? hlast)).1
  refine
    { starts := (mem_saleMonths snapshot first).1 hfirstMem
      ends := (mem_saleMonths snapshot last).1 hlastMem
      latest := fun month hmonth => hlatest month ((mem_saleMonths snapshot month).2 hmonth)
      whole := ?_
      longest := ?_ }
  · intro month hmonth hge hle
    exact (mem_saleMonths snapshot month).1 (hafter month hmonth hge ⟨last, hlastMem, hle⟩)
  · -- a longer run would be part of the contiguous one, whose head is `first`
    intro month hmonth hrest
    have hkept : month ∈ contiguous id (saleMonths snapshot) := by
      refine (hmem month).2 ⟨(mem_saleMonths snapshot month).2 hmonth, ?_⟩
      rintro later hlater hge ⟨start, hstart, hle⟩
      exact (mem_saleMonths snapshot later).2
        (hrest later hlater hge (hle.trans (hlatest start hstart)))
    obtain ⟨tail, htail⟩ := List.head?_eq_some_iff.1 hfirst
    rw [htail] at hrun hkept
    rcases List.mem_cons.1 hkept with rfl | hmem
    · exact le_rfl
    · exact ((List.pairwise_cons.1 hrun).1 month hmem).le

/-- The loop meets the full weeks. -/
theorem fullWeeks_span (first last : Int) :
    FullWeeks snapshot first last
      (Periods.span (fun week => week + 7) (firstWeek first) (lastDay snapshot last - 6)) := by
  have hstart : Forecasting.weeks.IsStart (firstWeek first) := weekday_firstWeek first
  refine
    { sorted := Periods.sorted_span _ hstart
      mem := fun week => (Periods.mem_span hstart).trans ?_ }
  constructor
  · rintro ⟨hweek, hge, hle⟩
    have hfirst := (firstWeek_le_iff hweek).1 hge
    unfold lastDay at hle
    exact ⟨hweek, hfirst, by omega, by omega⟩
  · rintro ⟨hweek, hge, hmonth, hcutoff⟩
    unfold lastDay
    exact ⟨hweek, (firstWeek_le_iff hweek).2 hge, by omega⟩

end Rows

/-- The rows are the longest run of full weeks with regular sales at the end of the latest run of months,
each with the exact total of its seven days; without regular sales there are none. -/
theorem weekly_rows_exact (snapshot : SalesSnapshot D)
    (hdates : ∀ sale ∈ snapshot.sales, 1 ≤ sale.day) :
    (weeklyRows snapshot = [] ∧ ∀ month, ¬ SaleMonth snapshot month) ∨
      ∃ first last weeks run, LatestMonths snapshot first last ∧ FullWeeks snapshot first last weeks ∧
        LongestSuffix (fun week => salesOf snapshot week ≠ []) weeks run ∧
          weeklyRows snapshot = run.map (exactRow snapshot) := by
  cases hlast : (contiguous id (saleMonths snapshot)).getLast? with
  | none =>
      -- without a month of sales there is no row
      have hnil : contiguous id (saleMonths snapshot) = [] := List.getLast?_eq_none_iff.1 hlast
      refine Or.inl ⟨by rw [weeklyRows, hnil]; rfl, fun month hmonth => ?_⟩
      rw [getLast?_contiguous, List.getLast?_eq_none_iff] at hlast
      have hmem := (mem_saleMonths snapshot month).2 hmonth
      rw [hlast] at hmem
      cases hmem
  | some last =>
      obtain ⟨first, hfirst⟩ : ∃ first, (contiguous id (saleMonths snapshot)).head? = some first := by
        cases hcontiguous : contiguous id (saleMonths snapshot) with
        | nil =>
            rw [hcontiguous] at hlast
            cases hlast
        | cons first rest => exact ⟨first, rfl⟩
      have hweeks := fullWeeks_span snapshot first last
      refine Or.inr ⟨first, last, _, _, latestMonths_contiguous snapshot hdates hfirst hlast, hweeks,
        (longestSuffix_rtakeWhile (fun week => decide (week ∈ saleWeeks snapshot)) _).congr ?_, ?_⟩
      · -- a week with sales is found by its Monday
        intro week hweek
        rw [decide_eq_true_iff]
        exact mem_saleWeeks snapshot ((hweeks.mem week).1 hweek).1
      · rw [weeklyRows, hfirst, hlast]
        dsimp only
        -- the fold restarts at each week without sales, so the last run is what it leaves
        rw [foldl_restart]
        apply List.map_congr_left
        intro week hweek
        have hmonday := ((hweeks.mem week).1 ((List.rtakeWhile_suffix _ _).subset hweek)).1
        rw [exactRow, weekTotal, filter_weekStart snapshot hmonday]

/-- Sales of January 2024, in the last three of its four full weeks. -/
def januarySales : SalesSnapshot Unit :=
  let sale := fun (id : Nat) (day revenue : Int) =>
    { id := id
      day := day
      customerKey := "walk-in"
      customerName := "Walk-in"
      segment := .regular
      revenue := revenue }
  { asOf := 738977
    revision := ()
    sales := [sale 1 738895 10000, sale 2 738902 500, sale 3 738905 2000, sale 4 738909 30000]
    excludedDemoCount := 0
    excludedNonDairyCount := 0 }

theorem weekly_rows_exact_january :
    (∃ first last weeks run, LatestMonths januarySales first last ∧
      FullWeeks januarySales first last weeks ∧
      LongestSuffix (fun week => salesOf januarySales week ≠ []) weeks run ∧
      weeklyRows januarySales = run.map (exactRow januarySales)) ∧
    weeklyRows januarySales =
      [{ date := 738893, revenue := .ofRat 100 }, { date := 738900, revenue := .ofRat 25 },
        { date := 738907, revenue := .ofRat 300 }] := by
  have hexact := weekly_rows_exact januarySales (by decide +kernel)
  refine ⟨hexact.resolve_left ?_, by decide +kernel⟩
  rintro ⟨_, hnone⟩
  exact hnone _ ⟨_, List.mem_cons_self, rfl, rfl⟩

end Weekly
end Forecasting
end RosarioDairy
