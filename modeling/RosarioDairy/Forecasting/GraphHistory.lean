import RosarioDairy.Forecasting.Lifecycle
import RosarioDairy.Forecasting.MonthRuns

/-!
# GraphHistory — the monthly history of the chart and that of the training

The chart fills the calendar between its first and its last month, with nothing in the months that have
no sales and zero in those confirmed to have none; a saved fit is compared with what follows the last
month without a value.  Training splits its history at every missing month.  Both end in the same rows.
-/

namespace RosarioDairy
namespace Forecasting

open Foundations

/-! ## Series -/

namespace Provisional

/-- `start`: anything but a week is a month. -/
def start (day : Int) : Period → Int
  | .weekly => day - weekday day
  | _ => monthStart day

def advance (day : Int) : Period → Int
  | .weekly => day + 7
  | _ => shiftMonth day 1

structure SeriesRow (F : Type) where
  date : Int
  actual : Option F
  deriving DecidableEq, Repr

section Series

variable {D F : Type} (A : Arithmetic F)

/-- The keys of `totals`. -/
def totalDays (snapshot : SalesSnapshot D) (segment : Segment) (period : Period) : List Int :=
  (snapshot.sales.filter fun sale => decide (sale.segment = segment)).map fun sale =>
    start sale.day period

/-- `totals[day]` -/
def periodTotal (snapshot : SalesSnapshot D) (segment : Segment) (period : Period) (day : Int) : Int :=
  ((snapshot.sales.filter fun sale =>
    decide (sale.segment = segment) && decide (start sale.day period = day)).map
      RecordedSale.revenue).sum

def series (snapshot : SalesSnapshot D) (segment : Segment) (period : Period) : List (SeriesRow F) :=
  Periods.fill (fun day => advance day period) (totalDays snapshot segment period) fun day =>
    { date := day
      actual :=
        if day ∈ totalDays snapshot segment period then
          some (A.ofCents (periodTotal snapshot segment period day))
        else none }

end Series

end Provisional

namespace Graph

open Provisional (SeriesRow)

/-! ## Confirmed zero months -/

section History

variable {D F : Type}

/-- `actuals.get(month)` -/
def actualAt (actuals : List (Int × Option F)) (month : Int) : Option F := (actuals.lookup month).join

/-- One round of the loop over the confirmed zero months. -/
def patchZero (zero : F) (actuals : List (Int × Option F)) (month : Int) : List (Int × Option F) :=
  if (actualAt actuals month).isNone then (month, some zero) :: actuals else actuals

/-- `actuals` after the loop over the confirmed zero months. -/
def patchedActuals [DecidableEq D] (W : Workshop D F) (registry : Registry D F)
    (snapshot : SalesSnapshot D) : List (Int × Option F) :=
  (confirmedZeroMonths (validCoverage W registry snapshot)).foldl
    (patchZero (W.arithmetic.ofCents 0))
    ((Provisional.series W.arithmetic snapshot .regular .monthly).map fun row =>
      (row.date, row.actual))

/-- `_regular_monthly_series` -/
def regularMonthlySeries [DecidableEq D] (W : Workshop D F) (registry : Registry D F)
    (snapshot : SalesSnapshot D) : List (SeriesRow F) :=
  if confirmedZeroMonths (validCoverage W registry snapshot) = [] then
    Provisional.series W.arithmetic snapshot .regular .monthly
  else
    let actuals := patchedActuals W registry snapshot
    Periods.fill (fun month => shiftMonth month 1) (actuals.map Prod.fst) fun month =>
      { date := month
        actual := actualAt actuals month }

/-- The rows after the last gap, which `_primary` compares with a saved fit. -/
def afterLastGap (rows : List (SeriesRow F)) : List (SeriesRow F) :=
  rows.drop (((gaps (fun row => row.actual.isSome) rows).max?.map (· + 1)).getD 0)

theorem actualAt_patchZero (zero : F) (actuals : List (Int × Option F)) (month m : Int) :
    actualAt (patchZero zero actuals month) m =
      if m = month then some ((actualAt actuals m).getD zero) else actualAt actuals m := by
  unfold patchZero
  by_cases h : m = month
  · subst h
    cases hmonth : actualAt actuals m with
    | none => simp [actualAt]
    | some value => simp [hmonth]
  · have hbeq : (m == month) = false := beq_false_of_ne h
    cases hmonth : actualAt actuals month with
    | none => simp [actualAt, List.lookup_cons, hbeq, h]
    | some value => simp [h]

/-- The loop leaves known values alone and makes the confirmed months zero where there is none. -/
theorem actualAt_foldl_patchZero (zero : F) (m : Int) :
    ∀ (zeroMonths : List Int) (actuals : List (Int × Option F)),
      actualAt (zeroMonths.foldl (patchZero zero) actuals) m =
        if m ∈ zeroMonths then some ((actualAt actuals m).getD zero) else actualAt actuals m
  | [], actuals => rfl
  | month :: zeroMonths, actuals => by
      rw [List.foldl_cons, actualAt_foldl_patchZero zero m zeroMonths, actualAt_patchZero]
      by_cases h : m = month
      · simp [h]
      · simp [h]

theorem mem_keys_foldl_patchZero (zero : F) {m : Int} :
    ∀ (zeroMonths : List Int) (actuals : List (Int × Option F)),
      m ∈ (zeroMonths.foldl (patchZero zero) actuals).map Prod.fst ↔
        m ∈ actuals.map Prod.fst ∨ m ∈ zeroMonths
  | [], actuals => by simp
  | month :: zeroMonths, actuals => by
      have hmem : (actualAt actuals month).isNone = false → month ∈ actuals.map Prod.fst := by
        intro hsome
        unfold actualAt at hsome
        cases hlookup : actuals.lookup month with
        | none => simp [hlookup] at hsome
        | some value =>
            obtain ⟨before, after, rfl, _⟩ := List.lookup_eq_some_iff.1 hlookup
            exact List.mem_map.2 ⟨(month, value), by simp, rfl⟩
      rw [List.foldl_cons, mem_keys_foldl_patchZero zero zeroMonths, patchZero, List.mem_cons]
      cases hnone : (actualAt actuals month).isNone with
      | true =>
          rw [if_pos rfl, List.map_cons, List.mem_cons]
          tauto
      | false =>
          rw [if_neg Bool.false_ne_true]
          constructor
          · tauto
          · rintro (hm | rfl | hm)
            · exact Or.inl hm
            · exact Or.inl (hmem hnone)
            · exact Or.inr hm

/-- The value of a date in rows whose values follow from their dates. -/
theorem actualAt_rows {value : Int → Option F} {rows : List (SeriesRow F)}
    (h : ∀ row ∈ rows, row.actual = value row.date) {m : Int} (hm : m ∈ rows.map SeriesRow.date) :
    actualAt (rows.map fun row => (row.date, row.actual)) m = value m := by
  unfold actualAt
  induction rows with
  | nil => cases hm
  | cons row rows ih =>
      rw [List.map_cons, List.lookup_cons]
      by_cases hdate : m = row.date
      · rw [hdate, beq_self_eq_true]
        exact h row List.mem_cons_self
      · rw [beq_false_of_ne hdate]
        exact ih (fun row hrow => h row (List.mem_cons_of_mem _ hrow))
          ((List.mem_cons.1 hm).resolve_left hdate)

theorem actualAt_eq_none {rows : List (SeriesRow F)} {m : Int} (hm : m ∉ rows.map SeriesRow.date) :
    actualAt (rows.map fun row => (row.date, row.actual)) m = none := by
  have hlookup : (rows.map fun row => (row.date, row.actual)).lookup m = none := by
    apply List.lookup_eq_none_iff.2
    rintro ⟨date, actual⟩ hentry
    obtain ⟨row, hrow, hEq⟩ := List.mem_map.1 hentry
    refine bne_iff_ne.2 ?_
    rintro rfl
    exact hm (List.mem_map.2 ⟨row, hrow, congrArg Prod.fst hEq⟩)
  rw [actualAt, hlookup]
  rfl

end History

/-! ## The same rows -/

section Agreement

variable {D F : Type} [DecidableEq D] (W : Workshop D F) (registry : Registry D F)
  (snapshot : SalesSnapshot D)

/-- The months with regular sales and those confirmed to have none. -/
def knownMonths : List Int :=
  Provisional.totalDays snapshot .regular .monthly ++
    confirmedZeroMonths (validCoverage W registry snapshot)

/-- The value of a month in the history of the chart. -/
def knownValue (month : Int) : Option F :=
  if month ∈ knownMonths W registry snapshot then
    some (W.arithmetic.ofCents (regularRevenue snapshot month))
  else none

omit [DecidableEq D] in
theorem regularRevenue_eq_zero {month : Int}
    (h : month ∉ Provisional.totalDays snapshot .regular .monthly) :
    regularRevenue snapshot month = 0 := by
  have hnone : (snapshot.sales.filter fun sale =>
      decide (sale.segment = .regular) && decide (monthStart sale.day = month)) = [] := by
    apply List.filter_eq_nil_iff.2
    intro sale hsale hboth
    simp only [Bool.and_eq_true, decide_eq_true_eq] at hboth
    exact h (List.mem_map.2 ⟨sale, List.mem_filter.2 ⟨hsale, decide_eq_true hboth.1⟩, hboth.2⟩)
  rw [regularRevenue, hnone]
  rfl

theorem mem_patchedActuals {month : Int} :
    month ∈ (patchedActuals W registry snapshot).map Prod.fst ↔
      (∃ row ∈ Provisional.series W.arithmetic snapshot .regular .monthly, row.date = month) ∨
        month ∈ confirmedZeroMonths (validCoverage W registry snapshot) := by
  rw [patchedActuals, mem_keys_foldl_patchZero, List.map_map, List.mem_map]
  rfl

section Patched

variable (hdays : ∀ month ∈ Provisional.totalDays snapshot .regular .monthly, IsMonth month)
include hdays

omit [DecidableEq D] in
theorem mem_series {row : SeriesRow F} :
    row ∈ Provisional.series W.arithmetic snapshot .regular .monthly ↔
      ∃ month, IsMonth month ∧
        (∃ key ∈ Provisional.totalDays snapshot .regular .monthly, key ≤ month) ∧
        (∃ key ∈ Provisional.totalDays snapshot .regular .monthly, month ≤ key) ∧
        { date := month
          actual :=
            if month ∈ Provisional.totalDays snapshot .regular .monthly then
              some (W.arithmetic.ofCents (regularRevenue snapshot month))
            else none } = row :=
  Periods.mem_fill (P := months) hdays

/-- After the loop, a month has its regular revenue, which is zero in a confirmed month without sales. -/
theorem actualAt_patchedActuals (month : Int) :
    actualAt (patchedActuals W registry snapshot) month = knownValue W registry snapshot month := by
  have hseries : actualAt ((Provisional.series W.arithmetic snapshot .regular .monthly).map fun row =>
      (row.date, row.actual)) month =
        if month ∈ Provisional.totalDays snapshot .regular .monthly then
          some (W.arithmetic.ofCents (regularRevenue snapshot month))
        else none := by
    by_cases hmonth : month ∈
        (Provisional.series W.arithmetic snapshot .regular .monthly).map SeriesRow.date
    · apply actualAt_rows _ hmonth
      intro row hrow
      obtain ⟨_, _, _, _, rfl⟩ := (mem_series W snapshot hdays).1 hrow
      rfl
    · have hunknown : month ∉ Provisional.totalDays snapshot .regular .monthly := by
        intro hday
        exact hmonth (List.mem_map.2 ⟨_, (mem_series W snapshot hdays).2
          ⟨month, hdays month hday, ⟨month, hday, le_rfl⟩, ⟨month, hday, le_rfl⟩, rfl⟩, rfl⟩)
      rw [actualAt_eq_none hmonth, if_neg hunknown]
  rw [patchedActuals, actualAt_foldl_patchZero, hseries, knownValue, knownMonths]
  by_cases hday : month ∈ Provisional.totalDays snapshot .regular .monthly
  · simp [hday]
  · simp [hday, regularRevenue_eq_zero snapshot hday]

end Patched

/-- The history of the chart is the calendar around some months, with the known values. -/
theorem regularMonthlySeries_eq
    (hdays : ∀ month ∈ Provisional.totalDays snapshot .regular .monthly, IsMonth month)
    (hzero : ∀ month ∈ confirmedZeroMonths (validCoverage W registry snapshot), IsMonth month) :
    ∃ keys : List Int, (∀ key ∈ keys, IsMonth key) ∧
      (∀ month ∈ knownMonths W registry snapshot, month ∈ keys) ∧
      (∀ key ∈ keys, ∃ month ∈ knownMonths W registry snapshot, key ≤ month) ∧
      regularMonthlySeries W registry snapshot = Periods.fill months.next keys fun month =>
        { date := month
          actual := knownValue W registry snapshot month } := by
  unfold regularMonthlySeries
  -- without confirmed months the series is that of the sales
  by_cases hnone : confirmedZeroMonths (validCoverage W registry snapshot) = []
  · have hknown : knownMonths W registry snapshot =
        Provisional.totalDays snapshot .regular .monthly := by
      rw [knownMonths, hnone, List.append_nil]
    rw [if_pos hnone]
    refine ⟨Provisional.totalDays snapshot .regular .monthly, hdays, ?_, ?_, ?_⟩
    · rw [hknown]
      exact fun month hmonth => hmonth
    · rw [hknown]
      exact fun key hkey => ⟨key, hkey, le_rfl⟩
    · simp only [knownValue, hknown]
      rfl
  · rw [if_neg hnone]
    refine ⟨(patchedActuals W registry snapshot).map Prod.fst, ?_, ?_, ?_, ?_⟩
    · intro key hkey
      rcases (mem_patchedActuals W registry snapshot).1 hkey with ⟨row, hrow, rfl⟩ | hconfirmed
      · -- a month of the sales series, or one confirmed without sales
        obtain ⟨month, hmonth, _, _, rfl⟩ := (mem_series W snapshot hdays).1 hrow
        exact hmonth
      · exact hzero key hconfirmed
    · intro month hmonth
      apply (mem_patchedActuals W registry snapshot).2
      rcases List.mem_append.1 hmonth with hday | hconfirmed
      · -- the sales series has a row for each of its months
        exact Or.inl ⟨_, (mem_series W snapshot hdays).2
          ⟨month, hdays month hday, ⟨month, hday, le_rfl⟩, ⟨month, hday, le_rfl⟩, rfl⟩, rfl⟩
      · exact Or.inr hconfirmed
    · intro key hkey
      rcases (mem_patchedActuals W registry snapshot).1 hkey with ⟨row, hrow, rfl⟩ | hconfirmed
      · -- the calendar of the sales ends with the last of their months
        obtain ⟨month, _, _, ⟨later, hlater, hle⟩, rfl⟩ := (mem_series W snapshot hdays).1 hrow
        exact ⟨later, List.mem_append_left _ hlater, hle⟩
      · exact ⟨key, List.mem_append_right _ hconfirmed, le_rfl⟩
    · simp only [actualAt_patchedActuals W registry snapshot hdays]
      rfl

/-- The months that training starts from, in order. -/
def trainingMonths : List Int :=
  (observedMonths snapshot ++ (confirmedZeroMonths (validCoverage W registry snapshot)).filter fun month =>
    decide (month < monthStart snapshot.asOf)).dedup.mergeSort fun m m' => decide (m ≤ m')

theorem coverageRows_eq :
    coverageRows W snapshot (validCoverage W registry snapshot) =
      (contiguous id (trainingMonths W registry snapshot)).map fun month =>
        { month := month
          revenue := W.arithmetic.ofCents (regularRevenue snapshot month) } :=
  contiguous_map MonthRow.month _ (trainingMonths W registry snapshot)

theorem confirmed_lt {month : Int}
    (h : month ∈ confirmedZeroMonths (validCoverage W registry snapshot)) : month < snapshot.asOf := by
  obtain ⟨row, hrow, rfl⟩ := List.mem_map.1 h
  have hvalid := (List.mem_filter.1 (List.mem_filter.1 hrow).1).2
  rw [Bool.and_eq_true] at hvalid
  exact of_decide_eq_true hvalid.1

/-- With a cutoff at the start of a month, training starts from the months the chart knows. -/
theorem mem_trainingMonths (hcutoff : IsMonth snapshot.asOf)
    (hpast : ∀ sale ∈ snapshot.sales, 1 ≤ sale.day ∧ sale.day < snapshot.asOf) {month : Int} :
    month ∈ trainingMonths W registry snapshot ↔ month ∈ knownMonths W registry snapshot := by
  have hobserved : observedMonths snapshot = Provisional.totalDays snapshot .regular .monthly := by
    apply List.filter_eq_self.2
    intro month hmonth
    obtain ⟨sale, hsale, rfl⟩ := List.mem_map.1 hmonth
    obtain ⟨hfirst, hlt⟩ := hpast sale (List.mem_filter.1 hsale).1
    rw [hcutoff.monthStart_eq]
    exact decide_eq_true ((isMonth_monthStart hfirst).2.trans_lt hlt)
  have hconfirmed : (confirmedZeroMonths (validCoverage W registry snapshot)).filter (fun month =>
      decide (month < monthStart snapshot.asOf)) =
        confirmedZeroMonths (validCoverage W registry snapshot) := by
    apply List.filter_eq_self.2
    intro month hmonth
    rw [hcutoff.monthStart_eq]
    exact decide_eq_true (confirmed_lt W registry snapshot hmonth)
  rw [trainingMonths, hobserved, hconfirmed, List.mem_mergeSort, List.mem_dedup, knownMonths]

/-- What follows the last gap of the chart's history is what the monthly models are trained on. -/
theorem afterLastGap_eq (hcutoff : IsMonth snapshot.asOf)
    (hpast : ∀ sale ∈ snapshot.sales, 1 ≤ sale.day ∧ sale.day < snapshot.asOf)
    (hzero : ∀ month ∈ confirmedZeroMonths (validCoverage W registry snapshot), IsMonth month) :
    (afterLastGap (regularMonthlySeries W registry snapshot)).map
        (fun row => (row.date, row.actual)) =
      (coverageRows W snapshot (validCoverage W registry snapshot)).map fun row =>
        (row.month, some row.revenue) := by
  have hdays : ∀ month ∈ Provisional.totalDays snapshot .regular .monthly, IsMonth month := by
    intro month hmonth
    obtain ⟨sale, hsale, rfl⟩ := List.mem_map.1 hmonth
    exact (isMonth_monthStart (hpast sale (List.mem_filter.1 hsale).1).1).1
  -- the months the model trains on are the known months
  have hmem := fun month => @mem_trainingMonths _ _ _ W registry snapshot hcutoff hpast month
  have hstarts : ∀ month ∈ trainingMonths W registry snapshot, IsMonth month := by
    intro month hmonth
    rcases List.mem_append.1 ((hmem month).1 hmonth) with hday | hconfirmed
    · exact hdays month hday
    · exact hzero month hconfirmed
  obtain ⟨hrun, hrunMem⟩ := contiguous_sorted hstarts (sorted_dedup_mergeSort _)
  obtain ⟨keys, hkeys, hknown, hcovered, hseries⟩ :=
    regularMonthlySeries_eq W registry snapshot hdays hzero
  -- the rows after the last gap are the latest run of known months
  have hgap : (regularMonthlySeries W registry snapshot).rtakeWhile (fun row => row.actual.isSome) =
      (contiguous id (trainingMonths W registry snapshot)).map fun month =>
        { date := month
          actual := knownValue W registry snapshot month } := by
    rw [hseries]
    refine Periods.rtakeWhile_fill hkeys hknown hcovered ?_ hrun fun month => ?_
    · intro month
      unfold knownValue
      by_cases h : month ∈ knownMonths W registry snapshot
      · simp [h]
      · simp [h]
    · -- the two runs are over the same months
      rw [hrunMem]
      exact Periods.InLatestRun.congr hmem
  rw [afterLastGap, drop_gaps, hgap, coverageRows_eq, List.map_map, List.map_map]
  apply List.map_congr_left
  intro month hmonth
  have hvalue : knownValue W registry snapshot month =
      some (W.arithmetic.ofCents (regularRevenue snapshot month)) :=
    if_pos ((hmem month).1 ((hrunMem month).1 hmonth).1)
  simp only [Function.comp_apply, hvalue]

end Agreement

/-- For a cutoff at the start of a month, the history of the chart after its last gap and the history
that the monthly models are trained on are the same rows, if any. -/
theorem graph_history_agrees {D F : Type} [DecidableEq D] (W : Workshop D F) (registry : Registry D F)
    (ledger : List LedgerSale) (asOf : Int) (hcutoff : IsMonth asOf)
    (hdates : ∀ row ∈ ledger, 1 ≤ W.source.zone.localDate row.createdAt)
    (hmonths : ∀ row ∈ registry.coverage.rows, IsMonth row.month) :
    (afterLastGap (regularMonthlySeries W registry (loadSnapshot W.source ledger asOf))).map
        (fun row => (row.date, row.actual)) =
      (coverageRows W (loadSnapshot W.source ledger asOf)
        (validCoverage W registry (loadSnapshot W.source ledger asOf))).map
          (fun row => (row.month, some row.revenue)) ∧
      (afterLastGap (regularMonthlySeries W registry (loadSnapshot W.source ledger asOf)) = [] ↔
        coverageRows W (loadSnapshot W.source ledger asOf)
          (validCoverage W registry (loadSnapshot W.source ledger asOf)) = []) := by
  have hsame := afterLastGap_eq W registry (loadSnapshot W.source ledger asOf) hcutoff ?_ ?_
  · refine ⟨hsame, ?_⟩
    rw [← List.map_eq_nil_iff, hsame, List.map_eq_nil_iff]
  · intro sale hsale
    obtain ⟨⟨row, hrow, hday⟩, hlt⟩ := loadSnapshot_day W.source hsale
    exact ⟨hday ▸ hdates row hrow, hlt⟩
  · intro month hmonth
    obtain ⟨row, hrow, rfl⟩ := List.mem_map.1 hmonth
    exact hmonths row (List.mem_filter.1 (List.mem_filter.1 hrow).1).1

/-- A workshop with days of 86400 seconds that counts in centavos and fits nothing. -/
def centavoWorkshop : Workshop Unit Int :=
  { source :=
      { zone := BusinessZone.fixed
        casefold := id
        decision := fun _ => .review
        revision := fun _ _ => () }
    arithmetic :=
      { ofCents := id
        toCents := id
        ofNat := fun n => n * 100
        isFinite := fun _ => true
        add := fun x y => x + y
        sub := fun x y => x - y
        mul := fun x y => x * y / 100
        div := fun x y => x * 100 / y
        abs := fun x => max x (-x)
        sum := List.sum
        round := fun x _ => x }
    parameterNames := fun _ => []
    monthDigest := fun _ => ()
    coverageDigest := fun _ => ()
    artifactDigest := fun _ => ()
    train := fun _ => .error .trainingFailed
    predictBaseline := fun _ _ => .error .trainingFailed }

/-- A regular sale at noon. -/
def regularSale (pk : Nat) (day : Int) (totalAmount : Int) : LedgerSale :=
  { pk := pk
    createdAt := day * 86400 + 43200
    isVoided := false
    customerId := none
    customerName := none
    sourceCustomerLabel := ""
    sourceReference := none
    sourceSalesSegment := some .regular
    totalAmount := totalAmount
    lines := [] }

/-- A registry in which a month is confirmed to have no sales. -/
def confirmedMonth (month : Int) : Registry Unit Int :=
  { runs := Table.empty
    coverage := Table.empty.create fun pk =>
      { pk := pk
        month := month
        sourceRevision := ()
        confirmedZero := true }
    issued := Table.empty
    scores := Table.empty
    deployment := none
    promotions := Table.empty }

/-- Sales in November 2023 and in January and March 2024. -/
def gappedLedger : List LedgerSale :=
  [regularSale 1 738840 700, regularSale 2 738895 10000, regularSale 3 738950 500]

/-- With February confirmed to have no sales, both histories start in January. -/
theorem graph_history_agrees_after_gap :
    (coverageRows centavoWorkshop (loadSnapshot centavoWorkshop.source gappedLedger 738977)
        (validCoverage centavoWorkshop (confirmedMonth 738917)
          (loadSnapshot centavoWorkshop.source gappedLedger 738977))).map
            (fun row => (row.month, some row.revenue)) =
      [(738886, some 10000), (738917, some 0), (738946, some 500)] := by
  have hcutoff : IsMonth 738977 := by
    have h := (isMonth_monthStart (show (1 : Int) ≤ 738977 by decide)).1
    have hstart : monthStart 738977 = 738977 := by decide +kernel
    rwa [hstart] at h
  have hfebruary : IsMonth 738917 := by
    have h := (isMonth_monthStart (show (1 : Int) ≤ 738917 by decide)).1
    have hstart : monthStart 738917 = 738917 := by decide +kernel
    rwa [hstart] at h
  refine (graph_history_agrees centavoWorkshop (confirmedMonth 738917) gappedLedger 738977 hcutoff
    (by decide +kernel) ?_).1.symm.trans (by decide +kernel)
  intro row hrow
  obtain rfl := List.mem_singleton.1 hrow
  exact hfebruary

end Graph

end Forecasting
end RosarioDairy
