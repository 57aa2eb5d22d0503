import RosarioDairy.Reporting.Breakdowns

/-!
# ReportTotals — every report of a range has the same totals

The rows of the customers and of the months of a customer report add up to its totals; with the sales
of unnamed buyers they add up to the headline of the sales reports.
-/

namespace RosarioDairy

open Foundations Forecasting

/-! ## Customers -/

section Customers

variable {M : Type} [AddCommMonoid M] {E : Engine} {zone : Zone} {customers : Table CustomerAccount}
  {sales : List Transaction}

theorem byCustomer_rows {group : Nat × List Transaction} (hgroup : group ∈ byCustomer E sales) :
    (∃ txn ∈ sales, txn.customer = some group.1) ∧
      group.2 = sales.filter fun txn => decide (txn.customer = some group.1) := by
  obtain ⟨⟨key, rows⟩, hmem, hnamed⟩ := List.mem_filterMap.1 hgroup
  obtain ⟨customer, rfl, rfl⟩ := Option.map_eq_some_iff.1 hnamed
  obtain ⟨hkey, hrows⟩ := groupRows_rows hmem
  exact ⟨List.mem_map.1 hkey, hrows⟩

theorem mem_byCustomer {customer : Nat} :
    customer ∈ (byCustomer E sales).map Prod.fst ↔ ∃ txn ∈ sales, txn.customer = some customer := by
  constructor
  · intro hmem
    obtain ⟨group, hgroup, rfl⟩ := List.mem_map.1 hmem
    exact (byCustomer_rows hgroup).1
  · rintro ⟨txn, htxn, hcustomer⟩
    have hkey : some customer ∈ (groupRows E Transaction.customer sales).map Prod.fst :=
      (keys_groupRows E Transaction.customer sales).mem_iff.2
        (List.mem_dedup.2 (List.mem_map.2 ⟨txn, htxn, hcustomer⟩))
    obtain ⟨⟨key, rows⟩, hgroup, rfl⟩ := List.mem_map.1 hkey
    refine List.mem_map.2 ⟨(customer, rows), ?_, rfl⟩
    exact List.mem_filterMap.2 ⟨_, hgroup, rfl⟩

theorem lookup_byCustomer (customer : Nat) : ((byCustomer E sales).lookup customer).getD [] =
    sales.filter fun txn => decide (txn.customer = some customer) := by
  refine getD_lookup
    (fun customer => sales.filter fun txn => decide (txn.customer = some customer))
    (fun group hgroup => (byCustomer_rows hgroup).2) ?_
  intro habsent
  refine List.filter_eq_nil_iff.2 ?_
  intro txn htxn hcustomer
  exact habsent (mem_byCustomer.2 ⟨txn, htxn, of_decide_eq_true hcustomer⟩)

/-- If every buyer is named, the customers' sales are all of them. -/
theorem total_byCustomer (measure : Transaction → M) (hnamed : ∀ txn ∈ sales, txn.customer.isSome) :
    total (fun group => total measure group.2) (byCustomer E sales) = total measure sales := by
  rw [byCustomer, total_filterMap, ← total_groupRows E measure Transaction.customer sales]
  refine total_congr ?_
  intro group hgroup
  obtain ⟨txn, htxn, hkey⟩ := List.mem_map.1 (groupRows_rows hgroup).1
  obtain ⟨customer, hcustomer⟩ := Option.isSome_iff_exists.1 (hnamed txn htxn)
  rw [← hkey, hcustomer]
  rfl

/-- The rows of the customers add up to the sales with a named buyer. -/
theorem customerRows_sum (measure : Transaction → M) {field : CustomerRow → M}
    (hfield : ∀ account sales, field (customerRow zone account sales) = total measure sales)
    (hnamed : ∀ txn ∈ sales, txn.customer.isSome)
    (haccounts : ∀ txn ∈ sales, ∀ customer ∈ txn.customer,
      ∃ account ∈ customers.rows, account.pk = customer) :
    total field (customerRows E zone customers sales) = total measure sales := by
  let listed := customers.scan fun customer =>
    ((byCustomer E sales).map Prod.fst).contains customer.pk
  let keyOf (account : CustomerAccount) : Option Nat := some account.pk
  -- the accounts are rows of a table, so no customer is listed twice
  have hnodup : (listed.map keyOf).Nodup := by
    have hmap : listed.map keyOf = (listed.map CustomerAccount.pk).map some := by
      rw [List.map_map]
      rfl
    rw [hmap]
    exact (Table.nodup_scan customers _).map (Option.some_injective Nat)
  -- and every sale with a customer is the sale of a listed account
  have hcover : ∀ txn ∈ sales, txn.customer ∈ listed.map keyOf := by
    intro txn htxn
    obtain ⟨customer, hcustomer⟩ := Option.isSome_iff_exists.1 (hnamed txn htxn)
    obtain ⟨account, haccount, rfl⟩ := haccounts txn htxn customer hcustomer
    refine List.mem_map.2 ⟨account, Table.mem_scan.2 ⟨haccount, ?_⟩, hcustomer.symm⟩
    exact List.contains_iff_mem.2 (mem_byCustomer.2 ⟨txn, htxn, hcustomer⟩)
  calc total field (customerRows E zone customers sales)
      = total (fun account => field (customerRow zone account
          (((byCustomer E sales).lookup account.pk).getD []))) listed := by
        rw [customerRows, total_map]
        exact total_sortedBy _ _ _
    _ = total (fun key => total measure (sales.filter fun txn => decide (txn.customer = key)))
          (listed.map keyOf) := by
        rw [total_map]
        refine total_congr ?_
        intro account _
        rw [hfield, lookup_byCustomer]
    _ = total measure sales := total_parts measure Transaction.customer hnodup hcover

/-- A sale is paid, pending or of unknown payment. -/
theorem amountWithStatus_add (sales : List Transaction) :
    amountWithStatus .paid sales + amountWithStatus .pending sales +
      amountWithStatus .unknown sales = totalAmounts sales := by
  have hnodup : [PaymentStatus.paid, .pending, .unknown].Nodup := by decide
  have hcover : ∀ txn ∈ sales, txn.paymentStatus ∈ [PaymentStatus.paid, .pending, .unknown] := by
    intro txn _
    cases txn.paymentStatus <;> decide
  have hparts := total_parts Transaction.totalAmount Transaction.paymentStatus hnodup hcover
  refine Eq.trans ?_ hparts
  simp only [total, amountWithStatus, totalAmounts, List.map_cons, List.map_nil, List.sum_cons,
    List.sum_nil]
  omega

/-! ## Months -/

theorem monthStart_eq_iff {month date : Int} (hmonth : IsMonth month) (hdate : 1 ≤ date) :
    monthStart date = month ↔ month ≤ date ∧ date ≤ monthEnd month := by
  constructor
  · rintro rfl
    exact ⟨(isMonth_monthStart hdate).2, le_monthEnd hdate⟩
  · rintro ⟨hstart, hend⟩
    exact hmonth.days.2.2.2 date hstart hend

/-- The months from `month` on hold the sales from its first day on. -/
theorem monthlySummary_sum (measure : Transaction → M) (field : MonthCustomer → M)
    (summed : MonthSummary → M) {casefold : String → String} {rows : List CustomerRow}
    {startDate endDate : Int}
    (hfield : ∀ rows customer sales, field (monthCustomer rows customer sales) =
      total measure sales)
    (hsummed : ∀ month startDate endDate entries, summed
      { month := month
        startDate := startDate
        endDate := endDate
        customerCount := entries.length
        transactionCount := (entries.map MonthCustomer.transactionCount).sum
        revenue := (entries.map MonthCustomer.totalSpent).sum
        customers := entries } = total field entries)
    (hnamed : ∀ txn ∈ sales, txn.customer.isSome)
    (hdates : ∀ txn ∈ sales, 1 ≤ zone.localDate txn.createdAt ∧
      zone.localDate txn.createdAt ≤ endDate) :
    ∀ (rounds : Nat) (month : Int), IsMonth month → (endDate - month).toNat < rounds →
      total summed (monthlySummary E zone casefold rows sales startDate endDate rounds month) =
        total measure (sales.filter fun txn => decide (month ≤ zone.localDate txn.createdAt)) := by
  intro rounds
  induction rounds with
  | zero => exact fun _ _ hrounds => absurd hrounds (Nat.not_lt_zero _)
  | succ rounds ih =>
      intro month hmonth hrounds
      obtain ⟨_, hlast, hnext, _⟩ := hmonth.days
      unfold monthlySummary
      by_cases hafter : endDate < month
      · rw [if_pos hafter]
        have hnone : sales.filter (fun txn => decide (month ≤ zone.localDate txn.createdAt)) = [] := by
          refine List.filter_eq_nil_iff.2 ?_
          intro txn htxn hlate
          have hend := (hdates txn htxn).2
          have hlate := of_decide_eq_true hlate
          omega
        rw [hnone]
        rfl
      · rw [if_neg hafter]
        let inMonth (txn : Transaction) : Bool :=
          decide (monthStart (zone.localDate txn.createdAt) = month)
        have hin : ∀ txn ∈ sales, inMonth txn = true ↔
            month ≤ zone.localDate txn.createdAt ∧ zone.localDate txn.createdAt ≤ monthEnd month := by
          intro txn htxn
          exact decide_eq_true_iff.trans (monthStart_eq_iff hmonth (hdates txn htxn).1)
        have hentries : total field (monthEntries E zone casefold rows sales month) =
            total measure (sales.filter inMonth) := by
          unfold monthEntries
          rw [total_sortedBy, total_map]
          refine Eq.trans (total_congr fun group _ => hfield rows group.1 group.2) ?_
          exact total_byCustomer measure fun txn htxn => hnamed txn (List.mem_filter.1 htxn).1
        by_cases hfinal : endDate ≤ monthEnd month
        · simp only [if_pos hfinal]
          rw [total, List.map_singleton, List.sum_singleton, hsummed, hentries]
          congr 1
          refine List.filter_congr ?_
          intro txn htxn
          have hend := (hdates txn htxn).2
          rw [Bool.eq_iff_iff, hin txn htxn, decide_eq_true_eq]
          omega
        · simp only [if_neg hfinal]
          have hrest := ih (monthEnd month + 1) hnext (by omega)
          rw [total, List.map_cons, List.sum_cons, hsummed, hentries]
          refine Eq.trans (congrArg (total measure (sales.filter inMonth) + ·) hrest) ?_
          -- the sales of this month and those of the later months
          let later := sales.filter fun txn => decide (month ≤ zone.localDate txn.createdAt)
          have hthis : later.filter inMonth = sales.filter inMonth := by
            rw [List.filter_filter]
            refine List.filter_congr ?_
            intro txn htxn
            rw [Bool.eq_iff_iff, Bool.and_eq_true, hin txn htxn, decide_eq_true_eq]
            omega
          have hthose : (later.filter fun txn => !inMonth txn) =
              sales.filter fun txn => decide (monthEnd month + 1 ≤ zone.localDate txn.createdAt) := by
            rw [List.filter_filter]
            refine List.filter_congr ?_
            intro txn htxn
            rw [Bool.eq_iff_iff, Bool.and_eq_true, Bool.not_eq_true', ← Bool.not_eq_true,
              hin txn htxn, decide_eq_true_eq, decide_eq_true_eq]
            omega
          rw [← hthis, ← hthose]
          exact total_filter_add measure inMonth later

end Customers

/-! ## The reports of a range -/

section Reports

variable {F : Type}

/-- The mixes of a report divide its headline; line amounts are counted in ten-thousandths. -/
structure HeadlineDivided (report : SalesReport F) : Prop where
  payments : (report.drivers.paymentMix.map PaymentShare.revenue).sum = report.revenue
  paymentCounts :
    (report.drivers.paymentMix.map PaymentShare.transactionCount).sum = report.transactionCount
  families : (report.drivers.familyMix.map LabelTotal.grossSales).sum = 100 * report.revenue
  categories : (report.drivers.categoryMix.map LabelTotal.grossSales).sum = 100 * report.revenue

/-- The rows and months of a customer report add up to its totals, and with the sales of unnamed
buyers to the sales of its range. -/
structure CustomersDivided (report : CustomerReport) (revenue : Int) (transactionCount : Nat) :
    Prop where
  months : (report.monthlySummary.map MonthSummary.revenue).sum = report.totalRevenue
  monthCounts :
    (report.monthlySummary.map MonthSummary.transactionCount).sum = report.transactionCount
  assigned : report.totalRevenue + report.unassignedRevenue = revenue
  assignedCounts : report.transactionCount + report.unassignedTransactionCount = transactionCount
  customerStatus : ∀ row ∈ report.customers,
    row.paidAmount + row.pendingAmount + row.unknownAmount = row.totalSpent
  status : report.paidAmount + report.pendingAmount + report.unknownAmount = report.totalRevenue

/-- The reports of one range have the same headline, and every breakdown adds up to it. -/
structure RangeDivided (daily : DailySales F) (weekly : WeeklySales F) (monthly : MonthlySales F)
    (customer : CustomerReport) : Prop where
  weeklyHeadline : weekly.headline = daily.headline
  monthlyHeadline : monthly.headline = daily.headline
  headline : HeadlineDivided daily.headline
  dailyProducts : (daily.items.map ProductRow.revenue).sum = 100 * daily.headline.revenue
  weeklyProducts : (weekly.topProducts.map ProductRow.revenue).sum = 100 * weekly.headline.revenue
  monthlyProducts :
    (monthly.topProducts.map ProductRow.revenue).sum = 100 * monthly.headline.revenue
  days : (weekly.dailyBreakdown.map DayTotal.revenue).sum = weekly.headline.revenue
  dayCounts :
    (weekly.dailyBreakdown.map DayTotal.transactionCount).sum = weekly.headline.transactionCount
  weeks : (monthly.weeklyBreakdown.map WeekTotal.revenue).sum = monthly.headline.revenue
  weekCounts :
    (monthly.weeklyBreakdown.map WeekTotal.transactionCount).sum = monthly.headline.transactionCount
  customers : CustomersDivided customer daily.headline.revenue daily.headline.transactionCount

variable (E : Engine) (rounded : ℚ → F) (casefold : String → String) {env : Deployment} {now : Int}
  {db : Database} (scope : Scope) {startDate endDate : Int}

theorem Recorded.headlineDivided (h : Recorded env now db) (previousStart previousEnd : Int) :
    HeadlineDivided
      (salesReport E rounded env.zone db scope startDate endDate previousStart previousEnd) where
  payments := (paymentMix_sum E _).1
  paymentCounts := (paymentMix_sum E _).2
  families := (labelTotals_sum E _ _).trans h.lines_total
  categories := (labelTotals_sum E _ _).trans h.lines_total

theorem total_named (measure : Transaction → Int) (sales : List Transaction) :
    total measure (sales.filter fun txn => txn.customer.isSome) +
      total measure (sales.filter fun txn => txn.customer.isNone) = total measure sales := by
  have hunnamed : (sales.filter fun txn => txn.customer.isNone) =
      sales.filter fun txn => !txn.customer.isSome := by
    refine List.filter_congr ?_
    intro txn _
    cases txn.customer with
    | none => rfl
    | some customer => rfl
  rw [hunnamed]
  exact total_filter_add measure _ sales

theorem Recorded.customersDivided (h : Recorded env now db) (hstart : 1 ≤ startDate) :
    CustomersDivided
      (customerReport E env.zone casefold db scope (env.zone.localDate now) (some startDate)
        (some endDate))
      (totalAmounts (salesIn env.zone db scope startDate endDate))
      (salesIn env.zone db scope startDate endDate).length := by
  let zone := env.zone
  -- the sales that the report reads
  let sales := ((visibleTransactions db scope).filter fun txn =>
      !txn.isVoided && decide (zone.localDate txn.createdAt ≤ zone.localDate now)).filter fun txn =>
    decide (startDate ≤ zone.localDate txn.createdAt)
      && decide (zone.localDate txn.createdAt ≤ endDate)
  let named := sales.filter fun txn => txn.customer.isSome
  let rows := customerRows E zone db.customers named
  -- no sale is dated after today, so they are those of the sales reports
  have hsales : sales = salesIn zone db scope startDate endDate := by
    unfold sales salesIn
    rw [List.filter_filter]
    refine List.filter_congr ?_
    intro txn htxn
    have htoday : decide (zone.localDate txn.createdAt ≤ zone.localDate now) = true :=
      decide_eq_true (h.itemized.dated txn (visibleTransactions_sub htxn))
    rw [htoday, Bool.and_true, Bool.and_comm, ← Bool.and_assoc]
    rfl
  have hperiod : ∀ txn ∈ named, txn ∈ db.transactions.rows ∧
      startDate ≤ zone.localDate txn.createdAt ∧ zone.localDate txn.createdAt ≤ endDate := by
    intro txn htxn
    have hmem := (List.mem_filter.1 htxn).1
    rw [hsales] at hmem
    obtain ⟨hvisible, hin⟩ := List.mem_filter.1 hmem
    exact ⟨visibleTransactions_sub hvisible, (inPeriod_iff.1 hin).2⟩
  have hnamed : ∀ txn ∈ named, txn.customer.isSome := fun txn htxn => (List.mem_filter.1 htxn).2
  have haccounts : ∀ txn ∈ named, ∀ customer ∈ txn.customer,
      ∃ account ∈ db.customers.rows, account.pk = customer := fun txn htxn =>
    h.customers txn (hperiod txn htxn).1
  have hdates : ∀ txn ∈ named, 1 ≤ zone.localDate txn.createdAt ∧
      zone.localDate txn.createdAt ≤ endDate := fun txn htxn =>
    ⟨Int.le_trans hstart (hperiod txn htxn).2.1, (hperiod txn htxn).2.2⟩
  have hspent : (rows.map CustomerRow.totalSpent).sum = totalAmounts named :=
    customerRows_sum Transaction.totalAmount (fun _ _ => rfl) hnamed haccounts
  have hcount : (rows.map CustomerRow.transactionCount).sum = named.length :=
    (customerRows_sum (fun _ => 1) (fun _ sales => (total_one sales).symm) hnamed
      haccounts).trans (total_one named)
  have hstatus : ∀ row ∈ rows, row.paidAmount + row.pendingAmount + row.unknownAmount =
      row.totalSpent := by
    intro row hrow
    obtain ⟨account, _, rfl⟩ := List.mem_map.1 hrow
    exact amountWithStatus_add _
  -- the first month starts no later than the range
  obtain ⟨hmonth, hfirst⟩ := isMonth_monthStart hstart
  have hall : named.filter (fun txn =>
      decide (monthStart startDate ≤ zone.localDate txn.createdAt)) = named := by
    refine List.filter_eq_self.2 ?_
    intro txn htxn
    exact decide_eq_true (Int.le_trans hfirst (hperiod txn htxn).2.1)
  refine
    { months := ?_
      monthCounts := ?_
      assigned := ?_
      assignedCounts := ?_
      customerStatus := hstatus
      status := ?_ }
  · refine (monthlySummary_sum Transaction.totalAmount MonthCustomer.totalSpent MonthSummary.revenue
      (fun _ _ _ => rfl) (fun _ _ _ _ => rfl) hnamed hdates _ _ hmonth (Nat.lt_succ_self _)).trans ?_
    rw [hall]
    exact hspent.symm
  · refine (monthlySummary_sum (fun _ => 1) MonthCustomer.transactionCount MonthSummary.transactionCount
      (fun _ _ sales => (total_one sales).symm) (fun _ _ _ _ => rfl) hnamed hdates _ _ hmonth
      (Nat.lt_succ_self _)).trans ?_
    rw [hall, total_one]
    exact hcount.symm
  · rw [← hsales]
    refine Eq.trans ?_ (total_named Transaction.totalAmount sales)
    exact congrArg (· + totalAmounts (sales.filter fun txn => txn.customer.isNone)) hspent
  · rw [← hsales]
    have hlength := total_named (fun _ => 1) sales
    simp only [total, List.map_const', List.sum_replicate, nsmul_eq_mul, mul_one] at hlength
    refine Eq.trans (congrArg (· + (sales.filter fun txn => txn.customer.isNone).length) hcount) ?_
    exact_mod_cast hlength
  · have hsum := total_congr hstatus
    rw [total_add, total_add] at hsum
    exact hsum

/-- The reports of any range divide the same sales: by payment, product, day, week, month and
customer. -/
theorem report_breakdowns_partition (h : Recorded env now db) (hstart : 1 ≤ startDate) :
    RangeDivided
      (dailySales E rounded env.zone db scope (env.zone.localDate now) (some startDate)
        (some endDate))
      (weeklySales E rounded env.zone db scope (env.zone.localDate now) (some startDate)
        (some endDate))
      (monthlySales E rounded env.zone db scope (env.zone.localDate now) (some startDate)
        (some endDate))
      (customerReport E env.zone casefold db scope (env.zone.localDate now) (some startDate)
        (some endDate)) where
  weeklyHeadline := rfl
  monthlyHeadline := rfl
  headline := h.headlineDivided E rounded scope _ _
  dailyProducts := (productRows_sum E _ _).trans h.lines_total
  weeklyProducts := (productRows_sum E _ _).trans h.lines_total
  monthlyProducts := (productRows_sum E _ _).trans h.lines_total
  days := (dailySalesBreakdown_sum E env.zone db scope startDate endDate).1
  dayCounts := (dailySalesBreakdown_sum E env.zone db scope startDate endDate).2
  weeks := (weeklyBreakdown_sum env.zone db scope startDate endDate).1
  weekCounts := (weeklyBreakdown_sum env.zone db scope startDate endDate).2
  customers := h.customersDivided E casefold scope hstart

end Reports

/-- An engine that keeps rows in their order and compares texts by their characters. -/
def Engine.plain : Engine :=
  { compareText := fun a b => compare (a.getD "") (b.getD "")
    icontains := fun text part => decide (1 < (text.toLower.splitOn part.toLower).length)
    arrange := fun rows => rows
    arrange_perm := fun rows => List.Perm.refl rows }

/-- Milk and yogurt. -/
def milkAndYogurt : Table Product :=
  (receivedOnDayOne false).products.create fun pk =>
    { milk with
      pk := pk
      name := "Yogurt" }

/-- So many units are received on day 1. -/
def receivedUnits (product : Nat) (quantity : Int) : Call :=
  { now := 86400
    op := .createBatch (some .admin)
      { product := some product
        grade := none
        unitPrice := none
        quantity := some (.ofAmount quantity)
        expirationDate := some 30
        dateReceived := none
        notes := none } }

/-- Three milks are sold to a passer-by on day 2, two milks and a yogurt to Ana on day 3. -/
def milkSold : List Call :=
  [receivedUnits 1 1000, receivedUnits 2 500,
   { now := 172800
     op := .checkout
      { items := [.priced 1 (.ofAmount 300) (.ofAmount 150)]
        staffUser := { pk := 1, role := .staff }
        amountTendered := some (.ofAmount 1000) } },
   { now := 259200
     op := .checkout
      { items := [.priced 1 (.ofAmount 200) (.ofAmount 150), .priced 2 (.ofAmount 100) (.ofAmount 325)]
        staffUser := { pk := 1, role := .staff }
        paymentMethod := "online"
        customer := some { pk := 1, name := "Ana" } } }]

def milkDatabase : Database :=
  { store := replay (Deployment.plain fun _ => "")
      (Store.empty (receivedOnDayOne false).categories milkAndYogurt) milkSold
    users := Table.empty
    customers := Table.empty.create fun pk =>
      { pk := pk
        name := "Ana"
        isActive := true } }

theorem report_breakdowns_partition_milk :
    RangeDivided
      (dailySales Engine.plain id Zone.fixed milkDatabase Scope.everything 3 (some 1) (some 40))
      (weeklySales Engine.plain id Zone.fixed milkDatabase Scope.everything 3 (some 1) (some 40))
      (monthlySales Engine.plain id Zone.fixed milkDatabase Scope.everything 3 (some 1) (some 40))
      (customerReport Engine.plain Zone.fixed id milkDatabase Scope.everything 3 (some 1)
        (some 40)) ∧
      (salesSummary Zone.fixed milkDatabase Scope.everything 1 40).1 = 1075 ∧
      milkDatabase.items.rows.length = 3 := by
  have hrecorded : Recorded (Deployment.plain fun _ => "") 259200 milkDatabase :=
    { sales := ⟨(receivedOnDayOne false).categories, milkAndYogurt, milkSold,
        by simp [SalesHistory, milkSold, receivedUnits, Operation.DatedBy], rfl, rfl⟩
      lines := by decide +kernel
      customers := by decide +kernel }
  exact ⟨report_breakdowns_partition Engine.plain id id Scope.everything hrecorded (by decide),
    by decide +kernel, by decide +kernel⟩

end RosarioDairy
