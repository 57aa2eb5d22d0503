import Mathlib.Algebra.BigOperators.Ring.List
import RosarioDairy.Reporting.CustomerReport
import RosarioDairy.Sales.ItemizedSales

/-!
# Breakdowns — the rows of a report add up to its headline

Every breakdown of a sales report divides the sales of its range, or their lines, by some key.  The
rows of a breakdown therefore add up to the headline, whatever the key is: the day, the week, the
month, the method of payment, the product or the customer.
-/

namespace RosarioDairy

open Foundations Forecasting

/-! ## Queries -/

section Queries

variable {α κ M : Type} [DecidableEq κ] [AddCommMonoid M]

theorem total_sortedBy (measure : α → M) (order : α → α → Ordering) (rows : List α) :
    total measure (sortedBy order rows) = total measure rows :=
  total_perm measure (List.perm_insertionSort _ rows)

omit [AddCommMonoid M] in
theorem groupRows_rows {E : Engine} {key : α → κ} {rows : List α} {group : κ × List α}
    (hgroup : group ∈ groupRows E key rows) :
    group.1 ∈ rows.map key ∧ group.2 = rows.filter fun row => decide (key row = group.1) := by
  obtain ⟨k, hk, rfl⟩ := List.mem_map.1 ((E.arrange_perm _).mem_iff.1 hgroup)
  exact ⟨List.mem_dedup.1 hk, rfl⟩

omit [AddCommMonoid M] in
theorem keys_groupRows (E : Engine) (key : α → κ) (rows : List α) :
    ((groupRows E key rows).map Prod.fst).Perm (rows.map key).dedup := by
  have hmap := (E.arrange_perm ((rows.map key).dedup.map fun k =>
    (k, rows.filter fun row => decide (key row = k)))).map Prod.fst
  rw [List.map_map] at hmap
  simpa [Function.comp_def, groupRows] using hmap

omit [AddCommMonoid M] in
theorem lookup_groupRows (E : Engine) (key : α → κ) (rows : List α) (k : κ) :
    ((groupRows E key rows).lookup k).getD [] = rows.filter fun row => decide (key row = k) := by
  refine getD_lookup (fun k => rows.filter fun row => decide (key row = k))
    (fun group hgroup => (groupRows_rows hgroup).2) ?_
  intro habsent
  refine List.filter_eq_nil_iff.2 ?_
  intro row hrow hkey
  refine habsent ((keys_groupRows E key rows).mem_iff.2 (List.mem_dedup.2 ?_))
  exact List.mem_map.2 ⟨row, hrow, of_decide_eq_true hkey⟩

/-- The groups of a query add up to its rows. -/
theorem total_groupRows (E : Engine) (measure : α → M) (key : α → κ) (rows : List α) :
    total (fun group => total measure group.2) (groupRows E key rows) = total measure rows := by
  rw [groupRows, total_perm _ (E.arrange_perm _), total_map]
  refine total_parts measure key (List.nodup_dedup _) ?_
  intro row hrow
  exact List.mem_dedup.2 (List.mem_map_of_mem hrow)

end Queries

/-! ## Days -/

theorem mem_datesFrom {startDate endDate date : Int} :
    date ∈ datesFrom startDate endDate ↔ startDate ≤ date ∧ date ≤ endDate := by
  simp only [datesFrom, List.mem_map, List.mem_range]
  constructor
  · rintro ⟨n, hn, rfl⟩
    omega
  · rintro ⟨hstart, hend⟩
    exact ⟨(date - startDate).toNat, by omega, by omega⟩

theorem pairwise_datesFrom (startDate endDate : Int) :
    (datesFrom startDate endDate).Pairwise (· < ·) := by
  refine List.pairwise_map.2 ?_
  refine List.pairwise_lt_range.imp ?_
  intro a b hlt
  omega

/-! ## Weeks -/

theorem weekStart_eq_iff {date monday : Int} (hmonday : weekStart monday = monday) :
    weekStart date = monday ↔ monday ≤ date ∧ date ≤ monday + 6 := by
  unfold weekStart at *
  omega

theorem weekStart_weekStart (date : Int) : weekStart (weekStart date) = weekStart date := by
  unfold weekStart
  omega

theorem weekStart_mono {date date' : Int} (h : date ≤ date') : weekStart date ≤ weekStart date' := by
  unfold weekStart
  omega

/-- One round of the loop over the dates. -/
def openWeek (starts : List Int) (date : Int) : List Int :=
  if starts.getLast? = some (weekStart date) then starts else starts ++ [weekStart date]

/-- A date adds its week, unless the week is the last one so far. -/
theorem openWeek_spec {starts : List Int} {date : Int} (hstarts : starts.Pairwise (· < ·))
    (hbelow : ∀ start ∈ starts, start ≤ weekStart date) :
    (openWeek starts date).Pairwise (· < ·) ∧
      ∀ week, week ∈ openWeek starts date ↔ week ∈ starts ∨ week = weekStart date := by
  unfold openWeek
  by_cases hlast : starts.getLast? = some (weekStart date)
  · rw [if_pos hlast]
    refine ⟨hstarts, ?_⟩
    intro week
    constructor
    · exact Or.inl
    · rintro (hmem | rfl)
      · exact hmem
      · exact List.mem_of_getLast? hlast
  · rw [if_neg hlast]
    have hlt : ∀ start ∈ starts, start < weekStart date := by
      intro start hstart
      refine lt_of_le_of_ne (hbelow start hstart) ?_
      rintro rfl
      -- the starts ascend, so one that is not below the new week would be the last
      refine hlast ?_
      rcases List.eq_nil_or_concat starts with rfl | ⟨init, last, rfl⟩
      · cases hstart
      · rw [List.concat_eq_append] at hstart hstarts hbelow ⊢
        have hle : last ≤ weekStart date := hbelow last (by simp)
        rcases List.mem_append.1 hstart with hearly | hEq
        · have hlater : weekStart date < last :=
            (List.pairwise_append.1 hstarts).2.2 _ hearly last (by simp)
          omega
        · simp [List.mem_singleton.1 hEq]
    refine ⟨List.pairwise_append.2 ⟨hstarts, List.pairwise_singleton _ _, ?_⟩, ?_⟩
    · intro start hstart later hlater
      rw [List.mem_singleton.1 hlater]
      exact hlt start hstart
    · intro week
      rw [List.mem_append, List.mem_singleton]

theorem foldl_openWeek : ∀ {dates starts : List Int}, dates.Pairwise (· < ·) →
    starts.Pairwise (· < ·) → (∀ start ∈ starts, ∀ date ∈ dates, start ≤ weekStart date) →
      (dates.foldl openWeek starts).Pairwise (· < ·) ∧
        ∀ week, week ∈ dates.foldl openWeek starts ↔
          week ∈ starts ∨ ∃ date ∈ dates, weekStart date = week
  | [], starts, _, hstarts, _ => ⟨hstarts, by simp⟩
  | date :: dates, starts, hdates, hstarts, hbelow => by
      obtain ⟨hfirst, hdates⟩ := List.pairwise_cons.1 hdates
      obtain ⟨hopen, hopenMem⟩ := openWeek_spec hstarts fun start hstart =>
        hbelow start hstart date List.mem_cons_self
      have hopenBelow : ∀ start ∈ openWeek starts date, ∀ later ∈ dates,
          start ≤ weekStart later := by
        intro start hstart later hlater
        rcases (hopenMem start).1 hstart with hold | rfl
        · exact hbelow start hold later (List.mem_cons_of_mem _ hlater)
        · exact weekStart_mono (hfirst later hlater).le
      obtain ⟨hpairwise, hmem⟩ := foldl_openWeek hdates hopen hopenBelow
      refine ⟨hpairwise, ?_⟩
      intro week
      simp only [List.foldl_cons, hmem, hopenMem, List.exists_mem_cons_iff, or_assoc]
      rw [eq_comm (a := week)]

theorem nodup_weekStarts (startDate endDate : Int) : (weekStarts startDate endDate).Nodup :=
  (foldl_openWeek (pairwise_datesFrom startDate endDate) List.Pairwise.nil (by simp)).1.imp
    (fun hlt => hlt.ne)

theorem mem_weekStarts {startDate endDate week : Int} : week ∈ weekStarts startDate endDate ↔
    ∃ date, startDate ≤ date ∧ date ≤ endDate ∧ weekStart date = week := by
  have hmem := (foldl_openWeek (pairwise_datesFrom startDate endDate) List.Pairwise.nil
    (by simp)).2 week
  refine hmem.trans ?_
  simp only [List.not_mem_nil, false_or, mem_datesFrom, and_assoc]

/-! ## Sales and their lines -/

/-- The sales in a database: recorded by service calls up to an instant, with the rows that their
foreign keys refer to.  The catalogue may have been edited since. -/
structure Recorded (env : Deployment) (now : Int) (db : Database) : Prop where
  sales : ∃ categories products history, SalesHistory env now history ∧
    db.transactions = (replay env (Store.empty categories products) history).transactions ∧
      db.items = (replay env (Store.empty categories products) history).items
  lines : ∀ item ∈ db.items.rows, (soldLine db item).isSome = true
  customers : ∀ txn ∈ db.transactions.rows, ∀ customer ∈ txn.customer,
    ∃ account ∈ db.customers.rows, account.pk = customer

theorem Recorded.itemized {env : Deployment} {now : Int} {db : Database}
    (h : Recorded env now db) : Itemized env.zone (env.zone.localDate now) db.store := by
  obtain ⟨categories, products, history, hhistory, htransactions, hitems⟩ := h.sales
  refine (replay_itemized hhistory categories products).resave hitems ?_
  have hrows : db.store.transactions = _ := htransactions
  rw [hrows]

section Sales

variable {zone : Zone} {db : Database} {scope : Scope} {startDate endDate : Int}

/-- The sales that a query of a period reads. -/
def salesIn (zone : Zone) (db : Database) (scope : Scope) (startDate endDate : Int) :
    List Transaction :=
  (visibleTransactions db scope).filter (inPeriod zone startDate endDate)

theorem inPeriod_iff {txn : Transaction} : inPeriod zone startDate endDate txn = true ↔
    txn.isVoided = false ∧ startDate ≤ zone.localDate txn.createdAt ∧
      zone.localDate txn.createdAt ≤ endDate := by
  simp [inPeriod, and_assoc]

theorem visibleTransactions_scan (db : Database) (scope : Scope) :
    visibleTransactions db scope = [] ∨ ∃ p, visibleTransactions db scope = db.transactions.scan p := by
  unfold visibleTransactions
  split
  · split
    · exact Or.inl rfl
    · exact Or.inr ⟨_, rfl⟩
  · exact Or.inr ⟨_, rfl⟩

theorem visibleTransactions_sub {txn : Transaction} (h : txn ∈ visibleTransactions db scope) :
    txn ∈ db.transactions.rows := by
  rcases visibleTransactions_scan db scope with hnone | ⟨p, hscan⟩
  · rw [hnone] at h
    cases h
  · rw [hscan] at h
    exact (Table.mem_scan.1 h).1

theorem nodup_visibleTransactions :
    ((visibleTransactions db scope).map Transaction.pk).Nodup := by
  rcases visibleTransactions_scan db scope with hnone | ⟨p, hscan⟩
  · rw [hnone]
    exact List.nodup_nil
  · rw [hscan]
    exact Table.nodup_scan db.transactions p

/-- The lines of a period are those of its sales, sale by sale. -/
theorem total_periodItems (zone : Zone) (db : Database) (scope : Scope) (startDate endDate : Int) :
    totalRevenue (periodItems zone db scope startDate endDate) =
      total (fun txn : Transaction => total (fun item : TransactionItem =>
        (soldLine db item).elim 0 lineRevenue) (db.store.itemsOf txn.pk))
        (salesIn zone db scope startDate endDate) := by
  let sales := salesIn zone db scope startDate endDate
  let sold (item : TransactionItem) : Bool :=
    (visibleTransactions db scope).any fun txn =>
      decide (txn.pk = item.transaction) && inPeriod zone startDate endDate txn
  -- a line is counted when its sale is a sale of the period
  have hsold (item : TransactionItem) : sold item = true ↔
      item.transaction ∈ sales.map Transaction.pk := by
    simp only [sold, sales, salesIn, List.any_eq_true, Bool.and_eq_true, decide_eq_true_eq,
      List.mem_map, List.mem_filter]
    constructor
    · rintro ⟨txn, hvisible, hpk, hperiod⟩
      exact ⟨txn, ⟨hvisible, hperiod⟩, hpk⟩
    · rintro ⟨txn, ⟨hvisible, hperiod⟩, hpk⟩
      exact ⟨txn, hvisible, hpk, hperiod⟩
  have hnodup : (sales.map Transaction.pk).Nodup :=
    nodup_visibleTransactions.sublist (List.filter_sublist.map _)
  -- the lines fall apart into the lines of each sale
  have hparts := total_parts (fun item : TransactionItem => (soldLine db item).elim 0 lineRevenue)
    TransactionItem.transaction hnodup fun item (hitem : item ∈ db.items.scan sold) =>
      (hsold item).1 (Table.mem_scan.1 hitem).2
  calc totalRevenue (periodItems zone db scope startDate endDate)
      = total (fun item => (soldLine db item).elim 0 lineRevenue) (db.items.scan sold) :=
        total_filterMap lineRevenue (soldLine db) _
    _ = _ := hparts.symm
    _ = _ := by
        rw [total_map]
        refine total_congr ?_
        intro txn htxn
        refine total_perm _ ?_
        refine ((Table.scan_perm db.items sold).filter _).trans ?_
        rw [List.filter_filter]
        refine List.Perm.of_eq (List.filter_congr ?_)
        intro item _
        by_cases hitem : item.transaction = txn.pk
        · simp [hitem, (hsold item).2 (hitem ▸ List.mem_map_of_mem htxn)]
        · simp [hitem]

/-- The lines of a period carry a hundred ten-thousandths for every centavo of its sales. -/
theorem Recorded.lines_total {env : Deployment} {now : Int} (h : Recorded env now db) :
    totalRevenue (periodItems zone db scope startDate endDate) =
      100 * totalAmounts (salesIn zone db scope startDate endDate) := by
  have hitemized := h.itemized
  have hline : ∀ item ∈ db.items.rows,
      (soldLine db item).elim 0 lineRevenue = 100 * item.subtotal.getD 0 := by
    intro item hitem
    obtain ⟨line, hsome⟩ := Option.isSome_iff_exists.1 (h.lines item hitem)
    obtain ⟨subtotal, hsubtotal⟩ := Option.isSome_iff_exists.1 (hitemized.amounts item hitem)
    have hsame : line.item = item := by
      simp only [soldLine, Option.bind_eq_some_iff, Option.map_eq_some_iff] at hsome
      obtain ⟨product, _, category, _, rfl⟩ := hsome
      rfl
    rw [hsome, Option.elim, lineRevenue, hsame, hsubtotal]
    exact Int.mul_comm subtotal 100
  have hmul (rows : List TransactionItem) :
      total (fun item => 100 * item.subtotal.getD 0) rows =
        100 * total (fun item : TransactionItem => item.subtotal.getD 0) rows :=
    List.sum_map_mul_left _ _ _
  rw [total_periodItems]
  refine Eq.trans (total_congr ?_) (List.sum_map_mul_left _ _ _)
  intro txn htxn
  have hrow : txn ∈ db.transactions.rows := visibleTransactions_sub (List.mem_filter.1 htxn).1
  calc total (fun item => (soldLine db item).elim 0 lineRevenue) (db.store.itemsOf txn.pk)
      = total (fun item : TransactionItem => 100 * item.subtotal.getD 0)
          (db.store.itemsOf txn.pk) :=
        total_congr fun item hitem => hline item (List.mem_filter.1 hitem).1
    _ = 100 * txn.totalAmount := by rw [hmul, hitemized.total txn hrow]

end Sales

/-! ## Rows by label, by day and by week -/

section Rows

variable (E : Engine) (zone : Zone) (db : Database) (scope : Scope) (startDate endDate : Int)

theorem labelTotals_sum (label : SoldLine → String) (lines : List SoldLine) :
    ((labelTotals E label lines).map LabelTotal.grossSales).sum = totalRevenue lines := by
  refine (total_sortedBy LabelTotal.grossSales _ _).trans ?_
  rw [total_map]
  exact total_groupRows E lineRevenue label lines

theorem productTotals_sum (lines : List SoldLine) :
    total ProductTotal.revenue (productTotals E lines) = totalRevenue lines := by
  rw [productTotals, total_map]
  exact total_groupRows E lineRevenue _ lines

/-- However the products are ordered, their rows add up to the lines. -/
theorem productRows_sum (order : ProductTotal → ProductTotal → Ordering) (lines : List SoldLine) :
    (((sortedBy order (productTotals E lines)).map ProductTotal.row).map ProductRow.revenue).sum =
      totalRevenue lines := by
  refine (total_map ProductRow.revenue ProductTotal.row _).trans ?_
  exact (total_sortedBy ProductTotal.revenue _ _).trans (productTotals_sum E lines)

theorem paymentMix_sum (sales : List Transaction) :
    ((paymentMix E sales).map PaymentShare.revenue).sum = totalAmounts sales ∧
      ((paymentMix E sales).map PaymentShare.transactionCount).sum = sales.length := by
  constructor
  · refine (total_sortedBy PaymentShare.revenue _ _).trans ?_
    rw [total_map]
    exact total_groupRows E Transaction.totalAmount _ sales
  · refine (total_sortedBy PaymentShare.transactionCount _ _).trans ?_
    rw [total_map, ← total_one sales, ← total_groupRows E (fun _ => 1) Transaction.paymentMethod]
    exact total_congr fun group _ => (total_one group.2).symm

theorem dailySalesBreakdown_sum :
    ((dailySalesBreakdown E zone db scope startDate endDate).map DayTotal.revenue).sum =
        totalAmounts (salesIn zone db scope startDate endDate) ∧
      ((dailySalesBreakdown E zone db scope startDate endDate).map DayTotal.transactionCount).sum =
        (salesIn zone db scope startDate endDate).length := by
  let sales := salesIn zone db scope startDate endDate
  let dateOf (txn : Transaction) : Int := zone.localDate txn.createdAt
  have hnodup : (datesFrom startDate endDate).Nodup :=
    (pairwise_datesFrom startDate endDate).imp fun hlt => hlt.ne
  have hcover : ∀ txn ∈ sales, dateOf txn ∈ datesFrom startDate endDate := by
    intro txn htxn
    have hperiod := inPeriod_iff.1 (List.mem_filter.1 htxn).2
    exact mem_datesFrom.2 hperiod.2
  have hday (date : Int) : ((groupRows E dateOf sales).lookup date).getD [] =
      sales.filter fun txn => decide (dateOf txn = date) := lookup_groupRows E dateOf sales date
  constructor
  · refine (total_map DayTotal.revenue _ _).trans ?_
    refine Eq.trans (total_congr ?_) (total_parts Transaction.totalAmount dateOf hnodup hcover)
    intro date _
    exact congrArg totalAmounts (hday date)
  · refine (total_map DayTotal.transactionCount _ _).trans ?_
    refine Eq.trans (total_congr ?_)
      ((total_parts (fun _ => 1) dateOf hnodup hcover).trans (total_one sales))
    intro date _
    rw [total_one]
    exact congrArg List.length (hday date)

/-- A week of the report holds the sales whose week it is. -/
theorem salesIn_week {monday : Int} (hmonday : weekStart monday = monday) :
    salesIn zone db scope (max monday startDate) (min (monday + 6) endDate) =
      (salesIn zone db scope startDate endDate).filter fun txn =>
        decide (weekStart (zone.localDate txn.createdAt) = monday) := by
  unfold salesIn
  rw [List.filter_filter]
  refine List.filter_congr ?_
  intro txn _
  rw [Bool.eq_iff_iff, Bool.and_eq_true, decide_eq_true_eq, inPeriod_iff, inPeriod_iff,
    weekStart_eq_iff hmonday]
  constructor
  · rintro ⟨hlive, hstart, hend⟩
    exact ⟨⟨by omega, by omega⟩, hlive, by omega, by omega⟩
  · rintro ⟨⟨hstart, hend⟩, hlive, hfrom, hto⟩
    exact ⟨hlive, by omega, by omega⟩

theorem weeklyBreakdown_sum :
    (((weekStarts startDate endDate).map (weekTotal zone db scope startDate endDate)).map
        WeekTotal.revenue).sum = totalAmounts (salesIn zone db scope startDate endDate) ∧
      (((weekStarts startDate endDate).map (weekTotal zone db scope startDate endDate)).map
        WeekTotal.transactionCount).sum = (salesIn zone db scope startDate endDate).length := by
  let sales := salesIn zone db scope startDate endDate
  let weekOf (txn : Transaction) : Int := weekStart (zone.localDate txn.createdAt)
  have hnodup := nodup_weekStarts startDate endDate
  have hcover : ∀ txn ∈ sales, weekOf txn ∈ weekStarts startDate endDate := by
    intro txn htxn
    obtain ⟨_, hstart, hend⟩ := inPeriod_iff.1 (List.mem_filter.1 htxn).2
    exact mem_weekStarts.2 ⟨_, hstart, hend, rfl⟩
  have hweek : ∀ monday ∈ weekStarts startDate endDate,
      salesIn zone db scope (max monday startDate) (min (monday + 6) endDate) =
        sales.filter fun txn => decide (weekOf txn = monday) := by
    intro monday hmem
    obtain ⟨date, _, _, rfl⟩ := mem_weekStarts.1 hmem
    exact salesIn_week zone db scope startDate endDate (weekStart_weekStart date)
  constructor
  · refine (total_map WeekTotal.revenue _ _).trans ?_
    refine Eq.trans (total_congr ?_) (total_parts Transaction.totalAmount weekOf hnodup hcover)
    intro monday hmem
    exact congrArg totalAmounts (hweek monday hmem)
  · refine (total_map WeekTotal.transactionCount _ _).trans ?_
    refine Eq.trans (total_congr ?_)
      ((total_parts (fun _ => 1) weekOf hnodup hcover).trans (total_one sales))
    intro monday hmem
    rw [total_one]
    exact congrArg List.length (hweek monday hmem)

end Rows

end RosarioDairy
