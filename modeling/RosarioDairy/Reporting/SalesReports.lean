import RosarioDairy.Forecasting.Learning
import RosarioDairy.Sales.Visibility

/-!
# SalesReports — daily, weekly and monthly sales

The sales reports of an inclusive range of business dates.  Money is counted in centavos and
quantities in hundredths; the amounts of sale lines, which may be a quantity times a price, are counted
in ten-thousandths.  Each query of a report is restricted to the visible sales on its own.
-/

namespace RosarioDairy

open Foundations Forecasting

section Queries

variable (E : Engine) (zone : Zone) (db : Database) (scope : Scope)

/-- A sale that counts for a range of dates. -/
def inPeriod (startDate endDate : Int) (txn : Transaction) : Bool :=
  !txn.isVoided && decide (startDate ≤ zone.localDate txn.createdAt)
    && decide (zone.localDate txn.createdAt ≤ endDate)

def totalAmounts (sales : List Transaction) : Int := (sales.map Transaction.totalAmount).sum

/-- `_sales_summary` -/
def salesSummary (startDate endDate : Int) : Int × Nat :=
  let sales := (visibleTransactions db scope).filter (inPeriod zone startDate endDate)
  (totalAmounts sales, sales.length)

/-- `_growth_rate`, where `rounded` makes a decimal a float of two places. -/
def growthRate {F : Type} (rounded : ℚ → F) (current previous : Int) : Option F :=
  if previous = 0 then
    if current = 0 then none else some (rounded 100)
  else
    some (rounded (decimalContext
      (decimalContext (((current : ℚ) - previous) / previous) * 100)))

/-- `_line_revenue` -/
def lineRevenue (line : SoldLine) : Int :=
  match line.item.subtotal with
  | some subtotal => subtotal * 100
  | none => line.item.quantity * line.item.unitPrice

/-- `_period_items` -/
def periodItems (startDate endDate : Int) : List SoldLine :=
  visibleLines db scope (inPeriod zone startDate endDate)

def SoldLine.productName (line : SoldLine) : String :=
  line.item.productNameSnapshot.getD line.product.name

def SoldLine.variant (line : SoldLine) : Option String :=
  line.item.productVariantSnapshot.or line.product.variant

def SoldLine.categoryName (line : SoldLine) : String :=
  line.item.categoryNameSnapshot.getD line.category.name

def totalRevenue (lines : List SoldLine) : Int := (lines.map lineRevenue).sum

def totalQuantity (lines : List SoldLine) : Int := (lines.map fun line => line.item.quantity).sum

/-! ## Drivers -/

structure PaymentShare where
  paymentMethod : PaymentMethod
  transactionCount : Nat
  revenue : Int
  deriving DecidableEq, Repr

/-- What was sold under one label. -/
structure LabelTotal where
  label : String
  grossSales : Int
  quantity : Int
  deriving DecidableEq, Repr

structure SalesDrivers where
  grossSales : Int
  averageTicket : ℚ
  paymentMix : List PaymentShare
  categoryMix : List LabelTotal
  familyMix : List LabelTotal
  deriving DecidableEq, Repr

/-- The lines by label, the largest revenue first. -/
def labelTotals (label : SoldLine → String) (lines : List SoldLine) : List LabelTotal :=
  sortedBy (fun a b => (compare b.grossSales a.grossSales).then
      (E.compareText (some a.label) (some b.label)))
    ((groupRows E label lines).map fun group =>
      { label := group.1
        grossSales := totalRevenue group.2
        quantity := totalQuantity group.2 })

/-- The methods are ordered by revenue alone. -/
def paymentMix (sales : List Transaction) : List PaymentShare :=
  sortedBy (fun a b => compare b.revenue a.revenue)
    ((groupRows E Transaction.paymentMethod sales).map fun group =>
      { paymentMethod := group.1
        transactionCount := group.2.length
        revenue := totalAmounts group.2 })

/-- `_sales_drivers` -/
def salesDrivers (startDate endDate : Int) : SalesDrivers :=
  let transactions := (visibleTransactions db scope).filter (inPeriod zone startDate endDate)
  let net := totalAmounts transactions
  let count := transactions.length
  { grossSales := (transactions.map Transaction.subtotal).sum
    averageTicket := if count = 0 then 0 else decimalContext ((net : ℚ) / 100 / count)
    paymentMix := paymentMix E transactions
    categoryMix := labelTotals E SoldLine.categoryName (periodItems zone db scope startDate endDate)
    familyMix := labelTotals E SoldLine.productName (periodItems zone db scope startDate endDate) }

/-! ## Products -/

structure ProductTotal where
  name : String
  variant : Option String
  quantity : Int
  revenue : Int
  deriving DecidableEq, Repr

/-- `_product_label` -/
def ProductTotal.productName (total : ProductTotal) : String :=
  match total.variant with
  | some variant => if variant ≠ "" then total.name ++ " · " ++ variant else total.name
  | none => total.name

def productTotals (lines : List SoldLine) : List ProductTotal :=
  (groupRows E (fun line : SoldLine => (line.productName, line.variant)) lines).map fun group =>
    { name := group.1.1
      variant := group.1.2
      quantity := totalQuantity group.2
      revenue := totalRevenue group.2 }

/-- A line of a report, headed by the label of its product. -/
structure ProductRow where
  productName : String
  quantity : Int
  revenue : Int
  deriving DecidableEq, Repr

def ProductTotal.row (total : ProductTotal) : ProductRow :=
  { productName := total.productName
    quantity := total.quantity
    revenue := total.revenue }

/-- `_top_products` -/
def topProducts (startDate endDate : Int) : List ProductRow :=
  (sortedBy (fun a b => ((compare b.revenue a.revenue).then
      (E.compareText (some a.name) (some b.name))).then (E.compareText a.variant b.variant))
    (productTotals E (periodItems zone db scope startDate endDate))).map ProductTotal.row

/-! ## Breakdowns -/

/-- The dates of an inclusive range. -/
def datesFrom (startDate endDate : Int) : List Int :=
  (List.range (endDate - startDate + 1).toNat).map fun n : Nat => startDate + n

structure DayTotal where
  date : Int
  transactionCount : Nat
  revenue : Int
  deriving DecidableEq, Repr

/-- `_daily_sales_breakdown` -/
def dailySalesBreakdown (startDate endDate : Int) : List DayTotal :=
  let dailyByDate := groupRows E (fun txn : Transaction => zone.localDate txn.createdAt)
    ((visibleTransactions db scope).filter (inPeriod zone startDate endDate))
  (datesFrom startDate endDate).map fun date =>
    let sales := (dailyByDate.lookup date).getD []
    { date := date
      transactionCount := sales.length
      revenue := totalAmounts sales }

/-- The Monday of a week. -/
def weekStart (date : Int) : Int := date - (date + 6) % 7

/-- The weeks that a range of dates touches. -/
def weekStarts (startDate endDate : Int) : List Int :=
  (datesFrom startDate endDate).foldl
    (fun starts date =>
      if starts.getLast? = some (weekStart date) then starts else starts ++ [weekStart date]) []

example : weekStarts 738945 738953 = [738942, 738949] := by decide

structure WeekTotal where
  weekStart : Int
  weekEnd : Int
  transactionCount : Nat
  revenue : Int
  deriving DecidableEq, Repr

def weekTotal (startDate endDate monday : Int) : WeekTotal :=
  let bucketStart := max monday startDate
  let bucketEnd := min (monday + 6) endDate
  let bucket := salesSummary zone db scope bucketStart bucketEnd
  { weekStart := bucketStart
    weekEnd := bucketEnd
    transactionCount := bucket.2
    revenue := bucket.1 }

end Queries

/-! ## Reports -/

/-- What the three reports have in common; `productRevenueBasis` is the same text in all of them. -/
structure SalesReport (F : Type) where
  startDate : Int
  endDate : Int
  previousPeriodStart : Int
  previousPeriodEnd : Int
  productRevenueBasis : String
  revenue : Int
  transactionCount : Nat
  previousRevenue : Int
  previousTransactionCount : Nat
  growthRate : Option F
  drivers : SalesDrivers

structure DailySales (F : Type) where
  date : Int
  headline : SalesReport F
  items : List ProductRow

structure WeeklySales (F : Type) where
  headline : SalesReport F
  dailyBreakdown : List DayTotal
  topProducts : List ProductRow

structure MonthlySales (F : Type) where
  headline : SalesReport F
  weeklyBreakdown : List WeekTotal
  topProducts : List ProductRow

section Reports

variable {F : Type} (E : Engine) (rounded : ℚ → F) (zone : Zone) (db : Database) (scope : Scope)

def salesReport (startDate endDate previousStart previousEnd : Int) : SalesReport F :=
  let current := salesSummary zone db scope startDate endDate
  let previous := salesSummary zone db scope previousStart previousEnd
  { startDate := startDate
    endDate := endDate
    previousPeriodStart := previousStart
    previousPeriodEnd := previousEnd
    productRevenueBasis := "recorded_line_amounts"
    revenue := current.1
    transactionCount := current.2
    previousRevenue := previous.1
    previousTransactionCount := previous.2
    growthRate := growthRate rounded current.1 previous.1
    drivers := salesDrivers E zone db scope startDate endDate }

/-- `daily_sales`, whose products are ordered by revenue and name only. -/
def dailySales (today : Int) (startDate endDate : Option Int) : DailySales F :=
  let startDate := startDate.getD today
  let endDate := endDate.getD today
  let itemRows := sortedBy (fun a b => (compare b.revenue a.revenue).then
      (E.compareText (some a.name) (some b.name)))
    (productTotals E (visibleLines db scope (inPeriod zone startDate endDate)))
  let previousEnd := startDate - 1
  let previousStart := previousEnd - (endDate - startDate)
  { date := endDate
    headline := salesReport E rounded zone db scope startDate endDate previousStart previousEnd
    items := itemRows.map ProductTotal.row }

/-- `weekly_sales` -/
def weeklySales (today : Int) (startDate endDate : Option Int) : WeeklySales F :=
  let endDate := endDate.getD today
  let startDate := startDate.getD (endDate - 6)
  let previousEnd := startDate - 1
  let previousStart := previousEnd - (endDate - startDate)
  { headline := salesReport E rounded zone db scope startDate endDate previousStart previousEnd
    dailyBreakdown := dailySalesBreakdown E zone db scope startDate endDate
    topProducts := topProducts E zone db scope startDate endDate }

/-- The period that a monthly report compares with: the same days of the previous month, or for a
chosen range as many days before it. -/
def previousMonthPeriod (today : Int) (custom : Bool) (startDate endDate : Int) : Int × Int :=
  if custom then
    (startDate - 1 - (endDate - startDate), startDate - 1)
  else
    let previousStart := monthStart (startDate - 1)
    (previousStart, min (startDate - 1) (previousStart + ((Day.toYmd today).day - 1)))

/-- `monthly_sales` -/
def monthlySales (today : Int) (startDate endDate : Option Int) : MonthlySales F :=
  let custom := startDate.isSome
  let startDate := startDate.getD (monthStart today)
  let endDate := endDate.getD today
  let previous := previousMonthPeriod today custom startDate endDate
  { headline := salesReport E rounded zone db scope startDate endDate previous.1 previous.2
    weeklyBreakdown :=
      (weekStarts startDate endDate).map (weekTotal zone db scope startDate endDate)
    topProducts := topProducts E zone db scope startDate endDate }

end Reports

end RosarioDairy
