import RosarioDairy.Reporting.SalesReports

/-!
# CustomerReport — purchases by customer

The customer report of an inclusive range of business dates, with what every customer bought and how
much of it is paid, month by month, and the totals over the whole visible history.
-/

namespace RosarioDairy

open Foundations Forecasting

structure CustomerRow where
  customerId : Nat
  customerName : String
  isActive : Bool
  transactionCount : Nat
  totalSpent : Int
  paidAmount : Int
  pendingAmount : Int
  unknownAmount : Int
  pendingCount : Nat
  lastPurchase : Option Int
  deriving DecidableEq, Repr

/-- What one customer bought in one month. -/
structure MonthCustomer where
  customerId : Nat
  customerName : String
  transactionCount : Nat
  totalSpent : Int
  paidAmount : Int
  pendingAmount : Int
  unknownAmount : Int
  deriving DecidableEq, Repr

/-- A month of the report, named by its first day. -/
structure MonthSummary where
  month : Int
  startDate : Int
  endDate : Int
  customerCount : Nat
  transactionCount : Nat
  revenue : Int
  customers : List MonthCustomer
  deriving DecidableEq, Repr

structure CustomerReport where
  asOf : Int
  startDate : Int
  endDate : Int
  totalRevenue : Int
  transactionCount : Nat
  monthlySummary : List MonthSummary
  totalCustomers : Nat
  customerRecordCount : Nat
  activeCustomerCount : Nat
  customersWithPurchases : Nat
  averageLifetimeValue : ℚ
  totalLifetimeValue : Int
  topCustomers : List CustomerRow
  customers : List CustomerRow
  repeatCustomerCount : Nat
  paidAmount : Int
  pendingAmount : Int
  unknownAmount : Int
  pendingCustomerCount : Nat
  unassignedTransactionCount : Nat
  unassignedRevenue : Int
  deriving DecidableEq, Repr

section Customers

variable (E : Engine) (zone : Zone) (customers : Table CustomerAccount)

/-- `Sum('total_amount', filter=Q(payment_status=status))` -/
def amountWithStatus (status : PaymentStatus) (sales : List Transaction) : Int :=
  totalAmounts (sales.filter fun txn => decide (txn.paymentStatus = status))

/-- The sales of the customers that have any; sales of unnamed buyers are left out. -/
def byCustomer (sales : List Transaction) : List (Nat × List Transaction) :=
  (groupRows E Transaction.customer sales).filterMap fun group =>
    group.1.map fun customer => (customer, group.2)

def customerRow (customer : CustomerAccount) (sales : List Transaction) : CustomerRow :=
  { customerId := customer.pk
    customerName := customer.name
    isActive := customer.isActive
    transactionCount := sales.length
    totalSpent := totalAmounts sales
    paidAmount := amountWithStatus .paid sales
    pendingAmount := amountWithStatus .pending sales
    unknownAmount := amountWithStatus .unknown sales
    pendingCount := (sales.filter fun txn => decide (txn.paymentStatus = .pending)).length
    lastPurchase := ((sales.map Transaction.createdAt).max?).map zone.localDate }

/-- The customers with sales, by name. -/
def customerRows (sales : List Transaction) : List CustomerRow :=
  let aggregates := byCustomer E sales
  let accounts := sortedBy (fun a b => (E.compareText (some a.name) (some b.name)).then
      (compare a.pk b.pk))
    (customers.scan fun customer => (aggregates.map Prod.fst).contains customer.pk)
  accounts.map fun customer =>
    customerRow zone customer ((aggregates.lookup customer.pk).getD [])

/-! ## Months -/

def customerName (rows : List CustomerRow) (customer : Nat) : String :=
  ((rows.find? fun row => decide (row.customerId = customer)).map CustomerRow.customerName).getD ""

def monthCustomer (rows : List CustomerRow) (customer : Nat) (sales : List Transaction) :
    MonthCustomer :=
  { customerId := customer
    customerName := customerName rows customer
    transactionCount := sales.length
    totalSpent := totalAmounts sales
    paidAmount := amountWithStatus .paid sales
    pendingAmount := amountWithStatus .pending sales
    unknownAmount := amountWithStatus .unknown sales }

/-- `by_month[month]`, sorted by the folded names -/
def monthEntries (casefold : String → String) (rows : List CustomerRow) (sales : List Transaction)
    (month : Int) : List MonthCustomer :=
  sortedBy (fun a b => (compare (casefold a.customerName) (casefold b.customerName)).then
      (compare a.customerId b.customerId))
    ((byCustomer E (sales.filter fun txn =>
        decide (monthStart (zone.localDate txn.createdAt) = month))).map fun group =>
      monthCustomer rows group.1 group.2)

/-- The loop over the months from `month` on; every round is a month closer to the end date. -/
def monthlySummary (casefold : String → String) (rows : List CustomerRow) (sales : List Transaction)
    (startDate endDate : Int) : Nat → Int → List MonthSummary
  | 0, _ => []
  | rounds + 1, month =>
      if endDate < month then []
      else
        let entries := monthEntries E zone casefold rows sales month
        let summary : MonthSummary :=
          { month := month
            startDate := max month startDate
            endDate := min (monthEnd month) endDate
            customerCount := entries.length
            transactionCount := (entries.map MonthCustomer.transactionCount).sum
            revenue := (entries.map MonthCustomer.totalSpent).sum
            customers := entries }
        if endDate ≤ monthEnd month then [summary]
        else
          summary :: monthlySummary casefold rows sales startDate endDate rounds (monthEnd month + 1)

/-! ## The report -/

/-- `Count('customer_id', distinct=True)` -/
def distinctCustomers (sales : List Transaction) : Nat :=
  ((sales.filterMap Transaction.customer).dedup).length

/-- `customer_report` -/
def customerReport (casefold : String → String) (db : Database) (scope : Scope) (today : Int)
    (startDate endDate : Option Int) : CustomerReport :=
  let startDate := startDate.getD (monthStart today)
  let endDate := endDate.getD today
  -- the activity window: ninety days, today included
  let activeSince := today - 89
  let history := (visibleTransactions db scope).filter fun txn =>
    !txn.isVoided && decide (zone.localDate txn.createdAt ≤ today)
  let allSales := history.filter fun txn =>
    decide (startDate ≤ zone.localDate txn.createdAt)
      && decide (zone.localDate txn.createdAt ≤ endDate)
  let transactions := allSales.filter fun txn => txn.customer.isSome
  -- sales without a customer are reported beside the rows
  let rows := customerRows E zone db.customers transactions
  let unassigned := allSales.filter fun txn => txn.customer.isNone
  let lifetime := history.filter fun txn => txn.customer.isSome
  { asOf := today
    startDate := startDate
    endDate := endDate
    totalRevenue := (rows.map CustomerRow.totalSpent).sum
    transactionCount := (rows.map CustomerRow.transactionCount).sum
    monthlySummary := monthlySummary E zone casefold rows transactions startDate endDate
      ((endDate - monthStart startDate).toNat + 1) (monthStart startDate)
    totalCustomers := (db.customers.scan CustomerAccount.isActive).length
    customerRecordCount := rows.length
    activeCustomerCount := distinctCustomers
      (lifetime.filter fun txn => decide (activeSince ≤ zone.localDate txn.createdAt))
    customersWithPurchases := (byCustomer E transactions).length
    averageLifetimeValue :=
      if distinctCustomers lifetime = 0 then 0
      else decimalContext ((totalAmounts lifetime : ℚ) / 100 / distinctCustomers lifetime)
    totalLifetimeValue := totalAmounts lifetime
    topCustomers := sortedBy (fun a b => ((compare b.totalSpent a.totalSpent).then
        (compare a.customerName b.customerName)).then (compare a.customerId b.customerId))
      (rows.filter fun row => decide (row.transactionCount ≠ 0))
    customers := rows
    repeatCustomerCount := (rows.filter fun row => decide (2 ≤ row.transactionCount)).length
    paidAmount := (rows.map CustomerRow.paidAmount).sum
    pendingAmount := (rows.map CustomerRow.pendingAmount).sum
    unknownAmount := (rows.map CustomerRow.unknownAmount).sum
    pendingCustomerCount := (rows.filter fun row => decide (0 < row.pendingCount)).length
    unassignedTransactionCount := unassigned.length
    unassignedRevenue := totalAmounts unassigned }

end Customers

end RosarioDairy
