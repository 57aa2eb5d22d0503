import Mathlib.Data.List.Sort
import Mathlib.Data.String.Basic
import RosarioDairy.Store
import RosarioDairy.Text

/-!
# Ledger — `inventory_ledger`

The stock report of an inclusive range of business dates.  The store keeps no opening counts: the
closing balance of a range is today's remaining stock with the later movements undone, the opening
balance is the closing balance with the movements of the range undone.

The loops of the source fill the rows of all products at once; every turn touches the row of the
product of its batch only, so the rows are computed one product after the other here.
-/

namespace RosarioDairy

open Foundations

/-- What the report takes from outside the store: the customers' names, the case functions of the
text library and the collation the products are listed in. -/
structure ReportTexts where
  customerName : Nat → String
  lower : String → String
  casefold : String → String
  productLe : Product → Product → Bool

structure LedgerRow where
  id : Nat
  name : String
  unit : String
  beginning : Int
  received : Int
  total : Int
  outlet : Int
  allocations : List (String × Int)
  ending : Int
  adjustments : Int
  remarks : String
  deriving DecidableEq, Repr

structure Ledger where
  date : Int
  startDate : Int
  endDate : Int
  columns : List (String × String)
  rows : List LedgerRow
  deriving DecidableEq, Repr

/-- The dates a report covers; a report without a start date is the report of one day. -/
structure LedgerRange where
  custom : Bool
  startDate : Int
  endDate : Int
  deriving DecidableEq, Repr

def ledgerRange (clock : Clock) (startDate endDate : Option Int) : LedgerRange :=
  let last := endDate.getD clock.today
  { custom := startDate.isSome
    startDate := startDate.getD last
    endDate := last }

def LedgerRange.covers (range : LedgerRange) (day : Int) : Bool :=
  range.startDate ≤ day && day ≤ range.endDate

/-! ## Batches and their movements -/

/-- `_product_label`. -/
def productLabel (product : Product) : String :=
  match product.variant with
  | some variant => if variant ≠ "" then product.name ++ " · " ++ variant else product.name
  | none => product.name

/-- A batch the report counts. -/
def ProductBatch.inLedger (zone : Zone) (range : LedgerRange) (batch : ProductBatch) : Bool :=
  !batch.isHistoricalReference && batch.dateReceived ≤ range.endDate &&
    (!range.custom || zone.localDate batch.createdAt ≤ range.endDate)

/-- The counted batches of one product, by expiration date. -/
def ledgerBatches (zone : Zone) (range : LedgerRange) (s : Store) (product : Nat) :
    List ProductBatch :=
  (s.batches.rows.filter
    (fun batch => batch.product = product && batch.inLedger zone range)).insertionSort
      (fun a b => a.expirationDate ≤ b.expirationDate)

/-- The day a batch counts as received. -/
def ProductBatch.receivedOn (zone : Zone) (range : LedgerRange) (batch : ProductBatch) : Int :=
  if range.custom then max (zone.localDate batch.createdAt) batch.dateReceived
  else zone.localDate batch.createdAt

/-- The deductions from some batches: every sale line that was not voided, and every voided one
that left a return behind, with its transaction. -/
def ledgerSales (s : Store) (batches : List Nat) : List (TransactionItem × Transaction) :=
  (s.items.rows.filter (fun item => item.productBatch ∈ batches)).filterMap (fun item =>
    match s.transactions.find item.transaction with
    | some txn =>
        if txn.isVoided = false ∨ s.returnsOf item.pk ≠ [] then some (item, txn) else none
    | none => none)

def ledgerAdjustments (s : Store) (batches : List Nat) : List StockAdjustment :=
  s.adjustments.rows.filter (fun row => row.productBatch ∈ batches)

def ledgerReturns (s : Store) (batches : List Nat) : List StockReturn :=
  s.returns.rows.filter (fun row =>
    match s.items.find row.saleItem with
    | some item => item.productBatch ∈ batches
    | none => false)

/-! ## Columns -/

/-- The column a sale is allocated to, with its heading; `none` is the outlet. -/
def allocationColumn (texts : ReportTexts) (txn : Transaction) : Option (String × String) :=
  match txn.customer with
  | some customer => some ("customer-" ++ toString customer, texts.customerName customer)
  | none =>
      let label := strip txn.sourceCustomerLabel
      if label ≠ "" ∧ texts.lower label ≠ "outlet sales" then some ("source-" ++ label, label)
      else none

/-- `entries[key] = value`, where a new key goes to the end. -/
def assign {α : Type} : List (String × α) → String → α → List (String × α)
  | [], key, value => [(key, value)]
  | entry :: entries, key, value =>
      if entry.1 = key then (key, value) :: entries else entry :: assign entries key value

/-- `entries.get(key, 0)`. -/
def quantityOf : List (String × Int) → String → Int
  | [], _ => 0
  | entry :: entries, key => if entry.1 = key then entry.2 else quantityOf entries key

/-- What a row has deducted so far: the outlet and the allocations. -/
structure Deductions where
  outlet : Int
  allocations : List (String × Int)
  deriving DecidableEq, Repr

/-- A turn of the loop over the sales of the range. -/
def deduct (texts : ReportTexts) (sums : Deductions) (sale : TransactionItem × Transaction) :
    Deductions :=
  match allocationColumn texts sale.2 with
  | none => { sums with outlet := sums.outlet + sale.1.quantity }
  | some (key, _) =>
      { sums with
        allocations := assign sums.allocations key
          (quantityOf sums.allocations key + sale.1.quantity) }

def ledgerColumns (texts : ReportTexts) (sales : List (TransactionItem × Transaction)) :
    List (String × String) :=
  ((sales.filterMap (fun sale => allocationColumn texts sale.2)).foldl
    (fun columns column => assign columns column.1 column.2) []).insertionSort
      (fun a b => texts.casefold a.2 < texts.casefold b.2 ∨
        texts.casefold a.2 = texts.casefold b.2 ∧ a.1 ≤ b.1)

/-! ## Remarks -/

/-- `f'{quantity.normalize():f}'`: plain decimal digits without trailing zeros. -/
def plainQuantity (quantity : Int) : String :=
  let digits := quantity.natAbs
  let whole := (if quantity < 0 then "-" else "") ++ toString (digits / 100)
  if digits % 100 = 0 then whole
  else if digits % 10 = 0 then whole ++ "." ++ toString (digits % 100 / 10)
  else whole ++ "." ++ zeroPad 2 (digits % 100)

example : plainQuantity (-325) = "-3.25" := by decide

def onHandRemark (range : LedgerRange) (batch : ProductBatch) : Option String :=
  if !range.custom ∧ batch.remainingQuantity ≠ 0 ∧
      ((batch.status = .expired ∨ batch.status = .disposed) ∨
        batch.expirationDate < range.endDate) then
    some (plainQuantity batch.remainingQuantity ++ " " ++
      (if batch.status = .expired ∨ batch.status = .disposed then batch.status.text
        else "expired") ++ " on hand")
  else none

def adjustmentRemark (row : StockAdjustment) : String :=
  let text := plainQuantity row.quantity ++ " " ++ row.adjustmentType.display
  match row.reason with
  | some reason => if reason ≠ "" then text ++ ": " ++ reason else text
  | none => text

def returnRemark (row : StockReturn) : Option String :=
  if row.quantity ≠ 0 then some (plainQuantity row.quantity ++ " returned from cancelled sale")
  else none

/-! ## The report -/

/-- The sales of the range. -/
def salesWithin (zone : Zone) (range : LedgerRange) (s : Store) (batches : List Nat) :
    List (TransactionItem × Transaction) :=
  (ledgerSales s batches).filter (fun sale => range.covers (zone.localDate sale.2.movementAt))

/-- The closing balance: the stock left, with the movements after the range undone. -/
def ledgerEnding (zone : Zone) (range : LedgerRange) (s : Store) (batches : List ProductBatch) :
    Int :=
  let keys := batches.map ProductBatch.pk
  let left := (batches.map ProductBatch.remainingQuantity).sum
  if range.custom then
    left +
      (((ledgerSales s keys).filter
        (fun sale => range.endDate < zone.localDate sale.2.movementAt)).map
          (fun sale => sale.1.quantity)).sum +
      (((ledgerAdjustments s keys).filter
        (fun row => range.endDate < zone.localDate row.createdAt)).map
          StockAdjustment.quantity).sum -
      (((ledgerReturns s keys).filter
        (fun row => range.endDate < zone.localDate row.createdAt)).map
          StockReturn.quantity).sum
  else left

/-- The row of one product. -/
def ledgerRow (texts : ReportTexts) (zone : Zone) (range : LedgerRange) (s : Store)
    (product : Product) : LedgerRow :=
  -- the batches of the product that the range has seen
  let batches := ledgerBatches zone range s product.pk
  let keys := batches.map ProductBatch.pk
  -- adjustments and returns count on the day they were entered
  let adjustments := (ledgerAdjustments s keys).filter
    (fun row => range.covers (zone.localDate row.createdAt))
  let returns := (ledgerReturns s keys).filter
    (fun row => range.covers (zone.localDate row.createdAt))
  let ending := ledgerEnding zone range s batches
  let received := ((batches.filter
    (fun batch => range.covers (batch.receivedOn zone range))).map
      ProductBatch.initialQuantity).sum
  let sums := (salesWithin zone range s keys).foldl (deduct texts)
    { outlet := 0
      allocations := [] }
  let adjusted := (adjustments.map StockAdjustment.quantity).sum -
    (returns.map StockReturn.quantity).sum
  -- what was on hand at the end, and everything that left, give what was there
  let total := ending + (sums.outlet + (sums.allocations.map Prod.snd).sum + adjusted)
  { id := product.pk
    name := productLabel product
    unit := product.unit
    beginning := total - received
    received := received
    total := total
    outlet := sums.outlet
    allocations := sums.allocations
    ending := ending
    adjustments := adjusted
    remarks := String.intercalate "; " (batches.filterMap (onHandRemark range) ++
      adjustments.map adjustmentRemark ++ returns.filterMap returnRemark) }

def inventoryLedger (texts : ReportTexts) (clock : Clock) (visibleToStaff : Bool)
    (startDate endDate : Option Int) (s : Store) : Except Error Ledger := do
  require (visibleToStaff = false)
    (.permissionDenied "Global inventory movement reports require an admin account.")
  let range := ledgerRange clock startDate endDate
  let products := (s.products.rows.filter Product.isActive).insertionSort
    (fun a b => texts.productLe a b)
  let counted := products.flatMap (fun product =>
    (ledgerBatches clock.zone range s product.pk).map ProductBatch.pk)
  pure
    { date := range.endDate
      startDate := range.startDate
      endDate := range.endDate
      columns := ledgerColumns texts (salesWithin clock.zone range s counted)
      rows := products.map (ledgerRow texts clock.zone range s) }

/-- An administrator's report never fails. -/
theorem inventoryLedger_admin (texts : ReportTexts) (clock : Clock)
    (startDate endDate : Option Int) (s : Store) :
    ∃ ledger, inventoryLedger texts clock false startDate endDate s = .ok ledger :=
  ⟨_, rfl⟩

theorem inventoryLedger_ok {texts : ReportTexts} {clock : Clock} {visibleToStaff : Bool}
    {startDate endDate : Option Int} {s : Store} {ledger : Ledger}
    (h : inventoryLedger texts clock visibleToStaff startDate endDate s = .ok ledger) :
    visibleToStaff = false ∧ ∀ row, row ∈ ledger.rows ↔ ∃ product ∈ s.products.rows,
      product.isActive = true ∧
        row = ledgerRow texts clock.zone (ledgerRange clock startDate endDate) s product := by
  rcases require_bind_eq_ok.1 h with ⟨hadmin, h⟩
  have hledger := pure_eq_ok.1 h
  subst hledger
  refine ⟨hadmin, ?_⟩
  intro row
  constructor
  · intro hrow
    rcases List.mem_map.1 hrow with ⟨product, hproduct, rfl⟩
    have hmem := List.mem_filter.1 ((List.mem_insertionSort _).1 hproduct)
    exact ⟨product, hmem.1, hmem.2, rfl⟩
  · rintro ⟨product, hproduct, hactive, rfl⟩
    exact List.mem_map.2 ⟨product, (List.mem_insertionSort _).2 (by simp [hproduct, hactive]), rfl⟩

end RosarioDairy
