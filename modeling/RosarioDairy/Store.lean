import RosarioDairy.Inventory.Models
import RosarioDairy.Sales.Models

/-!
# Store — the tables the inventory and sales services share

`Store` is the committed content of the business tables.  Service calls are functions on it that
either return a new store or raise, in which case the surrounding database transaction rolls back.
-/

namespace RosarioDairy

open Foundations

structure Store where
  categories : Table Category
  products : Table Product
  batches : Table ProductBatch
  batchSequences : List BatchSequence
  adjustments : Table StockAdjustment
  adjustmentSubmissions : Table StockAdjustmentSubmission
  transactions : Table Transaction
  items : Table TransactionItem
  orders : Table Order
  orderItems : Table OrderItem
  returns : Table StockReturn
  invoiceSequences : List InvoiceSequence
  saleSubmissions : Table SaleSubmission

namespace Store

/-- The store before any stock was received: a catalogue and nothing else. -/
def empty (categories : Table Category) (products : Table Product) : Store :=
  { categories := categories
    products := products
    batches := Table.empty
    batchSequences := []
    adjustments := Table.empty
    adjustmentSubmissions := Table.empty
    transactions := Table.empty
    items := Table.empty
    orders := Table.empty
    orderItems := Table.empty
    returns := Table.empty
    invoiceSequences := []
    saleSubmissions := Table.empty }

/-- The sale lines of one transaction. -/
def itemsOf (s : Store) (txn : Nat) : List TransactionItem :=
  s.items.rows.filter (fun item => item.transaction = txn)

/-- The returns recorded for one sale line. -/
def returnsOf (s : Store) (item : Nat) : List StockReturn :=
  s.returns.rows.filter (fun returned => returned.saleItem = item)

end Store

end RosarioDairy
