import RosarioDairy.Foundations.Table
import RosarioDairy.Config.ApiInputs

/-!
# Models — the sales rows

The rows of the sales application, with the columns its services read or write.
-/

namespace RosarioDairy

open Foundations

/-- The customer a sale is booked for. -/
structure Customer where
  pk : Nat
  name : String
  deriving DecidableEq, Repr

/-- `Transaction.PAYMENT_CHOICES`. -/
inductive PaymentMethod
  | cash
  | online
  | unknown
  deriving DecidableEq, Repr

namespace PaymentMethod

def value : PaymentMethod → String
  | .cash => "cash"
  | .online => "online"
  | .unknown => "unknown"

/-- The method a caller may choose: only cash and online are accepted for new payments. -/
def ofValue? : String → Option PaymentMethod
  | "cash" => some .cash
  | "online" => some .online
  | _ => none

end PaymentMethod

inductive PaymentStatus
  | pending
  | paid
  | unknown
  deriving DecidableEq, Repr

/-- The status a caller may ask for. -/
def PaymentStatus.ofValue? : String → Option PaymentStatus
  | "pending" => some .pending
  | "paid" => some .paid
  | _ => none

/-- Where an invoice number comes from; `legacy` is the empty provenance of older records. -/
inductive InvoiceNumberSource
  | legacy
  | automatic
  | manual
  deriving DecidableEq, Repr

structure Transaction where
  pk : Nat
  handledBy : Nat
  customer : Option Nat
  subtotal : Int
  totalAmount : Int
  amountTendered : Option Int
  changeDue : Option Int
  paymentMethod : PaymentMethod
  paymentStatus : PaymentStatus
  paymentUpdatedAt : Option Int
  paymentUpdatedBy : Option Nat
  isVoided : Bool
  voidedAt : Option Int
  voidedBy : Option Nat
  voidReason : String
  sourceReference : Option String
  sourceInvoiceNumber : Option String
  invoiceYear : Option Nat
  invoiceNumberSource : InvoiceNumberSource
  sourceCustomerLabel : String
  sourceNote : String
  createdAt : Int
  encodedAt : Option Int
  encodingRequestId : Option Nat
  encodingPayloadHash : String
  deriving DecidableEq, Repr

instance : Row Transaction := ⟨Transaction.pk⟩

namespace Transaction

/-- The truth value of `source_reference`: an imported historical sale. -/
def isImported (txn : Transaction) : Bool :=
  match txn.sourceReference with
  | some reference => reference != ""
  | none => false

/-- `Coalesce('transaction__encoded_at', 'transaction__created_at')`. -/
def movementAt (txn : Transaction) : Int :=
  txn.encodedAt.getD txn.createdAt

end Transaction

structure TransactionItem where
  pk : Nat
  transaction : Nat
  productBatch : Nat
  quantity : Int
  unitPrice : Int
  lineNumber : Option Nat
  subtotal : Option Int
  totalAmount : Option Int
  productIdSnapshot : Option Nat
  productNameSnapshot : Option String
  productVariantSnapshot : Option String
  categoryIdSnapshot : Option Nat
  categoryNameSnapshot : Option String
  deriving DecidableEq, Repr

instance : Row TransactionItem := ⟨TransactionItem.pk⟩

inductive OrderStatus
  | fulfilled
  | cancelled
  deriving DecidableEq, Repr

structure Order where
  pk : Nat
  customer : Nat
  handledBy : Nat
  status : OrderStatus
  warning : String
  transaction : Option Nat
  createdAt : Int
  deriving DecidableEq, Repr

instance : Row Order := ⟨Order.pk⟩

structure OrderItem where
  pk : Nat
  order : Nat
  product : Nat
  quantity : Int
  unitPrice : Int
  subtotal : Int
  totalAmount : Option Int
  deriving DecidableEq, Repr

instance : Row OrderItem := ⟨OrderItem.pk⟩

/-- Actual cancellation outcome per sold line; zero means no stock restored. -/
structure StockReturn where
  pk : Nat
  saleItem : Nat
  quantity : Int
  createdAt : Int
  deriving DecidableEq, Repr

instance : Row StockReturn := ⟨StockReturn.pk⟩

/-- The invoice counter of one sales year. -/
structure InvoiceSequence where
  year : Nat
  lastValue : Nat
  deriving DecidableEq, Repr

inductive Endpoint
  | checkout
  | order
  deriving DecidableEq, Repr

/-- Durable replay identity of a keyed checkout or order. -/
structure SaleSubmission where
  pk : Nat
  user : Nat
  requestId : Nat
  fingerprint : String
  endpoint : Endpoint
  transaction : Nat
  order : Option Nat
  deriving DecidableEq, Repr

instance : Row SaleSubmission := ⟨SaleSubmission.pk⟩

end RosarioDairy
