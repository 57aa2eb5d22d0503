import RosarioDairy.Accounts.Models
import RosarioDairy.Foundations.TableFrames
import RosarioDairy.Inventory.Models
import RosarioDairy.Sales.CustomerConsolidation
import RosarioDairy.Sales.Importers.ImportedAmounts

/-!
# AppliedPlan — writing a refresh plan into the stored history

`apply_plan` replaces the sales that stem from the workbooks by the planned ones: it refuses to touch
sales with live traces, removes the receipts that the plan leaves out and rewrites what differs in the
others.  The command takes fingerprints of everything else before and compares them afterwards.
-/

namespace RosarioDairy
namespace Importers

open CustomerNames Forecasting Foundations
open Accounts (Users)
open CustomerConsolidation (CustomerRecord)

/-! ## Rows -/

/-- A sale with the columns that only imports fill; the discounts are in pesos. -/
structure ImportedSale extends Transaction where
  discountType : String
  discountValue : ℚ
  discountAmount : ℚ
  sourceSalesSegment : String
  deriving DecidableEq, Repr

instance : Row ImportedSale := ⟨fun sale => sale.pk⟩

structure ImportedItem extends TransactionItem where
  sourceProductLabel : List Char
  sourceLineTotal : Option Int
  deriving DecidableEq, Repr

instance : Row ImportedItem := ⟨fun item => item.pk⟩

structure ImportedOrder extends Order where
  discountType : String
  discountValue : ℚ
  updatedAt : Int
  deriving DecidableEq, Repr

instance : Row ImportedOrder := ⟨fun order => order.pk⟩

/-- The tables that a refresh reads or writes, and those that can forbid a deletion. -/
structure Archive where
  users : Table Users
  categories : Table Category
  products : Table Product
  batches : Table ProductBatch
  customers : Table CustomerRecord
  sales : Table ImportedSale
  items : Table ImportedItem
  orders : Table ImportedOrder
  orderItems : Table OrderItem
  stockReturns : Table StockReturn
  submissions : Table SaleSubmission

/-! ## Columns -/

/-- `desired` -/
structure Desired where
  customer : Option Nat
  amounts : SaleAmounts
  sourceInvoiceNumber : Option String
  sourceCustomerLabel : String
  sourceSalesSegment : String
  sourceNote : String
  createdAt : Int
  deriving DecidableEq, Repr

/-- A decimal column of two places and so many digits holds these centavos. -/
def numericFits (digits : Nat) (centavos : Int) : Bool := decide (|centavos| < 10 ^ digits)

/-- A decimal column rounds to its two places. -/
def twoPlaces (value : ℚ) : ℚ := (roundHalfUp (value * 100) : ℚ) / 100

def Desired.fits (d : Desired) : Bool :=
  numericFits 20 d.amounts.subtotal && numericFits 20 d.amounts.totalAmount &&
    numericFits 20 (roundHalfUp (d.amounts.discountValue * 100)) &&
    numericFits 20 (roundHalfUp (d.amounts.discountAmount * 100)) &&
    (d.sourceInvoiceNumber.all fun number => decide (number.length ≤ 50)) &&
    decide (d.sourceCustomerLabel.length ≤ 255)

namespace ImportedSale

/-- `getattr(sale, field)` for each field of `desired` -/
def columns (sale : ImportedSale) : Desired :=
  { customer := sale.customer
    amounts :=
      { subtotal := sale.subtotal
        discountType := sale.discountType
        discountValue := sale.discountValue
        discountAmount := sale.discountAmount
        totalAmount := sale.totalAmount }
    sourceInvoiceNumber := sale.sourceInvoiceNumber
    sourceCustomerLabel := sale.sourceCustomerLabel
    sourceSalesSegment := sale.sourceSalesSegment
    sourceNote := sale.sourceNote
    createdAt := sale.createdAt }

/-- `.update(**{f: desired[f] for f in changed})` on the stored `row` of the sale -/
def updateChanged (sale : ImportedSale) (d : Desired) (row : ImportedSale) : ImportedSale :=
  { row with
    customer := if sale.customer ≠ d.customer then d.customer else row.customer
    subtotal := if sale.subtotal ≠ d.amounts.subtotal then d.amounts.subtotal else row.subtotal
    discountType :=
      if sale.discountType ≠ d.amounts.discountType then d.amounts.discountType else row.discountType
    discountValue :=
      if sale.discountValue ≠ d.amounts.discountValue then twoPlaces d.amounts.discountValue
      else row.discountValue
    discountAmount :=
      if sale.discountAmount ≠ d.amounts.discountAmount then twoPlaces d.amounts.discountAmount
      else row.discountAmount
    totalAmount :=
      if sale.totalAmount ≠ d.amounts.totalAmount then d.amounts.totalAmount else row.totalAmount
    sourceInvoiceNumber :=
      if sale.sourceInvoiceNumber ≠ d.sourceInvoiceNumber then d.sourceInvoiceNumber
      else row.sourceInvoiceNumber
    sourceCustomerLabel :=
      if sale.sourceCustomerLabel ≠ d.sourceCustomerLabel then d.sourceCustomerLabel
      else row.sourceCustomerLabel
    sourceSalesSegment :=
      if sale.sourceSalesSegment ≠ d.sourceSalesSegment then d.sourceSalesSegment
      else row.sourceSalesSegment
    sourceNote := if sale.sourceNote ≠ d.sourceNote then d.sourceNote else row.sourceNote
    createdAt := if sale.createdAt ≠ d.createdAt then d.createdAt else row.createdAt }

/-- `sales_invoice_year_source_unique`, for sales that have such a key -/
def invoiceKey (T : ProductCase) (sale : ImportedSale) :
    Option (List Char × Nat × InvoiceNumberSource) :=
  if sale.invoiceNumberSource = .legacy then none
  else sale.sourceInvoiceNumber.bind fun number => sale.invoiceYear.map fun year =>
    (T.upper (trim (fun c => c == ' ') number.toList), year, sale.invoiceNumberSource)

/-- `source_reference__in` -/
def isReferenced (references : List String) (sale : ImportedSale) : Bool :=
  sale.sourceReference.any fun reference => references.contains reference

end ImportedSale

/-- `^(2023|2024|2025):[^:]+:[0-9]+$` -/
def workbookReference : Pattern :=
  let year (text : String) := Pattern.all (text.toList.map mark)
  .all [.any [year "2023", year "2024", year "2025"], mark ':', .plus (.char fun c => c != ':'), mark ':',
    .plus (.char fun c => decide ('0' ≤ c) && decide (c ≤ '9'))]

/-- `_line_signature` -/
structure LineSignature where
  product : Option Nat
  quantity : Int
  unitPrice : Int
  sourceProductLabel : List Char
  sourceLineTotal : Option Int
  productIdSnapshot : Option Nat
  productNameSnapshot : Option String
  categoryIdSnapshot : Option Nat
  categoryNameSnapshot : Option String
  productVariantSnapshot : Option String
  deriving DecidableEq, Repr

def lineSignature (batches : Table ProductBatch) (item : ImportedItem) : LineSignature :=
  { product := (batches.find item.productBatch).map ProductBatch.product
    quantity := item.quantity
    unitPrice := item.unitPrice
    sourceProductLabel := item.sourceProductLabel
    sourceLineTotal := item.sourceLineTotal
    productIdSnapshot := item.productIdSnapshot
    productNameSnapshot := item.productNameSnapshot
    categoryIdSnapshot := item.categoryIdSnapshot
    categoryNameSnapshot := item.categoryNameSnapshot
    productVariantSnapshot := item.productVariantSnapshot }

/-- The columns hold the item; the name of a category may be longer than its snapshot. -/
def ImportedItem.fits (item : ImportedItem) : Bool :=
  let textFits (text : Option String) : Bool := text.all fun text => decide (text.length ≤ 100)
  numericFits 10 item.quantity && numericFits 10 item.unitPrice &&
    (item.sourceLineTotal.all (numericFits 20)) && decide (item.sourceProductLabel.length ≤ 100) &&
    textFits item.productNameSnapshot && textFits item.productVariantSnapshot &&
    textFits item.categoryNameSnapshot

/-! ## Deletions -/

namespace Archive

/-- The items of an order go with it; a recorded submission protects it. -/
def deleteOrders (p : ImportedOrder → Bool) (a : Archive) : Except String Archive := do
  require (∀ submission ∈ a.submissions.rows, ∀ order ∈ a.orders.rows, p order = true →
      submission.order ≠ some order.pk)
    ("Cannot delete some instances of model 'Order' because they are referenced through protected " ++
      "foreign keys: 'SaleSubmission.order'.")
  pure
    { a with
      orders := a.orders.deleteWhere p
      orderItems := a.orderItems.deleteWhere fun item =>
        a.orders.rows.any fun order => p order && order.pk == item.order }

def deleteItems (p : ImportedItem → Bool) (a : Archive) : Except String Archive := do
  require (∀ stockReturn ∈ a.stockReturns.rows, ∀ item ∈ a.items.rows, p item = true →
      stockReturn.saleItem ≠ item.pk)
    ("Cannot delete some instances of model 'TransactionItem' because they are referenced through " ++
      "protected foreign keys: 'StockReturn.sale_item'.")
  pure { a with items := a.items.deleteWhere p }

/-- Lines and submissions protect a sale, and orders forget it. -/
def deleteSales (p : ImportedSale → Bool) (a : Archive) : Except String Archive := do
  let isDeleted (pk : Nat) : Bool := a.sales.rows.any fun sale => p sale && sale.pk == pk
  require ((∀ item ∈ a.items.rows, isDeleted item.transaction = false) ∧
      ∀ submission ∈ a.submissions.rows, isDeleted submission.transaction = false)
    ("Cannot delete some instances of model 'Transaction' because they are referenced through " ++
      "protected foreign keys.")
  pure
    { a with
      sales := a.sales.deleteWhere p
      orders := a.orders.updateWhere (fun order => order.transaction.any isDeleted) fun order =>
        { order with transaction := none } }

end Archive

/-! ## What is read before the first change -/

def ParseResult.references (parsed : ParseResult) : List String :=
  parsed.tickets.map SourceTicket.reference

/-- `wanted` -/
def plannedReferences (planned : List RefreshedTicket) : List String :=
  planned.map fun entry => entry.source.reference

section Reading

variable (T : ProductCase) (before : Archive) (references : List String)

/-- `existing.get(reference)` -/
def existing (reference : String) : Option ImportedSale :=
  before.sales.rows.find? fun sale =>
    sale.isReferenced references && sale.sourceReference == some reference

/-- `pk in ids` -/
def isHistorical (pk : Nat) : Bool :=
  before.sales.rows.any fun sale => sale.isReferenced references && sale.pk == pk

/-- `orders.get(pk)` -/
def orderOf (pk : Nat) : Option ImportedOrder :=
  before.orders.rows.find? fun order => isHistorical before references pk && order.transaction == some pk

/-- `[_line_signature(i) for i in old_lines[pk]]` -/
def oldLines (pk : Nat) : List LineSignature :=
  if isHistorical before references pk then
    (before.items.scan fun item => item.transaction == pk).map (lineSignature before.batches)
  else []

/-- `not p.variant` -/
def isUnvaried (product : Product) : Bool :=
  product.variant.all fun variant => variant == ""

/-- `candidates` -/
def candidates (line : SourceLine) : List Product :=
  before.products.rows.filter fun product =>
    productKey T product.name.toList == productKey T line.product && isUnvaried product

/-- The refusals before anything is written. -/
def checkHistory : Except String Unit := do
  require (∀ sale ∈ before.sales.rows,
      (sale.sourceReference.any fun reference => workbookReference.fullMatch reference.toList) = true →
        sale.isReferenced references = true)
    ("Imported history contains references absent from the supplied sources; " ++
      "refusing partial refresh.")
  require (∀ sale ∈ before.sales.rows, sale.isReferenced references = true →
      sale.encodedAt = none ∧ sale.encodingRequestId = none)
    "Manually encoded sales overlap workbook references; refusing refresh."
  require (∀ item ∈ before.items.rows, isHistorical before references item.transaction = true →
      ∀ batch ∈ before.batches.find item.productBatch, batch.isHistoricalReference = true)
    "Workbook sales are linked to live stock; refusing refresh."
  require (∀ order ∈ before.orders.rows,
      order.transaction.any (isHistorical before references) = true → order.status = .fulfilled)
    "Workbook orders have operational changes; refusing refresh."

def checkProducts (planned : List RefreshedTicket) : Except String Unit :=
  planned.forM fun entry => entry.lines.forM fun line =>
    require ((candidates T before line).length = 1)
      ("Expected one existing unvaried product for " ++ String.ofList line.product ++ "; found " ++
        toString (candidates T before line).length ++ ".")

end Reading

/-! ## One planned invoice -/

/-- `counts` -/
structure RefreshCounts where
  removed : Nat
  created : Nat
  updated : Nat
  unchanged : Nat
  replaced : Nat
  deriving DecidableEq, Repr

/-- What the loop carries on: the tables, its dictionaries, the rows to insert at the end. -/
structure Refresh where
  archive : Archive
  customers : List Char → List CustomerRecord
  batches : Nat → Option ProductBatch
  newItems : List ImportedItem
  newOrderItems : List OrderItem
  counts : RefreshCounts

section Ticket

variable (T : ProductCase) (zone : Zone) (before : Archive) (references : List String) (owner : Nat)
  (now : Int)

/-- The key of a label, if it is not empty. -/
def labelKey (label : List Char) : Option (List Char) :=
  (customerKey T.toUnicode label).filter fun key => !key.isEmpty

/-- `Customer.objects.create(name=canonical_customer(label), created_by=owner)` -/
def newCustomer (label : List Char) (pk : Nat) : CustomerRecord :=
  { pk := pk
    name := (canonicalCustomer T.toUnicode label).getD []
    contact := fun _ => none
    isActive := true
    createdBy := owner
    createdAt := now
    updatedAt := now }

/-- The customer of the stored sale, else the only one with the key of the label. -/
def chooseCustomer (sale : Option ImportedSale) (label : List Char) (r : Refresh) :
    Except String (Refresh × Option CustomerRecord) :=
  match labelKey T label with
  | none => .ok (r, none)
  | some key =>
      match (r.customers key).find? fun c => sale.any fun sale => sale.customer == some c.pk with
      | some c => .ok (r, some c)
      | none =>
          match r.customers key with
          | [] => do
              let c := newCustomer T owner now label r.archive.customers.next
              require (c.name.length ≤ 255) "DataError"
              pure
                ({ r with
                   archive :=
                     { r.archive with
                       customers := r.archive.customers.create (newCustomer T owner now label) }
                   customers := Function.update r.customers key [c] },
                 some c)
          | [c] => .ok (r, some c)
          | _ :: _ :: _ => .error ("Ambiguous customer identity: " ++ String.ofList label)

/-- `'; '.join(notes)` -/
def sourceNote (entry : RefreshedTicket) : String :=
  "; ".intercalate ((entry.source.notes.eraseDups.map String.ofList) ++
    ["Dairy-only source refresh; excluded sweets/non-dairy per product policy."] ++
    if entry.flags ≠ [] then ["Source review required: " ++ ", ".intercalate entry.flags] else [])

def desiredOf (entry : RefreshedTicket) (customer : Option CustomerRecord) : Except String Desired := do
  let amounts ← applyAmounts entry
  let date ← demand entry.source.saleDate "combine() argument 1 must be datetime.date, not None"
  pure
    { customer := customer.map CustomerRecord.pk
      amounts := amounts
      sourceInvoiceNumber :=
        if entry.source.invoiceNumber = [] then none else some (String.ofList entry.source.invoiceNumber)
      sourceCustomerLabel := String.ofList entry.source.customerLabel
      sourceSalesSegment := entry.segment
      sourceNote := sourceNote entry
      createdAt := zone.noon date }

/-- `Transaction.objects.create(handled_by=owner, source_reference=…, payment_method='unknown')` -/
def newSale (reference : String) (pk : Nat) : ImportedSale :=
  { pk := pk
    handledBy := owner
    customer := none
    subtotal := 0
    discountType := "none"
    discountValue := 0
    discountAmount := 0
    totalAmount := 0
    amountTendered := none
    changeDue := none
    paymentMethod := .unknown
    paymentStatus := .unknown
    paymentUpdatedAt := none
    paymentUpdatedBy := none
    isVoided := false
    voidedAt := none
    voidedBy := none
    voidReason := ""
    sourceReference := some reference
    sourceInvoiceNumber := none
    invoiceYear := none
    invoiceNumberSource := .legacy
    sourceCustomerLabel := ""
    sourceSalesSegment := ""
    sourceNote := ""
    createdAt := now
    encodedAt := none
    encodingRequestId := none
    encodingPayloadHash := "" }

/-- The sale of a reference, created if there is none. -/
def recordedSale (reference : String) (r : Refresh) : Except String (Refresh × ImportedSale) :=
  match existing before references reference with
  | some sale => .ok (r, sale)
  | none => do
      require (reference.length ≤ 100) "DataError"
      require (∀ sale ∈ r.archive.sales.rows, sale.sourceReference ≠ some reference)
        "duplicate key value violates unique constraint: source_reference"
      pure
        ({ r with
           archive :=
             { r.archive with sales := r.archive.sales.create (newSale owner now reference) } },
         newSale owner now reference r.archive.sales.next)

/-- The fields that differ are written; a value that is stored already fits its column. -/
def writeSale (sale : ImportedSale) (desired : Desired) (r : Refresh) : Except String Refresh := do
  require (desired.fits = true) "DataError"
  if sale.columns = desired then pure r
  else do
    let sales := r.archive.sales.updateWhere (fun row => row.pk == sale.pk) (sale.updateChanged desired)
    require (∀ row ∈ sales.rows, ∀ other ∈ sales.rows, row.invoiceKey T ≠ none →
        row.invoiceKey T = other.invoiceKey T → row.pk = other.pk)
      "duplicate key value violates unique constraint: sales_invoice_year_source_unique"
    pure { r with archive := { r.archive with sales := sales } }

/-- What the invoice counts as. -/
def countSale (sale : ImportedSale) (desired : Desired) (reference : String) (counts : RefreshCounts) :
    RefreshCounts :=
  if (existing before references reference).isNone then { counts with created := counts.created + 1 }
  else if sale.columns ≠ desired then { counts with updated := counts.updated + 1 }
  else { counts with unchanged := counts.unchanged + 1 }

def newBatch (product : Nat) (date : Int) (pk : Nat) : ProductBatch :=
  { pk := pk
    product := product
    batchNumber := "REFRESH-HIST-" ++ toString product
    grade := none
    unitPrice := none
    initialQuantity := 0
    remainingQuantity := 0
    expirationDate := date
    dateReceived := date
    status := .depleted
    isHistoricalReference := true
    notes := none
    createdAt := now }

/-- `batches[product.pk]`, created if there is none. -/
def historicalBatch (product : Nat) (date : Int) (r : Refresh) : Except String (Refresh × ProductBatch) :=
  match r.batches product with
  | some batch => .ok (r, batch)
  | none => do
      let batch := newBatch now product date r.archive.batches.next
      require (∀ other ∈ r.archive.batches.rows, other.batchNumber ≠ batch.batchNumber)
        "duplicate key value violates unique constraint: batch_number"
      pure
        ({ r with
           archive :=
             { r.archive with batches := r.archive.batches.create (newBatch now product date) }
           batches := Function.update r.batches product (some batch) },
         batch)

/-- The item of a line; it gets its key when it is inserted. -/
def newItem (sale : Nat) (line : SourceLine) (product : Product) (batch : ProductBatch) : ImportedItem :=
  { pk := 0
    transaction := sale
    productBatch := batch.pk
    quantity := line.quantity
    unitPrice := line.unitPrice.getD 0
    lineNumber := none
    subtotal := none
    totalAmount := none
    sourceProductLabel := line.product
    sourceLineTotal := line.amount
    productIdSnapshot := some product.pk
    productNameSnapshot := some product.name
    productVariantSnapshot := product.variant
    categoryIdSnapshot := some product.category
    categoryNameSnapshot := (before.categories.find product.category).map Category.name }

/-- `items` -/
def bookLines (sale : Nat) (date : Int) : List SourceLine → Refresh →
    Except String (Refresh × List ImportedItem)
  | [], r => .ok (r, [])
  | line :: lines, r => do
      let product ← demand (candidates T before line).head? "StopIteration"
      let (r, batch) ← historicalBatch now product.pk date r
      let (r, items) ← bookLines sale date lines r
      pure (r, newItem before sale line product batch :: items)

/-- The old lines make room for the new ones. -/
def replaceLines (sale : Nat) (items : List ImportedItem) (r : Refresh) : Except String Refresh := do
  let archive ← r.archive.deleteItems fun item => item.transaction == sale
  pure
    { r with
      archive := archive
      newItems := r.newItems ++ items
      counts := { r.counts with replaced := r.counts.replaced + 1 } }

/-- `if lines_changed:` -/
def saveLines (linesChanged : Bool) (sale : Nat) (items : List ImportedItem) (r : Refresh) :
    Except String Refresh :=
  if linesChanged then replaceLines sale items r else pure r

/-- `Order.objects.create(customer=customer, handled_by=owner, transaction=sale)` -/
def newOrder (sale customer : Nat) (pk : Nat) : ImportedOrder :=
  { pk := pk
    customer := customer
    handledBy := owner
    status := .fulfilled
    warning := ""
    discountType := "none"
    discountValue := 0
    transaction := some sale
    createdAt := now
    updatedAt := now }

/-- The order of a sale, created if there is none. -/
def recordedOrder (sale customer : Nat) (r : Refresh) : Except String (Refresh × Nat) :=
  match orderOf before references sale with
  | some order => .ok (r, order.pk)
  | none => do
      require (∀ order ∈ r.archive.orders.rows, order.transaction ≠ some sale)
        "duplicate key value violates unique constraint: transaction_id"
      pure
        ({ r with
           archive :=
             { r.archive with orders := r.archive.orders.create (newOrder owner now sale customer) } },
         r.archive.orders.next)

/-- `order_changed` -/
def orderChanged (sale customer : Nat) (desired : Desired) : Bool :=
  (orderOf before references sale).all fun order =>
    order.customer != customer || order.discountType != desired.amounts.discountType ||
      order.discountValue != desired.amounts.discountValue || order.createdAt != desired.createdAt

def ImportedOrder.refresh (customer : Nat) (desired : Desired) (order : ImportedOrder) : ImportedOrder :=
  { order with
    customer := customer
    discountType := desired.amounts.discountType
    discountValue := twoPlaces desired.amounts.discountValue
    createdAt := desired.createdAt
    updatedAt := desired.createdAt }

/-- `if order_changed:` -/
def writeOrder (changed : Bool) (order customer : Nat) (desired : Desired) (r : Refresh) : Refresh :=
  if changed then
    { r with
      archive :=
        { r.archive with
          orders := r.archive.orders.updateWhere (fun row => row.pk == order)
            (ImportedOrder.refresh customer desired) } }
  else r

def newOrderItem (order : Nat) (item : ImportedItem) (line : SourceLine) : OrderItem :=
  { pk := 0
    order := order
    product := item.productIdSnapshot.getD 0
    quantity := line.quantity
    unitPrice := line.unitPrice.getD 0
    subtotal := line.amount.getD 0
    totalAmount := none }

/-- The order follows the customer and the lines of its sale. -/
def saveOrder (entry : RefreshedTicket) (sale : Nat) (customer : Option CustomerRecord)
    (desired : Desired) (items : List ImportedItem) (linesChanged : Bool) (r : Refresh) :
    Except String Refresh :=
  match customer with
  | none =>
      match orderOf before references sale with
      | none => .ok r
      | some order => do
          let archive ← r.archive.deleteOrders fun row => row.pk == order.pk
          pure { r with archive := archive }
  | some c => do
      let changed := orderChanged before references sale c.pk desired
      let (r, order) ← recordedOrder before references owner now sale c.pk r
      let r := writeOrder changed order c.pk desired r
      if linesChanged || changed then
        pure
          { r with
            archive :=
              { r.archive with
                orderItems := r.archive.orderItems.deleteWhere fun item => item.order == order }
            newOrderItems := r.newOrderItems ++ List.zipWith (newOrderItem order) items entry.lines }
      else pure r

/-- The body of the loop over the plan. -/
def refreshTicket (r : Refresh) (entry : RefreshedTicket) : Except String Refresh := do
  let reference := entry.source.reference
  let (r, customer) ← chooseCustomer T owner now (existing before references reference)
    entry.source.customerLabel r
  let desired ← desiredOf zone entry customer
  let (r, sale) ← recordedSale before references owner now reference r
  let r ← writeSale T sale desired r
  let r := { r with counts := countSale before references sale desired reference r.counts }
  let (r, items) ← bookLines T before now sale.pk (entry.source.saleDate.getD 0) entry.lines r
  let linesChanged := decide (oldLines before references sale.pk ≠
    items.map (lineSignature r.archive.batches))
  let r ← saveLines linesChanged sale.pk items r
  saveOrder before references owner now entry sale.pk customer desired items linesChanged r

end Ticket

/-! ## The whole plan -/

section Plan

variable (T : ProductCase) (zone : Zone) (parsed : ParseResult) (planned : List RefreshedTicket)

/-- `pk in removed`, for a sale and for a key -/
def isRemoved (sale : ImportedSale) : Bool :=
  sale.isReferenced parsed.references && !sale.isReferenced (plannedReferences planned)

def isRemovedKey (a : Archive) (pk : Nat) : Bool :=
  a.sales.rows.any fun sale => isRemoved parsed planned sale && sale.pk == pk

/-- The receipts of the workbooks that the plan leaves out are deleted with their orders and lines. -/
def removeUnwanted (before : Archive) : Except String Archive := do
  let isRemovedKey := isRemovedKey parsed planned before
  let a ← before.deleteOrders fun order => order.transaction.any isRemovedKey
  let a ← a.deleteItems fun item => isRemovedKey item.transaction
  a.deleteSales (isRemoved parsed planned)

/-- What the loop starts from. -/
def Refresh.start (before archive : Archive) : Refresh :=
  { archive := archive
    customers := fun key =>
      before.customers.rows.filter fun c => customerKey T.toUnicode c.name == some key
    batches := fun product =>
      (before.batches.scan fun batch => batch.isHistoricalReference).find? fun batch =>
        batch.product == product
    newItems := []
    newOrderItems := []
    counts :=
      { removed := (before.sales.rows.filter (isRemoved parsed planned)).length
        created := 0
        updated := 0
        unchanged := 0
        replaced := 0 } }

/-- A row under the key it gets when it is inserted. -/
def ImportedItem.withPk (item : ImportedItem) (pk : Nat) : ImportedItem := { item with pk := pk }

def orderItemWithPk (item : OrderItem) (pk : Nat) : OrderItem := { item with pk := pk }

/-- The lines are inserted in bulk. -/
def insertRows (r : Refresh) : Except String Archive := do
  require (∀ item ∈ r.newItems, item.fits = true) "DataError"
  require (∀ item ∈ r.newOrderItems, numericFits 10 item.quantity = true ∧
    numericFits 10 item.unitPrice = true ∧ numericFits 20 item.subtotal = true) "DataError"
  pure
    { r.archive with
      items := r.archive.items.createAll ImportedItem.withPk (fun _ _ => rfl) r.newItems
      orderItems := r.archive.orderItems.createAll orderItemWithPk (fun _ _ => rfl) r.newOrderItems }

/-- The checks at the end. -/
def reconcile (a : Archive) : Except String Unit := do
  let wanted := plannedReferences planned
  let actual := a.sales.rows.filter fun sale => sale.isReferenced wanted
  require (actual.length = planned.length ∧
      (actual.map fun sale => sale.totalAmount).sum = (planned.map RefreshedTicket.amount).sum)
    "Refreshed sales failed revenue/count reconciliation; rolling back."
  require ((a.items.rows.filter fun item => isHistorical a wanted item.transaction).length =
      (planned.map fun entry => entry.lines.length).sum)
    "Refreshed item counts do not reconcile; rolling back."

/-- `apply_plan`, with what it leaves. -/
def applyPlan (adminUsername : String) (now : Int) (before : Archive) :
    Except String (Archive × RefreshCounts) := do
  let owner ← demand
    (before.users.rows.find? fun user =>
      user.username == adminUsername && user.role == .admin && user.isActive)
    "Users matching query does not exist."
  checkHistory before parsed.references
  checkProducts T before planned
  let archive ← removeUnwanted parsed planned before
  let r ← planned.foldlM (refreshTicket T zone before parsed.references owner.pk now)
    (Refresh.start T parsed planned before archive)
  let a ← insertRows r
  reconcile planned a
  pure (a, r.counts)

end Plan

/-! ## The command -/

structure Fingerprint where
  ids : List Nat
  sha256 : String
  deriving DecidableEq, Repr

section Fingerprints

variable {R : Type} [Row R]

/-- The rows of a model that satisfy a condition, in the order of their keys. -/
def fingerprint (digest : List R → String) (p : R → Bool) (t : Table R) : Fingerprint :=
  { ids := (t.scan p).map Row.pk
    sha256 := digest (t.scan p) }

/-- The rows of these keys have the digest they had. -/
def Fingerprint.verify (f : Fingerprint) (digest : List R → String) (label : String) (t : Table R) :
    Except String Unit :=
  require (digest (t.scan fun row => decide (Row.pk row ∈ f.ids)) = f.sha256)
    ("Protected data changed: " ++ label ++ "; rolling back.")

end Fingerprints

/-- The digest of the rows of each model. -/
structure Digests where
  users : List Users → String
  categories : List Category → String
  products : List Product → String
  batches : List ProductBatch → String
  customers : List CustomerRecord → String
  sales : List ImportedSale → String
  items : List ImportedItem → String
  orders : List ImportedOrder → String
  orderItems : List OrderItem → String
  stockReturns : List StockReturn → String
  submissions : List SaleSubmission → String

structure Fingerprints where
  users : Fingerprint
  categories : Fingerprint
  products : Fingerprint
  batches : Fingerprint
  customers : Fingerprint
  sales : Fingerprint
  items : Fingerprint
  orders : Fingerprint
  orderItems : Fingerprint
  stockReturns : Fingerprint
  submissions : Fingerprint
  deriving DecidableEq, Repr

section Command

variable (D : Digests)

/-- `order.pk in orders` -/
def isHistoricalOrder (a : Archive) (references : List String) (pk : Nat) : Bool :=
  a.orders.rows.any fun order =>
    order.transaction.any (isHistorical a references) && order.pk == pk

/-- `protected_fingerprints` -/
def protectedFingerprints (references : List String) (a : Archive) : Fingerprints :=
  { users := fingerprint D.users (fun _ => true) a.users
    categories := fingerprint D.categories (fun _ => true) a.categories
    products := fingerprint D.products (fun _ => true) a.products
    batches := fingerprint D.batches (fun _ => true) a.batches
    customers := fingerprint D.customers (fun _ => true) a.customers
    sales := fingerprint D.sales (fun sale => !isHistorical a references sale.pk) a.sales
    items := fingerprint D.items (fun item => !isHistorical a references item.transaction) a.items
    orders := fingerprint D.orders (fun order => !isHistoricalOrder a references order.pk) a.orders
    orderItems := fingerprint D.orderItems
      (fun item => !isHistoricalOrder a references item.order) a.orderItems
    stockReturns := fingerprint D.stockReturns (fun _ => true) a.stockReturns
    submissions := fingerprint D.submissions (fun _ => true) a.submissions }

/-- `verify_protected` -/
def verifyProtected (f : Fingerprints) (a : Archive) : Except String Unit := do
  f.users.verify D.users "accounts.Users" a.users
  f.categories.verify D.categories "inventory.Category" a.categories
  f.products.verify D.products "inventory.Product" a.products
  f.batches.verify D.batches "inventory.ProductBatch" a.batches
  f.customers.verify D.customers "sales.Customer" a.customers
  f.sales.verify D.sales "sales.Transaction" a.sales
  f.items.verify D.items "sales.TransactionItem" a.items
  f.orders.verify D.orders "sales.Order" a.orders
  f.orderItems.verify D.orderItems "sales.OrderItem" a.orderItems
  f.stockReturns.verify D.stockReturns "sales.StockReturn" a.stockReturns
  f.submissions.verify D.submissions "sales.SaleSubmission" a.submissions

/-- The command with `--apply`, inside its transaction. -/
def refreshAnnualSales (T : ProductCase) (zone : Zone) (policy : Policy) (parsed : ParseResult)
    (adminUsername : String) (now : Int) (before : Archive) :
    Except String (Archive × RefreshCounts) := do
  let (planned, _) ← buildPlan T policy parsed
  let f := protectedFingerprints D parsed.references before
  let (a, counts) ← applyPlan T zone parsed planned adminUsername now before
  verifyProtected D f a
  pure (a, counts)

end Command

end Importers
end RosarioDairy
