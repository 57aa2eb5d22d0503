import RosarioDairy.Inventory.Fefo
import RosarioDairy.Sales.ItemPricing
import RosarioDairy.Sales.Payment
import RosarioDairy.Sales.Invoice

/-!
# Checkout — recording a sale

`checkout` prices the cart, allocates the invoice number, inserts the transaction and deducts its
lines product by product.  `priceSale` is the part before the database transaction and `closeSale`
the part after the invoice allocation, so that the time the year row is locked is visible.
-/

namespace RosarioDairy

open Foundations

/-- The arguments of `checkout`, with its defaults. -/
structure SaleArgs where
  items : List CartEntry
  staffUser : User
  paymentMethod : String := "cash"
  discountType : String := "none"
  discountValue : DecimalInput := .ofAmount 0
  amountTendered : Option DecimalInput := none
  customer : Option Customer := none
  paymentStatus : String := "paid"
  invoiceDate : Option Int := none
  invoiceNumber : Option String := none

/-- The cart and the payment a sale was priced with. -/
structure PricedSale where
  lines : List PricedItem
  total : Int
  payment : PaymentValues

/-- The checks and prices `checkout` computes before it opens its database transaction. -/
def priceSale (args : SaleArgs) : Except Error PricedSale := do
  let _ ← demand (PaymentMethod.ofValue? args.paymentMethod) (paymentMethodError args.paymentMethod)
  rejectInvoiceDiscount args.discountType args.discountValue
  let lines ← priceItems args.items
  let total := (lines.map PricedItem.subtotal).sum
  let payment ← paymentValues total args.paymentMethod args.paymentStatus args.amountTendered
  return { lines := lines
           total := total
           payment := payment }

/-- The sales date: the invoice date of a backdated sale, otherwise the date of entry. -/
def businessDate (clock : Clock) (args : SaleArgs) : Int := args.invoiceDate.getD clock.today

/-- The effective timestamp: the moment of entry, or the noon of a backdated sales date. -/
def effectiveAt (clock : Clock) (args : SaleArgs) : Int :=
  if businessDate clock args = clock.today then clock.now
  else clock.zone.noon (businessDate clock args)

/-- The transaction row a priced sale inserts under the key `pk`. -/
def newTransaction (clock : Clock) (args : SaleArgs) (priced : PricedSale)
    (allocation : Allocation) (pk : Nat) : Transaction :=
  { pk := pk
    handledBy := args.staffUser.pk
    customer := args.customer.map Customer.pk
    subtotal := priced.total
    totalAmount := priced.total
    amountTendered := priced.payment.amountTendered
    changeDue := priced.payment.changeDue
    paymentMethod := priced.payment.method
    paymentStatus := priced.payment.status
    paymentUpdatedAt := some clock.now
    paymentUpdatedBy := some args.staffUser.pk
    isVoided := false
    voidedAt := none
    voidedBy := none
    voidReason := ""
    sourceReference := none
    sourceInvoiceNumber := some allocation.number
    invoiceYear := some (Day.year (businessDate clock args))
    invoiceNumberSource := allocation.source
    sourceCustomerLabel := ""
    sourceNote := ""
    createdAt := effectiveAt clock args
    encodedAt := none
    encodingRequestId := none
    encodingPayloadHash := "" }

/-- `sales_invoice_year_source_unique`: no row of the table clashes with this one. -/
def InvoiceUnique (table : CaseTable) (transactions : Table Transaction) (txn : Transaction) :
    Prop :=
  ∀ other ∈ transactions.rows,
    ¬ (other.invoiceNumberSource = txn.invoiceNumberSource ∧ other.invoiceYear = txn.invoiceYear ∧
      other.sourceInvoiceNumber.map (normalizedSi table) =
        txn.sourceInvoiceNumber.map (normalizedSi table))

instance (table : CaseTable) (transactions : Table Transaction) (txn : Transaction) :
    Decidable (InvoiceUnique table transactions txn) := by
  unfold InvoiceUnique
  infer_instance

/-- The sale line for the part of a cart line taken from one batch, under the key `pk`. -/
def newItem (s : Store) (txn lineNumber : Nat) (unitPrice : Int) (batch : ProductBatch)
    (quantity gross : Int) (pk : Nat) : TransactionItem :=
  let product := s.products.find batch.product
  let category := product.bind (fun row => s.categories.find row.category)
  { pk := pk
    transaction := txn
    productBatch := batch.pk
    quantity := quantity
    unitPrice := unitPrice
    lineNumber := some lineNumber
    subtotal := some gross
    totalAmount := some gross
    productIdSnapshot := some batch.product
    productNameSnapshot := product.map Product.name
    productVariantSnapshot := product.bind Product.variant
    categoryIdSnapshot := product.map Product.category
    categoryNameSnapshot := category.map Category.name }

/-- Create the sale lines of one cart line, splitting its gross amount over the batches. -/
def createItems (s : Store) (txn lineNumber : Nat) (unitPrice : Int) :
    List (ProductBatch × Int) → (quantitySoFar grossSoFar : Int) → Table TransactionItem →
      Table TransactionItem
  | [], _, _, items => items
  | (batch, take) :: consumed, quantitySoFar, grossSoFar, items =>
      let cumulativeGross := money ((quantitySoFar + take) * unitPrice)
      let gross := cumulativeGross - grossSoFar
      createItems s txn lineNumber unitPrice consumed (quantitySoFar + take) cumulativeGross
        (items.create (newItem s txn lineNumber unitPrice batch take gross))

/-- Deduct one cart line and record what was taken from each batch. -/
def sellLine (clock : Clock) (txn : Nat) (s : Store) (line : PricedItem × Nat) :
    Except Error Store := do
  let (s, consumed) ← deductProductBatch clock line.1.product line.1.quantity s
  return { s with items := createItems s txn line.2 line.1.unitPrice consumed 0 0 s.items }

/-- The cart lines with their encoded line numbers, in product order. -/
def lockOrder (lines : List PricedItem) : List (PricedItem × Nat) :=
  (lines.zipIdx 1).insertionSort (fun a b => a.1.product ≤ b.1.product)

/-- The rest of `checkout` once the invoice number is allocated. -/
def closeSale (table : CaseTable) (clock : Clock) (args : SaleArgs) (priced : PricedSale)
    (allocation : Allocation) (s : Store) : Except Error (Store × Nat) := do
  let s := saveSequence allocation.sequence s
  let mk := newTransaction clock args priced allocation
  let txn := s.transactions.next
  require (InvoiceUnique table s.transactions (mk txn))
    (.integrityError "sales_invoice_year_source_unique")
  let s := { s with transactions := s.transactions.create mk }
  let s ← (lockOrder priced.lines).foldlM (sellLine clock txn) s
  return (s, txn)

/-- `checkout`; the key of the new transaction is returned. -/
def checkout (table : CaseTable) (clock : Clock) (args : SaleArgs) (s : Store) :
    Except Error (Store × Nat) := do
  let priced ← priceSale args
  let allocation ← assignInvoice table clock.zone (Day.year (businessDate clock args))
    args.invoiceNumber s
  closeSale table clock args priced allocation s

/-! ## What a successful checkout does -/

/-- The snapshots on sale lines are taken from the catalogue alone. -/
theorem createItems_saveBatches (s : Store) (batches : List ProductBatch) (txn lineNumber : Nat)
    (unitPrice : Int) :
    ∀ (consumed : List (ProductBatch × Int)) (quantitySoFar grossSoFar : Int)
      (items : Table TransactionItem),
      createItems (saveBatches s batches) txn lineNumber unitPrice consumed quantitySoFar grossSoFar
          items =
        createItems s txn lineNumber unitPrice consumed quantitySoFar grossSoFar items
  | [], _, _, _ => rfl
  | (_, _) :: consumed, _, _, _ =>
      createItems_saveBatches s batches txn lineNumber unitPrice consumed _ _ _

/-- The sale lines created for a cart line are appended, fresh and belong to the transaction. -/
theorem createItems_rows (s : Store) (txn lineNumber : Nat) (unitPrice : Int) :
    ∀ (consumed : List (ProductBatch × Int)) (quantitySoFar grossSoFar : Int)
      (items : Table TransactionItem),
      items.next ≤ (createItems s txn lineNumber unitPrice consumed quantitySoFar grossSoFar
        items).next ∧
      ∃ new, (createItems s txn lineNumber unitPrice consumed quantitySoFar grossSoFar items).rows =
          items.rows ++ new ∧
        ∀ item ∈ new, item.transaction = txn ∧ items.next ≤ item.pk
  | [], _, _, items => ⟨Nat.le_refl _, [], by simp [createItems], by simp⟩
  | (batch, take) :: consumed, quantitySoFar, grossSoFar, items => by
      let cumulative := money ((quantitySoFar + take) * unitPrice)
      let mk := newItem s txn lineNumber unitPrice batch take (cumulative - grossSoFar)
      have ih := createItems_rows s txn lineNumber unitPrice consumed (quantitySoFar + take)
        cumulative (items.create mk)
      rcases ih with ⟨hnext, new, hrows, hnew⟩
      have hnext' : items.next + 1 ≤ (createItems s txn lineNumber unitPrice
          ((batch, take) :: consumed) quantitySoFar grossSoFar items).next := hnext
      refine ⟨Nat.le_of_succ_le hnext', mk items.next :: new, ?_, ?_⟩
      · have hcons : (createItems s txn lineNumber unitPrice
            ((batch, take) :: consumed) quantitySoFar grossSoFar items).rows =
              (items.rows ++ [mk items.next]) ++ new := hrows
        simpa using hcons
      · intro item hitem
        rcases List.mem_cons.1 hitem with rfl | hlater
        · exact ⟨rfl, Nat.le_refl _⟩
        · have hlater' := hnew item hlater
          have hle : items.next + 1 ≤ item.pk := hlater'.2
          exact ⟨hlater'.1, Nat.le_of_succ_le hle⟩

theorem sellLine_ok {clock : Clock} {txn : Nat} {line : PricedItem × Nat} {s s' : Store}
    (h : sellLine clock txn s line = .ok s') :
    0 < line.1.quantity ∧
      s' = { s with
        batches := ((consume (fefoBatches s clock.today line.1.product) line.1.quantity).map
          Prod.fst).foldl Table.put s.batches
        items := createItems s txn line.2 line.1.unitPrice
          (consume (fefoBatches s clock.today line.1.product) line.1.quantity) 0 0 s.items } := by
  unfold sellLine at h
  rcases bind_eq_ok.1 h with ⟨⟨s₁, consumed⟩, hdeduct, h⟩
  rcases deductProductBatch_ok hdeduct with ⟨hpositive, _, rfl, rfl⟩
  refine ⟨hpositive, ?_⟩
  rw [← pure_eq_ok.1 h, createItems_saveBatches]
  rfl

/-- The selling loop touches batches and sale lines only. -/
theorem sellLines_store {clock : Clock} {txn : Nat} {lines : List (PricedItem × Nat)}
    {s s' : Store} (h : lines.foldlM (sellLine clock txn) s = .ok s') :
    ∃ batches items, s' = { s with batches := batches, items := items } := by
  refine foldlM_preserves
    (P := fun s' => ∃ batches items, s' = { s with batches := batches, items := items })
    ?_ h ⟨s.batches, s.items, rfl⟩
  rintro line _ s₁ s₂ ⟨batches, items, rfl⟩ hline
  exact ⟨_, _, (sellLine_ok hline).2⟩

/-- The selling loop appends fresh lines of its transaction. -/
theorem sellLines_items {clock : Clock} {txn : Nat} {lines : List (PricedItem × Nat)}
    {s s' : Store} (h : lines.foldlM (sellLine clock txn) s = .ok s') :
    s.items.next ≤ s'.items.next ∧ ∃ new, s'.items.rows = s.items.rows ++ new ∧
      ∀ item ∈ new, item.transaction = txn ∧ s.items.next ≤ item.pk := by
  refine foldlM_preserves
    (P := fun s' => s.items.next ≤ s'.items.next ∧ ∃ new, s'.items.rows = s.items.rows ++ new ∧
      ∀ item ∈ new, item.transaction = txn ∧ s.items.next ≤ item.pk)
    ?_ h ⟨Nat.le_refl _, [], by simp, by simp⟩
  rintro line _ s₁ s₂ ⟨hnext, new, hrows, hnew⟩ hline
  rw [(sellLine_ok hline).2]
  rcases createItems_rows s₁ txn line.2 line.1.unitPrice
    (consume (fefoBatches s₁ clock.today line.1.product) line.1.quantity) 0 0 s₁.items with
    ⟨hnext', new', hrows', hnew'⟩
  refine ⟨Nat.le_trans hnext hnext', new ++ new', ?_, ?_⟩
  · rw [← List.append_assoc, ← hrows]
    exact hrows'
  · intro item hitem
    rcases List.mem_append.1 hitem with hold | hlater
    · exact hnew item hold
    · exact ⟨(hnew' item hlater).1, Nat.le_trans hnext (hnew' item hlater).2⟩

theorem closeSale_ok {table : CaseTable} {clock : Clock} {args : SaleArgs} {priced : PricedSale}
    {allocation : Allocation} {s s' : Store} {txn : Nat}
    (h : closeSale table clock args priced allocation s = .ok (s', txn)) :
    txn = s.transactions.next ∧
      InvoiceUnique table s.transactions
        (newTransaction clock args priced allocation s.transactions.next) ∧
      (lockOrder priced.lines).foldlM (sellLine clock s.transactions.next)
        { saveSequence allocation.sequence s with
          transactions := s.transactions.create (newTransaction clock args priced allocation) } =
        .ok s' := by
  unfold closeSale at h
  rcases require_bind_eq_ok.1 h with ⟨hunique, h⟩
  rcases bind_eq_ok.1 h with ⟨s₁, hlines, h⟩
  rcases pure_pair_eq_ok.1 h with ⟨rfl, rfl⟩
  exact ⟨rfl, hunique, hlines⟩

/-- The tables a successful sale leaves alone, and the one transaction row it inserts. -/
theorem closeSale_store {table : CaseTable} {clock : Clock} {args : SaleArgs} {priced : PricedSale}
    {allocation : Allocation} {s s' : Store} {txn : Nat}
    (h : closeSale table clock args priced allocation s = .ok (s', txn)) :
    ∃ batches items, s' = { saveSequence allocation.sequence s with
      transactions := s.transactions.create (newTransaction clock args priced allocation)
      batches := batches
      items := items } :=
  sellLines_store (closeSale_ok h).2.2

theorem checkout_ok {table : CaseTable} {clock : Clock} {args : SaleArgs} {s s' : Store} {txn : Nat}
    (h : checkout table clock args s = .ok (s', txn)) :
    ∃ priced allocation, priceSale args = .ok priced ∧
      assignInvoice table clock.zone (Day.year (businessDate clock args)) args.invoiceNumber s =
        .ok allocation ∧
      closeSale table clock args priced allocation s = .ok (s', txn) := by
  unfold checkout at h
  rcases bind_eq_ok.1 h with ⟨priced, hpriced, h⟩
  rcases bind_eq_ok.1 h with ⟨allocation, hallocation, h⟩
  exact ⟨priced, allocation, hpriced, hallocation, h⟩

end RosarioDairy
