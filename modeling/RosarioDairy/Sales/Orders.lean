import RosarioDairy.Inventory.Adjustment
import RosarioDairy.Sales.Checkout

/-!
# Orders — placing orders and voiding sales

`place_order` records an order around a checkout.  `void_transaction` returns the stock of a local
sale line by line and marks the sale and its order; `void_fulfilled_order` and the cancel action of
the order API reach the same loop.
-/

namespace RosarioDairy

open Foundations

/-! ## Placing an order -/

def newOrder (clock : Clock) (customer : Customer) (handledBy : User) (pk : Nat) : Order :=
  { pk := pk
    customer := customer.pk
    handledBy := handledBy.pk
    status := .fulfilled
    warning := ""
    transaction := none
    createdAt := clock.now }

def newOrderItem (order : Nat) (line : PricedItem) (pk : Nat) : OrderItem :=
  { pk := pk
    order := order
    product := line.product
    quantity := line.quantity
    unitPrice := line.unitPrice
    subtotal := line.subtotal
    totalAmount := some line.totalAmount }

/-- The order with its sale filled in. -/
def linkedOrder (order : Order) (sale : Transaction) : Order :=
  { order with
    transaction := some sale.pk
    createdAt := sale.createdAt }

/-- `OrderItem.objects.bulk_create`. -/
def createOrderItems (order : Nat) (lines : List PricedItem) (items : Table OrderItem) :
    Table OrderItem :=
  lines.foldl (fun items line => items.create (newOrderItem order line)) items

/-- The checkout an order runs. -/
def SaleArgs.forCustomer (args : SaleArgs) (customer : Customer) : SaleArgs :=
  { args with
    discountType := "none"
    discountValue := .ofAmount 0
    customer := some customer }

/-- `place_order` around its checkout `sell`; the key of the new order is returned.
`discountValue` defaults to zero. -/
def placeOrderWith (sell : Store → Except Error (Store × Nat)) (clock : Clock)
    (customer : Customer) (args : SaleArgs) (s : Store) : Except Error (Store × Nat) := do
  rejectInvoiceDiscount args.discountType args.discountValue
  let lines ← priceItems args.items
  let order := s.orders.next
  let s := { s with
    orders := s.orders.create (newOrder clock customer args.staffUser)
    orderItems := createOrderItems order lines s.orderItems }
  let (s, txn) ← sell s
  let row ← demand (s.orders.find order) (.doesNotExist "Order")
  let sale ← demand (s.transactions.find txn) (.doesNotExist "Transaction")
  return ({ s with orders := s.orders.put (linkedOrder row sale) }, order)

def placeOrder (table : CaseTable) (clock : Clock) (customer : Customer) (args : SaleArgs)
    (s : Store) : Except Error (Store × Nat) :=
  placeOrderWith (checkout table clock (args.forCustomer customer)) clock customer args s

/-! ## Voiding a sale -/

/-- The sort key of the void loop: product, expiration date, batch and line. -/
def voidKey (s : Store) (item : TransactionItem) : Nat × Int × Nat × Nat :=
  match s.batches.find item.productBatch with
  | some batch => (batch.product, batch.expirationDate, batch.pk, item.pk)
  | none => (0, 0, item.productBatch, item.pk)

/-- The lexicographic order of two sort keys. -/
def voidKeyLe (a b : Nat × Int × Nat × Nat) : Prop :=
  a.1 < b.1 ∨ (a.1 = b.1 ∧ (a.2.1 < b.2.1 ∨ (a.2.1 = b.2.1 ∧
    (a.2.2.1 < b.2.2.1 ∨ (a.2.2.1 = b.2.2.1 ∧ a.2.2.2 ≤ b.2.2.2)))))

instance : DecidableRel voidKeyLe := fun a b => by
  unfold voidKeyLe
  infer_instance

/-- The lines of a sale in the order the void loop visits them. -/
def voidOrder (s : Store) (txn : Nat) : List TransactionItem :=
  (s.itemsOf txn).insertionSort (fun a b => voidKeyLe (voidKey s a) (voidKey s b))

/-- Stock of an expired or disposed batch is not restored. -/
def ProductBatch.isSkipped (today : Int) (batch : ProductBatch) : Bool :=
  batch.status = .expired ∨ batch.status = .disposed ∨ batch.expirationDate < today

/-- The quantity a void restores: the line quantity, capped by what the batch has lost. -/
def restoreAmount (batch : ProductBatch) (quantity : Int) : Int :=
  let restorable := batch.initialQuantity - batch.remainingQuantity
  if 0 < restorable then min quantity restorable else 0

/-- The batch with a positive amount restored. -/
def restoredBatch (batch : ProductBatch) (amount : Int) : ProductBatch :=
  { batch with
    remainingQuantity := batch.remainingQuantity + amount
    status := if batch.status = .depleted then .available else batch.status }

def newReturn (clock : Clock) (item : Nat) (quantity : Int) (pk : Nat) : StockReturn :=
  { pk := pk
    saleItem := item
    quantity := quantity
    createdAt := clock.now }

/-- `StockReturn.objects.create`, with its two constraints. -/
def createReturn (clock : Clock) (item : Nat) (quantity : Int) (s : Store) :
    Except Error Store := do
  require (0 ≤ quantity) (.integrityError "sale_stock_return_nonnegative")
  require (∀ returned ∈ s.returns.rows, returned.saleItem ≠ item)
    (.integrityError "sales_stockreturn_sale_item_id_key")
  return { s with returns := s.returns.create (newReturn clock item quantity) }

/-- One turn of the void loop, with the batch numbers skipped so far. -/
def voidItem (clock : Clock) (state : Store × List String) (item : TransactionItem) :
    Except Error (Store × List String) := do
  let (s, skipped) := state
  let batch ← demand (s.batches.find item.productBatch) (.doesNotExist "ProductBatch")
  if batch.isSkipped clock.today then
    let s ← createReturn clock item.pk 0 s
    return (s, skipped ++ [batch.batchNumber])
  else
    let amount := restoreAmount batch item.quantity
    let s := if 0 < amount then { s with batches := s.batches.put (restoredBatch batch amount) }
      else s
    let s ← createReturn clock item.pk amount s
    return (s, skipped)

/-- The warning stored on the order of a voided sale. -/
def voidWarning (skipped : List String) : String :=
  if skipped = [] then ""
  else "Stock could not be restored for the following expired/disposed batches: " ++
    ", ".intercalate skipped

def voidedTransaction (clock : Clock) (voidedBy : Option User) (reason : String)
    (txn : Transaction) : Transaction :=
  { txn with
    isVoided := true
    voidedAt := some clock.now
    voidedBy := voidedBy.map User.pk
    voidReason := reason }

/-- Cancel every order linked to the transaction. -/
def cancelOrders (txn : Nat) (warning : String) (orders : Table Order) : Table Order :=
  orders.updateWhere (fun order => order.transaction = some txn)
    (fun order => { order with status := .cancelled, warning := warning })

/-- `void_transaction`; the skipped batch numbers are returned. -/
def voidTransaction (clock : Clock) (saleId : Nat) (voidedBy : Option User) (reason : String)
    (s : Store) : Except Error (Store × List String) := do
  let txn ← demand (s.transactions.find saleId) (.doesNotExist "Transaction")
  require (txn.isImported = false)
    (.valueError "Imported historical transactions cannot be cancelled.")
  require (txn.isVoided = false) (.valueError "This transaction has already been voided.")
  let (s, skipped) ← (voidOrder s saleId).foldlM (voidItem clock) (s, [])
  return ({ s with
    transactions := s.transactions.put (voidedTransaction clock voidedBy reason txn)
    orders := cancelOrders saleId (voidWarning skipped) s.orders }, skipped)

/-- `void_fulfilled_order`. -/
def voidFulfilledOrder (clock : Clock) (order : Order) (voidedBy : Option User) (reason : String)
    (s : Store) : Except Error (Store × List String) := do
  let saleId ← demand order.transaction
    (.valueError "This order has no linked transaction to void.")
  voidTransaction clock saleId voidedBy reason s

/-- `OrderViewSet.cancel`: the checks of the view on the loaded order, then the service. -/
def cancelOrder (clock : Clock) (order : Nat) (voidedBy : Option User) (reason : String)
    (s : Store) : Except Error (Store × List String) := do
  let row ← demand (s.orders.find order) (.doesNotExist "Order")
  require (∀ sale ∈ row.transaction.bind s.transactions.find, sale.isImported = false)
    (.valueError "Imported historical orders cannot be cancelled.")
  require (row.status ≠ .cancelled) (.valueError "Order is already cancelled.")
  voidFulfilledOrder clock row voidedBy reason s

/-! ## What a successful call does -/

theorem placeOrder_ok {table : CaseTable} {clock : Clock} {customer : Customer} {args : SaleArgs}
    {s s' : Store} {order : Nat} (h : placeOrder table clock customer args s = .ok (s', order)) :
    order = s.orders.next ∧ ∃ orderItems s₁ sale,
      checkout table clock (args.forCustomer customer)
        { s with
          orders := s.orders.create (newOrder clock customer args.staffUser)
          orderItems := orderItems } = .ok (s₁, s.transactions.next) ∧
      s₁.transactions.find s.transactions.next = some sale ∧
      s' = { s₁ with
        orders := s₁.orders.put
          (linkedOrder (newOrder clock customer args.staffUser s.orders.next) sale) } := by
  unfold placeOrder placeOrderWith at h
  rcases bind_eq_ok.1 h with ⟨_, _, h⟩
  rcases bind_eq_ok.1 h with ⟨lines, _, h⟩
  rcases bind_eq_ok.1 h with ⟨⟨s₁, txn⟩, hcheckout, h⟩
  rcases demand_bind_eq_ok.1 h with ⟨row, hrow, h⟩
  rcases demand_bind_eq_ok.1 h with ⟨sale, hsale, h⟩
  rcases pure_pair_eq_ok.1 h with ⟨hs', horder⟩
  rcases checkout_ok hcheckout with ⟨priced, allocation, _, _, hclose⟩
  -- the checkout is the first sale after the order, so it takes the next key
  have htxn : txn = s.transactions.next := (closeSale_ok hclose).1
  subst htxn
  rcases closeSale_store hclose with ⟨batches, items, hs₁⟩
  -- the order row is still as it was created
  have hnew : row = newOrder clock customer args.staffUser s.orders.next := by
    rw [hs₁] at hrow
    have hfind := Table.find_create s.orders (newOrder clock customer args.staffUser)
      (fun _ => rfl) s.orders.next
    rw [if_pos rfl] at hfind
    exact Option.some.inj (hrow.symm.trans hfind)
  subst hnew
  exact ⟨horder.symm, _, s₁, sale, hcheckout, hsale, hs'.symm⟩

theorem createReturn_ok {clock : Clock} {item : Nat} {quantity : Int} {s s' : Store}
    (h : createReturn clock item quantity s = .ok s') :
    0 ≤ quantity ∧ (∀ returned ∈ s.returns.rows, returned.saleItem ≠ item) ∧
      s' = { s with returns := s.returns.create (newReturn clock item quantity) } := by
  unfold createReturn at h
  rcases require_bind_eq_ok.1 h with ⟨hquantity, h⟩
  rcases require_bind_eq_ok.1 h with ⟨hfresh, h⟩
  exact ⟨hquantity, hfresh, (pure_eq_ok.1 h).symm⟩

/-- One turn of the void loop records one return, and restores the amount it records unless the
batch is skipped. -/
theorem voidItem_ok {clock : Clock} {item : TransactionItem} {s s' : Store}
    {skipped skipped' : List String} (h : voidItem clock (s, skipped) item = .ok (s', skipped')) :
    ∃ batch amount, s.batches.find item.productBatch = some batch ∧ 0 ≤ amount ∧
      (∀ returned ∈ s.returns.rows, returned.saleItem ≠ item.pk) ∧
      (batch.isSkipped clock.today = true → amount = 0) ∧
      (batch.isSkipped clock.today = false → amount = restoreAmount batch item.quantity) ∧
      s' = { s with
        batches := if 0 < amount then s.batches.put (restoredBatch batch amount) else s.batches
        returns := s.returns.create (newReturn clock item.pk amount) } := by
  unfold voidItem at h
  rcases demand_bind_eq_ok.1 h with ⟨batch, hbatch, h⟩
  by_cases hskip : batch.isSkipped clock.today = true
  · -- a batch that is skipped gets a return of nothing
    rw [if_pos hskip] at h
    rcases bind_eq_ok.1 h with ⟨s₁, hreturn, h⟩
    rcases createReturn_ok hreturn with ⟨hquantity, hfresh, rfl⟩
    rcases pure_pair_eq_ok.1 h with ⟨rfl, _⟩
    exact ⟨batch, 0, hbatch, hquantity, hfresh, fun _ => rfl,
      fun hnot => by simp [hskip] at hnot, rfl⟩
  · -- any other batch gets back what the line took, up to its initial quantity
    rw [if_neg hskip] at h
    rcases bind_eq_ok.1 h with ⟨s₁, hreturn, h⟩
    rcases createReturn_ok hreturn with ⟨hquantity, hfresh, rfl⟩
    rcases pure_pair_eq_ok.1 h with ⟨rfl, _⟩
    refine ⟨batch, restoreAmount batch item.quantity, hbatch, hquantity, ?_,
      fun hyes => absurd hyes hskip, fun _ => rfl, ?_⟩
    · -- writing the batch leaves the returns as they were
      split at hfresh
      · exact hfresh
      · exact hfresh
    · split
      · rfl
      · rfl

/-- The void loop touches batches and returns only. -/
theorem voidItems_store {clock : Clock} {items : List TransactionItem} {s s' : Store}
    {skipped skipped' : List String}
    (h : items.foldlM (voidItem clock) (s, skipped) = .ok (s', skipped')) :
    ∃ batches returns, s' = { s with batches := batches, returns := returns } := by
  refine foldlM_preserves
    (P := fun state => ∃ batches returns,
      state.1 = { s with batches := batches, returns := returns })
    ?_ h ⟨s.batches, s.returns, rfl⟩
  rintro item _ ⟨s₁, _⟩ ⟨s₂, _⟩ ⟨batches, returns, hs₁⟩ hitem
  rcases voidItem_ok hitem with ⟨batch, amount, _, _, _, _, _, hs₂⟩
  simp only at hs₁
  subst hs₁
  exact ⟨_, _, hs₂⟩

theorem voidTransaction_ok {clock : Clock} {saleId : Nat} {voidedBy : Option User} {reason : String}
    {s s' : Store} {skipped : List String}
    (h : voidTransaction clock saleId voidedBy reason s = .ok (s', skipped)) :
    ∃ sale s₁, s.transactions.find saleId = some sale ∧ sale.isImported = false ∧
      sale.isVoided = false ∧
      (voidOrder s saleId).foldlM (voidItem clock) (s, []) = .ok (s₁, skipped) ∧
      s' = { s₁ with
        transactions := s.transactions.put (voidedTransaction clock voidedBy reason sale)
        orders := cancelOrders saleId (voidWarning skipped) s.orders } := by
  unfold voidTransaction at h
  rcases demand_bind_eq_ok.1 h with ⟨sale, hsale, h⟩
  rcases require_bind_eq_ok.1 h with ⟨hlocal, h⟩
  rcases require_bind_eq_ok.1 h with ⟨hlive, h⟩
  rcases bind_eq_ok.1 h with ⟨⟨s₁, skipped₁⟩, hitems, h⟩
  rcases pure_pair_eq_ok.1 h with ⟨hs', rfl⟩
  rcases voidItems_store hitems with ⟨batches, returns, rfl⟩
  exact ⟨sale, _, hsale, hlocal, hlive, hitems, hs'.symm⟩

theorem voidFulfilledOrder_ok {clock : Clock} {order : Order} {voidedBy : Option User}
    {reason : String} {s s' : Store} {skipped : List String}
    (h : voidFulfilledOrder clock order voidedBy reason s = .ok (s', skipped)) :
    ∃ saleId, order.transaction = some saleId ∧
      voidTransaction clock saleId voidedBy reason s = .ok (s', skipped) := by
  unfold voidFulfilledOrder at h
  exact demand_bind_eq_ok.1 h

theorem cancelOrder_ok {clock : Clock} {order : Nat} {voidedBy : Option User} {reason : String}
    {s s' : Store} {skipped : List String}
    (h : cancelOrder clock order voidedBy reason s = .ok (s', skipped)) :
    ∃ row saleId, s.orders.find order = some row ∧ row.transaction = some saleId ∧
      voidTransaction clock saleId voidedBy reason s = .ok (s', skipped) := by
  unfold cancelOrder at h
  rcases demand_bind_eq_ok.1 h with ⟨row, hrow, h⟩
  rcases require_bind_eq_ok.1 h with ⟨_, h⟩
  rcases require_bind_eq_ok.1 h with ⟨_, h⟩
  rcases voidFulfilledOrder_ok h with ⟨saleId, hsale, hvoid⟩
  exact ⟨row, saleId, hrow, hsale, hvoid⟩

end RosarioDairy
