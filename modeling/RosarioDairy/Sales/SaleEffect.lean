import RosarioDairy.Sales.Encoding

/-!
# SaleEffect — what every kind of sale does to the store

A checkout, an order and an encoded sale end in the same change: one transaction row, its sale
lines, at most one order linked to it, and the stock the selling loop took.
-/

namespace RosarioDairy

open Foundations

/-- The order under another date. -/
def Order.dated (createdAt : Order → Int) (order : Order) : Order :=
  { order with createdAt := createdAt order }

theorem Order.dated_self : Order.dated Order.createdAt = id := rfl

/-- The change a successful sale makes; `sale` is the transaction row it leaves behind. -/
structure SaleEffect (clock : Clock) (s s' : Store) (sale : Transaction) : Prop where
  categories : s'.categories = s.categories
  products : s'.products = s.products
  batchSequences : s'.batchSequences = s.batchSequences
  adjustments : s'.adjustments = s.adjustments
  adjustmentSubmissions : s'.adjustmentSubmissions = s.adjustmentSubmissions
  saleSubmissions : s'.saleSubmissions = s.saleSubmissions
  returns : s'.returns = s.returns
  pk : sale.pk = s.transactions.next
  transactions : s'.transactions.rows = s.transactions.rows ++ [sale]
  transactions_next : s'.transactions.next = s.transactions.next + 1
  live : sale.isVoided = false
  unreferenced : sale.sourceReference = none
  orders : ∃ createdAt new, s'.orders.rows = s.orders.rows.map (Order.dated createdAt) ++ new ∧
    ∀ order ∈ new, order.transaction = some sale.pk ∧ order.status = .fulfilled
  items_next : s.items.next ≤ s'.items.next
  items : ∃ new, s'.items.rows = s.items.rows ++ new ∧
    ∀ item ∈ new, item.transaction = sale.pk ∧ s.items.next ≤ item.pk
  payment : ∃ args priced, priceSale args = .ok priced ∧ sale.totalAmount = priced.total ∧
    sale.payment = priced.payment
  /-- The stock of the sale was taken by the selling loop of its own transaction. -/
  sold : ∃ lines s₁ s₂, s₁.batches = s.batches ∧ s₁.items = s.items ∧
    s₁.adjustments = s.adjustments ∧ s₁.returns = s.returns ∧
    (lines : List (PricedItem × Nat)).foldlM (sellLine clock sale.pk) s₁ = .ok s₂ ∧
    s'.batches = s₂.batches ∧ s'.items = s₂.items

/-- Another row under the same key changes nothing a sale is judged by. -/
theorem SaleEffect.resave {clock : Clock} {s s₁ s' : Store} {sale saved : Transaction}
    {orders : Table Order} (h : SaleEffect clock s s₁ sale)
    (hsaved : saved.pk = sale.pk) (hlive : saved.isVoided = false)
    (hsource : saved.sourceReference = none) (htotal : saved.totalAmount = sale.totalAmount)
    (hpayment : saved.payment = sale.payment)
    (horders : ∃ createdAt new, orders.rows = s.orders.rows.map (Order.dated createdAt) ++ new ∧
      ∀ order ∈ new, order.transaction = some saved.pk ∧ order.status = .fulfilled)
    (hs' : s' = { s₁ with transactions := s₁.transactions.put saved, orders := orders }) :
    SaleEffect clock s s' saved := by
  -- saving again replaces the last row and no earlier one
  have hrows : (s₁.transactions.put saved).rows = s.transactions.rows ++ [saved] := by
    have hold : s.transactions.rows.map (fun r => if Row.pk r = Row.pk saved then saved else r) =
        s.transactions.rows.map id := by
      apply List.map_congr_left
      intro row hrow
      have hlt : row.pk < s.transactions.next := s.transactions.below row hrow
      have hne : ¬ row.pk = saved.pk := by
        rw [hsaved, h.pk]
        omega
      exact if_neg hne
    have hsale : Row.pk sale = Row.pk saved := hsaved.symm
    simp [Table.put, Table.putRows, h.transactions, hold, hsale]
  subst hs'
  exact
    { categories := h.categories
      products := h.products
      batchSequences := h.batchSequences
      adjustments := h.adjustments
      adjustmentSubmissions := h.adjustmentSubmissions
      saleSubmissions := h.saleSubmissions
      returns := h.returns
      pk := hsaved.trans h.pk
      transactions := hrows
      transactions_next := h.transactions_next
      live := hlive
      unreferenced := hsource
      orders := horders
      items_next := h.items_next
      items := by
        rw [hsaved]
        exact h.items
      payment := by
        rw [htotal, hpayment]
        exact h.payment
      sold := by
        rw [hsaved]
        exact h.sold }

theorem closeSale_effect {table : CaseTable} {clock : Clock} {args : SaleArgs} {priced : PricedSale}
    {allocation : Allocation} {s s' : Store} {txn : Nat} (hpriced : priceSale args = .ok priced)
    (h : closeSale table clock args priced allocation s = .ok (s', txn)) :
    SaleEffect clock s s'
      (newTransaction clock args priced allocation s.transactions.next) := by
  rcases closeSale_ok h with ⟨_, _, hlines⟩
  rcases closeSale_store h with ⟨batches, items, hs'⟩
  rcases sellLines_items hlines with ⟨hnext, hitems⟩
  subst hs'
  exact
    { categories := rfl
      products := rfl
      batchSequences := rfl
      adjustments := rfl
      adjustmentSubmissions := rfl
      saleSubmissions := rfl
      returns := rfl
      pk := rfl
      transactions := rfl
      transactions_next := rfl
      live := rfl
      unreferenced := rfl
      orders := ⟨Order.createdAt, [], by simp [saveSequence, Order.dated_self], by simp⟩
      items_next := hnext
      items := hitems
      payment := ⟨args, priced, hpriced, rfl, rfl⟩
      -- the loop over the priced lines, as the checkout ran it
      sold := by
        refine ⟨_, _, _, ?_, ?_, ?_, ?_, hlines, rfl, rfl⟩
        · rfl
        · rfl
        · rfl
        · rfl }

/-- A successful checkout is a sale. -/
theorem checkout_effect {table : CaseTable} {clock : Clock} {args : SaleArgs} {s s' : Store}
    {txn : Nat} (h : checkout table clock args s = .ok (s', txn)) :
    ∃ priced allocation, SaleEffect clock s s'
      (newTransaction clock args priced allocation s.transactions.next) := by
  rcases checkout_ok h with ⟨priced, allocation, hpriced, _, hclose⟩
  exact ⟨priced, allocation, closeSale_effect hpriced hclose⟩

/-- A successful order adds one row to the orders, linked to the sale it is placed with. -/
theorem placeOrder_linked {table : CaseTable} {clock : Clock} {customer : Customer}
    {args : SaleArgs} {s s' : Store} {order : Nat}
    (h : placeOrder table clock customer args s = .ok (s', order)) :
    ∃ row, s'.orders.rows = s.orders.rows ++ [row] ∧ row.pk = order ∧ row.status = .fulfilled ∧
      row.transaction = some s.transactions.next := by
  rcases placeOrder_ok h with ⟨rfl, orderItems, s₁, sale, hcheckout, hsale, rfl⟩
  rcases checkout_ok hcheckout with ⟨_, _, _, _, hclose⟩
  rcases closeSale_store hclose with ⟨batches, items, hs₁⟩
  -- the checkout leaves the orders alone
  have horders : s₁.orders = s.orders.create (newOrder clock customer args.staffUser) := by
    rw [hs₁]
    rfl
  have hpk : sale.pk = s.transactions.next := (Table.find_eq_some.1 hsale).2
  refine ⟨linkedOrder (newOrder clock customer args.staffUser s.orders.next) sale, ?_, rfl, rfl, ?_⟩
  · show (s₁.orders.put (linkedOrder _ sale)).rows = _
    rw [horders]
    exact Table.rows_put_create s.orders _ _ rfl
  · rw [← hpk]
    rfl

/-- A successful order is a sale with one order linked to it. -/
theorem placeOrder_effect {table : CaseTable} {clock : Clock} {customer : Customer}
    {args : SaleArgs} {s s' : Store} {order : Nat}
    (h : placeOrder table clock customer args s = .ok (s', order)) :
    ∃ priced allocation, SaleEffect clock s s'
      (newTransaction clock (args.forCustomer customer) priced allocation s.transactions.next) := by
  rcases placeOrder_linked h with ⟨row, hrows, _, hstatus, htransaction⟩
  rcases placeOrder_ok h with ⟨_, orderItems, s₁, sale, hcheckout, hsale, rfl⟩
  rcases checkout_effect hcheckout with ⟨priced, allocation, heffect⟩
  refine ⟨priced, allocation, { heffect with orders := ⟨Order.createdAt, [row], ?_, ?_⟩ }⟩
  · rw [Order.dated_self, List.map_id]
    exact hrows
  · intro order horder
    cases List.mem_singleton.1 horder
    exact ⟨htransaction, hstatus⟩

/-- The sale behind an encoding request. -/
theorem encodedSale_effect {table : CaseTable} {clock : Clock} {args : EncodeArgs} {s s' : Store}
    {txn : Nat}
    (h : encodedSaleWith (checkout table clock args.checkoutArgs) clock args s = .ok (s', txn)) :
    ∃ sale, sale.pk = txn ∧ sale.handledBy = args.handledBy.pk ∧ SaleEffect clock s s' sale := by
  rcases encodedSale_ok h with ⟨rfl, ⟨_, hcheckout⟩ | ⟨customer, _, hplace⟩⟩
  · rcases checkout_effect hcheckout with ⟨_, _, heffect⟩
    exact ⟨_, rfl, rfl, heffect⟩
  · rcases placeOrder_effect hplace with ⟨_, _, heffect⟩
    exact ⟨_, rfl, rfl, heffect⟩

/-- A successful new encoding request is a sale with its encoding columns filled in, under an id
no other sale carries. -/
theorem writeEncoded_effect {table : CaseTable} {clock : Clock} {args : EncodeArgs}
    {requestId : Nat} {fingerprint : String} {s s' : Store} {txn : Nat}
    (h : writeEncoded table clock args requestId fingerprint s = .ok (s', txn)) :
    ∃ sale, sale.pk = txn ∧ sale.handledBy = args.handledBy.pk ∧
      (∀ other ∈ s.transactions.rows, other.encodingRequestId ≠ some requestId) ∧
      SaleEffect clock s s' (encodedTransaction clock args requestId fingerprint sale) := by
  rcases writeEncodedWith_ok h with ⟨s₁, sale, hsale, hfind, hfresh, hs'⟩
  rcases encodedSale_effect hsale with ⟨made, hmade, hhandled, heffect⟩
  -- the sale found by its key is the one made
  have hEq : sale = made := by
    rcases Table.find_eq_some.1 hfind with ⟨hmem, hpk⟩
    refine Table.eq_of_pk_eq s₁.transactions hmem ?_ (hpk.trans hmade.symm)
    rw [heffect.transactions]
    simp
  -- no sale was recorded under the request, the new one aside
  have hother : ∀ other ∈ s.transactions.rows, other.encodingRequestId ≠ some requestId := by
    intro other hmem
    refine hfresh other ?_
    rw [heffect.transactions]
    exact List.mem_append_left _ hmem
  subst hEq
  refine ⟨sale, hmade, hhandled, hother, heffect.resave rfl heffect.live heffect.unreferenced rfl rfl ?_ hs'⟩
  rcases heffect.orders with ⟨createdAt, new, horders, hnew⟩
  -- the encoding date is copied to the orders of the sale
  let redated (order : Order) : Order :=
    if order.transaction = some sale.pk then { order with createdAt := sale.createdAt } else order
  refine ⟨fun order => (redated (order.dated createdAt)).createdAt, new.map redated, ?_, ?_⟩
  · -- redating touches no order of another sale
    have hrows : (redateOrders (encodedTransaction clock args requestId fingerprint sale)
        s₁.orders).rows = s₁.orders.rows.map redated := by
      apply List.map_congr_left
      intro order _
      by_cases h : order.transaction = some sale.pk
      · simp [redated, encodedTransaction, h]
      · simp [redated, encodedTransaction, h]
    rw [hrows, horders, List.map_append, List.map_map]
    congr 1
    apply List.map_congr_left
    intro order _
    by_cases h : order.transaction = some sale.pk
    · simp [redated, Order.dated, h]
    · simp [redated, Order.dated, h]
  · intro order horder
    rcases List.mem_map.1 horder with ⟨order₀, horder₀, rfl⟩
    rcases hnew order₀ horder₀ with ⟨htransaction, hstatus⟩
    simp [redated, htransaction, hstatus, encodedTransaction]

end RosarioDairy
