import RosarioDairy.Sales.Orders

/-!
# Encoding — backdated sales through the same pipeline

`encode_transaction` books a sale under a client-chosen request id.  A repeated request with the
same user and payload returns the recorded sale; anything else under a used id is a conflict.
-/

namespace RosarioDairy

open Foundations

/-- The arguments of `encode_transaction`, with its defaults. -/
structure EncodeArgs where
  items : List CartEntry
  handledBy : User
  transactionDate : Int
  requestId : Option Nat
  customer : Option Customer := none
  siNumber : String := ""
  note : String := ""
  paymentMethod : String := "cash"
  amountTendered : Option DecimalInput := none
  paymentStatus : String := "pending"

/-- The payload whose canonical JSON is digested into the fingerprint. -/
structure EncodingPayload where
  date : Int
  customer : Option Nat
  siNumber : String
  note : String
  paymentMethod : String
  paymentStatus : String
  amountTendered : Option DecimalInput
  items : List (Nat × Int × Int)
  deriving DecidableEq, Repr

def encodingPayload (args : EncodeArgs) (lines : List PricedItem) : EncodingPayload :=
  { date := args.transactionDate
    customer := args.customer.map Customer.pk
    siNumber := args.siNumber
    note := args.note
    paymentMethod := args.paymentMethod
    paymentStatus := args.paymentStatus
    amountTendered := args.amountTendered
    items := lines.map (fun line => (line.product, line.quantity, line.unitPrice)) }

/-- The checkout an encoded sale runs. -/
def EncodeArgs.toSaleArgs (args : EncodeArgs) : SaleArgs :=
  { items := args.items
    staffUser := args.handledBy
    paymentMethod := args.paymentMethod
    amountTendered := args.amountTendered
    paymentStatus := args.paymentStatus
    invoiceDate := some args.transactionDate
    invoiceNumber := some args.siNumber }

/-- `Transaction.objects.filter(encoding_request_id=request_id).first()`. -/
def findEncoded (requestId : Nat) (s : Store) : Option Transaction :=
  s.transactions.rows.find? (fun txn => txn.encodingRequestId = some requestId)

/-- `_replayed`. -/
def replayed (existing : Transaction) (user : User) (fingerprint : String) :
    Except Error Transaction :=
  if existing.handledBy ≠ user.pk ∨ existing.encodingPayloadHash ≠ fingerprint then
    .error (.encodingConflict ("This request_id has already been used. " ++
      "Use a new request_id for a different transaction."))
  else
    .ok existing

/-- The sale with its encoding columns filled in. -/
def encodedTransaction (clock : Clock) (args : EncodeArgs) (requestId : Nat) (fingerprint : String)
    (sale : Transaction) : Transaction :=
  { sale with
    encodedAt := some clock.now
    encodingRequestId := some requestId
    encodingPayloadHash := fingerprint
    sourceNote := args.note
    sourceCustomerLabel := (args.customer.map Customer.name).getD "" }

/-- `Order.objects.filter(transaction=sale).update(created_at=sale.created_at)`. -/
def redateOrders (sale : Transaction) (orders : Table Order) : Table Order :=
  orders.updateWhere (fun order => order.transaction = some sale.pk)
    (fun order => { order with createdAt := sale.createdAt })

/-- The arguments of the checkout behind an encoding request. -/
def EncodeArgs.checkoutArgs (args : EncodeArgs) : SaleArgs :=
  match args.customer with
  | some customer => args.toSaleArgs.forCustomer customer
  | none => args.toSaleArgs

/-- The sale of an encoding request around its checkout `sell`: an order when there is a customer,
else the checkout alone. -/
def encodedSaleWith (sell : Store → Except Error (Store × Nat)) (clock : Clock)
    (args : EncodeArgs) (s : Store) : Except Error (Store × Nat) :=
  match args.customer with
  | some customer => do
      let (s, order) ← placeOrderWith sell clock customer args.toSaleArgs s
      let row ← demand (s.orders.find order) (.doesNotExist "Order")
      let txn ← demand row.transaction (.doesNotExist "Transaction")
      return (s, txn)
  | none => sell s

/-- The body of the encoding transaction after the second replay check, around its checkout `sell`:
the whole sale, and last the request id under its unique constraint. -/
def writeEncodedWith (sell : Store → Except Error (Store × Nat)) (clock : Clock)
    (args : EncodeArgs) (requestId : Nat) (fingerprint : String) (s : Store) :
    Except Error (Store × Nat) := do
  let (s, txn) ← encodedSaleWith sell clock args s
  let sale ← demand (s.transactions.find txn) (.doesNotExist "Transaction")
  require (∀ other ∈ s.transactions.rows, other.encodingRequestId ≠ some requestId)
    (.integrityError "sales_transaction_encoding_request_id_key")
  let saved := encodedTransaction clock args requestId fingerprint sale
  return ({ s with
    transactions := s.transactions.put saved
    orders := redateOrders saved s.orders }, txn)

def writeEncoded (table : CaseTable) (clock : Clock) (args : EncodeArgs) (requestId : Nat)
    (fingerprint : String) (s : Store) : Except Error (Store × Nat) :=
  writeEncodedWith (checkout table clock args.checkoutArgs) clock args requestId fingerprint s

/-- The checks of `encode_transaction` before it looks the request id up, with the fingerprint. -/
def checkEncoding (digest : EncodingPayload → String) (clock : Clock) (args : EncodeArgs) :
    Except Error (Nat × String) := do
  require (args.transactionDate ≤ clock.today)
    (.valueError "Transaction date cannot be in the future.")
  let requestId ← demand args.requestId (.valueError "request_id is required.")
  let lines ← priceItems args.items
  return (requestId, digest (encodingPayload args lines))

/-- `encode_transaction` run without concurrent calls; the sale and whether it was created are
returned. -/
def encodeTransaction (table : CaseTable) (digest : EncodingPayload → String) (clock : Clock)
    (args : EncodeArgs) (s : Store) : Except Error (Store × Nat × Bool) := do
  let (requestId, fingerprint) ← checkEncoding digest clock args
  match findEncoded requestId s with
  | some existing =>
      let sale ← replayed existing args.handledBy fingerprint
      return (s, sale.pk, false)
  | none =>
      let (s, txn) ← writeEncoded table clock args requestId fingerprint s
      return (s, txn, true)

/-! ## What a successful call does -/

/-- The sale behind an encoding request is the next transaction, made by a checkout or by an
order. -/
theorem encodedSale_ok {table : CaseTable} {clock : Clock} {args : EncodeArgs} {s s' : Store}
    {txn : Nat}
    (h : encodedSaleWith (checkout table clock args.checkoutArgs) clock args s = .ok (s', txn)) :
    txn = s.transactions.next ∧
      ((args.customer = none ∧ checkout table clock args.toSaleArgs s = .ok (s', txn)) ∨
        ∃ customer, args.customer = some customer ∧
          placeOrder table clock customer args.toSaleArgs s = .ok (s', s.orders.next)) := by
  unfold encodedSaleWith EncodeArgs.checkoutArgs at h
  -- without a customer the sale is a checkout, with one it is an order
  cases hcustomer : args.customer with
  | none =>
      rw [hcustomer] at h
      rcases checkout_ok h with ⟨_, _, _, _, hclose⟩
      exact ⟨(closeSale_ok hclose).1, .inl ⟨rfl, h⟩⟩
  | some customer =>
      rw [hcustomer] at h
      rcases bind_eq_ok.1 h with ⟨⟨s₁, order⟩, hplace, h⟩
      rcases demand_bind_eq_ok.1 h with ⟨row, hrow, h⟩
      rcases demand_bind_eq_ok.1 h with ⟨txn', htxn, h⟩
      rcases pure_pair_eq_ok.1 h with ⟨rfl, rfl⟩
      rcases placeOrder_ok hplace with ⟨rfl, orderItems, s₂, sale, _, hsale, rfl⟩
      refine ⟨?_, .inr ⟨customer, rfl, hplace⟩⟩
      -- the order row is the new one, linked to its sale
      have hlinked : row = linkedOrder
          (newOrder clock customer args.toSaleArgs.staffUser s.orders.next) sale := by
        rcases Table.find_eq_some.1 hrow with ⟨hmem, hpk⟩
        rcases Table.mem_put.1 hmem with ⟨_, hne⟩ | ⟨hEq, _⟩
        · exact absurd hpk hne
        · exact hEq
      rw [hlinked] at htxn
      have hpk : sale.pk = s.transactions.next := (Table.find_eq_some.1 hsale).2
      exact (Option.some.inj htxn).symm.trans hpk

theorem writeEncodedWith_ok {sell : Store → Except Error (Store × Nat)} {clock : Clock}
    {args : EncodeArgs} {requestId : Nat} {fingerprint : String} {s s' : Store} {txn : Nat}
    (h : writeEncodedWith sell clock args requestId fingerprint s = .ok (s', txn)) :
    ∃ s₁ sale, encodedSaleWith sell clock args s = .ok (s₁, txn) ∧
      s₁.transactions.find txn = some sale ∧
      (∀ other ∈ s₁.transactions.rows, other.encodingRequestId ≠ some requestId) ∧
      s' = { s₁ with
        transactions := s₁.transactions.put
          (encodedTransaction clock args requestId fingerprint sale)
        orders := redateOrders (encodedTransaction clock args requestId fingerprint sale)
          s₁.orders } := by
  unfold writeEncodedWith at h
  rcases bind_eq_ok.1 h with ⟨⟨s₁, txn₁⟩, hsale, h⟩
  rcases demand_bind_eq_ok.1 h with ⟨sale, hfind, h⟩
  rcases require_bind_eq_ok.1 h with ⟨hfresh, h⟩
  rcases pure_pair_eq_ok.1 h with ⟨hs', rfl⟩
  exact ⟨s₁, sale, hsale, hfind, hfresh, hs'.symm⟩

/-- A completed encoding request either replays the sale recorded under its id or writes it. -/
theorem encodeTransaction_ok {table : CaseTable} {digest : EncodingPayload → String}
    {clock : Clock} {args : EncodeArgs} {s s' : Store} {txn : Nat} {created : Bool}
    (h : encodeTransaction table digest clock args s = .ok (s', txn, created)) :
    ∃ requestId fingerprint, checkEncoding digest clock args = .ok (requestId, fingerprint) ∧
      ((∃ existing, findEncoded requestId s = some existing ∧
          replayed existing args.handledBy fingerprint = .ok existing ∧
          s' = s ∧ txn = existing.pk ∧ created = false) ∨
        (findEncoded requestId s = none ∧ created = true ∧
          writeEncoded table clock args requestId fingerprint s = .ok (s', txn))) := by
  unfold encodeTransaction at h
  rcases bind_eq_ok.1 h with ⟨⟨requestId, fingerprint⟩, hcheck, h⟩
  refine ⟨requestId, fingerprint, hcheck, ?_⟩
  -- the request id decides: nothing is recorded under it, or a sale that is replayed
  cases hfind : findEncoded requestId s with
  | none =>
      simp only [hfind] at h
      rcases bind_eq_ok.1 h with ⟨⟨s₁, txn₁⟩, hwrite, h⟩
      rcases pure_pair_eq_ok.1 h with ⟨rfl, hpair⟩
      cases hpair
      exact .inr ⟨rfl, rfl, hwrite⟩
  | some existing =>
      simp only [hfind] at h
      rcases bind_eq_ok.1 h with ⟨sale, hreplay, h⟩
      rcases pure_pair_eq_ok.1 h with ⟨hs', hpair⟩
      cases hpair
      -- a replay hands back the sale that was found
      have hsame : sale = existing := by
        unfold replayed at hreplay
        split at hreplay
        · cases hreplay
        · exact (Except.ok.inj hreplay).symm
      subst hsame
      exact .inl ⟨sale, rfl, hreplay, hs'.symm, rfl, rfl⟩

end RosarioDairy
