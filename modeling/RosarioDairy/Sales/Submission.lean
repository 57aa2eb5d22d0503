import RosarioDairy.Sales.SaleEffect

/-!
# Submission — keyed checkouts and orders

`submit_sale`: a request with a key is answered from the submission recorded under the user and the
key; otherwise the sale is made and recorded in one transaction.
-/

namespace RosarioDairy

open Foundations

/-- The route of a sale request, with the customer it names. -/
inductive SaleTarget
  | checkout (customer : Option Customer)
  | order (customer : Customer)
  deriving DecidableEq, Repr

namespace SaleTarget

def endpoint : SaleTarget → Endpoint
  | .checkout _ => .checkout
  | .order _ => .order

def customer : SaleTarget → Option Customer
  | .checkout customer => customer
  | .order customer => some customer

end SaleTarget

/-- The arguments of `submit_sale` but the key. -/
structure SaleRequest where
  user : User
  target : SaleTarget
  items : List CartEntry
  paymentMethod : String
  amountTendered : Option DecimalInput
  deriving DecidableEq, Repr

/-- The payload whose canonical JSON is digested into the fingerprint. -/
structure SalePayload where
  endpoint : Endpoint
  customerId : Option Nat
  paymentMethod : String
  amountTendered : Option DecimalInput
  items : List CartEntry
  deriving DecidableEq, Repr

def SaleRequest.payload (request : SaleRequest) : SalePayload :=
  { endpoint := request.target.endpoint
    customerId := request.target.customer.map Customer.pk
    paymentMethod := request.paymentMethod
    amountTendered := request.amountTendered
    items := request.items }

/-- The sale a submission returns: its transaction and, on the order route, its order. -/
structure SaleResult where
  transaction : Nat
  order : Option Nat
  deriving DecidableEq, Repr

/-- The arguments a view passes on to the checkout of a request. -/
def SaleRequest.args (request : SaleRequest) (customer : Option Customer) : SaleArgs :=
  { items := request.items
    staffUser := request.user
    paymentMethod := request.paymentMethod
    amountTendered := request.amountTendered
    customer := customer }

/-- The arguments of the checkout behind a request. -/
def SaleRequest.checkoutArgs (request : SaleRequest) : SaleArgs :=
  match request.target with
  | .checkout customer => request.args customer
  | .order customer => (request.args none).forCustomer customer

/-- The `create` callback of the two views around its checkout `sell`. -/
def createSaleWith (sell : Store → Except Error (Store × Nat)) (clock : Clock)
    (request : SaleRequest) (s : Store) : Except Error (Store × SaleResult) :=
  match request.target with
  | .checkout _ => do
      let (s, txn) ← sell s
      return (s, { transaction := txn, order := none })
  | .order customer => do
      let (s, order) ← placeOrderWith sell clock customer (request.args none) s
      let row ← demand (s.orders.find order) (.doesNotExist "Order")
      let txn ← demand row.transaction (.doesNotExist "Transaction")
      return (s, { transaction := txn, order := some order })

def createSale (table : CaseTable) (clock : Clock) (request : SaleRequest) (s : Store) :
    Except Error (Store × SaleResult) :=
  createSaleWith (checkout table clock request.checkoutArgs) clock request s

/-- `SaleSubmission.objects.filter(user=user, request_id=key).first()`. -/
def previousSale (user key : Nat) (s : Store) : Option SaleSubmission :=
  s.saleSubmissions.rows.find? (fun row => row.user = user && row.requestId = key)

def newSaleSubmission (request : SaleRequest) (key : Nat) (fingerprint : String)
    (result : SaleResult) (pk : Nat) : SaleSubmission :=
  { pk := pk
    user := request.user.pk
    requestId := key
    fingerprint := fingerprint
    endpoint := request.target.endpoint
    transaction := result.transaction
    order := result.order }

/-- `SaleSubmission.objects.create`, with its unique constraints. -/
def recordSale (request : SaleRequest) (key : Nat) (fingerprint : String) (result : SaleResult)
    (s : Store) : Except Error Store := do
  require (∀ row ∈ s.saleSubmissions.rows, ¬ (row.user = request.user.pk ∧ row.requestId = key))
    (.integrityError "sale_submission_user_request_unique")
  require (∀ row ∈ s.saleSubmissions.rows, row.transaction ≠ result.transaction)
    (.integrityError "sales_salesubmission_transaction_id_key")
  require (∀ row ∈ s.saleSubmissions.rows, row.order = none ∨ row.order ≠ result.order)
    (.integrityError "sales_salesubmission_order_id_key")
  return { s with
    saleSubmissions := s.saleSubmissions.create
      (newSaleSubmission request key fingerprint result) }

/-- The sale of a fresh key, around its checkout `sell`, and its record. -/
def performSaleWith (sell : Store → Except Error (Store × Nat)) (clock : Clock)
    (request : SaleRequest) (key : Nat) (fingerprint : String) (s : Store) :
    Except Error (Store × SaleResult) := do
  let (s, result) ← createSaleWith sell clock request s
  let s ← recordSale request key fingerprint result s
  return (s, result)

def performSale (table : CaseTable) (clock : Clock) (request : SaleRequest) (key : Nat)
    (fingerprint : String) (s : Store) : Except Error (Store × SaleResult) :=
  performSaleWith (checkout table clock request.checkoutArgs) clock request key fingerprint s

/-- The answer to a key that was used before. -/
def replaySale (request : SaleRequest) (fingerprint : String) (previous : SaleSubmission) :
    Except Error SaleResult :=
  if previous.fingerprint ≠ fingerprint ∨ previous.endpoint ≠ request.target.endpoint then
    .error (.submissionConflict
      "This request ID was already used for a different sale. Use a new request ID.")
  else
    .ok { transaction := previous.transaction, order := previous.order }

/-- `submit_sale` run without concurrent calls; the sale and whether it was created are returned. -/
def submitSale (table : CaseTable) (digest : SalePayload → String) (clock : Clock)
    (key : Option Nat) (request : SaleRequest) (s : Store) :
    Except Error (Store × SaleResult × Bool) :=
  match key with
  | none => do
      let (s, result) ← createSale table clock request s
      return (s, result, true)
  | some key =>
      let fingerprint := digest request.payload
      match previousSale request.user.pk key s with
      | some previous => do
          let result ← replaySale request fingerprint previous
          return (s, result, false)
      | none => do
          let (s, result) ← performSale table clock request key fingerprint s
          return (s, result, true)

/-! ## What a successful sale does -/

/-- One sale is committed, the one of the result, with the order of the result if it has one. -/
structure SoldOnce (clock : Clock) (request : SaleRequest) (s s' : Store) (result : SaleResult) : Prop where
  sale : ∃ sale, SaleEffect clock s s' sale ∧ sale.pk = result.transaction ∧
    sale.handledBy = request.user.pk ∧ sale.encodingRequestId = none
  orders : ∃ new, s'.orders.rows = s.orders.rows ++ new ∧ new.map Order.pk = result.order.toList ∧
    ∀ order ∈ new, order.transaction = some result.transaction

theorem createSale_sells {table : CaseTable} {clock : Clock} {request : SaleRequest}
    {s s' : Store} {result : SaleResult}
    (h : createSale table clock request s = .ok (s', result)) :
    SoldOnce clock request s s' result := by
  unfold createSale createSaleWith SaleRequest.checkoutArgs at h
  cases htarget : request.target with
  | checkout customer =>
      rw [htarget] at h
      rcases bind_eq_ok.1 h with ⟨⟨s₁, txn⟩, hcheckout, h⟩
      rcases pure_pair_eq_ok.1 h with ⟨rfl, rfl⟩
      rcases checkout_ok hcheckout with ⟨_, _, _, _, hclose⟩
      rcases checkout_effect hcheckout with ⟨priced, allocation, heffect⟩
      refine ⟨⟨_, heffect, (closeSale_ok hclose).1.symm, rfl, rfl⟩, [], ?_, rfl, by simp⟩
      -- a checkout leaves the orders alone
      rcases closeSale_store hclose with ⟨batches, items, rfl⟩
      exact (List.append_nil _).symm
  | order customer =>
      rw [htarget] at h
      rcases bind_eq_ok.1 h with ⟨⟨s₁, order⟩, hplace, h⟩
      rcases demand_bind_eq_ok.1 h with ⟨row, hrow, h⟩
      rcases demand_bind_eq_ok.1 h with ⟨txn, htxn, h⟩
      rcases pure_pair_eq_ok.1 h with ⟨rfl, rfl⟩
      rcases placeOrder_effect hplace with ⟨priced, allocation, heffect⟩
      rcases placeOrder_linked hplace with ⟨linked, hrows, rfl, _, htransaction⟩
      -- the order that is read again is the one that was placed
      have hlinked : linked ∈ s₁.orders.rows := by
        rw [hrows]
        exact List.mem_append_right _ (List.mem_singleton_self linked)
      have hsame : row = linked := by
        rcases Table.find_eq_some.1 hrow with ⟨hmem, hpk⟩
        exact s₁.orders.eq_of_pk_eq hmem hlinked hpk
      rw [hsame, htransaction] at htxn
      cases htxn
      refine ⟨⟨_, heffect, rfl, rfl, rfl⟩, [linked], hrows, rfl, ?_⟩
      intro order horder
      rw [List.mem_singleton.1 horder]
      exact htransaction

theorem recordSale_ok {request : SaleRequest} {key : Nat} {fingerprint : String}
    {result : SaleResult} {s s' : Store}
    (h : recordSale request key fingerprint result s = .ok s') :
    (∀ row ∈ s.saleSubmissions.rows, ¬ (row.user = request.user.pk ∧ row.requestId = key)) ∧
      s' = { s with
        saleSubmissions := s.saleSubmissions.create
          (newSaleSubmission request key fingerprint result) } := by
  unfold recordSale at h
  rcases require_bind_eq_ok.1 h with ⟨hfresh, h⟩
  rcases require_bind_eq_ok.1 h with ⟨_, h⟩
  rcases require_bind_eq_ok.1 h with ⟨_, h⟩
  exact ⟨hfresh, (pure_eq_ok.1 h).symm⟩

/-- A performed sale is one sale, and one submission row that was not there before. -/
theorem performSale_ok {table : CaseTable} {clock : Clock} {request : SaleRequest} {key : Nat}
    {fingerprint : String} {s s' : Store} {result : SaleResult}
    (h : performSale table clock request key fingerprint s = .ok (s', result)) :
    ∃ s₁, SoldOnce clock request s s₁ result ∧
      (∀ row ∈ s.saleSubmissions.rows, ¬ (row.user = request.user.pk ∧ row.requestId = key)) ∧
      s' = { s₁ with
        saleSubmissions := s.saleSubmissions.create
          (newSaleSubmission request key fingerprint result) } := by
  unfold performSale performSaleWith at h
  rcases bind_eq_ok.1 h with ⟨⟨s₁, result₁⟩, hcreate, h⟩
  rcases bind_eq_ok.1 h with ⟨s₂, hrecord, h⟩
  rcases pure_pair_eq_ok.1 h with ⟨rfl, rfl⟩
  have hsold := createSale_sells hcreate
  rcases recordSale_ok hrecord with ⟨hfresh, rfl⟩
  rcases hsold.sale with ⟨sale, heffect, _⟩
  have hsame := heffect.saleSubmissions
  rw [hsame] at hfresh
  refine ⟨s₁, hsold, hfresh, ?_⟩
  rw [hsame]

end RosarioDairy
