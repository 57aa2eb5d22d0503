import RosarioDairy.Outcomes
import RosarioDairy.Sales.InvoiceNumbers
import RosarioDairy.Sales.Submission

/-!
# SaleRoutes — the ways to a sale

A sale is made by a checkout alone, or by an order, a keyed submission or an encoding request around
one.  Whatever the route does before and after its checkout, it leaves the invoice numbers alone.
-/

namespace RosarioDairy

open Foundations

inductive SaleRoute
  | checkout (args : SaleArgs)
  | order (customer : Customer) (args : SaleArgs)
  | submission (request : SaleRequest) (key : Nat) (fingerprint : String)
  | encoding (args : EncodeArgs) (requestId : Nat) (fingerprint : String)

namespace SaleRoute

/-- The arguments of the checkout on the route. -/
def checkoutArgs : SaleRoute → SaleArgs
  | .checkout args => args
  | .order customer args => args.forCustomer customer
  | .submission request _ _ => request.checkoutArgs
  | .encoding args _ _ => args.checkoutArgs

/-- The route around its checkout `sell`. -/
def runWith (sell : Store → Except Error (Store × Nat)) (clock : Clock) (s : Store) :
    SaleRoute → Except Error Store
  | .checkout _ => (sell s).map Prod.fst
  | .order customer args => (placeOrderWith sell clock customer args s).map Prod.fst
  | .submission request key fingerprint =>
      (performSaleWith sell clock request key fingerprint s).map Prod.fst
  | .encoding args requestId fingerprint =>
      (writeEncodedWith sell clock args requestId fingerprint s).map Prod.fst

/-- The service function of the route. -/
def run (table : CaseTable) (clock : Clock) (route : SaleRoute) (s : Store) : Except Error Store :=
  route.runWith (RosarioDairy.checkout table clock route.checkoutArgs) clock s

end SaleRoute

/-! ## What a route does to the numbers -/

section Routes

variable {sell : Store → Except Error (Store × Nat)} {clock : Clock} {s s' : Store}

/-- The stores before and after a route differ from those of its checkout in other columns than the
numbers. -/
def SellsWithin (sell : Store → Except Error (Store × Nat)) (s s' : Store) : Prop :=
  ∃ s₁ s₂ txn, sell s₁ = .ok (s₂, txn) ∧ SameInvoices s s₁ ∧ SameInvoices s₂ s'

theorem SellsWithin.later {s'' : Store} (h : SellsWithin sell s s')
    (hsame : SameInvoices s' s'') : SellsWithin sell s s'' := by
  rcases h with ⟨s₁, s₂, txn, hsell, hbefore, hafter⟩
  exact ⟨s₁, s₂, txn, hsell, hbefore, hafter.trans hsame⟩

theorem placeOrderWith_sells {customer : Customer} {args : SaleArgs} {order : Nat}
    (h : placeOrderWith sell clock customer args s = .ok (s', order)) :
    SellsWithin sell s s' := by
  unfold placeOrderWith at h
  rcases bind_eq_ok.1 h with ⟨_, _, h⟩
  rcases bind_eq_ok.1 h with ⟨lines, _, h⟩
  rcases bind_eq_ok.1 h with ⟨⟨s₂, txn⟩, hsell, h⟩
  rcases demand_bind_eq_ok.1 h with ⟨row, _, h⟩
  rcases demand_bind_eq_ok.1 h with ⟨sale, _, h⟩
  rcases pure_pair_eq_ok.1 h with ⟨rfl, _⟩
  exact ⟨_, s₂, txn, hsell, ⟨rfl, rfl⟩, ⟨rfl, rfl⟩⟩

theorem createSaleWith_sells {request : SaleRequest} {result : SaleResult}
    (h : createSaleWith sell clock request s = .ok (s', result)) : SellsWithin sell s s' := by
  unfold createSaleWith at h
  split at h
  · rcases bind_eq_ok.1 h with ⟨⟨s₂, txn⟩, hsell, h⟩
    rcases pure_pair_eq_ok.1 h with ⟨rfl, _⟩
    exact ⟨s, s₂, txn, hsell, .refl s, .refl s₂⟩
  · rcases bind_eq_ok.1 h with ⟨⟨s₂, order⟩, hplace, h⟩
    rcases demand_bind_eq_ok.1 h with ⟨_, _, h⟩
    rcases demand_bind_eq_ok.1 h with ⟨_, _, h⟩
    rcases pure_pair_eq_ok.1 h with ⟨rfl, _⟩
    exact placeOrderWith_sells hplace

theorem performSaleWith_sells {request : SaleRequest} {key : Nat} {fingerprint : String}
    {result : SaleResult}
    (h : performSaleWith sell clock request key fingerprint s = .ok (s', result)) :
    SellsWithin sell s s' := by
  unfold performSaleWith at h
  rcases bind_eq_ok.1 h with ⟨⟨s₁, result₁⟩, hcreate, h⟩
  rcases bind_eq_ok.1 h with ⟨s₂, hrecord, h⟩
  rcases pure_pair_eq_ok.1 h with ⟨rfl, _⟩
  rcases recordSale_ok hrecord with ⟨_, rfl⟩
  exact (createSaleWith_sells hcreate).later ⟨rfl, rfl⟩

theorem encodedSaleWith_sells {args : EncodeArgs} {txn : Nat}
    (h : encodedSaleWith sell clock args s = .ok (s', txn)) : SellsWithin sell s s' := by
  unfold encodedSaleWith at h
  split at h
  · rcases bind_eq_ok.1 h with ⟨⟨s₂, order⟩, hplace, h⟩
    rcases demand_bind_eq_ok.1 h with ⟨_, _, h⟩
    rcases demand_bind_eq_ok.1 h with ⟨_, _, h⟩
    rcases pure_pair_eq_ok.1 h with ⟨rfl, _⟩
    exact placeOrderWith_sells hplace
  · exact ⟨s, s', txn, h, .refl s, .refl s'⟩

theorem writeEncodedWith_sells {args : EncodeArgs} {requestId : Nat} {fingerprint : String}
    {txn : Nat} (h : writeEncodedWith sell clock args requestId fingerprint s = .ok (s', txn)) :
    SellsWithin sell s s' := by
  rcases writeEncodedWith_ok h with ⟨s₁, sale, hsale, hfind, _, rfl⟩
  have hpk : sale.pk = txn := (Table.find_eq_some.1 hfind).2
  subst hpk
  refine (encodedSaleWith_sells hsale).later ⟨rfl, ?_⟩
  exact s₁.transactions.map_rows_put
    (encodedTransaction clock args requestId fingerprint sale) hfind rfl

/-- Every route sells within the numbers it finds. -/
theorem SaleRoute.runWith_sells {route : SaleRoute} (h : route.runWith sell clock s = .ok s') :
    SellsWithin sell s s' := by
  cases route with
  | checkout args =>
      rcases map_fst_eq_ok.1 h with ⟨txn, hsell⟩
      exact ⟨s, s', txn, hsell, .refl s, .refl s'⟩
  | order customer args =>
      rcases map_fst_eq_ok.1 h with ⟨order, hplace⟩
      exact placeOrderWith_sells hplace
  | submission request key fingerprint =>
      rcases map_fst_eq_ok.1 h with ⟨result, hperform⟩
      exact performSaleWith_sells hperform
  | encoding args requestId fingerprint =>
      rcases map_fst_eq_ok.1 h with ⟨txn, hwrite⟩
      exact writeEncodedWith_sells hwrite

/-- A route hands its checkout a store with the transactions and the counters it began with. -/
theorem SaleRoute.runWith_congr {sell' : Store → Except Error (Store × Nat)} (route : SaleRoute)
    (h : ∀ t : Store, t.transactions = s.transactions →
      t.invoiceSequences = s.invoiceSequences → sell t = sell' t) :
    route.runWith sell clock s = route.runWith sell' clock s := by
  have hplace : ∀ customer args, placeOrderWith sell clock customer args s =
      placeOrderWith sell' clock customer args s := by
    intro customer args
    have hsell : ∀ orders orderItems,
        sell { s with orders := orders, orderItems := orderItems } =
          sell' { s with orders := orders, orderItems := orderItems } :=
      fun _ _ => h _ rfl rfl
    simp only [placeOrderWith, hsell]
  cases route with
  | checkout args => simp only [SaleRoute.runWith, h s rfl rfl]
  | order customer args => simp only [SaleRoute.runWith, hplace]
  | submission request key fingerprint =>
      simp only [SaleRoute.runWith, performSaleWith, createSaleWith, hplace, h s rfl rfl]
  | encoding args requestId fingerprint =>
      simp only [SaleRoute.runWith, writeEncodedWith, encodedSaleWith, hplace, h s rfl rfl]

/-- A route whose checkout fails leaves the store as it was. -/
theorem SaleRoute.settle_runWith_error (route : SaleRoute) (e : Error) :
    settle s (route.runWith (fun _ => .error e) clock s) = s := by
  cases hrun : route.runWith (fun _ => .error e) clock s with
  | error e' => rfl
  | ok s' =>
      rcases route.runWith_sells hrun with ⟨_, _, _, hsell, _⟩
      cases hsell

end Routes

/-- Service calls that do not sell leave the numbers alone. -/
theorem Outcome.sameInvoices {clock : Clock} {op : Operation} {s s' : Store}
    (hop : op.sells = false) (h : Outcome clock op s s') : SameInvoices s s' := by
  cases h with
  | unchanged => exact .refl s
  | received => exact ⟨rfl, rfl⟩
  | edited => exact ⟨rfl, rfl⟩
  | sold s' sale heffect hmovement hencoding hsells =>
      rw [hop] at hsells
      cases hsells
  | adjusted => exact ⟨rfl, rfl⟩
  | voided sale s₁ skipped voidedBy reason hfind hlocal hlive hitems =>
      rcases voidItems_store hitems with ⟨batches, returns, rfl⟩
      refine ⟨rfl, ?_⟩
      exact s.transactions.map_rows_put
        (voidedTransaction clock voidedBy reason sale) hfind rfl
  | paid sale user method status tendered values hfind =>
      refine ⟨rfl, ?_⟩
      exact s.transactions.map_rows_put (paidTransaction clock user sale values) hfind rfl

theorem sameInvoices_step (env : Deployment) (s : Store) (call : Call)
    (hop : call.op.sells = false) : SameInvoices s (step env s call) := by
  unfold step
  cases hperform : perform env call.now call.op s with
  | error e => exact .refl s
  | ok s' => exact (perform_outcome hperform).sameInvoices hop

end RosarioDairy
