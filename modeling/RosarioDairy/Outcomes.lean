import RosarioDairy.Operations
import RosarioDairy.Sales.SaleEffect

/-!
# Outcomes — everything a successful operation can do

One inversion for all operations.  `Outcome` lists the changes the services make to the store, each
with the facts its guards establish; invariants are proved by cases on it and never unfold a
service.
-/

namespace RosarioDairy

open Foundations

/-- The operation moves stock at the moment it is entered: it is not a checkout for another date. -/
def Operation.isPhysical : Operation → Bool
  | .checkout args => args.invoiceDate = none
  | .placeOrder _ args => args.invoiceDate = none
  | _ => true

/-- The operation makes a sale. -/
def Operation.sells : Operation → Bool
  | .checkout _ => true
  | .placeOrder _ _ => true
  | .encodeTransaction _ => true
  | _ => false

/-- The operation books a sale under a request id. -/
def Operation.encodes : Operation → Bool
  | .encodeTransaction _ => true
  | _ => false

/-- The change a successful operation makes to the store. -/
inductive Outcome (clock : Clock) (op : Operation) (s : Store) : Store → Prop
  | unchanged : Outcome clock op s s
  | received (attrs : BatchAttrs) (product : Nat) (quantity expirationDate : Int)
      (batchNumber : String) (sequences : List BatchSequence)
      (hquantity : 1 ≤ quantity)
      (hexpiration : attrs.dateReceived.getD clock.today ≤ expirationDate)
      (hreceived : attrs.dateReceived.getD clock.today ≤ clock.today) :
      Outcome clock op s { s with
        batchSequences := sequences
        batches := s.batches.create
          (newBatch clock attrs product quantity expirationDate batchNumber) }
  | edited (batch : Nat) (current : ProductBatch) (attrs : BatchAttrs)
      (hfind : s.batches.find batch = some current)
      (hexpiration : (editedBatch current attrs).dateReceived ≤
        (editedBatch current attrs).expirationDate)
      (hreceived : (editedBatch current attrs).dateReceived ≤ clock.today) :
      Outcome clock op s { s with batches := s.batches.put (editedBatch current attrs) }
  -- checkout, order and encoding sell alike, and differ in what dates the sale
  | sold (s' : Store) (sale : Transaction) (heffect : SaleEffect clock s s' sale)
      (hmovement : op.isPhysical → sale.movementAt = clock.now)
      (hencoding : op.encodes = false → sale.encodingRequestId = none)
      (hsells : op.sells = true) :
      Outcome clock op s s'
  | adjusted (kind : AdjustmentType) (pk : Nat) (batch : ProductBatch) (quantity unitCost : Int)
      (reason : Option String) (adjustedBy : User)
      (hfind : s.batches.find pk = some batch)
      (hkind : kind ≠ .correction → 0 < quantity)
      (hstatus : batch.status ≠ .disposed)
      (hreceived : batch.dateReceived ≤ clock.today)
      (henough : 0 < quantity → quantity ≤ batch.remainingQuantity)
      (hcap : batch.remainingQuantity - quantity ≤ batch.initialQuantity) :
      Outcome clock op s { s with
        batches := s.batches.put (adjustedBatch batch kind quantity)
        adjustments := s.adjustments.create
          (newAdjustment clock pk kind quantity unitCost reason adjustedBy) }
  -- the lines are given back first, then the sale and its orders are written
  | voided (sale : Transaction) (s₁ : Store) (skipped : List String) (voidedBy : Option User)
      (reason : String)
      (hfind : s.transactions.find sale.pk = some sale)
      (hlocal : sale.isImported = false)
      (hlive : sale.isVoided = false)
      (hitems : (voidOrder s sale.pk).foldlM (voidItem clock) (s, []) = .ok (s₁, skipped)) :
      Outcome clock op s { s₁ with
        transactions := s.transactions.put (voidedTransaction clock voidedBy reason sale)
        orders := cancelOrders sale.pk (voidWarning skipped) s.orders }
  | paid (sale : Transaction) (user : User) (method status : String)
      (tendered : Option DecimalInput) (values : PaymentValues)
      (hfind : s.transactions.find sale.pk = some sale)
      (hlive : sale.isVoided = false)
      (hstatus : sale.paymentStatus ≠ .paid)
      (hvalues : paymentValues sale.totalAmount method status tendered = .ok values) :
      Outcome clock op s { s with
        transactions := s.transactions.put (paidTransaction clock user sale values) }

theorem voidTransaction_outcome {clock : Clock} {op : Operation} {saleId : Nat}
    {voidedBy : Option User} {reason : String} {s s' : Store} {skipped : List String}
    (h : voidTransaction clock saleId voidedBy reason s = .ok (s', skipped)) :
    Outcome clock op s s' := by
  rcases voidTransaction_ok h with ⟨sale, s₁, hfind, hlocal, hlive, hitems, rfl⟩
  have hpk : sale.pk = saleId := (Table.find_eq_some.1 hfind).2
  subst hpk
  exact .voided sale s₁ skipped voidedBy reason hfind hlocal hlive hitems

/-- The sale of the moment is dated at the moment. -/
theorem newTransaction_movementAt {clock : Clock} {args : SaleArgs} {priced : PricedSale}
    {allocation : Allocation} {pk : Nat} (h : args.invoiceDate = none) :
    (newTransaction clock args priced allocation pk).movementAt = clock.now := by
  simp [Transaction.movementAt, newTransaction, effectiveAt, businessDate, h]

/-- Every successful operation has one of the listed outcomes. -/
theorem perform_outcome {env : Deployment} {now : Int} {op : Operation} {s s' : Store}
    (h : perform env now op s = .ok s') : Outcome { zone := env.zone, now := now } op s s' := by
  cases op with
  | createBatch request input =>
      rcases map_fst_eq_ok.1 h with ⟨batch, hcreate⟩
      rcases createBatch_ok hcreate with
        ⟨attrs, product, quantity, expirationDate, batchNumber, sequences, hquantity, hexpiration,
          hreceived, rfl⟩
      exact .received attrs product quantity expirationDate batchNumber sequences hquantity
        hexpiration hreceived
  | updateBatch request full batch input =>
      rcases map_fst_eq_ok.1 h with ⟨edited, hupdate⟩
      rcases updateBatch_ok hupdate with ⟨current, attrs, hfind, rfl, hexpiration, hreceived, rfl⟩
      exact .edited batch current attrs hfind hexpiration hreceived
  | checkout args =>
      rcases map_fst_eq_ok.1 h with ⟨txn, hcheckout⟩
      rcases checkout_effect hcheckout with ⟨priced, allocation, heffect⟩
      refine .sold s' _ heffect ?_ (fun _ => rfl) rfl
      -- a sale dated by hand is no movement of today
      intro hphysical
      have hdate : args.invoiceDate = none := by simpa [Operation.isPhysical] using hphysical
      exact newTransaction_movementAt hdate
  | placeOrder customer args =>
      rcases map_fst_eq_ok.1 h with ⟨order, hplace⟩
      rcases placeOrder_effect hplace with ⟨priced, allocation, heffect⟩
      refine .sold s' _ heffect ?_ (fun _ => rfl) rfl
      intro hphysical
      have hdate : args.invoiceDate = none := by simpa [Operation.isPhysical] using hphysical
      exact newTransaction_movementAt hdate
  | encodeTransaction args =>
      rcases map_fst_eq_ok.1 h with ⟨⟨txn, created⟩, hencode⟩
      rcases encodeTransaction_ok hencode with ⟨requestId, fingerprint, _, hcases⟩
      rcases hcases with ⟨_, _, _, rfl, _, _⟩ | ⟨_, _, hwrite⟩
      · -- a replayed encoding changes nothing
        exact .unchanged
      · rcases writeEncoded_effect hwrite with ⟨sale, _, _, _, heffect⟩
        exact .sold s' _ heffect (fun _ => rfl) (fun hop => by cases hop) rfl
  | createStockAdjustment adjustmentType quantity unitCost adjustedBy reason productBatch =>
      rcases map_fst_eq_ok.1 h with ⟨adjustment, hadjust⟩
      rcases createStockAdjustment_ok hadjust with
        ⟨kind, pk, batch, hfind, hkind, hstatus, hreceived, henough, hcap, _, rfl⟩
      exact .adjusted kind pk batch quantity unitCost reason adjustedBy hfind hkind hstatus hreceived
        henough hcap
  | voidTransaction saleId voidedBy reason =>
      rcases map_fst_eq_ok.1 h with ⟨skipped, hvoid⟩
      exact voidTransaction_outcome hvoid
  | voidFulfilledOrder order voidedBy reason =>
      rcases map_fst_eq_ok.1 h with ⟨skipped, hcancel⟩
      rcases voidFulfilledOrder_ok hcancel with ⟨saleId, _, hvoid⟩
      exact voidTransaction_outcome hvoid
  | cancelOrder order voidedBy reason =>
      rcases map_fst_eq_ok.1 h with ⟨skipped, hcancel⟩
      rcases cancelOrder_ok hcancel with ⟨row, saleId, _, _, hvoid⟩
      exact voidTransaction_outcome hvoid
  | updateEncodingPayment saleId user paymentStatus details =>
      rcases map_fst_eq_ok.1 h with ⟨saved, hupdate⟩
      rcases updateEncodingPayment_ok hupdate with ⟨sale, hfind, _, hlive, hcases⟩
      have hpk : sale.pk = saleId := (Table.find_eq_some.1 hfind).2
      subst hpk
      rcases hcases with ⟨_, rfl⟩ | ⟨hstatus, values, hvalues, ⟨_, rfl⟩ | ⟨_, rfl⟩⟩
      · exact .unchanged
      · exact .unchanged
      · exact .paid sale user _ paymentStatus _ values hfind hlive hstatus hvalues

/-- The run lemma in terms of outcomes. -/
theorem replay_outcome {P : Store → Prop} {env : Deployment}
    (hstep : ∀ now op s s', P s → Outcome { zone := env.zone, now := now } op s s' → P s')
    (history : List Call) {s : Store} (hs : P s) : P (replay env s history) :=
  replay_preserves (fun now op s s' hs h => hstep now op s s' hs (perform_outcome h)) history hs

end RosarioDairy
