import RosarioDairy.Inventory.BatchSerializer
import RosarioDairy.Inventory.Adjustment
import RosarioDairy.Sales.Encoding

/-!
# Operations — histories of service calls

The writers of the shared store as one type of operations.  A history lists calls with the instant
each one reads from the clock; a call that raises leaves the store as it found it.
-/

namespace RosarioDairy

open Foundations

/-- What a deployment fixes: its time zone, the case table of its text functions and the digest of
encoding payloads. -/
structure Deployment where
  zone : Zone
  table : CaseTable
  digest : EncodingPayload → String

/-- A deployment with plain ASCII text functions and days that start at multiples of 86400. -/
def Deployment.plain (digest : EncodingPayload → String) : Deployment :=
  { zone := Zone.fixed
    table := CaseTable.ascii
    digest := digest }

/-- A store with one batch of ten units and one sale of three units from it. -/
def Store.oneSale (remaining : Int) (status : BatchStatus) (sourceReference : Option String) :
    Store :=
  { Store.empty Table.empty Table.empty with
    batches := Table.empty.create fun pk =>
      { pk := pk
        product := 1
        batchNumber := "PRD-2402-001"
        grade := none
        unitPrice := none
        initialQuantity := 1000
        remainingQuantity := remaining
        expirationDate := 9
        dateReceived := 1
        status := status
        isHistoricalReference := false
        notes := none
        createdAt := 86400 }
    transactions := Table.empty.create fun pk =>
      { pk := pk
        handledBy := 1
        customer := none
        subtotal := 300
        totalAmount := 300
        amountTendered := some 300
        changeDue := some 0
        paymentMethod := .cash
        paymentStatus := .paid
        paymentUpdatedAt := some 86400
        paymentUpdatedBy := some 1
        isVoided := false
        voidedAt := none
        voidedBy := none
        voidReason := ""
        sourceReference := sourceReference
        sourceInvoiceNumber := some "SI0001"
        invoiceYear := some 1
        invoiceNumberSource := .legacy
        sourceCustomerLabel := ""
        sourceNote := ""
        createdAt := 86400
        encodedAt := none
        encodingRequestId := none
        encodingPayloadHash := "" }
    items := Table.empty.create fun pk =>
      { pk := pk
        transaction := 1
        productBatch := 1
        quantity := 300
        unitPrice := 100
        lineNumber := some 1
        subtotal := some 300
        totalAmount := some 300
        productIdSnapshot := some 1
        productNameSnapshot := none
        productVariantSnapshot := none
        categoryIdSnapshot := none
        categoryNameSnapshot := none } }

inductive Operation
  | createBatch (request : Option Role) (input : BatchInput)
  | updateBatch (request : Option Role) (full : Bool) (batch : Nat) (input : BatchInput)
  | checkout (args : SaleArgs)
  | placeOrder (customer : Customer) (args : SaleArgs)
  | encodeTransaction (args : EncodeArgs)
  | createStockAdjustment (adjustmentType : String) (quantity unitCost : Int) (adjustedBy : User)
      (reason : Option String) (productBatch : Option Nat)
  | voidTransaction (saleId : Nat) (voidedBy : Option User) (reason : String)
  | voidFulfilledOrder (order : Order) (voidedBy : Option User) (reason : String)
  | cancelOrder (order : Nat) (voidedBy : Option User) (reason : String)
  | updateEncodingPayment (saleId : Nat) (user : User) (paymentStatus : String)
      (details : PaymentDetails)

/-- Run one operation at the instant `now`. -/
def perform (env : Deployment) (now : Int) (op : Operation) (s : Store) : Except Error Store :=
  let clock : Clock := { zone := env.zone, now := now }
  match op with
  | .createBatch request input => (createBatch clock request input s).map Prod.fst
  | .updateBatch request full batch input =>
      (updateBatch clock request full batch input s).map Prod.fst
  | .checkout args => (checkout env.table clock args s).map Prod.fst
  | .placeOrder customer args => (placeOrder env.table clock customer args s).map Prod.fst
  | .encodeTransaction args =>
      (encodeTransaction env.table env.digest clock args s).map Prod.fst
  | .createStockAdjustment adjustmentType quantity unitCost adjustedBy reason productBatch =>
      (createStockAdjustment clock adjustmentType quantity unitCost adjustedBy reason productBatch
        s).map Prod.fst
  | .voidTransaction saleId voidedBy reason =>
      (voidTransaction clock saleId voidedBy reason s).map Prod.fst
  | .voidFulfilledOrder order voidedBy reason =>
      (voidFulfilledOrder clock order voidedBy reason s).map Prod.fst
  | .cancelOrder order voidedBy reason =>
      (cancelOrder clock order voidedBy reason s).map Prod.fst
  | .updateEncodingPayment saleId user paymentStatus details =>
      (updateEncodingPayment clock saleId user paymentStatus details s).map Prod.fst

/-- An operation with the instant it runs at. -/
structure Call where
  now : Int
  op : Operation

/-- One call of a history: a raised error rolls the store back. -/
def step (env : Deployment) (s : Store) (call : Call) : Store :=
  settle s (perform env call.now call.op s)

/-- The store a history leads to. -/
def replay (env : Deployment) (s : Store) (history : List Call) : Store :=
  runAll (step env) s history

/-- The run lemma for histories: what every successful operation keeps, every history keeps. -/
theorem replay_preserves {P : Store → Prop} {env : Deployment}
    (hstep : ∀ now op s s', P s → perform env now op s = .ok s' → P s')
    (history : List Call) {s : Store} (hs : P s) : P (replay env s history) :=
  runAll_preserves
    (fun s call hs => settle_preserves (fun s' h => hstep call.now call.op s s' hs h) hs)
    history hs

end RosarioDairy
