import RosarioDairy.Store

/-!
# Adjustment — recording stock adjustments

`create_stock_adjustment`: positive quantities leave the batch, negative corrections put stock
back up to the initial quantity, and the status follows the stock that is left.
-/

namespace RosarioDairy

open Foundations

/-- The status an adjustment of the given type leaves a batch in. -/
def adjustedStatus (kind : AdjustmentType) (remaining : Int) (status : BatchStatus) :
    BatchStatus :=
  if remaining ≤ 0 then
    if kind = .spoilage ∨ kind = .expired then .disposed else .depleted
  else if kind = .correction ∧ status = .depleted then
    .available
  else
    status

/-- The batch row an accepted adjustment saves. -/
def adjustedBatch (batch : ProductBatch) (kind : AdjustmentType) (quantity : Int) : ProductBatch :=
  let remaining := batch.remainingQuantity - quantity
  { batch with
    remainingQuantity := if remaining ≤ 0 then 0 else remaining
    status := adjustedStatus kind remaining batch.status }

/-- The batch is marked expired or past its date. -/
def ProductBatch.isPastDate (today : Int) (batch : ProductBatch) : Bool :=
  batch.status = .expired ∨ batch.expirationDate < today

/-- The adjustment row an accepted adjustment inserts under the key `pk`. -/
def newAdjustment (clock : Clock) (productBatch : Nat) (kind : AdjustmentType)
    (quantity unitCost : Int) (reason : Option String) (adjustedBy : User) (pk : Nat) :
    StockAdjustment :=
  { pk := pk
    productBatch := productBatch
    adjustmentType := kind
    quantity := quantity
    unitCost := unitCost
    reason := reason
    adjustedBy := adjustedBy.pk
    createdAt := clock.now }

/-- `create_stock_adjustment`. -/
def createStockAdjustment (clock : Clock) (adjustmentType : String) (quantity unitCost : Int)
    (adjustedBy : User) (reason : Option String) (productBatch : Option Nat) (s : Store) :
    Except Error (Store × StockAdjustment) := do
  let kind ← demand (AdjustmentType.ofValue? adjustmentType)
    (.valueError "Invalid adjustment_type.")
  let pk ← demand productBatch (.valueError "product_batch must be provided.")
  require (kind ≠ .correction → 0 < quantity)
    (.valueError "Adjustment quantity must be greater than zero.")
  let batch ← demand (s.batches.find pk) (.doesNotExist "ProductBatch")
  require (¬ (batch.status = .disposed ∨
      (batch.isPastDate clock.today = true ∧ ¬ (kind = .expired ∨ kind = .spoilage))))
    (.valueError ("Batch " ++ batch.batchNumber ++ " is " ++ batch.status.text ++
      " and cannot be adjusted."))
  require (batch.dateReceived ≤ clock.today)
    (.valueError "Stock cannot be adjusted before its receipt date.")
  require (0 < quantity → quantity ≤ batch.remainingQuantity)
    (.valueError ("Adjustment quantity (" ++ Amount.text quantity ++
      ") exceeds remaining stock (" ++ Amount.text batch.remainingQuantity ++ ") for batch " ++
      batch.batchNumber ++ "."))
  require (batch.remainingQuantity - quantity ≤ batch.initialQuantity)
    (.valueError ("Correction would set remaining stock (" ++
      Amount.text (batch.remainingQuantity - quantity) ++
      ") above the batch's initial quantity (" ++ Amount.text batch.initialQuantity ++
      ") for batch " ++ batch.batchNumber ++ "."))
  let mk := newAdjustment clock pk kind quantity unitCost reason adjustedBy
  return ({ s with
    batches := s.batches.put (adjustedBatch batch kind quantity)
    adjustments := s.adjustments.create mk }, mk s.adjustments.next)

/-- What a successful adjustment does: the batch row and one adjustment row change, and the guards
leave the corrected stock between zero and the initial quantity. -/
theorem createStockAdjustment_ok {clock : Clock} {adjustmentType : String} {quantity unitCost : Int}
    {adjustedBy : User} {reason : Option String} {productBatch : Option Nat} {s s' : Store}
    {adjustment : StockAdjustment}
    (h : createStockAdjustment clock adjustmentType quantity unitCost adjustedBy reason productBatch
      s = .ok (s', adjustment)) :
    ∃ kind pk batch,
      s.batches.find pk = some batch ∧
      (kind ≠ .correction → 0 < quantity) ∧
      batch.status ≠ .disposed ∧
      batch.dateReceived ≤ clock.today ∧
      (0 < quantity → quantity ≤ batch.remainingQuantity) ∧
      batch.remainingQuantity - quantity ≤ batch.initialQuantity ∧
      adjustment = newAdjustment clock pk kind quantity unitCost reason adjustedBy
        s.adjustments.next ∧
      s' = { s with
        batches := s.batches.put (adjustedBatch batch kind quantity)
        adjustments := s.adjustments.create
          (newAdjustment clock pk kind quantity unitCost reason adjustedBy) } := by
  unfold createStockAdjustment at h
  -- each guard of the service, in the order in which it checks them
  rcases demand_bind_eq_ok.1 h with ⟨kind, _, h⟩
  rcases demand_bind_eq_ok.1 h with ⟨pk, _, h⟩
  rcases require_bind_eq_ok.1 h with ⟨hpositive, h⟩
  rcases demand_bind_eq_ok.1 h with ⟨batch, hbatch, h⟩
  rcases require_bind_eq_ok.1 h with ⟨hstatus, h⟩
  rcases require_bind_eq_ok.1 h with ⟨hreceived, h⟩
  rcases require_bind_eq_ok.1 h with ⟨henough, h⟩
  rcases require_bind_eq_ok.1 h with ⟨hcap, h⟩
  rcases pure_pair_eq_ok.1 h with ⟨hs', hadjustment⟩
  exact ⟨kind, pk, batch, hbatch, hpositive, fun hdisposed => hstatus (.inl hdisposed), hreceived,
    henough, hcap, hadjustment.symm, hs'.symm⟩

/-- The adjustment is of the batch that was named. -/
theorem createStockAdjustment_batch {clock : Clock} {adjustmentType : String} {quantity unitCost : Int}
    {adjustedBy : User} {reason : Option String} {productBatch : Option Nat} {s s' : Store}
    {adjustment : StockAdjustment}
    (h : createStockAdjustment clock adjustmentType quantity unitCost adjustedBy reason productBatch
      s = .ok (s', adjustment)) : productBatch = some adjustment.productBatch := by
  unfold createStockAdjustment at h
  rcases demand_bind_eq_ok.1 h with ⟨kind, _, h⟩
  rcases demand_bind_eq_ok.1 h with ⟨pk, hpk, h⟩
  rcases require_bind_eq_ok.1 h with ⟨_, h⟩
  rcases demand_bind_eq_ok.1 h with ⟨batch, _, h⟩
  rcases require_bind_eq_ok.1 h with ⟨_, h⟩
  rcases require_bind_eq_ok.1 h with ⟨_, h⟩
  rcases require_bind_eq_ok.1 h with ⟨_, h⟩
  rcases require_bind_eq_ok.1 h with ⟨_, h⟩
  rcases pure_pair_eq_ok.1 h with ⟨_, rfl⟩
  exact hpk

end RosarioDairy
