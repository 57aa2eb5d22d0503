import RosarioDairy.Inventory.Adjustment
import RosarioDairy.Inventory.Fefo

/-!
# AdjustmentSubmission — keyed stock adjustments

`submit_stock_adjustment`: a request with a key is answered with the response stored under the user
and the key; otherwise the adjustment is made and its wire response recorded in one transaction.
-/

namespace RosarioDairy

open Foundations

/-- The arguments of `submit_stock_adjustment` but the key. -/
structure AdjustmentRequest where
  adjustmentType : String
  quantity : Int
  unitCost : Int
  adjustedBy : User
  reason : Option String
  productBatch : Option Nat
  deriving DecidableEq, Repr

/-- The payload whose canonical JSON is digested into the fingerprint. -/
structure AdjustmentPayload where
  productBatchId : Nat
  adjustmentType : String
  quantity : Int
  unitCost : Int
  reason : String
  deriving DecidableEq, Repr

def AdjustmentRequest.payload (request : AdjustmentRequest) (batch : Nat) : AdjustmentPayload :=
  { productBatchId := batch
    adjustmentType := request.adjustmentType
    quantity := request.quantity
    unitCost := request.unitCost
    reason := request.reason.getD "" }

def AdjustmentRequest.perform (clock : Clock) (request : AdjustmentRequest) (s : Store) :
    Except Error (Store × StockAdjustment) :=
  createStockAdjustment clock request.adjustmentType request.quantity request.unitCost
    request.adjustedBy request.reason request.productBatch s

/-- `StockAdjustmentSerializer(adjustment).data`. -/
def adjustmentResponse (clock : Clock) (adjustment : StockAdjustment) (s : Store) :
    Except Error AdjustmentResponse := do
  let batch ← demand (s.batches.find adjustment.productBatch) (.doesNotExist "ProductBatch")
  return { adjustment := adjustment
           productBatch := batch
           totalStock := availableStock s clock.today batch.product }

/-- `StockAdjustmentSubmission.objects.filter(user=user, request_id=key).first()`. -/
def previousAdjustment (user key : Nat) (s : Store) : Option StockAdjustmentSubmission :=
  s.adjustmentSubmissions.rows.find? (fun row => row.user = user && row.requestId = key)

def newAdjustmentSubmission (request : AdjustmentRequest) (key : Nat) (fingerprint : String)
    (response : AdjustmentResponse) (pk : Nat) : StockAdjustmentSubmission :=
  { pk := pk
    user := request.adjustedBy.pk
    requestId := key
    fingerprint := fingerprint
    adjustment := response.adjustment.pk
    responseData := response }

/-- `StockAdjustmentSubmission.objects.create`, with its unique constraints. -/
def recordAdjustment (request : AdjustmentRequest) (key : Nat) (fingerprint : String)
    (response : AdjustmentResponse) (s : Store) : Except Error Store := do
  require (∀ row ∈ s.adjustmentSubmissions.rows,
      ¬ (row.user = request.adjustedBy.pk ∧ row.requestId = key))
    (.integrityError "stock_adjustment_user_request_unique")
  require (∀ row ∈ s.adjustmentSubmissions.rows, row.adjustment ≠ response.adjustment.pk)
    (.integrityError "inventory_stockadjustmentsubmission_adjustment_id_key")
  return { s with
    adjustmentSubmissions := s.adjustmentSubmissions.create
      (newAdjustmentSubmission request key fingerprint response) }

/-- The adjustment of a fresh key and its record. -/
def performAdjustment (clock : Clock) (request : AdjustmentRequest) (key : Nat)
    (fingerprint : String) (s : Store) : Except Error (Store × AdjustmentResponse) := do
  let (s, adjustment) ← request.perform clock s
  let response ← adjustmentResponse clock adjustment s
  let s ← recordAdjustment request key fingerprint response s
  return (s, response)

/-- The answer to a key that was used before. -/
def replayAdjustment (fingerprint : String) (previous : StockAdjustmentSubmission) :
    Except Error AdjustmentResponse :=
  if previous.fingerprint ≠ fingerprint then
    .error (.submissionConflict
      "This request ID was already used for a different stock adjustment.")
  else
    .ok previous.responseData

/-- `submit_stock_adjustment` run without concurrent calls; the response and whether the adjustment
was created are returned. -/
def submitStockAdjustment (digest : AdjustmentPayload → String) (clock : Clock)
    (key : Option Nat) (request : AdjustmentRequest) (s : Store) :
    Except Error (Store × AdjustmentResponse × Bool) :=
  match key with
  | none => do
      let (s, adjustment) ← request.perform clock s
      let response ← adjustmentResponse clock adjustment s
      return (s, response, true)
  | some key => do
      let batch ← demand request.productBatch
        (.attributeError "'NoneType' object has no attribute 'pk'")
      let fingerprint := digest (request.payload batch)
      match previousAdjustment request.adjustedBy.pk key s with
      | some previous =>
          let response ← replayAdjustment fingerprint previous
          return (s, response, false)
      | none =>
          let (s, response) ← performAdjustment clock request key fingerprint s
          return (s, response, true)

/-! ## What a successful adjustment does -/

/-- One adjustment is committed, the one of the response, with the stock it moves, and nothing else. -/
structure AdjustedOnce (request : AdjustmentRequest) (s s' : Store) (response : AdjustmentResponse) :
    Prop where
  batch : request.productBatch = some response.adjustment.productBatch
  adjustedBy : response.adjustment.adjustedBy = request.adjustedBy.pk
  quantity : response.adjustment.quantity = request.quantity
  pk : response.adjustment.pk = s.adjustments.next
  adjustments : s'.adjustments.rows = s.adjustments.rows ++ [response.adjustment]
  adjustments_next : s'.adjustments.next = s.adjustments.next + 1
  stock : ∃ batch, s.batches.find response.adjustment.productBatch = some batch ∧
    s' = { s with
      batches := s.batches.put (adjustedBatch batch response.adjustment.adjustmentType request.quantity)
      adjustments := s'.adjustments }

theorem perform_adjusts {clock : Clock} {request : AdjustmentRequest} {s s' : Store}
    {adjustment : StockAdjustment} {response : AdjustmentResponse}
    (h : request.perform clock s = .ok (s', adjustment)) (hresponse : response.adjustment = adjustment) :
    AdjustedOnce request s s' response := by
  have hbatch := createStockAdjustment_batch h
  rcases createStockAdjustment_ok h with ⟨kind, pk, batch, hfind, _, _, _, _, _, hadjustment, rfl⟩
  subst hadjustment
  refine ⟨?_, ?_, ?_, ?_, ?_, rfl, batch, ?_, ?_⟩
  · rw [hresponse]
    exact hbatch
  · rw [hresponse]
    rfl
  · rw [hresponse]
    rfl
  · rw [hresponse]
    rfl
  · rw [hresponse]
    rfl
  · rw [hresponse]
    exact hfind
  · rw [hresponse]
    rfl

/-- A performed adjustment is one adjustment, and one submission row that was not there before. -/
theorem performAdjustment_ok {clock : Clock} {request : AdjustmentRequest} {key : Nat}
    {fingerprint : String} {s s' : Store} {response : AdjustmentResponse}
    (h : performAdjustment clock request key fingerprint s = .ok (s', response)) :
    ∃ s₁, AdjustedOnce request s s₁ response ∧
      (∀ row ∈ s.adjustmentSubmissions.rows,
        ¬ (row.user = request.adjustedBy.pk ∧ row.requestId = key)) ∧
      s' = { s₁ with
        adjustmentSubmissions := s.adjustmentSubmissions.create
          (newAdjustmentSubmission request key fingerprint response) } := by
  unfold performAdjustment recordAdjustment at h
  rcases bind_eq_ok.1 h with ⟨⟨s₁, adjustment⟩, hperform, h⟩
  rcases bind_eq_ok.1 h with ⟨response₁, hresponse, h⟩
  rcases bind_eq_ok.1 h with ⟨s₂, hrecord, h⟩
  rcases pure_pair_eq_ok.1 h with ⟨rfl, rfl⟩
  rcases require_bind_eq_ok.1 hrecord with ⟨hfresh, hrecord⟩
  rcases require_bind_eq_ok.1 hrecord with ⟨_, hrecord⟩
  have hs₂ := pure_eq_ok.1 hrecord
  subst hs₂
  have hadjustment : response₁.adjustment = adjustment := by
    rcases demand_bind_eq_ok.1 hresponse with ⟨batch, _, hresponse⟩
    rw [← pure_eq_ok.1 hresponse]
  have hadjusted := perform_adjusts hperform hadjustment
  have hsame : s₁.adjustmentSubmissions = s.adjustmentSubmissions := by
    rcases hadjusted.stock with ⟨batch, _, hs₁⟩
    rw [hs₁]
  rw [hsame] at hfresh
  refine ⟨s₁, hadjusted, hfresh, ?_⟩
  rw [hsame]

end RosarioDairy
