import RosarioDairy.Foundations.Table
import RosarioDairy.Calendar
import RosarioDairy.Config.ApiInputs

/-!
# Models — the inventory rows

The rows of the inventory application, with the columns its services read or write.  Quantities
and prices count hundredths, dates are ordinals, timestamps are instants.
-/

namespace RosarioDairy

open Foundations

inductive Role
  | admin
  | staff
  deriving DecidableEq, Repr

/-- The account a service acts for. -/
structure User where
  pk : Nat
  role : Role
  deriving DecidableEq, Repr

structure Category where
  pk : Nat
  name : String
  isActive : Bool
  isVisibleToStaff : Bool
  deriving DecidableEq, Repr

instance : Row Category := ⟨Category.pk⟩

structure Product where
  pk : Nat
  category : Nat
  name : String
  unit : String
  variant : Option String
  isActive : Bool
  deriving DecidableEq, Repr

instance : Row Product := ⟨Product.pk⟩

inductive Grade
  | A
  | B
  deriving DecidableEq, Repr

/-- `ProductBatch.STATUS_TYPES`. -/
inductive BatchStatus
  | available
  | depleted
  | expired
  | disposed
  deriving DecidableEq, Repr

def BatchStatus.text : BatchStatus → String
  | .available => "available"
  | .depleted => "depleted"
  | .expired => "expired"
  | .disposed => "disposed"

structure ProductBatch where
  pk : Nat
  product : Nat
  batchNumber : String
  grade : Option Grade
  unitPrice : Option Int
  initialQuantity : Int
  remainingQuantity : Int
  expirationDate : Int
  dateReceived : Int
  status : BatchStatus
  isHistoricalReference : Bool
  notes : Option String
  createdAt : Int
  deriving DecidableEq, Repr

instance : Row ProductBatch := ⟨ProductBatch.pk⟩

/-- The counter of batch numbers of one code, year and month. -/
structure BatchSequence where
  code : String
  year : Nat
  month : Nat
  lastSeq : Nat
  deriving DecidableEq, Repr

/-- `StockAdjustment.ADJUSTMENT_TYPES`. -/
inductive AdjustmentType
  | expired
  | spoilage
  | complimentary
  | freeTaste
  | spillage
  | tasteTest
  | processingUse
  | correction
  deriving DecidableEq, Repr

namespace AdjustmentType

/-- The stored value and the label of every adjustment type, in declaration order. -/
def choices : List (AdjustmentType × String × String) :=
  [(.expired, "expired", "Expired"),
   (.spoilage, "spoilage", "Spoilage"),
   (.complimentary, "complimentary", "Complimentary"),
   (.freeTaste, "free_taste", "Free Taste"),
   (.spillage, "spillage", "Spillage"),
   (.tasteTest, "taste_test", "Taste Test Rejection"),
   (.processingUse, "processing_use", "Used for Processing"),
   (.correction, "correction", "Correction")]

/-- The adjustment type a stored value names. -/
def ofValue? (value : String) : Option AdjustmentType :=
  (choices.find? (fun choice => choice.2.1 = value)).map Prod.fst

/-- `get_adjustment_type_display`. -/
def display (kind : AdjustmentType) : String :=
  ((choices.find? (fun choice => choice.1 = kind)).map (fun choice => choice.2.2)).getD ""

example : ofValue? "free_taste" = some .freeTaste := by decide

end AdjustmentType

structure StockAdjustment where
  pk : Nat
  productBatch : Nat
  adjustmentType : AdjustmentType
  quantity : Int
  unitCost : Int
  reason : Option String
  adjustedBy : Nat
  createdAt : Int
  deriving DecidableEq, Repr

instance : Row StockAdjustment := ⟨StockAdjustment.pk⟩

/-- The wire response of a recorded adjustment: the row, its batch as saved with it and the
sellable stock of the batch's product. -/
structure AdjustmentResponse where
  adjustment : StockAdjustment
  productBatch : ProductBatch
  totalStock : Int
  deriving DecidableEq, Repr

/-- Durable identity and response of a keyed inventory adjustment. -/
structure StockAdjustmentSubmission where
  pk : Nat
  user : Nat
  requestId : Nat
  fingerprint : String
  adjustment : Nat
  responseData : AdjustmentResponse
  deriving DecidableEq, Repr

instance : Row StockAdjustmentSubmission := ⟨StockAdjustmentSubmission.pk⟩

end RosarioDairy
