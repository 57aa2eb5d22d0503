import Mathlib.Data.List.Sort
import RosarioDairy.Store

/-!
# Fefo — deducting stock first expired, first out

`deduct_product_batch` locks the sellable batches of a product in expiration order and takes the
requested quantity from them greedily.  `expired_stock_filter` and `_available_stock` are the
filters that read the same columns.
-/

namespace RosarioDairy

open Foundations

namespace ProductBatch

/-- The filter of `deduct_product_batch` and `_available_stock`, without the product. -/
def isSellable (today : Int) (batch : ProductBatch) : Bool :=
  batch.status = .available ∧ today ≤ batch.expirationDate ∧ batch.dateReceived ≤ today

/-- `expired_stock_filter`. -/
def isExpiredStock (today : Int) (batch : ProductBatch) : Bool :=
  (0 < batch.remainingQuantity ∧ batch.dateReceived ≤ today) ∧
    (batch.status = .expired ∨ (batch.status = .available ∧ batch.expirationDate < today))

/-- `order_by('expiration_date', 'pk')`. -/
def expiresBefore (a b : ProductBatch) : Prop :=
  a.expirationDate < b.expirationDate ∨ (a.expirationDate = b.expirationDate ∧ a.pk ≤ b.pk)

instance : DecidableRel expiresBefore := fun a b => by
  unfold expiresBefore
  infer_instance

/-- The batch after a sale took `take` from it. -/
def drawn (batch : ProductBatch) (take : Int) : ProductBatch :=
  { batch with
    remainingQuantity := batch.remainingQuantity - take
    status := if batch.remainingQuantity - take = 0 then .depleted else batch.status }

end ProductBatch

/-- `_available_stock`: the sellable total of a product. -/
def availableStock (s : Store) (today : Int) (product : Nat) : Int :=
  ((s.batches.rows.filter (fun batch => batch.product = product && batch.isSellable today)).map
    ProductBatch.remainingQuantity).sum

/-- The batches of a product `deduct_product_batch` locks, in the order it locks them. -/
def fefoBatches (s : Store) (today : Int) (product : Nat) : List ProductBatch :=
  (s.batches.rows.filter (fun batch => batch.product = product && batch.isSellable today)
    ).insertionSort ProductBatch.expiresBefore

/-- The consuming loop: every batch it touches as saved, with the quantity taken from it. -/
def consume : List ProductBatch → Int → List (ProductBatch × Int)
  | [], _ => []
  | batch :: batches, quantity =>
      if quantity ≤ 0 then
        []
      else
        let take := min batch.remainingQuantity quantity
        (batch.drawn take, take) :: consume batches (quantity - take)

/-- `batch.save()` for every consumed batch. -/
def saveBatches (s : Store) (batches : List ProductBatch) : Store :=
  { s with batches := batches.foldl Table.put s.batches }

/-- `deduct_product_batch`. -/
def deductProductBatch (clock : Clock) (product : Nat) (quantity : Int) (s : Store) :
    Except Error (Store × List (ProductBatch × Int)) := do
  require (0 < quantity) (.valueError "Quantity must be greater than zero.")
  let batches := fefoBatches s clock.today product
  let totalAvailable := (batches.map ProductBatch.remainingQuantity).sum
  require (quantity ≤ totalAvailable) (.valueError "Insufficient Products.")
  let consumed := consume batches quantity
  return (saveBatches s (consumed.map Prod.fst), consumed)

/-- What a successful deduction does: it saves the consumed batches, and there was enough. -/
theorem deductProductBatch_ok {clock : Clock} {product : Nat} {quantity : Int} {s s' : Store}
    {consumed : List (ProductBatch × Int)}
    (h : deductProductBatch clock product quantity s = .ok (s', consumed)) :
    0 < quantity ∧
      quantity ≤ ((fefoBatches s clock.today product).map ProductBatch.remainingQuantity).sum ∧
      consumed = consume (fefoBatches s clock.today product) quantity ∧
      s' = saveBatches s (consumed.map Prod.fst) := by
  unfold deductProductBatch at h
  rcases require_bind_eq_ok.1 h with ⟨hpositive, h⟩
  rcases require_bind_eq_ok.1 h with ⟨henough, h⟩
  rcases pure_pair_eq_ok.1 h with ⟨hs', rfl⟩
  exact ⟨hpositive, henough, rfl, hs'.symm⟩

/-- A batch the deduction locks is a row of the product that it may sell. -/
theorem mem_fefoBatches {s : Store} {today : Int} {product : Nat} {batch : ProductBatch} :
    batch ∈ fefoBatches s today product ↔
      batch ∈ s.batches.rows ∧ batch.product = product ∧ batch.isSellable today = true := by
  simp [fefoBatches, List.mem_insertionSort]

/-- No batch is locked twice. -/
theorem nodup_fefoBatches (s : Store) (today : Int) (product : Nat) :
    ((fefoBatches s today product).map ProductBatch.pk).Nodup := by
  have hperm := List.perm_insertionSort ProductBatch.expiresBefore
    (s.batches.rows.filter (fun batch => batch.product = product && batch.isSellable today))
  refine (hperm.map ProductBatch.pk).nodup_iff.2 ?_
  exact s.batches.nodup.sublist ((List.filter_sublist).map ProductBatch.pk)

end RosarioDairy
