import RosarioDairy.Inventory.Bookkeeping

/-!
# Conservation — no stock appears or disappears

Every batch of every reachable store holds its initial quantity less what its sale lines and
adjustments took and with what its returns gave back, and never leaves the range from zero to the
initial quantity.
-/

namespace RosarioDairy

open Foundations

namespace Store

/-- The quantity of all sale lines of a batch, those of voided sales included. -/
def soldFrom (s : Store) (batch : Nat) : Int :=
  ((s.items.rows.filter (fun item => item.productBatch = batch)).map
    TransactionItem.quantity).sum

/-- The quantity of all adjustments of a batch. -/
def adjustedOn (s : Store) (batch : Nat) : Int :=
  ((s.adjustments.rows.filter (fun row => row.productBatch = batch)).map
    StockAdjustment.quantity).sum

/-- The quantity of all returns of the sale lines of a batch. -/
def returnedTo (s : Store) (batch : Nat) : Int :=
  ((s.returns.rows.filter (fun row =>
    (s.items.find row.saleItem).map TransactionItem.productBatch = some batch)).map
      StockReturn.quantity).sum

/-- Every account of the store is balanced, however its references are resolved. -/
def Balanced (zone : Zone) (s : Store) : Prop :=
  ∀ frame : Frame, frame.Fits zone s → ∀ pk, (s.account zone frame pk).Balanced

end Store

theorem empty_account (zone : Zone) (frame : Frame) (categories : Table Category)
    (products : Table Product) (pk : Nat) :
    (Store.empty categories products).account zone frame pk = Account.unopened := rfl

theorem empty_balanced (zone : Zone) (categories : Table Category) (products : Table Product) :
    (Store.empty categories products).Balanced zone := by
  intro frame _ pk
  rw [empty_account]
  exact Account.unopened_balanced

/-- Every operation keeps the accounts balanced. -/
theorem Outcome.balanced {clock : Clock} {op : Operation} {s s' : Store}
    (hs : s.Balanced clock.zone) (h : Outcome clock op s s') : s'.Balanced clock.zone := by
  intro frame hframe pk
  rcases outcome_accounts h hframe with ⟨soldOn, _, hsteps⟩
  exact (hsteps pk).preserves (fun _ _ ha hstep => hstep.balanced ha)
    (hs frame (h.fits_before hframe) pk)

theorem replay_balanced (env : Deployment) (categories : Table Category) (products : Table Product)
    (history : List Call) :
    (replay env (Store.empty categories products) history).Balanced env.zone :=
  replay_outcome (P := Store.Balanced env.zone) (fun _ _ _ _ hs h => h.balanced hs) history
    (empty_balanced env.zone categories products)

/-- The balance of a batch, in terms of the rows. -/
theorem Store.Balanced.batch {zone : Zone} {s : Store} (h : s.Balanced zone)
    {batch : ProductBatch} (hbatch : batch ∈ s.batches.rows) :
    0 ≤ batch.remainingQuantity ∧ batch.remainingQuantity ≤ batch.initialQuantity ∧
      batch.remainingQuantity = batch.initialQuantity - s.soldFrom batch.pk -
        s.adjustedOn batch.pk + s.returnedTo batch.pk := by
  have hbalanced := h (s.frame zone) (s.frame_fits zone) batch.pk
  have hfind : s.batches.find batch.pk = some batch := s.batches.find_of_mem hbatch
  have hholding : (s.account zone (s.frame zone) batch.pk).holding = some (batch.holding zone) := by
    simp [Store.account, hfind]
  have hsold : Journal.total (s.account zone (s.frame zone) batch.pk).sold =
      s.soldFrom batch.pk := by
    simp [Journal.total, Store.account, Store.soldFrom, Function.comp_def]
  have hadjusted : Journal.total (s.account zone (s.frame zone) batch.pk).adjusted =
      s.adjustedOn batch.pk := by
    simp [Journal.total, Store.account, Store.adjustedOn, Function.comp_def]
  have hreturned : Journal.total (s.account zone (s.frame zone) batch.pk).returned =
      s.returnedTo batch.pk := by
    simp [Journal.total, Store.account, Store.returnedTo, Store.frame, Function.comp_def]
  simp only [Account.Balanced, hholding, hsold, hadjusted, hreturned] at hbalanced
  exact hbalanced

/-- Stock conservation: from an empty store, after any history, every batch holds between zero and
its initial quantity, and exactly what its movements leave of it. -/
theorem stock_conserved (env : Deployment) (categories : Table Category) (products : Table Product)
    (history : List Call) :
    ∀ batch ∈ (replay env (Store.empty categories products) history).batches.rows,
      0 ≤ batch.remainingQuantity ∧ batch.remainingQuantity ≤ batch.initialQuantity ∧
        batch.remainingQuantity = batch.initialQuantity -
          (replay env (Store.empty categories products) history).soldFrom batch.pk -
          (replay env (Store.empty categories products) history).adjustedOn batch.pk +
          (replay env (Store.empty categories products) history).returnedTo batch.pk :=
  fun _ hbatch => (replay_balanced env categories products history).batch hbatch

/-- One active product, as a table. -/
def oneProduct : Table Product :=
  Table.empty.create fun pk =>
    { pk := pk
      category := 1
      name := "Fresh milk"
      unit := "piece"
      variant := none
      isActive := true }

/-- Ten units are received and three of them spoil. -/
def receiveThenSpoil : List Call :=
  [{ now := 86400
     op := .createBatch (some .admin)
      { product := some 1
        grade := none
        unitPrice := none
        quantity := some (.ofAmount 1000)
        expirationDate := some 30
        dateReceived := none
        notes := none } },
   { now := 172800
     op := .createStockAdjustment "spoilage" 300 0 ⟨1, .admin⟩ none (some 1) }]

theorem stock_conserved_spoiled :
    ∃ batch ∈ (replay (Deployment.plain fun _ => "") (Store.empty Table.empty oneProduct)
      receiveThenSpoil).batches.rows,
      batch.remainingQuantity = 700 ∧ 0 ≤ batch.remainingQuantity ∧
        batch.remainingQuantity ≤ batch.initialQuantity := by
  have hrow : ∃ batch ∈ (replay (Deployment.plain fun _ => "") (Store.empty Table.empty oneProduct)
      receiveThenSpoil).batches.rows, batch.remainingQuantity = 700 := by decide
  rcases hrow with ⟨batch, hbatch, hremaining⟩
  have hconserved := stock_conserved (Deployment.plain fun _ => "") Table.empty oneProduct
    receiveThenSpoil batch hbatch
  exact ⟨batch, hbatch, hremaining, hconserved.1, hconserved.2.1⟩

end RosarioDairy
