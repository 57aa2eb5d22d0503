import RosarioDairy.Foundations.Checked
import RosarioDairy.Foundations.Scan
import RosarioDairy.Inventory.ProductIdentity
import RosarioDairy.Sales.Models

/-!
# ProductConsolidation — merging formatting duplicates of products

Products with one identity are merged into the oldest of them: sale lines, batches and order items are
moved, the shortest name is kept, and the others are deleted.  A sale line belongs to the product of its
snapshot, or without one to that of its batch.
-/

namespace RosarioDairy
namespace ProductConsolidation

open Foundations ProductIdentity

/-! ## Rows -/

/-- A sale line with the label it was entered under. -/
structure SaleLine extends TransactionItem where
  sourceProductLabel : String
  deriving DecidableEq, Repr

instance : Row SaleLine := ⟨fun line => line.pk⟩

structure Catalogue where
  categories : Table Category
  products : Table Product
  batches : Table ProductBatch
  orderItems : Table OrderItem
  lines : Table SaleLine

/-! ## Groups -/

section Groups

variable (casefold : String → String)

/-- The key of `duplicate_product_groups`. -/
def identityOf (product : Product) : Identity :=
  { name := productNameKey casefold product.name
    unit := casefold (strip product.unit)
    variant := casefold (strip (product.variant.getD "")) }

/-- `duplicate_product_groups` -/
def duplicateProductGroups (products : Table Product) : List (List Product) :=
  let ordered := products.scan fun _ => true
  let groups := (ordered.map (identityOf casefold)).eraseDups.map fun key =>
    ordered.filter fun product => decide (identityOf casefold product = key)
  groups.filter fun group => decide (1 < group.length)

structure Member where
  id : Nat
  name : String
  category : Nat
  deriving DecidableEq, Repr

structure Plan where
  keepId : Nat
  name : String
  members : List Member
  deriving DecidableEq, Repr

/-- `ids` -/
def Plan.ids (plan : Plan) : List Nat := plan.members.map Member.id

/-- The shorter name, and the older product among names of one length. -/
def shorter (best product : Product) : Product :=
  if product.name.length < best.name.length ∨
      (product.name.length = best.name.length ∧ product.pk < best.pk) then product
  else best

def planOf : List Product → Option Plan
  | [] => none
  | keeper :: others =>
      some
        { keepId := keeper.pk
          name := (others.foldl shorter keeper).name
          members := (keeper :: others).map fun product =>
            { id := product.pk
              name := product.name
              category := product.category } }

/-- `consolidation_plan` -/
def consolidationPlan (products : Table Product) : List Plan :=
  (duplicateProductGroups casefold products).filterMap planOf

end Groups

/-! ## Merging a group -/

/-- The product a line belongs to. -/
def ownerOf (batches : Table ProductBatch) (line : SaleLine) : Option Nat :=
  match line.productIdSnapshot with
  | some product => some product
  | none => (batches.find line.productBatch).map ProductBatch.product

/-- `lines` -/
def belongs (batches : Table ProductBatch) (ids : List Nat) (line : SaleLine) : Bool :=
  (ownerOf batches line).any fun product => decide (product ∈ ids)

/-- A plan with what it has moved. -/
structure Merged where
  plan : Plan
  batchesMoved : Nat
  orderItemsMoved : Nat
  deriving DecidableEq, Repr

/-- The original name stays as the label of a line without one. -/
def keepLabel (line : SaleLine) : SaleLine :=
  { line with sourceProductLabel := line.productNameSnapshot.getD line.sourceProductLabel }

def relabel (categories : Table Category) (keeper : Product) (name : String) (line : SaleLine) :
    SaleLine :=
  { line with
    productIdSnapshot := some keeper.pk
    productNameSnapshot := some name
    categoryIdSnapshot := some keeper.category
    categoryNameSnapshot := (categories.find keeper.category).map Category.name }

/-- The body of the loop; the deletion is refused while rows refer to the products. -/
def mergeGroup (c : Catalogue) (plan : Plan) : Except String (Catalogue × Merged) := do
  let keeper ← demand (c.products.find plan.keepId) "Product matching query does not exist."
  -- every product of the group but the keeper is removed
  let removed := plan.ids.filter fun pk => pk != keeper.pk
  -- first the label that a line was sold under, then the identity of the keeper
  let labelled := c.lines.updateWhere
    (fun line => belongs c.batches plan.ids line && line.sourceProductLabel == "" &&
      line.productNameSnapshot.isSome) keepLabel
  let lines := labelled.updateWhere (belongs c.batches plan.ids)
    (relabel c.categories keeper plan.name)
  let moves (product : Nat) : Bool := decide (product ∈ removed)
  let batches := c.batches.updateWhere (fun batch => moves batch.product) fun batch =>
    { batch with product := keeper.pk }
  let orderItems := c.orderItems.updateWhere (fun item => moves item.product) fun item =>
    { item with product := keeper.pk }
  -- the keeper is active when any product of the group was
  let active := c.products.rows.any fun product => decide (product.pk ∈ plan.ids) && product.isActive
  let products := c.products.updateWhere (fun product => decide (product.pk = keeper.pk))
    fun product =>
      { product with
        name := plan.name
        isActive := active }
  -- the products are deleted only when nothing protects them
  require ((∀ batch ∈ batches.rows, batch.product ∉ removed) ∧
      ∀ item ∈ orderItems.rows, item.product ∉ removed)
    "Cannot delete some instances of model 'Product' because they are referenced."
  pure
    ({ c with
       products := products.deleteWhere fun product => moves product.pk
       batches := batches
       orderItems := orderItems
       lines := lines },
     { plan := plan
       batchesMoved := (c.batches.rows.filter fun batch => moves batch.product).length
       orderItemsMoved := (c.orderItems.rows.filter fun item => moves item.product).length })

/-- The plans one after the other. -/
def mergeGroups (c : Catalogue) : List Plan → Except String (Catalogue × List Merged)
  | [] => .ok (c, [])
  | plan :: plans => do
      let (c, merged) ← mergeGroup c plan
      let (c, rest) ← mergeGroups c plans
      pure (c, merged :: rest)

end ProductConsolidation
end RosarioDairy
