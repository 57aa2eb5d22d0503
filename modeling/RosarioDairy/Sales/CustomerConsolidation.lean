import Mathlib.Data.Char
import Mathlib.Data.List.Lex
import Mathlib.Data.List.Sort
import RosarioDairy.Foundations.Checked
import RosarioDairy.Foundations.Merging
import RosarioDairy.Foundations.Repeats
import RosarioDairy.Foundations.Scan
import RosarioDairy.Sales.Importers.CustomerNames
import RosarioDairy.Sales.Models

/-!
# CustomerConsolidation — moving customer aliases to one account

Customers whose names have one key are merged when their contact details agree and their identity is
clear; the others are listed for review.  The sales and orders of the aliases are moved to the account
that is kept, which takes the canonical name, and the aliases are deleted.
-/

namespace RosarioDairy
namespace CustomerConsolidation

open Foundations CustomerNames

/-! ## Rows -/

/-- `FIELDS` -/
inductive ContactField
  | contactNumber
  | email
  | address
  deriving DecidableEq, Repr

def ContactField.all : List ContactField := [.contactNumber, .email, .address]

structure CustomerRecord where
  pk : Nat
  name : List Char
  contact : ContactField → Option (List Char)
  isActive : Bool
  createdBy : Nat
  createdAt : Int
  updatedAt : Int

instance : Row CustomerRecord := ⟨CustomerRecord.pk⟩

structure Accounts where
  customers : Table CustomerRecord
  transactions : Table Transaction
  orders : Table Order

/-- The value of a contact field, if it is truthy. -/
def CustomerRecord.given (c : CustomerRecord) (field : ContactField) : Option (List Char) :=
  (c.contact field).filter fun value => !value.isEmpty

/-! ## Plans -/

/-- What a plan says of a customer. -/
structure Detail where
  id : Nat
  name : List Char
  transactions : Nat
  deriving DecidableEq, Repr

structure MergeGroup where
  keepId : Nat
  name : List Char
  members : List Detail
  contacts : ContactField → Option (List Char)

structure Review where
  members : List Detail
  reason : String
  conflictingFields : List ContactField
  deriving DecidableEq, Repr

structure Plan where
  mergeGroups : List MergeGroup
  needsReview : List Review

/-- `ids` -/
def MergeGroup.ids (group : MergeGroup) : List Nat := group.members.map Detail.id

section Planning

variable (T : Unicode)

/-- `normalized_contact` -/
def normalizedContact (value : List Char) : List Char := T.casefold (cleanLabel value)

/-- The normalized values that are given for a field. -/
def contactValues (members : List CustomerRecord) (field : ContactField) : List (List Char) :=
  ((members.filterMap fun c => c.given field).map (normalizedContact T)).eraseDups

/-- `conflicts` -/
def conflictingFields (members : List CustomerRecord) : List ContactField :=
  ContactField.all.filter fun field => decide (1 < (contactValues T members field).length)

/-- `same_contact` -/
def sameContact (members : List CustomerRecord) : Bool :=
  [ContactField.contactNumber, .email].any fun field =>
    decide ((contactValues T members field).length = 1) &&
      members.all fun c => (c.given field).isSome

/-- `len(identities)`, where an identity is `c.name.strip().casefold()` -/
def identityCount (members : List CustomerRecord) : Nat :=
  ((members.map fun c => T.casefold (trim isSpace c.name)).eraseDups).length

/-- `canonical in GROUPS` -/
def isGroupName (canonical : List Char) : Bool := groups.any fun group => group.1.toList == canonical

/-- The earlier in the order of `(c.name != canonical, c.pk)`. -/
def earlier (canonical : List Char) (best c : CustomerRecord) : CustomerRecord :=
  if (c.name = canonical ∧ best.name ≠ canonical) ∨
      ((c.name = canonical ↔ best.name = canonical) ∧ c.pk < best.pk) then c
  else best

/-- What becomes of customers with one key: a group to merge, an entry for review, or nothing for a
customer that is alone. -/
def planOf (saleCount : Nat → Nat) : List CustomerRecord → Option (MergeGroup ⊕ Review)
  | first :: second :: others =>
      let members := first :: second :: others
      let canonical := (canonicalCustomer T first.name).getD []
      let conflicts := conflictingFields T members
      let details := members.map fun c =>
        { id := c.pk
          name := c.name
          transactions := saleCount c.pk : Detail }
      if conflicts ≠ [] ∨
          (identityCount T members = 1 ∧ isGroupName canonical = false ∧
            sameContact T members = false) then
        some (.inr
          { members := details
            reason := if conflicts ≠ [] then "conflicting_contact_details"
              else "same_name_identity_unconfirmed"
            conflictingFields := conflicts })
      else
        let keeper := (second :: others).foldl (earlier canonical) first
        some (.inl
          { keepId := keeper.pk
            name := canonical
            members := details
            contacts := fun field => (keeper.given field).or (members.findSome? fun c => c.given field) })
  | _ => none

/-- The keys of the customers, sorted. -/
def sortedKeys (ordered : List CustomerRecord) : List (List Char) :=
  ((ordered.filterMap fun c => (customerKey T c.name).filter fun key => !key.isEmpty).eraseDups).mergeSort
    fun k k' => decide (k ≤ k')

/-- `consolidation_plan` -/
def consolidationPlan (a : Accounts) : Plan :=
  let ordered := a.customers.scan fun _ => true
  let saleCount (pk : Nat) := (a.transactions.rows.filter fun txn => txn.customer = some pk).length
  let results := (sortedKeys T ordered).filterMap fun key =>
    planOf T saleCount (classOf (fun c => customerKey T c.name) ordered (some key))
  { mergeGroups := results.filterMap Sum.getLeft?
    needsReview := results.filterMap Sum.getRight? }

end Planning

/-! ## Merging -/

/-- Where the sales and orders of a group were booked, and how many were moved. -/
structure Moved where
  oldTransactionLinks : List (Nat × Nat)
  oldOrderLinks : List (Nat × Nat)
  transactionsMoved : Nat
  ordersMoved : Nat
  deriving DecidableEq, Repr

/-- The body of the loop; the deletion is refused while rows refer to the customers. -/
def mergeGroup (a : Accounts) (group : MergeGroup) : Except String (Accounts × Moved) := do
  let keeper ← demand (a.customers.find group.keepId) "Customer matching query does not exist."
  let removed := group.ids.filter fun pk => pk != keeper.pk
  let movesSale (txn : Transaction) : Bool := txn.customer.any fun pk => decide (pk ∈ removed)
  let movesOrder (order : Order) : Bool := decide (order.customer ∈ removed)
  let transactions := a.transactions.updateWhere movesSale fun txn =>
    { txn with customer := some keeper.pk }
  let orders := a.orders.updateWhere movesOrder fun order =>
    { order with customer := keeper.pk }
  let active := a.customers.rows.any fun c => decide (c.pk ∈ group.ids) && c.isActive
  let customers := a.customers.updateWhere (fun c => decide (c.pk = keeper.pk)) fun c =>
    { c with
      name := group.name
      contact := group.contacts
      isActive := active }
  require ((∀ txn ∈ transactions.rows, movesSale txn = false) ∧
      ∀ order ∈ orders.rows, movesOrder order = false)
    "Cannot delete some instances of model 'Customer' because they are referenced."
  pure
    ({ customers := customers.deleteWhere fun c => decide (c.pk ∈ removed)
       transactions := transactions
       orders := orders },
     { oldTransactionLinks := (a.transactions.rows.filter movesSale).filterMap fun txn =>
         txn.customer.map fun pk => (txn.pk, pk)
       oldOrderLinks := (a.orders.rows.filter movesOrder).map fun order => (order.pk, order.customer)
       transactionsMoved := (a.transactions.rows.filter movesSale).length
       ordersMoved := (a.orders.rows.filter movesOrder).length })

/-- The groups one after the other. -/
def mergeGroups (a : Accounts) : List MergeGroup → Except String (Accounts × List Moved)
  | [] => .ok (a, [])
  | group :: groups => do
      let (a, moved) ← mergeGroup a group
      let (a, rest) ← mergeGroups a groups
      pure (a, moved :: rest)

/-- `consolidate_customers` -/
def consolidateCustomers (a : Accounts) (plan : Plan) : Except String (Accounts × List Moved) :=
  mergeGroups a plan.mergeGroups

/-! ## The command -/

section Command

variable (T : Unicode) (saleDigest : List Transaction → String) (orderDigest : List Order → String)

/-- `fingerprints` of the sales and orders, which leave out the customer; the other tables are not
written. -/
def fingerprints (a : Accounts) : (Nat × String) × Nat × String :=
  let sales := (a.transactions.scan fun _ => true).map fun txn => { txn with customer := none }
  let orders := (a.orders.scan fun _ => true).map fun order => { order with customer := 0 }
  ((sales.length, saleDigest sales), orders.length, orderDigest orders)

/-- The command with `--apply`: what it leaves, and what it has moved. -/
def applyConsolidation (a : Accounts) : Except String (Accounts × List Moved) := do
  let plan := consolidationPlan T a
  if plan.mergeGroups.isEmpty then pure (a, [])
  else do
    let (a', moved) ← consolidateCustomers a plan
    let removed := (plan.mergeGroups.map fun group => group.members.length - 1).sum
    require (fingerprints saleDigest orderDigest a = fingerprints saleDigest orderDigest a' ∧
        a'.customers.rows.length = a.customers.rows.length - removed)
      "Unexpected data changes; consolidation rolled back. See private backup."
    require ((consolidationPlan T a').mergeGroups.isEmpty = true)
      "Clear duplicates remain; consolidation rolled back."
    pure (a', moved)

end Command

end CustomerConsolidation
end RosarioDairy
