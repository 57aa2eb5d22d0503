import RosarioDairy.Foundations.RowSaves

/-!
# CatalogueEdits — concurrent edits of a product, a category or a customer

The default partial update of a viewset sets the validated attributes on the row it has read and saves
all of it; so does the reactivation of a product or a category.  The other requests save the active
flag only.  Timestamps of the last update are left out.
-/

namespace RosarioDairy
namespace CatalogueEdits

open Foundations

/-! ## Columns -/

inductive ProductColumn
  | category
  | name
  | unit
  | variant
  | shelfLife
  | isActive
  | createdAt
  deriving DecidableEq, Repr

def ProductColumn.Value : ProductColumn → Type
  | .category => Nat
  | .name => String
  | .unit => String
  | .variant => Option String
  | .shelfLife => Int
  | .isActive => Bool
  | .createdAt => Int

inductive CategoryColumn
  | name
  | description
  | icon
  | isActive
  | isVisibleToStaff
  | createdAt
  deriving DecidableEq, Repr

def CategoryColumn.Value : CategoryColumn → Type
  | .name => String
  | .description => Option String
  | .icon => String
  | .isActive => Bool
  | .isVisibleToStaff => Bool
  | .createdAt => Int

inductive CustomerColumn
  | name
  | contactNumber
  | email
  | address
  | isActive
  | createdBy
  | createdAt
  deriving DecidableEq, Repr

def CustomerColumn.Value : CustomerColumn → Type
  | .name => String
  | .contactNumber => Option String
  | .email => Option String
  | .address => Option String
  | .isActive => Bool
  | .createdBy => Nat
  | .createdAt => Int

/-! ## Validated attributes -/

/-- What the serializer of products lets a request name. -/
structure ProductAttrs where
  category : Option Nat
  name : Option String
  unit : Option String
  variant : Option (Option String)
  shelfLife : Option Int
  deriving Repr

def ProductAttrs.named (attrs : ProductAttrs) : (c : ProductColumn) → Option c.Value
  | .category => attrs.category
  | .name => attrs.name
  | .unit => attrs.unit
  | .variant => attrs.variant
  | .shelfLife => attrs.shelfLife
  | .isActive => none
  | .createdAt => none

structure CategoryAttrs where
  name : Option String
  description : Option (Option String)
  icon : Option String
  isVisibleToStaff : Option Bool
  deriving Repr

def CategoryAttrs.named (attrs : CategoryAttrs) : (c : CategoryColumn) → Option c.Value
  | .name => attrs.name
  | .description => attrs.description
  | .icon => attrs.icon
  | .isActive => none
  | .isVisibleToStaff => attrs.isVisibleToStaff
  | .createdAt => none

/-- The name is the canonical one that `validate` has put in its place. -/
structure CustomerAttrs where
  name : Option String
  contactNumber : Option (Option String)
  email : Option (Option String)
  address : Option (Option String)
  deriving Repr

def CustomerAttrs.named (attrs : CustomerAttrs) : (c : CustomerColumn) → Option c.Value
  | .name => attrs.name
  | .contactNumber => attrs.contactNumber
  | .email => attrs.email
  | .address => attrs.address
  | .isActive => none
  | .createdBy => none
  | .createdAt => none

/-! ## Requests -/

/-- `update`: set the attributes on the instance and save it. -/
def partialUpdate {C : Type} {V : C → Type} (named : (c : C) → Option (V c)) : RowWrite V :=
  { accepts := fun _ => true
    named := named
    wholeRow := true }

/-- `save(update_fields=['is_active', 'updated_at'])` -/
def saveActive {C : Type} {V : C → Type} (named : (c : C) → Option (V c)) : RowWrite V :=
  { accepts := fun _ => true
    named := named
    wholeRow := false }

/-- The requests of `SoftDeleteMixin`; a deletion is one of a row with linked records. -/
inductive SoftDeleteRequest (A : Type)
  | partialUpdate (attrs : A)
  | deactivate
  | destroy
  | reactivate

/-- What the requests of `SoftDeleteMixin` write, given how a model names its active flag. -/
def SoftDeleteRequest.write {A C : Type} {V : C → Type} (named : A → (c : C) → Option (V c))
    (active : Bool → (c : C) → Option (V c)) (isActive : ((c : C) → V c) → Bool) :
    SoftDeleteRequest A → RowWrite V
  | .partialUpdate attrs => CatalogueEdits.partialUpdate (named attrs)
  | .deactivate => saveActive (active false)
  | .destroy => saveActive (active false)
  | .reactivate =>
      { accepts := fun row => !isActive row
        named := active true
        wholeRow := true }

/-- The requests of `CustomerViewSet`. -/
inductive CustomerRequest
  | partialUpdate (attrs : CustomerAttrs)
  | destroy
  | reactivate

def productActive (value : Bool) : (c : ProductColumn) → Option c.Value
  | .isActive => some value
  | _ => none

def categoryActive (value : Bool) : (c : CategoryColumn) → Option c.Value
  | .isActive => some value
  | _ => none

def customerActive (value : Bool) : (c : CustomerColumn) → Option c.Value
  | .isActive => some value
  | _ => none

def CustomerRequest.write : CustomerRequest → RowWrite CustomerColumn.Value
  | .partialUpdate attrs => CatalogueEdits.partialUpdate attrs.named
  | .destroy => saveActive (customerActive false)
  | .reactivate => saveActive (customerActive true)

inductive CatalogueTable
  | product
  | category
  | customer
  deriving DecidableEq, Repr

namespace CatalogueTable

def Column : CatalogueTable → Type
  | .product => ProductColumn
  | .category => CategoryColumn
  | .customer => CustomerColumn

def Value : (table : CatalogueTable) → table.Column → Type
  | .product => ProductColumn.Value
  | .category => CategoryColumn.Value
  | .customer => CustomerColumn.Value

def Request : CatalogueTable → Type
  | .product => SoftDeleteRequest ProductAttrs
  | .category => SoftDeleteRequest CategoryAttrs
  | .customer => CustomerRequest

def write : (table : CatalogueTable) → table.Request → RowWrite table.Value
  | .product => SoftDeleteRequest.write ProductAttrs.named productActive fun row => row .isActive
  | .category => SoftDeleteRequest.write CategoryAttrs.named categoryActive fun row => row .isActive
  | .customer => CustomerRequest.write

end CatalogueTable

/-- A request reads the row; later it saves, or it is refused. -/
inductive CatalogueAction (table : CatalogueTable)
  | read (id : Nat) (request : table.Request)
  | save (id : Nat)
  | refuse (id : Nat)

def CatalogueAction.rowAction {table : CatalogueTable} :
    CatalogueAction table → RowAction table.Value
  | .read id request => .read id (table.write request)
  | .save id => .save id
  | .refuse id => .giveUp id

/-! ## Lost updates -/

/-- No update of a row is lost exactly when every partial update, and every reactivation of a product
or category, finds the columns it does not name as it has read them. -/
theorem catalogue_updates_kept (table : CatalogueTable)
    (row : (c : table.Column) → table.Value c) (actions : List (CatalogueAction table)) :
    RowDesk.KeepsUpdates row (actions.map CatalogueAction.rowAction) ↔
      EachStep RowDesk.step RowDesk.SavesFresh (RowDesk.init row)
        (actions.map CatalogueAction.rowAction) :=
  RowDesk.keepsUpdates_iff row _

/-- A category that staff can see. -/
def visibleCategory : (c : CategoryColumn) → c.Value
  | .name => "Milk"
  | .description => none
  | .icon => ""
  | .isActive => true
  | .isVisibleToStaff => true
  | .createdAt => (0 : Int)

/-- A rename reads the category, another request hides it from staff, and the rename is saved. -/
def renameOverHiding : List (CatalogueAction .category) :=
  [.read 1 (.partialUpdate
      { name := some "Fresh milk"
        description := none
        icon := none
        isVisibleToStaff := none }),
    .read 2 (.partialUpdate
      { name := none
        description := none
        icon := none
        isVisibleToStaff := some false }),
    .save 2, .save 1]

/-- The rename shows the hidden category to staff again. -/
theorem rename_reverts_hiding :
    ¬ ∀ (table : CatalogueTable) (row : (c : table.Column) → table.Value c)
      (actions : List (CatalogueAction table)),
      RowDesk.KeepsUpdates row (actions.map CatalogueAction.rowAction) := by
  intro h
  have hlast := (h .category visibleCategory renameOverHiding).lastNamed _ []
    (List.append_nil _).symm CategoryColumn.isVisibleToStaff
  have hreverted : true = false := hlast
  cases hreverted

end CatalogueEdits
end RosarioDairy
