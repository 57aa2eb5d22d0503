import Mathlib.Data.List.Dedup
import Mathlib.Data.Set.Defs
import RosarioDairy.Accounts.Models
import RosarioDairy.Foundations.Scan
import RosarioDairy.Store

/-!
# Visibility — the sales a staff member may see

`visible_transactions` restricts a query to the sales that one staff member handled and that have no
line in a category that is hidden from staff or inactive.  A `StaffView` is what such a staff member
is entitled to know of the database; two databases with the same view give the same restricted
queries.
-/

namespace RosarioDairy

open Foundations

/-! ## Queries -/

/-- What the database adds to a query: its collation, its case-insensitive search, and the order in
which it returns rows that a query leaves unordered. -/
structure Engine where
  compareText : Option String → Option String → Ordering
  icontains : String → String → Bool
  arrange : {α : Type} → List α → List α
  arrange_perm : ∀ {α : Type} (rows : List α), (arrange rows).Perm rows

/-- `order_by` and `sorted`: rows that compare equal keep their order. -/
def sortedBy {α : Type} (order : α → α → Ordering) (rows : List α) : List α :=
  rows.insertionSort (fun a b => (order a b).isLE)

/-- `values(key).annotate(…)`: the rows of each key. -/
def groupRows {α κ : Type} [DecidableEq κ] (E : Engine) (key : α → κ) (rows : List α) :
    List (κ × List α) :=
  E.arrange ((rows.map key).dedup.map fun k => (k, rows.filter fun row => decide (key row = k)))

/-- A customer as the reports list them. -/
structure CustomerAccount where
  pk : Nat
  name : String
  isActive : Bool
  deriving DecidableEq, Repr

instance : Row CustomerAccount := ⟨CustomerAccount.pk⟩

/-! ## Visible sales -/

/-- The tables that sales reports and histories read. -/
structure Database where
  store : Store
  users : Table Accounts.Users
  customers : Table CustomerAccount

namespace Database

def transactions (db : Database) : Table Transaction := db.store.transactions

def items (db : Database) : Table TransactionItem := db.store.items

/-- `product_batch__product` -/
def productOf (db : Database) (item : TransactionItem) : Option Product :=
  (db.store.batches.find item.productBatch).bind fun batch => db.store.products.find batch.product

/-- `product_batch__product__category` -/
def categoryOf (db : Database) (item : TransactionItem) : Option Category :=
  (db.productOf item).bind fun product => db.store.categories.find product.category

/-- A sale has a line in a category that satisfies `p`. -/
def hasLineIn (db : Database) (p : Category → Bool) (txn : Transaction) : Bool :=
  db.items.rows.any fun item =>
    decide (item.transaction = txn.pk) && (db.categoryOf item).any p

end Database

/-- For whom a query is made: the `visible_to_staff` and `staff_user_id` arguments. -/
structure Scope where
  visibleToStaff : Bool
  staffUserId : Option Nat
  deriving DecidableEq, Repr

def Scope.everything : Scope :=
  { visibleToStaff := false
    staffUserId := none }

def Scope.staff (user : Nat) : Scope :=
  { visibleToStaff := true
    staffUserId := some user }

/-- `visible_transactions` -/
def visibleTransactions (db : Database) (scope : Scope) : List Transaction :=
  if scope.visibleToStaff then
    match scope.staffUserId with
    | none => []
    | some user =>
        db.transactions.scan fun txn =>
          decide (txn.handledBy = user) && !db.hasLineIn (fun category => !category.isVisibleToStaff) txn
            && !db.hasLineIn (fun category => !category.isActive) txn
  else
    db.transactions.scan fun _ => true

/-- A line of a sale with the product and the category it was sold from. -/
structure SoldLine where
  item : TransactionItem
  product : Product
  category : Category
  deriving DecidableEq, Repr

def soldLine (db : Database) (item : TransactionItem) : Option SoldLine :=
  (db.productOf item).bind fun product =>
    (db.store.categories.find product.category).map fun category =>
      { item := item
        product := product
        category := category }

/-- `TransactionItem.objects.filter(transaction__in=visible_transactions(…), …)` -/
def visibleLines (db : Database) (scope : Scope) (p : Transaction → Bool) : List SoldLine :=
  (db.items.scan fun item => (visibleTransactions db scope).any fun txn =>
    decide (txn.pk = item.transaction) && p txn).filterMap (soldLine db)

/-! ## What a staff member is entitled to know -/

/-- A sale that `user` handled, without a line in a hidden or inactive category. -/
structure OwnSale (db : Database) (user : Nat) (txn : Transaction) : Prop where
  recorded : txn ∈ db.transactions.rows
  handled : txn.handledBy = user
  lines : ∀ item ∈ db.items.rows, item.transaction = txn.pk → ∀ category,
    db.categoryOf item = some category → category.isVisibleToStaff = true ∧ category.isActive = true

/-- The users, the customers and the catalogue, and the member's own sales with their items. -/
structure StaffView where
  users : Table Accounts.Users
  customers : Table CustomerAccount
  categories : Table Category
  products : Table Product
  batchProduct : Nat → Option Nat
  sales : Set Transaction
  items : Set TransactionItem

def staffView (user : Nat) (db : Database) : StaffView :=
  { users := db.users
    customers := db.customers
    categories := db.store.categories
    products := db.store.products
    batchProduct := fun batch => (db.store.batches.find batch).map ProductBatch.product
    sales := { txn | OwnSale db user txn }
    items := { item | item ∈ db.items.rows ∧ ∃ txn, OwnSale db user txn ∧ item.transaction = txn.pk } }

namespace Database

theorem hasLineIn_eq_false {db : Database} {p : Category → Bool} {txn : Transaction} :
    db.hasLineIn p txn = false ↔ ∀ item ∈ db.items.rows, item.transaction = txn.pk →
      ∀ category, db.categoryOf item = some category → p category = false := by
  unfold hasLineIn
  rw [List.any_eq_false]
  constructor
  · intro h item hitem htxn category hcategory
    have hline := h item hitem
    simpa [htxn, hcategory] using hline
  · intro h item hitem
    cases hcategory : db.categoryOf item with
    | none => simp
    | some category =>
        by_cases htxn : item.transaction = txn.pk
        · simp [htxn, h item hitem htxn category hcategory]
        · simp [htxn]

end Database

/-- The restriction of the code keeps exactly the member's own sales. -/
theorem mem_visibleTransactions_staff {db : Database} {user : Nat} {txn : Transaction} :
    txn ∈ visibleTransactions db (Scope.staff user) ↔ OwnSale db user txn := by
  have hmem : txn ∈ visibleTransactions db (Scope.staff user) ↔
      txn ∈ db.transactions.rows ∧ txn.handledBy = user ∧
        db.hasLineIn (fun category => !category.isVisibleToStaff) txn = false ∧
          db.hasLineIn (fun category => !category.isActive) txn = false := by
    simp [visibleTransactions, Scope.staff, and_assoc]
  rw [hmem, Database.hasLineIn_eq_false, Database.hasLineIn_eq_false]
  constructor
  · rintro ⟨hrecorded, hhandled, hvisible, hactive⟩
    refine
      { recorded := hrecorded
        handled := hhandled
        lines := ?_ }
    intro item hitem htxn category hcategory
    exact ⟨by simpa using hvisible item hitem htxn category hcategory,
      by simpa using hactive item hitem htxn category hcategory⟩
  · intro h
    refine ⟨h.recorded, h.handled, ?_, ?_⟩
    · intro item hitem htxn category hcategory
      simp [(h.lines item hitem htxn category hcategory).1]
    · intro item hitem htxn category hcategory
      simp [(h.lines item hitem htxn category hcategory).2]

/-! ## Databases with the same view -/

section SameView

variable {user : Nat} {db db' : Database}

theorem visibleTransactions_eq (hview : staffView user db = staffView user db') :
    visibleTransactions db (Scope.staff user) = visibleTransactions db' (Scope.staff user) := by
  have hsales : ∀ txn, OwnSale db user txn ↔ OwnSale db' user txn := by
    intro txn
    have h : (staffView user db).sales txn = (staffView user db').sales txn := by rw [hview]
    exact Iff.of_eq h
  refine Table.scan_eq_of_mem_iff ?_
  intro txn
  have h : txn ∈ visibleTransactions db (Scope.staff user) ↔ OwnSale db user txn :=
    mem_visibleTransactions_staff
  have h' : txn ∈ visibleTransactions db' (Scope.staff user) ↔ OwnSale db' user txn :=
    mem_visibleTransactions_staff
  exact (Table.mem_scan.symm.trans h).trans ((hsales txn).trans (h'.symm.trans Table.mem_scan))

theorem productOf_eq (hview : staffView user db = staffView user db') (item : TransactionItem) :
    db.productOf item = db'.productOf item := by
  have hbatch : (db.store.batches.find item.productBatch).map ProductBatch.product =
      (db'.store.batches.find item.productBatch).map ProductBatch.product :=
    congrFun (congrArg StaffView.batchProduct hview) item.productBatch
  have hproducts : db.store.products = db'.store.products := congrArg StaffView.products hview
  have hbind (db : Database) : db.productOf item =
      ((db.store.batches.find item.productBatch).map ProductBatch.product).bind
        db.store.products.find := by
    rw [Database.productOf, Option.bind_map]
    rfl
  rw [hbind, hbind, hbatch, hproducts]

theorem soldLine_eq (hview : staffView user db = staffView user db') (item : TransactionItem) :
    soldLine db item = soldLine db' item := by
  have hcategories : db.store.categories = db'.store.categories :=
    congrArg StaffView.categories hview
  rw [soldLine, soldLine, productOf_eq hview, hcategories]

theorem visibleLines_eq (hview : staffView user db = staffView user db') (p : Transaction → Bool) :
    visibleLines db (Scope.staff user) p = visibleLines db' (Scope.staff user) p := by
  have hitems : ∀ item, item ∈ (staffView user db).items ↔ item ∈ (staffView user db').items := by
    intro item
    rw [hview]
  have hscan : (db.items.scan fun item => (visibleTransactions db (Scope.staff user)).any fun txn =>
        decide (txn.pk = item.transaction) && p txn) =
      db'.items.scan fun item => (visibleTransactions db' (Scope.staff user)).any fun txn =>
        decide (txn.pk = item.transaction) && p txn := by
    refine Table.scan_eq_of_mem_iff ?_
    intro item
    -- an item of a visible sale is an item of the view, so it is recorded in both databases
    have hown {db : Database} : ((visibleTransactions db (Scope.staff user)).any fun txn =>
        decide (txn.pk = item.transaction) && p txn) = true →
          ∃ txn, OwnSale db user txn ∧ item.transaction = txn.pk := by
      intro hany
      obtain ⟨txn, htxn, hitem⟩ := List.any_eq_true.1 hany
      have hpk : txn.pk = item.transaction := by
        have h := (Bool.and_eq_true_iff.1 hitem).1
        exact of_decide_eq_true h
      exact ⟨txn, mem_visibleTransactions_staff.1 htxn, hpk.symm⟩
    rw [← visibleTransactions_eq hview]
    constructor
    · rintro ⟨hitem, hany⟩
      exact ⟨((hitems item).1 ⟨hitem, hown hany⟩).1, hany⟩
    · rintro ⟨hitem, hany⟩
      have hany' := hany
      rw [visibleTransactions_eq hview] at hany'
      exact ⟨((hitems item).2 ⟨hitem, hown hany'⟩).1, hany⟩
  rw [visibleLines, visibleLines, hscan]
  congr 1
  funext item
  exact soldLine_eq hview item

end SameView

end RosarioDairy
