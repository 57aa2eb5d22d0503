import Mathlib.Data.Prod.Lex
import RosarioDairy.Foundations.LockOrder
import RosarioDairy.Inventory.Deduction
import RosarioDairy.Sales.Encoding

/-!
# StockLocks — the locks of the stock writers, and why they cannot deadlock

Sales lock their submission or request id, then the invoice year, then the batches of one product
after the other.  A void locks its sale, the batches of its lines, and the orders of the sale; an
adjustment locks one batch, a payment update one sale.  All of them ask in ascending order of kind
and, among batches, of product, expiration date and key, and so never wait for each other in a circle
as long as no batch moves to another place in that order.
-/

namespace RosarioDairy

open Foundations

/-- The locks the stock writers take: an advisory lock, or a row under its key. -/
inductive StockLock
  | advisory (key : Int)
  | invoiceYear (year : Nat)
  | sale (pk : Nat)
  | batch (pk : Nat)
  | order (pk : Nat)
  deriving DecidableEq, Repr

/-- The data as one statement sees them.  The product and the expiration date of a batch are what
`place` says of it, and a sale has at most one order. -/
structure StockView (place : Nat → Nat × Int) where
  today : Int
  store : Store
  placed : ∀ batch ∈ store.batches.rows, place batch.pk = (batch.product, batch.expirationDate)
  oneOrder : ∀ a ∈ store.orders.rows, ∀ b ∈ store.orders.rows, ∀ txn,
    a.transaction = some txn → b.transaction = some txn → a.pk = b.pk

/-- The product and the expiration date of a batch of the store. -/
def Store.place (s : Store) (pk : Nat) : Nat × Int :=
  match s.batches.find pk with
  | some batch => (batch.product, batch.expirationDate)
  | none => (0, 0)

/-- A store as a statement sees it, when no sale has two orders in it. -/
def Store.view (today : Int) (s : Store)
    (oneOrder : ∀ a ∈ s.orders.rows, ∀ b ∈ s.orders.rows, ∀ txn,
      a.transaction = some txn → b.transaction = some txn → a.pk = b.pk) : StockView s.place :=
  { today := today
    store := s
    placed := by
      intro batch hbatch
      unfold Store.place
      rw [show s.batches.find batch.pk = some batch from s.batches.find_of_mem hbatch]
    oneOrder := oneOrder }

/-! ## Statements and programs -/

/-- The statements that lock. -/
inductive LockStatement
  /-- `pg_advisory_xact_lock`. -/
  | advisory (key : Int)
  /-- The year row of `assign_invoice`. -/
  | invoiceYear (year : Nat)
  /-- The batches of a product in `deduct_product_batch`. -/
  | productBatches (product : Nat)
  /-- The sale in `void_transaction` and `update_encoding_payment`. -/
  | sale (saleId : Nat)
  /-- The batches of the lines in `void_transaction`, one `get` for each line. -/
  | itemBatches (saleId : Nat)
  /-- The batch in `create_stock_adjustment`. -/
  | batch (pk : Nat)
  /-- The orders of the sale in `void_transaction`. -/
  | orders (saleId : Nat)

/-- What a statement locks, in the order it locks it. -/
def stockLocksOf {place : Nat → Nat × Int} (view : StockView place) :
    LockStatement → List StockLock
  | .advisory key => [.advisory key]
  | .invoiceYear year => [.invoiceYear year]
  | .productBatches product =>
      (fefoBatches view.store view.today product).map (fun batch => .batch batch.pk)
  | .sale saleId => [.sale saleId]
  | .itemBatches saleId =>
      (voidOrder view.store saleId).filterMap (fun item =>
        (view.store.batches.find item.productBatch).map (fun batch => .batch batch.pk))
  | .batch pk => [.batch pk]
  | .orders saleId =>
      (view.store.orders.rows.filter (fun order => order.transaction = some saleId)).map
        (fun order => .order order.pk)

/-- A call of one of the stock writers, with the key of its advisory lock when it takes one. -/
inductive StockWriter
  | checkout (submission : Option Int) (clock : Clock) (args : SaleArgs)
  | placeOrder (submission : Option Int) (clock : Clock) (customer : Customer) (args : SaleArgs)
  | encodeTransaction (key : Int) (clock : Clock) (args : EncodeArgs)
  | voidTransaction (saleId : Nat)
  | createStockAdjustment (submission : Option Int) (batch : Nat)
  | updateEncodingPayment (saleId : Nat)

/-- `checkout`: the invoice year, then the batches of each product of the cart. -/
def saleLocks (clock : Clock) (args : SaleArgs) : List LockStatement :=
  match priceSale args with
  | .error _ => []
  | .ok priced =>
      .invoiceYear (Day.year (businessDate clock args)) ::
        (lockOrder priced.lines).map (fun line => .productBatches line.1.product)

/-- The lock a submission is replayed under. -/
def submissionLocks (submission : Option Int) : List LockStatement :=
  submission.toList.map .advisory

/-- The locking statements of a call that goes through; a call that fails leaves before its end. -/
def StockWriter.program : StockWriter → List LockStatement
  | .checkout submission clock args => submissionLocks submission ++ saleLocks clock args
  | .placeOrder submission clock customer args =>
      submissionLocks submission ++ saleLocks clock (args.forCustomer customer)
  | .encodeTransaction key clock args => .advisory key :: saleLocks clock args.checkoutArgs
  | .voidTransaction saleId => [.sale saleId, .itemBatches saleId, .orders saleId]
  | .createStockAdjustment submission batch => submissionLocks submission ++ [.batch batch]
  | .updateEncodingPayment saleId => [.sale saleId]

def stockRules (place : Nat → Nat × Int) :
    LockRules StockLock LockStatement StockWriter (StockView place) :=
  { program := StockWriter.program
    locksOf := stockLocksOf }

/-! ## The order of the locks -/

/-- Advisory locks rank first, then invoice years, sales, batches by product, expiration date and
key, and orders last. -/
def StockLock.rank (place : Nat → Nat × Int) : StockLock → ℕ ×ₗ ℕ ×ₗ ℤ ×ₗ ℕ
  | .advisory key => toLex (0, toLex (0, toLex (key, 0)))
  | .invoiceYear year => toLex (1, toLex (year, toLex (0, 0)))
  | .sale pk => toLex (2, toLex (pk, toLex (0, 0)))
  | .batch pk => toLex (3, toLex ((place pk).1, toLex ((place pk).2, pk)))
  | .order pk => toLex (4, toLex (pk, toLex (0, 0)))

section Ranks

variable {place : Nat → Nat × Int}

theorem rank_injective : Function.Injective (StockLock.rank place) := by
  intro a b h
  cases a with
  | advisory key =>
      cases b with
      | advisory key' => simpa [StockLock.rank] using h
      | _ => simp [StockLock.rank] at h
  | invoiceYear year =>
      cases b with
      | invoiceYear year' => simpa [StockLock.rank] using h
      | _ => simp [StockLock.rank] at h
  | sale pk =>
      cases b with
      | sale pk' => simpa [StockLock.rank] using h
      | _ => simp [StockLock.rank] at h
  | batch pk =>
      cases b with
      | batch pk' =>
          simp only [StockLock.rank, toLex_inj, Prod.mk.injEq] at h
          rw [h.2.2.2]
      | _ => simp [StockLock.rank] at h
  | order pk =>
      cases b with
      | order pk' => simpa [StockLock.rank] using h
      | _ => simp [StockLock.rank] at h

/-- The kind of a lock, as a number. -/
def StockLock.kind : StockLock → Nat
  | .advisory _ => 0
  | .invoiceYear _ => 1
  | .sale _ => 2
  | .batch _ => 3
  | .order _ => 4

theorem rank_le_of_kind_lt {a b : StockLock} (h : a.kind < b.kind) :
    a.rank place ≤ b.rank place := by
  refine Prod.Lex.le_iff.2 (.inl ?_)
  cases a with
  | _ =>
    cases b with
    | _ => exact h

/-- Batches rank by product first. -/
theorem rank_le_of_product_lt {a b : Nat} (h : (place a).1 < (place b).1) :
    (StockLock.batch a).rank place ≤ (StockLock.batch b).rank place :=
  Prod.Lex.le_iff.2 (.inr ⟨rfl, Prod.Lex.le_iff.2 (.inl h)⟩)

/-- Batches of one product rank by expiration date and key. -/
theorem rank_le_of_expires {a b : Nat} (hproduct : (place a).1 = (place b).1)
    (h : (place a).2 < (place b).2 ∨ ((place a).2 = (place b).2 ∧ a ≤ b)) :
    (StockLock.batch a).rank place ≤ (StockLock.batch b).rank place :=
  Prod.Lex.le_iff.2 (.inr ⟨rfl, Prod.Lex.le_iff.2 (.inr ⟨hproduct, Prod.Lex.le_iff.2 h⟩)⟩)

end Ranks

/-! ## Each statement asks in order -/

instance (s : Store) :
    Std.Total (fun a b : TransactionItem => voidKeyLe (voidKey s a) (voidKey s b)) :=
  ⟨fun a b => by
    unfold voidKeyLe
    omega⟩

instance (s : Store) :
    IsTrans TransactionItem (fun a b => voidKeyLe (voidKey s a) (voidKey s b)) :=
  ⟨fun a b c hab hbc => by
    unfold voidKeyLe at *
    omega⟩

section Views

variable {place : Nat → Nat × Int} (view : StockView place)

theorem fefoBatches_ascending (product : Nat) :
    ((fefoBatches view.store view.today product).map (fun batch => StockLock.batch batch.pk)).Pairwise
      (fun l l' => l.rank place ≤ l'.rank place) := by
  rw [List.pairwise_map]
  refine (pairwise_fefoBatches view.store view.today product).imp_of_mem ?_
  intro a b ha hb hbefore
  rcases mem_fefoBatches.1 ha with ⟨hrow, hproduct, _⟩
  rcases mem_fefoBatches.1 hb with ⟨hrow', hproduct', _⟩
  have hplace := view.placed a hrow
  have hplace' := view.placed b hrow'
  refine rank_le_of_expires ?_ ?_
  · rw [hplace, hplace', hproduct, hproduct']
  · rw [hplace, hplace']
    exact hbefore

theorem voidOrder_ascending (saleId : Nat) :
    ((voidOrder view.store saleId).filterMap (fun item =>
      (view.store.batches.find item.productBatch).map
        (fun batch => StockLock.batch batch.pk))).Pairwise
      (fun l l' => l.rank place ≤ l'.rank place) := by
  have hsorted : (voidOrder view.store saleId).Pairwise
      (fun a b => voidKeyLe (voidKey view.store a) (voidKey view.store b)) :=
    List.pairwise_insertionSort _ _
  refine hsorted.filterMap _ ?_
  intro item item' hle l hl l' hl'
  rcases Option.map_eq_some_iff.1 hl with ⟨batch, hbatch, rfl⟩
  rcases Option.map_eq_some_iff.1 hl' with ⟨batch', hbatch', rfl⟩
  have hplace := view.placed batch (Table.find_eq_some.1 hbatch).1
  have hplace' := view.placed batch' (Table.find_eq_some.1 hbatch').1
  simp only [voidKeyLe, voidKey, hbatch, hbatch'] at hle
  rcases hle with hproduct | ⟨hproduct, hlater⟩
  · refine rank_le_of_product_lt ?_
    rw [hplace, hplace']
    exact hproduct
  · refine rank_le_of_expires ?_ ?_
    · rw [hplace, hplace']
      exact hproduct
    · rw [hplace, hplace']
      rcases hlater with hexpires | ⟨hexpires, hbatches | ⟨hbatches, _⟩⟩
      · exact .inl hexpires
      · exact .inr ⟨hexpires, Nat.le_of_lt hbatches⟩
      · exact .inr ⟨hexpires, Nat.le_of_eq hbatches⟩

theorem orders_ascending (saleId : Nat) :
    ((view.store.orders.rows.filter (fun order => order.transaction = some saleId)).map
      (fun order => StockLock.order order.pk)).Pairwise
      (fun l l' => l.rank place ≤ l'.rank place) := by
  rw [List.pairwise_map]
  refine List.pairwise_of_forall_mem_list ?_
  intro a ha b hb
  rcases List.mem_filter.1 ha with ⟨hrow, hsale⟩
  rcases List.mem_filter.1 hb with ⟨hrow', hsale'⟩
  rw [view.oneOrder a hrow b hrow' saleId (of_decide_eq_true hsale) (of_decide_eq_true hsale')]

theorem stockLocksOf_ascending (stmt : LockStatement) :
    (stockLocksOf view stmt).Pairwise (fun l l' => l.rank place ≤ l'.rank place) := by
  cases stmt with
  | productBatches product => exact fefoBatches_ascending view product
  | itemBatches saleId => exact voidOrder_ascending view saleId
  | orders saleId => exact orders_ascending view saleId
  | advisory _ | invoiceYear _ | sale _ | batch _ => exact List.pairwise_singleton _ _

/-- The kind of lock a statement asks for. -/
def LockStatement.kind : LockStatement → Nat
  | .advisory _ => 0
  | .invoiceYear _ => 1
  | .sale _ => 2
  | .productBatches _ => 3
  | .itemBatches _ => 3
  | .batch _ => 3
  | .orders _ => 4

theorem kind_of_mem {stmt : LockStatement} {l : StockLock} (h : l ∈ stockLocksOf view stmt) :
    l.kind = stmt.kind := by
  cases stmt with
  | productBatches product =>
      rcases List.mem_map.1 h with ⟨batch, _, rfl⟩
      rfl
  | itemBatches saleId =>
      rcases List.mem_filterMap.1 h with ⟨item, _, hl⟩
      rcases Option.map_eq_some_iff.1 hl with ⟨batch, _, rfl⟩
      rfl
  | orders saleId =>
      rcases List.mem_map.1 h with ⟨order, _, rfl⟩
      rfl
  | advisory _ | invoiceYear _ | sale _ | batch _ =>
      cases List.mem_singleton.1 h
      rfl

theorem product_of_mem {product : Nat} {l : StockLock}
    (h : l ∈ stockLocksOf view (.productBatches product)) :
    ∃ pk, l = .batch pk ∧ (place pk).1 = product := by
  rcases List.mem_map.1 h with ⟨batch, hbatch, rfl⟩
  rcases mem_fefoBatches.1 hbatch with ⟨hrow, hproduct, _⟩
  refine ⟨batch.pk, rfl, ?_⟩
  rw [view.placed batch hrow]
  exact hproduct

end Views

/-! ## The statements of a writer are in order -/

/-- Whatever they see, the first statement asks for no lock above one of the second. -/
def LockStatement.Before (place : Nat → Nat × Int) (stmt stmt' : LockStatement) : Prop :=
  ∀ view view' : StockView place, ∀ l ∈ stockLocksOf view stmt, ∀ l' ∈ stockLocksOf view' stmt',
    l.rank place ≤ l'.rank place

section Programs

variable {place : Nat → Nat × Int}

theorem before_of_kind_lt {stmt stmt' : LockStatement} (h : stmt.kind < stmt'.kind) :
    stmt.Before place stmt' := by
  intro view view' l hl l' hl'
  refine rank_le_of_kind_lt ?_
  rw [kind_of_mem view hl, kind_of_mem view' hl']
  exact h

theorem before_of_product_lt {product product' : Nat} (h : product < product') :
    (LockStatement.productBatches product).Before place (.productBatches product') := by
  intro view view' l hl l' hl'
  rcases product_of_mem view hl with ⟨pk, rfl, hproduct⟩
  rcases product_of_mem view' hl' with ⟨pk', rfl, hproduct'⟩
  refine rank_le_of_product_lt ?_
  rw [hproduct, hproduct']
  exact h

instance : Std.Total (fun a b : PricedItem × Nat => a.1.product ≤ b.1.product) :=
  ⟨fun a b => Nat.le_total a.1.product b.1.product⟩

instance : IsTrans (PricedItem × Nat) (fun a b => a.1.product ≤ b.1.product) :=
  ⟨fun _ _ _ hab hbc => Nat.le_trans hab hbc⟩

/-- A cart with every product once is sold product by product, upwards. -/
theorem lockOrder_products {lines : List PricedItem}
    (h : (lines.map PricedItem.product).Nodup) :
    (lockOrder lines).Pairwise (fun a b => a.1.product < b.1.product) := by
  have hsorted : (lockOrder lines).Pairwise (fun a b => a.1.product ≤ b.1.product) :=
    List.pairwise_insertionSort _ _
  have hperm : ((lockOrder lines).map (fun line => line.1.product)).Perm
      (lines.map PricedItem.product) := by
    have hzip : (lines.zipIdx 1).map (fun line => line.1.product) =
        lines.map PricedItem.product := by
      calc
        (lines.zipIdx 1).map (fun line => line.1.product)
            = ((lines.zipIdx 1).map Prod.fst).map PricedItem.product := by rw [List.map_map]; rfl
        _ = lines.map PricedItem.product := by rw [List.zipIdx_map_fst]
    rw [← hzip]
    exact (List.perm_insertionSort _ _).map _
  have hdistinct : (lockOrder lines).Pairwise (fun a b => a.1.product ≠ b.1.product) :=
    List.pairwise_map.1 (hperm.nodup_iff.2 h)
  exact (hsorted.and hdistinct).imp fun hab => lt_of_le_of_ne hab.1 hab.2

theorem saleLocks_before (clock : Clock) (args : SaleArgs) :
    (saleLocks clock args).Pairwise (LockStatement.Before place) := by
  unfold saleLocks
  split
  · exact List.Pairwise.nil
  · rename_i priced hpriced
    have hproducts : (priced.lines.map PricedItem.product).Nodup := by
      unfold priceSale at hpriced
      rcases demand_bind_eq_ok.1 hpriced with ⟨_, _, h⟩
      rcases bind_eq_ok.1 h with ⟨_, _, h⟩
      rcases bind_eq_ok.1 h with ⟨lines, hlines, h⟩
      rcases bind_eq_ok.1 h with ⟨_, _, h⟩
      cases pure_eq_ok.1 h
      exact priceItems_products hlines
    refine List.Pairwise.cons ?_ ?_
    · intro stmt hstmt
      rcases List.mem_map.1 hstmt with ⟨line, _, rfl⟩
      exact before_of_kind_lt (show 1 < 3 by decide)
    · rw [List.pairwise_map]
      exact (lockOrder_products hproducts).imp before_of_product_lt

theorem saleLocks_kind {clock : Clock} {args : SaleArgs} {stmt : LockStatement}
    (h : stmt ∈ saleLocks clock args) : 0 < stmt.kind := by
  unfold saleLocks at h
  split at h
  · cases h
  · rcases List.mem_cons.1 h with rfl | hline
    · exact show 0 < 1 by decide
    · rcases List.mem_map.1 hline with ⟨line, _, rfl⟩
      exact show 0 < 3 by decide

/-- An advisory lock comes before everything else. -/
theorem submissionLocks_before (submission : Option Int) {stmts : List LockStatement}
    (hkind : ∀ stmt ∈ stmts, 0 < stmt.kind) (h : stmts.Pairwise (LockStatement.Before place)) :
    (submissionLocks submission ++ stmts).Pairwise (LockStatement.Before place) := by
  cases submission with
  | none => exact h
  | some key => exact List.Pairwise.cons (fun stmt hstmt => before_of_kind_lt (hkind stmt hstmt)) h

theorem program_before (writer : StockWriter) :
    writer.program.Pairwise (LockStatement.Before place) := by
  cases writer with
  | checkout submission clock args =>
      exact submissionLocks_before submission (fun _ => saleLocks_kind) (saleLocks_before clock args)
  | placeOrder submission clock customer args =>
      exact submissionLocks_before submission (fun _ => saleLocks_kind) (saleLocks_before clock _)
  | encodeTransaction key clock args =>
      exact submissionLocks_before (some key) (fun _ => saleLocks_kind)
        (saleLocks_before clock _)
  | voidTransaction saleId =>
      refine List.Pairwise.cons ?_ (List.Pairwise.cons ?_ (List.pairwise_singleton _ _))
      · intro stmt hstmt
        rcases List.mem_cons.1 hstmt with rfl | hstmt
        · exact before_of_kind_lt (show 2 < 3 by decide)
        · cases List.mem_singleton.1 hstmt
          exact before_of_kind_lt (show 2 < 4 by decide)
      · intro stmt hstmt
        cases List.mem_singleton.1 hstmt
        exact before_of_kind_lt (show 3 < 4 by decide)
  | createStockAdjustment submission batch =>
      refine submissionLocks_before submission ?_ (List.pairwise_singleton _ _)
      intro stmt hstmt
      cases List.mem_singleton.1 hstmt
      exact show 0 < 3 by decide
  | updateEncodingPayment saleId => exact List.pairwise_singleton _ _

theorem stockRules_ascending : (stockRules place).Ascending (StockLock.rank place) :=
  { within := fun _ stmt _ view => stockLocksOf_ascending view stmt
    across := program_before }

end Programs

/-- However the stock writers interleave, and whatever happens to the data as long as every batch
keeps its product and expiration date, no writer waits for itself through others. -/
theorem stock_writers_never_deadlock (place : Nat → Nat × Int)
    (actions : List (LockAction StockWriter (StockView place))) (p : Nat) :
    ¬ (LockState.run (stockRules place) actions).Deadlocked p :=
  LockState.run_not_deadlocked stockRules_ascending rank_injective actions p

/-- The shelf on day 2. -/
def shelfView : StockView Store.shelf.place := Store.shelf.view 2 (by decide)

/-- An adjustment of the third batch has its lock when a checkout comes to it. -/
def crossingWriters : List (LockAction StockWriter (StockView Store.shelf.place)) :=
  [.enter 1 (.createStockAdjustment none 3), .look 1 shelfView, .acquire 1,
    .enter 2 (.checkout none { zone := Zone.fixed, now := 172800 }
      { items := [.priced 1 (.ofAmount 700) (.ofAmount 150)]
        staffUser := { pk := 1, role := .staff }
        amountTendered := some (.ofAmount 2000) }),
    .look 2 shelfView, .acquire 2, .look 2 shelfView, .acquire 2, .acquire 2]

example : (LockState.run (stockRules Store.shelf.place) crossingWriters).WaitsFor 2 1 :=
  ⟨.batch 3, [.batch 1], [], rfl, rfl, by decide⟩

end RosarioDairy
