import RosarioDairy.Inventory.Account
import RosarioDairy.Outcomes

/-!
# Bookkeeping — the store keeps an account for every batch

`Store.account` reads the account of a batch off the tables.  The refinement theorem
`outcome_accounts` says that whatever a successful operation does to the store, every account
follows the abstract steps.

Sale lines are dated by their transaction and returns belong to the batch of their sale line.  Both
references are resolved through a `Frame`, so that the accounts before and after an operation are
read with the same references while the rows they point to are being written.
-/

namespace RosarioDairy

open Foundations

/-! ## Reading accounts -/

def ProductBatch.holding (zone : Zone) (batch : ProductBatch) : Holding :=
  { product := batch.product
    initial := batch.initialQuantity
    remaining := batch.remainingQuantity
    status := batch.status
    expirationDate := batch.expirationDate
    dateReceived := batch.dateReceived
    createdDay := zone.localDate batch.createdAt
    historical := batch.isHistoricalReference }

/-- The day of a transaction's stock movement and the batch of a sale line, by key. -/
structure Frame where
  dayOf : Nat → Int
  batchOf : Nat → Option Nat

/-- The frame resolves the references of the store as its rows do. -/
structure Frame.Fits (zone : Zone) (s : Store) (frame : Frame) : Prop where
  items : ∀ item ∈ s.items.rows, frame.batchOf item.pk = some item.productBatch
  transactions : ∀ txn ∈ s.transactions.rows,
    frame.dayOf txn.pk = zone.localDate txn.movementAt

/-- The frame that looks the references up in the store. -/
def Store.frame (zone : Zone) (s : Store) : Frame :=
  { dayOf := fun txn => ((s.transactions.find txn).map
      (fun row => zone.localDate row.movementAt)).getD 0
    batchOf := fun item => (s.items.find item).map TransactionItem.productBatch }

theorem Store.frame_fits (zone : Zone) (s : Store) : (s.frame zone).Fits zone s := by
  refine { items := ?_, transactions := ?_ }
  · intro item hitem
    have hfind : s.items.find item.pk = some item := s.items.find_of_mem hitem
    simp [Store.frame, hfind]
  · intro txn htxn
    have hfind : s.transactions.find txn.pk = some txn := s.transactions.find_of_mem htxn
    simp [Store.frame, hfind]

/-- The account of the batch with primary key `pk`. -/
def Store.account (zone : Zone) (frame : Frame) (s : Store) (pk : Nat) : Account :=
  { holding := (s.batches.find pk).map (ProductBatch.holding zone)
    sold := (s.items.rows.filter (fun item => item.productBatch = pk)).map
      (fun item => { day := frame.dayOf item.transaction, quantity := item.quantity })
    adjusted := (s.adjustments.rows.filter (fun row => row.productBatch = pk)).map
      (fun row => { day := zone.localDate row.createdAt, quantity := row.quantity })
    returned := (s.returns.rows.filter (fun row => frame.batchOf row.saleItem = some pk)).map
      (fun row => { day := zone.localDate row.createdAt, quantity := row.quantity }) }

section Refinement

variable {clock : Clock} {frame : Frame} {s s' : Store}

/-- An account is read off four tables. -/
theorem account_congr (zone : Zone) (frame : Frame) (hbatches : s'.batches = s.batches)
    (hitems : s'.items = s.items) (hadjustments : s'.adjustments = s.adjustments)
    (hreturns : s'.returns = s.returns) (pk : Nat) :
    s'.account zone frame pk = s.account zone frame pk := by
  simp [Store.account, hbatches, hitems, hadjustments, hreturns]

theorem holding_put (zone : Zone) {batch : ProductBatch} (saved : ProductBatch)
    {batches : Table ProductBatch} (hfind : batches.find saved.pk = some batch) (pk : Nat) :
    ((batches.put saved).find pk).map (ProductBatch.holding zone) =
      if pk = saved.pk then some (saved.holding zone)
      else (batches.find pk).map (ProductBatch.holding zone) := by
  have hput := Table.find_put batches saved pk
  have hkey : Row.pk saved = saved.pk := rfl
  rw [hput, hkey]
  by_cases hpk : pk = saved.pk
  · simp [hpk, hfind]
  · simp [hpk]

/-! ## Receiving, editing and adjusting -/

theorem received_account {attrs : BatchAttrs} {product : Nat} {quantity expirationDate : Int}
    {batchNumber : String} {sequences : List BatchSequence} (soldOn : Int)
    (hquantity : 1 ≤ quantity)
    (hreceived : attrs.dateReceived.getD clock.today ≤ clock.today) (pk : Nat) :
    AccountSteps clock.today soldOn (s.account clock.zone frame pk)
      (Store.account clock.zone frame
        { s with
          batchSequences := sequences
          batches := s.batches.create
            (newBatch clock attrs product quantity expirationDate batchNumber) } pk) := by
  have hfind := Table.find_create s.batches
    (newBatch clock attrs product quantity expirationDate batchNumber) (fun _ => rfl) pk
  by_cases hpk : pk = s.batches.next
  · subst hpk
    -- the new batch: its account was empty
    rw [if_pos rfl] at hfind
    have hnone : s.batches.find s.batches.next = none := s.batches.find_next (Nat.le_refl _)
    refine Relation.ReflTransGen.single ?_
    have hstep := @AccountStep.receive clock.today soldOn
      (s.account clock.zone frame s.batches.next)
      ((newBatch clock attrs product quantity expirationDate batchNumber
        s.batches.next).holding clock.zone)
      (by simp [Store.account, hnone]) hquantity rfl rfl rfl hreceived
    simpa [Store.account, hfind] using hstep
  · -- any other batch keeps its row, and so its account
    have hsame : Store.account clock.zone frame
        { s with
          batchSequences := sequences
          batches := s.batches.create
            (newBatch clock attrs product quantity expirationDate batchNumber) } pk =
        s.account clock.zone frame pk := by
      simp [Store.account, hfind, hpk]
    rw [hsame]

theorem edited_account {current : ProductBatch} {attrs : BatchAttrs} (soldOn : Int)
    (hfind : s.batches.find current.pk = some current)
    (hreceived : (editedBatch current attrs).dateReceived ≤ clock.today) (pk : Nat) :
    AccountSteps clock.today soldOn (s.account clock.zone frame pk)
      (Store.account clock.zone frame
        { s with batches := s.batches.put (editedBatch current attrs) } pk) := by
  have hholding := holding_put clock.zone (editedBatch current attrs) hfind pk
  by_cases hpk : pk = current.pk
  · refine Relation.ReflTransGen.single ?_
    have hstep := @AccountStep.edit clock.today soldOn
      (s.account clock.zone frame pk) (current.holding clock.zone)
      (editedBatch current attrs).expirationDate (editedBatch current attrs).dateReceived
      (by simp [Store.account, hpk, hfind]) hreceived
    have hkey : (editedBatch current attrs).pk = current.pk := rfl
    rw [hkey, if_pos hpk] at hholding
    have hEq : Store.account clock.zone frame
        { s with batches := s.batches.put (editedBatch current attrs) } pk =
        { s.account clock.zone frame pk with
          holding := some ((editedBatch current attrs).holding clock.zone) } := by
      simp [Store.account, hholding]
    rw [hEq]
    exact hstep
  · have hkey : (editedBatch current attrs).pk = current.pk := rfl
    rw [hkey, if_neg hpk] at hholding
    have hsame : Store.account clock.zone frame
        { s with batches := s.batches.put (editedBatch current attrs) } pk =
        s.account clock.zone frame pk := by
      simp [Store.account, hholding]
    rw [hsame]

theorem adjusted_account {kind : AdjustmentType} {batch : ProductBatch} {quantity unitCost : Int}
    {reason : Option String} {adjustedBy : User} (soldOn : Int)
    (hfind : s.batches.find batch.pk = some batch)
    (hkind : kind ≠ .correction → 0 < quantity)
    (hstatus : batch.status ≠ .disposed)
    (hreceived : batch.dateReceived ≤ clock.today)
    (henough : 0 < quantity → quantity ≤ batch.remainingQuantity)
    (hcap : batch.remainingQuantity - quantity ≤ batch.initialQuantity) (pk : Nat) :
    AccountSteps clock.today soldOn (s.account clock.zone frame pk)
      (Store.account clock.zone frame
        { s with
          batches := s.batches.put (adjustedBatch batch kind quantity)
          adjustments := s.adjustments.create
            (newAdjustment clock batch.pk kind quantity unitCost reason adjustedBy) } pk) := by
  have hholding := holding_put clock.zone (adjustedBatch batch kind quantity)
    hfind pk
  have hkey : (adjustedBatch batch kind quantity).pk = batch.pk := rfl
  by_cases hpk : pk = batch.pk
  · subst hpk
    -- the adjusted batch takes one step of its account
    refine Relation.ReflTransGen.single ?_
    have hstep := @AccountStep.adjust clock.today soldOn
      (s.account clock.zone frame batch.pk) (batch.holding clock.zone) kind quantity
      (by simp [Store.account, hfind]) hkind hstatus hreceived henough hcap
    rw [hkey, if_pos rfl] at hholding
    have hEq : Store.account clock.zone frame
        { s with
          batches := s.batches.put (adjustedBatch batch kind quantity)
          adjustments := s.adjustments.create
            (newAdjustment clock batch.pk kind quantity unitCost reason adjustedBy) } batch.pk =
        { s.account clock.zone frame batch.pk with
          holding := some ((adjustedBatch batch kind quantity).holding clock.zone)
          adjusted := (s.account clock.zone frame batch.pk).adjusted ++
            [{ day := clock.today, quantity := quantity }] } := by
      simp [Store.account, hholding, newAdjustment, List.filter_append, Clock.today]
    rw [hEq]
    exact hstep
  · -- another batch is neither written nor named by the new adjustment
    have hne : ¬ batch.pk = pk := fun h => hpk h.symm
    rw [hkey, if_neg hpk] at hholding
    have hsame : Store.account clock.zone frame
        { s with
          batches := s.batches.put (adjustedBatch batch kind quantity)
          adjustments := s.adjustments.create
            (newAdjustment clock batch.pk kind quantity unitCost reason adjustedBy) } pk =
        s.account clock.zone frame pk := by
      simp [Store.account, hholding, newAdjustment, List.filter_append, hne]
    rw [hsame]

/-! ## Selling -/

theorem drawn_account {batch : ProductBatch} {take : Int} {txn : Nat}
    (mk : Nat → TransactionItem) {hpk : ∀ n, Row.pk (mk n) = n}
    (hfind : s.batches.find batch.pk = some batch)
    (hsellable : batch.isSellable clock.today = true) (hle : take ≤ batch.remainingQuantity)
    (htake : take = batch.remainingQuantity ∨ 0 < take)
    (hbatch : ∀ n, (mk n).productBatch = batch.pk) (htxn : ∀ n, (mk n).transaction = txn)
    (hquantity : ∀ n, (mk n).quantity = take) (pk : Nat) :
    AccountSteps clock.today (frame.dayOf txn) (s.account clock.zone frame pk)
      (Store.account clock.zone frame
        { s with
          batches := s.batches.put (batch.drawn take)
          items := s.items.create mk hpk } pk) := by
  have hholding := holding_put clock.zone (batch.drawn take) hfind pk
  have hkey : (batch.drawn take).pk = batch.pk := rfl
  by_cases hpk' : pk = batch.pk
  · subst hpk'
    -- the drawn batch takes one step of its account
    refine Relation.ReflTransGen.single ?_
    have hterms : (batch.holding clock.zone).Sellable clock.today := by
      simpa [ProductBatch.isSellable, Holding.Sellable, ProductBatch.holding] using hsellable
    have hstep := @AccountStep.sell clock.today (frame.dayOf txn)
      (s.account clock.zone frame batch.pk) (batch.holding clock.zone) take
      (by simp [Store.account, hfind]) hterms hle htake
    rw [hkey, if_pos rfl] at hholding
    have hEq : Store.account clock.zone frame
        { s with
          batches := s.batches.put (batch.drawn take)
          items := s.items.create mk hpk } batch.pk =
        { s.account clock.zone frame batch.pk with
          holding := some ((batch.drawn take).holding clock.zone)
          sold := (s.account clock.zone frame batch.pk).sold ++
            [{ day := frame.dayOf txn, quantity := take }] } := by
      simp [Store.account, hholding, List.filter_append, hbatch, htxn, hquantity]
    rw [hEq]
    exact hstep
  · -- another batch is neither written nor named by the new item
    have hne : ¬ batch.pk = pk := fun h => hpk' h.symm
    rw [hkey, if_neg hpk'] at hholding
    have hsame : Store.account clock.zone frame
        { s with
          batches := s.batches.put (batch.drawn take)
          items := s.items.create mk hpk } pk = s.account clock.zone frame pk := by
      simp [Store.account, hholding, List.filter_append, hbatch, hne]
    rw [hsame]

/-- The consuming loop draws on the accounts of the batches it goes through, each in its turn. -/
theorem consumed_account (catalogue : Store) (txn lineNumber : Nat) (unitPrice : Int) (pk : Nat) :
    ∀ (batches : List ProductBatch) (quantity quantitySoFar grossSoFar : Int) (s : Store),
      (∀ batch ∈ batches, s.batches.find batch.pk = some batch ∧
        batch.isSellable clock.today = true) →
      (batches.map ProductBatch.pk).Nodup →
      AccountSteps clock.today (frame.dayOf txn) (s.account clock.zone frame pk)
        (Store.account clock.zone frame
          { s with
            batches := ((consume batches quantity).map Prod.fst).foldl Table.put s.batches
            items := createItems catalogue txn lineNumber unitPrice (consume batches quantity)
              quantitySoFar grossSoFar s.items } pk)
  | [], quantity, quantitySoFar, grossSoFar, s, _, _ => Relation.ReflTransGen.refl
  | batch :: batches, quantity, quantitySoFar, grossSoFar, s, hrows, hnodup => by
      by_cases hdone : quantity ≤ 0
      · simp only [consume, hdone, if_true]
        exact Relation.ReflTransGen.refl
      · rcases hrows batch (by simp) with ⟨hfind, hsellable⟩
        rcases List.nodup_cons.1 hnodup with ⟨hfresh, hnodup'⟩
        let take := min batch.remainingQuantity quantity
        let gross := money ((quantitySoFar + take) * unitPrice)
        let mk := newItem catalogue txn lineNumber unitPrice batch take (gross - grossSoFar)
        let s₁ : Store := { s with
          batches := s.batches.put (batch.drawn take)
          items := s.items.create mk }
        -- the take is all of the batch, or what is still missing, which is positive
        have htake : take = batch.remainingQuantity ∨ 0 < take := by
          rcases Int.le_total batch.remainingQuantity quantity with h | h
          · exact .inl (Int.min_eq_left h)
          · right
            have hEq : take = quantity := Int.min_eq_right h
            omega
        have hfirst : AccountSteps clock.today (frame.dayOf txn) (s.account clock.zone frame pk)
            (s₁.account clock.zone frame pk) :=
          drawn_account mk hfind hsellable (Int.min_le_left _ _) htake (fun _ => rfl)
            (fun _ => rfl) (fun _ => rfl) pk
        -- the later batches are other rows, so they are still as they were read
        have hrows₁ : ∀ later ∈ batches, s₁.batches.find later.pk = some later ∧
            later.isSellable clock.today = true := by
          intro later hlater
          rcases hrows later (by simp [hlater]) with ⟨hfind', hsellable'⟩
          have hne : ¬ later.pk = batch.pk := fun h =>
            hfresh (List.mem_map.2 ⟨later, hlater, h⟩)
          refine ⟨?_, hsellable'⟩
          have hput := Table.find_put s.batches (batch.drawn take) later.pk
          have hkey : Row.pk (batch.drawn take) = batch.pk := rfl
          rw [hkey, if_neg hne] at hput
          exact hput.trans hfind'
        have hrest := consumed_account catalogue txn lineNumber unitPrice pk batches
          (quantity - take) (quantitySoFar + take) gross s₁ hrows₁ hnodup'
        simp only [consume, hdone, if_false]
        exact hfirst.trans hrest

theorem sellLine_account {txn : Nat} {line : PricedItem × Nat}
    (h : sellLine clock txn s line = .ok s') (pk : Nat) :
    AccountSteps clock.today (frame.dayOf txn) (s.account clock.zone frame pk)
      (s'.account clock.zone frame pk) := by
  rw [(sellLine_ok h).2]
  refine consumed_account s txn line.2 line.1.unitPrice pk _ line.1.quantity 0 0 s ?_
    (nodup_fefoBatches s clock.today line.1.product)
  intro batch hbatch
  rcases mem_fefoBatches.1 hbatch with ⟨hmem, _, hsellable⟩
  exact ⟨s.batches.find_of_mem hmem, hsellable⟩

theorem sale_account {sale : Transaction} (h : SaleEffect clock s s' sale) (pk : Nat) :
    AccountSteps clock.today (frame.dayOf sale.pk) (s.account clock.zone frame pk)
      (s'.account clock.zone frame pk) := by
  rcases h.sold with ⟨lines, s₁, s₂, hbatches₁, hitems₁, hadjustments₁, hreturns₁, hlines,
    hbatches₂, hitems₂⟩
  rcases sellLines_store hlines with ⟨batches, items, hs₂⟩
  have hsteps : AccountSteps clock.today (frame.dayOf sale.pk) (s₁.account clock.zone frame pk)
      (s₂.account clock.zone frame pk) := by
    refine foldlM_preserves
      (P := fun s' => AccountSteps clock.today (frame.dayOf sale.pk)
        (s₁.account clock.zone frame pk) (s'.account clock.zone frame pk))
      ?_ hlines Relation.ReflTransGen.refl
    intro line _ s₃ s₄ hsteps hline
    exact hsteps.trans (sellLine_account hline pk)
  subst hs₂
  have hbefore := account_congr clock.zone frame hbatches₁ hitems₁
    hadjustments₁ hreturns₁ pk
  have hafter := account_congr clock.zone frame hbatches₂ hitems₂
    (h.adjustments.trans hadjustments₁.symm) (h.returns.trans hreturns₁.symm) pk
  rw [hbefore, ← hafter] at hsteps
  exact hsteps

/-! ## Voiding -/

theorem restoreAmount_le {batch : ProductBatch} {quantity : Int}
    (h : 0 < restoreAmount batch quantity) :
    batch.remainingQuantity + restoreAmount batch quantity ≤ batch.initialQuantity := by
  unfold restoreAmount at h ⊢
  dsimp only at h ⊢
  split at h
  · rename_i hrestorable
    simp only [hrestorable, if_true]
    omega
  · omega

/-- A turn of the void loop credits the account of the batch its line was sold from. -/
theorem voidItem_account {item : TransactionItem} {skipped skipped' : List String} (soldOn : Int)
    (hitem : frame.batchOf item.pk = some item.productBatch)
    (h : voidItem clock (s, skipped) item = .ok (s', skipped')) (pk : Nat) :
    AccountSteps clock.today soldOn (s.account clock.zone frame pk)
      (s'.account clock.zone frame pk) := by
  rcases voidItem_ok h with ⟨batch, amount, hfind, hnonneg, _, hskip, hrestore, rfl⟩
  have hbatch : batch.pk = item.productBatch := (Table.find_eq_some.1 hfind).2
  have hfind' : s.batches.find (restoredBatch batch amount).pk = some batch := by
    have hkey : (restoredBatch batch amount).pk = item.productBatch := hbatch
    rw [hkey]
    exact hfind
  have hput := holding_put clock.zone (restoredBatch batch amount) hfind' pk
  -- the batch row is written only when something is given back
  have hholding : ((if 0 < amount then s.batches.put (restoredBatch batch amount)
      else s.batches).find pk).map (ProductBatch.holding clock.zone) =
        if pk = item.productBatch then some ((batch.holding clock.zone).restored amount)
        else (s.batches.find pk).map (ProductBatch.holding clock.zone) := by
    have hkey : (restoredBatch batch amount).pk = item.productBatch := hbatch
    by_cases hamount : 0 < amount
    · rw [if_pos hamount, hput, hkey]
      have hEq : (restoredBatch batch amount).holding clock.zone =
          (batch.holding clock.zone).restored amount := by
        simp [ProductBatch.holding, restoredBatch, Holding.restored, hamount]
      rw [hEq]
    · have hzero : amount = 0 := by omega
      subst hzero
      rw [if_neg hamount]
      by_cases hpk : pk = item.productBatch
      · subst hpk
        simp [hfind, Holding.restored]
      · rw [if_neg hpk]
  by_cases hpk : pk = item.productBatch
  · subst hpk
    refine Relation.ReflTransGen.single ?_
    -- a skipped batch gets nothing, and a restored one no more than it lacks
    have hcap : 0 < amount → batch.remainingQuantity + amount ≤ batch.initialQuantity := by
      intro hamount
      have hkept : batch.isSkipped clock.today = false := by
        cases hcase : batch.isSkipped clock.today with
        | false => rfl
        | true =>
            have := hskip hcase
            omega
      have hEq := hrestore hkept
      rw [hEq] at hamount ⊢
      exact restoreAmount_le hamount
    have hlost : (batch.holding clock.zone).Lost clock.today → amount = 0 := by
      intro hlost
      exact hskip (by simpa [ProductBatch.isSkipped, Holding.Lost, ProductBatch.holding] using hlost)
    have hstep := @AccountStep.restore clock.today soldOn
      (s.account clock.zone frame item.productBatch) (batch.holding clock.zone) amount
      (by simp [Store.account, hfind]) hnonneg hcap hlost
    -- the voided line's batch takes one step of its account
    rw [if_pos rfl] at hholding
    have hEq : Store.account clock.zone frame
        { s with
          batches := if 0 < amount then s.batches.put (restoredBatch batch amount) else s.batches
          returns := s.returns.create (newReturn clock item.pk amount) } item.productBatch =
        { s.account clock.zone frame item.productBatch with
          holding := some ((batch.holding clock.zone).restored amount)
          returned := (s.account clock.zone frame item.productBatch).returned ++
            [{ day := clock.today, quantity := amount }] } := by
      simp only [Store.account, hholding]
      simp [newReturn, List.filter_append, hitem, Clock.today]
    rw [hEq]
    exact hstep
  · -- another batch is neither written nor named by the new return
    have hne : ¬ item.productBatch = pk := fun h => hpk h.symm
    rw [if_neg hpk] at hholding
    have hsame : Store.account clock.zone frame
        { s with
          batches := if 0 < amount then s.batches.put (restoredBatch batch amount) else s.batches
          returns := s.returns.create (newReturn clock item.pk amount) } pk =
        s.account clock.zone frame pk := by
      simp only [Store.account, hholding]
      simp [newReturn, List.filter_append, hitem, hne]
    rw [hsame]

/-- The lines the void loop visits are the lines of the sale. -/
theorem mem_voidOrder {s : Store} {txn : Nat} {item : TransactionItem} :
    item ∈ voidOrder s txn ↔ item ∈ s.items.rows ∧ item.transaction = txn := by
  simp [voidOrder, List.mem_insertionSort, Store.itemsOf]

theorem voided_account {txn : Nat} {skipped : List String} (soldOn : Int)
    (hframe : ∀ item ∈ s.items.rows, frame.batchOf item.pk = some item.productBatch)
    (h : (voidOrder s txn).foldlM (voidItem clock) (s, []) = .ok (s', skipped)) (pk : Nat) :
    AccountSteps clock.today soldOn (s.account clock.zone frame pk)
      (s'.account clock.zone frame pk) := by
  refine foldlM_preserves
    (P := fun state => AccountSteps clock.today soldOn (s.account clock.zone frame pk)
      (state.1.account clock.zone frame pk))
    ?_ h Relation.ReflTransGen.refl
  rintro item hitem ⟨s₁, skipped₁⟩ ⟨s₂, skipped₂⟩ hsteps hvoid
  exact hsteps.trans
    (voidItem_account soldOn (hframe item (mem_voidOrder.1 hitem).1) hvoid pk)

end Refinement

/-! ## The refinement theorem -/

/-- Saving a transaction with another payment or as voided keeps its movement day. -/
theorem fits_put {zone : Zone} {frame : Frame} {transactions : Table Transaction}
    {sale saved : Transaction}
    (hfits : ∀ txn ∈ (transactions.put saved).rows,
      frame.dayOf txn.pk = zone.localDate txn.movementAt)
    (hfind : transactions.find saved.pk = some sale)
    (hmovement : saved.movementAt = sale.movementAt) :
    ∀ txn ∈ transactions.rows, frame.dayOf txn.pk = zone.localDate txn.movementAt := by
  rcases Table.find_eq_some.1 hfind with ⟨hmem, hpk⟩
  have hkey : sale.pk = saved.pk := hpk
  intro txn htxn
  by_cases hsame : txn.pk = sale.pk
  · have hEq : txn = sale := transactions.eq_of_pk_eq htxn hmem hsame
    subst hEq
    have hput := hfits saved (Table.mem_put.2 (.inr ⟨rfl, txn, hmem, hpk⟩))
    rw [hkey, hput, hmovement]
  · refine hfits txn (Table.mem_put.2 (.inl ⟨htxn, ?_⟩))
    intro h
    exact hsame (h.trans hkey.symm)

/-- Whatever a successful operation does, the account of every batch follows the abstract steps of
the business day; an operation that moves stock when it is entered books its sales on that day. -/
theorem outcome_accounts {clock : Clock} {op : Operation} {s s' : Store}
    (h : Outcome clock op s s') {frame : Frame} (hframe : frame.Fits clock.zone s') :
    ∃ soldOn, (op.isPhysical → soldOn = clock.today) ∧
      ∀ pk, AccountSteps clock.today soldOn (s.account clock.zone frame pk)
        (s'.account clock.zone frame pk) := by
  -- each outcome moves the accounts by the steps of its own lemma
  cases h with
  | unchanged => exact ⟨clock.today, fun _ => rfl, fun _ => Relation.ReflTransGen.refl⟩
  | received attrs product quantity expirationDate batchNumber sequences hquantity hexpiration
      hreceived =>
      exact ⟨clock.today, fun _ => rfl, received_account clock.today hquantity hreceived⟩
  | edited batch current attrs hfind hexpiration hreceived =>
      have hpk : current.pk = batch := (Table.find_eq_some.1 hfind).2
      subst hpk
      exact ⟨clock.today, fun _ => rfl, edited_account clock.today hfind hreceived⟩
  | sold s' sale heffect hmovement =>
      -- a sale of goods that move is dated by its sale, not by the day of the step
      refine ⟨frame.dayOf sale.pk, ?_, sale_account heffect⟩
      intro hphysical
      have hmem : sale ∈ s'.transactions.rows := by
        rw [heffect.transactions]
        simp
      rw [hframe.transactions sale hmem, hmovement hphysical]
      rfl
  | adjusted kind pk batch quantity unitCost reason adjustedBy hfind hkind hstatus hreceived henough
      hcap =>
      have hpk : batch.pk = pk := (Table.find_eq_some.1 hfind).2
      subst hpk
      exact ⟨clock.today, fun _ => rfl,
        adjusted_account clock.today hfind hkind hstatus hreceived henough hcap⟩
  | voided sale s₁ skipped voidedBy reason hfind hlocal hlive hitems =>
      rcases voidItems_store hitems with ⟨batches, returns, hs₁⟩
      -- voiding writes batches and returns only, so the lines keep their batches
      have hrefs : ∀ item ∈ s.items.rows, frame.batchOf item.pk = some item.productBatch := by
        have hsame : s₁.items = s.items := by rw [hs₁]
        rw [← hsame]
        exact hframe.items
      refine ⟨clock.today, fun _ => rfl, ?_⟩
      intro pk
      exact voided_account clock.today hrefs hitems pk
  | paid sale user method status tendered values hfind hlive hstatus hvalues =>
      exact ⟨clock.today, fun _ => rfl, fun _ => Relation.ReflTransGen.refl⟩

/-- References that fit the store after an operation fit the store before it: rows keep the batch
they were sold from and the instant they moved stock. -/
theorem Outcome.fits_before {clock : Clock} {op : Operation} {s s' : Store}
    (h : Outcome clock op s s') {frame : Frame} (hframe : frame.Fits clock.zone s') :
    frame.Fits clock.zone s := by
  cases h with
  | unchanged => exact hframe
  | received => exact { items := hframe.items, transactions := hframe.transactions }
  | edited => exact { items := hframe.items, transactions := hframe.transactions }
  | sold s' sale heffect hmovement =>
      rcases heffect.items with ⟨new, hitems, _⟩
      refine { items := ?_, transactions := ?_ }
      · intro item hitem
        exact hframe.items item (by simp [hitems, hitem])
      · intro txn htxn
        exact hframe.transactions txn (by simp [heffect.transactions, htxn])
  | adjusted => exact { items := hframe.items, transactions := hframe.transactions }
  | voided sale s₁ skipped voidedBy reason hfind hlocal hlive hitems =>
      rcases voidItems_store hitems with ⟨batches, returns, rfl⟩
      refine { items := hframe.items, transactions := ?_ }
      exact fits_put hframe.transactions hfind rfl
  | paid sale user method status tendered values hfind hlive hstatus hvalues =>
      refine { items := hframe.items, transactions := ?_ }
      exact fits_put hframe.transactions hfind rfl

end RosarioDairy
