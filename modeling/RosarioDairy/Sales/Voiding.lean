import RosarioDairy.Inventory.Bookkeeping

/-!
# Voiding — what cancellation leaves behind

Both API paths end in `void_transaction`.  The invariant ties the transactions, their orders, their
sale lines and the stock returns together; it holds in every store reached from an imported history,
and a voided sale keeps its returns for good.
-/

namespace RosarioDairy

open Foundations

/-! ## The void loop -/

theorem returnsOf_create {s : Store} {clock : Clock} {item : Nat} {amount : Int}
    {batches : Table ProductBatch} (k : Nat) :
    Store.returnsOf
      { s with
        batches := batches
        returns := s.returns.create (newReturn clock item amount) } k =
      s.returnsOf k ++ if item = k then [newReturn clock item amount s.returns.next] else [] := by
  by_cases h : item = k
  · simp [Store.returnsOf, List.filter_append, newReturn, h]
  · simp [Store.returnsOf, List.filter_append, newReturn, h]

/-- A batch the loop must skip stays as it is. -/
theorem voidItem_skips {clock : Clock} {item : TransactionItem} {s s' : Store}
    {skipped skipped' : List String} (h : voidItem clock (s, skipped) item = .ok (s', skipped'))
    {pk : Nat} {batch : ProductBatch} (hfind : s.batches.find pk = some batch)
    (hskip : batch.isSkipped clock.today = true) : s'.batches.find pk = some batch := by
  rcases voidItem_ok h with ⟨restored, amount, hrestored, _, _, hnothing, _, rfl⟩
  by_cases hamount : 0 < amount
  · have hne : ¬ pk = Row.pk (restoredBatch restored amount) := by
      intro hpk
      have hkey : restored.pk = item.productBatch := (Table.find_eq_some.1 hrestored).2
      have hpk' : pk = item.productBatch := hpk.trans hkey
      subst hpk'
      have hEq : batch = restored := Option.some.inj (hfind.symm.trans hrestored)
      subst hEq
      have := hnothing hskip
      omega
    have hput := Table.find_put s.batches (restoredBatch restored amount) pk
    rw [if_neg hne] at hput
    simpa [hamount] using hput.trans hfind
  · simpa [hamount] using hfind

/-- What a void records for a sale line: one return between zero and the line quantity, and zero
for a batch that was expired or disposed. -/
def ReturnedFor (today : Int) (s s' : Store) (item : TransactionItem) : Prop :=
  ∃ returned, s'.returnsOf item.pk = [returned] ∧ 0 ≤ returned.quantity ∧
    (0 ≤ item.quantity → returned.quantity ≤ item.quantity) ∧
    ∀ batch, s.batches.find item.productBatch = some batch → batch.isSkipped today = true →
      returned.quantity = 0

theorem restoreAmount_le_quantity {batch : ProductBatch} {quantity : Int} (h : 0 ≤ quantity) :
    restoreAmount batch quantity ≤ quantity := by
  unfold restoreAmount
  dsimp only
  split
  · exact Int.min_le_left _ _
  · exact h

/-- The loop records one return for each line it visits and none for any other line. -/
theorem voidItems_returns {clock : Clock} :
    ∀ {items : List TransactionItem} {s s' : Store} {skipped skipped' : List String},
      (items.map TransactionItem.pk).Nodup →
      items.foldlM (voidItem clock) (s, skipped) = .ok (s', skipped') →
      (∀ item ∈ items, ReturnedFor clock.today s s' item) ∧
        ∀ k, k ∉ items.map TransactionItem.pk → s'.returnsOf k = s.returnsOf k
  | [], s, s', skipped, skipped', _, h => by
      have hEq : s = s' := congrArg Prod.fst (pure_eq_ok.1 h)
      subst hEq
      exact ⟨by simp, fun _ _ => rfl⟩
  | item :: items, s, s', skipped, skipped', hnodup, h => by
      rw [List.foldlM_cons] at h
      rcases bind_eq_ok.1 h with ⟨⟨s₁, skipped₁⟩, hitem, hrest⟩
      rcases List.nodup_cons.1 hnodup with ⟨hnotin, hnodup'⟩
      rcases voidItems_returns hnodup' hrest with ⟨hlines, hothers⟩
      -- a lost batch stays as it is while other lines are voided
      have hkept : ∀ {pk : Nat} {batch : ProductBatch}, s.batches.find pk = some batch →
          batch.isSkipped clock.today = true → s₁.batches.find pk = some batch :=
        fun hfind hskip => voidItem_skips hitem hfind hskip
      rcases voidItem_ok hitem with ⟨batch, amount, hfind, hnonneg, hfresh, hskip, hrestore, rfl⟩
      -- the line had no return before: the unique constraint would have refused the new one
      have hnone : s.returnsOf item.pk = [] := by
        refine List.filter_eq_nil_iff.2 ?_
        intro returned hreturned
        simpa using hfresh returned hreturned
      refine ⟨?_, ?_⟩
      · intro line hline
        rcases List.mem_cons.1 hline with rfl | hlater
        · refine ⟨newReturn clock line.pk amount s.returns.next, ?_, hnonneg, ?_, ?_⟩
          · -- the return of this line is not touched by the lines after it
            rw [hothers line.pk hnotin, returnsOf_create, hnone]
            simp
          · intro hquantity
            cases hcase : batch.isSkipped clock.today with
            | true =>
                have hzero : amount = 0 := hskip hcase
                subst hzero
                exact hquantity
            | false =>
                have hEq : amount = restoreAmount batch line.quantity := hrestore hcase
                subst hEq
                exact restoreAmount_le_quantity hquantity
          · intro batch' hbatch' hskip'
            have hEq : batch' = batch := Option.some.inj (hbatch'.symm.trans hfind)
            subst hEq
            exact hskip hskip'
        · -- a later line reads a batch that this line may have changed, but not if it is lost
          rcases hlines line hlater with ⟨returned, hreturned, hle, hcap, hlost⟩
          exact ⟨returned, hreturned, hle, hcap,
            fun batch' hbatch' hskip' => hlost batch' (hkept hbatch' hskip') hskip'⟩
      · intro k hk
        have hne : ¬ item.pk = k := fun hEq => hk (by simp [hEq])
        have hk' : k ∉ items.map TransactionItem.pk := fun hmem => hk (by simp [hmem])
        rw [hothers k hk', returnsOf_create]
        simp [hne]

theorem nodup_voidOrder (s : Store) (txn : Nat) :
    ((voidOrder s txn).map TransactionItem.pk).Nodup := by
  have hperm := List.perm_insertionSort
    (fun a b => voidKeyLe (voidKey s a) (voidKey s b)) (s.itemsOf txn)
  refine (hperm.map TransactionItem.pk).nodup_iff.2 ?_
  exact s.items.nodup.sublist ((List.filter_sublist).map TransactionItem.pk)

theorem mem_itemsOf {s : Store} {txn : Nat} {item : TransactionItem} :
    item ∈ s.itemsOf txn ↔ item ∈ s.items.rows ∧ item.transaction = txn := by
  simp [Store.itemsOf]

/-- A successful void returns every line of its sale and touches no other line. -/
theorem void_returns {clock : Clock} {s s' : Store} {txn : Nat} {skipped : List String}
    (h : (voidOrder s txn).foldlM (voidItem clock) (s, []) = .ok (s', skipped)) :
    (∀ item ∈ s.itemsOf txn, ReturnedFor clock.today s s' item) ∧
      ∀ item ∈ s.items.rows, item.transaction ≠ txn →
        s'.returnsOf item.pk = s.returnsOf item.pk := by
  rcases voidItems_returns (nodup_voidOrder s txn) h with ⟨hlines, hothers⟩
  refine ⟨?_, ?_⟩
  · intro item hitem
    exact hlines item (mem_voidOrder.2 (mem_itemsOf.1 hitem))
  · intro item hitem hne
    refine hothers item.pk ?_
    intro hmem
    rcases List.mem_map.1 hmem with ⟨line, hline, hpk⟩
    rcases mem_voidOrder.1 hline with ⟨hrow, htxn⟩
    have hEq : line = item := s.items.eq_of_pk_eq hrow hitem hpk
    exact hne (hEq ▸ htxn)

/-- Every return the loop leaves behind was there before or is of a line of the sale. -/
theorem void_returns_item {clock : Clock} {s s' : Store} {txn : Nat} {skipped : List String}
    (h : (voidOrder s txn).foldlM (voidItem clock) (s, []) = .ok (s', skipped))
    {returned : StockReturn} (hreturned : returned ∈ s'.returns.rows) :
    returned ∈ s.returns.rows ∨ ∃ item ∈ s.items.rows, item.pk = returned.saleItem := by
  by_cases hmem : returned.saleItem ∈ (voidOrder s txn).map TransactionItem.pk
  · rcases List.mem_map.1 hmem with ⟨line, hline, hpk⟩
    exact .inr ⟨line, (mem_voidOrder.1 hline).1, hpk⟩
  · left
    have hsame := (voidItems_returns (nodup_voidOrder s txn) h).2 returned.saleItem hmem
    have hin : returned ∈ s'.returnsOf returned.saleItem := by
      simp [Store.returnsOf, hreturned]
    rw [hsame] at hin
    exact (List.mem_filter.1 hin).1

/-! ## Nonnegative stock -/

/-- No batch is overdrawn and no sale line has a negative quantity. -/
def Store.Nonneg (s : Store) : Prop :=
  (∀ batch ∈ s.batches.rows, 0 ≤ batch.remainingQuantity) ∧
    ∀ item ∈ s.items.rows, 0 ≤ item.quantity

theorem Store.nonneg_iff (zone : Zone) (frame : Frame) {s : Store} :
    s.Nonneg ↔ ∀ pk, (s.account zone frame pk).Nonneg := by
  constructor
  · rintro ⟨hbatches, hitems⟩ pk
    refine ⟨?_, ?_⟩
    · intro holding hholding
      rcases Option.map_eq_some_iff.1 hholding with ⟨batch, hfind, rfl⟩
      exact hbatches batch (Table.find_eq_some.1 hfind).1
    · intro entry hentry
      rcases List.mem_map.1 hentry with ⟨item, hitem, rfl⟩
      exact hitems item (List.mem_filter.1 hitem).1
  · intro h
    refine ⟨?_, ?_⟩
    · intro batch hbatch
      have hfind : s.batches.find batch.pk = some batch := s.batches.find_of_mem hbatch
      refine (h batch.pk).1 (batch.holding zone) ?_
      simp [Store.account, hfind]
    · intro item hitem
      refine (h item.productBatch).2
        { day := frame.dayOf item.transaction, quantity := item.quantity } ?_
      exact List.mem_map.2 ⟨item, by simp [hitem], rfl⟩

theorem Outcome.nonneg {clock : Clock} {op : Operation} {s s' : Store} (hs : s.Nonneg)
    (h : Outcome clock op s s') : s'.Nonneg := by
  rcases outcome_accounts h (s'.frame_fits clock.zone) with ⟨soldOn, _, hsteps⟩
  refine (Store.nonneg_iff clock.zone (s'.frame clock.zone)).2 ?_
  intro pk
  exact (hsteps pk).preserves (fun _ _ ha hstep => hstep.nonneg ha)
    ((Store.nonneg_iff clock.zone _).1 hs pk)

/-! ## The invariant -/

/-- The four tables of a sale agree on whether it is voided. -/
structure VoidingSound (s : Store) : Prop where
  line_sale : ∀ item ∈ s.items.rows, ∃ txn ∈ s.transactions.rows, txn.pk = item.transaction
  order_sale : ∀ order ∈ s.orders.rows, ∀ txn ∈ order.transaction, txn < s.transactions.next
  return_line : ∀ returned ∈ s.returns.rows, returned.saleItem < s.items.next
  cancelled_iff : ∀ order ∈ s.orders.rows, ∀ txn ∈ s.transactions.rows,
    order.transaction = some txn.pk → (order.status = .cancelled ↔ txn.isVoided = true)
  local_voided : ∀ txn ∈ s.transactions.rows, txn.isVoided = true → txn.isImported = false
  voided_returns : ∀ txn ∈ s.transactions.rows, txn.isVoided = true →
    ∀ item ∈ s.itemsOf txn.pk, ∃ returned, s.returnsOf item.pk = [returned] ∧
      0 ≤ returned.quantity ∧ returned.quantity ≤ item.quantity
  live_returns : ∀ txn ∈ s.transactions.rows, txn.isVoided = false →
    ∀ item ∈ s.itemsOf txn.pk, s.returnsOf item.pk = []

/-- The invariant reads four tables only. -/
theorem VoidingSound.congr {s s' : Store} (h : VoidingSound s) (hitems : s'.items = s.items)
    (horders : s'.orders = s.orders) (htransactions : s'.transactions = s.transactions)
    (hreturns : s'.returns = s.returns) : VoidingSound s' := by
  rcases s' with ⟨_, _, _, _, _, _, transactions, items, orders, _, returns, _, _⟩
  simp only at hitems horders htransactions hreturns
  subst hitems horders htransactions hreturns
  exact
    { line_sale := h.line_sale
      order_sale := h.order_sale
      return_line := h.return_line
      cancelled_iff := h.cancelled_iff
      local_voided := h.local_voided
      voided_returns := h.voided_returns
      live_returns := h.live_returns }

/-- A new sale is live, its order is fulfilled and its lines have no returns. -/
theorem SaleEffect.voidingSound {clock : Clock} {s s' : Store} {sale : Transaction}
    (h : VoidingSound s) (heffect : SaleEffect clock s s' sale) : VoidingSound s' := by
  rcases heffect.items with ⟨newItems, hitems, hnewItems⟩
  rcases heffect.orders with ⟨createdAt, newOrders, horders, hnewOrders⟩
  have hreturnsOf : ∀ k, s'.returnsOf k = s.returnsOf k := fun k => by
    simp [Store.returnsOf, heffect.returns]
  -- a new line has a new key, so no return names it
  have hlater : ∀ item ∈ newItems, s.returnsOf item.pk = [] := by
    intro item hitem
    refine List.filter_eq_nil_iff.2 ?_
    intro returned hreturned
    have hlt := h.return_line returned hreturned
    have hle := (hnewItems item hitem).2
    have hne : ¬ returned.saleItem = item.pk := by omega
    simpa using hne
  -- the old sales keep their lines
  have hold : ∀ txn ∈ s.transactions.rows, ∀ item ∈ s'.itemsOf txn.pk,
      item ∈ s.itemsOf txn.pk := by
    intro txn htxn item hitem
    have hlt : txn.pk < s.transactions.next := s.transactions.below txn htxn
    rcases mem_itemsOf.1 hitem with ⟨hrow, hsale⟩
    rw [hitems] at hrow
    rcases List.mem_append.1 hrow with hrow | hnew
    · exact mem_itemsOf.2 ⟨hrow, hsale⟩
    · have hpk := (hnewItems item hnew).1
      rw [heffect.pk] at hpk
      omega
  -- and the new sale has new lines only
  have hnew : ∀ item ∈ s'.itemsOf sale.pk, item ∈ newItems := by
    intro item hitem
    rcases mem_itemsOf.1 hitem with ⟨hrow, hsale⟩
    rw [hitems] at hrow
    rcases List.mem_append.1 hrow with hrow | hnew
    · rcases h.line_sale item hrow with ⟨txn, htxn, hpk⟩
      have hlt : txn.pk < s.transactions.next := s.transactions.below txn htxn
      have hnext := heffect.pk
      omega
    · exact hnew
  refine
    { line_sale := ?_
      order_sale := ?_
      return_line := ?_
      cancelled_iff := ?_
      local_voided := ?_
      voided_returns := ?_
      live_returns := ?_ }
  · intro item hitem
    rw [heffect.transactions]
    rw [hitems] at hitem
    rcases List.mem_append.1 hitem with hrow | hnew
    · rcases h.line_sale item hrow with ⟨txn, htxn, hpk⟩
      exact ⟨txn, List.mem_append_left _ htxn, hpk⟩
    · exact ⟨sale, by simp, (hnewItems item hnew).1.symm⟩
  · intro order horder txn htxn
    rw [heffect.transactions_next]
    rw [horders] at horder
    rcases List.mem_append.1 horder with hrow | hnew
    · rcases List.mem_map.1 hrow with ⟨order₀, horder₀, rfl⟩
      exact Nat.lt_succ_of_lt (h.order_sale order₀ horder₀ txn htxn)
    · have hsale := (hnewOrders order hnew).1
      have hEq : sale.pk = txn := Option.some.inj (hsale.symm.trans htxn)
      rw [← hEq, heffect.pk]
      exact Nat.lt_succ_self _
  · intro returned hreturned
    rw [heffect.returns] at hreturned
    exact Nat.lt_of_lt_of_le (h.return_line returned hreturned) heffect.items_next
  · -- an old order links an old sale, the new orders the new one, which is live
    intro order horder txn htxn hlink
    rw [horders] at horder
    rw [heffect.transactions] at htxn
    rcases List.mem_append.1 horder with hrow | hneworder
    · rcases List.mem_map.1 hrow with ⟨order₀, horder₀, rfl⟩
      have hlt : txn.pk < s.transactions.next := h.order_sale order₀ horder₀ txn.pk hlink
      rcases List.mem_append.1 htxn with htxn | hsale
      · exact h.cancelled_iff order₀ horder₀ txn htxn hlink
      · have hEq : txn = sale := by simpa using hsale
        rw [hEq, heffect.pk] at hlt
        omega
    · rcases hnewOrders order hneworder with ⟨hsale, hstatus⟩
      have hpk : sale.pk = txn.pk := Option.some.inj (hsale.symm.trans hlink)
      rcases List.mem_append.1 htxn with htxn | hlast
      · have hlt : txn.pk < s.transactions.next := s.transactions.below txn htxn
        have := heffect.pk
        omega
      · have hEq : txn = sale := by simpa using hlast
        simp [hEq, hstatus, heffect.live]
  · intro txn htxn hvoided
    rw [heffect.transactions] at htxn
    rcases List.mem_append.1 htxn with htxn | hlast
    · exact h.local_voided txn htxn hvoided
    · have hEq : txn = sale := by simpa using hlast
      simp [hEq, heffect.live] at hvoided
  · -- a voided sale is an old one
    intro txn htxn hvoided item hitem
    rw [heffect.transactions] at htxn
    rw [hreturnsOf]
    rcases List.mem_append.1 htxn with htxn | hlast
    · exact h.voided_returns txn htxn hvoided item (hold txn htxn item hitem)
    · have hEq : txn = sale := by simpa using hlast
      simp [hEq, heffect.live] at hvoided
  · intro txn htxn hlive item hitem
    rw [heffect.transactions] at htxn
    rw [hreturnsOf]
    rcases List.mem_append.1 htxn with htxn | hlast
    · exact h.live_returns txn htxn hlive item (hold txn htxn item hitem)
    · have hEq : txn = sale := by simpa using hlast
      subst hEq
      exact hlater item (hnew item hitem)

/-- A saved transaction keeps its key. -/
theorem line_sale_put {transactions : Table Transaction} (saved : Transaction) {pk : Nat}
    (h : ∃ txn ∈ transactions.rows, txn.pk = pk) :
    ∃ txn ∈ (transactions.put saved).rows, txn.pk = pk := by
  rcases h with ⟨txn, htxn, hpk⟩
  by_cases hsame : txn.pk = saved.pk
  · exact ⟨saved, Table.mem_put.2 (.inr ⟨rfl, txn, htxn, hsame⟩), hsame.symm.trans hpk⟩
  · exact ⟨txn, Table.mem_put.2 (.inl ⟨htxn, hsame⟩), hpk⟩

/-- Saving a transaction with the same void state keeps the invariant. -/
theorem VoidingSound.resave {s : Store} (h : VoidingSound s) {sale saved : Transaction}
    (hfind : s.transactions.find saved.pk = some sale) (hvoided : saved.isVoided = sale.isVoided)
    (himported : saved.isImported = sale.isImported) :
    VoidingSound { s with transactions := s.transactions.put saved } := by
  rcases Table.find_eq_some.1 hfind with ⟨hmem, hpk⟩
  have hkey : sale.pk = saved.pk := hpk
  -- every row has an old row of the same key, equally voided and equally imported
  have hrow : ∀ txn ∈ (s.transactions.put saved).rows, ∃ old ∈ s.transactions.rows,
      old.pk = txn.pk ∧ old.isVoided = txn.isVoided ∧ old.isImported = txn.isImported := by
    intro txn htxn
    rcases Table.mem_put.1 htxn with ⟨hold, _⟩ | ⟨rfl, _⟩
    · exact ⟨txn, hold, rfl, rfl, rfl⟩
    · exact ⟨sale, hmem, hkey, hvoided.symm, himported.symm⟩
  refine
    { line_sale := fun item hitem => line_sale_put saved (h.line_sale item hitem)
      order_sale := h.order_sale
      return_line := h.return_line
      cancelled_iff := ?_
      local_voided := ?_
      voided_returns := ?_
      live_returns := ?_ }
  · intro order horder txn htxn hlink
    rcases hrow txn htxn with ⟨old, hold, hpk, hsame, _⟩
    rw [← hsame]
    exact h.cancelled_iff order horder old hold (by rw [hpk]; exact hlink)
  · intro txn htxn hvoid
    rcases hrow txn htxn with ⟨old, hold, _, hsame, hsame'⟩
    rw [← hsame']
    exact h.local_voided old hold (hsame.trans hvoid)
  · intro txn htxn hvoid item hitem
    rcases hrow txn htxn with ⟨old, hold, hpk, hsame, _⟩
    rw [← hpk] at hitem
    exact h.voided_returns old hold (hsame.trans hvoid) item hitem
  · intro txn htxn hlive item hitem
    rcases hrow txn htxn with ⟨old, hold, hpk, hsame, _⟩
    rw [← hpk] at hitem
    exact h.live_returns old hold (hsame.trans hlive) item hitem

/-- A void marks its sale and the orders of the sale, and returns its lines. -/
theorem VoidingSound.void {clock : Clock} {s s₁ : Store} (h : VoidingSound s) (hnonneg : s.Nonneg)
    {sale : Transaction} {skipped : List String} {voidedBy : Option User} {reason : String}
    (hlocal : sale.isImported = false)
    (hitems : (voidOrder s sale.pk).foldlM (voidItem clock) (s, []) = .ok (s₁, skipped)) :
    VoidingSound { s₁ with
      transactions := s.transactions.put (voidedTransaction clock voidedBy reason sale)
      orders := cancelOrders sale.pk (voidWarning skipped) s.orders } := by
  rcases void_returns hitems with ⟨hlines, hothers⟩
  -- a return is an old one or for a line of the store
  have hback : ∀ returned ∈ s₁.returns.rows, returned ∈ s.returns.rows ∨
      ∃ item ∈ s.items.rows, item.pk = returned.saleItem :=
    fun _ hreturned => void_returns_item hitems hreturned
  rcases voidItems_store hitems with ⟨batches, returns, rfl⟩
  -- an order of the sale is cancelled, any other keeps its status
  have horder : ∀ order ∈ (cancelOrders sale.pk (voidWarning skipped) s.orders).rows,
      ∃ old ∈ s.orders.rows, order.transaction = old.transaction ∧
        (order.status = if old.transaction = some sale.pk then .cancelled else old.status) := by
    intro order horder
    rcases List.mem_map.1 horder with ⟨old, hold, rfl⟩
    refine ⟨old, hold, ?_⟩
    by_cases hlink : old.transaction = some sale.pk
    · simp [hlink]
    · simp [hlink]
  refine
    { line_sale := fun item hitem => line_sale_put _ (h.line_sale item hitem)
      order_sale := ?_
      return_line := ?_
      cancelled_iff := ?_
      local_voided := ?_
      voided_returns := ?_
      live_returns := ?_ }
  · intro order hmem txn htxn
    rcases horder order hmem with ⟨old, hold, hlink, _⟩
    rw [hlink] at htxn
    exact h.order_sale old hold txn htxn
  · intro returned hreturned
    rcases hback returned hreturned with hold | ⟨item, hitem, hpk⟩
    · exact h.return_line returned hold
    · have hlt : item.pk < s.items.next := s.items.below item hitem
      rw [← hpk]
      exact hlt
  · intro order hmem txn htxn hlink
    rcases horder order hmem with ⟨old, hold, hsame, hstatus⟩
    rw [hsame] at hlink
    -- the voided sale's orders are the cancelled ones
    rcases Table.mem_put.1 htxn with ⟨hrow, hne⟩ | ⟨rfl, _⟩
    · have hne' : ¬ old.transaction = some sale.pk := fun hEq =>
        hne (Option.some.inj (hlink.symm.trans hEq))
      rw [hstatus, if_neg hne']
      exact h.cancelled_iff old hold txn hrow hlink
    · have hEq : old.transaction = some sale.pk := hlink
      rw [hstatus, if_pos hEq]
      simp [voidedTransaction]
  · intro txn htxn hvoided
    rcases Table.mem_put.1 htxn with ⟨hrow, _⟩ | ⟨rfl, _⟩
    · exact h.local_voided txn hrow hvoided
    · exact hlocal
  · -- an earlier voided sale keeps its returns, this one has one for each line
    intro txn htxn hvoided item hitem
    rcases Table.mem_put.1 htxn with ⟨hrow, hne⟩ | ⟨rfl, _⟩
    · rcases mem_itemsOf.1 hitem with ⟨hitem', hsale⟩
      have hsame := hothers item hitem' (fun hEq => hne (hsale.symm.trans hEq))
      rcases h.voided_returns txn hrow hvoided item hitem with ⟨returned, hreturned, hle⟩
      exact ⟨returned, hsame.trans hreturned, hle⟩
    · rcases hlines item hitem with ⟨returned, hreturned, hle, hcap, _⟩
      exact ⟨returned, hreturned, hle, hcap (hnonneg.2 item (mem_itemsOf.1 hitem).1)⟩
  · -- a live sale is another one, with lines of its own
    intro txn htxn hlive item hitem
    rcases Table.mem_put.1 htxn with ⟨hrow, hne⟩ | ⟨rfl, _⟩
    · rcases mem_itemsOf.1 hitem with ⟨hitem', hsale⟩
      have hsame := hothers item hitem' (fun hEq => hne (hsale.symm.trans hEq))
      exact hsame.trans (h.live_returns txn hrow hlive item hitem)
    · simp [voidedTransaction] at hlive

/-- Every operation keeps the invariant. -/
theorem Outcome.voidingSound {clock : Clock} {op : Operation} {s s' : Store} (hs : VoidingSound s)
    (hnonneg : s.Nonneg) (h : Outcome clock op s s') : VoidingSound s' := by
  cases h with
  | unchanged => exact hs
  | received => exact hs.congr rfl rfl rfl rfl
  | edited => exact hs.congr rfl rfl rfl rfl
  | sold s' sale heffect hmovement => exact heffect.voidingSound hs
  | adjusted => exact hs.congr rfl rfl rfl rfl
  | voided sale s₁ skipped voidedBy reason hfind hlocal hlive hitems =>
      exact hs.void hnonneg hlocal hitems
  | paid sale user method status tendered values hfind hlive hstatus hvalues =>
      exact hs.resave hfind rfl rfl

/-! ## Histories -/

/-- The store after the historical import and before any local sale: every transaction is imported
and live, nothing was returned, and the rows refer to rows that exist. -/
structure ImportedHistory (s : Store) : Prop where
  imported : ∀ txn ∈ s.transactions.rows, txn.isImported = true ∧ txn.isVoided = false
  fulfilled : ∀ order ∈ s.orders.rows, order.transaction ≠ none → order.status = .fulfilled
  unreturned : s.returns.rows = []
  nonneg : s.Nonneg
  line_sale : ∀ item ∈ s.items.rows, ∃ txn ∈ s.transactions.rows, txn.pk = item.transaction
  order_sale : ∀ order ∈ s.orders.rows, ∀ txn ∈ order.transaction, txn < s.transactions.next

theorem ImportedHistory.voidingSound {s : Store} (h : ImportedHistory s) : VoidingSound s := by
  have hnone : ∀ k, s.returnsOf k = [] := by
    intro k
    simp [Store.returnsOf, h.unreturned]
  refine
    { line_sale := h.line_sale
      order_sale := h.order_sale
      return_line := by simp [h.unreturned]
      cancelled_iff := ?_
      local_voided := ?_
      voided_returns := ?_
      live_returns := fun _ _ _ item _ => hnone item.pk }
  · intro order horder txn htxn hlink
    have hfulfilled := h.fulfilled order horder (by simp [hlink])
    simp [hfulfilled, (h.imported txn htxn).2]
  · intro txn htxn hvoided
    simp [(h.imported txn htxn).2] at hvoided
  · intro txn htxn hvoided
    simp [(h.imported txn htxn).2] at hvoided

theorem replay_voidingSound (env : Deployment) {s : Store} (h : ImportedHistory s)
    (history : List Call) :
    (replay env s history).Nonneg ∧ VoidingSound (replay env s history) :=
  replay_outcome (P := fun s => s.Nonneg ∧ VoidingSound s)
    (fun _ _ _ _ hs houtcome => ⟨houtcome.nonneg hs.1, houtcome.voidingSound hs.2 hs.1⟩)
    history ⟨h.nonneg, h.voidingSound⟩

/-- The transaction is voided, and its lines and their returns are the given ones. -/
def Store.VoidedAs (txn : Nat) (lines : List TransactionItem) (returns : Nat → List StockReturn)
    (s : Store) : Prop :=
  (∃ row, s.transactions.find txn = some row ∧ row.isVoided = true) ∧ s.itemsOf txn = lines ∧
    ∀ item ∈ lines, s.returnsOf item.pk = returns item.pk

theorem find_put_voided {transactions : Table Transaction} {txn : Nat} {row sale saved : Transaction}
    (hrow : transactions.find txn = some row) (hvoided : row.isVoided = true)
    (hfind : transactions.find saved.pk = some sale) (hlive : sale.isVoided = false) :
    (transactions.put saved).find txn = some row := by
  have hne : ¬ txn = Row.pk saved := by
    intro hEq
    have hEq' : txn = saved.pk := hEq
    subst hEq'
    have hsame : row = sale := Option.some.inj (hrow.symm.trans hfind)
    rw [hsame, hlive] at hvoided
    cases hvoided
  have hput := Table.find_put transactions saved txn
  rw [if_neg hne] at hput
  exact hput.trans hrow

/-- No operation un-voids a sale or touches its lines or their returns. -/
theorem Outcome.voidedAs {clock : Clock} {op : Operation} {s s' : Store} {txn : Nat}
    {lines : List TransactionItem} {returns : Nat → List StockReturn}
    (hs : s.VoidedAs txn lines returns) (h : Outcome clock op s s') :
    s'.VoidedAs txn lines returns := by
  rcases hs with ⟨⟨row, hrow, hvoided⟩, hlines, hreturns⟩
  cases h with
  | unchanged => exact ⟨⟨row, hrow, hvoided⟩, hlines, hreturns⟩
  | received => exact ⟨⟨row, hrow, hvoided⟩, hlines, hreturns⟩
  | edited => exact ⟨⟨row, hrow, hvoided⟩, hlines, hreturns⟩
  | sold s' sale heffect hmovement =>
      rcases Table.find_eq_some.1 hrow with ⟨hmem, hpk⟩
      have hlt : row.pk < s.transactions.next := s.transactions.below row hmem
      have hpk' : row.pk = txn := hpk
      refine ⟨⟨row, ?_, hvoided⟩, ?_, ?_⟩
      · exact Table.find_eq_some.2 ⟨by simp [heffect.transactions, hmem], hpk⟩
      · rcases heffect.items with ⟨new, hitems, hnew⟩
        -- the new lines belong to the new sale
        have hnone : new.filter (fun item => item.transaction = txn) = [] := by
          refine List.filter_eq_nil_iff.2 ?_
          intro item hitem
          have hsale := (hnew item hitem).1
          rw [heffect.pk] at hsale
          have hne : ¬ item.transaction = txn := by omega
          simpa using hne
        rw [← hlines]
        simp [Store.itemsOf, hitems, List.filter_append, hnone]
      · intro item hitem
        rw [← hreturns item hitem]
        simp [Store.returnsOf, heffect.returns]
  | adjusted => exact ⟨⟨row, hrow, hvoided⟩, hlines, hreturns⟩
  | voided sale s₁ skipped voidedBy reason hfind hlocal hlive hitems =>
      rcases void_returns hitems with ⟨_, hothers⟩
      have hitems' : s₁.items = s.items := by
        rcases voidItems_store hitems with ⟨_, _, rfl⟩
        rfl
      -- a voided sale cannot be voided again, so this is another one
      have hne : txn ≠ sale.pk := by
        intro hEq
        subst hEq
        have hsame : row = sale := Option.some.inj (hrow.symm.trans hfind)
        rw [hsame, hlive] at hvoided
        cases hvoided
      refine ⟨⟨row, find_put_voided hrow hvoided hfind hlive, hvoided⟩, ?_, ?_⟩
      · simpa [Store.itemsOf, hitems'] using hlines
      · intro item hitem
        rw [← hlines] at hitem
        rcases mem_itemsOf.1 hitem with ⟨hmem, hsale⟩
        have hsame := hothers item hmem (fun hEq => hne (hsale.symm.trans hEq))
        exact hsame.trans (hreturns item (hlines ▸ hitem))
  | paid sale user method status tendered values hfind hlive hstatus hvalues =>
      exact ⟨⟨row, find_put_voided hrow hvoided hfind hlive, hvoided⟩, hlines, hreturns⟩

/-- A sale that an operation voids had its expired and disposed batches skipped. -/
theorem Outcome.skipped {clock : Clock} {op : Operation} {s s' : Store}
    (h : Outcome clock op s s') {txn txn' : Transaction}
    (htxn : s.transactions.find txn.pk = some txn) (hlive : txn.isVoided = false)
    (htxn' : s'.transactions.find txn.pk = some txn') (hvoided : txn'.isVoided = true) :
    ∀ item ∈ s.itemsOf txn.pk, ReturnedFor clock.today s s' item := by
  -- the sale is voided by the step, so its row changes
  have hdiffer : s'.transactions.find txn.pk ≠ s.transactions.find txn.pk := by
    intro hEq
    have hsame : txn' = txn := Option.some.inj (htxn'.symm.trans (hEq.trans htxn))
    rw [hsame, hlive] at hvoided
    cases hvoided
  cases h with
  | unchanged => exact absurd rfl hdiffer
  | received => exact absurd rfl hdiffer
  | edited => exact absurd rfl hdiffer
  | sold s' sale heffect hmovement =>
      refine absurd ?_ hdiffer
      rw [htxn]
      refine Table.find_eq_some.2 ⟨?_, rfl⟩
      simp [heffect.transactions, (Table.find_eq_some.1 htxn).1]
  | adjusted => exact absurd rfl hdiffer
  | voided sale s₁ skipped voidedBy reason hfind hlocal hlive' hitems =>
      have hput := Table.find_put s.transactions (voidedTransaction clock voidedBy reason sale) txn.pk
      by_cases hpk : txn.pk = sale.pk
      · have hlines := (void_returns hitems).1
        rw [← hpk] at hlines
        exact hlines
      · -- voiding another sale leaves the row
        have hne : ¬ txn.pk = Row.pk (voidedTransaction clock voidedBy reason sale) := hpk
        rw [if_neg hne] at hput
        exact absurd hput hdiffer
  | paid sale user method status tendered values hfind hlive' hstatus hvalues =>
      -- a payment keeps the sale live
      have hput := Table.find_put s.transactions (paidTransaction clock user sale values) txn.pk
      by_cases hpk : txn.pk = sale.pk
      · have hpk' : txn.pk = Row.pk (paidTransaction clock user sale values) := hpk
        rw [if_pos hpk', htxn] at hput
        have hEq : paidTransaction clock user sale values = txn' :=
          Option.some.inj (hput.symm.trans htxn')
        have hnot : txn'.isVoided = false := by
          rw [← hEq]
          exact hlive'
        rw [hnot] at hvoided
        cases hvoided
      · have hne : ¬ txn.pk = Row.pk (paidTransaction clock user sale values) := hpk
        rw [if_neg hne] at hput
        exact absurd hput hdiffer

/-- Voiding over whole histories, from an imported store: orders and transactions agree, a voided
sale is local and has one return for each line, a live sale has none; a voided sale stays voided
with the returns it has; a void returns nothing to expired or disposed batches; an imported
transaction stays live; and a rejected call changes nothing. -/
theorem voiding_sound (env : Deployment) (s₀ : Store) (h₀ : ImportedHistory s₀)
    (history : List Call) :
    (∀ order ∈ (replay env s₀ history).orders.rows,
      ∀ txn ∈ (replay env s₀ history).transactions.rows, order.transaction = some txn.pk →
        (order.status = .cancelled ↔ txn.isVoided = true)) ∧
    (∀ txn ∈ (replay env s₀ history).transactions.rows, txn.isVoided = true →
      ∀ item ∈ (replay env s₀ history).itemsOf txn.pk,
        ∃ returned, (replay env s₀ history).returnsOf item.pk = [returned] ∧
          0 ≤ returned.quantity ∧ returned.quantity ≤ item.quantity) ∧
    (∀ txn ∈ (replay env s₀ history).transactions.rows, txn.isVoided = false →
      ∀ item ∈ (replay env s₀ history).itemsOf txn.pk,
        (replay env s₀ history).returnsOf item.pk = []) ∧
    (∀ txn ∈ (replay env s₀ history).transactions.rows, txn.isImported = true →
      txn.isVoided = false) ∧
    (∀ txn ∈ (replay env s₀ history).transactions.rows, txn.isVoided = true → ∀ later,
      (∃ txn', (replay env (replay env s₀ history) later).transactions.find txn.pk = some txn' ∧
        txn'.isVoided = true) ∧
      (replay env (replay env s₀ history) later).itemsOf txn.pk =
        (replay env s₀ history).itemsOf txn.pk ∧
      ∀ item ∈ (replay env s₀ history).itemsOf txn.pk,
        (replay env (replay env s₀ history) later).returnsOf item.pk =
          (replay env s₀ history).returnsOf item.pk) ∧
    (∀ now op s', perform env now op (replay env s₀ history) = .ok s' →
      ∀ txn ∈ (replay env s₀ history).transactions.rows, txn.isVoided = false →
        ∀ txn', s'.transactions.find txn.pk = some txn' → txn'.isVoided = true →
          ∀ item ∈ (replay env s₀ history).itemsOf txn.pk,
            ∀ batch, (replay env s₀ history).batches.find item.productBatch = some batch →
              batch.isSkipped (env.zone.localDate now) = true →
                ∀ returned ∈ s'.returnsOf item.pk, returned.quantity = 0) ∧
    (∀ call e, perform env call.now call.op (replay env s₀ history) = .error e →
      step env (replay env s₀ history) call = replay env s₀ history) := by
  -- one invariant of the whole run, and its clauses
  have hsound := (replay_voidingSound env h₀ history).2
  refine ⟨hsound.cancelled_iff, hsound.voided_returns, hsound.live_returns, ?_, ?_, ?_, ?_⟩
  · intro txn htxn himported
    cases hvoided : txn.isVoided with
    | false => rfl
    | true =>
        have hlocal := hsound.local_voided txn htxn hvoided
        rw [hlocal] at himported
        cases himported
  · -- from the state where the sale is voided, its lines and returns stay
    intro txn htxn hvoided later
    have hnow : (replay env s₀ history).VoidedAs txn.pk
        ((replay env s₀ history).itemsOf txn.pk) (replay env s₀ history).returnsOf :=
      ⟨⟨txn, Table.find_of_mem _ htxn, hvoided⟩, rfl, fun _ _ => rfl⟩
    exact replay_outcome
      (P := Store.VoidedAs txn.pk ((replay env s₀ history).itemsOf txn.pk)
        (replay env s₀ history).returnsOf)
      (fun _ _ _ _ hs houtcome => houtcome.voidedAs hs) later hnow
  · -- voiding itself: a lost batch gets a return of nothing
    intro now op s' hperform txn htxn hlive txn' htxn' hvoided item hitem batch hbatch hskip
      returned hreturned
    rcases (perform_outcome hperform).skipped (Table.find_of_mem _ htxn) hlive htxn' hvoided item
      hitem with ⟨only, honly, _, _, hnothing⟩
    rw [honly] at hreturned
    have hEq : returned = only := by simpa using hreturned
    rw [hEq]
    exact hnothing batch hbatch hskip
  · intro call e herror
    simp [step, herror]

/-- A local sale that is made and voided. -/
def sellThenVoid : List Call :=
  [{ now := 172800
     op := .checkout
      { items := [.priced 1 (.ofAmount 200) (.ofAmount 150)]
        staffUser := ⟨1, .admin⟩
        amountTendered := some (.ofAmount 300) } },
   { now := 172900
     op := .voidTransaction 2 none "" }]

/-- An imported sale stays live next to a local sale from the same batch. -/
theorem voiding_sound_imported :
    ∃ txn ∈ (replay (Deployment.plain fun _ => "")
      (Store.oneSale 700 .available (some "2025:000001")) sellThenVoid).transactions.rows,
      txn.isImported = true ∧ txn.isVoided = false := by
  have himported : ImportedHistory (Store.oneSale 700 .available (some "2025:000001")) :=
    { imported := by decide
      fulfilled := by simp [Store.oneSale, Store.empty]
      unreturned := rfl
      nonneg := by
        unfold Store.Nonneg
        decide
      line_sale := by decide
      order_sale := by simp [Store.oneSale, Store.empty] }
  have hrow : ∃ txn ∈ (replay (Deployment.plain fun _ => "")
      (Store.oneSale 700 .available (some "2025:000001")) sellThenVoid).transactions.rows,
      txn.isImported = true := by decide
  rcases hrow with ⟨txn, htxn, hisImported⟩
  have hsound := voiding_sound (Deployment.plain fun _ => "") _ himported sellThenVoid
  exact ⟨txn, htxn, hisImported, hsound.2.2.2.1 txn htxn hisImported⟩

end RosarioDairy
