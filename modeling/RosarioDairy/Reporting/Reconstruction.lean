import RosarioDairy.Inventory.History
import RosarioDairy.Reporting.Ledger
import RosarioDairy.Sales.Voiding

/-!
# Reconstruction — the balances the ledger reports

`closing` and `opening` are what the ledger of a custom range makes of the account of one batch.
They are the balances the account really had exactly while no batch of the product is dated after
the day it was entered; a receipt date edited past that day takes the stock off the days before it
and counts it as received a second time.
-/

namespace RosarioDairy

open Foundations

/-! ## Reported balances of an account -/

/-- The holding is counted in a report that ends on day `last`. -/
def Holding.counted (product : Nat) (last : Int) (h : Holding) : Bool :=
  h.product = product && !h.historical && h.dateReceived ≤ last && h.createdDay ≤ last

theorem Holding.counted_eq_true {product : Nat} {last : Int} {h : Holding} :
    h.counted product last = true ↔
      (h.product = product ∧ h.historical = false) ∧ h.dateReceived ≤ last ∧ h.createdDay ≤ last := by
  simp [Holding.counted, and_assoc]

/-- The balance a report puts at the close of day `last`. -/
def Account.closing (product : Nat) (last : Int) (a : Account) : Int :=
  match a.holding with
  | none => 0
  | some h =>
      if h.counted product last then
        h.remaining + Journal.after last a.sold + Journal.after last a.adjusted -
          Journal.after last a.returned
      else 0

/-- The balance a report puts before day `first`. -/
def Account.opening (product : Nat) (first last : Int) (a : Account) : Int :=
  match a.holding with
  | none => 0
  | some h =>
      if h.counted product last then
        a.closing product last + Journal.within first last a.sold +
            Journal.within first last a.adjusted - Journal.within first last a.returned -
          (if first ≤ max h.createdDay h.dateReceived ∧ max h.createdDay h.dateReceived ≤ last then
            h.initial else 0)
      else 0

/-- The batch is dated no later than the day it was entered, if the product's report concerns it. -/
def Account.DatedByEntry (product : Nat) (a : Account) : Prop :=
  ∀ h ∈ a.holding, h.product = product → h.historical = false → h.dateReceived ≤ h.createdDay

/-- What a counted account held is what the report closes with. -/
theorem Account.closing_eq_heldAt {product : Nat} {last : Int} {a : Account} {h : Holding}
    (hsome : a.holding = some h) (hcounted : h.counted product last = true) :
    a.closing product last = a.heldAt last := by
  have hopen : h.createdDay ≤ last := (Holding.counted_eq_true.1 hcounted).2.2
  simp [Account.closing, Account.heldAt, hsome, hcounted, hopen]

theorem Account.closing_eq_heldFor {product : Nat} {last : Int} {a : Account}
    (hentry : a.DatedByEntry product) : a.closing product last = a.heldFor product last := by
  cases hholding : a.holding with
  | none => simp [Account.closing, Account.heldFor, hholding]
  | some h =>
      by_cases hterms : h.product = product ∧ h.historical = false
      · have hreceived := hentry h hholding hterms.1 hterms.2
        have hheld : a.heldFor product last = a.heldAt last := by
          simp [Account.heldFor, hholding, hterms]
        by_cases hopen : h.createdDay ≤ last
        · have hcounted := Holding.counted_eq_true.2
            ⟨hterms, Int.le_trans hreceived hopen, hopen⟩
          rw [Account.closing_eq_heldAt hholding hcounted, hheld]
        · simp [hheld, Account.closing, Account.heldAt, hholding, Holding.counted, hopen]
      · have hnot : h.counted product last = false := by
          rw [Bool.eq_false_iff]
          exact fun hcounted => hterms (Holding.counted_eq_true.1 hcounted).1
        simp [Account.closing, Account.heldFor, hholding, hterms, hnot]

section Opening

variable {product : Nat} {today first last : Int} {a : Account} {h : Holding}

/-- The opening balance of a counted account, next to the balance it really had: the report puts
the receipt on the later of the two dates of the batch. -/
theorem Account.opening_of_counted (hbalanced : a.Balanced) (hdated : a.Dated today)
    (hrange : first ≤ last + 1) (hsome : a.holding = some h)
    (hcounted : h.counted product last = true) :
    a.opening product first last = a.heldAt (first - 1) +
      (if first ≤ h.createdDay then h.initial else 0) -
      (if first ≤ max h.createdDay h.dateReceived then h.initial else 0) := by
  rcases Holding.counted_eq_true.1 hcounted with ⟨_, hreceived, hopen⟩
  have hbefore := Account.heldAt_before hsome hbalanced hdated hrange hopen
  have hclosing := Account.closing_eq_heldAt hsome hcounted
  have hlast : max h.createdDay h.dateReceived ≤ last := max_le hopen hreceived
  simp only [Account.opening, hsome, hcounted, if_true, hclosing, hlast, and_true]
  omega

theorem Account.opening_of_not_counted (hsome : a.holding = some h)
    (hnot : h.counted product last = false) : a.opening product first last = 0 := by
  simp [Account.opening, hsome, hnot]

theorem Account.opening_eq_heldFor (hbalanced : a.Balanced) (hdated : a.Dated today)
    (hrange : first ≤ last + 1) (hentry : a.DatedByEntry product) :
    a.opening product first last = a.heldFor product (first - 1) := by
  cases hholding : a.holding with
  | none => simp [Account.opening, Account.heldFor, hholding]
  | some h =>
      by_cases hterms : h.product = product ∧ h.historical = false
      · have hreceived := hentry h hholding hterms.1 hterms.2
        have hheld : a.heldFor product (first - 1) = a.heldAt (first - 1) := by
          simp [Account.heldFor, hholding, hterms]
        rw [hheld]
        by_cases hopen : h.createdDay ≤ last
        · have hcounted := Holding.counted_eq_true.2
            ⟨hterms, Int.le_trans hreceived hopen, hopen⟩
          have hopening := Account.opening_of_counted hbalanced hdated hrange hholding hcounted
          rw [max_eq_left hreceived] at hopening
          omega
        · have hnot : h.counted product last = false := by
            rw [Bool.eq_false_iff]
            exact fun hcounted => hopen (Holding.counted_eq_true.1 hcounted).2.2
          have hclosed : ¬ h.createdDay ≤ first - 1 := by omega
          rw [Account.opening_of_not_counted hholding hnot]
          simp [Account.heldAt, hholding, hclosed]
      · have hnot : h.counted product last = false := by
          rw [Bool.eq_false_iff]
          exact fun hcounted => hterms (Holding.counted_eq_true.1 hcounted).1
        rw [Account.opening_of_not_counted hholding hnot]
        simp [Account.heldFor, hholding, hterms]

/-- The opening balance of a single day is never above the balance the account really had. -/
theorem Account.opening_le_heldFor (hbalanced : a.Balanced) (hdated : a.Dated today)
    (hopened : ∀ h ∈ a.holding, 1 ≤ h.initial)
    (hnonneg : 0 ≤ a.heldFor product (first - 1)) :
    a.opening product first first ≤ a.heldFor product (first - 1) := by
  cases hholding : a.holding with
  | none => simp [Account.opening, Account.heldFor, hholding]
  | some h =>
      have hinitial := hopened h hholding
      cases hcounted : h.counted product first with
      | false =>
          rw [Account.opening_of_not_counted hholding hcounted]
          exact hnonneg
      | true =>
          have hterms := (Holding.counted_eq_true.1 hcounted).1
          have hheld : a.heldFor product (first - 1) = a.heldAt (first - 1) := by
            simp [Account.heldFor, hholding, hterms]
          have hrange : first ≤ first + 1 := by omega
          have hopening := Account.opening_of_counted hbalanced hdated hrange hholding hcounted
          rw [hopening, hheld]
          have hmax := Int.le_max_left h.createdDay h.dateReceived
          split <;> split <;> omega

/-- It is below the real balance on the receipt date of a batch that was entered before. -/
theorem Account.opening_lt_heldFor (hbalanced : a.Balanced) (hdated : a.Dated today)
    (hopened : ∀ h ∈ a.holding, 1 ≤ h.initial) (hholding : a.holding = some h)
    (hproduct : h.product = product) (hhistorical : h.historical = false)
    (hlate : h.createdDay < h.dateReceived) :
    a.opening product h.dateReceived h.dateReceived < a.heldFor product (h.dateReceived - 1) := by
  have hinitial := hopened h hholding
  have hcounted : h.counted product h.dateReceived = true :=
    Holding.counted_eq_true.2 ⟨⟨hproduct, hhistorical⟩, Int.le_refl _, Int.le_of_lt hlate⟩
  have hheld : a.heldFor product (h.dateReceived - 1) = a.heldAt (h.dateReceived - 1) := by
    simp [Account.heldFor, hholding, hproduct, hhistorical]
  have hrange : h.dateReceived ≤ h.dateReceived + 1 := by omega
  have hopening := Account.opening_of_counted hbalanced hdated hrange hholding hcounted
  have hentered : ¬ h.dateReceived ≤ h.createdDay := by omega
  have hmax : h.dateReceived ≤ max h.createdDay h.dateReceived := Int.le_max_right _ _
  rw [hopening, hheld, if_neg hentered, if_pos hmax]
  omega

end Opening

/-! ## Deductions -/

theorem sum_assign (entries : List (String × Int)) (key : String) (value : Int) :
    ((assign entries key value).map Prod.snd).sum =
      (entries.map Prod.snd).sum - quantityOf entries key + value := by
  induction entries with
  | nil => simp [assign, quantityOf]
  | cons entry entries ih =>
      by_cases hkey : entry.1 = key
      · simp only [assign, quantityOf, hkey, if_true, List.map_cons, List.sum_cons]
        omega
      · simp only [assign, quantityOf, hkey, if_false, List.map_cons, List.sum_cons, ih]
        omega

/-- Everything a row has deducted. -/
def Deductions.total (sums : Deductions) : Int :=
  sums.outlet + (sums.allocations.map Prod.snd).sum

theorem total_deduct (texts : ReportTexts) (sums : Deductions)
    (sale : TransactionItem × Transaction) :
    (deduct texts sums sale).total = sums.total + sale.1.quantity := by
  unfold deduct Deductions.total
  cases allocationColumn texts sale.2 with
  | none =>
      dsimp only
      omega
  | some column =>
      simp only [sum_assign]
      omega

/-- The outlet and the allocations together deduct every sale line of the range. -/
theorem total_deductions (texts : ReportTexts) :
    ∀ (sales : List (TransactionItem × Transaction)) (sums : Deductions),
      (sales.foldl (deduct texts) sums).total =
        sums.total + (sales.map (fun sale => sale.1.quantity)).sum
  | [], sums => by simp
  | sale :: sales, sums => by
      rw [List.foldl_cons, total_deductions texts sales, total_deduct]
      simp only [List.map_cons, List.sum_cons]
      omega

/-! ## Ledger rows and accounts -/

section Rows

variable {zone : Zone} {s : Store} {product : Nat} {first last : Int}

/-- The report of the days from `first` to `last`. -/
def customRange (first last : Int) : LedgerRange :=
  { custom := true
    startDate := first
    endDate := last }

theorem counted_holding (batch : ProductBatch) :
    (batch.product = product && batch.inLedger zone (customRange first last)) =
      (batch.holding zone).counted product last := by
  have hcounted : (batch.holding zone).counted product last =
      (batch.product = product && !batch.isHistoricalReference && batch.dateReceived ≤ last &&
        zone.localDate batch.createdAt ≤ last) := rfl
  have hin : batch.inLedger zone (customRange first last) =
      (!batch.isHistoricalReference && batch.dateReceived ≤ last &&
        zone.localDate batch.createdAt ≤ last) := rfl
  simp only [hcounted, hin, Bool.and_assoc]

theorem customRange_covers (day : Int) :
    (customRange first last).covers day = decide (first ≤ day ∧ day ≤ last) :=
  (Bool.decide_and _ _).symm

/-- The batches the ledger counts are the counted accounts. -/
theorem mem_ledgerBatches {k : Nat} :
    k ∈ (ledgerBatches zone (customRange first last) s product).map ProductBatch.pk ↔
      ∃ h, (s.account zone (s.frame zone) k).holding = some h ∧
        h.counted product last = true := by
  constructor
  · intro hk
    rcases List.mem_map.1 hk with ⟨batch, hbatch, rfl⟩
    have hmem := List.mem_filter.1 ((List.mem_insertionSort _).1 hbatch)
    have hfind : s.batches.find batch.pk = some batch := s.batches.find_of_mem hmem.1
    refine ⟨batch.holding zone, by simp [Store.account, hfind], ?_⟩
    rw [← counted_holding]
    exact hmem.2
  · rintro ⟨h, hholding, hcounted⟩
    rcases Option.map_eq_some_iff.1 hholding with ⟨batch, hfind, rfl⟩
    rcases Table.find_eq_some.1 hfind with ⟨hmem, hpk⟩
    refine List.mem_map.2 ⟨batch, (List.mem_insertionSort _).2 (List.mem_filter.2 ⟨hmem, ?_⟩), hpk⟩
    rw [counted_holding]
    exact hcounted

/-- The entry of a sale line in the account of its batch. -/
def saleEntry (zone : Zone) (sale : TransactionItem × Transaction) : Entry :=
  { day := zone.localDate sale.2.movementAt
    quantity := sale.1.quantity }

/-- No deduction is missing: a voided sale line left a return behind. -/
theorem ledgerSales_entries (hsound : VoidingSound s) (batches : List Nat) :
    (ledgerSales s batches).map (saleEntry zone) =
      (s.items.rows.filter (fun item => item.productBatch ∈ batches)).map
        (fun item => { day := (s.frame zone).dayOf item.transaction, quantity := item.quantity }) := by
  unfold ledgerSales
  rw [List.map_filterMap, ← List.filterMap_eq_map]
  refine List.filterMap_congr ?_
  intro item hitem
  have hrow : item ∈ s.items.rows := (List.mem_filter.1 hitem).1
  rcases hsound.line_sale item hrow with ⟨txn, htxn, hpk⟩
  have hfind : s.transactions.find item.transaction = some txn := by
    rw [← hpk]
    exact s.transactions.find_of_mem htxn
  have hline : item ∈ s.itemsOf txn.pk := mem_itemsOf.2 ⟨hrow, hpk.symm⟩
  have hcounted : txn.isVoided = false ∨ s.returnsOf item.pk ≠ [] := by
    cases hvoided : txn.isVoided with
    | false => exact .inl rfl
    | true =>
        rcases hsound.voided_returns txn htxn hvoided item hline with ⟨returned, hreturned, _⟩
        exact .inr (by simp [hreturned])
  simp [hfind, hcounted, saleEntry, Store.frame]

def adjustmentEntry (zone : Zone) (row : StockAdjustment) : Entry :=
  { day := zone.localDate row.createdAt
    quantity := row.quantity }

def returnEntry (zone : Zone) (row : StockReturn) : Entry :=
  { day := zone.localDate row.createdAt
    quantity := row.quantity }

section Movements

variable (zone) {N : Nat} {keys : List Nat} (hkeys : ∀ k ∈ keys, k < N) (w : Entry → Bool)

include hkeys

theorem total_ledgerSales (hsound : VoidingSound s) :
    (((ledgerSales s keys).filter (fun sale => w (saleEntry zone sale))).map
      (fun sale => (saleEntry zone sale).quantity)).sum =
        ∑ k ∈ Finset.range N, if k ∈ keys then
          Journal.total ((s.account zone (s.frame zone) k).sold.filter w) else 0 := by
  rw [← Journal.total_map_filter, ledgerSales_entries hsound]
  exact Journal.total_filter_mem TransactionItem.productBatch _ w hkeys s.items.rows

theorem total_ledgerAdjustments :
    (((ledgerAdjustments s keys).filter (fun row => w (adjustmentEntry zone row))).map
      (fun row => (adjustmentEntry zone row).quantity)).sum =
        ∑ k ∈ Finset.range N, if k ∈ keys then
          Journal.total ((s.account zone (s.frame zone) k).adjusted.filter w) else 0 := by
  rw [← Journal.total_map_filter]
  exact Journal.total_filter_mem StockAdjustment.productBatch _ w hkeys s.adjustments.rows

theorem total_ledgerReturns :
    (((ledgerReturns s keys).filter (fun row => w (returnEntry zone row))).map
      (fun row => (returnEntry zone row).quantity)).sum =
        ∑ k ∈ Finset.range N, if k ∈ keys then
          Journal.total ((s.account zone (s.frame zone) k).returned.filter w) else 0 := by
  -- a return of a line that does not exist belongs to no key below the bound
  let batchOf : StockReturn → Nat := fun row =>
    ((s.items.find row.saleItem).map TransactionItem.productBatch).getD N
  have hmem : ledgerReturns s keys =
      s.returns.rows.filter (fun row => batchOf row ∈ keys) := by
    refine List.filter_congr ?_
    intro row _
    cases hfind : s.items.find row.saleItem with
    | none =>
        have hN : ¬ N ∈ keys := fun h => Nat.lt_irrefl N (hkeys N h)
        simp [batchOf, hfind, hN]
    | some item => simp [batchOf, hfind]
  rw [← Journal.total_map_filter, hmem, Journal.total_filter_mem batchOf _ w hkeys]
  refine Finset.sum_congr rfl ?_
  intro k hk
  have hrows : s.returns.rows.filter (fun row => batchOf row = k) =
      s.returns.rows.filter (fun row => (s.frame zone).batchOf row.saleItem = some k) := by
    refine List.filter_congr ?_
    intro row _
    cases hfind : s.items.find row.saleItem with
    | none =>
        have hne : ¬ N = k := by
          have := Finset.mem_range.1 hk
          omega
        simp [batchOf, Store.frame, hfind, hne]
    | some item => simp [batchOf, Store.frame, hfind]
  rw [hrows]
  rfl

end Movements

variable (zone product first last)

/-- The sum of a quantity over the counted batches. -/
theorem sum_ledgerBatches (quantity : ProductBatch → Int) (measure : Holding → Int)
    (hmeasure : ∀ batch, quantity batch = measure (batch.holding zone)) (p : Holding → Bool)
    {N : Nat} (hN : s.batches.next ≤ N) :
    (((ledgerBatches zone (customRange first last) s product).filter
      (fun batch => p (batch.holding zone))).map quantity).sum =
        ∑ k ∈ Finset.range N, (((s.account zone (s.frame zone) k).holding).map
          (fun h => if h.counted product last && p h then measure h else 0)).getD 0 := by
  have hperm := List.perm_insertionSort
    (fun a b : ProductBatch => a.expirationDate ≤ b.expirationDate)
    (s.batches.rows.filter (fun batch => batch.product = product &&
      batch.inLedger zone (customRange first last)))
  have hsum := ((hperm.filter (fun batch => p (batch.holding zone))).map quantity).sum_eq
  unfold ledgerBatches
  rw [hsum, List.filter_filter, Table.sum_filter s.batches _ quantity hN]
  refine Finset.sum_congr rfl ?_
  intro k _
  cases hfind : s.batches.find k with
  | none => simp [Store.account, hfind]
  | some batch =>
      simp only [Store.account, hfind, Option.map_some, Option.getD_some, counted_holding,
        hmeasure, Bool.and_comm]

section Balances

variable {N : Nat} (hN : s.batches.next ≤ N) (hsound : VoidingSound s)

include hN in
theorem ledgerBatches_lt : ∀ k ∈ (ledgerBatches zone (customRange first last) s product).map
    ProductBatch.pk, k < N := by
  intro k hk
  rcases List.mem_map.1 hk with ⟨batch, hbatch, rfl⟩
  have hmem := List.mem_filter.1 ((List.mem_insertionSort _).1 hbatch)
  exact Nat.lt_of_lt_of_le (s.batches.below batch hmem.1) hN

include hN hsound

/-- The closing balance of a row is the sum of the closing balances of the accounts. -/
theorem ledgerEnding_eq_sum :
    ledgerEnding zone (customRange first last) s
        (ledgerBatches zone (customRange first last) s product) =
      ∑ k ∈ Finset.range N, (s.account zone (s.frame zone) k).closing product last := by
  have hkeys := ledgerBatches_lt zone product first last hN
  have hleft := sum_ledgerBatches zone product first last ProductBatch.remainingQuantity
    Holding.remaining (fun _ => rfl) (fun _ => true) hN
  have hsales := total_ledgerSales zone hkeys (fun entry => last < entry.day) hsound
  have hadjusted := total_ledgerAdjustments (s := s) zone hkeys (fun entry => last < entry.day)
  have hreturned := total_ledgerReturns (s := s) zone hkeys (fun entry => last < entry.day)
  simp only [List.filter_true, Bool.and_true] at hleft
  refine (congrArg₂ (· - ·) (congrArg₂ (· + ·) (congrArg₂ (· + ·) hleft hsales) hadjusted)
    hreturned).trans ?_
  simp only [← Finset.sum_add_distrib, ← Finset.sum_sub_distrib]
  refine Finset.sum_congr rfl ?_
  intro k _
  have hiff := @mem_ledgerBatches zone s product first last k
  cases hholding : (s.account zone (s.frame zone) k).holding with
  | none =>
      simp only [hholding, reduceCtorEq, false_and, exists_false, iff_false] at hiff
      simp [Account.closing, hholding, hiff]
  | some h =>
      simp only [hholding, Option.some.injEq, exists_eq_left'] at hiff
      simp only [hiff]
      cases hcounted : h.counted product last with
      | false => simp [Account.closing, hholding, hcounted]
      | true => simp [Account.closing, hholding, hcounted, Journal.after]

/-- The opening balance of a row is the sum of the opening balances of the accounts. -/
theorem ledgerRow_beginning (texts : ReportTexts) (row : Product) :
    (ledgerRow texts zone (customRange first last) s row).beginning =
      ∑ k ∈ Finset.range N, (s.account zone (s.frame zone) k).opening row.pk first last := by
  -- each sum of the row is a sum over the accounts of the batches
  have hkeys := ledgerBatches_lt zone row.pk first last hN
  have hending := ledgerEnding_eq_sum zone row.pk first last hN hsound
  have hsales := total_ledgerSales zone hkeys
    (fun entry => (customRange first last).covers entry.day) hsound
  have hadjusted := total_ledgerAdjustments (s := s) zone hkeys
    (fun entry => (customRange first last).covers entry.day)
  have hreturned := total_ledgerReturns (s := s) zone hkeys
    (fun entry => (customRange first last).covers entry.day)
  have hreceived := sum_ledgerBatches zone row.pk first last ProductBatch.initialQuantity
    Holding.initial (fun _ => rfl)
    (fun h => (customRange first last).covers (max h.createdDay h.dateReceived)) hN
  have hdeducted := total_deductions texts
    (salesWithin zone (customRange first last) s
      ((ledgerBatches zone (customRange first last) s row.pk).map ProductBatch.pk))
    { outlet := 0
      allocations := [] }
  have hoff := (hdeducted.trans (Int.zero_add _)).trans hsales
  refine (congrArg₂ (· - ·) (congrArg₂ (· + ·) hending (congrArg₂ (· + ·) hoff
    (congrArg₂ (· - ·) hadjusted hreturned))) hreceived).trans ?_
  -- one sum over the batches, compared batch by batch
  simp only [← Finset.sum_add_distrib, ← Finset.sum_sub_distrib]
  refine Finset.sum_congr rfl ?_
  intro k _
  have hiff := @mem_ledgerBatches zone s row.pk first last k
  -- a batch that does not exist or is not of the product adds nothing on either side
  cases hholding : (s.account zone (s.frame zone) k).holding with
  | none =>
      simp only [hholding, reduceCtorEq, false_and, exists_false, iff_false] at hiff
      simp [Account.closing, Account.opening, hholding, hiff]
  | some h =>
      simp only [hholding, Option.some.injEq, exists_eq_left'] at hiff
      simp only [hiff]
      cases hcounted : h.counted row.pk last with
      | false => simp [Account.closing, Account.opening, hholding, hcounted]
      | true =>
          simp only [Account.opening, hholding, hcounted, if_true, Option.map_some,
            Option.getD_some, Bool.true_and, customRange_covers, decide_eq_true_eq, Journal.within]
          omega

end Balances

end Rows

end RosarioDairy
