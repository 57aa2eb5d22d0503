import RosarioDairy.Foundations.Partition
import RosarioDairy.Reporting.LedgerHistory

/-!
# LedgerModes — the ledger without dates and the ledger of the day

Without dates `inventory_ledger` reports the current day and takes the stock as it stands; with the
current day given as the range it undoes later movements and puts a receipt on the later of the two
dates of the batch.  Over a history the batches, the movements and the closing stock are the same,
so that the reports differ in their receipts at most: in those of a batch that was entered earlier
and whose receipt is dated to the current day.
-/

namespace RosarioDairy

open Foundations

/-! ## Two rows of one product -/

/-- The rows give the same balances and movements. -/
structure LedgerRow.Agrees (row other : LedgerRow) : Prop where
  beginning : row.beginning = other.beginning
  received : row.received = other.received
  total : row.total = other.total
  outlet : row.outlet = other.outlet
  allocations : row.allocations = other.allocations
  adjustments : row.adjustments = other.adjustments
  ending : row.ending = other.ending

/-- The range of a report without dates. -/
def dayRange (today : Int) : LedgerRange :=
  { custom := false
    startDate := today
    endDate := today }

section Rows

variable {zone : Zone} {s : Store} {today : Int}

/-- A store whose accounts lie in the past of `today`. -/
def Store.Dated (zone : Zone) (today : Int) (s : Store) : Prop :=
  ∀ pk, (s.account zone (s.frame zone) pk).Dated today

theorem account_holding {batch : ProductBatch} (hbatch : batch ∈ s.batches.rows) :
    (s.account zone (s.frame zone) batch.pk).holding = some (batch.holding zone) := by
  have hfind : s.batches.find batch.pk = some batch := s.batches.find_of_mem hbatch
  simp [Store.account, hfind]

theorem Store.Dated.batch (h : s.Dated zone today) {batch : ProductBatch}
    (hbatch : batch ∈ s.batches.rows) :
    zone.localDate batch.createdAt ≤ today ∧ batch.dateReceived ≤ today := by
  have hdated := h batch.pk _ (account_holding hbatch)
  exact ⟨hdated.1, hdated.2.1⟩

/-- Both reports count the same batches. -/
theorem ledgerBatches_dayRange (h : s.Dated zone today) (product : Nat) :
    ledgerBatches zone (dayRange today) s product =
      ledgerBatches zone (customRange today today) s product := by
  unfold ledgerBatches
  congr 1
  refine List.filter_congr ?_
  intro batch hbatch
  have hcreated : decide (zone.localDate batch.createdAt ≤ today) = true :=
    decide_eq_true (h.batch hbatch).1
  have hcustom : batch.inLedger zone (customRange today today) =
      (!batch.isHistoricalReference && batch.dateReceived ≤ today &&
        zone.localDate batch.createdAt ≤ today) := rfl
  have hday : batch.inLedger zone (dayRange today) =
      (!batch.isHistoricalReference && batch.dateReceived ≤ today && true) := rfl
  rw [hcustom, hday, hcreated]

/-- Nothing is booked after `today`, so that nothing is undone. -/
theorem Account.closing_today {product : Nat} {a : Account} (h : a.Dated today) :
    a.closing product today =
      (a.holding.map fun holding =>
        if holding.counted product today then holding.remaining else 0).getD 0 := by
  unfold Account.closing
  cases hholding : a.holding with
  | none => rfl
  | some holding =>
      rcases h holding hholding with ⟨_, _, hsold, hadjusted, hreturned⟩
      simp only [Journal.after_eq_zero hsold (Int.le_refl today),
        Journal.after_eq_zero hadjusted (Int.le_refl today),
        Journal.after_eq_zero hreturned (Int.le_refl today), Int.add_zero, Int.sub_zero,
        Option.map_some, Option.getD_some]

/-- Both reports close with the stock left. -/
theorem ledgerEnding_today (h : s.Dated zone today) (hsound : VoidingSound s) (product : Nat) :
    ledgerEnding zone (customRange today today) s
        (ledgerBatches zone (customRange today today) s product) =
      ledgerEnding zone (dayRange today) s
        (ledgerBatches zone (customRange today today) s product) := by
  have hending := ledgerEnding_eq_sum zone product today today (Nat.le_refl s.batches.next) hsound
  have hleft := sum_ledgerBatches zone product today today ProductBatch.remainingQuantity
    Holding.remaining (fun _ => rfl) (fun _ => true) (Nat.le_refl s.batches.next)
  simp only [List.filter_true, Bool.and_true] at hleft
  rw [hending]
  refine Eq.trans (Finset.sum_congr rfl ?_) hleft.symm
  intro k _
  exact Account.closing_today (h k)

/-- The reports agree on a product once they agree on its receipts. -/
theorem ledgerRow_agrees (texts : ReportTexts) (h : s.Dated zone today) (hsound : VoidingSound s)
    (product : Product) :
    (ledgerRow texts zone (dayRange today) s product).Agrees
        (ledgerRow texts zone (customRange today today) s product) ↔
      (ledgerRow texts zone (dayRange today) s product).received =
        (ledgerRow texts zone (customRange today today) s product).received := by
  constructor
  · intro hagrees
    exact hagrees.received
  · intro hreceived
    -- on the current day both modes read the same batches, and only `received` differs
    have hbatches := ledgerBatches_dayRange h product.pk
    have hending := ledgerEnding_today h hsound product.pk
    have htotal : (ledgerRow texts zone (dayRange today) s product).total =
        (ledgerRow texts zone (customRange today today) s product).total := by
      unfold ledgerRow
      dsimp only
      rw [hbatches, hending]
      rfl
    exact
      { beginning := congrArg₂ (· - ·) htotal hreceived
        received := hreceived
        total := htotal
        outlet := by
          unfold ledgerRow
          rw [hbatches]
          rfl
        allocations := by
          unfold ledgerRow
          rw [hbatches]
          rfl
        adjustments := by
          unfold ledgerRow
          rw [hbatches]
          rfl
        ending := by
          unfold ledgerRow
          dsimp only
          rw [hbatches, hending] }

end Rows

/-! ## Receipts of the day -/

/-- Every counted batch of the product whose receipt is dated `today` was entered today. -/
def Store.EnteredOnReceipt (zone : Zone) (today : Int) (product : Nat) (s : Store) : Prop :=
  ∀ batch ∈ s.batches.rows, batch.product = product → batch.isHistoricalReference = false →
    batch.dateReceived = today → zone.localDate batch.createdAt = today

section Receipts

variable {zone : Zone} {s : Store} {today : Int}

theorem mem_ledgerBatches_today (h : s.Dated zone today) {product : Nat} {batch : ProductBatch} :
    batch ∈ ledgerBatches zone (customRange today today) s product ↔
      batch ∈ s.batches.rows ∧ batch.product = product ∧ batch.isHistoricalReference = false := by
  rw [← ledgerBatches_dayRange h, ledgerBatches, List.mem_insertionSort, List.mem_filter]
  constructor
  · rintro ⟨hbatch, hcounted⟩
    simp only [ProductBatch.inLedger, Bool.and_eq_true, decide_eq_true_eq,
      Bool.not_eq_true'] at hcounted
    exact ⟨hbatch, hcounted.1, hcounted.2.1.1⟩
  · rintro ⟨hbatch, hproduct, hhistorical⟩
    have hreceived : decide (batch.dateReceived ≤ (dayRange today).endDate) = true :=
      decide_eq_true (h.batch hbatch).2
    refine ⟨hbatch, ?_⟩
    rw [ProductBatch.inLedger, hproduct, hhistorical, hreceived]
    simp [dayRange]

/-- The ledger without dates goes by the day of entry. -/
theorem covers_dayRange (batch : ProductBatch) :
    (dayRange today).covers (batch.receivedOn zone (dayRange today)) = true ↔
      zone.localDate batch.createdAt = today := by
  have hday : batch.receivedOn zone (dayRange today) = zone.localDate batch.createdAt := rfl
  rw [hday, LedgerRange.covers, Bool.and_eq_true, decide_eq_true_eq, decide_eq_true_eq]
  exact ⟨fun hboth => Int.le_antisymm hboth.2 hboth.1, fun hEq => ⟨hEq.ge, hEq.le⟩⟩

/-- The ledger of the day goes by the later of the two dates. -/
theorem covers_customRange {batch : ProductBatch}
    (hcreated : zone.localDate batch.createdAt ≤ today) (hreceived : batch.dateReceived ≤ today) :
    (customRange today today).covers (batch.receivedOn zone (customRange today today)) = true ↔
      zone.localDate batch.createdAt = today ∨ batch.dateReceived = today := by
  have hlater : batch.receivedOn zone (customRange today today) =
      max (zone.localDate batch.createdAt) batch.dateReceived := rfl
  rw [hlater, customRange_covers, decide_eq_true_eq]
  omega

/-- The reports agree on the receipts exactly while every receipt of the day is an entry of it. -/
theorem received_agrees_iff (texts : ReportTexts) (h : s.Dated zone today)
    (hopened : ∀ pk, ∀ holding ∈ (s.account zone (s.frame zone) pk).holding, 1 ≤ holding.initial)
    (product : Product) :
    (ledgerRow texts zone (dayRange today) s product).received =
        (ledgerRow texts zone (customRange today today) s product).received ↔
      s.EnteredOnReceipt zone today product.pk := by
  let batches := ledgerBatches zone (customRange today today) s product.pk
  let entered : ProductBatch → Bool := fun batch =>
    (dayRange today).covers (batch.receivedOn zone (dayRange today))
  let received : ProductBatch → Bool := fun batch =>
    (customRange today today).covers (batch.receivedOn zone (customRange today today))
  have hday : (ledgerRow texts zone (dayRange today) s product).received =
      total ProductBatch.initialQuantity (batches.filter entered) := by
    unfold ledgerRow
    rw [ledgerBatches_dayRange h]
    rfl
  have hcustom : (ledgerRow texts zone (customRange today today) s product).received =
      total ProductBatch.initialQuantity (batches.filter received) := rfl
  have hpos : ∀ batch ∈ batches, 0 < batch.initialQuantity := by
    intro batch hbatch
    -- a batch has a positive quantity, so counting it or not shows in the sum
    have hrow := ((mem_ledgerBatches_today h).1 hbatch).1
    exact hopened batch.pk _ (account_holding hrow)
  have hdates : ∀ batch ∈ batches,
      zone.localDate batch.createdAt ≤ today ∧ batch.dateReceived ≤ today := fun batch hbatch =>
    h.batch ((mem_ledgerBatches_today h).1 hbatch).1
  -- what the day counts as received, the range counts as well
  have himp : ∀ batch ∈ batches, entered batch = true → received batch = true := by
    intro batch hbatch hentered
    rcases hdates batch hbatch with ⟨hcreated, hreceived⟩
    exact (covers_customRange hcreated hreceived).2 (.inl ((covers_dayRange batch).1 hentered))
  -- equal sums of positive terms: the range counts nothing more
  rw [hday, hcustom, total_filter_eq_iff hpos himp]
  constructor
  · intro hall batch hrow hproduct hhistorical htoday
    have hbatch : batch ∈ batches := (mem_ledgerBatches_today h).2 ⟨hrow, hproduct, hhistorical⟩
    rcases hdates batch hbatch with ⟨hcreated, hreceived⟩
    have hcounted := (covers_customRange hcreated hreceived).2 (.inr htoday)
    exact (covers_dayRange batch).1 (hall batch hbatch hcounted)
  · intro hentry batch hbatch hcounted
    rcases (mem_ledgerBatches_today h).1 hbatch with ⟨hrow, hproduct, hhistorical⟩
    rcases hdates batch hbatch with ⟨hcreated, hreceived⟩
    apply (covers_dayRange batch).2
    rcases (covers_customRange hcreated hreceived).1 hcounted with hentered | htoday
    · exact hentered
    · exact hentry batch hrow hproduct hhistorical htoday

end Receipts

/-! ## Over whole histories -/

section Histories

variable (texts : ReportTexts) {env : Deployment} (h : LiveHistory env) (product : Nat)

/-- The ledger without dates and the ledger of the current day show the product with the same
balances and movements. -/
def LedgerModesAgree : Prop :=
  ∃ undated day,
    inventoryLedger texts { zone := env.zone, now := h.now } false none none h.store =
      .ok undated ∧
    inventoryLedger texts { zone := env.zone, now := h.now } false
      (some (env.zone.localDate h.now)) (some (env.zone.localDate h.now)) h.store = .ok day ∧
    (∃ row ∈ undated.rows, row.id = product) ∧ (∃ row ∈ day.rows, row.id = product) ∧
    ∀ row ∈ undated.rows, ∀ other ∈ day.rows, row.id = product → other.id = product →
      row.Agrees other

end Histories

/-- The two ledgers: over every history and for every active product they agree exactly while
every batch of the product whose receipt is dated to the current day was also entered on it. -/
theorem ledger_modes_agree_iff (texts : ReportTexts) (env : Deployment) (h : LiveHistory env)
    (product : Product) (hproduct : product ∈ h.products.rows) (hactive : product.isActive = true) :
    LedgerModesAgree texts h product.pk ↔
      h.store.EnteredOnReceipt env.zone (env.zone.localDate h.now) product.pk := by
  have hdated : h.store.Dated env.zone (env.zone.localDate h.now) := h.account_dated
  have hagrees := ledgerRow_agrees texts hdated h.store_sound product
  have hreceipts := received_agrees_iff texts hdated h.account_opened product
  rw [← hreceipts, ← hagrees]
  constructor
  · rintro ⟨undated, day, hundated, hday, ⟨row, hrow, hid⟩, ⟨other, hother, hid'⟩, hrows⟩
    have hEq := (ledger_row_iff hproduct hactive hundated row).1 ⟨hrow, hid⟩
    have hEq' := (ledger_row hproduct hactive hday other).1 ⟨hother, hid'⟩
    have hsame := hrows row hrow other hother hid hid'
    rw [hEq, hEq'] at hsame
    exact hsame
  · intro hsame
    rcases inventoryLedger_admin texts { zone := env.zone, now := h.now } none none h.store with
      ⟨undated, hundated⟩
    rcases inventoryLedger_admin texts { zone := env.zone, now := h.now }
      (some (env.zone.localDate h.now)) (some (env.zone.localDate h.now)) h.store with ⟨day, hday⟩
    have hrow := ledger_row_iff hproduct hactive hundated
    have hother := ledger_row hproduct hactive hday
    refine ⟨undated, day, hundated, hday, ⟨_, (hrow _).2 rfl⟩, ⟨_, (hother _).2 rfl⟩, ?_⟩
    intro row hmem other hmem' hid hid'
    rw [(hrow row).1 ⟨hmem, hid⟩, (hother other).1 ⟨hmem', hid'⟩]
    exact hsame

/-! ## A receipt dated to the day of the report -/

/-- Ten units are received on day 1, and on day 5 their receipt is dated to that day. -/
def redatedOnDayFive : LiveHistory (Deployment.plain fun _ => "") :=
  { receivedOnDayOne true with
    calls :=
      [{ now := 86400
         op := .createBatch (some .admin)
          { product := some 1
            grade := none
            unitPrice := none
            quantity := some (.ofAmount 1000)
            expirationDate := some 30
            dateReceived := none
            notes := none } },
       { now := 432000
         op := .updateBatch (some .admin) false 1
          { product := none
            grade := none
            unitPrice := none
            quantity := none
            expirationDate := none
            dateReceived := some 5
            notes := none } }]
    monotone := by simp [MonotoneClock]
    past := by simp [receivedOnDayOne]
    physical := by simp [Operation.isPhysical] }

/-- The ledger of day 5 counts the ten units as received on the day, the ledger without dates as
stock it began with. -/
theorem redated_receipt_disagrees :
    ¬ ∀ (texts : ReportTexts) (env : Deployment) (h : LiveHistory env) (product : Product),
      product ∈ h.products.rows → product.isActive = true →
        LedgerModesAgree texts h product.pk := by
  intro h
  rcases h .plain _ redatedOnDayFive milk (by decide) rfl with
    ⟨undated, day, hundated, hday, ⟨row, hrow, hid⟩, ⟨other, hother, hid'⟩, hrows⟩
  have hnothing : ∀ ledger, inventoryLedger .plain { zone := Zone.fixed, now := 432000 } false none
      none redatedOnDayFive.store = .ok ledger → ∀ row ∈ ledger.rows, row.received = 0 := by
    intro ledger hok
    cases hok
    decide
  have hten : ∀ ledger, inventoryLedger .plain { zone := Zone.fixed, now := 432000 } false (some 5)
      (some 5) redatedOnDayFive.store = .ok ledger → ∀ row ∈ ledger.rows, row.received = 1000 := by
    intro ledger hok
    cases hok
    decide
  have hreceived := (hrows row hrow other hother hid hid').received
  rw [hnothing undated hundated row hrow, hten day hday other hother] at hreceived
  exact absurd hreceived (by decide)

/-- The same history with the receipt left as it was entered. -/
theorem ledger_modes_agree_received :
    LedgerModesAgree .plain (receivedOnDayOne false) milk.pk :=
  (ledger_modes_agree_iff .plain _ (receivedOnDayOne false) milk (by decide) rfl).2 (by
    unfold Store.EnteredOnReceipt
    decide)

end RosarioDairy
