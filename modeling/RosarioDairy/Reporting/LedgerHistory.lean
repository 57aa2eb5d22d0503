import Mathlib.Algebra.Order.BigOperators.Group.Finset
import Mathlib.Algebra.Order.Ring.Int
import RosarioDairy.Reporting.Reconstruction

/-!
# LedgerHistory — the reported balances over whole histories

For every history and every active product the ledger reports, for every range up to the current
day, what the product really held, exactly while no batch of the product is dated after the day it
was entered.
-/

namespace RosarioDairy

open Foundations

/-! ## Live histories -/

/-- A history from the empty store up to the instant `now`, under a clock that never runs
backwards.  A checkout moves stock when it is entered: only `encode_transaction` books a sale under
another date, and it keeps the moment of entry. -/
structure LiveHistory (env : Deployment) where
  categories : Table Category
  products : Table Product
  calls : List Call
  now : Int
  monotone : MonotoneClock calls
  past : ∀ call ∈ calls, call.now ≤ now
  physical : ∀ call ∈ calls, call.op.isPhysical

namespace LiveHistory

variable {env : Deployment} (h : LiveHistory env)

/-- The store the history leads to. -/
def store : Store := replay env (Store.empty h.categories h.products) h.calls

/-- The store at the close of day `d`. -/
def storeAt (d : Int) : Store :=
  replay env (Store.empty h.categories h.products) (callsUpTo env d h.calls)

/-- The account of a batch in the store the history leads to. -/
def account (pk : Nat) : Account := h.store.account env.zone (h.store.frame env.zone) pk

theorem account_balanced (pk : Nat) : (h.account pk).Balanced :=
  (replay_empty_account _ h.monotone h.physical
    (fun call hcall => env.zone.mono (h.past call hcall)) (h.store.frame_fits env.zone)).1

theorem account_dated (pk : Nat) : (h.account pk).Dated (env.zone.localDate h.now) :=
  (replay_empty_account _ h.monotone h.physical
    (fun call hcall => env.zone.mono (h.past call hcall)) (h.store.frame_fits env.zone)).2

theorem account_opened (pk : Nat) : ∀ holding ∈ (h.account pk).holding, 1 ≤ holding.initial := by
  refine replay_account pk h.calls (fun _ _ _ _ ha hstep => hstep.opened ha) h.physical
    (h.store.frame_fits env.zone) ?_
  rw [empty_account]
  intro holding hholding
  cases hholding

/-- The stock of a product at the close of a day, account by account. -/
theorem heldOf_storeAt (product : Nat) (d : Int) {N : Nat} (hN : (h.storeAt d).batches.next ≤ N) :
    (h.storeAt d).heldOf product =
      ∑ k ∈ Finset.range N, (h.account k).heldFor product d :=
  heldOf_callsUpTo h.monotone h.physical product d hN (h.store.frame_fits env.zone)

theorem heldFor_nonneg (product : Nat) (d : Int) (pk : Nat) :
    0 ≤ (h.account pk).heldFor product d :=
  RosarioDairy.heldFor_nonneg h.monotone h.physical product d pk (h.store.frame_fits env.zone)

end LiveHistory

theorem empty_imported (categories : Table Category) (products : Table Product) :
    ImportedHistory (Store.empty categories products) :=
  { imported := by simp [Store.empty]
    fulfilled := by simp [Store.empty]
    unreturned := rfl
    nonneg := ⟨by simp [Store.empty], by simp [Store.empty]⟩
    line_sale := by simp [Store.empty]
    order_sale := by simp [Store.empty] }

theorem Outcome.products {clock : Clock} {op : Operation} {s s' : Store}
    (h : Outcome clock op s s') : s'.products = s.products := by
  cases h with
  | unchanged => rfl
  | received => rfl
  | edited => rfl
  | sold s' sale heffect hmovement => exact heffect.products
  | adjusted => rfl
  | voided sale s₁ skipped voidedBy reason hfind hlocal hlive hitems =>
      rcases voidItems_store hitems with ⟨batches, returns, rfl⟩
      rfl
  | paid => rfl

theorem LiveHistory.store_products {env : Deployment} (h : LiveHistory env) :
    h.store.products = h.products :=
  replay_outcome (P := fun s => s.products = h.products)
    (fun _ _ _ _ hs houtcome => houtcome.products.trans hs) h.calls rfl

theorem LiveHistory.store_sound {env : Deployment} (h : LiveHistory env) : VoidingSound h.store :=
  (replay_voidingSound _ (empty_imported h.categories h.products) h.calls).2

/-! ## What the ledger is for -/

section Claims

variable (texts : ReportTexts) {env : Deployment} (h : LiveHistory env) (product : Nat)

/-- The ledger of every range up to the current day reports what the product held at the close of
the last day and of the day before the first. -/
def LedgerReconstructs : Prop :=
  ∀ first last, first ≤ last → last ≤ env.zone.localDate h.now →
    ∃ ledger,
      inventoryLedger texts { zone := env.zone, now := h.now } false (some first) (some last)
        h.store = .ok ledger ∧
      (∃ row ∈ ledger.rows, row.id = product) ∧
      ∀ row ∈ ledger.rows, row.id = product →
        row.ending = (h.storeAt last).heldOf product ∧
        row.beginning = (h.storeAt (first - 1)).heldOf product

/-- Every range begins with what any range that ends the day before it ends with. -/
def LedgerContinues : Prop :=
  ∀ earlier first last, earlier ≤ first - 1 → first ≤ last → last ≤ env.zone.localDate h.now →
    ∀ before ledger,
      inventoryLedger texts { zone := env.zone, now := h.now } false (some earlier)
        (some (first - 1)) h.store = .ok before →
      inventoryLedger texts { zone := env.zone, now := h.now } false (some first) (some last)
        h.store = .ok ledger →
      ∀ row₁ ∈ before.rows, ∀ row₂ ∈ ledger.rows, row₁.id = product → row₂.id = product →
        row₂.beginning = row₁.ending

end Claims

/-- No non-historical batch of the product is dated after the day it was entered. -/
def Store.DatedByEntry (zone : Zone) (product : Nat) (s : Store) : Prop :=
  ∀ batch ∈ s.batches.rows, batch.product = product → batch.isHistoricalReference = false →
    batch.dateReceived ≤ zone.localDate batch.createdAt

section Ledger

variable {texts : ReportTexts} {env : Deployment} {h : LiveHistory env}

theorem LedgerReconstructs.continues {product : Nat} (hledger : LedgerReconstructs texts h product) :
    LedgerContinues texts h product := by
  intro earlier first last hearlier hrange hlast before ledger hbefore hafter row₁ hrow₁ row₂ hrow₂
    hid₁ hid₂
  rcases hledger earlier (first - 1) hearlier (by omega) with ⟨reported₁, hreported₁, _, hrows₁⟩
  rcases hledger first last hrange hlast with ⟨reported₂, hreported₂, _, hrows₂⟩
  have hEq₁ : reported₁ = before := Except.ok.inj (hreported₁.symm.trans hbefore)
  have hEq₂ : reported₂ = ledger := Except.ok.inj (hreported₂.symm.trans hafter)
  subst hEq₁ hEq₂
  rw [(hrows₁ row₁ hrow₁ hid₁).1, (hrows₂ row₂ hrow₂ hid₂).2]

/-- An active product has one row in every ledger. -/
theorem ledger_row_iff {product : Product} (hproduct : product ∈ h.products.rows)
    (hactive : product.isActive = true) {startDate endDate : Option Int} {ledger : Ledger}
    (hledger : inventoryLedger texts { zone := env.zone, now := h.now } false startDate endDate
      h.store = .ok ledger) (row : LedgerRow) :
    row ∈ ledger.rows ∧ row.id = product.pk ↔
      row = ledgerRow texts env.zone
        (ledgerRange { zone := env.zone, now := h.now } startDate endDate) h.store product := by
  rw [(inventoryLedger_ok hledger).2 row, h.store_products]
  constructor
  · rintro ⟨⟨listed, hlisted, _, rfl⟩, hid⟩
    have hEq : listed = product := h.products.eq_of_pk_eq hlisted hproduct hid
    subst hEq
    rfl
  · rintro rfl
    exact ⟨⟨product, hproduct, hactive, rfl⟩, rfl⟩

theorem ledger_row {product : Product} (hproduct : product ∈ h.products.rows)
    (hactive : product.isActive = true) {first last : Int} {ledger : Ledger}
    (hledger : inventoryLedger texts { zone := env.zone, now := h.now } false (some first)
      (some last) h.store = .ok ledger) (row : LedgerRow) :
    row ∈ ledger.rows ∧ row.id = product.pk ↔
      row = ledgerRow texts env.zone (customRange first last) h.store product :=
  ledger_row_iff hproduct hactive hledger row

theorem account_datedByEntry {product : Nat} (hentry : h.store.DatedByEntry env.zone product)
    (pk : Nat) : (h.account pk).DatedByEntry product := by
  intro holding hholding hproduct hhistorical
  rcases Option.map_eq_some_iff.1 hholding with ⟨batch, hfind, rfl⟩
  exact hentry batch (Table.find_eq_some.1 hfind).1 hproduct hhistorical

/-- While no batch is dated after its entry, the row of a product reports what was held. -/
theorem ledger_reconstructs (texts : ReportTexts) {product : Product}
    (hproduct : product ∈ h.products.rows) (hactive : product.isActive = true)
    (hentry : h.store.DatedByEntry env.zone product.pk) :
    LedgerReconstructs texts h product.pk := by
  intro first last hrange hlast
  rcases inventoryLedger_admin texts { zone := env.zone, now := h.now } (some first) (some last)
    h.store with ⟨ledger, hledger⟩
  -- the ledger has one row for the product, so its values can be read off
  have hrow := ledger_row hproduct hactive hledger
  refine ⟨ledger, hledger, ⟨_, (hrow _).2 rfl⟩, ?_⟩
  intro row hmem hid
  have hEq := (hrow row).1 ⟨hmem, hid⟩
  subst hEq
  have hdated := account_datedByEntry hentry
  refine ⟨?_, ?_⟩
  · -- both sides are sums over the batches, up to a bound that covers both stores
    let N := max h.store.batches.next (h.storeAt last).batches.next
    have hending := ledgerEnding_eq_sum env.zone product.pk first last
      (Nat.le_max_left h.store.batches.next (h.storeAt last).batches.next) h.store_sound
    have hheld := h.heldOf_storeAt product.pk last
      (Nat.le_max_right h.store.batches.next (h.storeAt last).batches.next)
    rw [hheld]
    refine Eq.trans hending (Finset.sum_congr rfl ?_)
    intro k _
    exact Account.closing_eq_heldFor (hdated k)
  · have hbeginning := ledgerRow_beginning env.zone first last
      (Nat.le_max_left h.store.batches.next (h.storeAt (first - 1)).batches.next) h.store_sound
      texts product
    have hheld := h.heldOf_storeAt product.pk (first - 1)
      (Nat.le_max_right h.store.batches.next (h.storeAt (first - 1)).batches.next)
    rw [hheld, hbeginning]
    refine Finset.sum_congr rfl ?_
    intro k _
    exact Account.opening_eq_heldFor (h.account_balanced k) (h.account_dated k) (by omega)
      (hdated k)

/-- A batch dated after its entry is counted as received a second time on its receipt date. -/
theorem datedByEntry_of_reconstructs {product : Product} (hproduct : product ∈ h.products.rows)
    (hactive : product.isActive = true) (hledger : LedgerReconstructs texts h product.pk) :
    h.store.DatedByEntry env.zone product.pk := by
  intro batch hbatch hof hhistorical
  -- a batch entered before the day it was received is missing from the beginning of that day
  by_contra hlate
  have hfind : h.store.batches.find batch.pk = some batch := h.store.batches.find_of_mem hbatch
  have hholding : (h.account batch.pk).holding = some (batch.holding env.zone) := by
    simp [LiveHistory.account, Store.account, hfind]
  have hreceived : batch.dateReceived ≤ env.zone.localDate h.now :=
    (h.account_dated batch.pk _ hholding).2.1
  rcases hledger batch.dateReceived batch.dateReceived (Int.le_refl _) hreceived with
    ⟨ledger, hok, ⟨row, hmem, hid⟩, hrows⟩
  have hrow := (ledger_row hproduct hactive hok row).1 ⟨hmem, hid⟩
  have hreported := (hrows row hmem hid).2
  have hbeginning := ledgerRow_beginning env.zone batch.dateReceived batch.dateReceived
    (Nat.le_max_left h.store.batches.next (h.storeAt (batch.dateReceived - 1)).batches.next)
    h.store_sound texts product
  have hheld := h.heldOf_storeAt product.pk (batch.dateReceived - 1)
    (Nat.le_max_right h.store.batches.next (h.storeAt (batch.dateReceived - 1)).batches.next)
  -- every batch is opened with at most what was held, and this one with less
  have hlt : ∑ k ∈ Finset.range (max h.store.batches.next
        (h.storeAt (batch.dateReceived - 1)).batches.next),
      (h.account k).opening product.pk batch.dateReceived batch.dateReceived <
        ∑ k ∈ Finset.range (max h.store.batches.next
          (h.storeAt (batch.dateReceived - 1)).batches.next),
            (h.account k).heldFor product.pk (batch.dateReceived - 1) := by
    refine Finset.sum_lt_sum ?_ ⟨batch.pk, ?_, ?_⟩
    · intro k _
      exact Account.opening_le_heldFor (h.account_balanced k) (h.account_dated k)
        (h.account_opened k) (h.heldFor_nonneg product.pk (batch.dateReceived - 1) k)
    · have hbelow : batch.pk < h.store.batches.next := h.store.batches.below batch hbatch
      exact Finset.mem_range.2 (Nat.lt_of_lt_of_le hbelow (Nat.le_max_left _ _))
    · have hentered : (batch.holding env.zone).createdDay < (batch.holding env.zone).dateReceived :=
        Int.not_le.1 hlate
      have hday : (batch.holding env.zone).dateReceived = batch.dateReceived := rfl
      rw [← hday]
      exact Account.opening_lt_heldFor (h.account_balanced batch.pk) (h.account_dated batch.pk)
        (h.account_opened batch.pk) hholding hof hhistorical hentered
  rw [hrow] at hreported
  rw [hreported] at hbeginning
  rw [hheld] at hbeginning
  exact absurd hbeginning (Int.ne_of_gt hlt)

/-- Ledger reconstruction: over every history, the ledger reports the balances an active product
really had, and its ranges continue each other, exactly while no batch of the product is dated
after the day it was entered. -/
theorem ledger_reconstructs_iff (texts : ReportTexts) (env : Deployment) (h : LiveHistory env)
    (product : Product) (hproduct : product ∈ h.products.rows) (hactive : product.isActive = true) :
    (LedgerReconstructs texts h product.pk ∧ LedgerContinues texts h product.pk) ↔
      h.store.DatedByEntry env.zone product.pk := by
  constructor
  · rintro ⟨hledger, _⟩
    exact datedByEntry_of_reconstructs hproduct hactive hledger
  · intro hentry
    have hledger := ledger_reconstructs texts hproduct hactive hentry
    exact ⟨hledger, hledger.continues⟩

end Ledger

/-! ## A receipt date edited past the entry -/

/-- Report texts that leave case and order alone. -/
def ReportTexts.plain : ReportTexts :=
  { customerName := fun _ => ""
    lower := id
    casefold := id
    productLe := fun _ _ => true }

/-- The product of the sample history. -/
def milk : Product :=
  { pk := 1
    category := 1
    name := "Fresh milk"
    unit := "piece"
    variant := none
    isActive := true }

/-- Ten units are received on day 1; with `edited`, their receipt is dated to day 4 on day 5. -/
def receivedOnDayOne (edited : Bool) : LiveHistory (Deployment.plain fun _ => "") :=
  { categories := Table.empty.create fun pk =>
      { pk := pk
        name := "Dairy"
        isActive := true
        isVisibleToStaff := true }
    products := Table.empty.create fun pk => { milk with pk := pk }
    calls :=
      [{ now := 86400
         op := .createBatch (some .admin)
          { product := some 1
            grade := none
            unitPrice := none
            quantity := some (.ofAmount 1000)
            expirationDate := some 30
            dateReceived := none
            notes := none } },
       { now := 432000
         op := .updateBatch (some .admin) false 1
          { product := none
            grade := none
            unitPrice := none
            quantity := none
            expirationDate := none
            dateReceived := if edited then some 4 else none
            notes := none } }]
    now := 432000
    monotone := by simp [MonotoneClock]
    past := by simp
    physical := by simp [Operation.isPhysical] }

/-- The edit takes the stock off the days before the new receipt date: the ledger of day 2 ends
with nothing, while ten units were held. -/
theorem edited_receipt_misreported :
    ¬ ∀ (texts : ReportTexts) (env : Deployment) (h : LiveHistory env) (product : Product),
      product ∈ h.products.rows → product.isActive = true →
        LedgerReconstructs texts h product.pk ∧ LedgerContinues texts h product.pk := by
  intro h
  rcases (h .plain _ (receivedOnDayOne true) milk (by decide) rfl).1 2 2 (by decide) (by decide) with
    ⟨ledger, hok, ⟨row, hmem, hid⟩, hrows⟩
  have hreported : ∀ ledger, inventoryLedger .plain
      { zone := Zone.fixed, now := 432000 } false (some 2) (some 2)
        (receivedOnDayOne true).store = .ok ledger → ∀ row ∈ ledger.rows, row.ending = 0 := by
    intro ledger hok
    cases hok
    decide
  have hheld : ((receivedOnDayOne true).storeAt 2).heldOf 1 = 1000 := by decide
  have hending := (hrows row hmem hid).1
  rw [hreported ledger hok row hmem] at hending
  exact absurd (hending.trans hheld) (by decide)

/-- The same history without the edited date. -/
theorem ledger_reconstructs_received :
    LedgerReconstructs .plain (receivedOnDayOne false) milk.pk ∧
      LedgerContinues .plain (receivedOnDayOne false) milk.pk :=
  (ledger_reconstructs_iff .plain _ (receivedOnDayOne false) milk (by decide) rfl).2 (by
    unfold Store.DatedByEntry
    decide)

end RosarioDairy
