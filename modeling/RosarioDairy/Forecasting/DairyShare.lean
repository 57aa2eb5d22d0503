import RosarioDairy.Forecasting.DecimalRounding
import RosarioDairy.Sales.ItemizedSales

/-!
# Dairy share — the recorded revenue of a local sale

A sale recorded here has no segment of its own, and its dairy revenue is a share of its total by the
amounts of its lines.  The lines add up to the total, so the share is the total of the dairy lines; the
product of the two amounts may have forty digits and is rounded to twenty-eight, which moves the
quotient far less than half a centavo.
-/

namespace RosarioDairy
namespace Forecasting

open Foundations

/-! ## The share -/

/-- Amounts of at most 28 digits add up exactly. -/
theorem foldl_addAmounts : ∀ (amounts : List Int) (start : Int), (∀ amount ∈ amounts, 0 ≤ amount) →
    0 ≤ start → start + amounts.sum < 10 ^ 28 →
    amounts.foldl (fun (sum : ℚ) (amount : Int) => decimalContext (sum + amount / 10000))
      ((start : ℚ) / 10 ^ 4) = ((start + amounts.sum : Int) : ℚ) / 10 ^ 4
  | [], start, _, _, _ => by simp
  | amount :: amounts, start, hamounts, hstart, hmax => by
      obtain ⟨hamount, hrest⟩ := List.forall_mem_cons.1 hamounts
      have hsum : 0 ≤ amounts.sum := List.sum_nonneg hrest
      rw [List.sum_cons] at hmax
      have hstep : decimalContext ((start : ℚ) / 10 ^ 4 + amount / 10000) =
          ((start + amount : Int) : ℚ) / 10 ^ 4 := by
        have hadd : (start : ℚ) / 10 ^ 4 + amount / 10000 =
            ((start + amount : Int) : ℚ) / 10 ^ 4 := by
          push_cast
          ring
        rw [hadd]
        apply decimalContext_exact
        rw [abs_lt]
        constructor
        · linarith
        · linarith
      rw [List.foldl_cons, hstep, foldl_addAmounts amounts (start + amount) hrest
        (Int.add_nonneg hstart hamount) (by rw [Int.add_assoc]; exact hmax), List.sum_cons,
        Int.add_assoc]

theorem addAmounts_eq_foldl (amounts : List Int) : addAmounts amounts =
    amounts.foldl (fun (sum : ℚ) (amount : Int) => decimalContext (sum + amount / 10000)) 0 := by
  unfold addAmounts
  change ((amounts.flatMap fun (amount : Int) => [(amount : ℚ)]).foldl _ 0) = _
  rw [← List.map_eq_flatMap, List.foldl_map]

theorem addAmounts_exact {amounts : List Int} (hamounts : ∀ amount ∈ amounts, 0 ≤ amount)
    (hmax : amounts.sum < 10 ^ 28) : addAmounts amounts = (amounts.sum : ℚ) / 10 ^ 4 := by
  have h := foldl_addAmounts amounts 0 hamounts (Int.le_refl 0) (by rw [Int.zero_add]; exact hmax)
  rw [Int.zero_add, Int.cast_zero, zero_div] at h
  rw [addAmounts_eq_foldl, h]

/-- The share of a part in a total that is divided by itself is the part, whatever the rounding of the
product and of the quotient do. -/
theorem dairyShare_exact {revenue dairy : Int} (hpos : 0 < revenue) (hnonneg : 0 ≤ dairy)
    (hle : dairy ≤ revenue) (hmax : revenue < 10 ^ 20) :
    dairyShare revenue ((dairy : ℚ) / 100) ((revenue : ℚ) / 100) = dairy := by
  have hR : (0 : ℚ) < revenue / 100 := by
    have hcast : (0 : ℚ) < revenue := by exact_mod_cast hpos
    positivity
  have hD : (0 : ℚ) ≤ dairy / 100 := by
    have hcast : (0 : ℚ) ≤ dairy := by exact_mod_cast hnonneg
    positivity
  have hDmax : (dairy : ℚ) / 100 < 10 ^ 18 := by
    have hcast : (dairy : ℚ) < 10 ^ 20 := by exact_mod_cast lt_of_le_of_lt hle hmax
    linarith
  -- the two roundings, each relative to what it rounds
  obtain ⟨R, hRdef⟩ : ∃ R : ℚ, (revenue : ℚ) / 100 = R := ⟨_, rfl⟩
  obtain ⟨D, hDdef⟩ : ∃ D : ℚ, (dairy : ℚ) / 100 = D := ⟨_, rfl⟩
  unfold dairyShare
  rw [hRdef] at hR ⊢
  rw [hDdef] at hD hDmax ⊢
  have hproduct := decimalContext_close (R * D)
  have hquotient := decimalContext_close (decimalContext (R * D) / R)
  rw [abs_of_nonneg (mul_nonneg hR.le hD)] at hproduct
  have hscaled : |decimalContext (R * D) / R - D| ≤ D / (2 * 10 ^ 27) := by
    have hsplit : decimalContext (R * D) / R - D = (decimalContext (R * D) - R * D) / R := by
      field_simp
    rw [hsplit, abs_div, abs_of_pos hR, div_le_iff₀ hR]
    calc |decimalContext (R * D) - R * D| ≤ R * D / (2 * 10 ^ 27) := hproduct
      _ = D / (2 * 10 ^ 27) * R := by ring
  have hsize : |decimalContext (R * D) / R| ≤ 2 * D := by
    rw [abs_le] at hscaled ⊢
    constructor
    · linarith
    · linarith
  have htotal : |decimalContext (decimalContext (R * D) / R) - D| ≤ 2 * D / 10 ^ 27 := by
    have hfirst : |decimalContext (decimalContext (R * D) / R) - decimalContext (R * D) / R| ≤
        D / 10 ^ 27 :=
      calc |decimalContext (decimalContext (R * D) / R) - decimalContext (R * D) / R|
          ≤ |decimalContext (R * D) / R| / (2 * 10 ^ 27) := hquotient
        _ ≤ 2 * D / (2 * 10 ^ 27) := div_le_div_of_nonneg_right hsize (by norm_num)
        _ = D / 10 ^ 27 := by ring
    rw [abs_le] at hfirst hscaled ⊢
    constructor
    · linarith
    · linarith
  apply roundHalfUp_eq
  have hcents : decimalContext (decimalContext (R * D) / R) * 100 - dairy =
      (decimalContext (decimalContext (R * D) / R) - D) * 100 := by
    rw [← hDdef]
    ring
  rw [hcents, abs_mul, abs_of_pos (by norm_num : (0 : ℚ) < 100)]
  linarith

/-! ## A row whose lines add up -/

/-- The totals of the dairy lines. -/
def dairyTotal {D : Type} (source : Source D) (lines : List LedgerLine) : Int :=
  ((lines.filter fun line => decide (source.decision line.label = .dairy)).map
    fun line => line.totalAmount.getD 0).sum

/-- A row of a local sale: all of its lines carry an amount, and they add up to its total. -/
structure LocalRow (row : LedgerSale) : Prop where
  reference : row.sourceReference = none
  segment : row.sourceSalesSegment = none
  amounts : ∀ line ∈ row.lines, ∃ total, line.totalAmount = some total ∧ 0 ≤ total
  total : (row.lines.map fun line => line.totalAmount.getD 0).sum = row.totalAmount
  total_lt : row.totalAmount < 10 ^ 20

/-- In ten-thousandths, the amounts of lines with a total are a hundred times their totals. -/
theorem amounts_of_totals : ∀ {lines : List LedgerLine},
    (∀ line ∈ lines, ∃ total, line.totalAmount = some total ∧ 0 ≤ total) →
    (∀ amount ∈ lines.map LedgerLine.amount, 0 ≤ amount) ∧
      (lines.map LedgerLine.amount).sum = (lines.map fun line => line.totalAmount.getD 0).sum * 100
  | [], _ => by simp
  | line :: lines, h => by
      obtain ⟨⟨total, htotal, hnonneg⟩, hlines⟩ := List.forall_mem_cons.1 h
      obtain ⟨hrest, hsum⟩ := amounts_of_totals hlines
      have hamount : line.amount = total * 100 := by simp [LedgerLine.amount, htotal]
      constructor
      · rw [List.map_cons, List.forall_mem_cons, hamount]
        exact ⟨Int.mul_nonneg hnonneg (by decide), hrest⟩
      · rw [List.map_cons, List.sum_cons, List.map_cons, List.sum_cons, hsum, hamount, htotal,
          Option.getD_some, Int.add_mul]

theorem addAmounts_totals {lines : List LedgerLine}
    (h : ∀ line ∈ lines, ∃ total, line.totalAmount = some total ∧ 0 ≤ total)
    (hmax : (lines.map fun line => line.totalAmount.getD 0).sum < 10 ^ 20) :
    addAmounts (lines.map LedgerLine.amount) =
      (((lines.map fun line => line.totalAmount.getD 0).sum : Int) : ℚ) / 100 := by
  obtain ⟨hnonneg, hsum⟩ := amounts_of_totals h
  rw [addAmounts_exact hnonneg (by omega), hsum]
  push_cast
  ring

/-- A part of the lines adds up to a part of their total. -/
theorem dairyTotal_bounds {D : Type} (source : Source D) {lines : List LedgerLine}
    (h : ∀ line ∈ lines, ∃ total, line.totalAmount = some total ∧ 0 ≤ total) :
    0 ≤ dairyTotal source lines ∧
      dairyTotal source lines ≤ (lines.map fun line => line.totalAmount.getD 0).sum := by
  have hnonneg : ∀ line ∈ lines, 0 ≤ line.totalAmount.getD 0 := by
    intro line hline
    obtain ⟨total, htotal, hpositive⟩ := h line hline
    rw [htotal]
    exact hpositive
  constructor
  · apply List.sum_nonneg
    intro total htotal
    obtain ⟨line, hline, rfl⟩ := List.mem_map.1 htotal
    exact hnonneg line (List.mem_filter.1 hline).1
  · refine List.Sublist.sum_le_sum (List.filter_sublist.map _) ?_
    intro total htotal
    obtain ⟨line, hline, rfl⟩ := List.mem_map.1 htotal
    exact hnonneg line hline

/-- The loop records a decided local sale with the total of its dairy lines. -/
theorem record_dairyTotal {D : Type} (source : Source D) {row : LedgerSale} (hrow : LocalRow row)
    (hpos : 0 < row.totalAmount) (hdecided : ∀ line ∈ row.lines, source.decision line.label ≠ .review)
    (hdairy : ∃ line ∈ row.lines, source.decision line.label = .dairy) :
    ∃ segment, record source row =
      .sale (recordedAs source row segment (dairyTotal source row.lines)) := by
  obtain ⟨line, hline, hdecision⟩ := hdairy
  have hlines : row.lines ≠ [] := List.ne_nil_of_mem hline
  -- a dairy line keeps the sale from being dropped as none of the dairy's
  have hnotAll : ¬ ((row.lines.map fun line => source.decision line.label).all
      fun decision => decide (decision = .nonDairy)) = true := by
    rw [List.all_eq_true]
    intro hall
    have hnon := hall _ (List.mem_map_of_mem hline)
    rw [hdecision] at hnon
    simp at hnon
  -- and a sale with a line to review is held back before its share is taken
  have hreview : Decision.review ∉ row.lines.map fun line => source.decision line.label := by
    intro hmem
    obtain ⟨other, hother, hEq⟩ := List.mem_map.1 hmem
    exact hdecided other hother hEq
  have hsumMax : (row.lines.map fun line => line.totalAmount.getD 0).sum < 10 ^ 20 := by
    rw [hrow.total]
    exact hrow.total_lt
  -- the lines are whole cents, so the two sums are exact
  have hgross : addAmounts (row.lines.map LedgerLine.amount) = (row.totalAmount : ℚ) / 100 := by
    rw [addAmounts_totals hrow.amounts hsumMax, hrow.total]
  have hbounds := dairyTotal_bounds source hrow.amounts
  rw [hrow.total] at hbounds
  have hshare : addAmounts ((row.lines.filter fun line =>
      decide (source.decision line.label = .dairy)).map LedgerLine.amount) =
        (dairyTotal source row.lines : ℚ) / 100 := by
    refine addAmounts_totals ?_ (lt_of_le_of_lt hbounds.2 hrow.total_lt)
    intro part hpart
    exact hrow.amounts part (List.mem_filter.1 hpart).1
  have hgrossPos : ¬ (row.totalAmount : ℚ) / 100 ≤ 0 := by
    have hcast : (0 : ℚ) < row.totalAmount := by exact_mod_cast hpos
    rw [not_le]
    positivity
  have hdemo : isDemoReference row.sourceReference = false := by
    rw [hrow.reference]
    rfl
  -- the segment is read from the customer's name alone
  refine ⟨if mentionsFeeding (source.casefold (customerName row)) then .feeding else .regular, ?_⟩
  unfold record
  simp only [hdemo, hrow.segment, hgross, hshare, hlines, hnotAll, hreview, hgrossPos, or_self,
    and_false, if_false, Bool.false_eq_true]
  rw [dairyShare_exact hpos hbounds.1 hbounds.2 hrow.total_lt]

/-- What the loop records as a sale is in the snapshot. -/
theorem mem_sales_snapshot {D : Type} (source : Source D) (asOf : Int) {rows : List LedgerSale}
    {row : LedgerSale} {entry : RecordedSale} (hrow : row ∈ rows)
    (h : record source row = .sale entry) : entry ∈ (snapshot source asOf rows).sales := by
  refine List.mem_filterMap.2 ⟨record source row, List.mem_map_of_mem hrow, ?_⟩
  rw [h]
  rfl

/-! ## The sales recorded here -/

/-- A sale recorded here, with its lines. -/
structure LocalSale (s : Store) (txn : Transaction) : Prop where
  reference : txn.sourceReference = none
  amounts : ∀ item ∈ s.itemsOf txn.pk, ∃ total, item.totalAmount = some total ∧ 0 ≤ total
  total : ((s.itemsOf txn.pk).map fun item => item.totalAmount.getD 0).sum = txn.totalAmount
  total_lt : txn.totalAmount < 10 ^ 20

/-- All sales from a key on were recorded here. -/
structure LocalSales (base : Nat) (s : Store) : Prop where
  base_le : base ≤ s.transactions.next
  sale : ∀ txn ∈ s.transactions.rows, base ≤ txn.pk → LocalSale s txn

/-- The columns of a sale that its dairy share depends on. -/
def shareColumns (txn : Transaction) : Nat × Int × Option String :=
  (txn.pk, txn.totalAmount, txn.sourceReference)

theorem LocalSales.resave {base : Nat} {s s' : Store} (h : LocalSales base s)
    (hitems : s'.items = s.items) (hnext : s'.transactions.next = s.transactions.next)
    (hcolumns : s'.transactions.rows.map shareColumns = s.transactions.rows.map shareColumns) :
    LocalSales base s' := by
  refine
    { base_le := hnext ▸ h.base_le
      sale := ?_ }
  intro txn htxn hbase
  have hmem : shareColumns txn ∈ s.transactions.rows.map shareColumns := by
    rw [← hcolumns]
    exact List.mem_map_of_mem htxn
  obtain ⟨old, hold, hEq⟩ := List.mem_map.1 hmem
  simp only [shareColumns, Prod.mk.injEq] at hEq
  obtain ⟨hpk, htotal, hreference⟩ := hEq
  have hsale := h.sale old hold (hpk ▸ hbase)
  have hitemsOf : s'.itemsOf txn.pk = s.itemsOf old.pk := by
    unfold Store.itemsOf
    rw [hitems, hpk]
  exact
    { reference := hreference ▸ hsale.reference
      amounts := by rw [hitemsOf]; exact hsale.amounts
      total := by rw [hitemsOf, ← htotal]; exact hsale.total
      total_lt := htotal ▸ hsale.total_lt }

/-- A sale that has just been made is one of them, and the earlier ones keep their lines. -/
theorem LocalSales.sold {base : Nat} {clock : Clock} {s s' : Store} {sale : Transaction}
    {lines : List PricedItem} {invoiceDate : Option Int} (h : LocalSales base s)
    (hmade : SaleMade clock s s' sale lines invoiceDate) : LocalSales base s' := by
  refine
    { base_le := ?_
      sale := ?_ }
  · rw [hmade.effect.transactions_next]
    exact Nat.le_succ_of_le h.base_le
  · intro txn htxn hbase
    rw [hmade.effect.transactions] at htxn
    rcases List.mem_append.1 htxn with hold | hlast
    · have hsale := h.sale txn hold hbase
      have hitems := hmade.effect.itemsOf_old hold
      exact
        { reference := hsale.reference
          amounts := by rw [hitems]; exact hsale.amounts
          total := by rw [hitems]; exact hsale.total
          total_lt := hsale.total_lt }
    · obtain rfl := List.mem_singleton.1 hlast
      refine
        { reference := hmade.effect.unreferenced
          amounts := ?_
          total := hmade.split.total.symm
          total_lt := hmade.split.total_lt }
      intro item hitem
      obtain ⟨line, hline, hnumber⟩ := hmade.split.numbered item hitem
      obtain ⟨amount, _, htotal, hnonneg, _⟩ := ((hmade.split.split line hline).shares item
        (List.mem_filter.2 ⟨hitem, decide_eq_true hnumber⟩)).amount
      exact ⟨amount, htotal, hnonneg⟩

/-- Calls that do not sell change none of the columns. -/
theorem LocalSales.outcome {base : Nat} {clock : Clock} {op : Operation} {s s' : Store}
    (h : LocalSales base s) (hsells : op.sells = false)
    (houtcome : RosarioDairy.Outcome clock op s s') : LocalSales base s' := by
  cases houtcome with
  | unchanged => exact h
  | received => exact h.resave rfl rfl rfl
  | edited => exact h.resave rfl rfl rfl
  | sold s' sale heffect hmovement hencoding hop =>
      rw [hsells] at hop
      cases hop
  | adjusted => exact h.resave rfl rfl rfl
  | voided sale s₁ skipped voidedBy reason hfind hlocal hlive hitems =>
      obtain ⟨batches, returns, rfl⟩ := voidItems_store hitems
      exact h.resave rfl rfl (s.transactions.map_rows_put
        (voidedTransaction clock voidedBy reason sale) hfind rfl)
  | paid sale user method status tendered values hfind hlive hstatus hvalues =>
      exact h.resave rfl rfl (s.transactions.map_rows_put (paidTransaction clock user sale values)
        hfind rfl)

/-- Every sale a history adds to the imported ones is recorded here. -/
theorem replay_localSales (env : Deployment) {s₀ : Store} (himported : ImportedHistory s₀)
    (hcoherent : s₀.Coherent) (history : List Call) :
    LocalSales s₀.transactions.next (replay env s₀ history) := by
  let P (s : Store) : Prop := s.Coherent ∧ s.Nonneg ∧ VoidingSound s ∧
    LocalSales s₀.transactions.next s
  have hstart : P s₀ := by
    refine ⟨hcoherent, himported.nonneg, himported.voidingSound, ?_⟩
    refine
      { base_le := Nat.le_refl _
        sale := ?_ }
    intro txn htxn hbase
    exact absurd (s₀.transactions.below txn htxn) (Nat.not_lt.2 hbase)
  refine (runAll_preserves_of_mem (P := P) history ?_ hstart).2.2.2
  intro s call _ hs
  refine settle_preserves (P := P) ?_ hs
  intro s' hperform
  obtain ⟨hcoherent, hnonneg, hsound, hlocal⟩ := hs
  have houtcome := perform_outcome hperform
  refine ⟨houtcome.coherent hcoherent, houtcome.nonneg hnonneg, houtcome.voidingSound hsound hnonneg,
    ?_⟩
  by_cases hsells : call.op.sells = true
  · rcases perform_sold (Store.settled_of_sound hcoherent hsound) hsells hperform with
      rfl | ⟨sale, lines, invoiceDate, hmade, _⟩
    · exact hlocal
    · exact hlocal.sold hmade
  · exact hlocal.outcome (by simpa using hsells) houtcome

/-! ## The rows the snapshot reads -/

/-- The line of a sale with the name its product has now; only imports fill the source columns. -/
def ledgerLine (names : Nat → String) (item : TransactionItem) : LedgerLine :=
  { productNameSnapshot := item.productNameSnapshot
    productName := names item.productBatch
    totalAmount := item.totalAmount
    sourceLineTotal := none
    quantity := item.quantity
    unitPrice := item.unitPrice }

/-- The row of a sale recorded here, with its lines in the order they are read. -/
def ledgerRow (names : Nat → String) (customers : Nat → Option String) (txn : Transaction)
    (items : List TransactionItem) : LedgerSale :=
  { pk := txn.pk
    createdAt := txn.createdAt
    isVoided := txn.isVoided
    customerId := txn.customer
    customerName := txn.customer.bind customers
    sourceCustomerLabel := txn.sourceCustomerLabel
    sourceReference := txn.sourceReference
    sourceSalesSegment := none
    totalAmount := txn.totalAmount
    lines := items.map (ledgerLine names) }

theorem LocalSale.localRow {s : Store} {txn : Transaction} (h : LocalSale s txn)
    (names : Nat → String) (customers : Nat → Option String) {items : List TransactionItem}
    (hitems : items.Perm (s.itemsOf txn.pk)) : LocalRow (ledgerRow names customers txn items) := by
  refine
    { reference := h.reference
      segment := rfl
      amounts := ?_
      total := ?_
      total_lt := h.total_lt }
  · intro line hline
    obtain ⟨item, hitem, rfl⟩ := List.mem_map.1 hline
    exact h.amounts item (hitems.mem_iff.1 hitem)
  · have hsame : ((items.map (ledgerLine names)).map fun line => line.totalAmount.getD 0) =
        items.map fun item => item.totalAmount.getD 0 := by
      rw [List.map_map]
      rfl
    unfold ledgerRow
    simp only [hsame]
    rw [(hitems.map fun item : TransactionItem => item.totalAmount.getD 0).sum_eq, h.total]

/-- The decision about the product of a line. -/
def itemDecision {D : Type} (source : Source D) (names : Nat → String) (item : TransactionItem) :
    Decision :=
  source.decision (ledgerLine names item).label

/-- A decided sale with a dairy line enters every snapshot that reads it, in whatever order its lines
come, with the exact total of its dairy lines. -/
def SharedExactly {D : Type} (source : Source D) (names : Nat → String)
    (customers : Nat → Option String) (s : Store) (txn : Transaction) : Prop :=
  ∀ items, items.Perm (s.itemsOf txn.pk) → 0 < txn.totalAmount →
    (∀ item ∈ items, itemDecision source names item ≠ .review) →
    (∃ item ∈ items, itemDecision source names item = .dairy) →
    ∃ entry, entry.id = txn.pk ∧
      (∀ asOf rows, ledgerRow names customers txn items ∈ rows →
        entry ∈ (snapshot source asOf rows).sales) ∧
      record source (ledgerRow names customers txn items) = .sale entry ∧
      entry.revenue = (((s.itemsOf txn.pk).filter fun item =>
        decide (itemDecision source names item = .dairy)).map
          fun item => item.totalAmount.getD 0).sum ∧
      0 ≤ entry.revenue ∧ entry.revenue ≤ txn.totalAmount

theorem LocalSale.sharedExactly {D : Type} (source : Source D) (names : Nat → String)
    (customers : Nat → Option String) {s : Store} {txn : Transaction} (h : LocalSale s txn) :
    SharedExactly source names customers s txn := by
  intro items hitems hpos hdecided hdairy
  have hrow := h.localRow names customers hitems
  have hdecidedLines : ∀ line ∈ (ledgerRow names customers txn items).lines,
      source.decision line.label ≠ .review := by
    intro line hline
    obtain ⟨item, hitem, rfl⟩ := List.mem_map.1 hline
    exact hdecided item hitem
  have hdairyLine : ∃ line ∈ (ledgerRow names customers txn items).lines,
      source.decision line.label = .dairy := by
    obtain ⟨item, hitem, hdecision⟩ := hdairy
    exact ⟨ledgerLine names item, List.mem_map_of_mem hitem, hdecision⟩
  obtain ⟨segment, hrecord⟩ := record_dairyTotal source hrow hpos hdecidedLines hdairyLine
  have hbounds := dairyTotal_bounds source hrow.amounts
  rw [hrow.total] at hbounds
  refine ⟨_, rfl, fun asOf rows hmem => mem_sales_snapshot source asOf hmem hrecord, hrecord, ?_,
    hbounds⟩
  have hlines : dairyTotal source (ledgerRow names customers txn items).lines =
      ((items.filter fun item => decide (itemDecision source names item = .dairy)).map
        fun item => item.totalAmount.getD 0).sum := by
    unfold dairyTotal ledgerRow
    rw [List.filter_map, List.map_map]
    rfl
  exact hlines.trans ((hitems.filter _).map _).sum_eq

/-- The dairy share of local sales is exact, in every store a history on imported sales leads to. -/
theorem dairy_share_exact {D : Type} (source : Source D) (names : Nat → String)
    (customers : Nat → Option String) (env : Deployment) (s₀ : Store)
    (himported : ImportedHistory s₀) (hcoherent : s₀.Coherent) (history : List Call) :
    ∀ txn ∈ (replay env s₀ history).transactions.rows, s₀.transactions.next ≤ txn.pk →
      SharedExactly source names customers (replay env s₀ history) txn := by
  intro txn htxn hbase
  exact ((replay_localSales env himported hcoherent history).sale txn htxn hbase).sharedExactly
    source names customers

/-- A policy under which fresh milk is dairy and everything else is not. -/
def milkOnly : Source Unit :=
  { zone := BusinessZone.fixed
    casefold := id
    decision := fun label => if label = "Fresh milk" then .dairy else .nonDairy
    revision := fun _ _ => () }

/-- Three units of milk at 1.50 and one of ice at 0.10 are sold together on day 2. -/
def mixedCart : List Call :=
  [{ now := 86400
     op := .createBatch (some .admin)
      { product := some 1
        grade := none
        unitPrice := none
        quantity := some (.ofAmount 1000)
        expirationDate := some 30
        dateReceived := none
        notes := none } },
   { now := 86400
     op := .createBatch (some .admin)
      { product := some 2
        grade := none
        unitPrice := none
        quantity := some (.ofAmount 1000)
        expirationDate := some 30
        dateReceived := none
        notes := none } },
   { now := 172800
     op := .checkout
      { items := [.priced 1 (.ofAmount 300) (.ofAmount 150), .priced 2 (.ofAmount 100) (.ofAmount 10)]
        staffUser := { pk := 1, role := .staff }
        amountTendered := some (.ofAmount 1000) } }]

def milkAndIce : Store :=
  Store.empty (receivedOnDayOne false).categories
    ((receivedOnDayOne false).products.create fun pk =>
      { milk with
        pk := pk
        name := "Ice" })

theorem dairy_share_exact_mixed :
    ∃ txn ∈ (replay (Deployment.plain fun _ => "") milkAndIce mixedCart).transactions.rows,
      txn.totalAmount = 460 ∧
        ∃ entry, entry.id = txn.pk ∧
          (∀ asOf rows, ledgerRow (fun _ => "") (fun _ => none) txn
            ((replay (Deployment.plain fun _ => "") milkAndIce mixedCart).itemsOf txn.pk) ∈ rows →
              entry ∈ (snapshot milkOnly asOf rows).sales) ∧ entry.revenue = 450 := by
  have hfacts : ∃ txn ∈ (replay (Deployment.plain fun _ => "") milkAndIce
        mixedCart).transactions.rows, txn.totalAmount = 460 ∧ 1 ≤ txn.pk ∧
      (∀ item ∈ (replay (Deployment.plain fun _ => "") milkAndIce mixedCart).itemsOf txn.pk,
        itemDecision milkOnly (fun _ => "") item ≠ .review) ∧
      (∃ item ∈ (replay (Deployment.plain fun _ => "") milkAndIce mixedCart).itemsOf txn.pk,
        itemDecision milkOnly (fun _ => "") item = .dairy) ∧
      ((((replay (Deployment.plain fun _ => "") milkAndIce mixedCart).itemsOf txn.pk).filter
        fun item => decide (itemDecision milkOnly (fun _ => "") item = .dairy)).map
          fun item => item.totalAmount.getD 0).sum = 450 := by
    decide +kernel
  obtain ⟨txn, htxn, htotal, hpk, hdecided, hdairy, hsum⟩ := hfacts
  obtain ⟨entry, hid, hmem, _, hrevenue, _⟩ := dairy_share_exact milkOnly (fun _ => "")
    (fun _ => none) (Deployment.plain fun _ => "") milkAndIce (empty_imported _ _)
    (by simp [Store.Coherent, milkAndIce, Store.empty]) mixedCart txn htxn hpk _
    (List.Perm.refl _) (by omega) hdecided hdairy
  exact ⟨txn, htxn, htotal, entry, hid, hmem, hrevenue.trans hsum⟩

end Forecasting
end RosarioDairy
