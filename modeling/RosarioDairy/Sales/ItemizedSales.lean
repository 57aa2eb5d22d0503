import RosarioDairy.Foundations.Partition
import RosarioDairy.Reporting.LedgerHistory
import RosarioDairy.Sales.LineSplit

/-!
# ItemizedSales — sales and their lines over whole histories

In every store that service calls lead to, the lines of a sale add up to its total, and no sale is
dated after the day it is recorded on.
-/

namespace RosarioDairy

open Foundations

/-! ## What a sale leaves behind -/

/-- No checkout is made for a later date; encoded sales are checked to be of the past. -/
def Operation.DatedBy (today : Int) : Operation → Prop
  | .checkout args => ∀ date ∈ args.invoiceDate, date ≤ today
  | .placeOrder _ args => ∀ date ∈ args.invoiceDate, date ≤ today
  | _ => True

/-- A sale that has been made: its change to the store, its lines and its date. -/
structure SaleMade (clock : Clock) (s s' : Store) (sale : Transaction) (lines : List PricedItem)
    (invoiceDate : Option Int) : Prop where
  effect : SaleEffect clock s s' sale
  split : SaleSplit s' sale lines
  date : clock.zone.localDate sale.createdAt = invoiceDate.getD clock.today

theorem localDate_effectiveAt (clock : Clock) (args : SaleArgs) :
    clock.zone.localDate (effectiveAt clock args) = businessDate clock args := by
  unfold effectiveAt
  by_cases htoday : businessDate clock args = clock.today
  · rw [if_pos htoday, htoday]
    rfl
  · rw [if_neg htoday, Zone.localDate_noon]

section Routes

variable {table : CaseTable} {clock : Clock} {s s' : Store} {txn : Nat}

theorem checkout_made {args : SaleArgs} (hs : s.Settled)
    (h : checkout table clock args s = .ok (s', txn)) :
    ∃ sale lines, sale.pk = txn ∧ SaleMade clock s s' sale lines args.invoiceDate := by
  obtain ⟨priced, allocation, hpriced, _, hclose⟩ := checkout_ok h
  have htxn : txn = s.transactions.next := (closeSale_ok hclose).1
  subst htxn
  refine ⟨newTransaction clock args priced allocation s.transactions.next, priced.lines, rfl, ?_⟩
  exact
    { effect := closeSale_effect hpriced hclose
      split := closeSale_split hs hpriced hclose
      date := localDate_effectiveAt clock args }

theorem placeOrder_made {customer : Customer} {args : SaleArgs} {order : Nat} (hs : s.Settled)
    (h : placeOrder table clock customer args s = .ok (s', order)) :
    ∃ sale lines, sale.pk = s.transactions.next ∧
      SaleMade clock s s' sale lines args.invoiceDate := by
  obtain ⟨priced, allocation, heffect⟩ := placeOrder_effect h
  obtain ⟨lines, sale, _, _, _, _, _, hpk, hsale, hsplit, _⟩ := placeOrder_split hs h
  have hsame := heffect.find_sale
  rw [hpk] at hsale
  obtain rfl := Option.some.inj (hsale.symm.trans hsame)
  refine ⟨_, lines, hpk, ?_⟩
  exact
    { effect := heffect
      split := hsplit
      date := localDate_effectiveAt clock (args.forCustomer customer) }

theorem encodedSale_made {args : EncodeArgs} (hs : s.Settled)
    (h : encodedSaleWith (checkout table clock args.checkoutArgs) clock args s = .ok (s', txn)) :
    ∃ sale lines, sale.pk = txn ∧
      SaleMade clock s s' sale lines (some args.transactionDate) := by
  obtain ⟨rfl, ⟨_, hcheckout⟩ | ⟨customer, _, hplace⟩⟩ := encodedSale_ok h
  · exact checkout_made hs hcheckout
  · exact placeOrder_made hs hplace

/-- The encoding columns are none of those a sale is judged by. -/
theorem writeEncoded_made {args : EncodeArgs} {requestId : Nat} {fingerprint : String}
    (hs : s.Settled) (h : writeEncoded table clock args requestId fingerprint s = .ok (s', txn)) :
    ∃ sale lines, sale.pk = txn ∧
      SaleMade clock s s' sale lines (some args.transactionDate) := by
  obtain ⟨s₁, sale, hsale, hfind, _, hs'⟩ := writeEncodedWith_ok h
  obtain ⟨made, lines, hmadePk, hmade⟩ := encodedSale_made hs hsale
  obtain rfl : sale = made := by
    have hsame := hmade.effect.find_sale
    rw [hmadePk] at hsame
    exact Option.some.inj (hfind.symm.trans hsame)
  obtain ⟨saved, hsavedPk, _, _, heffect⟩ := writeEncoded_effect h
  have hsaved : encodedTransaction clock args requestId fingerprint saved =
      encodedTransaction clock args requestId fingerprint sale := by
    have hrow := heffect.find_sale
    have hput := Table.find_put s₁.transactions
      (encodedTransaction clock args requestId fingerprint sale) txn
    have hkey : Row.pk (encodedTransaction clock args requestId fingerprint sale) = txn := hmadePk
    have hkey' : (encodedTransaction clock args requestId fingerprint saved).pk = txn := hsavedPk
    rw [hkey, if_pos rfl, hfind] at hput
    rw [hs', hkey'] at hrow
    exact Option.some.inj (hrow.symm.trans hput)
  rw [hsaved] at heffect
  refine ⟨encodedTransaction clock args requestId fingerprint sale, lines, hmadePk, ?_⟩
  exact
    { effect := heffect
      split := hmade.split.resave (by rw [hs']) rfl rfl rfl
      date := hmade.date }

end Routes

/-- Every call that sells makes a sale, or repeats an encoding request. -/
theorem perform_sold {env : Deployment} {now : Int} {op : Operation} {s s' : Store}
    (hs : s.Settled) (hsells : op.sells = true) (h : perform env now op s = .ok s') :
    s' = s ∨ ∃ sale lines invoiceDate, SaleMade { zone := env.zone, now := now } s s' sale lines
      invoiceDate ∧ (op.DatedBy (env.zone.localDate now) →
        ∀ day ∈ invoiceDate, day ≤ env.zone.localDate now) := by
  cases op with
  | checkout args =>
      obtain ⟨txn, hcheckout⟩ := map_fst_eq_ok.1 h
      obtain ⟨sale, lines, _, hmade⟩ := checkout_made hs hcheckout
      exact Or.inr ⟨sale, lines, args.invoiceDate, hmade, fun hdated => hdated⟩
  | placeOrder customer args =>
      obtain ⟨order, hplace⟩ := map_fst_eq_ok.1 h
      obtain ⟨sale, lines, _, hmade⟩ := placeOrder_made hs hplace
      exact Or.inr ⟨sale, lines, args.invoiceDate, hmade, fun hdated => hdated⟩
  | encodeTransaction args =>
      obtain ⟨⟨txn, created⟩, hencode⟩ := map_fst_eq_ok.1 h
      obtain ⟨requestId, fingerprint, hcheck, hcases⟩ := encodeTransaction_ok hencode
      rcases hcases with ⟨_, _, _, rfl, _, _⟩ | ⟨_, _, hwrite⟩
      · -- a replayed request sells nothing
        exact Or.inl rfl
      · obtain ⟨sale, lines, _, hmade⟩ := writeEncoded_made hs hwrite
        -- the encoding date was checked before anything was written
        have hdate : args.transactionDate ≤ env.zone.localDate now := by
          unfold checkEncoding at hcheck
          exact (require_bind_eq_ok.1 hcheck).1
        refine Or.inr ⟨sale, lines, some args.transactionDate, hmade, ?_⟩
        intro _ day hday
        obtain rfl := Option.some.inj hday
        exact hdate
  -- the other operations are no sales
  | createBatch => cases hsells
  | updateBatch => cases hsells
  | createStockAdjustment => cases hsells
  | voidTransaction => cases hsells
  | voidFulfilledOrder => cases hsells
  | cancelOrder => cases hsells
  | updateEncodingPayment => cases hsells

/-- Sales made without checkouts for a later date are sales of the past. -/
theorem perform_made {env : Deployment} {now : Int} {op : Operation} {s s' : Store}
    (hs : s.Settled) (hsells : op.sells = true) (h : perform env now op s = .ok s')
    (hdated : op.DatedBy (env.zone.localDate now)) :
    s' = s ∨ ∃ sale lines invoiceDate, SaleMade { zone := env.zone, now := now } s s' sale lines
      invoiceDate ∧ env.zone.localDate sale.createdAt ≤ env.zone.localDate now := by
  rcases perform_sold hs hsells h with hsame | ⟨sale, lines, invoiceDate, hmade, hdate⟩
  · exact Or.inl hsame
  · refine Or.inr ⟨sale, lines, invoiceDate, hmade, ?_⟩
    have hday := hmade.date
    cases invoiceDate with
    | none => exact le_of_eq hday
    | some day =>
        exact le_of_eq_of_le hday (hdate hdated day rfl)

/-! ## The invariant -/

/-- The lines of every sale carry amounts that add up to its total, and no sale is of the future. -/
structure Itemized (zone : Zone) (today : Int) (s : Store) : Prop where
  amounts : ∀ item ∈ s.items.rows, item.subtotal.isSome = true
  total : ∀ txn ∈ s.transactions.rows,
    total (fun item : TransactionItem => item.subtotal.getD 0) (s.itemsOf txn.pk) = txn.totalAmount
  subtotal : ∀ txn ∈ s.transactions.rows, txn.subtotal = txn.totalAmount
  dated : ∀ txn ∈ s.transactions.rows, zone.localDate txn.createdAt ≤ today

/-- The columns of a sale that the invariant reads. -/
def Transaction.header (txn : Transaction) : Nat × Int × Int × Int :=
  (txn.pk, txn.subtotal, txn.totalAmount, txn.createdAt)

theorem Itemized.resave {zone : Zone} {today : Int} {s s' : Store} (h : Itemized zone today s)
    (hitems : s'.items = s.items)
    (hheaders : s'.transactions.rows.map Transaction.header =
      s.transactions.rows.map Transaction.header) : Itemized zone today s' := by
  -- each sale has an old one of the same header
  have hold : ∀ txn ∈ s'.transactions.rows, ∃ old ∈ s.transactions.rows, old.pk = txn.pk ∧
      old.subtotal = txn.subtotal ∧ old.totalAmount = txn.totalAmount ∧
        old.createdAt = txn.createdAt := by
    intro txn htxn
    have hmem : txn.header ∈ s.transactions.rows.map Transaction.header := by
      rw [← hheaders]
      exact List.mem_map_of_mem htxn
    obtain ⟨old, holdMem, hEq⟩ := List.mem_map.1 hmem
    simp only [Transaction.header, Prod.mk.injEq] at hEq
    exact ⟨old, holdMem, hEq⟩
  -- the lines are untouched
  have hitemsOf (txn : Nat) : s'.itemsOf txn = s.itemsOf txn := by
    unfold Store.itemsOf
    rw [hitems]
  exact
    { amounts := by rw [hitems]; exact h.amounts
      total := by
        intro txn htxn
        obtain ⟨old, hmem, hpk, _, htotal, _⟩ := hold txn htxn
        rw [hitemsOf, ← hpk, ← htotal]
        exact h.total old hmem
      subtotal := by
        intro txn htxn
        obtain ⟨old, hmem, _, hsubtotal, htotal, _⟩ := hold txn htxn
        rw [← hsubtotal, ← htotal]
        exact h.subtotal old hmem
      dated := by
        intro txn htxn
        obtain ⟨old, hmem, _, _, _, hcreated⟩ := hold txn htxn
        rw [← hcreated]
        exact h.dated old hmem }

theorem SaleSplit.amounts {s : Store} {sale : Transaction} {lines : List PricedItem}
    (h : SaleSplit s sale lines) : ∀ item ∈ s.itemsOf sale.pk, item.subtotal.isSome = true ∧
      item.totalAmount = item.subtotal := by
  intro item hitem
  obtain ⟨line, hline, hnumber⟩ := h.numbered item hitem
  have hshare := (h.split line hline).shares item
    (List.mem_filter.2 ⟨hitem, decide_eq_true hnumber⟩)
  obtain ⟨amount, hsubtotal, htotal, _⟩ := hshare.amount
  rw [hsubtotal, htotal]
  exact ⟨rfl, rfl⟩

/-- The lines of the sales before a new one. -/
theorem SaleEffect.itemsOf_old {clock : Clock} {s s' : Store} {sale : Transaction}
    (h : SaleEffect clock s s' sale) {txn : Transaction} (htxn : txn ∈ s.transactions.rows) :
    s'.itemsOf txn.pk = s.itemsOf txn.pk := by
  obtain ⟨new, hrows, hnew⟩ := h.items
  have hlt : txn.pk < s.transactions.next := s.transactions.below txn htxn
  have hnone : new.filter (fun item => item.transaction = txn.pk) = [] := by
    refine List.filter_eq_nil_iff.2 ?_
    intro item hitem
    have hkey := (hnew item hitem).1
    rw [h.pk] at hkey
    simp only [decide_eq_true_eq]
    omega
  unfold Store.itemsOf
  rw [hrows, List.filter_append, hnone, List.append_nil]

/-- A sale adds its own lines and leaves those of the earlier sales alone. -/
theorem Itemized.sold {clock : Clock} {today : Int} {s s' : Store} {sale : Transaction}
    {lines : List PricedItem} {invoiceDate : Option Int} (h : Itemized clock.zone today s)
    (hmade : SaleMade clock s s' sale lines invoiceDate)
    (hdate : clock.zone.localDate sale.createdAt ≤ today) : Itemized clock.zone today s' := by
  have hsale := hmade.split
  obtain ⟨new, hrows, hnew⟩ := hmade.effect.items
  -- the sales are the old ones and the new one, whose lines were split exactly
  have hmem : ∀ txn ∈ s'.transactions.rows, txn ∈ s.transactions.rows ∨ txn = sale := by
    intro txn htxn
    rw [hmade.effect.transactions] at htxn
    rcases List.mem_append.1 htxn with hold | hlast
    · exact Or.inl hold
    · exact Or.inr (List.mem_singleton.1 hlast)
  refine
    { amounts := ?_
      total := ?_
      subtotal := ?_
      dated := ?_ }
  · intro item hitem
    rw [hrows] at hitem
    rcases List.mem_append.1 hitem with hold | hlast
    · exact h.amounts item hold
    · -- a new line carries its own part of the total
      refine (hsale.amounts item ?_).1
      refine List.mem_filter.2 ⟨?_, decide_eq_true (hnew item hlast).1⟩
      rw [hrows]
      exact List.mem_append_right _ hlast
  · intro txn htxn
    rcases hmem txn htxn with hold | rfl
    · rw [hmade.effect.itemsOf_old hold]
      exact h.total txn hold
    · rw [hsale.total]
      refine total_congr ?_
      intro item hitem
      rw [(hsale.amounts item hitem).2]
  · intro txn htxn
    rcases hmem txn htxn with hold | rfl
    · exact h.subtotal txn hold
    · rw [hsale.subtotal, hsale.total]
  · intro txn htxn
    rcases hmem txn htxn with hold | rfl
    · exact h.dated txn hold
    · exact hdate

/-- Calls that do not sell keep every column the invariant reads. -/
theorem Outcome.itemized {clock : Clock} {op : Operation} {today : Int} {s s' : Store}
    (h : Itemized clock.zone today s) (hsells : op.sells = false) (houtcome : Outcome clock op s s') :
    Itemized clock.zone today s' := by
  cases houtcome with
  | unchanged => exact h
  | received => exact h.resave rfl rfl
  | edited => exact h.resave rfl rfl
  | sold s' sale heffect hmovement hencoding hop =>
      rw [hsells] at hop
      cases hop
  | adjusted => exact h.resave rfl rfl
  | voided sale s₁ skipped voidedBy reason hfind hlocal hlive hitems =>
      obtain ⟨batches, returns, rfl⟩ := voidItems_store hitems
      exact h.resave rfl (s.transactions.map_rows_put
        (voidedTransaction clock voidedBy reason sale) hfind rfl)
  | paid sale user method status tendered values hfind hlive hstatus hvalues =>
      exact h.resave rfl (s.transactions.map_rows_put (paidTransaction clock user sale values) hfind
        rfl)

theorem Store.settled_of_sound {s : Store} (hcoherent : s.Coherent) (hsound : VoidingSound s) :
    s.Settled := by
  refine
    { coherent := hcoherent
      linked := ?_ }
  intro item hitem
  obtain ⟨txn, htxn, hpk⟩ := hsound.line_sale item hitem
  have hlt : txn.pk < s.transactions.next := s.transactions.below txn htxn
  rw [← hpk]
  exact hlt

/-- Histories of service calls up to an instant, without checkouts for a later date. -/
def SalesHistory (env : Deployment) (now : Int) (history : List Call) : Prop :=
  ∀ call ∈ history, call.now ≤ now ∧ call.op.DatedBy (env.zone.localDate call.now)

/-- Sales are itemized over every history. -/
theorem replay_itemized {env : Deployment} {now : Int} {history : List Call}
    (hhistory : SalesHistory env now history) (categories : Table Category)
    (products : Table Product) :
    Itemized env.zone (env.zone.localDate now)
      (replay env (Store.empty categories products) history) := by
  let P (s : Store) : Prop := s.Coherent ∧ s.Nonneg ∧ VoidingSound s ∧
    Itemized env.zone (env.zone.localDate now) s
  have himported := empty_imported categories products
  have hstart : P (Store.empty categories products) :=
    ⟨by simp [Store.Coherent, Store.empty], himported.nonneg, himported.voidingSound,
      { amounts := by simp [Store.empty]
        total := by simp [Store.empty]
        subtotal := by simp [Store.empty]
        dated := by simp [Store.empty] }⟩
  refine (runAll_preserves_of_mem (P := P) history ?_ hstart).2.2.2
  intro s call hcall hs
  obtain ⟨hnow, hdated⟩ := hhistory call hcall
  refine settle_preserves (P := P) ?_ hs
  intro s' hperform
  obtain ⟨hcoherent, hnonneg, hsound, hitemized⟩ := hs
  have houtcome := perform_outcome hperform
  refine ⟨houtcome.coherent hcoherent, houtcome.nonneg hnonneg, houtcome.voidingSound hsound hnonneg,
    ?_⟩
  by_cases hsells : call.op.sells = true
  · rcases perform_made (Store.settled_of_sound hcoherent hsound) hsells hperform hdated with
      rfl | ⟨sale, lines, invoiceDate, hmade, hdate⟩
    · exact hitemized
    · exact hitemized.sold hmade (Int.le_trans hdate (env.zone.mono hnow))
  · exact Outcome.itemized hitemized (by simpa using hsells) houtcome

end RosarioDairy
