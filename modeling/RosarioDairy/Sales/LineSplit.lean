import Mathlib.Algebra.Order.BigOperators.Group.List
import RosarioDairy.Foundations.Apportion
import RosarioDairy.Inventory.Coherence
import RosarioDairy.Inventory.Deduction
import RosarioDairy.Sales.Voiding

/-!
# LineSplit — splitting a sale over batches loses no money

A cart line is sold from as many batches as the deduction goes through.  Each part is priced as the
difference of two rounded running totals, so the parts of a line add up to its rounded price, and the
lines to the total of the sale.
-/

namespace RosarioDairy

open Foundations

/-! ## One cart line -/

/-- A sale line that is a part of a cart line, with an amount less than a cent away from the exact
one; everything fits its column. -/
structure ItemShare (line : PricedItem) (item : TransactionItem) : Prop where
  unitPrice : item.unitPrice = line.unitPrice
  quantity_pos : 0 < item.quantity
  quantity_lt : item.quantity < 10 ^ 10
  price_nonneg : 0 ≤ item.unitPrice
  price_lt : item.unitPrice < 10 ^ 10
  amount : ∃ amount, item.subtotal = some amount ∧ item.totalAmount = some amount ∧
    0 ≤ amount ∧ amount < 10 ^ 20 ∧
    (100 * amount - item.quantity * item.unitPrice).natAbs < 100

/-- The sale lines of a cart line. -/
structure LineSplit (line : PricedItem) (items : List TransactionItem) : Prop where
  quantity : (items.map TransactionItem.quantity).sum = line.quantity
  subtotal : (items.map fun item => item.subtotal.getD 0).sum =
    money (line.quantity * line.unitPrice)
  shares : ∀ item ∈ items, ItemShare line item

/-- What was taken from every batch, with its share of the gross amount. -/
theorem createItems_apportion (s : Store) (txn lineNumber : Nat) (unitPrice : Int) :
    ∀ (consumed : List (ProductBatch × Int)) (quantitySoFar : Int) (items : Table TransactionItem),
      ∃ new, (createItems s txn lineNumber unitPrice consumed quantitySoFar
          (money (quantitySoFar * unitPrice)) items).rows = items.rows ++ new ∧
        new.map (fun item => (item.quantity, item.subtotal)) =
          (apportion (fun quantity => money (quantity * unitPrice)) quantitySoFar
            (consumed.map Prod.snd)).map (fun share => (share.1, some share.2)) ∧
        ∀ item ∈ new, item.transaction = txn ∧ item.lineNumber = some lineNumber ∧
          item.unitPrice = unitPrice ∧ item.totalAmount = item.subtotal
  | [], quantitySoFar, items => ⟨[], by simp [createItems], rfl, by simp⟩
  | (batch, take) :: consumed, quantitySoFar, items => by
      let gross := money ((quantitySoFar + take) * unitPrice) - money (quantitySoFar * unitPrice)
      let mk := newItem s txn lineNumber unitPrice batch take gross
      obtain ⟨new, hrows, hshares, hnew⟩ := createItems_apportion s txn lineNumber unitPrice consumed
        (quantitySoFar + take) (items.create mk)
      refine ⟨mk items.next :: new, ?_, ?_, ?_⟩
      · have hcreate : (items.create mk).rows = items.rows ++ [mk items.next] := rfl
        rw [createItems, hrows, hcreate, List.append_assoc, List.singleton_append]
      · rw [List.map_cons, hshares]
        rfl
      · refine List.forall_mem_cons.2 ⟨⟨rfl, rfl, rfl, rfl⟩, hnew⟩

/-- The parts a valid line is apportioned into. -/
theorem lineSplit_of_apportion {line : PricedItem} {takes : List Int} {items : List TransactionItem}
    (hline : line.Valid) (htakes : ∀ take ∈ takes, 0 < take) (htotal : takes.sum = line.quantity)
    (hshares : items.map (fun item => (item.quantity, item.subtotal)) =
      (apportion (fun quantity => money (quantity * line.unitPrice)) 0 takes).map
        (fun share => (share.1, some share.2)))
    (hitems : ∀ item ∈ items, item.unitPrice = line.unitPrice ∧ item.totalAmount = item.subtotal) :
    LineSplit line items := by
  have hprice := hline.price_nonneg
  have hnonneg : ∀ take ∈ takes, 0 ≤ take := fun take htake => Int.le_of_lt (htakes take htake)
  have hround : ∀ a b : Int, 0 ≤ a → a ≤ b → money (a * line.unitPrice) ≤ money (b * line.unitPrice) :=
    fun a b ha hab => money_mono (Int.mul_nonneg ha hprice) (Int.mul_le_mul_of_nonneg_right hab hprice)
  have hquantities : items.map TransactionItem.quantity = takes := by
    have hfst := congrArg (List.map Prod.fst) hshares
    rw [List.map_map, List.map_map] at hfst
    have hparts := map_fst_apportion (fun quantity => money (quantity * line.unitPrice)) 0 takes
    exact hfst.trans hparts
  have hamounts : (items.map fun item => item.subtotal.getD 0) =
      (apportion (fun quantity => money (quantity * line.unitPrice)) 0 takes).map Prod.snd := by
    have hsnd := congrArg (List.map fun part : Int × Option Int => part.2.getD 0) hshares
    rw [List.map_map, List.map_map] at hsnd
    exact hsnd
  have hsum : (items.map fun item => item.subtotal.getD 0).sum =
      money (line.quantity * line.unitPrice) := by
    rw [hamounts, sum_apportion, htotal]
    simp [money]
  refine
    { quantity := by rw [hquantities, htotal]
      subtotal := hsum
      shares := ?_ }
  intro item hitem
  obtain ⟨hunit, hamount⟩ := hitems item hitem
  have hquantity : item.quantity ∈ takes := by
    rw [← hquantities]
    exact List.mem_map_of_mem hitem
  have hshare : (item.quantity, item.subtotal) ∈
      (apportion (fun quantity => money (quantity * line.unitPrice)) 0 takes).map
        (fun share => (share.1, some share.2)) := by
    rw [← hshares]
    exact List.mem_map_of_mem hitem
  obtain ⟨⟨quantity, amount⟩, hmem, hEq⟩ := List.mem_map.1 hshare
  obtain ⟨rfl, hsubtotal⟩ := Prod.mk.inj hEq
  have hamount_nonneg : 0 ≤ amount := apportion_nonneg hround hnonneg (Int.le_refl 0) hmem
  -- a share is at most the whole, and the whole fits its column
  have hamount_le : amount ≤ money (line.quantity * line.unitPrice) := by
    rw [← hsum, hamounts]
    refine List.single_le_sum ?_ amount (List.mem_map.2 ⟨(item.quantity, amount), hmem, rfl⟩)
    intro other hother
    obtain ⟨share, hshare, rfl⟩ := List.mem_map.1 hother
    exact apportion_nonneg hround hnonneg (Int.le_refl 0) hshare
  have hquantity_le : item.quantity ≤ line.quantity := by
    rw [← htotal]
    exact List.single_le_sum hnonneg item.quantity hquantity
  have hmax : money (line.quantity * line.unitPrice) < 10 ^ 20 := by
    have hle := hline.subtotal_le
    rw [hline.subtotal, maxMoney] at hle
    omega
  obtain ⟨_, before, hbefore, hdifference⟩ := mem_apportion hnonneg (Int.le_refl 0) hmem
  simp only at hdifference
  have hclose : (100 * amount - item.quantity * item.unitPrice).natAbs < 100 := by
    have hpositive := Int.le_of_lt (htakes item.quantity hquantity)
    have hsub := money_sub_close (Int.mul_nonneg hbefore hprice)
      (Int.mul_nonneg (Int.add_nonneg hbefore hpositive) hprice)
    have hexact : (before + item.quantity) * line.unitPrice - before * line.unitPrice =
        item.quantity * item.unitPrice := by
      rw [hunit, ← Int.sub_mul]
      congr 1
      omega
    rw [hexact] at hsub
    rw [hdifference]
    exact hsub
  exact
    { unitPrice := hunit
      quantity_pos := htakes item.quantity hquantity
      quantity_lt := Int.lt_of_le_of_lt hquantity_le hline.quantity_lt
      price_nonneg := by rw [hunit]; exact hprice
      price_lt := by rw [hunit]; exact hline.price_lt
      amount := ⟨amount, hsubtotal.symm, by rw [hamount, ← hsubtotal], hamount_nonneg,
        Int.lt_of_le_of_lt hamount_le hmax, hclose⟩ }

/-! ## The selling loop -/

theorem Store.Coherent.stocked {s : Store} (h : s.Coherent) :
    ∀ batch ∈ s.batches.rows, batch.status = .available → 0 < batch.remainingQuantity :=
  fun batch hbatch havailable => (h batch hbatch).2.2 (Or.inl havailable)

theorem sellLine_coherent {clock : Clock} {txn : Nat} {line : PricedItem × Nat} {s s' : Store}
    (hs : s.Coherent) (h : sellLine clock txn s line = .ok s') : s'.Coherent := by
  refine (Store.coherent_iff clock.zone (s.frame clock.zone)).2 ?_
  intro pk
  exact (sellLine_account h pk).preserves (fun _ _ ha hstep => hstep.coherent ha)
    ((Store.coherent_iff clock.zone _).1 hs pk)

/-- The sale lines a cart line is sold with. -/
def SoldAs (txn : Nat) (line : PricedItem × Nat) (new : List TransactionItem) : Prop :=
  (∀ item ∈ new, item.transaction = txn ∧ item.lineNumber = some line.2) ∧ LineSplit line.1 new

theorem sellLine_split {clock : Clock} {txn : Nat} {line : PricedItem × Nat} {s s' : Store}
    (hline : line.1.Valid) (hs : s.Coherent) (h : sellLine clock txn s line = .ok s') :
    ∃ new, s'.items.rows = s.items.rows ++ new ∧ SoldAs txn line new := by
  unfold sellLine at h
  obtain ⟨⟨s₁, consumed⟩, hdeduct, h⟩ := bind_eq_ok.1 h
  obtain rfl := pure_eq_ok.1 h
  have hdeducted := (fefo_deduction clock line.1.product line.1.quantity s hs.stocked
    (Int.lt_of_lt_of_le Int.one_pos hline.quantity_pos)).2.1 s₁ consumed hdeduct
  have hitems : s₁.items = s.items := by rw [hdeducted.rest]
  obtain ⟨new, hrows, hshares, hnew⟩ := createItems_apportion s₁ txn line.2 line.1.unitPrice consumed
    0 s₁.items
  have hzero : money (0 * line.1.unitPrice) = 0 := by simp [money]
  rw [hzero, hitems] at hrows
  refine ⟨new, by simpa only [hitems] using hrows, ?_, ?_⟩
  · exact fun item hitem => ⟨(hnew item hitem).1, (hnew item hitem).2.1⟩
  · refine lineSplit_of_apportion hline ?_ hdeducted.total hshares fun item hitem =>
      (hnew item hitem).2.2
    intro take htake
    obtain ⟨draw, hdraw, rfl⟩ := List.mem_map.1 htake
    exact hdeducted.positive draw hdraw

/-- The selling loop sells every line in its turn. -/
theorem sellLines_split {clock : Clock} {txn : Nat} :
    ∀ {lines : List (PricedItem × Nat)} {s s' : Store},
      (∀ line ∈ lines, line.1.Valid) → s.Coherent →
      lines.foldlM (sellLine clock txn) s = .ok s' →
      ∃ new, s'.items.rows = s.items.rows ++ new.flatten ∧ List.Forall₂ (SoldAs txn) lines new
  | [], s, s', _, _, h => by
      obtain rfl := pure_eq_ok.1 h
      exact ⟨[], by simp, List.Forall₂.nil⟩
  | line :: lines, s, s', hlines, hs, h => by
      rw [List.foldlM_cons] at h
      obtain ⟨s₁, hfirst, h⟩ := bind_eq_ok.1 h
      obtain ⟨hline, hlines⟩ := List.forall_mem_cons.1 hlines
      obtain ⟨first, hrows₁, hsold⟩ := sellLine_split hline hs hfirst
      obtain ⟨rest, hrows, hrest⟩ := sellLines_split hlines (sellLine_coherent hs hfirst) h
      refine ⟨first :: rest, ?_, List.Forall₂.cons hsold hrest⟩
      rw [hrows, hrows₁, List.flatten_cons, List.append_assoc]

/-! ## The whole sale -/

theorem filter_other_line {txn : Nat} {line : PricedItem × Nat} {part : List TransactionItem}
    (hpart : SoldAs txn line part) {n : Nat} (hne : line.2 ≠ n) :
    part.filter (fun item => item.lineNumber = some n) = [] := by
  refine List.filter_eq_nil_iff.2 ?_
  intro item hitem hnumber
  rw [(hpart.1 item hitem).2] at hnumber
  exact hne (Option.some.inj (of_decide_eq_true hnumber))

theorem soldAs_of_mem {txn : Nat} {lines : List (PricedItem × Nat)}
    {new : List (List TransactionItem)} (hsold : List.Forall₂ (SoldAs txn) lines new)
    {part : List TransactionItem} (hpart : part ∈ new) : ∃ line ∈ lines, SoldAs txn line part := by
  induction hsold with
  | nil => cases hpart
  | @cons line first lines parts hfirst _ ih =>
      rcases List.mem_cons.1 hpart with rfl | hlater
      · exact ⟨line, List.mem_cons_self, hfirst⟩
      · obtain ⟨other, hother, hsold⟩ := ih hlater
        exact ⟨other, List.mem_cons_of_mem _ hother, hsold⟩

/-- The sale lines with one line number are the part of that line. -/
theorem filter_line {txn : Nat} {lines : List (PricedItem × Nat)}
    {new : List (List TransactionItem)} (hsold : List.Forall₂ (SoldAs txn) lines new)
    (hnumbers : (lines.map Prod.snd).Nodup) {line : PricedItem × Nat} (hline : line ∈ lines) :
    SoldAs txn line (new.flatten.filter fun item => item.lineNumber = some line.2) := by
  induction hsold with
  | nil => cases hline
  | @cons first part lines parts hpart hrest ih =>
      rw [List.map_cons, List.nodup_cons] at hnumbers
      rw [List.flatten_cons, List.filter_append]
      rcases List.mem_cons.1 hline with rfl | hlater
      · have hnone : parts.flatten.filter (fun item => item.lineNumber = some line.2) = [] := by
          refine List.filter_eq_nil_iff.2 ?_
          intro item hitem hnumber
          obtain ⟨part', hpart', hitem⟩ := List.mem_flatten.1 hitem
          obtain ⟨other, hother, hsold⟩ := soldAs_of_mem hrest hpart'
          rw [(hsold.1 item hitem).2] at hnumber
          have hsame : other.2 = line.2 := Option.some.inj (of_decide_eq_true hnumber)
          exact hnumbers.1 (List.mem_map.2 ⟨other, hother, hsame⟩)
        have hall : part.filter (fun item => item.lineNumber = some line.2) = part :=
          List.filter_eq_self.2 fun item hitem => by simp [(hpart.1 item hitem).2]
        rw [hnone, hall, List.append_nil]
        exact hpart
      · have hne : first.2 ≠ line.2 := fun hsame =>
          hnumbers.1 (List.mem_map.2 ⟨line, hlater, hsame.symm⟩)
        rw [filter_other_line hpart hne, List.nil_append]
        exact ih hnumbers.2 hlater

theorem LineSplit.total {line : PricedItem} {items : List TransactionItem}
    (h : LineSplit line items) (hline : line.Valid) :
    (items.map fun item => item.totalAmount.getD 0).sum = line.subtotal := by
  have hsame : (items.map fun item => item.totalAmount.getD 0) =
      items.map fun item => item.subtotal.getD 0 := by
    refine List.map_congr_left ?_
    intro item hitem
    obtain ⟨amount, hsubtotal, htotal, _⟩ := (h.shares item hitem).amount
    rw [htotal, hsubtotal]
  rw [hsame, h.subtotal, hline.subtotal]

/-- The sale lines add up to the prices of the cart lines. -/
theorem sum_sold {txn : Nat} {lines : List (PricedItem × Nat)} {new : List (List TransactionItem)}
    (hsold : List.Forall₂ (SoldAs txn) lines new) (hlines : ∀ line ∈ lines, line.1.Valid) :
    (new.flatten.map fun item => item.totalAmount.getD 0).sum =
      (lines.map fun line => line.1.subtotal).sum := by
  induction hsold with
  | nil => rfl
  | cons hpart _ ih =>
      obtain ⟨hline, hlines⟩ := List.forall_mem_cons.1 hlines
      rw [List.flatten_cons, List.map_append, List.sum_append, List.map_cons, List.sum_cons,
        ih hlines, hpart.2.total hline]

/-- Every cart line is among the sale lines without loss, and the header carries their sum. -/
structure SaleSplit (s : Store) (sale : Transaction) (lines : List PricedItem) : Prop where
  split : ∀ line ∈ lines.zipIdx 1,
    LineSplit line.1 ((s.itemsOf sale.pk).filter fun item => item.lineNumber = some line.2)
  numbered : ∀ item ∈ s.itemsOf sale.pk, ∃ line ∈ lines.zipIdx 1, item.lineNumber = some line.2
  subtotal : sale.subtotal = ((s.itemsOf sale.pk).map fun item => item.totalAmount.getD 0).sum
  total : sale.totalAmount = ((s.itemsOf sale.pk).map fun item => item.totalAmount.getD 0).sum
  total_nonneg : 0 ≤ sale.totalAmount
  total_lt : sale.totalAmount < 10 ^ 20

/-- A store a sale can be made in: coherent batches, and no sale lines without their sale. -/
structure Store.Settled (s : Store) : Prop where
  coherent : s.Coherent
  linked : ∀ item ∈ s.items.rows, item.transaction < s.transactions.next

theorem priceSale_lines {args : SaleArgs} {priced : PricedSale} (h : priceSale args = .ok priced) :
    priceItems args.items = .ok priced.lines ∧
      priced.total = (priced.lines.map PricedItem.subtotal).sum := by
  unfold priceSale at h
  obtain ⟨_, _, h⟩ := demand_bind_eq_ok.1 h
  obtain ⟨_, _, h⟩ := bind_eq_ok.1 h
  obtain ⟨lines, hlines, h⟩ := bind_eq_ok.1 h
  obtain ⟨payment, _, h⟩ := bind_eq_ok.1 h
  obtain rfl := pure_eq_ok.1 h
  exact ⟨hlines, rfl⟩

theorem closeSale_split {table : CaseTable} {clock : Clock} {args : SaleArgs} {priced : PricedSale}
    {allocation : Allocation} {s s' : Store} {txn : Nat} (hs : s.Settled)
    (hpriced : priceSale args = .ok priced)
    (h : closeSale table clock args priced allocation s = .ok (s', txn)) :
    SaleSplit s' (newTransaction clock args priced allocation s.transactions.next) priced.lines := by
  obtain ⟨_, _, hlines⟩ := closeSale_ok h
  obtain ⟨hitems, htotal⟩ := priceSale_lines hpriced
  obtain ⟨hvalid, hmax⟩ := priceItems_valid hitems
  have hperm : (lockOrder priced.lines).Perm (priced.lines.zipIdx 1) :=
    List.perm_insertionSort _ _
  have hvalid' : ∀ line ∈ lockOrder priced.lines, line.1.Valid := fun line hline =>
    hvalid line.1 (List.fst_mem_of_mem_zipIdx (hperm.mem_iff.1 hline))
  have hnumbers : ((lockOrder priced.lines).map Prod.snd).Nodup := by
    rw [(hperm.map Prod.snd).nodup_iff, List.zipIdx_map_snd]
    exact List.nodup_range'
  have hcoherent : Store.Coherent
      { saveSequence allocation.sequence s with
        transactions := s.transactions.create (newTransaction clock args priced allocation) } :=
    hs.coherent
  obtain ⟨new, hrows, hsold⟩ := sellLines_split hvalid' hcoherent hlines
  have hpk : (newTransaction clock args priced allocation s.transactions.next).pk =
      s.transactions.next := rfl
  -- the sale's key is fresh, so that its lines are the new ones
  have hitemsOf : s'.itemsOf s.transactions.next = new.flatten := by
    unfold Store.itemsOf
    have hold : s.items.rows.filter (fun item => item.transaction = s.transactions.next) = [] := by
      refine List.filter_eq_nil_iff.2 ?_
      intro item hitem
      have hlt := hs.linked item hitem
      simp only [decide_eq_true_eq]
      omega
    have hnew : new.flatten.filter (fun item => item.transaction = s.transactions.next) =
        new.flatten := by
      refine List.filter_eq_self.2 ?_
      intro item hitem
      obtain ⟨part, hpart, hitem⟩ := List.mem_flatten.1 hitem
      obtain ⟨line, _, hsoldAs⟩ := soldAs_of_mem hsold hpart
      simpa using (hsoldAs.1 item hitem).1
    have hbefore : (saveSequence allocation.sequence s).items = s.items := rfl
    rw [hrows, List.filter_append, hnew]
    simp only [hbefore, hold, List.nil_append]
  have hsum : priced.total =
      ((s'.itemsOf s.transactions.next).map fun item => item.totalAmount.getD 0).sum := by
    have hlinesSum : ((lockOrder priced.lines).map fun line => line.1.subtotal).sum =
        (priced.lines.map PricedItem.subtotal).sum := by
      rw [(hperm.map fun line : PricedItem × Nat => line.1.subtotal).sum_eq]
      have hfst : (priced.lines.zipIdx 1).map (fun line => line.1.subtotal) =
          ((priced.lines.zipIdx 1).map Prod.fst).map PricedItem.subtotal := by rw [List.map_map]; rfl
      rw [hfst, List.zipIdx_map_fst]
    rw [hitemsOf, sum_sold hsold hvalid', hlinesSum, htotal]
  have hnonneg : 0 ≤ priced.total := by
    rw [htotal]
    refine List.sum_nonneg ?_
    intro subtotal hsubtotal
    obtain ⟨line, hline, rfl⟩ := List.mem_map.1 hsubtotal
    have hvalidLine := hvalid line hline
    rw [hvalidLine.subtotal, money_of_nonneg (Int.mul_nonneg
      (Int.le_trans Int.one_nonneg hvalidLine.quantity_pos) hvalidLine.price_nonneg)]
    have hproduct := Int.mul_nonneg (Int.le_trans Int.one_nonneg hvalidLine.quantity_pos)
      hvalidLine.price_nonneg
    exact Int.ediv_nonneg (by omega) (by decide)
  refine
    { split := ?_
      numbered := ?_
      subtotal := hsum
      total := hsum
      total_nonneg := hnonneg
      total_lt := ?_ }
  · intro line hline
    rw [hpk, hitemsOf]
    exact (filter_line hsold hnumbers (hperm.mem_iff.2 hline)).2
  · intro item hitem
    rw [hpk, hitemsOf] at hitem
    obtain ⟨part, hpart, hitem⟩ := List.mem_flatten.1 hitem
    obtain ⟨line, hline, hsoldAs⟩ := soldAs_of_mem hsold hpart
    exact ⟨line, hperm.mem_iff.1 hline, (hsoldAs.1 item hitem).2⟩
  · have hle : priced.total ≤ maxMoney := by rw [htotal]; exact hmax
    have hlt : maxMoney < 10 ^ 20 := by decide
    exact Int.lt_of_le_of_lt hle hlt

/-- The split reads the sale lines and three columns of the header. -/
theorem SaleSplit.resave {s s' : Store} {sale saved : Transaction} {lines : List PricedItem}
    (h : SaleSplit s sale lines) (hitems : s'.items = s.items) (hpk : saved.pk = sale.pk)
    (hsubtotal : saved.subtotal = sale.subtotal) (htotal : saved.totalAmount = sale.totalAmount) :
    SaleSplit s' saved lines := by
  have hsame : s'.itemsOf saved.pk = s.itemsOf sale.pk := by
    unfold Store.itemsOf
    rw [hitems, hpk]
  exact
    { split := by rw [hsame]; exact h.split
      numbered := by rw [hsame]; exact h.numbered
      subtotal := by rw [hsame, hsubtotal]; exact h.subtotal
      total := by rw [hsame, htotal]; exact h.total
      total_nonneg := by rw [htotal]; exact h.total_nonneg
      total_lt := by rw [htotal]; exact h.total_lt }

theorem SaleEffect.find_sale {clock : Clock} {s s' : Store} {sale : Transaction}
    (h : SaleEffect clock s s' sale) : s'.transactions.find sale.pk = some sale := by
  refine s'.transactions.find_of_mem ?_
  rw [h.transactions]
  exact List.mem_append_right _ (List.mem_singleton.2 rfl)

theorem checkout_split {table : CaseTable} {clock : Clock} {args : SaleArgs} {s s' : Store} {txn : Nat}
    (hs : s.Settled) (h : checkout table clock args s = .ok (s', txn)) :
    ∃ lines sale, priceItems args.items = .ok lines ∧ s'.transactions.find txn = some sale ∧
      SaleSplit s' sale lines := by
  obtain ⟨priced, allocation, hpriced, _, hclose⟩ := checkout_ok h
  have htxn : txn = s.transactions.next := (closeSale_ok hclose).1
  subst htxn
  exact ⟨priced.lines, _, (priceSale_lines hpriced).1, (closeSale_effect hpriced hclose).find_sale,
    closeSale_split hs hpriced hclose⟩

/-! ## Orders -/

/-- The order line of a cart line carries the same rounded price. -/
structure OrderLine (order : Nat) (line : PricedItem) (row : OrderItem) : Prop where
  order : row.order = order
  quantity : row.quantity = line.quantity
  unitPrice : row.unitPrice = line.unitPrice
  subtotal : row.subtotal = money (line.quantity * line.unitPrice)
  total : row.totalAmount = some (money (line.quantity * line.unitPrice))
  quantity_lt : 0 ≤ row.quantity ∧ row.quantity < 10 ^ 10
  price_lt : 0 ≤ row.unitPrice ∧ row.unitPrice < 10 ^ 10
  subtotal_lt : 0 ≤ row.subtotal ∧ row.subtotal < 10 ^ 20

theorem newOrderItem_line {order : Nat} {line : PricedItem} (hline : line.Valid) (pk : Nat) :
    OrderLine order line (newOrderItem order line pk) := by
  have hproduct := Int.mul_nonneg (Int.le_trans Int.one_nonneg hline.quantity_pos)
    hline.price_nonneg
  have hnonneg : 0 ≤ line.subtotal := by
    rw [hline.subtotal, money_of_nonneg hproduct]
    exact Int.ediv_nonneg (by omega) (by decide)
  have hmax : maxMoney < 10 ^ 20 := by decide
  exact
    { order := rfl
      quantity := rfl
      unitPrice := rfl
      subtotal := hline.subtotal
      total := by rw [← hline.subtotal, ← hline.total]; rfl
      quantity_lt := ⟨Int.le_trans Int.one_nonneg hline.quantity_pos, hline.quantity_lt⟩
      price_lt := ⟨hline.price_nonneg, hline.price_lt⟩
      subtotal_lt := ⟨hnonneg, Int.lt_of_le_of_lt hline.subtotal_le hmax⟩ }

theorem createOrderItems_lines (order : Nat) :
    ∀ {lines : List PricedItem} (items : Table OrderItem), (∀ line ∈ lines, line.Valid) →
      ∃ rows, (createOrderItems order lines items).rows = items.rows ++ rows ∧
        List.Forall₂ (OrderLine order) lines rows
  | [], items, _ => ⟨[], by simp [createOrderItems], List.Forall₂.nil⟩
  | line :: lines, items, hlines => by
      obtain ⟨hline, hlines⟩ := List.forall_mem_cons.1 hlines
      obtain ⟨rows, hrows, hall⟩ := createOrderItems_lines order
        (items.create (newOrderItem order line)) hlines
      refine ⟨newOrderItem order line items.next :: rows, ?_,
        List.Forall₂.cons (newOrderItem_line hline items.next) hall⟩
      have hcreate : (items.create (newOrderItem order line)).rows =
          items.rows ++ [newOrderItem order line items.next] := rfl
      rw [hcreate, List.append_assoc, List.singleton_append] at hrows
      exact hrows

/-- An order and its sale are priced from the same cart. -/
theorem placeOrder_split {table : CaseTable} {clock : Clock} {customer : Customer} {args : SaleArgs}
    {s s' : Store} {order : Nat} (hs : s.Settled)
    (h : placeOrder table clock customer args s = .ok (s', order)) :
    ∃ lines sale row rows, priceItems args.items = .ok lines ∧
      s'.orders.find order = some row ∧ row.transaction = some sale.pk ∧
      sale.pk = s.transactions.next ∧ s'.transactions.find sale.pk = some sale ∧ SaleSplit s' sale lines ∧
      s'.orderItems.rows = s.orderItems.rows ++ rows ∧ List.Forall₂ (OrderLine order) lines rows := by
  unfold placeOrder placeOrderWith at h
  obtain ⟨_, _, h⟩ := bind_eq_ok.1 h
  obtain ⟨lines, hlines, h⟩ := bind_eq_ok.1 h
  obtain ⟨⟨s₁, txn⟩, hcheckout, h⟩ := bind_eq_ok.1 h
  obtain ⟨row, hrow, h⟩ := demand_bind_eq_ok.1 h
  obtain ⟨sale, hsale, h⟩ := demand_bind_eq_ok.1 h
  obtain ⟨rfl, rfl⟩ := pure_pair_eq_ok.1 h
  -- creating the order touches neither batches nor sales
  have hsettled : Store.Settled
      { s with
        orders := s.orders.create (newOrder clock customer args.staffUser)
        orderItems := createOrderItems s.orders.next lines s.orderItems } :=
    { coherent := hs.coherent
      linked := hs.linked }
  -- the checkout prices the same lines and makes the sale that the order links
  obtain ⟨lines', sale', hlines', hsale', hsplit⟩ := checkout_split hsettled hcheckout
  obtain rfl : lines = lines' := Except.ok.inj (hlines.symm.trans hlines')
  obtain rfl : sale = sale' := Option.some.inj (hsale.symm.trans hsale')
  have hpk : sale.pk = txn := (Table.find_eq_some.1 hsale).2
  obtain ⟨priced, allocation, _, _, hclose⟩ := checkout_ok hcheckout
  have hnext : sale.pk = s.transactions.next := hpk.trans (closeSale_ok hclose).1
  have horderItems : s₁.orderItems = createOrderItems s.orders.next lines s.orderItems := by
    obtain ⟨batches, items, rfl⟩ := closeSale_store hclose
    rfl
  obtain ⟨rows, hrows, hall⟩ := createOrderItems_lines s.orders.next s.orderItems
    (priceItems_valid hlines).1
  have hkey : row.pk = s.orders.next := (Table.find_eq_some.1 hrow).2
  -- the link is saved on the order row and leaves its key
  have hlinked : (s₁.orders.put (linkedOrder row sale)).find s.orders.next =
      some (linkedOrder row sale) := by
    have hput := Table.find_put s₁.orders (linkedOrder row sale) s.orders.next
    have hlinkedKey : Row.pk (linkedOrder row sale) = s.orders.next := hkey
    rw [hlinkedKey, if_pos rfl, hrow] at hput
    exact hput
  refine ⟨lines, sale, linkedOrder row sale, rows, hlines, hlinked, rfl, hnext, ?_, ?_, ?_, hall⟩
  · rw [hpk]
    exact hsale
  · exact hsplit.resave rfl rfl rfl rfl
  · have hsame : s₁.orderItems.rows = s.orderItems.rows ++ rows := by rw [horderItems, hrows]
    exact hsame

/-! ## Histories -/

/-- A history on imported sales settles every store it reaches. -/
theorem replay_settled (env : Deployment) {s : Store} (himported : ImportedHistory s)
    (hs : s.Coherent) (history : List Call) : (replay env s history).Settled := by
  have hlinked := (replay_voidingSound env himported history).2.line_sale
  refine
    { coherent := replay_outcome (P := Store.Coherent) (fun _ _ _ _ hs h => h.coherent hs) history hs
      linked := ?_ }
  intro item hitem
  obtain ⟨txn, htxn, hpk⟩ := hlinked item hitem
  have hlt : txn.pk < (replay env s history).transactions.next :=
    (replay env s history).transactions.below txn htxn
  rw [← hpk]
  exact hlt

/-- Whatever was sold before, a checkout and an order split without loss. -/
structure SplitsExactly (env : Deployment) (s : Store) : Prop where
  checkout : ∀ (now : Int) (args : SaleArgs) (s' : Store) (txn : Nat),
    checkout env.table { zone := env.zone, now := now } args s = .ok (s', txn) →
      ∃ lines sale, priceItems args.items = .ok lines ∧ s'.transactions.find txn = some sale ∧
        SaleSplit s' sale lines
  order : ∀ (now : Int) (customer : Customer) (args : SaleArgs) (s' : Store) (order : Nat),
    placeOrder env.table { zone := env.zone, now := now } customer args s = .ok (s', order) →
      ∃ lines sale row rows, priceItems args.items = .ok lines ∧
        s'.orders.find order = some row ∧ row.transaction = some sale.pk ∧
        sale.pk = s.transactions.next ∧ s'.transactions.find sale.pk = some sale ∧ SaleSplit s' sale lines ∧
        s'.orderItems.rows = s.orderItems.rows ++ rows ∧
        List.Forall₂ (OrderLine order) lines rows

/-- Splitting a sale over batches loses no money, in every settled store; and every history on
imported sales and coherent batches reaches settled stores only. -/
theorem split_sale_exact (env : Deployment) :
    (∀ s : Store, s.Settled → SplitsExactly env s) ∧
      ∀ s : Store, ImportedHistory s → s.Coherent →
        ∀ history, (replay env s history).Settled := by
  constructor
  · intro s hs
    exact
      { checkout := fun _ _ _ _ h => checkout_split hs h
        order := fun _ _ _ _ _ h => placeOrder_split hs h }
  · intro s himported hs history
    exact replay_settled env himported hs history

end RosarioDairy
