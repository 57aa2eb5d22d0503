import RosarioDairy.Sales.Importers.RefreshSteps

/-!
# RefreshProgress — the loop over the plan

The tables keep what the database promises of them, the invoices still to come are as they were read, and
the invoices that were processed stay booked.
-/

namespace RosarioDairy
namespace Importers

open CustomerNames Foundations
open CustomerConsolidation (CustomerRecord)

/-! ## Consistent tables -/

/-- No two sales have the same reference. -/
def UniqueReferences (t : Table ImportedSale) : Prop :=
  ∀ sale ∈ t.rows, ∀ other ∈ t.rows, sale.sourceReference ≠ none →
    sale.sourceReference = other.sourceReference → sale = other

/-- What the database promises of the tables. -/
structure Archive.Consistent (a : Archive) : Prop where
  references : UniqueReferences a.sales
  orderOnce : ∀ order ∈ a.orders.rows, ∀ other ∈ a.orders.rows, order.transaction ≠ none →
    order.transaction = other.transaction → order = other
  itemSale : ∀ item ∈ a.items.rows, ∃ sale ∈ a.sales.rows, sale.pk = item.transaction
  itemBatch : ∀ item ∈ a.items.rows, ∃ batch ∈ a.batches.rows, batch.pk = item.productBatch
  orderSale : ∀ order ∈ a.orders.rows, ∀ pk, order.transaction = some pk →
    ∃ sale ∈ a.sales.rows, sale.pk = pk
  orderItem : ∀ item ∈ a.orderItems.rows, ∃ order ∈ a.orders.rows, order.pk = item.order

/-- The rows that wait to be inserted refer to stored rows, too. -/
structure Refresh.Consistent (r : Refresh) : Prop where
  archive : r.archive.Consistent
  itemSale : ∀ item ∈ r.newItems, ∃ sale ∈ r.archive.sales.rows, sale.pk = item.transaction
  itemLinked : ∀ item ∈ r.newItems, IsLinked r.archive.batches item
  orderItem : ∀ item ∈ r.newOrderItems, ∃ order ∈ r.archive.orders.rows, order.pk = item.order

/-- What the refusals leave: consistent tables whose historical sales have no live traces. -/
structure Checked (before : Archive) (references : List String) : Prop where
  consistent : before.Consistent
  known : ∀ sale ∈ before.sales.rows,
    (sale.sourceReference.any fun reference => workbookReference.fullMatch reference.toList) = true →
      sale.isReferenced references = true
  manual : ∀ sale ∈ before.sales.rows, sale.isReferenced references = true →
    sale.encodedAt = none ∧ sale.encodingRequestId = none
  linked : ∀ item ∈ before.items.rows, isHistorical before references item.transaction = true →
    IsLinked before.batches item
  fulfilled : ∀ order ∈ before.orders.rows,
    order.transaction.any (isHistorical before references) = true → order.status = .fulfilled

theorem checkHistory_eq_ok {before : Archive} {references : List String} {u : Unit}
    (hconsistent : before.Consistent) (h : checkHistory before references = .ok u) :
    Checked before references := by
  unfold checkHistory at h
  obtain ⟨hknown, h⟩ := require_bind_eq_ok.1 h
  obtain ⟨hmanual, h⟩ := require_bind_eq_ok.1 h
  obtain ⟨hlinked, h⟩ := require_bind_eq_ok.1 h
  refine ⟨hconsistent, hknown, hmanual, ?_, require_eq_ok.1 h⟩
  intro item hitem hhistorical
  obtain ⟨batch, hbatch, hpk⟩ := hconsistent.itemBatch item hitem
  refine ⟨batch, hbatch, hpk, hlinked item hitem hhistorical batch ?_⟩
  exact hpk ▸ before.batches.find_of_mem hbatch

theorem isHistorical_eq_true {a : Archive} {references : List String} {pk : Nat} :
    isHistorical a references pk = true ↔
      ∃ sale ∈ a.sales.rows, sale.isReferenced references = true ∧ sale.pk = pk := by
  simp [isHistorical]

theorem isHistoricalOrder_eq_true {a : Archive} {references : List String} {pk : Nat} :
    isHistoricalOrder a references pk = true ↔
      ∃ order ∈ a.orders.rows, ∃ sale, order.transaction = some sale ∧
        isHistorical a references sale = true ∧ order.pk = pk := by
  simp only [isHistoricalOrder, List.any_eq_true, Bool.and_eq_true, Option.any_eq_true, beq_iff_eq]
  constructor
  · rintro ⟨order, horder, ⟨sale, hsale, hhistorical⟩, hpk⟩
    exact ⟨order, horder, sale, hsale, hhistorical, hpk⟩
  · rintro ⟨order, horder, sale, hsale, hhistorical, hpk⟩
    exact ⟨order, horder, ⟨sale, hsale, hhistorical⟩, hpk⟩

/-! ## Booked invoices -/

/-- The lines of a sale, stored or waiting. -/
def bookedLines (a : Archive) (waiting : List ImportedItem) (sale : Nat) : List (Option LineSignature) :=
  ((a.items.scan fun item => item.transaction == sale) ++
    waiting.filter fun item => item.transaction == sale).map fun item =>
      some (lineSignature a.batches item)

/-- A sale holds what the plan says of an invoice. -/
structure Booked (T : ProductCase) (zone : Zone) (labels : List (List Char)) (a : Archive)
    (waiting : List ImportedItem) (entry : RefreshedTicket) (sale : ImportedSale) : Prop where
  stored : sale ∈ a.sales.rows
  reference : sale.sourceReference = some entry.source.reference
  imported : sale.encodedAt = none ∧ sale.encodingRequestId = none
  columns : ∃ customer, ChosenFor T labels a.customers entry.source.customerLabel customer ∧
    desiredOf zone entry customer = .ok sale.columns
  fits : sale.columns.fits = true
  lines : bookedLines a waiting sale.pk = entry.lines.map (plannedLine T a)
  linked : ∀ item, item ∈ a.items.rows ∨ item ∈ waiting → item.transaction = sale.pk →
    IsLinked a.batches item
  stocked : ∀ line ∈ entry.lines, IsStocked T a a.batches line
  order : OrderFollows a.orders sale.pk sale.columns
  fulfilled : ∀ order ∈ a.orders.rows, order.transaction = some sale.pk → order.status = .fulfilled

/-- A stored sale that the loop has not come to. -/
structure Untouched (before : Archive) (r : Refresh) (sale : ImportedSale) : Prop where
  stored : sale ∈ r.archive.sales.rows
  items : (r.archive.items.scan fun item => item.transaction == sale.pk) =
    before.items.scan fun item => item.transaction == sale.pk
  orders : ∀ order : ImportedOrder, order.transaction = some sale.pk →
    (order ∈ r.archive.orders.rows ↔ order ∈ before.orders.rows)
  newItems : ∀ item ∈ r.newItems, item.transaction ≠ sale.pk
  newOrderItems : ∀ item ∈ r.newOrderItems, ∀ order ∈ r.archive.orders.rows,
    order.transaction = some sale.pk → order.pk ≠ item.order

/-! ## What an invoice finds -/

/-- The lines and the order of a sale are those that were read. -/
structure Ready (before : Archive) (references : List String) (r : Refresh) (sale : Nat) : Prop where
  lines : (r.archive.items.scan fun item => item.transaction == sale).map
    (lineSignature before.batches) = oldLines before references sale
  linked : ∀ item ∈ r.archive.items.rows, item.transaction = sale → IsLinked before.batches item
  read : ∀ order, orderOf before references sale = some order →
    order ∈ r.archive.orders.rows ∧ order.status = .fulfilled
  known : ∀ order ∈ r.archive.orders.rows, order.transaction = some sale →
    orderOf before references sale = some order
  newItems : ∀ item ∈ r.newItems, item.transaction ≠ sale
  newOrderItems : ∀ item ∈ r.newOrderItems, ∀ order ∈ r.archive.orders.rows,
    order.transaction = some sale → order.pk ≠ item.order

section Ready

variable {before : Archive} {references : List String} {r : Refresh} {sale : ImportedSale}

theorem Untouched.ready (h : Untouched before r sale) (hchecked : Checked before references)
    (hstored : sale ∈ before.sales.rows) (hreferenced : sale.isReferenced references = true) :
    Ready before references r sale.pk := by
  have hhistorical : isHistorical before references sale.pk = true :=
    isHistorical_eq_true.2 ⟨sale, hstored, hreferenced, rfl⟩
  refine ⟨?_, ?_, ?_, ?_, h.newItems, h.newOrderItems⟩
  · rw [h.items, oldLines, if_pos hhistorical]
  · intro item hitem htransaction
    have hmem : item ∈ before.items.scan fun item => item.transaction == sale.pk := by
      rw [← h.items, Table.mem_scan]
      exact ⟨hitem, beq_iff_eq.2 htransaction⟩
    exact hchecked.linked item (Table.mem_scan.1 hmem).1 (by rw [htransaction]; exact hhistorical)
  · intro order horder
    obtain ⟨hmem, -, htransaction⟩ := orderOf_eq_some horder
    refine ⟨(h.orders order htransaction).2 hmem, hchecked.fulfilled order hmem ?_⟩
    rw [htransaction]
    exact hhistorical
  · intro order hmem htransaction
    have hold := (h.orders order htransaction).1 hmem
    cases hfound : orderOf before references sale.pk with
    | none =>
        have hno := List.find?_eq_none.1 hfound order hold
        simp [hhistorical, htransaction] at hno
    | some other =>
        obtain ⟨hother, -, hsame⟩ := orderOf_eq_some hfound
        rw [hchecked.consistent.orderOnce order hold other hother (by simp [htransaction])
          (htransaction.trans hsame.symm)]

/-- A sale that is about to be created finds nothing. -/
theorem ready_of_fresh {pk : Nat} (hconsistent : r.Consistent)
    (hfresh : ∀ sale ∈ r.archive.sales.rows, sale.pk ≠ pk)
    (hunread : isHistorical before references pk = false) : Ready before references r pk := by
  have hitems : ∀ item ∈ r.archive.items.rows, item.transaction ≠ pk := by
    intro item hitem htransaction
    obtain ⟨sale, hsale, hpk⟩ := hconsistent.archive.itemSale item hitem
    exact hfresh sale hsale (hpk.trans htransaction)
  have horders : ∀ order ∈ r.archive.orders.rows, order.transaction ≠ some pk := by
    intro order horder htransaction
    obtain ⟨sale, hsale, hpk⟩ := hconsistent.archive.orderSale order horder pk htransaction
    exact hfresh sale hsale hpk
  refine ⟨?_, ?_, ?_, ?_, ?_, ?_⟩
  · have hnone : (r.archive.items.scan fun item => item.transaction == pk) = [] := by
      refine List.eq_nil_iff_forall_not_mem.2 ?_
      intro item hitem
      obtain ⟨hmem, htransaction⟩ := Table.mem_scan.1 hitem
      exact hitems item hmem (beq_iff_eq.1 htransaction)
    rw [hnone, oldLines, hunread]
    rfl
  · intro item hitem htransaction
    exact absurd htransaction (hitems item hitem)
  · intro order horder
    rw [(orderOf_eq_some horder).2.1] at hunread
    cases hunread
  · intro order horder htransaction
    exact absurd htransaction (horders order horder)
  · intro item hitem htransaction
    obtain ⟨sale, hsale, hpk⟩ := hconsistent.itemSale item hitem
    exact hfresh sale hsale (hpk.trans htransaction)
  · intro item _ order horder htransaction
    exact absurd htransaction (horders order horder)

end Ready

/-! ## The effect of an invoice -/

section Effect

variable {T : ProductCase} {zone : Zone} {labels : List (List Char)} {before : Archive}
  {references : List String} {owner : Nat} {now : Int} {entry : RefreshedTicket} {r r' : Refresh}

/-- What becomes of the lines of a sale. -/
structure LinesSaved (T : ProductCase) (before : Archive) (sale : Nat) (lines : List SourceLine)
    (batches : Table ProductBatch) (r : Refresh) (t : Table ImportedItem) (added : List ImportedItem) :
    Prop where
  agree : Table.AgreeOutside (fun item => item.transaction = sale) r.archive.items t
  old : ∀ item ∈ t.rows, item ∈ r.archive.items.rows
  waiting : ∀ item ∈ added, item.transaction = sale ∧ IsLinked batches item
  linked : ∀ item ∈ t.rows, item.transaction = sale → IsLinked batches item
  booked : ((t.scan fun item => item.transaction == sale) ++
    (r.newItems ++ added).filter fun item => item.transaction == sale).map
      (fun item => some (lineSignature batches item)) = lines.map (plannedLine T before)

theorem IsLinked.appended {t t' : Table ProductBatch} (h : t.Appended t') {item : ImportedItem}
    (hlinked : IsLinked t item) : IsLinked t' item := by
  obtain ⟨batch, hmem, hpk, hhistorical⟩ := hlinked
  exact ⟨batch, h.mem hmem, hpk, hhistorical⟩

theorem IsLinked.batch {t : Table ProductBatch} {item : ImportedItem} (h : IsLinked t item) :
    ∃ batch ∈ t.rows, batch.pk = item.productBatch := by
  obtain ⟨batch, hmem, hpk, -⟩ := h
  exact ⟨batch, hmem, hpk⟩

/-- The lines of the sale are the booked ones, whether they were replaced or are the old ones. -/
theorem saveLines_saved {sale : Nat} {lines : List SourceLine} {items : List ImportedItem}
    (h : saveLines (decide (oldLines before references sale ≠ items.map (lineSignature r.archive.batches)))
      sale items r = .ok r') (hready : Ready before references r sale)
    (happended : before.batches.Appended r.archive.batches)
    (hbooked : LinesBooked T before sale lines r.archive.batches items) :
    ∃ t added counts,
      r' = { r with
             archive := { r.archive with items := t }
             newItems := r.newItems ++ added
             counts := counts } ∧
      LinesSaved T before sale lines r.archive.batches r t added := by
  have hwaiting : (r.newItems.filter fun item => item.transaction == sale) = [] := by
    refine List.filter_eq_nil_iff.2 ?_
    intro item hitem htransaction
    exact hready.newItems item hitem (beq_iff_eq.1 htransaction)
  by_cases hchanged : oldLines before references sale = items.map (lineSignature r.archive.batches)
  · have hkept : (pure r : Except String Refresh) = .ok r' := by
      simpa [saveLines, hchanged] using h
    obtain rfl := pure_eq_ok.1 hkept
    refine ⟨r.archive.items, [], r.counts, by simp, .refl _ _, fun _ hitem => hitem, by simp, ?_, ?_⟩
    · intro item hitem htransaction
      exact (hready.linked item hitem htransaction).appended happended
    · -- the old lines read the same in the longer table of batches
      have hsame : ∀ item ∈ r.archive.items.scan fun item => item.transaction == sale,
          lineSignature r.archive.batches item = lineSignature before.batches item := by
        intro item hitem
        obtain ⟨hmem, htransaction⟩ := Table.mem_scan.1 hitem
        exact lineSignature_of_appended happended
          (hready.linked item hmem (beq_iff_eq.1 htransaction)).batch
      rw [List.append_nil, hwaiting, List.append_nil, ← hbooked.signatures]
      calc (r.archive.items.scan fun item => item.transaction == sale).map
            (fun item => some (lineSignature r.archive.batches item))
          = ((r.archive.items.scan fun item => item.transaction == sale).map
              (lineSignature before.batches)).map some := by
            rw [List.map_map]
            refine List.map_congr_left ?_
            intro item hitem
            exact congrArg some (hsame item hitem)
        _ = (items.map (lineSignature r.archive.batches)).map some := by rw [hready.lines, hchanged]
        _ = items.map (fun item => some (lineSignature r.archive.batches item)) := by
            rw [List.map_map]
            rfl
  · have hreplaced : replaceLines sale items r = .ok r' := by
      rwa [decide_eq_true hchanged, saveLines, if_pos rfl] at h
    unfold replaceLines Archive.deleteItems at hreplaced
    obtain ⟨archive, harchive, hr'⟩ := bind_eq_ok.1 hreplaced
    obtain ⟨-, harchive⟩ := require_bind_eq_ok.1 harchive
    obtain rfl := pure_eq_ok.1 harchive
    obtain rfl := pure_eq_ok.1 hr'
    have hgone : (r.archive.items.deleteWhere fun item => item.transaction == sale).scan
        (fun item => item.transaction == sale) = [] := by
      refine List.eq_nil_iff_forall_not_mem.2 ?_
      intro item hitem
      obtain ⟨hmem, htransaction⟩ := Table.mem_scan.1 hitem
      rw [(Table.mem_deleteWhere.1 hmem).2] at htransaction
      cases htransaction
    have hall : (items.filter fun item => item.transaction == sale) = items :=
      List.filter_eq_self.2 fun item hitem => beq_iff_eq.2 (hbooked.transaction item hitem)
    refine ⟨_, items, _, rfl, Table.agreeOutside_deleteWhere ?_, ?_, ?_, ?_, ?_⟩
    · intro item _ htransaction
      exact beq_iff_eq.1 htransaction
    · intro item hitem
      exact (Table.mem_deleteWhere.1 hitem).1
    · intro item hitem
      exact ⟨hbooked.transaction item hitem, hbooked.linked item hitem⟩
    · intro item hitem htransaction
      have hother := (Table.mem_deleteWhere.1 hitem).2
      rw [beq_iff_eq.2 htransaction] at hother
      cases hother
    · rw [hgone, List.filter_append, hwaiting, hall, List.nil_append, List.nil_append]
      exact hbooked.signatures

end Effect

/-! ## One step of the loop -/

/-- What holds of the tables and dictionaries all along. -/
structure Running (T : ProductCase) (labels : List (List Char)) (before : Archive) (r : Refresh) : Prop where
  users : r.archive.users = before.users
  categories : r.archive.categories = before.categories
  products : r.archive.products = before.products
  stockReturns : r.archive.stockReturns = before.stockReturns
  submissions : r.archive.submissions = before.submissions
  customers : before.customers.Appended r.archive.customers
  batches : before.batches.Appended r.archive.batches
  filed : Filed T labels r.archive.customers r.customers
  stocked : Stocked r.archive.batches r.batches

/-- What a planned invoice changes, and what it leaves alone. -/
structure TicketEffect (T : ProductCase) (zone : Zone) (labels : List (List Char)) (before : Archive)
    (references : List String) (entry : RefreshedTicket) (r r' : Refresh) (sale : ImportedSale) : Prop where
  running : Running T labels before r'
  customers : r.archive.customers.Appended r'.archive.customers
  batches : r.archive.batches.Appended r'.archive.batches
  sales : Table.AgreeOutside (fun other => other.sourceReference = some entry.source.reference)
    r.archive.sales r'.archive.sales
  saleKeys : ∀ old ∈ r.archive.sales.rows, ∃ new ∈ r'.archive.sales.rows, new.pk = old.pk
  saleOnly : ∀ other ∈ r'.archive.sales.rows,
    other.sourceReference = some entry.source.reference → other = sale
  items : Table.AgreeOutside (fun item => item.transaction = sale.pk) r.archive.items r'.archive.items
  itemsOld : ∀ item ∈ r'.archive.items.rows, item ∈ r.archive.items.rows
  newItems : ∃ added, r'.newItems = r.newItems ++ added ∧
    ∀ item ∈ added, item.transaction = sale.pk ∧ IsLinked r'.archive.batches item
  orders : ∃ added, r'.newOrderItems = r.newOrderItems ++ added ∧
    OrderSaved sale.pk sale.columns r.archive.orders r'.archive.orders r.archive.orderItems
      r'.archive.orderItems added
  ready : Ready before references r sale.pk
  booked : Booked T zone labels r'.archive r'.newItems entry sale
  origin : (∃ old, existing before references entry.source.reference = some old ∧ sale.kept = old.kept) ∨
    existing before references entry.source.reference = none ∧
      (∀ other ∈ r.archive.sales.rows, other.sourceReference ≠ some entry.source.reference) ∧
      sale.pk = r.archive.sales.next

section Step

variable {T : ProductCase} {zone : Zone} {labels : List (List Char)} {before : Archive}
  {references : List String} {owner : Nat} {now : Int} {entry : RefreshedTicket} {r r' : Refresh}

theorem ImportedSale.pk_of_kept {sale row : ImportedSale} (h : row.kept = sale.kept) : row.pk = sale.pk :=
  show row.kept.pk = sale.kept.pk by rw [h]

theorem plannedLine_congr {a a' : Archive} (hproducts : a'.products = a.products)
    (hcategories : a'.categories = a.categories) : plannedLine T a' = plannedLine T a := by
  funext line
  unfold plannedLine candidates
  rw [hproducts, hcategories]

theorem isStocked_congr {a a' : Archive} (hproducts : a'.products = a.products) {t : Table ProductBatch}
    {line : SourceLine} : IsStocked T a' t line ↔ IsStocked T a t line := by
  unfold IsStocked candidates
  rw [hproducts]

theorem refreshTicket_eq_ok (hlabel : entry.source.customerLabel ∈ labels) (hchecked : Checked before references) (hrunning : Running T labels before r)
    (hconsistent : r.Consistent) (hnext : before.sales.next ≤ r.archive.sales.next)
    (huntouched : ∀ sale, existing before references entry.source.reference = some sale →
      Untouched before r sale)
    (h : refreshTicket T zone before references owner now r entry = .ok r') :
    ∃ sale, TicketEffect T zone labels before references entry r r' sale := by
  unfold refreshTicket at h
  obtain ⟨⟨r₁, customer⟩, hchoose, h⟩ := bind_eq_ok.1 h
  obtain ⟨desired, hdesired, h⟩ := bind_eq_ok.1 h
  obtain ⟨⟨r₂, sale⟩, hrecorded, h⟩ := bind_eq_ok.1 h
  obtain ⟨r₃, hwritten, h⟩ := bind_eq_ok.1 h
  obtain ⟨⟨r₄, items⟩, hlines, h⟩ := bind_eq_ok.1 h
  obtain ⟨r₅, hreplaced, h⟩ := bind_eq_ok.1 h
  obtain ⟨customers, filed, rfl, hcustomers, hfiled, hchosen⟩ :=
    chooseCustomer_eq_ok hlabel hrunning.filed hchoose
  obtain ⟨sales₁, rfl, hagree₁, hmem, hreference, honly, hkeys₁, horigin⟩ :=
    recordedSale_eq_ok hrecorded (fun sale hsale => (huntouched sale hsale).stored)
      hconsistent.archive.references
  obtain ⟨sales, row, rfl, hsale⟩ := writeSale_eq_ok hwritten hmem
    (fun other hother hsame => honly other hother (hsame.trans hreference))
    (fun hfits => discount_stored hdesired hfits)
  have hpk : row.pk = sale.pk := ImportedSale.pk_of_kept hsale.kept
  -- what the sale finds of its lines and of its order
  have hready : Ready before references r sale.pk := by
    rcases horigin with hexisting | ⟨-, -, rfl⟩
    · obtain ⟨hstored, hreferenced, -⟩ := existing_eq_some hexisting
      exact (huntouched sale hexisting).ready hchecked hstored hreferenced
    · refine ready_of_fresh hconsistent (fun other hother => (r.archive.sales.below other hother).ne) ?_
      rw [Bool.eq_false_iff]
      intro hhistorical
      obtain ⟨other, hother, -, hsame⟩ := isHistorical_eq_true.1 hhistorical
      exact absurd hsame ((before.sales.below other hother).trans_le hnext).ne
  obtain ⟨batches, stocked, rfl, hbatches, hstocked, hbooked⟩ := bookLines_eq_ok hlines hrunning.stocked
  obtain ⟨t, added, counts, rfl, hsaved⟩ := saveLines_saved hreplaced
    ⟨hready.lines, hready.linked, hready.read, hready.known, hready.newItems, hready.newOrderItems⟩
    (hrunning.batches.trans hbatches) hbooked
  obtain ⟨hamounts, -, hcustomer⟩ := desiredOf_eq_ok hdesired
  obtain ⟨orders, orderItems, addedOrderItems, rfl, horder⟩ := saveOrder_eq_ok h hready.read hready.known
    hcustomer (discount_stored hdesired hsale.fits).1
  have hkept : ∀ reference, sale.sourceReference = some reference →
      row.sourceReference = some reference := fun reference hsame =>
    (congrArg (fun kept : ImportedSale => kept.sourceReference) hsale.kept).trans hsame
  have himported : sale.encodedAt = none ∧ sale.encodingRequestId = none := by
    rcases horigin with hexisting | ⟨-, -, rfl⟩
    · obtain ⟨hstored, hreferenced, -⟩ := existing_eq_some hexisting
      exact hchecked.manual sale hstored hreferenced
    · exact ⟨rfl, rfl⟩
  refine ⟨row, ?_⟩
  constructor
  case running =>
    exact ⟨hrunning.users, hrunning.categories, hrunning.products, hrunning.stockReturns,
      hrunning.submissions, hrunning.customers.trans hcustomers, hrunning.batches.trans hbatches, hfiled,
      hstocked⟩
  case customers => exact hcustomers
  case batches => exact hbatches
  case sales =>
    refine hagree₁.trans ?_
    have hagree := hsale.agree
    rw [hreference] at hagree
    exact hagree
  case saleKeys =>
    intro old hold
    obtain ⟨middle, hmiddle, hsame⟩ := hkeys₁ old hold
    obtain ⟨new, hnew, hsame'⟩ := hsale.keys middle hmiddle
    exact ⟨new, hnew, hsame'.trans hsame⟩
  case saleOnly =>
    intro other hother hsame
    exact hsale.only other hother (hsame.trans hreference.symm)
  case items =>
    rw [hpk]
    exact hsaved.agree
  case itemsOld => exact hsaved.old
  case newItems =>
    refine ⟨added, rfl, ?_⟩
    rw [hpk]
    exact hsaved.waiting
  case orders =>
    refine ⟨addedOrderItems, rfl, ?_⟩
    rw [hpk, hsale.columns]
    exact horder
  case ready =>
    rw [hpk]
    exact hready
  case booked =>
    refine ⟨hsale.stored, hkept _ hreference, ?_, ⟨customer, hchosen, ?_⟩, ?_, ?_, ?_, ?_, ?_, ?_⟩
    · exact ⟨(congrArg (fun kept : ImportedSale => kept.encodedAt) hsale.kept).trans himported.1,
        (congrArg (fun kept : ImportedSale => kept.encodingRequestId) hsale.kept).trans himported.2⟩
    · rw [hsale.columns]
      exact hdesired
    · rw [hsale.columns]
      exact hsale.fits
    · refine Eq.trans ?_ (congrArg (fun line => entry.lines.map line)
        (plannedLine_congr hrunning.products hrunning.categories).symm)
      rw [hpk]
      exact hsaved.booked
    · rw [hpk]
      rintro item (hitem | hitem) htransaction
      · exact hsaved.linked item hitem htransaction
      · rcases List.mem_append.1 hitem with hold | hnew
        · exact absurd htransaction (hready.newItems item hold)
        · exact (hsaved.waiting item hnew).2
    · intro line hline
      exact (isStocked_congr hrunning.products).2 (hbooked.stocked line hline)
    · rw [hpk, hsale.columns]
      exact horder.follows
    · rw [hpk]
      exact horder.fulfilled
  case origin =>
    rcases horigin with hexisting | ⟨hnone, hfree, rfl⟩
    · exact Or.inl ⟨sale, hexisting, hsale.kept⟩
    · exact Or.inr ⟨hnone, hfree, hpk⟩

end Step

/-! ## The invariant of the loop -/

/-- The loop has come to the invoices of `done`, and `pending` are still to come. -/
structure Progress (T : ProductCase) (zone : Zone) (labels : List (List Char)) (before : Archive)
    (references : List String) (done pending : List RefreshedTicket) (r : Refresh) : Prop where
  running : Running T labels before r
  consistent : r.Consistent
  sales : Table.AgreeOutside
    (fun sale => sale.isReferenced references = true ∨ before.sales.next ≤ sale.pk)
    before.sales r.archive.sales
  items : Table.AgreeOutside
    (fun item => isHistorical before references item.transaction = true ∨
      before.sales.next ≤ item.transaction)
    before.items r.archive.items
  orders : Table.AgreeOutside
    (fun order => ∃ pk, order.transaction = some pk ∧
      (isHistorical before references pk = true ∨ before.sales.next ≤ pk))
    before.orders r.archive.orders
  orderItems : Table.AgreeOutside
    (fun item => isHistoricalOrder before references item.order = true ∨
      before.orders.next ≤ item.order)
    before.orderItems r.archive.orderItems
  ordersOld : ∀ order ∈ r.archive.orders.rows,
    (∃ old ∈ before.orders.rows, old.pk = order.pk ∧ old.transaction = order.transaction) ∨
      before.orders.next ≤ order.pk
  planned : ∀ sale ∈ r.archive.sales.rows,
    sale.isReferenced references = true ∨ before.sales.next ≤ sale.pk →
      ∃ entry ∈ done ++ pending, sale.sourceReference = some entry.source.reference
  untouched : ∀ entry ∈ pending, ∀ sale, existing before references entry.source.reference = some sale →
    Untouched before r sale
  booked : ∀ entry ∈ done, ∃ sale, Booked T zone labels r.archive r.newItems entry sale ∧
    ∀ old, existing before references entry.source.reference = some old → sale.kept = old.kept

section Invariant

variable {T : ProductCase} {zone : Zone} {labels : List (List Char)} {before : Archive}
  {references : List String} {owner : Nat} {now : Int} {entry : RefreshedTicket} {r r' : Refresh} {sale : ImportedSale}

theorem TicketEffect.newSaleKept (h : TicketEffect T zone labels before references entry r r' sale) :
    ∀ old, existing before references entry.source.reference = some old → sale.kept = old.kept := by
  intro old hold
  rcases h.origin with ⟨other, hother, hkept⟩ | ⟨hnone, -⟩
  · rw [hold, Option.some.injEq] at hother
    rw [hkept, hother]
  · rw [hold] at hnone
    cases hnone

/-- The sale of an invoice is historical or new. -/
theorem TicketEffect.touched (h : TicketEffect T zone labels before references entry r r' sale)
    (hnext : before.sales.next ≤ r.archive.sales.next) :
    isHistorical before references sale.pk = true ∨ before.sales.next ≤ sale.pk := by
  rcases h.origin with ⟨old, hold, hkept⟩ | ⟨-, -, hpk⟩
  · obtain ⟨hmem, hreferenced, -⟩ := existing_eq_some hold
    exact Or.inl (isHistorical_eq_true.2 ⟨old, hmem, hreferenced, (ImportedSale.pk_of_kept hkept).symm⟩)
  · exact Or.inr (hpk ▸ hnext)

/-- So is every sale under its reference, before and after. -/
theorem TicketEffect.touched_reference (h : TicketEffect T zone labels before references entry r r' sale)
    (hnext : before.sales.next ≤ r.archive.sales.next) {other : ImportedSale}
    (hother : other ∈ r.archive.sales.rows ∨ other ∈ r'.archive.sales.rows)
    (hreference : other.sourceReference = some entry.source.reference) :
    other.isReferenced references = true ∨ before.sales.next ≤ other.pk := by
  rcases h.origin with ⟨old, hold, -⟩ | ⟨-, hfree, hpk⟩
  · obtain ⟨-, hreferenced, hsame⟩ := existing_eq_some hold
    unfold ImportedSale.isReferenced at hreferenced ⊢
    rw [hreference, ← hsame]
    exact Or.inl hreferenced
  · rcases hother with hbefore | hafter
    · exact absurd hreference (hfree other hbefore)
    · rw [h.saleOnly other hafter hreference]
      exact Or.inr (hpk ▸ hnext)

/-- A sale under another reference has another key. -/
theorem TicketEffect.pk_ne (h : TicketEffect T zone labels before references entry r r' sale)
    {other : ImportedSale} (hother : other ∈ r.archive.sales.rows)
    (hreference : other.sourceReference ≠ some entry.source.reference) :
    other ∈ r'.archive.sales.rows ∧ other.pk ≠ sale.pk := by
  have hmem := h.sales.mem hother hreference
  refine ⟨hmem, ?_⟩
  intro hpk
  rw [r'.archive.sales.eq_of_pk_eq hmem h.booked.stored hpk] at hreference
  exact hreference h.booked.reference

theorem ChosenFor.appended {t t' : Table CustomerRecord} (h : t.Appended t') {label : List Char}
    {customer : Option CustomerRecord} (hchosen : ChosenFor T labels t label customer) :
    ChosenFor T labels t' label customer := by
  cases customer with
  | none => exact hchosen
  | some c => exact ⟨h.mem hchosen.1, hchosen.2⟩

/-- What is booked stays booked when an invoice with another reference is processed. -/
theorem Booked.preserved {other : RefreshedTicket} {otherSale : ImportedSale}
    (hbooked : Booked T zone labels r.archive r.newItems other otherSale) (hrunning : Running T labels before r)
    (h : TicketEffect T zone labels before references entry r r' sale)
    (hne : other.source.reference ≠ entry.source.reference) :
    Booked T zone labels r'.archive r'.newItems other otherSale := by
  have hreference : otherSale.sourceReference ≠ some entry.source.reference := by
    rw [hbooked.reference]
    exact fun hsame => hne (Option.some.inj hsame)
  obtain ⟨hstored, hpk⟩ := h.pk_ne hbooked.stored hreference
  obtain ⟨added, hadded, haddedOf⟩ := h.newItems
  obtain ⟨_, -, horders⟩ := h.orders
  have hproducts : r'.archive.products = r.archive.products :=
    h.running.products.trans hrunning.products.symm
  have hcategories : r'.archive.categories = r.archive.categories :=
    h.running.categories.trans hrunning.categories.symm
  have horder : ∀ order : ImportedOrder, order.transaction = some otherSale.pk →
      (order ∈ r'.archive.orders.rows ↔ order ∈ r.archive.orders.rows) := by
    intro order htransaction
    refine horders.agree.same order ?_
    rw [htransaction]
    exact fun hsame => hpk (Option.some.inj hsame)
  have hwaiting : ∀ item, item ∈ r'.archive.items.rows ∨ item ∈ r'.newItems →
      item.transaction = otherSale.pk → item ∈ r.archive.items.rows ∨ item ∈ r.newItems := by
    rintro item (hitem | hitem) htransaction
    · exact Or.inl (h.itemsOld item hitem)
    · rw [hadded] at hitem
      rcases List.mem_append.1 hitem with hold | hnew
      · exact Or.inr hold
      · exact absurd (htransaction.symm.trans (haddedOf item hnew).1) hpk
  refine ⟨hstored, hbooked.reference, hbooked.imported, ?_, hbooked.fits, ?_, ?_, ?_, ?_, ?_⟩
  · obtain ⟨customer, hchosen, hcolumns⟩ := hbooked.columns
    exact ⟨customer, hchosen.appended h.customers, hcolumns⟩
  · have hscan : (r'.archive.items.scan fun item => item.transaction == otherSale.pk) =
        r.archive.items.scan fun item => item.transaction == otherSale.pk := by
      refine h.items.scan ?_
      intro item htransaction hsame
      exact hpk ((beq_iff_eq.1 htransaction).symm.trans hsame)
    have hnone : (added.filter fun item => item.transaction == otherSale.pk) = [] := by
      refine List.filter_eq_nil_iff.2 ?_
      intro item hitem htransaction
      exact hpk ((beq_iff_eq.1 htransaction).symm.trans (haddedOf item hitem).1)
    rw [plannedLine_congr hproducts hcategories, ← hbooked.lines, bookedLines, bookedLines, hscan, hadded,
      List.filter_append, hnone, List.append_nil]
    refine List.map_congr_left ?_
    intro item hitem
    have hlinked : IsLinked r.archive.batches item := by
      rcases List.mem_append.1 hitem with hold | hnew
      · obtain ⟨hmem, htransaction⟩ := Table.mem_scan.1 hold
        exact hbooked.linked item (Or.inl hmem) (beq_iff_eq.1 htransaction)
      · obtain ⟨hmem, htransaction⟩ := List.mem_filter.1 hnew
        exact hbooked.linked item (Or.inr hmem) (beq_iff_eq.1 htransaction)
    rw [lineSignature_of_appended h.batches hlinked.batch]
  · intro item hitem htransaction
    exact (hbooked.linked item (hwaiting item hitem htransaction) htransaction).appended h.batches
  · intro line hline
    obtain ⟨product, hproduct, batch, hbatch, hof⟩ := hbooked.stocked line hline
    exact (isStocked_congr hproducts).2 ⟨product, hproduct, batch, h.batches.mem hbatch, hof⟩
  · have hfollows := hbooked.order
    unfold OrderFollows at hfollows ⊢
    cases hcustomer : otherSale.columns.customer with
    | none =>
        rw [hcustomer] at hfollows
        intro order hmem htransaction
        exact hfollows order ((horder order htransaction).1 hmem) htransaction
    | some customer =>
        rw [hcustomer] at hfollows
        obtain ⟨order, hmem, htransaction, hfields⟩ := hfollows
        exact ⟨order, (horder order htransaction).2 hmem, htransaction, hfields⟩
  · intro order hmem htransaction
    exact hbooked.fulfilled order ((horder order htransaction).1 hmem) htransaction

/-- An invoice still to come is as it was read when one with another reference is processed. -/
theorem Untouched.preserved {other : ImportedSale} (huntouched : Untouched before r other)
    (h : TicketEffect T zone labels before references entry r r' sale)
    (hreference : other.sourceReference ≠ some entry.source.reference) : Untouched before r' other := by
  obtain ⟨hstored, hpk⟩ := h.pk_ne huntouched.stored hreference
  obtain ⟨added, hadded, haddedOf⟩ := h.newItems
  obtain ⟨addedOrderItems, haddedOrderItems, horders⟩ := h.orders
  have hother : ∀ order : ImportedOrder, order.transaction = some other.pk →
      ¬order.transaction = some sale.pk := by
    intro order htransaction hsame
    rw [htransaction] at hsame
    exact hpk (Option.some.inj hsame)
  have horder : ∀ order : ImportedOrder, order.transaction = some other.pk →
      (order ∈ r'.archive.orders.rows ↔ order ∈ r.archive.orders.rows) := fun order htransaction =>
    horders.agree.same order (hother order htransaction)
  refine ⟨hstored, ?_, ?_, ?_, ?_⟩
  · refine (h.items.scan ?_).trans huntouched.items
    intro item htransaction hsame
    exact hpk ((beq_iff_eq.1 htransaction).symm.trans hsame)
  · intro order htransaction
    exact (horder order htransaction).trans (huntouched.orders order htransaction)
  · intro item hitem htransaction
    rw [hadded] at hitem
    rcases List.mem_append.1 hitem with hold | hnew
    · exact huntouched.newItems item hold htransaction
    · exact hpk (htransaction.symm.trans (haddedOf item hnew).1)
  · intro item hitem order hmem htransaction hpkOrder
    rw [haddedOrderItems] at hitem
    rcases List.mem_append.1 hitem with hold | hnew
    · exact huntouched.newOrderItems item hold order ((horder order htransaction).1 hmem) htransaction
        hpkOrder
    · obtain ⟨ordered, hordered, hsale, hpkOrdered⟩ := horders.added item hnew
      rw [r'.archive.orders.eq_of_pk_eq hmem hordered (hpkOrder.trans hpkOrdered.symm)] at htransaction
      exact hother ordered htransaction hsale

/-- The tables stay consistent. -/
theorem TicketEffect.consistent (h : TicketEffect T zone labels before references entry r r' sale)
    (hconsistent : r.Consistent) : r'.Consistent := by
  obtain ⟨added, hadded, haddedOf⟩ := h.newItems
  obtain ⟨addedOrderItems, haddedOrderItems, horders⟩ := h.orders
  have hkey : ∀ pk, (∃ old ∈ r.archive.sales.rows, old.pk = pk) →
      ∃ new ∈ r'.archive.sales.rows, new.pk = pk := by
    rintro pk ⟨old, hold, hpk⟩
    obtain ⟨new, hnew, hsame⟩ := h.saleKeys old hold
    exact ⟨new, hnew, hsame.trans hpk⟩
  refine ⟨⟨?_, ?_, ?_, ?_, ?_, ?_⟩, ?_, ?_, ?_⟩
  · intro row hrow other hother hsome hsame
    by_cases hreference : row.sourceReference = some entry.source.reference
    · rw [h.saleOnly row hrow hreference, h.saleOnly other hother (hsame ▸ hreference)]
    · exact hconsistent.archive.references row ((h.sales.same row hreference).1 hrow) other
        ((h.sales.same other (hsame ▸ hreference)).1 hother) hsome hsame
  · intro row hrow other hother hsome hsame
    by_cases htransaction : row.transaction = some sale.pk
    · exact horders.once row hrow other hother htransaction (hsame ▸ htransaction)
    · exact hconsistent.archive.orderOnce row ((horders.agree.same row htransaction).1 hrow) other
        ((horders.agree.same other (hsame ▸ htransaction)).1 hother) hsome hsame
  · intro item hitem
    exact hkey _ (hconsistent.archive.itemSale item (h.itemsOld item hitem))
  · intro item hitem
    obtain ⟨batch, hbatch, hpk⟩ := hconsistent.archive.itemBatch item (h.itemsOld item hitem)
    exact ⟨batch, h.batches.mem hbatch, hpk⟩
  · intro order horder pk hpk
    by_cases htransaction : order.transaction = some sale.pk
    · rw [hpk, Option.some.injEq] at htransaction
      exact ⟨sale, h.booked.stored, htransaction.symm⟩
    · exact hkey pk (hconsistent.archive.orderSale order ((horders.agree.same order htransaction).1 horder)
        pk hpk)
  · intro item hitem
    exact horders.ordered item hitem (hconsistent.archive.orderItem item (horders.itemsOld item hitem))
  · intro item hitem
    rw [hadded] at hitem
    rcases List.mem_append.1 hitem with hold | hnew
    · exact hkey _ (hconsistent.itemSale item hold)
    · exact ⟨sale, h.booked.stored, (haddedOf item hnew).1.symm⟩
  · intro item hitem
    rw [hadded] at hitem
    rcases List.mem_append.1 hitem with hold | hnew
    · exact (hconsistent.itemLinked item hold).appended h.batches
    · exact (haddedOf item hnew).2
  · intro item hitem
    rw [haddedOrderItems] at hitem
    rcases List.mem_append.1 hitem with hold | hnew
    · obtain ⟨order, horder, hpk⟩ := hconsistent.orderItem item hold
      by_cases htransaction : order.transaction = some sale.pk
      · exact absurd hpk (h.ready.newOrderItems item hold order horder htransaction)
      · exact ⟨order, horders.agree.mem horder htransaction, hpk⟩
    · obtain ⟨order, horder, -, hpk⟩ := horders.added item hnew
      exact ⟨order, horder, hpk⟩

end Invariant

section Steps

variable {T : ProductCase} {zone : Zone} {labels : List (List Char)} {before : Archive}
  {references : List String} {owner : Nat} {now : Int} {entry : RefreshedTicket} {done pending : List RefreshedTicket} {r r' : Refresh}

/-- One more invoice is booked. -/
theorem Progress.step (hchecked : Checked before references)
    (hlabel : entry.source.customerLabel ∈ labels)
    (hnodup : (plannedReferences (done ++ entry :: pending)).Nodup)
    (h : Progress T zone labels before references done (entry :: pending) r)
    (hticket : refreshTicket T zone before references owner now r entry = .ok r') :
    Progress T zone labels before references (done ++ [entry]) pending r' := by
  obtain ⟨sale, heffect⟩ := refreshTicket_eq_ok hlabel hchecked h.running h.consistent h.sales.next
    (h.untouched entry List.mem_cons_self) hticket
  obtain ⟨added, hadded, horders⟩ := heffect.orders
  have htouched := heffect.touched h.sales.next
  have hdistinct : ∀ other ∈ done ++ pending, other.source.reference ≠ entry.source.reference := by
    unfold plannedReferences at hnodup
    rw [List.map_append, List.map_cons, List.nodup_middle, List.nodup_cons, ← List.map_append] at hnodup
    intro other hother hsame
    exact hnodup.1 (hsame ▸ List.mem_map_of_mem hother)
  have hordersOld : ∀ order ∈ r'.archive.orders.rows,
      (∃ old ∈ before.orders.rows, old.pk = order.pk ∧ old.transaction = order.transaction) ∨
        before.orders.next ≤ order.pk := by
    intro order horder
    rcases horders.origin order horder with ⟨middle, hmiddle, hpk, hsame⟩ | hnew
    · rcases h.ordersOld middle hmiddle with ⟨old, hold, hpk', hsame'⟩ | hnew
      · exact Or.inl ⟨old, hold, hpk'.trans hpk, hsame'.trans hsame⟩
      · exact Or.inr (hpk ▸ hnew)
    · exact Or.inr (h.orders.next.trans hnew)
  refine ⟨heffect.running, heffect.consistent h.consistent, ?_, ?_, ?_, ?_, ?_, ?_, ?_, ?_⟩
  · refine h.sales.trans (heffect.sales.mono ?_ ?_)
    · intro other hother hreference
      exact heffect.touched_reference h.sales.next (Or.inl hother) hreference
    · intro other hother hreference
      exact heffect.touched_reference h.sales.next (Or.inr hother) hreference
  · refine h.items.trans (heffect.items.mono ?_ ?_)
    · intro item _ htransaction
      rw [htransaction]
      exact htouched
    · intro item _ htransaction
      rw [htransaction]
      exact htouched
  · refine h.orders.trans (horders.agree.mono ?_ ?_)
    · intro order _ htransaction
      exact ⟨sale.pk, htransaction, htouched⟩
    · intro order _ htransaction
      exact ⟨sale.pk, htransaction, htouched⟩
  · -- an order of the sale is an old one of a historical sale, or new
    have hof : ∀ order : ImportedOrder, order ∈ r.archive.orders.rows ∨ order ∈ r'.archive.orders.rows →
        order.transaction = some sale.pk →
          isHistoricalOrder before references order.pk = true ∨ before.orders.next ≤ order.pk := by
      intro order horder htransaction
      have horigin := Or.elim horder (h.ordersOld order) (hordersOld order)
      refine horigin.imp_left ?_
      rintro ⟨old, hold, hpk, hsame⟩
      refine isHistoricalOrder_eq_true.2 ⟨old, hold, sale.pk, hsame.trans htransaction, ?_, hpk⟩
      refine htouched.resolve_right ?_
      obtain ⟨historical, hhistorical, hpkSale⟩ :=
        hchecked.consistent.orderSale old hold sale.pk (hsame.trans htransaction)
      rw [← hpkSale]
      exact (before.sales.below historical hhistorical).not_ge
    refine h.orderItems.trans (horders.items.mono ?_ ?_)
    · rintro item - ⟨order, horder, htransaction, hpk⟩
      exact hpk ▸ hof order horder htransaction
    · rintro item - ⟨order, horder, htransaction, hpk⟩
      exact hpk ▸ hof order horder htransaction
  · exact hordersOld
  · intro other hother htouchedOther
    by_cases hreference : other.sourceReference = some entry.source.reference
    · exact ⟨entry, by simp, hreference⟩
    · obtain ⟨planned, hplanned, hsame⟩ :=
        h.planned other ((heffect.sales.same other hreference).1 hother) htouchedOther
      refine ⟨planned, ?_, hsame⟩
      simpa using hplanned
  · intro other hother otherSale hexisting
    refine (h.untouched other (List.mem_cons_of_mem _ hother) otherSale hexisting).preserved heffect ?_
    rw [(existing_eq_some hexisting).2.2]
    intro hsame
    exact hdistinct other (List.mem_append_right _ hother) (Option.some.inj hsame)
  · intro other hother
    rcases List.mem_append.1 hother with hold | hnew
    · obtain ⟨otherSale, hbooked, hkept⟩ := h.booked other hold
      exact ⟨otherSale, hbooked.preserved h.running heffect
        (hdistinct other (List.mem_append_left _ hold)), hkept⟩
    · rw [List.mem_singleton.1 hnew]
      exact ⟨sale, heffect.booked, heffect.newSaleKept⟩

end Steps

end Importers
end RosarioDairy
