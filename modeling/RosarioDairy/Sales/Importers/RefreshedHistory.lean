import RosarioDairy.Sales.Importers.RefreshProgress

/-!
# RefreshedHistory — what a refresh leaves

After a refresh each planned invoice is booked in one sale with its lines and its order, and the workbooks
have no other sales.
-/

namespace RosarioDairy
namespace Importers

open CustomerNames Foundations
open Accounts (Users)
open CustomerConsolidation (CustomerRecord)

/-! ## References stay unique -/

section References

variable {T : ProductCase} {zone : Zone} {before : Archive} {references : List String} {owner : Nat}
  {now : Int} {r r' : Refresh}

theorem chooseCustomer_sales {sale : Option ImportedSale} {label : List Char}
    {customer : Option CustomerRecord}
    (h : chooseCustomer T owner now sale label r = .ok (r', customer)) :
    r'.archive.sales = r.archive.sales := by
  unfold chooseCustomer at h
  split at h
  · simp only [Except.ok.injEq, Prod.mk.injEq] at h
    rw [← h.1]
  · split at h
    · simp only [Except.ok.injEq, Prod.mk.injEq] at h
      rw [← h.1]
    · split at h
      · obtain ⟨-, h⟩ := require_bind_eq_ok.1 h
        rw [← (pure_pair_eq_ok.1 h).1]
      · simp only [Except.ok.injEq, Prod.mk.injEq] at h
        rw [← h.1]
      · cases h

theorem historicalBatch_sales {product : Nat} {date : Int} {batch : ProductBatch}
    (h : historicalBatch now product date r = .ok (r', batch)) :
    r'.archive.sales = r.archive.sales := by
  unfold historicalBatch at h
  split at h
  · simp only [Except.ok.injEq, Prod.mk.injEq] at h
    rw [← h.1]
  · obtain ⟨-, h⟩ := require_bind_eq_ok.1 h
    rw [← (pure_pair_eq_ok.1 h).1]

theorem bookLines_sales {sale : Nat} {date : Int} : ∀ {lines : List SourceLine} {r r' : Refresh}
    {items : List ImportedItem}, bookLines T before now sale date lines r = .ok (r', items) →
      r'.archive.sales = r.archive.sales
  | [], r, r', items, h => by
      simp only [bookLines, Except.ok.injEq, Prod.mk.injEq] at h
      rw [← h.1]
  | line :: lines, r, r', items, h => by
      unfold bookLines at h
      obtain ⟨product, -, h⟩ := demand_bind_eq_ok.1 h
      obtain ⟨⟨r₁, batch⟩, hbatch, h⟩ := bind_eq_ok.1 h
      obtain ⟨⟨r₂, rest⟩, hrest, h⟩ := bind_eq_ok.1 h
      rw [← (pure_pair_eq_ok.1 h).1, bookLines_sales hrest, historicalBatch_sales hbatch]

theorem saveLines_sales {linesChanged : Bool} {sale : Nat} {items : List ImportedItem}
    (h : saveLines linesChanged sale items r = .ok r') : r'.archive.sales = r.archive.sales := by
  unfold saveLines at h
  split at h
  · unfold replaceLines Archive.deleteItems at h
    obtain ⟨a, ha, h⟩ := bind_eq_ok.1 h
    obtain ⟨-, ha⟩ := require_bind_eq_ok.1 ha
    rw [← pure_eq_ok.1 h, ← pure_eq_ok.1 ha]
  · rw [pure_eq_ok.1 h]

theorem saveOrder_sales {entry : RefreshedTicket} {sale : Nat} {customer : Option CustomerRecord}
    {d : Desired} {items : List ImportedItem} {linesChanged : Bool}
    (h : saveOrder before references owner now entry sale customer d items linesChanged r = .ok r') :
    r'.archive.sales = r.archive.sales := by
  unfold saveOrder at h
  split at h
  · split at h
    · rw [Except.ok.inj h]
    · unfold Archive.deleteOrders at h
      obtain ⟨a, ha, h⟩ := bind_eq_ok.1 h
      obtain ⟨-, ha⟩ := require_bind_eq_ok.1 ha
      rw [← pure_eq_ok.1 h, ← pure_eq_ok.1 ha]
  · rename_i c
    obtain ⟨⟨r₁, pk⟩, hrow, h⟩ := bind_eq_ok.1 h
    have hrecorded : r₁.archive.sales = r.archive.sales := by
      unfold recordedOrder at hrow
      split at hrow
      · simp only [Except.ok.injEq, Prod.mk.injEq] at hrow
        rw [← hrow.1]
      · obtain ⟨-, hrow⟩ := require_bind_eq_ok.1 hrow
        rw [← (pure_pair_eq_ok.1 hrow).1]
    have hwritten : ∀ changed, (writeOrder changed pk c.pk d r₁).archive.sales = r₁.archive.sales := by
      intro changed
      cases changed with
      | true => rfl
      | false => rfl
    rw [← hrecorded]
    simp only [] at h
    split at h
    · rw [← pure_eq_ok.1 h]
      exact hwritten _
    · rw [← pure_eq_ok.1 h]
      exact hwritten _

/-- Writing columns keeps the references unique. -/
theorem UniqueReferences.updateChanged {t : Table ImportedSale} (hunique : UniqueReferences t)
    (p : ImportedSale → Bool) (sale : ImportedSale) (d : Desired) :
    UniqueReferences (t.updateWhere p (sale.updateChanged d)) := by
  have hkept : ∀ row, (if p row then sale.updateChanged d row else row).sourceReference =
      row.sourceReference := by
    intro row
    by_cases hp : p row = true
    · rw [if_pos hp]
      rfl
    · rw [if_neg hp]
  intro sale hsale other hother hsome hsame
  rw [Table.rows_updateWhere, List.mem_map] at hsale hother
  obtain ⟨row, hrow, rfl⟩ := hsale
  obtain ⟨row', hrow', rfl⟩ := hother
  rw [hkept] at hsome
  rw [hkept, hkept] at hsame
  rw [hunique row hrow row' hrow' hsome hsame]

theorem refreshTicket_references {entry : RefreshedTicket} (hunique : UniqueReferences r.archive.sales)
    (h : refreshTicket T zone before references owner now r entry = .ok r') :
    UniqueReferences r'.archive.sales := by
  unfold refreshTicket at h
  obtain ⟨⟨r₁, customer⟩, hchoose, h⟩ := bind_eq_ok.1 h
  obtain ⟨desired, -, h⟩ := bind_eq_ok.1 h
  obtain ⟨⟨r₂, sale⟩, hrecorded, h⟩ := bind_eq_ok.1 h
  obtain ⟨r₃, hwritten, h⟩ := bind_eq_ok.1 h
  obtain ⟨⟨r₄, items⟩, hlines, h⟩ := bind_eq_ok.1 h
  obtain ⟨r₅, hreplaced, h⟩ := bind_eq_ok.1 h
  rw [saveOrder_sales h, saveLines_sales hreplaced, bookLines_sales hlines]
  rw [← chooseCustomer_sales hchoose] at hunique
  have hunique₂ : UniqueReferences r₂.archive.sales := by
    unfold recordedSale at hrecorded
    split at hrecorded
    · simp only [Except.ok.injEq, Prod.mk.injEq] at hrecorded
      exact hrecorded.1 ▸ hunique
    · obtain ⟨-, hrecorded⟩ := require_bind_eq_ok.1 hrecorded
      obtain ⟨hfree, hrecorded⟩ := require_bind_eq_ok.1 hrecorded
      rw [← (pure_pair_eq_ok.1 hrecorded).1]
      intro row hrow other hother hsome hsame
      rcases List.mem_append.1 hrow with hold | hnew
      · rcases List.mem_append.1 hother with hold' | hnew'
        · exact hunique row hold other hold' hsome hsame
        · rw [List.mem_singleton.1 hnew'] at hsame
          exact absurd hsame (hfree row hold)
      · rcases List.mem_append.1 hother with hold' | hnew'
        · rw [List.mem_singleton.1 hnew] at hsame
          exact absurd hsame.symm (hfree other hold')
        · rw [List.mem_singleton.1 hnew, List.mem_singleton.1 hnew']
  unfold writeSale at hwritten
  obtain ⟨-, hwritten⟩ := require_bind_eq_ok.1 hwritten
  split at hwritten
  · rw [← pure_eq_ok.1 hwritten]
    exact hunique₂
  · obtain ⟨-, hwritten⟩ := require_bind_eq_ok.1 hwritten
    rw [← pure_eq_ok.1 hwritten]
    exact hunique₂.updateChanged (fun row => row.pk == sale.pk) sale desired

/-- As many sales as planned invoices are found only if the planned references are distinct. -/
theorem distinct_of_count {t : Table ImportedSale} {wanted : List String} (hunique : UniqueReferences t)
    (hcount : (t.rows.filter fun sale => sale.isReferenced wanted).length = wanted.length) :
    wanted.Nodup := by
  have hreferenced : ∀ sale : ImportedSale, sale.isReferenced wanted = true →
      ∃ reference ∈ wanted, sale.sourceReference = some reference := by
    intro sale hsale
    obtain ⟨reference, hreference, hmem⟩ := (Option.any_eq_true _ _).1 hsale
    exact ⟨reference, List.contains_iff_mem.1 hmem, hreference⟩
  have hnodup : ((t.rows.filter fun sale => sale.isReferenced wanted).map fun sale =>
      sale.sourceReference.getD "").Nodup := by
    refine List.Nodup.map_on ?_ ((List.Nodup.of_map Row.pk t.nodup).filter _)
    intro sale hsale other hother hsame
    obtain ⟨hmem, hwanted⟩ := List.mem_filter.1 hsale
    obtain ⟨hmem', hwanted'⟩ := List.mem_filter.1 hother
    obtain ⟨reference, -, hreference⟩ := hreferenced sale hwanted
    obtain ⟨reference', -, hreference'⟩ := hreferenced other hwanted'
    rw [hreference, hreference', Option.getD_some, Option.getD_some] at hsame
    exact hunique sale hmem other hmem' (by simp [hreference]) (by rw [hreference, hreference', hsame])
  have hsubset : ((t.rows.filter fun sale => sale.isReferenced wanted).map fun sale =>
      sale.sourceReference.getD "") ⊆ wanted := by
    intro name hname
    obtain ⟨sale, hsale, rfl⟩ := List.mem_map.1 hname
    obtain ⟨reference, hmem, hreference⟩ := hreferenced sale (List.mem_filter.1 hsale).2
    rw [hreference, Option.getD_some]
    exact hmem
  have hperm := (hnodup.subperm hsubset).perm_of_length_le (by rw [List.length_map, hcount])
  exact hperm.nodup_iff.1 hnodup

end References

/-! ## The run of the loop -/

section Run

variable {T : ProductCase} {zone : Zone} {labels : List (List Char)} {before : Archive}
  {references : List String} {owner : Nat} {now : Int}

theorem Progress.run (hchecked : Checked before references) :
    ∀ {pending done : List RefreshedTicket} {r r' : Refresh},
      (∀ entry ∈ pending, entry.source.customerLabel ∈ labels) → (plannedReferences (done ++ pending)).Nodup →
        Progress T zone labels before references done pending r →
          pending.foldlM (refreshTicket T zone before references owner now) r = .ok r' →
            Progress T zone labels before references (done ++ pending) [] r'
  | [], done, r, r', _, _, h, hrun => by
      obtain rfl := pure_eq_ok.1 hrun
      rwa [List.append_nil]
  | entry :: pending, done, r, r', hlabels, hnodup, h, hrun => by
      rw [List.foldlM_cons] at hrun
      obtain ⟨r₁, hticket, hrest⟩ := bind_eq_ok.1 hrun
      rw [List.append_cons] at hnodup ⊢
      refine Progress.run hchecked (fun other hother => hlabels other (List.mem_cons_of_mem _ hother)) hnodup
        (h.step hchecked (hlabels entry List.mem_cons_self) ?_ hticket) hrest
      rwa [List.append_cons]

variable {parsed : ParseResult} {planned : List RefreshedTicket} {a : Archive}

theorem isRemovedKey_eq_true {pk : Nat} : isRemovedKey parsed planned before pk = true ↔
    ∃ sale ∈ before.sales.rows, isRemoved parsed planned sale = true ∧ sale.pk = pk := by
  simp [isRemovedKey]

/-- Removal deletes the sales, with their lines and orders, and nothing else. -/
theorem removeUnwanted_eq_ok (h : removeUnwanted parsed planned before = .ok a) :
    ∃ orders, orders.rows = (before.orders.deleteWhere fun order =>
        order.transaction.any (isRemovedKey parsed planned before)).rows ∧
      orders.next = before.orders.next ∧
      a = { before with
            sales := before.sales.deleteWhere (isRemoved parsed planned)
            items := before.items.deleteWhere fun item =>
              isRemovedKey parsed planned before item.transaction
            orders := orders
            orderItems := before.orderItems.deleteWhere fun item =>
              before.orders.rows.any fun order =>
                order.transaction.any (isRemovedKey parsed planned before) && order.pk == item.order } := by
  unfold removeUnwanted Archive.deleteOrders Archive.deleteItems Archive.deleteSales at h
  obtain ⟨a₁, h₁, h⟩ := bind_eq_ok.1 h
  obtain ⟨-, h₁⟩ := require_bind_eq_ok.1 h₁
  obtain rfl := pure_eq_ok.1 h₁
  obtain ⟨a₂, h₂, h⟩ := bind_eq_ok.1 h
  obtain ⟨-, h₂⟩ := require_bind_eq_ok.1 h₂
  obtain rfl := pure_eq_ok.1 h₂
  obtain ⟨-, h⟩ := require_bind_eq_ok.1 h
  obtain rfl := pure_eq_ok.1 h
  refine ⟨_, ?_, ?_, rfl⟩
  · -- no order is left to forget its sale
    rw [Table.rows_updateWhere]
    refine (List.map_congr_left ?_).trans (List.map_id _)
    intro order horder
    refine if_neg ?_
    exact Bool.eq_false_iff.1 (Table.mem_deleteWhere.1 horder).2
  · rfl

theorem isHistorical_of_isRemovedKey {pk : Nat} (h : isRemovedKey parsed planned before pk = true) :
    isHistorical before parsed.references pk = true := by
  obtain ⟨sale, hsale, hremoved, hpk⟩ := isRemovedKey_eq_true.1 h
  unfold isRemoved at hremoved
  rw [Bool.and_eq_true] at hremoved
  exact isHistorical_eq_true.2 ⟨sale, hsale, hremoved.1, hpk⟩

/-- A stored sale goes exactly when its key does. -/
theorem isRemoved_eq_isRemovedKey {sale : ImportedSale} (hsale : sale ∈ before.sales.rows) :
    isRemoved parsed planned sale = isRemovedKey parsed planned before sale.pk := by
  rw [Bool.eq_iff_iff, isRemovedKey_eq_true]
  constructor
  · intro hremoved
    exact ⟨sale, hsale, hremoved, rfl⟩
  · rintro ⟨other, hother, hremoved, hpk⟩
    rwa [before.sales.eq_of_pk_eq hother hsale hpk] at hremoved

variable (parsed) in
/-- A planned sale stays. -/
theorem isRemoved_of_planned {sale : ImportedSale} {entry : RefreshedTicket} (hentry : entry ∈ planned)
    (hreference : sale.sourceReference = some entry.source.reference) :
    isRemoved parsed planned sale = false := by
  have hplanned : sale.isReferenced (plannedReferences planned) = true := by
    rw [ImportedSale.isReferenced, hreference, Option.any_some, List.contains_iff_mem]
    exact List.mem_map_of_mem hentry
  rw [isRemoved, hplanned, Bool.not_true, Bool.and_false]

/-- The removal leaves consistent tables. -/
theorem consistent_removed (hconsistent : before.Consistent)
    (h : removeUnwanted parsed planned before = .ok a) : a.Consistent := by
  obtain ⟨orders, horders, -, rfl⟩ := removeUnwanted_eq_ok h
  have hkept : ∀ pk, isRemovedKey parsed planned before pk = false →
      (∃ sale ∈ before.sales.rows, sale.pk = pk) →
        ∃ sale ∈ (before.sales.deleteWhere (isRemoved parsed planned)).rows, sale.pk = pk := by
    rintro pk hpk ⟨sale, hsale, rfl⟩
    exact ⟨sale, Table.mem_deleteWhere.2 ⟨hsale, (isRemoved_eq_isRemovedKey hsale).trans hpk⟩, rfl⟩
  have horder : ∀ order : ImportedOrder, order ∈ orders.rows ↔ order ∈ before.orders.rows ∧
      order.transaction.any (isRemovedKey parsed planned before) = false := by
    intro order
    rw [horders, Table.mem_deleteWhere]
  refine ⟨?_, ?_, ?_, ?_, ?_, ?_⟩
  · intro sale hsale other hother
    exact hconsistent.references sale (Table.mem_deleteWhere.1 hsale).1 other
      (Table.mem_deleteWhere.1 hother).1
  · intro order hmem other hother
    exact hconsistent.orderOnce order ((horder order).1 hmem).1 other ((horder other).1 hother).1
  · intro item hitem
    obtain ⟨hmem, hremains⟩ := Table.mem_deleteWhere.1 hitem
    exact hkept _ hremains (hconsistent.itemSale item hmem)
  · intro item hitem
    exact hconsistent.itemBatch item (Table.mem_deleteWhere.1 hitem).1
  · intro order hmem pk hpk
    obtain ⟨hold, hremains⟩ := (horder order).1 hmem
    rw [hpk, Option.any_some] at hremains
    exact hkept pk hremains (hconsistent.orderSale order hold pk hpk)
  · intro item hitem
    obtain ⟨hmem, hremains⟩ := Table.mem_deleteWhere.1 hitem
    obtain ⟨order, hold, hpk⟩ := hconsistent.orderItem item hmem
    have hnot := List.any_eq_false.1 hremains order hold
    rw [Bool.and_eq_true, not_and'] at hnot
    exact ⟨order, (horder order).2 ⟨hold, Bool.eq_false_iff.2 (hnot (beq_iff_eq.2 hpk))⟩, hpk⟩

theorem progress_start (hchecked : Checked before parsed.references)
    (h : removeUnwanted parsed planned before = .ok a) :
    Progress T zone labels before parsed.references [] planned (Refresh.start T parsed planned before a) := by
  have hconsistent := consistent_removed hchecked.consistent h
  obtain ⟨orders, horders, hnext, rfl⟩ := removeUnwanted_eq_ok h
  have horder : ∀ order : ImportedOrder, order ∈ orders.rows ↔ order ∈ before.orders.rows ∧
      order.transaction.any (isRemovedKey parsed planned before) = false := by
    intro order
    rw [horders, Table.mem_deleteWhere]
  refine ⟨?_, ⟨hconsistent, by simp [Refresh.start], by simp [Refresh.start], by simp [Refresh.start]⟩,
    ?_, ?_, ?_, ?_, ?_, ?_, ?_, by simp⟩
  · refine ⟨rfl, rfl, rfl, rfl, rfl, .refl _, .refl _, ?_, ?_⟩
    · intro key c hc
      obtain ⟨hmem, hkey⟩ := List.mem_filter.1 hc
      exact ⟨hmem, Or.inl (beq_iff_eq.1 hkey)⟩
    · intro product batch hbatch
      obtain ⟨hmem, hhistorical⟩ := Table.mem_scan.1 (List.mem_of_find?_eq_some hbatch)
      have hproduct : (batch.product == product) = true :=
        List.find?_some (p := fun batch : ProductBatch => batch.product == product) hbatch
      exact ⟨hmem, beq_iff_eq.1 hproduct, hhistorical⟩
  · refine Table.agreeOutside_deleteWhere ?_
    intro sale _ hremoved
    unfold isRemoved at hremoved
    rw [Bool.and_eq_true] at hremoved
    exact Or.inl hremoved.1
  · refine Table.agreeOutside_deleteWhere ?_
    intro item _ hremoved
    exact Or.inl (isHistorical_of_isRemovedKey hremoved)
  · refine ⟨?_, hnext.ge⟩
    intro order hnot
    refine (horder order).trans (and_iff_left ?_)
    rw [Bool.eq_false_iff]
    intro hremoved
    obtain ⟨pk, hpk, hkey⟩ := (Option.any_eq_true _ _).1 hremoved
    exact hnot ⟨pk, hpk, Or.inl (isHistorical_of_isRemovedKey hkey)⟩
  · refine Table.agreeOutside_deleteWhere ?_
    intro item _ hremoved
    obtain ⟨order, hmem, hboth⟩ := List.any_eq_true.1 hremoved
    rw [Bool.and_eq_true] at hboth
    obtain ⟨pk, hpk, hkey⟩ := (Option.any_eq_true _ _).1 hboth.1
    exact Or.inl (isHistoricalOrder_eq_true.2
      ⟨order, hmem, pk, hpk, isHistorical_of_isRemovedKey hkey, beq_iff_eq.1 hboth.2⟩)
  · intro order hmem
    exact Or.inl ⟨order, ((horder order).1 hmem).1, rfl, rfl⟩
  · intro sale hsale htouched
    obtain ⟨hmem, hremains⟩ := Table.mem_deleteWhere.1 hsale
    have hreferenced : sale.isReferenced parsed.references = true :=
      htouched.resolve_right (before.sales.below sale hmem).not_ge
    unfold isRemoved at hremains
    rw [hreferenced, Bool.true_and, Bool.not_eq_false'] at hremains
    obtain ⟨reference, hreference, hplanned⟩ := (Option.any_eq_true _ _).1 hremains
    obtain ⟨entry, hentry, rfl⟩ := List.mem_map.1 (List.contains_iff_mem.1 hplanned)
    exact ⟨entry, hentry, hreference⟩
  · intro entry hentry sale hexisting
    obtain ⟨hmem, hreferenced, hreference⟩ := existing_eq_some hexisting
    have hkept := isRemoved_of_planned parsed hentry hreference
    have hkey : isRemovedKey parsed planned before sale.pk = false :=
      (isRemoved_eq_isRemovedKey hmem).symm.trans hkept
    refine ⟨Table.mem_deleteWhere.2 ⟨hmem, hkept⟩, ?_, ?_, by simp [Refresh.start],
      by simp [Refresh.start]⟩
    · refine Table.AgreeOutside.scan (q := fun item =>
        isRemovedKey parsed planned before item.transaction = true)
        (Table.agreeOutside_deleteWhere fun _ _ hremoved => hremoved) ?_
      intro item htransaction
      rw [beq_iff_eq.1 htransaction, hkey]
      exact Bool.false_ne_true
    · intro order htransaction
      refine (horder order).trans (and_iff_left ?_)
      rw [htransaction, Option.any_some]
      exact hkey

end Run

/-! ## What is left in the end -/

section Outcome

variable {T : ProductCase} {zone : Zone} {labels : List (List Char)} {policy : Policy}
  {parsed : ParseResult} {planned : List RefreshedTicket} {audit : Audit} {adminUsername : String} {now : Int}
  {references : List String} {before a : Archive} {counts : RefreshCounts} {r : Refresh}

theorem insertRows_eq_ok (h : insertRows r = .ok a) : a =
    { r.archive with
      items := r.archive.items.createAll ImportedItem.withPk (fun _ _ => rfl) r.newItems
      orderItems := r.archive.orderItems.createAll orderItemWithPk (fun _ _ => rfl) r.newOrderItems } := by
  unfold insertRows at h
  obtain ⟨-, h⟩ := require_bind_eq_ok.1 h
  obtain ⟨-, h⟩ := require_bind_eq_ok.1 h
  exact (pure_eq_ok.1 h).symm

/-- The waiting rows are inserted as they were booked. -/
theorem Booked.inserted (h : insertRows r = .ok a) {entry : RefreshedTicket} {sale : ImportedSale}
    (hbooked : Booked T zone labels r.archive r.newItems entry sale) : Booked T zone labels a [] entry sale := by
  obtain rfl := insertRows_eq_ok h
  refine ⟨hbooked.stored, hbooked.reference, hbooked.imported, hbooked.columns, hbooked.fits, ?_, ?_,
    hbooked.stocked, hbooked.order, hbooked.fulfilled⟩
  · refine Eq.trans ?_ hbooked.lines
    rw [bookedLines, List.filter_nil, List.append_nil, bookedLines, List.map_append]
    refine Table.scan_createAll ?_ ?_
    · intro item pk
      rfl
    · intro item pk
      rfl
  · rintro item (hitem | hitem) htransaction
    · rcases Table.mem_createAll hitem with hold | ⟨new, hnew, pk, -, rfl⟩
      · exact hbooked.linked item (Or.inl hold) htransaction
      · exact hbooked.linked new (Or.inr hnew) htransaction
    · cases hitem

theorem Refresh.Consistent.inserted (h : insertRows r = .ok a) (hconsistent : r.Consistent) :
    a.Consistent := by
  obtain rfl := insertRows_eq_ok h
  refine ⟨hconsistent.archive.references, hconsistent.archive.orderOnce, ?_, ?_,
    hconsistent.archive.orderSale, ?_⟩
  · intro item hitem
    rcases Table.mem_createAll hitem with hold | ⟨new, hnew, pk, -, rfl⟩
    · exact hconsistent.archive.itemSale item hold
    · exact hconsistent.itemSale new hnew
  · intro item hitem
    rcases Table.mem_createAll hitem with hold | ⟨new, hnew, pk, -, rfl⟩
    · exact hconsistent.archive.itemBatch item hold
    · exact (hconsistent.itemLinked new hnew).batch
  · intro item hitem
    rcases Table.mem_createAll hitem with hold | ⟨new, hnew, pk, -, rfl⟩
    · exact hconsistent.archive.orderItem item hold
    · exact hconsistent.orderItem new hnew

/-- The labels of the planned invoices. -/
def plannedLabels (planned : List RefreshedTicket) : List (List Char) :=
  planned.map fun entry => entry.source.customerLabel

/-- A refresh that succeeds has passed the checks, before and after, and has run through the plan. -/
structure Applied (T : ProductCase) (zone : Zone) (parsed : ParseResult) (planned : List RefreshedTicket)
    (adminUsername : String) (before a : Archive) (counts : RefreshCounts) : Prop where
  admin : ∃ owner, (before.users.rows.find? fun user =>
    user.username == adminUsername && user.role == .admin && user.isActive) = some owner
  checked : Checked before parsed.references
  products : checkProducts T before planned = .ok ()
  distinct : (plannedReferences planned).Nodup
  booked : ∃ r, Progress T zone (plannedLabels planned) before parsed.references planned [] r ∧
    insertRows r = .ok a ∧ counts = r.counts
  reconciled : reconcile planned a = .ok ()

theorem applyPlan_eq_ok (hconsistent : before.Consistent)
    (h : applyPlan T zone parsed planned adminUsername now before = .ok (a, counts)) :
    Applied T zone parsed planned adminUsername before a counts := by
  unfold applyPlan at h
  obtain ⟨owner, howner, h⟩ := demand_bind_eq_ok.1 h
  obtain ⟨_, hhistory, h⟩ := bind_eq_ok.1 h
  obtain ⟨_, hproducts, h⟩ := bind_eq_ok.1 h
  obtain ⟨archive, hremoved, h⟩ := bind_eq_ok.1 h
  obtain ⟨r, hrun, h⟩ := bind_eq_ok.1 h
  obtain ⟨a', hinserted, h⟩ := bind_eq_ok.1 h
  obtain ⟨_, hreconciled, h⟩ := bind_eq_ok.1 h
  obtain ⟨rfl, rfl⟩ := pure_pair_eq_ok.1 h
  have hchecked := checkHistory_eq_ok hconsistent hhistory
  have hunique : UniqueReferences r.archive.sales := by
    refine foldlM_preserves (P := fun r : Refresh => UniqueReferences r.archive.sales)
      (fun entry _ r r' hunique hticket => refreshTicket_references hunique hticket) hrun ?_
    exact (consistent_removed hconsistent hremoved).references
  have hnodup : (plannedReferences planned).Nodup := by
    have hcount := hreconciled
    unfold reconcile at hcount
    obtain ⟨⟨hlength, -⟩, -⟩ := require_bind_eq_ok.1 hcount
    refine distinct_of_count hunique ?_
    rw [insertRows_eq_ok hinserted] at hlength
    rw [plannedReferences, List.length_map]
    exact hlength
  have hprogress : Progress T zone (plannedLabels planned) before parsed.references ([] ++ planned) [] r :=
    Progress.run hchecked (fun entry hentry => List.mem_map_of_mem hentry) hnodup
      (progress_start hchecked hremoved) hrun
  exact ⟨⟨owner, howner⟩, hchecked, hproducts, hnodup, ⟨r, hprogress, hinserted, rfl⟩, hreconciled⟩

/-- The planned invoices stem from the workbooks. -/
theorem planned_parsed (h : buildPlan T policy parsed = .ok (planned, audit)) :
    (∀ entry ∈ planned, entry.source.reference ∈ parsed.references) ∧
      audit.dairyRevenue = (planned.map RefreshedTicket.amount).sum := by
  unfold buildPlan at h
  obtain ⟨_, h⟩ := require_bind_eq_ok.1 h
  obtain ⟨entries, hentries, h⟩ := bind_eq_ok.1 h
  obtain ⟨rfl, rfl⟩ := pure_pair_eq_ok.1 h
  refine ⟨?_, rfl⟩
  intro entry hentry
  obtain ⟨plannedEntry, hplanned, hticket, -⟩ := mem_retainedOf hentry
  have hmem : plannedEntry.ticket ∈ parsed.tickets.filter (SourceTicket.sold T) := by
    rw [← map_ticket_of_mapM hentries]
    exact List.mem_map_of_mem hplanned
  rw [hticket] at hmem
  exact List.mem_map_of_mem (List.mem_filter.1 hmem).1

/-- The imported history holds the planned invoices and no others. -/
structure Refreshed (T : ProductCase) (zone : Zone) (parsed : ParseResult) (planned : List RefreshedTicket)
    (a : Archive) : Prop where
  consistent : a.Consistent
  distinct : (plannedReferences planned).Nodup
  booked : ∀ entry ∈ planned, ∃ sale, Booked T zone (plannedLabels planned) a [] entry sale
  only : ∀ sale ∈ a.sales.rows,
    (sale.isReferenced parsed.references = true ∨
      (sale.sourceReference.any fun reference => workbookReference.fullMatch reference.toList) = true) →
        ∃ entry ∈ planned, sale.sourceReference = some entry.source.reference
  revenue : ((a.sales.rows.filter fun sale => sale.isReferenced (plannedReferences planned)).map
    fun sale => sale.totalAmount).sum = (planned.map RefreshedTicket.amount).sum
  lineCount : (a.items.rows.filter fun item =>
    isHistorical a (plannedReferences planned) item.transaction).length =
      (planned.map fun entry => entry.lines.length).sum

theorem applyPlan_refreshed (hconsistent : before.Consistent)
    (h : applyPlan T zone parsed planned adminUsername now before = .ok (a, counts)) :
    Refreshed T zone parsed planned a := by
  have happlied := applyPlan_eq_ok hconsistent h
  obtain ⟨r, hprogress, hinserted, -⟩ := happlied.booked
  have hreconciled := happlied.reconciled
  unfold reconcile at hreconciled
  obtain ⟨⟨-, hrevenue⟩, hlines⟩ := require_bind_eq_ok.1 hreconciled
  refine ⟨hprogress.consistent.inserted hinserted, happlied.distinct, ?_, ?_, hrevenue,
    require_eq_ok.1 hlines⟩
  · intro entry hentry
    obtain ⟨sale, hbooked, -⟩ := hprogress.booked entry hentry
    exact ⟨sale, hbooked.inserted hinserted⟩
  · intro sale hsale hreference
    rw [insertRows_eq_ok hinserted] at hsale
    have htouched : sale.isReferenced parsed.references = true ∨ before.sales.next ≤ sale.pk := by
      rcases hreference with hreferenced | hworkbook
      · exact Or.inl hreferenced
      · by_contra hnot
        have hold := (hprogress.sales.same sale hnot).1 hsale
        exact hnot (Or.inl (happlied.checked.known sale hold hworkbook))
    obtain ⟨entry, hentry, hsame⟩ := hprogress.planned sale hsale htouched
    exact ⟨entry, List.append_nil planned ▸ hentry, hsame⟩

/-- The imported history becomes the plan: each planned invoice is booked in one sale, no other sale of the
workbooks is left, and what the sales took is the revenue of the audit. -/
theorem refresh_replaces_history (hconsistent : before.Consistent)
    (hplan : buildPlan T policy parsed = .ok (planned, audit))
    (h : applyPlan T zone parsed planned adminUsername now before = .ok (a, counts)) :
    Refreshed T zone parsed planned a ∧
      ((a.sales.rows.filter fun sale => sale.isReferenced (plannedReferences planned)).map
        fun sale => sale.totalAmount).sum = audit.dairyRevenue := by
  have hrefreshed := applyPlan_refreshed hconsistent h
  exact ⟨hrefreshed, hrefreshed.revenue.trans (planned_parsed hplan).2.symm⟩

end Outcome

/-! ## An archive with a receipt that the plan leaves out -/

def refreshAdmin (pk : Nat) : Users :=
  { pk := pk
    username := "refresh-admin"
    email := "admin@example.com"
    password := ""
    role := .admin
    isActive := true
    deactivationReason := .none
    firstName := "Ada"
    lastName := ""
    phoneNumber := none
    address := none
    failedLoginAttempts := 0
    lockedUntil := none
    lastProfileUpdateAt := none
    lastPasswordChangeAt := none
    lastLogin := none
    tokenVersion := 0 }

/-- An invoice of ice candy alone. -/
def candyInvoice : SourceTicket :=
  { mixedInvoice with
    row := 9
    lines := [{ row := 9, product := "ICE CANDY".toList, quantity := 500, unitPrice := some 1000,
                amount := some 5000 }]
    adjustments := [] }

def mixedParse : ParseResult := { sampleParse with tickets := [mixedInvoice, candyInvoice] }

/-- The candy invoice has been imported before. -/
def sampleArchive : Archive :=
  { users := Table.empty.create refreshAdmin
    categories := Table.empty.create fun pk =>
      { pk := pk, name := "Milk", isActive := true, isVisibleToStaff := true }
    products := Table.empty.create fun pk =>
      { pk := pk, category := 1, name := "Raw Milk 1L", unit := "L", variant := none, isActive := true }
    batches := Table.empty
    customers := Table.empty
    sales := Table.empty.create fun pk => { newSale 1 500 "2023:JAN:9" pk with totalAmount := 5000 }
    items := Table.empty
    orders := Table.empty
    orderItems := Table.empty
    stockReturns := Table.empty
    submissions := Table.empty }

theorem sampleArchive_consistent : sampleArchive.Consistent := by
  refine ⟨?_, ?_, ?_, ?_, ?_, ?_⟩
  · intro sale hsale other hother _ _
    rw [List.mem_singleton.1 hsale, List.mem_singleton.1 hother]
  · intro order horder
    cases horder
  · intro item hitem
    cases hitem
  · intro item hitem
    cases hitem
  · intro order horder
    cases horder
  · intro item hitem
    cases hitem

theorem mixedParse_plan : ∃ audit, buildPlan ProductCase.ascii samplePolicy mixedParse =
    .ok (retainedOf [mixedEntry], audit) := by
  have hplan : (buildPlan ProductCase.ascii samplePolicy mixedParse).toOption.map Prod.fst =
      some (retainedOf [mixedEntry]) := by decide +kernel
  obtain ⟨⟨planned, audit⟩, hsome, hfirst⟩ := Option.map_eq_some_iff.1 hplan
  obtain rfl : planned = retainedOf [mixedEntry] := hfirst
  exact ⟨audit, toOption_eq_some.1 hsome⟩

theorem sampleArchive_applied : ∃ a counts,
    applyPlan ProductCase.ascii Zone.fixed mixedParse (retainedOf [mixedEntry]) "refresh-admin" 1000
      sampleArchive = .ok (a, counts) ∧ counts.removed = 1 ∧ counts.created = 1 := by
  have happlied : (applyPlan ProductCase.ascii Zone.fixed mixedParse (retainedOf [mixedEntry]) "refresh-admin"
      1000 sampleArchive).toOption.map (fun result => (result.2.removed, result.2.created)) =
        some (1, 1) := by decide +kernel
  obtain ⟨⟨a, counts⟩, hsome, hcounts⟩ := Option.map_eq_some_iff.1 happlied
  exact ⟨a, counts, toOption_eq_some.1 hsome, congrArg Prod.fst hcounts, congrArg Prod.snd hcounts⟩

theorem refresh_replaces_history_sample : ∃ a counts audit,
    buildPlan ProductCase.ascii samplePolicy mixedParse = .ok (retainedOf [mixedEntry], audit) ∧
      applyPlan ProductCase.ascii Zone.fixed mixedParse (retainedOf [mixedEntry]) "refresh-admin"
        1000 sampleArchive = .ok (a, counts) ∧
      Refreshed ProductCase.ascii Zone.fixed mixedParse (retainedOf [mixedEntry]) a ∧
      ((a.sales.rows.filter fun sale =>
        sale.isReferenced (plannedReferences (retainedOf [mixedEntry]))).map
          fun sale => sale.totalAmount).sum = audit.dairyRevenue := by
  obtain ⟨audit, hplan⟩ := mixedParse_plan
  obtain ⟨a, counts, happlied, -⟩ := sampleArchive_applied
  exact ⟨a, counts, audit, hplan, happlied, refresh_replaces_history sampleArchive_consistent hplan happlied⟩

end Importers
end RosarioDairy
