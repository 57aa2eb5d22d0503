import RosarioDairy.Sales.Importers.RefreshedHistory

/-!
# RefreshSafety — what a refresh does not touch

The catalog, the stock, the accounts, the customers and every sale that does not stem from the workbooks
are as before, and so are the receipt, payment and cancellation of the sales that do.  The fingerprints that
the command takes therefore always agree.
-/

namespace RosarioDairy
namespace Importers

open CustomerNames Foundations
open CustomerConsolidation (CustomerRecord)

section Verification

variable {R : Type} [Row R] {t t' : Table R} {p : R → Bool} {q : R → Prop}

/-- Rows outside the changes have the fingerprint they had. -/
theorem verify_of_agree (h : t.AgreeOutside q t') (hp : ∀ row ∈ t.rows, p row = true → ¬q row)
    (digest : List R → String) (label : String) :
    (fingerprint digest p t).verify digest label t' = .ok () := by
  unfold Fingerprint.verify fingerprint
  rw [require_eq_ok]
  exact congrArg digest (h.scan_keys hp)

theorem verify_of_appended (h : t.Appended t') (digest : List R → String) (label : String) :
    (fingerprint digest (fun _ => true) t).verify digest label t' = .ok () :=
  verify_of_agree h (fun row hrow _ => (t.below row hrow).not_ge) digest label

end Verification

section Safety

variable {T : ProductCase} {zone : Zone} {labels : List (List Char)} {policy : Policy}
  {parsed : ParseResult} {planned : List RefreshedTicket} {audit : Audit} {adminUsername : String} {now : Int}
  {references : List String} {before a : Archive} {counts : RefreshCounts} {r : Refresh}

/-- The rows that a refresh may write are the historical ones and new ones. -/
structure Framed (before : Archive) (references : List String) (a : Archive) : Prop where
  users : a.users = before.users
  categories : a.categories = before.categories
  products : a.products = before.products
  stockReturns : a.stockReturns = before.stockReturns
  submissions : a.submissions = before.submissions
  customers : before.customers.Appended a.customers
  batches : before.batches.Appended a.batches
  sales : before.sales.AgreeOutside
    (fun sale => sale.isReferenced references = true ∨ before.sales.next ≤ sale.pk) a.sales
  items : before.items.AgreeOutside
    (fun item => isHistorical before references item.transaction = true ∨
      before.sales.next ≤ item.transaction ∨ before.items.next ≤ item.pk) a.items
  orders : before.orders.AgreeOutside
    (fun order => ∃ pk, order.transaction = some pk ∧
      (isHistorical before references pk = true ∨ before.sales.next ≤ pk)) a.orders
  orderItems : before.orderItems.AgreeOutside
    (fun item => isHistoricalOrder before references item.order = true ∨
      before.orders.next ≤ item.order ∨ before.orderItems.next ≤ item.pk) a.orderItems

theorem Progress.framed {done : List RefreshedTicket}
    (h : Progress T zone labels before references done [] r) (hinserted : insertRows r = .ok a) :
    Framed before references a := by
  obtain rfl := insertRows_eq_ok hinserted
  refine ⟨h.running.users, h.running.categories, h.running.products, h.running.stockReturns,
    h.running.submissions, h.running.customers, h.running.batches, h.sales, ?_, h.orders, ?_⟩
  · refine Table.AgreeOutside.trans (show Table.AgreeOutside _ before.items r.archive.items from ?_) ?_
    · exact h.items.mono (fun _ _ hq => hq.imp_right Or.inl) fun _ _ hq => hq.imp_right Or.inl
    · exact Table.AgreeOutside.mono Table.appended_createAll
        (fun _ _ hq => Or.inr (Or.inr (h.items.next.trans hq)))
        fun _ _ hq => Or.inr (Or.inr (h.items.next.trans hq))
  · refine Table.AgreeOutside.trans
      (show Table.AgreeOutside _ before.orderItems r.archive.orderItems from ?_) ?_
    · exact h.orderItems.mono (fun _ _ hq => hq.imp_right Or.inl) fun _ _ hq => hq.imp_right Or.inl
    · exact Table.AgreeOutside.mono Table.appended_createAll
        (fun _ _ hq => Or.inr (Or.inr (h.orderItems.next.trans hq)))
        fun _ _ hq => Or.inr (Or.inr (h.orderItems.next.trans hq))

theorem clear_sale {sale : ImportedSale} (hsale : sale ∈ before.sales.rows)
    (hother : (!isHistorical before references sale.pk) = true) :
    ¬(sale.isReferenced references = true ∨ before.sales.next ≤ sale.pk) := by
  rintro (hreferenced | hnew)
  · rw [isHistorical_eq_true.2 ⟨sale, hsale, hreferenced, rfl⟩] at hother
    cases hother
  · exact (before.sales.below sale hsale).not_ge hnew

theorem clear_item (hconsistent : before.Consistent) {item : ImportedItem}
    (hitem : item ∈ before.items.rows) (hother : (!isHistorical before references item.transaction) = true) :
    ¬(isHistorical before references item.transaction = true ∨ before.sales.next ≤ item.transaction ∨
      before.items.next ≤ item.pk) := by
  rintro (hhistorical | hnewSale | hnew)
  · rw [hhistorical] at hother
    cases hother
  · obtain ⟨sale, hsale, hpk⟩ := hconsistent.itemSale item hitem
    exact (before.sales.below sale hsale).not_ge (hnewSale.trans hpk.ge)
  · exact (before.items.below item hitem).not_ge hnew

theorem clear_order (hconsistent : before.Consistent) {order : ImportedOrder}
    (horder : order ∈ before.orders.rows) (hother : (!isHistoricalOrder before references order.pk) = true) :
    ¬∃ pk, order.transaction = some pk ∧
      (isHistorical before references pk = true ∨ before.sales.next ≤ pk) := by
  rintro ⟨pk, hpk, hhistorical | hnew⟩
  · rw [isHistoricalOrder_eq_true.2 ⟨order, horder, pk, hpk, hhistorical, rfl⟩] at hother
    cases hother
  · obtain ⟨sale, hsale, hsame⟩ := hconsistent.orderSale order horder pk hpk
    exact (before.sales.below sale hsale).not_ge (hnew.trans hsame.ge)

theorem clear_orderItem (hconsistent : before.Consistent) {item : OrderItem}
    (hitem : item ∈ before.orderItems.rows) (hother : (!isHistoricalOrder before references item.order) = true) :
    ¬(isHistoricalOrder before references item.order = true ∨ before.orders.next ≤ item.order ∨
      before.orderItems.next ≤ item.pk) := by
  rintro (hhistorical | hnewOrder | hnew)
  · rw [hhistorical] at hother
    cases hother
  · obtain ⟨order, horder, hpk⟩ := hconsistent.orderItem item hitem
    exact (before.orders.below order horder).not_ge (hnewOrder.trans hpk.ge)
  · exact (before.orderItems.below item hitem).not_ge hnew

/-- Framed tables pass the verification, whatever the digests. -/
theorem Framed.verified (hconsistent : before.Consistent) (h : Framed before references a) (D : Digests) :
    verifyProtected D (protectedFingerprints D references before) a = .ok () := by
  unfold verifyProtected protectedFingerprints
  simp only [h.users, h.categories, h.products, h.stockReturns, h.submissions,
    verify_of_appended h.customers, verify_of_appended h.batches,
    verify_of_appended (Table.Appended.refl _),
    verify_of_agree h.sales fun _ => clear_sale,
    verify_of_agree h.items fun _ => clear_item hconsistent,
    verify_of_agree h.orders fun _ => clear_order hconsistent,
    verify_of_agree h.orderItems fun _ => clear_orderItem hconsistent, ok_bind]

/-- What a refresh promises to keep. -/
structure Protected (before : Archive) (references wanted : List String) (a : Archive) : Prop where
  users : a.users = before.users
  categories : a.categories = before.categories
  products : a.products = before.products
  stockReturns : a.stockReturns = before.stockReturns
  submissions : a.submissions = before.submissions
  customers : ∀ c ∈ before.customers.rows, c ∈ a.customers.rows
  batches : ∀ batch ∈ before.batches.rows, batch ∈ a.batches.rows
  sales : ∀ sale ∈ before.sales.rows, isHistorical before references sale.pk = false → sale ∈ a.sales.rows
  items : ∀ item ∈ before.items.rows, isHistorical before references item.transaction = false →
    item ∈ a.items.rows
  orders : ∀ order ∈ before.orders.rows, isHistoricalOrder before references order.pk = false →
    order ∈ a.orders.rows
  orderItems : ∀ item ∈ before.orderItems.rows, isHistoricalOrder before references item.order = false →
    item ∈ a.orderItems.rows
  receipts : ∀ sale ∈ before.sales.rows, sale.isReferenced references = true →
    sale.isReferenced wanted = true → ∃ new ∈ a.sales.rows, new.kept = sale.kept

/-- The sale that is read under a reference is the only one with it. -/
theorem existing_of_mem (hunique : UniqueReferences before.sales) {sale : ImportedSale}
    {reference : String} (hsale : sale ∈ before.sales.rows)
    (hreferenced : sale.isReferenced references = true)
    (hreference : sale.sourceReference = some reference) :
    existing before references reference = some sale := by
  cases hfound : existing before references reference with
  | none =>
      have hnone := List.find?_eq_none.1 hfound sale hsale
      simp [hreferenced, hreference] at hnone
  | some other =>
      obtain ⟨hother, -, hsame⟩ := existing_eq_some hfound
      rw [hunique other hother sale hsale (by simp [hsame]) (hsame.trans hreference.symm)]

theorem applyPlan_protects (hconsistent : before.Consistent)
    (h : applyPlan T zone parsed planned adminUsername now before = .ok (a, counts)) :
    Framed before parsed.references a ∧
      Protected before parsed.references (plannedReferences planned) a := by
  obtain ⟨r, hprogress, hinserted, -⟩ := (applyPlan_eq_ok hconsistent h).booked
  have hframed := hprogress.framed hinserted
  refine ⟨hframed, hframed.users, hframed.categories, hframed.products, hframed.stockReturns,
    hframed.submissions, fun c hc => hframed.customers.mem hc, fun batch hbatch => hframed.batches.mem hbatch,
    ?_, ?_, ?_, ?_, ?_⟩
  · intro sale hsale hother
    exact hframed.sales.mem hsale (clear_sale hsale (by rw [hother]; rfl))
  · intro item hitem hother
    exact hframed.items.mem hitem (clear_item hconsistent hitem (by rw [hother]; rfl))
  · intro order horder hother
    exact hframed.orders.mem horder (clear_order hconsistent horder (by rw [hother]; rfl))
  · intro item hitem hother
    exact hframed.orderItems.mem hitem (clear_orderItem hconsistent hitem (by rw [hother]; rfl))
  · intro sale hsale hreferenced hwanted
    obtain ⟨reference, hreference, hplanned⟩ := (Option.any_eq_true _ _).1 hwanted
    obtain ⟨entry, hentry, rfl⟩ := List.mem_map.1 (List.contains_iff_mem.1 hplanned)
    obtain ⟨new, hbooked, hkept⟩ := hprogress.booked entry hentry
    refine ⟨new, (hbooked.inserted hinserted).stored, hkept sale ?_⟩
    exact existing_of_mem hconsistent.references hsale hreferenced hreference

/-- The command goes through whenever the plan can be applied. -/
theorem refreshAnnualSales_eq_ok (hconsistent : before.Consistent) (D : Digests)
    (hplan : buildPlan T policy parsed = .ok (planned, audit))
    (h : applyPlan T zone parsed planned adminUsername now before = .ok (a, counts)) :
    refreshAnnualSales D T zone policy parsed adminUsername now before = .ok (a, counts) := by
  unfold refreshAnnualSales
  rw [hplan, ok_bind]
  simp only []
  rw [h, ok_bind]
  simp only []
  rw [(applyPlan_protects hconsistent h).1.verified hconsistent D]
  rfl

/-- The command never rolls a refresh back for its fingerprints, and rightly so: what it protects is as it
was, and of the targeted receipts only the planned columns are written. -/
theorem refresh_protects (hconsistent : before.Consistent) (D : Digests)
    (hplan : buildPlan T policy parsed = .ok (planned, audit))
    (h : applyPlan T zone parsed planned adminUsername now before = .ok (a, counts)) :
    refreshAnnualSales D T zone policy parsed adminUsername now before = .ok (a, counts) ∧
      Protected before parsed.references (plannedReferences planned) a :=
  ⟨refreshAnnualSales_eq_ok hconsistent D hplan h, (applyPlan_protects hconsistent h).2⟩

end Safety

/-- The rows themselves serve as their digest. -/
def sampleDigests : Digests :=
  { users := fun rows => reprStr rows
    categories := fun rows => reprStr rows
    products := fun rows => reprStr rows
    batches := fun rows => reprStr rows
    customers := fun rows => reprStr (rows.map fun c => (c.pk, c.name, c.isActive, c.createdBy))
    sales := fun rows => reprStr rows
    items := fun rows => reprStr rows
    orders := fun rows => reprStr rows
    orderItems := fun rows => reprStr rows
    stockReturns := fun rows => reprStr rows
    submissions := fun rows => reprStr rows }

theorem refresh_protects_sample : ∃ a counts,
    refreshAnnualSales sampleDigests ProductCase.ascii Zone.fixed samplePolicy mixedParse "refresh-admin" 1000
        sampleArchive = .ok (a, counts) ∧
      Protected sampleArchive mixedParse.references (plannedReferences (retainedOf [mixedEntry])) a := by
  obtain ⟨audit, hplan⟩ := mixedParse_plan
  obtain ⟨a, counts, happlied, -⟩ := sampleArchive_applied
  exact ⟨a, counts, refresh_protects sampleArchive_consistent sampleDigests hplan happlied⟩

end Importers
end RosarioDairy
