import RosarioDairy.Sales.Importers.RefreshSafety

/-!
# RepeatedRefresh — refreshing twice

A refresh finds every planned invoice as the previous one has left it: the same plan changes nothing, as
long as the name that a customer was created under has the key of its label.
-/

namespace RosarioDairy
namespace Importers

open CustomerNames Foundations
open CustomerConsolidation (CustomerRecord)

/-! ## Nothing to remove -/

section Removal

variable {a : Archive}

theorem deleteOrders_none {p : ImportedOrder → Bool} (h : ∀ order ∈ a.orders.rows, p order = false) :
    a.deleteOrders p = .ok a := by
  have hnone : ∀ order ∈ a.orders.rows, ¬p order = true := by
    intro order horder hp
    rw [h order horder] at hp
    cases hp
  refine require_bind_eq_ok.2 ⟨fun _ _ order horder hp => absurd hp (hnone order horder), ?_⟩
  rw [Table.deleteWhere_eq_self h, Table.deleteWhere_eq_self]
  · rfl
  · intro item _
    refine List.any_eq_false.2 ?_
    intro order horder hboth
    rw [Bool.and_eq_true] at hboth
    exact hnone order horder hboth.1

theorem deleteItems_none {p : ImportedItem → Bool} (h : ∀ item ∈ a.items.rows, p item = false) :
    a.deleteItems p = .ok a := by
  refine require_bind_eq_ok.2 ⟨?_, ?_⟩
  · intro _ _ item hitem hp
    rw [h item hitem] at hp
    cases hp
  · rw [Table.deleteWhere_eq_self h]
    rfl

theorem deleteSales_none {p : ImportedSale → Bool} (h : ∀ sale ∈ a.sales.rows, p sale = false) :
    a.deleteSales p = .ok a := by
  have hnone : ∀ pk, (a.sales.rows.any fun sale => p sale && sale.pk == pk) = false := by
    intro pk
    refine List.any_eq_false.2 ?_
    intro sale hsale hboth
    rw [h sale hsale] at hboth
    cases hboth
  refine require_bind_eq_ok.2 ⟨⟨fun item _ => hnone item.transaction,
    fun submission _ => hnone submission.transaction⟩, ?_⟩
  rw [Table.deleteWhere_eq_self h, Table.updateWhere_eq_self]
  · rfl
  · intro order _
    cases order.transaction with
    | none => rfl
    | some pk => exact hnone pk

theorem removeUnwanted_none {parsed : ParseResult} {planned : List RefreshedTicket}
    (h : ∀ sale ∈ a.sales.rows, isRemoved parsed planned sale = false) :
    removeUnwanted parsed planned a = .ok a := by
  have hkey : ∀ pk, isRemovedKey parsed planned a pk = false := by
    intro pk
    refine List.any_eq_false.2 ?_
    intro sale hsale hboth
    rw [h sale hsale] at hboth
    cases hboth
  refine bind_eq_ok.2 ⟨a, deleteOrders_none ?_, bind_eq_ok.2 ⟨a, deleteItems_none ?_, deleteSales_none h⟩⟩
  · intro order _
    cases order.transaction with
    | none => rfl
    | some pk => exact hkey pk
  · exact fun item _ => hkey item.transaction

end Removal

/-! ## Nothing to rewrite -/

section Repeat

variable {T : ProductCase} {zone : Zone} {parsed : ParseResult} {planned : List RefreshedTicket}
  {a : Archive} {owner : Nat} {now : Int} {entry : RefreshedTicket} {sale : ImportedSale}

/-- The name that a label stands for has the key of the label. -/
def KeyStable (T : ProductCase) (label : List Char) : Prop :=
  ∀ name, canonicalCustomer T.toUnicode label = some name →
    customerKey T.toUnicode name = customerKey T.toUnicode label

/-- The dictionaries are those of the stored tables. -/
structure AsStored (T : ProductCase) (a : Archive) (r : Refresh) : Prop where
  archive : r.archive = a
  customers : ∀ key, r.customers key =
    a.customers.rows.filter fun c => customerKey T.toUnicode c.name == some key
  batches : ∀ product, r.batches product =
    (a.batches.scan fun batch => batch.isHistoricalReference).find? fun batch => batch.product == product

theorem filed_key {labels : List (List Char)} (hstable : ∀ label ∈ labels, KeyStable T label)
    {key name : List Char} (h : FiledUnder T labels key name) :
    customerKey T.toUnicode name = some key := by
  rcases h with hkey | ⟨label, hlabel, hkey, hname⟩
  · exact hkey
  · obtain ⟨-, -, hcustomer⟩ := labelKey_eq_some hkey
    rw [hstable label hlabel name hname, hcustomer]

/-- The customer of the stored sale is chosen again. -/
theorem chooseCustomer_again {labels : List (List Char)} (hstable : ∀ label ∈ labels, KeyStable T label)
    {r : Refresh} (hstored : AsStored T a r) {label : List Char} {customer : Option CustomerRecord}
    (hchosen : ChosenFor T labels a.customers label customer)
    (hsale : sale.customer = customer.map CustomerRecord.pk) :
    chooseCustomer T owner now (some sale) label r = .ok (r, customer) := by
  unfold chooseCustomer
  cases customer with
  | none =>
      have hkey : labelKey T label = none := hchosen
      simp only [hkey]
  | some c =>
      obtain ⟨hmem, key, hkey, hfiled⟩ := hchosen
      have hlisted : c ∈ r.customers key := by
        rw [hstored.customers, List.mem_filter]
        exact ⟨hmem, beq_iff_eq.2 (filed_key hstable hfiled)⟩
      have hfind : ((r.customers key).find? fun other =>
          (some sale).any fun sale => sale.customer == some other.pk) = some c := by
        cases hfound : (r.customers key).find? fun other =>
            (some sale).any fun sale => sale.customer == some other.pk with
        | none =>
            have hno := List.find?_eq_none.1 hfound c hlisted
            simp [hsale] at hno
        | some other =>
            have hother := List.mem_of_find?_eq_some hfound
            rw [hstored.customers, List.mem_filter] at hother
            have hpk := List.find?_some hfound
            simp only [Option.any_some, beq_iff_eq, hsale, Option.map_some, Option.some.injEq] at hpk
            rw [a.customers.eq_of_pk_eq hmem hother.1 hpk]
      simp only [hkey, hfind]

theorem historical_found {r : Refresh} (hstored : AsStored T a r) {product : Nat} {batch : ProductBatch}
    (hbatch : batch ∈ a.batches.rows) (hproduct : batch.product = product)
    (hhistorical : batch.isHistoricalReference = true) : ∃ found, r.batches product = some found := by
  rw [hstored.batches, ← Option.isSome_iff_exists, List.find?_isSome]
  exact ⟨batch, Table.mem_scan.2 ⟨hbatch, hhistorical⟩, beq_iff_eq.2 hproduct⟩

/-- Lines of products with historical batches are booked without a change. -/
theorem bookLines_again {r : Refresh} (hstored : AsStored T a r) {sale : Nat} {date : Int} :
    ∀ {lines : List SourceLine}, (∀ line ∈ lines, IsStocked T a a.batches line) →
      ∃ items, bookLines T a now sale date lines r = .ok (r, items)
  | [], _ => ⟨[], rfl⟩
  | line :: lines, h => by
      obtain ⟨product, hproduct, batch, hbatch, hof, hhistorical⟩ := h line List.mem_cons_self
      obtain ⟨found, hfound⟩ := historical_found hstored hbatch hof hhistorical
      obtain ⟨items, hitems⟩ :=
        bookLines_again hstored fun other hother => h other (List.mem_cons_of_mem _ hother)
      have hread : historicalBatch now product.pk date r = .ok (r, found) := by
        simp only [historicalBatch, hfound]
      exact ⟨newItem a sale line product found :: items, demand_bind_eq_ok.2 ⟨product, hproduct,
        bind_eq_ok.2 ⟨_, hread, bind_eq_ok.2 ⟨_, hitems, rfl⟩⟩⟩⟩

theorem stocked_asStored {r : Refresh} (hstored : AsStored T a r) :
    Stocked r.archive.batches r.batches := by
  intro product batch hbatch
  rw [hstored.batches] at hbatch
  obtain ⟨hmem, hhistorical⟩ := Table.mem_scan.1 (List.mem_of_find?_eq_some hbatch)
  have hproduct : (batch.product == product) = true :=
    List.find?_some (p := fun batch : ProductBatch => batch.product == product) hbatch
  exact ⟨hstored.archive ▸ hmem, beq_iff_eq.1 hproduct, hhistorical⟩

/-- The order of a stored sale is found again. -/
theorem orderOf_of_mem {references : List String} (hconsistent : a.Consistent)
    (hhistorical : isHistorical a references sale.pk = true) {order : ImportedOrder}
    (horder : order ∈ a.orders.rows) (htransaction : order.transaction = some sale.pk) :
    orderOf a references sale.pk = some order := by
  cases hfound : orderOf a references sale.pk with
  | none =>
      have hno := List.find?_eq_none.1 hfound order horder
      simp [hhistorical, htransaction] at hno
  | some other =>
      obtain ⟨hother, -, hsame⟩ := orderOf_eq_some hfound
      rw [hconsistent.orderOnce other hother order horder (by simp [hsame])
        (hsame.trans htransaction.symm)]

/-- The order of a booked sale is left alone. -/
theorem saveOrder_again {references : List String} (hconsistent : a.Consistent)
    (hhistorical : isHistorical a references sale.pk = true)
    (hfollows : OrderFollows a.orders sale.pk sale.columns) {customer : Option CustomerRecord}
    (hcustomer : sale.columns.customer = customer.map CustomerRecord.pk) (items : List ImportedItem)
    (r : Refresh) :
    saveOrder a references owner now entry sale.pk customer sale.columns items false r = .ok r := by
  unfold OrderFollows at hfollows
  unfold saveOrder
  cases customer with
  | none =>
      rw [hcustomer] at hfollows
      have hnone : orderOf a references sale.pk = none := by
        cases hfound : orderOf a references sale.pk with
        | none => rfl
        | some order =>
            obtain ⟨horder, -, htransaction⟩ := orderOf_eq_some hfound
            exact absurd htransaction (hfollows order horder)
      simp only [hnone]
  | some c =>
      rw [hcustomer] at hfollows
      obtain ⟨order, horder, htransaction, -, hof, htype, hvalue, hcreated⟩ := hfollows
      have hfound := orderOf_of_mem hconsistent hhistorical horder htransaction
      have hunchanged : orderChanged a references sale.pk c.pk sale.columns = false := by
        simp [orderChanged, hfound, hof, htype, hvalue, hcreated]
      simp only [hunchanged, recordedOrder, hfound, ok_bind, writeOrder, Bool.or_false, Bool.false_eq_true,
        if_false]
      rfl

/-- A booked invoice is counted as unchanged, and that is all. -/
theorem refreshTicket_again {references : List String} {labels : List (List Char)}
    (hstable : ∀ label ∈ labels, KeyStable T label) (hconsistent : a.Consistent) {r : Refresh}
    (hstored : AsStored T a r) (hbooked : Booked T zone labels a [] entry sale)
    (hreference : entry.source.reference ∈ references) :
    refreshTicket T zone a references owner now r entry =
      .ok { r with counts := { r.counts with unchanged := r.counts.unchanged + 1 } } := by
  have hreferenced : sale.isReferenced references = true := by
    rw [ImportedSale.isReferenced, hbooked.reference, Option.any_some]
    exact List.contains_iff_mem.2 hreference
  have hexisting := existing_of_mem hconsistent.references hbooked.stored hreferenced hbooked.reference
  have hhistorical : isHistorical a references sale.pk = true :=
    isHistorical_eq_true.2 ⟨sale, hbooked.stored, hreferenced, rfl⟩
  obtain ⟨customer, hchosen, hdesired⟩ := hbooked.columns
  have hcustomer := (desiredOf_eq_ok hdesired).2.2
  have hcounted : countSale a references sale sale.columns entry.source.reference r.counts =
      { r.counts with unchanged := r.counts.unchanged + 1 } := by
    simp [countSale, hexisting]
  have hwritten : writeSale T sale sale.columns r = .ok r :=
    require_bind_eq_ok.2 ⟨hbooked.fits, if_pos rfl⟩
  have hcountedStored : AsStored T a { r with counts := { r.counts with
      unchanged := r.counts.unchanged + 1 } } := ⟨hstored.archive, hstored.customers, hstored.batches⟩
  obtain ⟨items, hitems⟩ : ∃ items, bookLines T a now sale.pk (entry.source.saleDate.getD 0) entry.lines
      { r with counts := { r.counts with unchanged := r.counts.unchanged + 1 } } =
        .ok ({ r with counts := { r.counts with unchanged := r.counts.unchanged + 1 } }, items) :=
    bookLines_again hcountedStored hbooked.stocked
  -- the stored lines are those that are booked again
  have hsame : oldLines a references sale.pk = items.map (lineSignature r.archive.batches) := by
    obtain ⟨batches, dictionary, hr, -, -, hlines⟩ := bookLines_eq_ok hitems (stocked_asStored hcountedStored)
    have hbatches : r.archive.batches = batches := congrArg (fun r : Refresh => r.archive.batches) hr
    refine List.map_injective_iff.2 (Option.some_injective LineSignature) ?_
    calc (oldLines a references sale.pk).map some
        = bookedLines a [] sale.pk := by
          rw [oldLines, if_pos hhistorical, bookedLines, List.filter_nil, List.append_nil, List.map_map]
          rfl
      _ = entry.lines.map (plannedLine T a) := hbooked.lines
      _ = items.map (fun item => some (lineSignature batches item)) := hlines.signatures.symm
      _ = (items.map (lineSignature r.archive.batches)).map some := by
          rw [hbatches, List.map_map]
          rfl
  refine bind_eq_ok.2 ⟨(r, customer), ?_, bind_eq_ok.2 ⟨sale.columns, hdesired, bind_eq_ok.2 ⟨(r, sale), ?_,
    bind_eq_ok.2 ⟨r, hwritten, ?_⟩⟩⟩⟩
  · rw [hexisting]
    exact chooseCustomer_again hstable hstored hchosen hcustomer
  · simp only [recordedSale, hexisting]
  · rw [hcounted]
    refine bind_eq_ok.2 ⟨_, hitems, ?_⟩
    simp only [hsame, ne_eq, not_true_eq_false, decide_false]
    exact bind_eq_ok.2 ⟨_, rfl, saveOrder_again hconsistent hhistorical hbooked.order hcustomer items _⟩

/-- All booked invoices are counted as unchanged. -/
theorem refreshTickets_again {references : List String} {labels : List (List Char)}
    (hstable : ∀ label ∈ labels, KeyStable T label) (hconsistent : a.Consistent) :
    ∀ {pending : List RefreshedTicket} {r : Refresh}, AsStored T a r →
      (∀ entry ∈ pending, (∃ sale, Booked T zone labels a [] entry sale) ∧
        entry.source.reference ∈ references) →
        pending.foldlM (refreshTicket T zone a references owner now) r =
          .ok { r with counts := { r.counts with unchanged := r.counts.unchanged + pending.length } }
  | [], r, _, _ => rfl
  | entry :: pending, r, hstored, hbooked => by
      obtain ⟨⟨sale, hsale⟩, hreference⟩ := hbooked entry List.mem_cons_self
      have hrest := refreshTickets_again hstable hconsistent
        (r := { r with counts := { r.counts with unchanged := r.counts.unchanged + 1 } })
        ⟨hstored.archive, hstored.customers, hstored.batches⟩
        fun other hother => hbooked other (List.mem_cons_of_mem _ hother)
      rw [List.foldlM_cons, refreshTicket_again hstable hconsistent hstored hsale hreference, ok_bind, hrest,
        List.length_cons, Nat.add_right_comm, Nat.add_assoc]

end Repeat

section Command

variable {T : ProductCase} {zone : Zone} {policy : Policy} {parsed : ParseResult}
  {planned : List RefreshedTicket} {audit : Audit} {adminUsername : String} {now later : Int}
  {before a : Archive} {counts : RefreshCounts}

/-- The tables that a refresh leaves pass the checks of the next one. -/
theorem checkHistory_again (hrefreshed : Refreshed T zone parsed planned a)
    (hparsed : ∀ entry ∈ planned, entry.source.reference ∈ parsed.references) :
    checkHistory a parsed.references = .ok () := by
  -- a sale of the workbooks is the one that an invoice is booked in
  have hbooked : ∀ sale ∈ a.sales.rows, sale.isReferenced parsed.references = true →
      ∃ entry ∈ planned, Booked T zone (plannedLabels planned) a [] entry sale := by
    intro sale hsale hreferenced
    obtain ⟨entry, hentry, hreference⟩ := hrefreshed.only sale hsale (Or.inl hreferenced)
    obtain ⟨booked, hbooked⟩ := hrefreshed.booked entry hentry
    obtain rfl : booked = sale := hrefreshed.consistent.references booked hbooked.stored sale hsale
      (by simp [hbooked.reference]) (hbooked.reference.trans hreference.symm)
    exact ⟨entry, hentry, hbooked⟩
  refine require_bind_eq_ok.2 ⟨?_, require_bind_eq_ok.2 ⟨?_, require_bind_eq_ok.2 ⟨?_, require_eq_ok.2 ?_⟩⟩⟩
  · intro sale hsale hworkbook
    obtain ⟨entry, hentry, hreference⟩ := hrefreshed.only sale hsale (Or.inr hworkbook)
    rw [ImportedSale.isReferenced, hreference, Option.any_some]
    exact List.contains_iff_mem.2 (hparsed entry hentry)
  · intro sale hsale hreferenced
    obtain ⟨_, -, hsaleBooked⟩ := hbooked sale hsale hreferenced
    exact hsaleBooked.imported
  · intro item hitem hhistorical batch hbatch
    obtain ⟨sale, hsale, hreferenced, hpk⟩ := isHistorical_eq_true.1 hhistorical
    obtain ⟨_, -, hsaleBooked⟩ := hbooked sale hsale hreferenced
    obtain ⟨linked, hlinked, hlinkedPk, hlinkedHistorical⟩ := hsaleBooked.linked item (Or.inl hitem) hpk.symm
    have hfound := a.batches.find_of_mem hlinked
    have hsame : a.batches.find item.productBatch = some linked := hlinkedPk ▸ hfound
    rw [hsame, Option.mem_some_iff] at hbatch
    exact hbatch ▸ hlinkedHistorical
  · intro order horder hhistorical
    obtain ⟨pk, htransaction, hsale⟩ := (Option.any_eq_true _ _).1 hhistorical
    obtain ⟨sale, hmem, hreferenced, rfl⟩ := isHistorical_eq_true.1 hsale
    obtain ⟨_, -, hsaleBooked⟩ := hbooked sale hmem hreferenced
    exact hsaleBooked.fulfilled order horder htransaction

theorem candidates_congr (hproducts : a.products = before.products) (line : SourceLine) :
    candidates T a line = candidates T before line := by
  unfold candidates
  rw [hproducts]

/-- A plan applied to the tables it has left changes nothing. -/
theorem applyPlan_again (hconsistent : before.Consistent)
    (hparsed : ∀ entry ∈ planned, entry.source.reference ∈ parsed.references)
    (hstable : ∀ entry ∈ planned, KeyStable T entry.source.customerLabel)
    (h : applyPlan T zone parsed planned adminUsername now before = .ok (a, counts)) :
    applyPlan T zone parsed planned adminUsername later a =
      .ok (a, { removed := 0, created := 0, updated := 0, unchanged := planned.length, replaced := 0 }) := by
  have happlied := applyPlan_eq_ok hconsistent h
  have hrefreshed := applyPlan_refreshed hconsistent h
  have hframed := (applyPlan_protects hconsistent h).1
  obtain ⟨owner, howner⟩ := happlied.admin
  have hkept : ∀ sale ∈ a.sales.rows, isRemoved parsed planned sale = false := by
    intro sale hsale
    cases hreferenced : sale.isReferenced parsed.references with
    | false => rw [isRemoved, hreferenced, Bool.false_and]
    | true =>
        obtain ⟨entry, hentry, hreference⟩ := hrefreshed.only sale hsale (Or.inl hreferenced)
        exact isRemoved_of_planned parsed hentry hreference
  have hnone : (a.sales.rows.filter (isRemoved parsed planned)).length = 0 := by
    rw [List.length_eq_zero_iff, List.filter_eq_nil_iff]
    intro sale hsale
    rw [hkept sale hsale]
    exact Bool.false_ne_true
  have hlabels : ∀ label ∈ plannedLabels planned, KeyStable T label := by
    intro label hlabel
    obtain ⟨entry, hentry, rfl⟩ := List.mem_map.1 hlabel
    exact hstable entry hentry
  have hproducts : checkProducts T a planned = .ok () := by
    have hsame := happlied.products
    unfold checkProducts at hsame ⊢
    simp only [candidates_congr hframed.products]
    exact hsame
  have hrun : planned.foldlM (refreshTicket T zone a parsed.references owner.pk later)
      (Refresh.start T parsed planned a a) =
        .ok { Refresh.start T parsed planned a a with
              counts := { removed := 0, created := 0, updated := 0, unchanged := planned.length,
                          replaced := 0 } } := by
    rw [refreshTickets_again hlabels hrefreshed.consistent ⟨rfl, fun _ => rfl, fun _ => rfl⟩
      fun entry hentry => ⟨hrefreshed.booked entry hentry, hparsed entry hentry⟩]
    simp only [Refresh.start, hnone, Nat.zero_add]
  have hinserted : insertRows { Refresh.start T parsed planned a a with
      counts := { removed := 0, created := 0, updated := 0, unchanged := planned.length, replaced := 0 } } =
        .ok a := by
    refine require_bind_eq_ok.2 ⟨by simp [Refresh.start], require_bind_eq_ok.2 ⟨by simp [Refresh.start], rfl⟩⟩
  unfold applyPlan
  rw [hframed.users]
  refine demand_bind_eq_ok.2 ⟨owner, howner, bind_eq_ok.2 ⟨_, checkHistory_again hrefreshed hparsed,
    bind_eq_ok.2 ⟨_, hproducts, bind_eq_ok.2 ⟨a, removeUnwanted_none hkept, bind_eq_ok.2 ⟨_, hrun,
      bind_eq_ok.2 ⟨a, hinserted, bind_eq_ok.2 ⟨_, happlied.reconciled, rfl⟩⟩⟩⟩⟩⟩⟩

/-- Refreshing again from the same workbooks, at any later time, leaves every table as it is and counts each
planned invoice as unchanged. -/
theorem refresh_again (hconsistent : before.Consistent) (D : Digests)
    (hplan : buildPlan T policy parsed = .ok (planned, audit))
    (hstable : ∀ entry ∈ planned, KeyStable T entry.source.customerLabel)
    (h : refreshAnnualSales D T zone policy parsed adminUsername now before = .ok (a, counts)) (later : Int) :
    refreshAnnualSales D T zone policy parsed adminUsername later a =
      .ok (a, { removed := 0, created := 0, updated := 0, unchanged := planned.length, replaced := 0 }) := by
  have happlied : applyPlan T zone parsed planned adminUsername now before = .ok (a, counts) := by
    unfold refreshAnnualSales at h
    rw [hplan, ok_bind] at h
    obtain ⟨⟨a', counts'⟩, happlied, h⟩ := bind_eq_ok.1 h
    obtain ⟨_, -, h⟩ := bind_eq_ok.1 h
    obtain ⟨rfl, rfl⟩ := pure_pair_eq_ok.1 h
    exact happlied
  exact refreshAnnualSales_eq_ok (applyPlan_refreshed hconsistent happlied).consistent D hplan
    (applyPlan_again hconsistent (planned_parsed hplan).1 hstable happlied)

end Command

/-- The outlet is filed under its own name. -/
theorem mixedEntry_stable : ∀ entry ∈ retainedOf [mixedEntry],
    KeyStable ProductCase.ascii entry.source.customerLabel := by
  have hlabels : (retainedOf [mixedEntry]).map (fun entry => entry.source.customerLabel) =
      ["Outlet Sales".toList] := by decide +kernel
  have hname : canonicalCustomer ProductCase.ascii.toUnicode "Outlet Sales".toList =
      some "Outlet Sales".toList := by decide +kernel
  intro entry hentry name hcanonical
  have hlabel : entry.source.customerLabel ∈ ["Outlet Sales".toList] :=
    hlabels ▸ List.mem_map_of_mem hentry
  rw [List.mem_singleton] at hlabel
  rw [hlabel, hname, Option.some.injEq] at hcanonical
  rw [hlabel, ← hcanonical]

theorem refresh_again_sample : ∃ a counts,
    refreshAnnualSales sampleDigests ProductCase.ascii Zone.fixed samplePolicy mixedParse "refresh-admin" 1000
        sampleArchive = .ok (a, counts) ∧
      refreshAnnualSales sampleDigests ProductCase.ascii Zone.fixed samplePolicy mixedParse "refresh-admin"
          2000 a =
        .ok (a, { removed := 0, created := 0, updated := 0, unchanged := 1, replaced := 0 }) := by
  obtain ⟨audit, hplan⟩ := mixedParse_plan
  obtain ⟨a, counts, happlied, -⟩ := sampleArchive_applied
  have hrefreshed := refreshAnnualSales_eq_ok sampleArchive_consistent sampleDigests hplan happlied
  exact ⟨a, counts, hrefreshed,
    refresh_again sampleArchive_consistent sampleDigests hplan mixedEntry_stable hrefreshed 2000⟩

end Importers
end RosarioDairy
