import RosarioDairy.Sales.Importers.AppliedPlan

/-!
# RefreshSteps — what one planned invoice changes

Each part of the loop body has a lemma that says everything it can do: the customer it chooses, the
columns it stores, the lines it books and the order it leaves, and which rows it leaves alone.
-/

namespace RosarioDairy
namespace Importers

open CustomerNames Foundations
open Forecasting (roundHalfUp roundHalfUp_eq decimalContext decimalContext_exact)
open CustomerConsolidation (CustomerRecord)

/-! ## Columns -/

theorem twoPlaces_centavos (centavos : Int) : twoPlaces ((centavos : ℚ) / 100) = (centavos : ℚ) / 100 := by
  have hscaled : (centavos : ℚ) / 100 * 100 = centavos := by ring
  have hround : roundHalfUp (centavos : ℚ) = centavos := roundHalfUp_eq (by norm_num)
  rw [twoPlaces, hscaled, hround]

theorem numericFits_eq_true {digits : Nat} {centavos : Int} :
    numericFits digits centavos = true ↔ |centavos| < 10 ^ digits := decide_eq_true_iff

section Desired

variable {zone : Zone} {entry : RefreshedTicket} {customer : Option CustomerRecord} {d : Desired}

theorem desiredOf_eq_ok (h : desiredOf zone entry customer = .ok d) :
    applyAmounts entry = .ok d.amounts ∧ entry.source.saleDate ≠ none ∧
      d.customer = customer.map CustomerRecord.pk := by
  unfold desiredOf at h
  obtain ⟨amounts, hamounts, h⟩ := bind_eq_ok.1 h
  obtain ⟨date, hdate, h⟩ := demand_bind_eq_ok.1 h
  obtain rfl := pure_eq_ok.1 h
  exact ⟨hamounts, by rw [hdate]; exact Option.some_ne_none _, rfl⟩

/-- Amounts that fit their columns have an exact discount. -/
theorem applyAmounts_exact {amounts : SaleAmounts} (h : applyAmounts entry = .ok amounts)
    (hsubtotal : |amounts.subtotal| < 10 ^ 20) (htotal : |amounts.totalAmount| < 10 ^ 20) :
    amounts.discountValue = ((amounts.subtotal - amounts.totalAmount : Int) : ℚ) / 100 ∧
      amounts.discountAmount = amounts.discountValue := by
  unfold applyAmounts at h
  obtain ⟨recorded, -, h⟩ := bind_eq_ok.1 h
  obtain rfl := pure_eq_ok.1 h
  refine ⟨?_, rfl⟩
  have hsmall : |max recorded entry.amount - entry.amount| < 10 ^ 28 := by
    rw [abs_lt] at hsubtotal htotal ⊢
    simp only [saleAmounts] at hsubtotal htotal
    omega
  have hexact := decimalContext_exact 2 hsmall
  rw [show ((10 : ℚ) ^ 2) = 100 by norm_num] at hexact
  exact hexact

/-- The columns keep the discount as it is. -/
theorem discount_stored (h : desiredOf zone entry customer = .ok d) (hfits : d.fits = true) :
    twoPlaces d.amounts.discountValue = d.amounts.discountValue ∧
      twoPlaces d.amounts.discountAmount = d.amounts.discountAmount := by
  unfold Desired.fits at hfits
  simp only [Bool.and_eq_true, numericFits_eq_true] at hfits
  obtain ⟨⟨⟨⟨⟨hsubtotal, htotal⟩, -⟩, -⟩, -⟩, -⟩ := hfits
  obtain ⟨hvalue, hamount⟩ := applyAmounts_exact (desiredOf_eq_ok h).1 hsubtotal htotal
  rw [hamount, hvalue]
  exact ⟨twoPlaces_centavos _, twoPlaces_centavos _⟩

end Desired

namespace ImportedSale

theorem changed_value {α : Type} [DecidableEq α] (old new : α) : (if old ≠ new then new else old) = new := by
  by_cases h : old = new
  · rw [if_neg (not_not.2 h), h]
  · rw [if_pos h]

/-- A stored sale takes the desired columns. -/
theorem columns_updateChanged {sale : ImportedSale} {d : Desired}
    (hvalue : twoPlaces d.amounts.discountValue = d.amounts.discountValue)
    (hamount : twoPlaces d.amounts.discountAmount = d.amounts.discountAmount) :
    (sale.updateChanged d sale).columns = d := by
  unfold updateChanged columns
  simp only [hvalue, hamount, changed_value]

/-- What a refresh does not write: the receipt, its payment, its cancellation and who handled it. -/
def kept (sale : ImportedSale) : ImportedSale :=
  { sale with
    customer := none
    subtotal := 0
    discountType := ""
    discountValue := 0
    discountAmount := 0
    totalAmount := 0
    sourceInvoiceNumber := none
    sourceCustomerLabel := ""
    sourceSalesSegment := ""
    sourceNote := ""
    createdAt := 0 }

end ImportedSale

/-! ## Customers -/

/-- A name filed under a key: its own key, or that of one of the labels, for which the customer was
created. -/
def FiledUnder (T : ProductCase) (labels : List (List Char)) (key name : List Char) : Prop :=
  customerKey T.toUnicode name = some key ∨
    ∃ label ∈ labels, labelKey T label = some key ∧ canonicalCustomer T.toUnicode label = some name

/-- The customer that a label stands for. -/
def ChosenFor (T : ProductCase) (labels : List (List Char)) (customers : Table CustomerRecord)
    (label : List Char) : Option CustomerRecord → Prop
  | none => labelKey T label = none
  | some c => c ∈ customers.rows ∧ ∃ key, labelKey T label = some key ∧ FiledUnder T labels key c.name

/-- A dictionary of stored customers by key. -/
def Filed (T : ProductCase) (labels : List (List Char)) (customers : Table CustomerRecord)
    (dictionary : List Char → List CustomerRecord) : Prop :=
  ∀ key, ∀ c ∈ dictionary key, c ∈ customers.rows ∧ FiledUnder T labels key c.name

section Customers

variable {T : ProductCase} {labels : List (List Char)} {owner : Nat} {now : Int} {label : List Char}
  {r r' : Refresh} {sale : Option ImportedSale} {customer : Option CustomerRecord}

theorem labelKey_eq_some {key : List Char} (h : labelKey T label = some key) :
    ∃ name, canonicalCustomer T.toUnicode label = some name ∧
      customerKey T.toUnicode label = some key := by
  obtain ⟨hkey, -⟩ := Option.filter_eq_some_iff.1 h
  have hbind := hkey
  unfold customerKey at hbind
  obtain ⟨name, hname, -⟩ := Option.bind_eq_some_iff.1 hbind
  exact ⟨name, hname, hkey⟩

/-- Choosing a customer at most appends one to the table and to its list in the dictionary. -/
theorem chooseCustomer_eq_ok (hlabel : label ∈ labels) (hfiled : Filed T labels r.archive.customers r.customers)
    (h : chooseCustomer T owner now sale label r = .ok (r', customer)) :
    ∃ customers dictionary,
      r' = { r with
             archive := { r.archive with customers := customers }
             customers := dictionary } ∧
      r.archive.customers.Appended customers ∧ Filed T labels customers dictionary ∧ ChosenFor T labels customers label customer := by
  unfold chooseCustomer at h
  cases hkey : labelKey T label with
  | none =>
      simp only [hkey, Except.ok.injEq, Prod.mk.injEq] at h
      obtain ⟨rfl, rfl⟩ := h
      exact ⟨r.archive.customers, r.customers, rfl, .refl _, hfiled, hkey⟩
  | some key =>
      have hstored : ∀ c ∈ r.customers key,
          ChosenFor T labels r.archive.customers label (some c) := fun c hc =>
        ⟨(hfiled key c hc).1, key, hkey, (hfiled key c hc).2⟩
      simp only [hkey] at h
      split at h
      · rename_i c hfind
        simp only [Except.ok.injEq, Prod.mk.injEq] at h
        obtain ⟨rfl, rfl⟩ := h
        exact ⟨r.archive.customers, r.customers, rfl, .refl _, hfiled,
          hstored c (List.mem_of_find?_eq_some hfind)⟩
      · split at h
        · obtain ⟨-, h⟩ := require_bind_eq_ok.1 h
          obtain ⟨rfl, rfl⟩ := pure_pair_eq_ok.1 h
          obtain ⟨name, hname, -⟩ := labelKey_eq_some hkey
          have hnew : FiledUnder T labels key (newCustomer T owner now label r.archive.customers.next).name := by
            refine Or.inr ⟨label, hlabel, hkey, ?_⟩
            simp [newCustomer, hname]
          have hcreated : newCustomer T owner now label r.archive.customers.next ∈
              (r.archive.customers.create (newCustomer T owner now label)).rows := by simp
          refine ⟨_, _, rfl, Table.Appended.create, ?_, hcreated, key, hkey, hnew⟩
          intro key' c hc
          by_cases hsame : key' = key
          · subst hsame
            rw [Function.update_self, List.mem_singleton] at hc
            exact hc ▸ ⟨hcreated, hnew⟩
          · rw [Function.update_of_ne hsame] at hc
            exact ⟨List.mem_append_left _ (hfiled key' c hc).1, (hfiled key' c hc).2⟩
        · rename_i c hone
          simp only [Except.ok.injEq, Prod.mk.injEq] at h
          obtain ⟨rfl, rfl⟩ := h
          exact ⟨r.archive.customers, r.customers, rfl, .refl _, hfiled,
            hstored c (by rw [hone]; exact List.mem_singleton_self c)⟩
        · cases h

end Customers

/-! ## Sales -/

/-- What becomes of the sale that is stored under a reference. -/
structure SaleStored (desired : Desired) (sale row : ImportedSale) (t t' : Table ImportedSale) : Prop where
  agree : Table.AgreeOutside (fun other => other.sourceReference = sale.sourceReference) t t'
  keys : ∀ old ∈ t.rows, ∃ new ∈ t'.rows, new.pk = old.pk
  stored : row ∈ t'.rows
  only : ∀ other ∈ t'.rows, other.sourceReference = sale.sourceReference → other = row
  kept : row.kept = sale.kept
  columns : row.columns = desired
  fits : desired.fits = true

section Sales

variable {T : ProductCase} {before : Archive} {references : List String} {owner : Nat} {now : Int}
  {reference : String} {r r' : Refresh} {sale : ImportedSale} {desired : Desired}

theorem existing_eq_some (h : existing before references reference = some sale) :
    sale ∈ before.sales.rows ∧ sale.isReferenced references = true ∧
      sale.sourceReference = some reference := by
  have hsat := List.find?_some h
  simp only [Bool.and_eq_true, beq_iff_eq] at hsat
  exact ⟨List.mem_of_find?_eq_some h, hsat⟩

/-- A stored sale is written in place, if at all. -/
theorem writeSale_eq_ok (h : writeSale T sale desired r = .ok r') (hmem : sale ∈ r.archive.sales.rows)
    (honly : ∀ other ∈ r.archive.sales.rows, other.sourceReference = sale.sourceReference → other = sale)
    (hexact : desired.fits = true → twoPlaces desired.amounts.discountValue = desired.amounts.discountValue ∧
      twoPlaces desired.amounts.discountAmount = desired.amounts.discountAmount) :
    ∃ sales row, r' = { r with archive := { r.archive with sales := sales } } ∧
      SaleStored desired sale row r.archive.sales sales := by
  unfold writeSale at h
  obtain ⟨hfits, h⟩ := require_bind_eq_ok.1 h
  split at h
  · rename_i hsame
    obtain rfl := pure_eq_ok.1 h
    exact ⟨r.archive.sales, sale, rfl, .refl _ _, fun old hold => ⟨old, hold, rfl⟩, hmem, honly, rfl,
      hsame, hfits⟩
  · obtain ⟨-, h⟩ := require_bind_eq_ok.1 h
    obtain rfl := pure_eq_ok.1 h
    obtain ⟨hvalue, hamount⟩ := hexact hfits
    have hself : ∀ row ∈ r.archive.sales.rows, (row.pk == sale.pk) = true → row = sale :=
      fun row hrow hpk => r.archive.sales.eq_of_pk_eq hrow hmem (beq_iff_eq.1 hpk)
    refine ⟨_, sale.updateChanged desired sale, rfl, ?_, ?_, ?_, ?_, rfl,
      ImportedSale.columns_updateChanged hvalue hamount, hfits⟩
    · refine Table.agreeOutside_updateWhere ?_ ?_
      · rintro row hrow hpk
        rw [hself row hrow hpk]
      · rintro row hrow hpk
        rw [hself row hrow hpk]
        rfl
    · intro old hold
      refine ⟨_, List.mem_map_of_mem hold, ?_⟩
      by_cases hpk : (old.pk == sale.pk) = true
      · rw [if_pos hpk]
        rfl
      · rw [if_neg hpk]
    · rw [Table.rows_updateWhere, List.mem_map]
      exact ⟨sale, hmem, if_pos (beq_self_eq_true _)⟩
    · intro other hother hreference
      rw [Table.rows_updateWhere, List.mem_map] at hother
      obtain ⟨old, hold, hEq⟩ := hother
      by_cases hpk : (old.pk == sale.pk) = true
      · rw [if_pos hpk, hself old hold hpk] at hEq
        exact hEq.symm
      · rw [if_neg hpk] at hEq
        subst hEq
        rw [honly old hold hreference] at hpk
        exact absurd (beq_self_eq_true _) hpk

/-- The sale of a reference is the one that was read, or it is new. -/
theorem recordedSale_eq_ok
    (h : recordedSale before references owner now reference r = .ok (r', sale))
    (huntouched : ∀ sale, existing before references reference = some sale → sale ∈ r.archive.sales.rows)
    (hunique : ∀ sale ∈ r.archive.sales.rows, ∀ other ∈ r.archive.sales.rows,
      sale.sourceReference ≠ none → sale.sourceReference = other.sourceReference → sale = other) :
    ∃ sales, r' = { r with archive := { r.archive with sales := sales } } ∧
      Table.AgreeOutside (fun other => other.sourceReference = some reference) r.archive.sales sales ∧
      sale ∈ sales.rows ∧ sale.sourceReference = some reference ∧
      (∀ other ∈ sales.rows, other.sourceReference = some reference → other = sale) ∧
      (∀ old ∈ r.archive.sales.rows, ∃ new ∈ sales.rows, new.pk = old.pk) ∧
      (existing before references reference = some sale ∨
        existing before references reference = none ∧
          (∀ other ∈ r.archive.sales.rows, other.sourceReference ≠ some reference) ∧
          sale = newSale owner now reference r.archive.sales.next) := by
  unfold recordedSale at h
  cases hexisting : existing before references reference with
  | some old =>
      simp only [hexisting, Except.ok.injEq, Prod.mk.injEq] at h
      obtain ⟨rfl, rfl⟩ := h
      have hmem := huntouched old hexisting
      have hreference := (existing_eq_some hexisting).2.2
      refine ⟨r.archive.sales, rfl, .refl _ _, hmem, hreference, ?_, fun row hrow => ⟨row, hrow, rfl⟩,
        Or.inl rfl⟩
      intro other hother hsame
      refine hunique other hother old hmem ?_ (hsame.trans hreference.symm)
      rw [hsame]
      exact Option.some_ne_none _
  | none =>
      simp only [hexisting] at h
      obtain ⟨-, h⟩ := require_bind_eq_ok.1 h
      obtain ⟨hfree, h⟩ := require_bind_eq_ok.1 h
      obtain ⟨rfl, rfl⟩ := pure_pair_eq_ok.1 h
      refine ⟨_, rfl, Table.agreeOutside_create rfl, by simp, rfl, ?_,
        fun row hrow => ⟨row, List.mem_append_left _ hrow, rfl⟩, Or.inr ⟨rfl, hfree, rfl⟩⟩
      intro other hother hsame
      rcases List.mem_append.1 hother with hold | hnew
      · exact absurd hsame (hfree other hold)
      · exact List.mem_singleton.1 hnew

end Sales

/-! ## Lines -/

/-- What the lines of a stored item and of a planned one are compared by. -/
def plannedLine (T : ProductCase) (a : Archive) (line : SourceLine) : Option LineSignature :=
  (candidates T a line).head?.map fun product =>
    { product := some product.pk
      quantity := line.quantity
      unitPrice := line.unitPrice.getD 0
      sourceProductLabel := line.product
      sourceLineTotal := line.amount
      productIdSnapshot := some product.pk
      productNameSnapshot := some product.name
      categoryIdSnapshot := some product.category
      categoryNameSnapshot := (a.categories.find product.category).map Category.name
      productVariantSnapshot := product.variant }

/-- A dictionary of historical batches by product. -/
def Stocked (batches : Table ProductBatch) (dictionary : Nat → Option ProductBatch) : Prop :=
  ∀ product batch, dictionary product = some batch →
    batch ∈ batches.rows ∧ batch.product = product ∧ batch.isHistoricalReference = true

/-- An item is linked to a historical batch. -/
def IsLinked (batches : Table ProductBatch) (item : ImportedItem) : Prop :=
  ∃ batch ∈ batches.rows, batch.pk = item.productBatch ∧ batch.isHistoricalReference = true

/-- The product of a line has a historical batch. -/
def IsStocked (T : ProductCase) (a : Archive) (batches : Table ProductBatch) (line : SourceLine) : Prop :=
  ∃ product, (candidates T a line).head? = some product ∧
    ∃ batch ∈ batches.rows, batch.product = product.pk ∧ batch.isHistoricalReference = true

/-- The items that the lines of an invoice become. -/
structure LinesBooked (T : ProductCase) (before : Archive) (sale : Nat) (lines : List SourceLine)
    (batches : Table ProductBatch) (items : List ImportedItem) : Prop where
  signatures : items.map (fun item => some (lineSignature batches item)) = lines.map (plannedLine T before)
  transaction : ∀ item ∈ items, item.transaction = sale
  linked : ∀ item ∈ items, IsLinked batches item
  stocked : ∀ line ∈ lines, IsStocked T before batches line

section Lines

variable {T : ProductCase} {before : Archive} {now : Int} {sale : Nat} {date : Int}

theorem lineSignature_of_appended {t t' : Table ProductBatch} (h : t.Appended t') {item : ImportedItem}
    (hbatch : ∃ batch ∈ t.rows, batch.pk = item.productBatch) :
    lineSignature t' item = lineSignature t item := by
  obtain ⟨batch, hmem, hpk⟩ := hbatch
  have hold := t.find_of_mem hmem
  have hnew := h.find hmem
  unfold lineSignature
  rw [← hpk]
  exact congrArg (fun found : Option ProductBatch =>
    ({ lineSignature t item with product := found.map ProductBatch.product } : LineSignature))
    (hnew.trans hold.symm)

theorem historicalBatch_eq_ok {product : Nat} {r r' : Refresh} {batch : ProductBatch}
    (hstocked : Stocked r.archive.batches r.batches)
    (h : historicalBatch now product date r = .ok (r', batch)) :
    ∃ batches dictionary,
      r' = { r with
             archive := { r.archive with batches := batches }
             batches := dictionary } ∧
      r.archive.batches.Appended batches ∧ Stocked batches dictionary ∧
      batch ∈ batches.rows ∧ batch.product = product ∧ batch.isHistoricalReference = true := by
  unfold historicalBatch at h
  split at h
  · rename_i found hfound
    simp only [Except.ok.injEq, Prod.mk.injEq] at h
    obtain ⟨rfl, rfl⟩ := h
    exact ⟨r.archive.batches, r.batches, rfl, .refl _, hstocked, hstocked product found hfound⟩
  · obtain ⟨-, h⟩ := require_bind_eq_ok.1 h
    obtain ⟨rfl, rfl⟩ := pure_pair_eq_ok.1 h
    have hcreated : newBatch now product date r.archive.batches.next ∈
        (r.archive.batches.create (newBatch now product date)).rows := by simp
    refine ⟨_, _, rfl, Table.Appended.create, ?_, hcreated, rfl, rfl⟩
    intro other batch hbatch
    by_cases hsame : other = product
    · subst hsame
      rw [Function.update_self, Option.some.injEq] at hbatch
      exact hbatch ▸ ⟨hcreated, rfl, rfl⟩
    · rw [Function.update_of_ne hsame] at hbatch
      exact ⟨List.mem_append_left _ (hstocked other batch hbatch).1, (hstocked other batch hbatch).2⟩

/-- Booking lines at most appends batches to the table and to the dictionary. -/
theorem bookLines_eq_ok : ∀ {lines : List SourceLine} {r r' : Refresh} {items : List ImportedItem},
    bookLines T before now sale date lines r = .ok (r', items) →
      Stocked r.archive.batches r.batches →
        ∃ batches dictionary,
          r' = { r with
                 archive := { r.archive with batches := batches }
                 batches := dictionary } ∧
          r.archive.batches.Appended batches ∧ Stocked batches dictionary ∧
          LinesBooked T before sale lines batches items
  | [], r, r', items, h, hstocked => by
      simp only [bookLines, Except.ok.injEq, Prod.mk.injEq] at h
      obtain ⟨rfl, rfl⟩ := h
      exact ⟨r.archive.batches, r.batches, rfl, .refl _, hstocked, rfl, by simp, by simp, by simp⟩
  | line :: lines, r, r', items, h, hstocked => by
      unfold bookLines at h
      obtain ⟨product, hproduct, h⟩ := demand_bind_eq_ok.1 h
      obtain ⟨⟨r₁, batch⟩, hbatch, h⟩ := bind_eq_ok.1 h
      obtain ⟨⟨r₂, rest⟩, hrest, h⟩ := bind_eq_ok.1 h
      obtain ⟨rfl, rfl⟩ := pure_pair_eq_ok.1 h
      obtain ⟨batches₁, dictionary₁, rfl, happended₁, hstocked₁, hmem, hbatchProduct, hhistorical⟩ :=
        historicalBatch_eq_ok hstocked hbatch
      obtain ⟨batches, dictionary, rfl, happended, hstocked', hbooked⟩ := bookLines_eq_ok hrest hstocked₁
      have hkept := happended.mem hmem
      refine ⟨batches, dictionary, rfl, happended₁.trans happended, hstocked', ?_, ?_, ?_, ?_⟩
      · rw [List.map_cons, List.map_cons, hbooked.signatures]
        congr 1
        have hfind : batches.find batch.pk = some batch := batches.find_of_mem hkept
        simp [plannedLine, lineSignature, newItem, hproduct, hfind, hbatchProduct]
      · rintro item (_ | ⟨_, hitem⟩)
        · rfl
        · exact hbooked.transaction item hitem
      · rintro item (_ | ⟨_, hitem⟩)
        · exact ⟨batch, hkept, rfl, hhistorical⟩
        · exact hbooked.linked item hitem
      · rintro line' (_ | ⟨_, hline⟩)
        · exact ⟨product, hproduct, batch, hkept, hbatchProduct, hhistorical⟩
        · exact hbooked.stocked line' hline

end Lines

/-! ## Orders -/

/-- A sale with a customer has an order with its customer, discount and date; one without has none. -/
def OrderFollows (orders : Table ImportedOrder) (sale : Nat) (d : Desired) : Prop :=
  match d.customer with
  | none => ∀ order ∈ orders.rows, order.transaction ≠ some sale
  | some customer => ∃ order ∈ orders.rows, order.transaction = some sale ∧ order.status = .fulfilled ∧
      order.customer = customer ∧ order.discountType = d.amounts.discountType ∧
      order.discountValue = d.amounts.discountValue ∧ order.createdAt = d.createdAt

/-- The one order of a sale, in a table that agrees with `t` on the orders of other sales. -/
structure OrderRow (sale : Nat) (t t' : Table ImportedOrder) (order : ImportedOrder) : Prop where
  agree : Table.AgreeOutside (fun other => other.transaction = some sale) t t'
  stored : order ∈ t'.rows
  transaction : order.transaction = some sale
  status : order.status = .fulfilled
  only : ∀ other ∈ t'.rows, other.transaction = some sale → other = order
  keys : ∀ old ∈ t.rows, ∃ new ∈ t'.rows, new.pk = old.pk
  origin : ∀ new ∈ t'.rows,
    (∃ old ∈ t.rows, old.pk = new.pk ∧ old.transaction = new.transaction) ∨ t.next ≤ new.pk

/-- What becomes of the orders and of their items. -/
structure OrderSaved (sale : Nat) (d : Desired) (t t' : Table ImportedOrder) (u u' : Table OrderItem)
    (added : List OrderItem) : Prop where
  agree : Table.AgreeOutside (fun order => order.transaction = some sale) t t'
  once : ∀ order ∈ t'.rows, ∀ other ∈ t'.rows, order.transaction = some sale →
    other.transaction = some sale → order = other
  origin : ∀ new ∈ t'.rows,
    (∃ old ∈ t.rows, old.pk = new.pk ∧ old.transaction = new.transaction) ∨ t.next ≤ new.pk
  follows : OrderFollows t' sale d
  fulfilled : ∀ order ∈ t'.rows, order.transaction = some sale → order.status = .fulfilled
  items : Table.AgreeOutside (fun item => ∃ order, (order ∈ t.rows ∨ order ∈ t'.rows) ∧
    order.transaction = some sale ∧ order.pk = item.order) u u'
  itemsOld : ∀ item ∈ u'.rows, item ∈ u.rows
  ordered : ∀ item ∈ u'.rows, (∃ order ∈ t.rows, order.pk = item.order) →
    ∃ order ∈ t'.rows, order.pk = item.order
  added : ∀ item ∈ added, ∃ order ∈ t'.rows, order.transaction = some sale ∧ order.pk = item.order

section Orders

variable {before : Archive} {references : List String} {owner : Nat} {now : Int} {sale customer : Nat}
  {r r' : Refresh} {d : Desired} {t t' : Table ImportedOrder} {u : Table OrderItem}
  {order : ImportedOrder}

theorem orderOf_eq_some (h : orderOf before references sale = some order) :
    order ∈ before.orders.rows ∧ isHistorical before references sale = true ∧
      order.transaction = some sale := by
  have hsat := List.find?_some h
  simp only [Bool.and_eq_true, beq_iff_eq] at hsat
  exact ⟨List.mem_of_find?_eq_some h, hsat⟩

/-- The order of a sale is the one that was read, or it is new. -/
theorem recordedOrder_eq_ok {pk : Nat}
    (hread : ∀ order, orderOf before references sale = some order →
      order ∈ r.archive.orders.rows ∧ order.status = .fulfilled)
    (hknown : ∀ order ∈ r.archive.orders.rows, order.transaction = some sale →
      orderOf before references sale = some order)
    (h : recordedOrder before references owner now sale customer r = .ok (r', pk)) :
    ∃ orders order, r' = { r with archive := { r.archive with orders := orders } } ∧ order.pk = pk ∧
      OrderRow sale r.archive.orders orders order ∧
      (orderOf before references sale = some order ∨ orderOf before references sale = none) := by
  unfold recordedOrder at h
  cases hfound : orderOf before references sale with
  | some old =>
      simp only [hfound, Except.ok.injEq, Prod.mk.injEq] at h
      obtain ⟨rfl, rfl⟩ := h
      obtain ⟨hmem, hstatus⟩ := hread old hfound
      refine ⟨r.archive.orders, old, rfl, rfl, ⟨.refl _ _, hmem, (orderOf_eq_some hfound).2.2, hstatus, ?_,
        fun row hrow => ⟨row, hrow, rfl⟩, fun row hrow => Or.inl ⟨row, hrow, rfl, rfl⟩⟩, Or.inl rfl⟩
      intro other hother htransaction
      have hsame := hknown other hother htransaction
      rw [hfound, Option.some.injEq] at hsame
      exact hsame.symm
  | none =>
      simp only [hfound] at h
      obtain ⟨hfree, h⟩ := require_bind_eq_ok.1 h
      obtain ⟨rfl, rfl⟩ := pure_pair_eq_ok.1 h
      refine ⟨_, newOrder owner now sale customer r.archive.orders.next, rfl, rfl,
        ⟨Table.agreeOutside_create rfl, by simp, rfl, rfl, ?_,
          fun row hrow => ⟨row, List.mem_append_left _ hrow, rfl⟩, ?_⟩, Or.inr rfl⟩
      · intro other hother htransaction
        rcases List.mem_append.1 hother with hold | hnew
        · exact absurd htransaction (hfree other hold)
        · exact List.mem_singleton.1 hnew
      · intro new hmem
        rcases List.mem_append.1 hmem with hold | hnew
        · exact Or.inl ⟨new, hold, rfl, rfl⟩
        · rw [List.mem_singleton.1 hnew]
          exact Or.inr le_rfl

/-- Without a customer the order goes, and its items with it. -/
theorem deleteOrder_saved {a : Archive} (hread : order ∈ r.archive.orders.rows)
    (htransaction : order.transaction = some sale)
    (hknown : ∀ other ∈ r.archive.orders.rows, other.transaction = some sale → other = order)
    (hcustomer : d.customer = none)
    (h : r.archive.deleteOrders (fun row => row.pk == order.pk) = .ok a) :
    ∃ orders orderItems, a = { r.archive with
        orders := orders
        orderItems := orderItems } ∧
      OrderSaved sale d r.archive.orders orders r.archive.orderItems orderItems [] := by
  unfold Archive.deleteOrders at h
  obtain ⟨-, h⟩ := require_bind_eq_ok.1 h
  obtain rfl := pure_eq_ok.1 h
  have hself : ∀ row ∈ r.archive.orders.rows, (row.pk == order.pk) = true → row = order :=
    fun row hrow hpk => r.archive.orders.eq_of_pk_eq hrow hread (beq_iff_eq.1 hpk)
  have hgone : ∀ row ∈ (r.archive.orders.deleteWhere fun row => row.pk == order.pk).rows,
      row.transaction ≠ some sale := by
    intro row hrow hsale
    obtain ⟨hmem, hpk⟩ := Table.mem_deleteWhere.1 hrow
    rw [hknown row hmem hsale] at hpk
    simp at hpk
  refine ⟨_, _, rfl, ?_, ?_, ?_, ?_, ?_, ?_, fun item hitem => (Table.mem_deleteWhere.1 hitem).1, ?_,
    by simp⟩
  · refine Table.agreeOutside_deleteWhere ?_
    intro row hrow hpk
    rw [hself row hrow hpk]
    exact htransaction
  · intro row hrow other hother hsale
    exact absurd hsale (hgone row hrow)
  · intro row hrow
    exact Or.inl ⟨row, (Table.mem_deleteWhere.1 hrow).1, rfl, rfl⟩
  · unfold OrderFollows
    rw [hcustomer]
    exact hgone
  · intro row hrow hsale
    exact absurd hsale (hgone row hrow)
  · refine Table.agreeOutside_deleteWhere ?_
    intro item hitem hdeleted
    obtain ⟨row, hrow, hboth⟩ := List.any_eq_true.1 hdeleted
    simp only [Bool.and_eq_true, beq_iff_eq] at hboth
    refine ⟨row, Or.inl hrow, ?_, hboth.2⟩
    rw [hself row hrow (beq_iff_eq.2 hboth.1)]
    exact htransaction
  · rintro item hitem ⟨row, hrow, hpk⟩
    obtain ⟨-, hkept⟩ := Table.mem_deleteWhere.1 hitem
    refine ⟨row, Table.mem_deleteWhere.2 ⟨hrow, ?_⟩, hpk⟩
    have hnone := List.any_eq_false.1 hkept row hrow
    simp only [Bool.and_eq_true, beq_iff_eq, not_and] at hnone
    exact beq_eq_false_iff_ne.2 fun hsame => hnone hsame hpk

/-- Writing the differences of an order keeps its key and its sale. -/
theorem OrderRow.refreshed (h : OrderRow sale t t' order) :
    OrderRow sale t (t'.updateWhere (fun row => row.pk == order.pk) (ImportedOrder.refresh customer d))
      (order.refresh customer d) := by
  have hself : ∀ row ∈ t'.rows, (row.pk == order.pk) = true → row = order :=
    fun row hrow hpk => t'.eq_of_pk_eq hrow h.stored (beq_iff_eq.1 hpk)
  refine ⟨h.agree.trans (Table.agreeOutside_updateWhere ?_ ?_), ?_, h.transaction, h.status, ?_, ?_, ?_⟩
  · intro row hrow hpk
    rw [hself row hrow hpk]
    exact h.transaction
  · intro row hrow hpk
    rw [hself row hrow hpk]
    exact h.transaction
  · rw [Table.rows_updateWhere, List.mem_map]
    exact ⟨order, h.stored, if_pos (beq_self_eq_true _)⟩
  · intro other hother hsale
    rw [Table.rows_updateWhere, List.mem_map] at hother
    obtain ⟨old, hold, hEq⟩ := hother
    by_cases hpk : (old.pk == order.pk) = true
    · rw [if_pos hpk, hself old hold hpk] at hEq
      exact hEq.symm
    · rw [if_neg hpk] at hEq
      subst hEq
      rw [h.only old hold hsale] at hpk
      exact absurd (beq_self_eq_true _) hpk
  · intro old hold
    obtain ⟨row, hrow, hpk⟩ := h.keys old hold
    refine ⟨_, List.mem_map_of_mem hrow, ?_⟩
    by_cases hsame : (row.pk == order.pk) = true
    · rw [if_pos hsame]
      exact hpk
    · rw [if_neg hsame]
      exact hpk
  · intro new hnew
    rw [Table.rows_updateWhere, List.mem_map] at hnew
    obtain ⟨row, hrow, rfl⟩ := hnew
    by_cases hsame : (row.pk == order.pk) = true
    · rw [if_pos hsame]
      exact h.origin row hrow
    · rw [if_neg hsame]
      exact h.origin row hrow

/-- An order without differences has the fields it should have. -/
theorem orderChanged_eq_false (h : orderChanged before references sale customer d = false) :
    ∃ order, orderOf before references sale = some order ∧ order.customer = customer ∧
      order.discountType = d.amounts.discountType ∧ order.discountValue = d.amounts.discountValue ∧
      order.createdAt = d.createdAt := by
  unfold orderChanged at h
  cases hfound : orderOf before references sale with
  | none => simp [hfound] at h
  | some order =>
      rw [hfound] at h
      simp only [Option.all_some, Bool.or_eq_false_iff, bne_eq_false_iff_eq] at h
      exact ⟨order, rfl, h.1.1.1, h.1.1.2, h.1.2, h.2⟩

/-- The items of an order are replaced by those of the lines, or left alone. -/
theorem OrderRow.saved (h : OrderRow sale t t' order) (hfollows : OrderFollows t' sale d)
    (items : List ImportedItem) (lines : List SourceLine) :
    OrderSaved sale d t t' u (u.deleteWhere fun item => item.order == order.pk)
        (List.zipWith (newOrderItem order.pk) items lines) ∧
      OrderSaved sale d t t' u u [] := by
  have honce : ∀ row ∈ t'.rows, ∀ other ∈ t'.rows, row.transaction = some sale →
      other.transaction = some sale → row = other := by
    intro row hrow other hother hsale hsale'
    rw [h.only row hrow hsale, h.only other hother hsale']
  have hfulfilled : ∀ row ∈ t'.rows, row.transaction = some sale → row.status = .fulfilled := by
    intro row hrow hsale
    rw [h.only row hrow hsale]
    exact h.status
  have hordered : ∀ item : OrderItem, (∃ old ∈ t.rows, old.pk = item.order) →
      ∃ row ∈ t'.rows, row.pk = item.order := by
    rintro item ⟨old, hold, hpk⟩
    obtain ⟨row, hrow, hrowPk⟩ := h.keys old hold
    exact ⟨row, hrow, hrowPk.trans hpk⟩
  constructor
  · refine ⟨h.agree, honce, h.origin, hfollows, hfulfilled, Table.agreeOutside_deleteWhere ?_,
      fun item hitem => (Table.mem_deleteWhere.1 hitem).1, fun item _ => hordered item, ?_⟩
    · intro item _ hdeleted
      exact ⟨order, Or.inr h.stored, h.transaction, (beq_iff_eq.1 hdeleted).symm⟩
    · intro item hitem
      obtain ⟨k, hk, rfl⟩ := List.mem_iff_getElem.1 hitem
      exact ⟨order, h.stored, h.transaction, by simp [newOrderItem]⟩
  · exact ⟨h.agree, honce, h.origin, hfollows, hfulfilled, .refl _ _, fun item hitem => hitem,
      fun item _ => hordered item, by simp⟩

theorem saveOrder_eq_ok {entry : RefreshedTicket} {chosen : Option CustomerRecord}
    {items : List ImportedItem} {linesChanged : Bool}
    (h : saveOrder before references owner now entry sale chosen d items linesChanged r = .ok r')
    (hread : ∀ order, orderOf before references sale = some order →
      order ∈ r.archive.orders.rows ∧ order.status = .fulfilled)
    (hknown : ∀ order ∈ r.archive.orders.rows, order.transaction = some sale →
      orderOf before references sale = some order)
    (hcustomer : d.customer = chosen.map CustomerRecord.pk)
    (hexact : twoPlaces d.amounts.discountValue = d.amounts.discountValue) :
    ∃ orders orderItems added,
      r' = { r with
             archive := { r.archive with
               orders := orders
               orderItems := orderItems }
             newOrderItems := r.newOrderItems ++ added } ∧
      OrderSaved sale d r.archive.orders orders r.archive.orderItems orderItems added := by
  unfold saveOrder at h
  cases chosen with
  | none =>
      have hnone : d.customer = none := hcustomer
      cases hfound : orderOf before references sale with
      | none =>
          simp only [hfound, Except.ok.injEq] at h
          subst h
          have hno : ∀ order ∈ r.archive.orders.rows, order.transaction ≠ some sale := by
            intro order horder hsale
            rw [hknown order horder hsale] at hfound
            cases hfound
          refine ⟨r.archive.orders, r.archive.orderItems, [], by simp, .refl _ _, ?_,
            fun row hrow => Or.inl ⟨row, hrow, rfl, rfl⟩, ?_, ?_, .refl _ _, fun _ h => h,
            fun _ _ h => h, by simp⟩
          · intro order horder other hother hsale
            exact absurd hsale (hno order horder)
          · unfold OrderFollows
            rw [hnone]
            exact hno
          · intro order horder hsale
            exact absurd hsale (hno order horder)
      | some order =>
          simp only [hfound] at h
          obtain ⟨a, ha, h⟩ := bind_eq_ok.1 h
          obtain rfl := pure_eq_ok.1 h
          have honly : ∀ other ∈ r.archive.orders.rows, other.transaction = some sale → other = order := by
            intro other hother hsale
            have hsame := hknown other hother hsale
            rw [hfound, Option.some.injEq] at hsame
            exact hsame.symm
          obtain ⟨orders, orderItems, rfl, hsaved⟩ := deleteOrder_saved (hread order hfound).1
            (orderOf_eq_some hfound).2.2 honly hnone ha
          exact ⟨orders, orderItems, [], by simp, hsaved⟩
  | some c =>
      obtain ⟨⟨r₁, pk⟩, hrow, h⟩ := bind_eq_ok.1 h
      obtain ⟨orders, order, rfl, rfl, hrecorded, horigin⟩ := recordedOrder_eq_ok hread hknown hrow
      have hsome : d.customer = some c.pk := hcustomer
      by_cases hchanged : orderChanged before references sale c.pk d = true
      · simp only [hchanged, writeOrder, if_true, Bool.or_true] at h
        obtain rfl := pure_eq_ok.1 h
        have hrefreshed : OrderRow sale r.archive.orders _ (order.refresh c.pk d) := hrecorded.refreshed
        refine ⟨_, _, _, rfl, (hrefreshed.saved ?_ items entry.lines).1⟩
        unfold OrderFollows
        rw [hsome]
        exact ⟨_, hrefreshed.stored, hrefreshed.transaction, hrefreshed.status, rfl, rfl, hexact, rfl⟩
      · rw [Bool.not_eq_true] at hchanged
        obtain ⟨found, hfound, hfields⟩ := orderChanged_eq_false hchanged
        have hsame : found = order := by
          rcases horigin with hread' | hnone
          · rw [hfound, Option.some.injEq] at hread'
            exact hread'
          · rw [hfound] at hnone
            cases hnone
        subst hsame
        have hfollows : OrderFollows orders sale d := by
          unfold OrderFollows
          rw [hsome]
          exact ⟨found, hrecorded.stored, hrecorded.transaction, hrecorded.status, hfields⟩
        have hboth := hrecorded.saved (u := r.archive.orderItems) hfollows items entry.lines
        cases linesChanged with
        | true =>
            simp only [hchanged, writeOrder, Bool.true_or, Bool.false_eq_true, if_true, if_false] at h
            obtain rfl := pure_eq_ok.1 h
            exact ⟨_, _, _, rfl, hboth.1⟩
        | false =>
            simp only [hchanged, writeOrder, Bool.or_false, Bool.false_eq_true, if_false] at h
            obtain rfl := pure_eq_ok.1 h
            exact ⟨_, _, [], by simp, hboth.2⟩

end Orders

end Importers
end RosarioDairy
