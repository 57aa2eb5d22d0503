import RosarioDairy.Sales.Backups.ClosedSelection

/-!
# Backup rows — what a sales backup exports

The first rows of a backup, stated one kind at a time, and the rows that are exported: the foreign-key
closure of the first rows, which can be restored on their own.
-/

namespace RosarioDairy
namespace Backups

open Foundations

variable {M : Type}

/-! ## The first rows -/

section FirstRows

variable (db : Database M) (models : SalesModels M) (start stop : Int)

/-- A receipt of the years that is no dummy sale. -/
def IsReceipt (row : Record) : Prop :=
  row ∈ db.rows models.transaction ∧ createdWithin start stop row = true ∧ isDummySale row = false

/-- An item of one of the receipts. -/
def IsItem (row : Record) : Prop :=
  row ∈ db.rows models.transactionItem ∧ ∃ receipt, IsReceipt db models start stop receipt ∧
    row "transaction_id" = db.pk models.transaction receipt

/-- The order of one of the receipts, or an order of the years without a receipt. -/
def IsOrder (row : Record) : Prop :=
  row ∈ db.rows models.order ∧
    ((∃ receipt, IsReceipt db models start stop receipt ∧
        row "transaction_id" = db.pk models.transaction receipt) ∨
      (row "transaction_id" = .null ∧ createdWithin start stop row = true))

/-- An item of one of the orders. -/
def IsOrderItem (row : Record) : Prop :=
  row ∈ db.rows models.orderItem ∧ ∃ order, IsOrder db models start stop order ∧
    row "order_id" = db.pk models.order order

/-- A catalogue row that an item has in a snapshot column. -/
def IsSnapshot (m : M) (column : String) (row : Record) : Prop :=
  row ∈ db.rows m ∧ ∃ item, IsItem db models start stop item ∧ item column = db.pk m row

/-- The rows that are selected before any foreign key is followed. -/
def firstRowSet : Set (M × Value) :=
  {key | ∃ row, db.pk key.1 row = key.2 ∧
    ((key.1 = models.transaction ∧ IsReceipt db models start stop row) ∨
      (key.1 = models.transactionItem ∧ IsItem db models start stop row) ∨
      (key.1 = models.order ∧ IsOrder db models start stop row) ∨
      (key.1 = models.orderItem ∧ IsOrderItem db models start stop row) ∨
      (key.1 = models.product ∧
        IsSnapshot db models start stop models.product "product_id_snapshot" row) ∨
      (key.1 = models.category ∧
        IsSnapshot db models start stop models.category "category_id_snapshot" row))}

variable {db models start stop}

theorem row_of_firstRowSet {key : M × Value} (h : key ∈ firstRowSet db models start stop) :
    ∃ row ∈ db.rows key.1, db.pk key.1 row = key.2 := by
  obtain ⟨m, k⟩ := key
  obtain ⟨row, hkey, hkind⟩ := h
  dsimp only at hkey hkind
  rcases hkind with ⟨rfl, hrow⟩ | ⟨rfl, hrow⟩ | ⟨rfl, hrow⟩ | ⟨rfl, hrow⟩ | ⟨rfl, hrow⟩ | ⟨rfl, hrow⟩
  all_goals exact ⟨row, hrow.1, hkey⟩

theorem mem_receiptIds {key : Value} :
    key ∈ (db.query models.transaction fun row =>
        createdWithin start stop row && !isDummySale row) ↔
      ∃ row, IsReceipt db models start stop row ∧ db.pk models.transaction row = key := by
  rw [Database.mem_query]
  constructor
  · rintro ⟨row, hrow, htest, hkey⟩
    exact ⟨row, ⟨hrow, by simpa using htest⟩, hkey⟩
  · rintro ⟨row, ⟨hrow, htest⟩, hkey⟩
    exact ⟨row, hrow, by simpa using htest, hkey⟩

theorem mem_items {row : Record} :
    row ∈ ((db.rows models.transactionItem).filter fun row => decide (row "transaction_id" ∈
        db.query models.transaction fun row =>
          createdWithin start stop row && !isDummySale row)) ↔
      IsItem db models start stop row := by
  rw [List.mem_filter, decide_eq_true_iff, mem_receiptIds]
  constructor
  · rintro ⟨hrow, receipt, hreceipt, hkey⟩
    exact ⟨hrow, receipt, hreceipt, hkey.symm⟩
  · rintro ⟨hrow, receipt, hreceipt, hkey⟩
    exact ⟨hrow, receipt, hreceipt, hkey.symm⟩

theorem mem_itemIds {key : Value} :
    key ∈ (((db.rows models.transactionItem).filter fun row => decide (row "transaction_id" ∈
        db.query models.transaction fun row =>
          createdWithin start stop row && !isDummySale row)).map
            (db.pk models.transactionItem)) ↔
      ∃ row, IsItem db models start stop row ∧ db.pk models.transactionItem row = key := by
  rw [List.mem_map]
  constructor
  · rintro ⟨row, hrow, hkey⟩
    exact ⟨row, mem_items.1 hrow, hkey⟩
  · rintro ⟨row, hrow, hkey⟩
    exact ⟨row, mem_items.2 hrow, hkey⟩

theorem mem_snapshotIds {m : M} {column : String} {key : Value} :
    key ∈ (db.query m fun row => decide (db.pk m row ∈
        ((db.rows models.transactionItem).filter fun row => decide (row "transaction_id" ∈
          db.query models.transaction fun row =>
            createdWithin start stop row && !isDummySale row)).map fun item => item column)) ↔
      ∃ row, IsSnapshot db models start stop m column row ∧ db.pk m row = key := by
  rw [Database.mem_query]
  constructor
  · rintro ⟨row, hrow, htest, hkey⟩
    obtain ⟨item, hitem, hEq⟩ := List.mem_map.1 (of_decide_eq_true htest)
    exact ⟨row, ⟨hrow, item, mem_items.1 hitem, hEq⟩, hkey⟩
  · rintro ⟨row, ⟨hrow, item, hitem, hEq⟩, hkey⟩
    exact ⟨row, hrow, decide_eq_true (List.mem_map.2 ⟨item, mem_items.2 hitem, hEq⟩), hkey⟩

theorem mem_orderIds {key : Value} :
    key ∈ (db.query models.order fun row =>
        decide (row "transaction_id" ∈ db.query models.transaction fun row =>
            createdWithin start stop row && !isDummySale row) ||
          (decide (row "transaction_id" = .null) && createdWithin start stop row)) ↔
      ∃ row, IsOrder db models start stop row ∧ db.pk models.order row = key := by
  rw [Database.mem_query]
  constructor
  · rintro ⟨row, hrow, htest, hkey⟩
    rw [Bool.or_eq_true, Bool.and_eq_true, decide_eq_true_iff, decide_eq_true_iff,
      mem_receiptIds] at htest
    refine ⟨row, ⟨hrow, ?_⟩, hkey⟩
    rcases htest with ⟨receipt, hreceipt, hEq⟩ | hopen
    · exact Or.inl ⟨receipt, hreceipt, hEq.symm⟩
    · exact Or.inr hopen
  · rintro ⟨row, ⟨hrow, hkind⟩, hkey⟩
    refine ⟨row, hrow, ?_, hkey⟩
    rw [Bool.or_eq_true, Bool.and_eq_true, decide_eq_true_iff, decide_eq_true_iff, mem_receiptIds]
    rcases hkind with ⟨receipt, hreceipt, hEq⟩ | hopen
    · exact Or.inl ⟨receipt, hreceipt, hEq.symm⟩
    · exact Or.inr hopen

theorem mem_orderItemIds {key : Value} :
    key ∈ (db.query models.orderItem fun row => decide (row "order_id" ∈
        db.query models.order fun row =>
          decide (row "transaction_id" ∈ db.query models.transaction fun row =>
              createdWithin start stop row && !isDummySale row) ||
            (decide (row "transaction_id" = .null) && createdWithin start stop row))) ↔
      ∃ row, IsOrderItem db models start stop row ∧ db.pk models.orderItem row = key := by
  rw [Database.mem_query]
  constructor
  · rintro ⟨row, hrow, htest, hkey⟩
    obtain ⟨order, horder, hEq⟩ := mem_orderIds.1 (of_decide_eq_true htest)
    exact ⟨row, ⟨hrow, order, horder, hEq.symm⟩, hkey⟩
  · rintro ⟨row, ⟨hrow, order, horder, hEq⟩, hkey⟩
    exact ⟨row, hrow, decide_eq_true (mem_orderIds.2 ⟨order, horder, hEq.symm⟩), hkey⟩

end FirstRows

section Selecting

variable [DecidableEq M] {db : Database M} {models : SalesModels M} {start stop : Int}

theorem mem_foldl_update {entries : List (M × List Value)} {selected : Selection M}
    {row : M × Value} :
    row ∈ (entries.foldl (fun selected entry => selected.update entry.1 entry.2.toFinset)
        selected).selectedRows ↔
      row ∈ selected.selectedRows ∨ ∃ entry ∈ entries, row.1 = entry.1 ∧ row.2 ∈ entry.2 := by
  induction entries generalizing selected with
  | nil => simp
  | cons entry entries ih =>
      rw [List.foldl_cons, ih, Selection.mem_update, or_assoc]
      simp

/-- The selection begins with the first rows. -/
theorem selectedRows_firstSelection :
    (firstSelection db models start stop).selectedRows = firstRowSet db models start stop := by
  ext row
  have hempty : row ∉ (Selection.empty : Selection M).selectedRows := Finset.notMem_empty _
  unfold firstSelection
  rw [mem_foldl_update, or_iff_right hempty]
  simp only [firstRows, List.mem_cons, List.not_mem_nil, or_false, exists_eq_or_imp,
    exists_eq_left]
  rw [mem_receiptIds, mem_itemIds, mem_orderIds, mem_orderItemIds, mem_snapshotIds, mem_snapshotIds]
  constructor
  · rintro (⟨hm, row, hrow, hkey⟩ | ⟨hm, row, hrow, hkey⟩ | ⟨hm, row, hrow, hkey⟩ |
      ⟨hm, row, hrow, hkey⟩ | ⟨hm, row, hrow, hkey⟩ | ⟨hm, row, hrow, hkey⟩)
    all_goals refine ⟨row, by rw [hm]; exact hkey, ?_⟩
    · exact Or.inl ⟨hm, hrow⟩
    · exact Or.inr (Or.inl ⟨hm, hrow⟩)
    · exact Or.inr (Or.inr (Or.inl ⟨hm, hrow⟩))
    · exact Or.inr (Or.inr (Or.inr (Or.inl ⟨hm, hrow⟩)))
    · exact Or.inr (Or.inr (Or.inr (Or.inr (Or.inl ⟨hm, hrow⟩))))
    · exact Or.inr (Or.inr (Or.inr (Or.inr (Or.inr ⟨hm, hrow⟩))))
  · rintro ⟨row', hkey, ⟨hm, hrow⟩ | ⟨hm, hrow⟩ | ⟨hm, hrow⟩ | ⟨hm, hrow⟩ | ⟨hm, hrow⟩ |
      ⟨hm, hrow⟩⟩
    all_goals rw [hm] at hkey
    · exact Or.inl ⟨hm, row', hrow, hkey⟩
    · exact Or.inr (Or.inl ⟨hm, row', hrow, hkey⟩)
    · exact Or.inr (Or.inr (Or.inl ⟨hm, row', hrow, hkey⟩))
    · exact Or.inr (Or.inr (Or.inr (Or.inl ⟨hm, row', hrow, hkey⟩)))
    · exact Or.inr (Or.inr (Or.inr (Or.inr (Or.inl ⟨hm, row', hrow, hkey⟩))))
    · exact Or.inr (Or.inr (Or.inr (Or.inr (Or.inr ⟨hm, row', hrow, hkey⟩))))

/-! ## The exported rows -/

/-- With enough passes the selection is the closure of the first rows. -/
theorem saturate_firstSelection [Finite M] :
    ∃ selected : Selection M,
      (∃ enough, ∀ passes, enough ≤ passes →
        saturate (followAll db) passes (firstSelection db models start stop) = some selected) ∧
      IsLeast {S | firstRowSet db models start stop ⊆ S ∧ ClosedUnder db.Refers S}
        selected.selectedRows := by
  let referred := (Database.finite_referred db).toFinset
  have hreferred : ∀ source target, db.Refers source target → target ∈ referred := by
    intro source target hrefers
    exact (Database.finite_referred db).mem_toFinset.2 ⟨source, hrefers⟩
  have hpass : ∀ selected, Extends db referred (selected, 0) (followAll db selected) :=
    extends_followAll hreferred
  obtain ⟨selected, hselected⟩ := saturate_terminates
    (fun selected => Nat.le_of_eq (hpass selected).counts)
    (Nat.lt_succ_self (remaining referred (firstSelection db models start stop)))
  -- every selection holds the first rows, and only what a closed set with these has to hold
  let Inv : Selection M → Prop := fun selected =>
    firstRowSet db models start stop ⊆ selected.selectedRows ∧
      ∀ S, ClosedUnder db.Refers S → firstRowSet db models start stop ⊆ S →
        selected.selectedRows ⊆ S
  have hstep : ∀ selected, Inv selected → Inv (followAll db selected).1 := by
    rintro selected ⟨hkeeps, hwithin⟩
    refine ⟨fun row hrow => (hpass selected).keeps (hkeeps hrow), ?_⟩
    intro S hclosed hfirst
    exact (hpass selected).within S hclosed (hwithin S hclosed hfirst)
  have hbegin : Inv (firstSelection db models start stop) := by
    dsimp only [Inv]
    rw [← @selectedRows_firstSelection M _ db models start stop]
    refine ⟨fun row hrow => hrow, ?_⟩
    intro S _ hfirst
    exact hfirst
  obtain ⟨last, ⟨hkeeps, hwithin⟩, hidle, hEq⟩ := saturate_result hstep hbegin hselected
  have hsame : selected.selectedRows = last.selectedRows := hEq ▸ (hpass last).idle hidle
  refine ⟨selected, ⟨_, fun passes hle => saturate_mono hselected hle⟩, ⟨?_, ?_⟩, ?_⟩
  · rw [hsame]
    exact hkeeps
  · rw [hsame]
    exact closed_of_idle hreferred hidle
  · rintro S ⟨hfirst, hclosed⟩
    rw [hsame]
    exact hwithin S hclosed hfirst

/-- The selection ends, and it is the least set of rows that holds the first rows and that no foreign
key leads out of; of an intact database it selects rows that are there, and restoring these alone
leaves every foreign key with its row. -/
theorem select_rows_closure [Fintype M] (db : Database M) (models : SalesModels M)
    (yearStart : Int → Int) (startYear endYear : Int) :
    ∃ selected : Selection M,
      (∃ enough, ∀ passes, enough ≤ passes →
        selectRows db models yearStart startYear endYear passes = some selected) ∧
      IsLeast {S | firstRowSet db models (yearStart startYear) (yearStart (endYear + 1)) ⊆ S ∧
        ClosedUnder db.Refers S} selected.selectedRows ∧
      (∀ entry ∈ selected.entries, entry.2.Nonempty) ∧
      (db.Intact →
        (∀ key ∈ selected.selectedRows, ∃ row ∈ db.rows key.1, db.pk key.1 row = key.2) ∧
          (db.restrict selected.get).Intact) := by
  -- enough passes saturate the selection to the least closed one
  obtain ⟨selected, ⟨enough, hends⟩, hleast⟩ := @saturate_firstSelection M _ db models
    (yearStart startYear) (yearStart (endYear + 1)) _
  have hsame := Selection.selectedRows_nonempty selected
  refine ⟨selected.nonempty, ⟨enough, ?_⟩, hsame ▸ hleast, ?_, ?_⟩
  · intro passes hle
    unfold selectRows
    rw [hends passes hle]
    rfl
  · intro entry hentry
    exact Finset.nonempty_iff_ne_empty.2 (of_decide_eq_true (List.mem_filter.1 hentry).2)
  · intro hintact
    rw [hsame]
    constructor
    · -- the rows that are there are closed
      have hthere : ClosedUnder db.Refers {key | ∃ row ∈ db.rows key.1, db.pk key.1 row = key.2} := by
        rintro source _ ⟨m, key⟩ ⟨row, hrow, _, field, hfield, relation, hrelation, rfl, hnull,
          hmeets⟩
        unfold Database.Meets at hmeets
        by_cases hpk : relation.targetField = (db.options relation.model).pk
        · -- a relation by primary key meets the row it names, which integrity provides
          rw [if_pos hpk] at hmeets
          obtain ⟨target, htarget, hEq⟩ :=
            hintact source.1 row hrow field hfield relation hrelation hnull
          refine ⟨target, htarget, ?_⟩
          rw [hpk] at hEq
          exact hEq.trans hmeets.symm
        · -- a relation by another field meets a row only if there is one
          rw [if_neg hpk] at hmeets
          obtain ⟨target, htarget, _, hkey⟩ := hmeets
          exact ⟨target, htarget, hkey⟩
      exact hleast.2 ⟨fun key hkey => row_of_firstRowSet hkey, hthere⟩
    · -- what the selection refers to is selected, so the cut loses no target
      refine Database.intact_restrict hintact ?_
      have hclosed : ClosedUnder db.Refers selected.nonempty.selectedRows := hsame ▸ hleast.1.2
      exact hclosed

end Selecting

end Backups
end RosarioDairy
