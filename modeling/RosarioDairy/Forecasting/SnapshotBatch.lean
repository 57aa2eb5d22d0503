import RosarioDairy.Foundations.Buckets
import RosarioDairy.Foundations.Scan
import RosarioDairy.Forecasting.Data

/-!
# Snapshot batches — several cutoffs from one reading of the ledger

A snapshot is made from two queries: the transactions before the cutoff, and the lines of those that
have no segment of their own.  A batch runs both once, for its latest cutoff, and selects the rows of
each cutoff afterwards, so that the lines it holds reach beyond most of its snapshots.  Training works
on a ledger of transactions with their lines; there both come to the same (`loadSnapshot_eq`).
-/

namespace RosarioDairy
namespace Forecasting

open Foundations

/-! ## The tables -/

/-- A row of the transactions, with the columns the snapshot reads. -/
structure Receipt where
  pk : Nat
  createdAt : Int
  isVoided : Bool
  customerId : Option Nat
  customerName : Option String
  sourceCustomerLabel : String
  sourceReference : Option String
  sourceSalesSegment : Option Segment
  totalAmount : Int
  deriving DecidableEq, Repr

instance : Row Receipt := ⟨Receipt.pk⟩

/-- The transactions, and the lines with the transaction of each in the order of the query. -/
structure LedgerTables where
  receipts : Table Receipt
  items : List (Nat × LedgerLine)

def Receipt.withLines (row : Receipt) (lines : List LedgerLine) : LedgerSale :=
  { pk := row.pk
    createdAt := row.createdAt
    isVoided := row.isVoided
    customerId := row.customerId
    customerName := row.customerName
    sourceCustomerLabel := row.sourceCustomerLabel
    sourceReference := row.sourceReference
    sourceSalesSegment := row.sourceSalesSegment
    totalAmount := row.totalAmount
    lines := lines }

/-- Whether the lines of a transaction are read. -/
def Receipt.live (row : Receipt) : Bool :=
  row.sourceSalesSegment.isNone && !isDemoReference row.sourceReference

/-- What `_load_source` returns besides the policy: the rows, and the lines under the transactions
they belong to. -/
structure LoadedSource where
  rows : List Receipt
  liveLines : Nat → List LedgerLine

section Loading

variable {D : Type} (source : Source D)

/-- `is_voided=False, created_at__lt=cutoff` -/
def Receipt.counted (asOf : Int) (row : Receipt) : Bool :=
  !row.isVoided && decide (row.createdAt < source.zone.midnight asOf)

namespace LedgerTables

/-- `_load_source` -/
def loadSource (tables : LedgerTables) (asOf : Int) : LoadedSource :=
  let rows := tables.receipts.scan (Receipt.counted source asOf)
  let liveIds := (rows.filter Receipt.live).map Receipt.pk
  { rows := rows
    liveLines := collect Prod.fst Prod.snd
      (tables.items.filter fun item => decide (item.1 ∈ liveIds)) }

/-- `_snapshot`, on rows that find their lines in `live_lines`. -/
def snapshotOf (asOf : Int) (rows : List Receipt) (liveLines : Nat → List LedgerLine) :
    SalesSnapshot D :=
  snapshot source asOf (rows.map fun row => row.withLines (liveLines row.pk))

/-- `load_snapshot` -/
def loadSnapshot (tables : LedgerTables) (asOf : Int) : SalesSnapshot D :=
  let loaded := tables.loadSource source asOf
  snapshotOf source asOf loaded.rows loaded.liveLines

/-- `load_snapshots`, the entries of its result in the order of their insertion. -/
def loadSnapshots (tables : LedgerTables) (cutoffs : List Int) :
    List (Int × SalesSnapshot D) :=
  match cutoffs.eraseDups with
  | [] => []
  | first :: rest =>
      let loaded := tables.loadSource source (rest.foldl max first)
      (first :: rest).map fun day =>
        (day, snapshotOf source day
          (loaded.rows.filter fun row => decide (row.createdAt < source.zone.midnight day))
          loaded.liveLines)

/-! ## Rows and their lines -/

/-- The lines of a transaction. -/
def linesOf (tables : LedgerTables) (pk : Nat) : List LedgerLine :=
  (tables.items.filter fun item => decide (item.1 = pk)).map Prod.snd

/-- The transactions with their lines. -/
def ledger (tables : LedgerTables) : List LedgerSale :=
  (tables.receipts.scan fun _ => true).map fun row => row.withLines (tables.linesOf row.pk)

theorem record_withLines {row : Receipt} (hlive : row.live = false) (lines lines' : List LedgerLine) :
    record source (row.withLines lines) = record source (row.withLines lines') := by
  unfold Receipt.live at hlive
  by_cases hdemo : isDemoReference row.sourceReference = true
  · simp [record, Receipt.withLines, hdemo]
  · cases hsegment : row.sourceSalesSegment with
    | none => simp [hsegment, hdemo] at hlive
    | some segment =>
        simp [record, Receipt.withLines, hdemo, hsegment, recordedAs, customerKey, customerName]

/-- The snapshot of some rows depends on their lines only as far as each row is recorded. -/
theorem snapshot_congr (asOf : Int) {rows : List Receipt} {lines lines' : Nat → List LedgerLine}
    (h : ∀ row ∈ rows, record source (row.withLines (lines row.pk)) =
      record source (row.withLines (lines' row.pk))) :
    snapshotOf source asOf rows lines = snapshotOf source asOf rows lines' := by
  have hrecorded : (rows.map fun row => row.withLines (lines row.pk)).map (record source) =
      (rows.map fun row => row.withLines (lines' row.pk)).map (record source) := by
    rw [List.map_map, List.map_map]
    apply List.map_congr_left
    intro row hrow
    exact h row hrow
  have hexcluded : ((rows.map fun row => row.withLines (lines row.pk)).filter fun row =>
        decide (record source row = .nonDairy)).map LedgerSale.pk =
      ((rows.map fun row => row.withLines (lines' row.pk)).filter fun row =>
        decide (record source row = .nonDairy)).map LedgerSale.pk := by
    rw [List.filter_map, List.filter_map, List.map_map, List.map_map]
    have hkeep : rows.filter ((fun row => decide (record source row = .nonDairy)) ∘
          fun row => row.withLines (lines row.pk)) =
        rows.filter ((fun row => decide (record source row = .nonDairy)) ∘
          fun row => row.withLines (lines' row.pk)) := by
      apply List.filter_congr
      intro row hrow
      simp only [Function.comp_apply, h row hrow]
    rw [hkeep]
    rfl
  unfold snapshotOf snapshot
  rw [hrecorded, hexcluded]

/-! ## One snapshot -/

/-- The lines a reading holds for a transaction it lists are all of its lines, if it is live. -/
theorem liveLines_loadSource (tables : LedgerTables) (asOf : Int) {row : Receipt}
    (hrow : row ∈ (tables.loadSource source asOf).rows) (hlive : row.live = true) :
    (tables.loadSource source asOf).liveLines row.pk = tables.linesOf row.pk := by
  have hid : row.pk ∈ (((tables.loadSource source asOf).rows.filter Receipt.live).map Receipt.pk) :=
    List.mem_map.2 ⟨row, List.mem_filter.2 ⟨hrow, hlive⟩, rfl⟩
  exact (collect_filter Prod.fst Prod.snd (fun k => decide (k ∈ _)) tables.items
    (decide_eq_true hid)).trans (collect_apply _ _ _ _)

/-- Whatever part of a reading a snapshot is made from, it is the snapshot of these transactions with
all of their lines. -/
theorem snapshotOf_loadSource (tables : LedgerTables) (asOf day : Int) {rows : List Receipt}
    (hrows : ∀ row ∈ rows, row ∈ (tables.loadSource source asOf).rows) :
    snapshotOf source day rows (tables.loadSource source asOf).liveLines =
      snapshotOf source day rows tables.linesOf := by
  apply snapshot_congr
  intro row hrow
  cases hlive : row.live with
  | false => exact record_withLines source hlive _ _
  | true => rw [liveLines_loadSource source tables asOf (hrows row hrow) hlive]

/-- A snapshot of the tables is the snapshot of their ledger, which the models are trained on: the two
queries amount to filtering it. -/
theorem loadSnapshot_eq (tables : LedgerTables) (asOf : Int) :
    tables.loadSnapshot source asOf = Forecasting.loadSnapshot source tables.ledger asOf := by
  have hrows : tables.receipts.scan (Receipt.counted source asOf) =
      (tables.receipts.scan fun _ => true).filter (Receipt.counted source asOf) := by
    rw [Table.filter_scan]
    simp
  unfold loadSnapshot
  rw [snapshotOf_loadSource source tables asOf asOf fun row hrow => hrow]
  unfold snapshotOf Forecasting.loadSnapshot ledger
  rw [List.filter_map]
  exact congrArg (fun rows : List Receipt => snapshot source asOf
    (rows.map fun row => row.withLines (tables.linesOf row.pk))) hrows

/-! ## A batch of cutoffs -/

theorem le_foldl_max (first : Int) : ∀ rest : List Int, ∀ day ∈ first :: rest, day ≤ rest.foldl max first
  | [], day, hday => by
      rw [List.mem_singleton.1 hday]
      exact le_refl first
  | next :: rest, day, hday => by
      rw [List.foldl_cons]
      rcases List.mem_cons.1 hday with rfl | hrest
      · exact le_trans (le_max_left day next)
          (le_foldl_max (max day next) rest _ List.mem_cons_self)
      · rcases List.mem_cons.1 hrest with rfl | hlater
        · exact le_trans (le_max_right first day)
            (le_foldl_max (max first day) rest _ List.mem_cons_self)
        · exact le_foldl_max (max first next) rest day (List.mem_cons_of_mem _ hlater)

/-- Whatever happened before a date happened before every later one. -/
theorem midnight_le {t day asOf : Int} (h : t < source.zone.midnight day) (hle : day ≤ asOf) :
    t < source.zone.midnight asOf := by
  rw [source.zone.lt_midnight] at h ⊢
  exact lt_of_lt_of_le h hle

/-- The rows of an earlier cutoff, selected from the reading for a later one. -/
theorem rows_loadSource_filter (tables : LedgerTables) {day asOf : Int} (hle : day ≤ asOf) :
    ((tables.loadSource source asOf).rows.filter fun row =>
      decide (row.createdAt < source.zone.midnight day)) = (tables.loadSource source day).rows := by
  unfold loadSource
  dsimp only
  rw [Table.filter_scan]
  apply Table.scan_eq_of_mem_iff
  intro row
  -- before the earlier midnight implies before the later one
  constructor
  · intro h
    simp only [Receipt.counted, Bool.and_eq_true, decide_eq_true_eq] at h ⊢
    exact ⟨h.1, h.2.1.1, h.2.2⟩
  · intro h
    simp only [Receipt.counted, Bool.and_eq_true, decide_eq_true_eq] at h ⊢
    exact ⟨h.1, ⟨h.2.1, midnight_le source h.2.2 hle⟩, h.2.2⟩

/-- A cutoff of a batch gets the snapshot it has on its own, although the lines are those of the
latest cutoff. -/
theorem snapshotOf_filter (tables : LedgerTables) {day asOf : Int} (hle : day ≤ asOf) :
    snapshotOf source day
        ((tables.loadSource source asOf).rows.filter fun row =>
          decide (row.createdAt < source.zone.midnight day))
        (tables.loadSource source asOf).liveLines = tables.loadSnapshot source day := by
  rw [snapshotOf_loadSource source tables asOf day fun row hrow => (List.mem_filter.1 hrow).1,
    rows_loadSource_filter source tables hle, loadSnapshot,
    snapshotOf_loadSource source tables day day fun row hrow => hrow]

/-- A batch has one entry for each distinct cutoff, in the order in which they first occur. -/
theorem loadSnapshots_eq (tables : LedgerTables) (cutoffs : List Int) :
    tables.loadSnapshots source cutoffs =
      cutoffs.eraseDups.map fun day => (day, tables.loadSnapshot source day) := by
  unfold loadSnapshots
  cases cutoffs.eraseDups with
  | nil => rfl
  | cons first rest =>
      apply List.map_congr_left
      intro day hday
      rw [snapshotOf_filter source tables (le_foldl_max first rest day hday)]

/-- Batch snapshots equal single snapshots: one entry for each distinct cutoff, and every entry is the
snapshot of its cutoff. -/
theorem batch_eq_single (tables : LedgerTables) (cutoffs : List Int) :
    ((tables.loadSnapshots source cutoffs).map Prod.fst).Nodup ∧
      (∀ day, day ∈ (tables.loadSnapshots source cutoffs).map Prod.fst ↔ day ∈ cutoffs) ∧
      ∀ entry ∈ tables.loadSnapshots source cutoffs,
        entry.2 = tables.loadSnapshot source entry.1 := by
  have hkeys : (tables.loadSnapshots source cutoffs).map Prod.fst = cutoffs.eraseDups := by
    rw [loadSnapshots_eq, List.map_map]
    exact List.map_id _
  refine ⟨?_, ?_, ?_⟩
  · rw [hkeys]
    exact nodup_eraseDups cutoffs
  · intro day
    rw [hkeys, List.mem_eraseDups]
  · intro entry hentry
    rw [loadSnapshots_eq] at hentry
    rcases List.mem_map.1 hentry with ⟨day, _, rfl⟩
    rfl

end LedgerTables

end Loading

end Forecasting
end RosarioDairy
