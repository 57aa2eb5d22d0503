import Mathlib.Data.List.Sort
import RosarioDairy.Foundations.Table

/-!
# Scan — the rows of a table that satisfy a condition, in the order of their keys

The order in which a table happens to store its rows is not part of its content: tables with the same
rows give the same scans.
-/

namespace RosarioDairy
namespace Foundations

open Row

namespace Table

variable {R : Type} [Row R]

/-- The rows that satisfy `p`, by primary key. -/
def scan (t : Table R) (p : R → Bool) : List R :=
  (t.rows.filter p).insertionSort (fun a b => pk a ≤ pk b)

@[simp] theorem mem_scan {t : Table R} {p : R → Bool} {row : R} :
    row ∈ t.scan p ↔ row ∈ t.rows ∧ p row = true := by
  rw [scan, List.mem_insertionSort, List.mem_filter]

theorem scan_perm (t : Table R) (p : R → Bool) : (t.scan p).Perm (t.rows.filter p) :=
  List.perm_insertionSort _ _

theorem nodup_scan (t : Table R) (p : R → Bool) : ((t.scan p).map pk).Nodup :=
  ((t.scan_perm p).map pk).nodup_iff.2 (t.nodup.sublist (List.filter_sublist.map pk))

theorem sorted_scan (t : Table R) (p : R → Bool) :
    (t.scan p).Pairwise fun a b => pk a ≤ pk b := by
  have : Std.Total (α := R) fun a b => pk a ≤ pk b := ⟨fun a b => Nat.le_total (pk a) (pk b)⟩
  have : IsTrans R fun a b => pk a ≤ pk b := ⟨fun _ _ _ => Nat.le_trans⟩
  exact List.pairwise_insertionSort _ _

/-- A list sorted by key that holds exactly the rows that satisfy a condition is their scan. -/
theorem eq_scan {t : Table R} {p : R → Bool} {rows : List R} (hnodup : rows.Nodup)
    (hsorted : rows.Pairwise fun a b => pk a ≤ pk b)
    (hmem : ∀ row, row ∈ rows ↔ row ∈ t.rows ∧ p row = true) : rows = t.scan p := by
  have : Std.Total (α := R) fun a b => pk a ≤ pk b := ⟨fun a b => Nat.le_total (pk a) (pk b)⟩
  have : IsTrans R fun a b => pk a ≤ pk b := ⟨fun _ _ _ => Nat.le_trans⟩
  have hperm : rows.Perm (t.scan p) := by
    refine (List.perm_ext_iff_of_nodup hnodup (List.Nodup.of_map pk (t.nodup_scan p))).2 ?_
    intro row
    rw [hmem, mem_scan]
  refine List.Perm.eq_of_pairwise ?_ hsorted (List.pairwise_insertionSort _ _) hperm
  intro a b ha hb hle hge
  exact eq_of_pk_eq t ((hmem a).1 ha).1 (mem_scan.1 hb).1 (Nat.le_antisymm hle hge)

/-- Tables in which the same rows satisfy a condition give the same scan, whatever else they hold. -/
theorem scan_eq_of_mem_iff {t t' : Table R} {p p' : R → Bool}
    (h : ∀ row, (row ∈ t.rows ∧ p row = true) ↔ (row ∈ t'.rows ∧ p' row = true)) :
    t.scan p = t'.scan p' := by
  refine eq_scan (List.Nodup.of_map pk (t.nodup_scan p)) (t.sorted_scan p) ?_
  intro row
  rw [mem_scan, h]

/-- A table whose rows have changed under their keys is scanned in the same order. -/
theorem scan_of_rows_map {t t' : Table R} {f : R → R} (hpk : ∀ row, pk (f row) = pk row)
    (h : t'.rows = t.rows.map f) : (t'.scan fun _ => true) = (t.scan fun _ => true).map f := by
  unfold scan
  rw [List.filter_true, List.filter_true, h, List.map_insertionSort _ (fun a b => pk a ≤ pk b)]
  intro a _ b _
  rw [hpk, hpk]

/-- Filtering a scan is scanning for both conditions. -/
theorem filter_scan (t : Table R) (p q : R → Bool) :
    (t.scan p).filter q = t.scan fun row => p row && q row := by
  refine eq_scan ((List.Nodup.of_map pk (t.nodup_scan p)).filter q)
    ((t.sorted_scan p).filter q) ?_
  intro row
  rw [List.mem_filter, mem_scan, Bool.and_eq_true, and_assoc]

end Table

end Foundations
end RosarioDairy
