import Mathlib.Algebra.Order.BigOperators.Group.List
import Mathlib.Data.List.Dedup

/-!
# Partition — totals of rows, part by part

Rows that are divided by a key into parts have the total of the parts, in whatever order the parts
come, if no part is counted twice and every row lies in one.
-/

namespace RosarioDairy
namespace Foundations

section Totals

variable {α κ M : Type} [AddCommMonoid M]

/-- The total of a measure over some rows. -/
def total (measure : α → M) (rows : List α) : M := (rows.map measure).sum

@[simp] theorem total_nil (measure : α → M) : total measure [] = 0 := rfl

theorem total_append (measure : α → M) (rows rows' : List α) :
    total measure (rows ++ rows') = total measure rows + total measure rows' := by
  rw [total, List.map_append, List.sum_append]
  rfl

theorem total_perm (measure : α → M) {rows rows' : List α} (h : rows.Perm rows') :
    total measure rows = total measure rows' :=
  (h.map measure).sum_eq

/-- Rows that satisfy a condition and rows that do not. -/
theorem total_filter_add (measure : α → M) (p : α → Bool) :
    ∀ rows : List α, total measure (rows.filter p) +
      total measure (rows.filter fun row => !p row) = total measure rows
  | [] => add_zero 0
  | row :: rows => by
      have ih := total_filter_add measure p rows
      simp only [total] at ih ⊢
      cases hrow : p row with
      | true => simp [hrow, ← ih, add_assoc]
      | false => simp [hrow, ← ih, add_left_comm]

theorem total_map {β : Type} (measure : β → M) (f : α → β) (rows : List α) :
    total measure (rows.map f) = total (fun row => measure (f row)) rows := by
  rw [total, List.map_map]
  rfl

theorem total_filterMap {β : Type} (measure : β → M) (f : α → Option β) :
    ∀ rows : List α, total measure (rows.filterMap f) =
      total (fun row => (f row).elim 0 measure) rows
  | [] => rfl
  | row :: rows => by
      have ih := total_filterMap measure f rows
      cases hrow : f row with
      | none =>
          rw [List.filterMap_cons_none hrow, ih]
          simp [total, hrow]
      | some value =>
          rw [List.filterMap_cons_some hrow]
          simp only [total, List.map_cons, List.sum_cons, hrow, Option.elim] at ih ⊢
          rw [ih]

theorem total_add (measure measure' : α → M) (rows : List α) :
    total (fun row => measure row + measure' row) rows = total measure rows + total measure' rows :=
  List.sum_map_add

theorem total_congr {measure measure' : α → M} {rows : List α}
    (h : ∀ row ∈ rows, measure row = measure' row) : total measure rows = total measure' rows := by
  rw [total, total, List.map_congr_left h]

/-- Every row lies in one part: the total is the total of the parts. -/
theorem total_parts [DecidableEq κ] (measure : α → M) (key : α → κ) :
    ∀ {keys : List κ} {rows : List α}, keys.Nodup → (∀ row ∈ rows, key row ∈ keys) →
      total (fun k => total measure (rows.filter fun row => decide (key row = k))) keys =
        total measure rows
  | [], rows, _, hcover => by
      have hempty : rows = [] := List.eq_nil_iff_forall_not_mem.2 fun row hrow =>
        List.not_mem_nil (hcover row hrow)
      rw [hempty]
      rfl
  | k :: keys, rows, hnodup, hcover => by
      obtain ⟨hfresh, hnodup⟩ := List.nodup_cons.1 hnodup
      let rest := rows.filter fun row => !decide (key row = k)
      have hrest : ∀ row ∈ rest, key row ∈ keys := by
        intro row hrow
        obtain ⟨hmem, hne⟩ := List.mem_filter.1 hrow
        rcases List.mem_cons.1 (hcover row hmem) with hEq | hlater
        · simp [hEq] at hne
        · exact hlater
      -- the later parts are parts of the rest
      have hparts : total (fun k' => total measure (rows.filter fun row => decide (key row = k')))
          keys = total (fun k' => total measure (rest.filter fun row => decide (key row = k')))
            keys := by
        refine total_congr ?_
        intro k' hk'
        have hne : k' ≠ k := fun hEq => hfresh (hEq ▸ hk')
        rw [List.filter_filter]
        congr 1
        refine List.filter_congr ?_
        intro row _
        by_cases hrow : key row = k'
        · simp [hrow, hne]
        · simp [hrow]
      calc total (fun k' => total measure (rows.filter fun row => decide (key row = k'))) (k :: keys)
          = total measure (rows.filter fun row => decide (key row = k)) +
              total (fun k' => total measure (rows.filter fun row => decide (key row = k'))) keys :=
            rfl
        _ = total measure (rows.filter fun row => decide (key row = k)) + total measure rest := by
            rw [hparts, total_parts measure key hnodup hrest]
        _ = total measure rows := total_filter_add measure _ rows

end Totals

section Positive

variable {α M : Type} [AddCommMonoid M] [PartialOrder M] [IsOrderedCancelAddMonoid M]

theorem total_eq_zero {measure : α → M} {rows : List α} (hpos : ∀ row ∈ rows, 0 < measure row) :
    total measure rows = 0 ↔ rows = [] := by
  constructor
  · intro hzero
    by_contra hne
    have hsum := List.sum_pos (rows.map measure) (by simpa using hpos) (by simpa using hne)
    exact absurd hzero (ne_of_gt hsum)
  · intro hEq
    rw [hEq, total_nil]

/-- Rows that each count for something are all counted if the total is that of all. -/
theorem total_filter_eq_iff {measure : α → M} {rows : List α} {p q : α → Bool}
    (hpos : ∀ row ∈ rows, 0 < measure row) (himp : ∀ row ∈ rows, p row = true → q row = true) :
    total measure (rows.filter p) = total measure (rows.filter q) ↔
      ∀ row ∈ rows, q row = true → p row = true := by
  have hsplit := total_filter_add measure p (rows.filter q)
  have hboth : (rows.filter q).filter p = rows.filter p := by
    rw [List.filter_filter]
    refine List.filter_congr ?_
    intro row hrow
    cases hp : p row with
    | false => rfl
    | true => simp [himp row hrow hp]
  have hposq : ∀ row ∈ (rows.filter q).filter fun row => !p row, 0 < measure row := fun row hrow =>
    hpos row (List.mem_of_mem_filter (List.mem_of_mem_filter hrow))
  rw [hboth] at hsplit
  rw [← hsplit, left_eq_add, total_eq_zero hposq, List.filter_eq_nil_iff]
  simp only [List.mem_filter, Bool.not_eq_true', Bool.not_eq_false, and_imp]

end Positive

/-- Counting is totalling ones. -/
theorem total_one {α : Type} (rows : List α) : total (fun _ => 1) rows = rows.length := by
  simp [total]

/-- The rows filed under a key, where the absence of the key means that there are none. -/
theorem getD_lookup {α κ : Type} [DecidableEq κ] (rowsOf : κ → List α) {k : κ} :
    ∀ {groups : List (κ × List α)}, (∀ group ∈ groups, group.2 = rowsOf group.1) →
      (k ∉ groups.map Prod.fst → rowsOf k = []) → (groups.lookup k).getD [] = rowsOf k
  | [], _, habsent => (habsent List.not_mem_nil).symm
  | (key, rows) :: groups, hgroups, habsent => by
      rw [List.lookup_cons]
      by_cases hkey : k = key
      · subst hkey
        simpa using hgroups (k, rows) List.mem_cons_self
      · have hne : (k == key) = false := beq_eq_false_iff_ne.2 hkey
        rw [hne]
        refine getD_lookup rowsOf (fun group hgroup => hgroups group (List.mem_cons_of_mem _ hgroup)) ?_
        intro hmem
        refine habsent ?_
        simp [hkey, hmem]

end Foundations
end RosarioDairy
