import Mathlib.Algebra.Order.Ring.Int
import Mathlib.Algebra.BigOperators.Group.Finset.Piecewise
import RosarioDairy.Foundations.Journal
import RosarioDairy.Foundations.Table

/-!
# Grouping — sums over rows, key by key

Totals over the rows of a table, or over entries that refer to them by key, regrouped as sums over
the keys below a bound.
-/

namespace RosarioDairy
namespace Foundations

/-- A sum over the entries of some keys is the sum of the sums of each key. -/
theorem sum_filter_mem {ι : Type} (f : ι → Nat) (g : ι → Int) {keys : List Nat} {N : Nat}
    (hkeys : ∀ k ∈ keys, k < N) : ∀ l : List ι,
    ((l.filter (fun x => f x ∈ keys)).map g).sum =
      ∑ k ∈ Finset.range N, if k ∈ keys then ((l.filter (fun x => f x = k)).map g).sum else 0
  | [] => by simp
  | x :: l => by
      have ih := sum_filter_mem f g hkeys l
      have hsplit : ∀ k ∈ Finset.range N,
          (if k ∈ keys then (((x :: l).filter (fun y => f y = k)).map g).sum else 0) =
            (if k = f x then (if f x ∈ keys then g x else 0) else 0) +
              (if k ∈ keys then ((l.filter (fun y => f y = k)).map g).sum else 0) := by
        intro k _
        by_cases hk : k = f x
        · subst hk
          by_cases hmem : f x ∈ keys
          · simp [hmem]
          · simp [hmem]
        · have hne : ¬ f x = k := fun h => hk h.symm
          simp [hk, hne]
      rw [Finset.sum_congr rfl hsplit, Finset.sum_add_distrib, ← ih, Finset.sum_ite_eq']
      by_cases hmem : f x ∈ keys
      · simp [hmem, hkeys]
      · simp [hmem]

/-- A sum over rows with distinct keys, key by key. -/
theorem sum_by_key {R : Type} [Row R] (g : R → Int) {N : Nat} :
    ∀ {rows : List R}, (rows.map Row.pk).Nodup → (∀ r ∈ rows, Row.pk r < N) →
      (rows.map g).sum = ∑ k ∈ Finset.range N,
        ((rows.find? (fun r => Row.pk r = k)).map g).getD 0
  | [], _, _ => by simp
  | row :: rows, hnodup, hbelow => by
      rcases List.nodup_cons.1 hnodup with ⟨hfresh, hnodup'⟩
      have ih := sum_by_key g hnodup' (fun r hr => hbelow r (by simp [hr]))
      have hsplit : ∀ k ∈ Finset.range N,
          (((row :: rows).find? (fun r => Row.pk r = k)).map g).getD 0 =
            (if k = Row.pk row then g row else 0) +
              ((rows.find? (fun r => Row.pk r = k)).map g).getD 0 := by
        intro k _
        by_cases hk : k = Row.pk row
        · subst hk
          have hnone : rows.find? (fun r => Row.pk r = Row.pk row) = none := by
            refine List.find?_eq_none.2 ?_
            intro r hr hEq
            exact hfresh (List.mem_map.2 ⟨r, hr, by simpa using hEq⟩)
          simp [hnone]
        · have hne : ¬ Row.pk row = k := fun h => hk h.symm
          simp [hk, hne]
      have hrow : Row.pk row < N := hbelow row (by simp)
      rw [Finset.sum_congr rfl hsplit, Finset.sum_add_distrib, ← ih, Finset.sum_ite_eq']
      simp [hrow]

/-- A sum over the rows of a table that satisfy `p`, key by key. -/
theorem Table.sum_filter {R : Type} [Row R] (t : Table R) (p : R → Bool) (g : R → Int) {N : Nat}
    (hN : t.next ≤ N) :
    ((t.rows.filter p).map g).sum =
      ∑ k ∈ Finset.range N, ((t.find k).map (fun r => if p r then g r else 0)).getD 0 := by
  have hbelow : ∀ r ∈ t.rows, Row.pk r < N := fun r hr => Nat.lt_of_lt_of_le (t.below r hr) hN
  have hfilter : ∀ rows : List R, ((rows.filter p).map g).sum =
      (rows.map (fun r => if p r then g r else 0)).sum := by
    intro rows
    induction rows with
    | nil => rfl
    | cons row rows ih =>
        by_cases hp : p row
        · simp [hp, ih]
        · simp [hp, ih]
  rw [hfilter]
  exact sum_by_key _ t.nodup hbelow

/-- The total of the entries that satisfy `w`, over what the entries were made from. -/
theorem Journal.total_map_filter {ι : Type} (entry : ι → Entry) (w : Entry → Bool) (l : List ι) :
    total ((l.map entry).filter w) =
      ((l.filter (fun x => w (entry x))).map (fun x => (entry x).quantity)).sum := by
  simp [total, List.filter_map, Function.comp_def]

/-- The booked total of the entries of some keys is the sum of the totals of each key. -/
theorem Journal.total_filter_mem {ι : Type} (f : ι → Nat) (entry : ι → Entry) (w : Entry → Bool)
    {keys : List Nat} {N : Nat} (hkeys : ∀ k ∈ keys, k < N) (l : List ι) :
    total (((l.filter (fun x => f x ∈ keys)).map entry).filter w) =
      ∑ k ∈ Finset.range N, if k ∈ keys then
        total (((l.filter (fun x => f x = k)).map entry).filter w) else 0 := by
  have hkey := sum_filter_mem f (fun x => (entry x).quantity) hkeys
    (l.filter (fun x => w (entry x)))
  simp only [total_map_filter, List.filter_filter]
  simp only [List.filter_filter] at hkey
  simpa only [Bool.and_comm] using hkey

end Foundations
end RosarioDairy
