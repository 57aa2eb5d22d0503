import Mathlib.Data.List.Nodup
import Mathlib.Logic.Function.Basic

/-!
# Buckets — values collected under their keys

A dictionary of lists that is filled in one pass over the items, every key starting from the empty
list, and the keys of a list in the order in which they first occur.
-/

namespace RosarioDairy
namespace Foundations

variable {A K V : Type} [DecidableEq K]

/-! ## One pass over the items -/

/-- Append the value of an item to the bucket of its key. -/
def push (key : A → K) (value : A → V) (buckets : K → List V) (item : A) : K → List V :=
  Function.update buckets (key item) (buckets (key item) ++ [value item])

/-- The buckets after a pass over the items. -/
def collect (key : A → K) (value : A → V) (items : List A) : K → List V :=
  items.foldl (push key value) fun _ => []

theorem foldl_push (key : A → K) (value : A → V) (k : K) :
    ∀ (items : List A) (buckets : K → List V), items.foldl (push key value) buckets k =
      buckets k ++ (items.filter fun item => decide (key item = k)).map value
  | [], buckets => by simp
  | item :: items, buckets => by
      rw [List.foldl_cons, foldl_push key value k items]
      by_cases h : key item = k
      · subst h
        simp [push]
      · have hne : k ≠ key item := fun hEq => h hEq.symm
        simp [push, h, hne]

/-- A bucket holds the values of the items with its key, in their order. -/
theorem collect_apply (key : A → K) (value : A → V) (items : List A) (k : K) :
    collect key value items k = (items.filter fun item => decide (key item = k)).map value := by
  rw [collect, foldl_push, List.nil_append]

/-- Items left out beforehand are only missed in the buckets of their own keys. -/
theorem collect_filter (key : A → K) (value : A → V) (keep : K → Bool) (items : List A) {k : K}
    (hkeep : keep k = true) :
    collect key value (items.filter fun item => keep (key item)) k = collect key value items k := by
  rw [collect_apply, collect_apply, List.filter_filter]
  congr 1
  apply List.filter_congr
  intro item _
  by_cases h : key item = k
  · simp [h, hkeep]
  · simp [h]

/-! ## Distinct keys -/

omit [DecidableEq K] in
theorem nodup_eraseDups [BEq K] [LawfulBEq K] : ∀ keys : List K, keys.eraseDups.Nodup
  | [] => by simp
  | k :: keys => by
      rw [List.eraseDups_cons, List.nodup_cons]
      refine ⟨?_, nodup_eraseDups _⟩
      intro hmem
      have hkept := (List.mem_filter.1 (List.mem_eraseDups.1 hmem)).2
      simp at hkept
termination_by keys => keys.length
decreasing_by exact Nat.lt_succ_of_le (List.length_filter_le _ keys)

end Foundations
end RosarioDairy
