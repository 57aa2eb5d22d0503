import Mathlib.Data.List.Induction
import RosarioDairy.Foundations.Partition

/-!
# Tallies — totals kept under their keys

A dictionary of totals that is filled in one pass over the items, every key starting from zero when it
first occurs.
-/

namespace RosarioDairy
namespace Foundations

variable {A K M : Type} [DecidableEq K] [AddCommMonoid M]

/-! ## One entry -/

/-- Add an amount to the total of a key. -/
def credit (k : K) (amount : M) : List (K × M) → List (K × M)
  | [] => [(k, 0 + amount)]
  | (k', sum) :: table =>
      if k' = k then (k', sum + amount) :: table else (k', sum) :: credit k amount table

theorem mem_keys_credit {k : K} {amount : M} : ∀ {table : List (K × M)} {k' : K},
    k' ∈ (credit k amount table).map Prod.fst ↔ k' ∈ table.map Prod.fst ∨ k' = k
  | [], k' => by simp [credit]
  | (key, sum) :: table, k' => by
      have ih : k' ∈ (credit k amount table).map Prod.fst ↔ k' ∈ table.map Prod.fst ∨ k' = k :=
        mem_keys_credit
      unfold credit
      by_cases hkey : key = k
      · rw [if_pos hkey, List.map_cons, List.map_cons, List.mem_cons, hkey]
        tauto
      · rw [if_neg hkey, List.map_cons, List.map_cons, List.mem_cons, List.mem_cons, ih]
        tauto

theorem nodup_keys_credit {k : K} {amount : M} : ∀ {table : List (K × M)},
    (table.map Prod.fst).Nodup → ((credit k amount table).map Prod.fst).Nodup
  | [], _ => by simp [credit]
  | (key, sum) :: table, hnodup => by
      obtain ⟨hfresh, hnodup⟩ := List.nodup_cons.1 hnodup
      unfold credit
      by_cases hkey : key = k
      · rw [if_pos hkey]
        exact List.nodup_cons.2 ⟨hfresh, hnodup⟩
      · rw [if_neg hkey]
        refine List.nodup_cons.2 ⟨?_, nodup_keys_credit hnodup⟩
        intro hmem
        rcases mem_keys_credit.1 hmem with hold | hEq
        · exact hfresh hold
        · exact hkey hEq

/-- A row of the new table: another key's as it was, or the key's own with the amount added. -/
theorem mem_credit {k : K} {amount : M} : ∀ {table : List (K × M)} {k' : K} {sum : M},
    (table.map Prod.fst).Nodup → (k', sum) ∈ credit k amount table →
      (k' ≠ k ∧ (k', sum) ∈ table) ∨
        (k' = k ∧ ∃ before, sum = before + amount ∧
          ((k, before) ∈ table ∨ (k ∉ table.map Prod.fst ∧ before = 0)))
  | [], k', sum, _, hmem => by
      obtain ⟨rfl, rfl⟩ : k' = k ∧ sum = 0 + amount := by simpa [credit] using hmem
      exact Or.inr ⟨rfl, 0, rfl, Or.inr ⟨by simp, rfl⟩⟩
  | (key, old) :: table, k', sum, hnodup, hmem => by
      obtain ⟨hfresh, hnodup⟩ := List.nodup_cons.1 hnodup
      unfold credit at hmem
      by_cases hkey : key = k
      · -- the entry of the key takes the amount; no other entry has this key
        subst hkey
        rw [if_pos rfl] at hmem
        rcases List.mem_cons.1 hmem with hEq | hlater
        · obtain ⟨rfl, rfl⟩ := Prod.mk.inj hEq
          exact Or.inr ⟨rfl, old, rfl, Or.inl List.mem_cons_self⟩
        · refine Or.inl ⟨?_, List.mem_cons_of_mem _ hlater⟩
          intro hEq
          have hin : k' ∈ table.map Prod.fst := List.mem_map_of_mem (f := Prod.fst) hlater
          exact hfresh (hEq ▸ hin)
      · -- another key's entry stays, and the amount goes further down
        rw [if_neg hkey] at hmem
        rcases List.mem_cons.1 hmem with hEq | hlater
        · obtain ⟨rfl, rfl⟩ := Prod.mk.inj hEq
          exact Or.inl ⟨hkey, List.mem_cons_self⟩
        · rcases mem_credit hnodup hlater with ⟨hne, hold⟩ | ⟨rfl, before, hsum, hold | hnew⟩
          · exact Or.inl ⟨hne, List.mem_cons_of_mem _ hold⟩
          · exact Or.inr ⟨rfl, before, hsum, Or.inl (List.mem_cons_of_mem _ hold)⟩
          · refine Or.inr ⟨rfl, before, hsum, Or.inr ⟨?_, hnew.2⟩⟩
            intro hin
            rcases List.mem_cons.1 hin with hEq | hin
            · exact hkey hEq.symm
            · exact hnew.1 hin

theorem total_credit (k : K) (amount : M) : ∀ table : List (K × M),
    total Prod.snd (credit k amount table) = total Prod.snd table + amount
  | [] => by simp [credit, total]
  | (key, sum) :: table => by
      have ih := total_credit k amount table
      unfold credit
      by_cases hkey : key = k
      · rw [if_pos hkey]
        simp [total, add_right_comm]
      · rw [if_neg hkey]
        simp only [total, List.map_cons, List.sum_cons] at ih ⊢
        rw [ih, add_assoc]

/-! ## A pass over the items -/

/-- The totals of a value over the items of each key. -/
def tally (key : A → K) (value : A → M) (items : List A) : List (K × M) :=
  items.foldl (fun table item => credit (key item) (value item) table) []

section Pass

variable {key : A → K} {value : A → M}

theorem tally_append_one (items : List A) (item : A) :
    tally key value (items ++ [item]) = credit (key item) (value item) (tally key value items) :=
  List.foldl_append

theorem nodup_keys_tally (items : List A) : ((tally key value items).map Prod.fst).Nodup := by
  induction items using List.reverseRecOn with
  | nil => exact List.nodup_nil
  | append_singleton items item ih =>
      rw [tally_append_one]
      exact nodup_keys_credit ih

theorem mem_keys_tally (items : List A) (k : K) :
    k ∈ (tally key value items).map Prod.fst ↔ ∃ item ∈ items, key item = k := by
  induction items using List.reverseRecOn with
  | nil => simp [tally]
  | append_singleton items item ih =>
      rw [tally_append_one, mem_keys_credit, ih]
      simp [or_and_right, exists_or, eq_comm]

/-- The total of a key is that of its items. -/
theorem mem_tally {items : List A} {k : K} {sum : M} (h : (k, sum) ∈ tally key value items) :
    sum = total value (items.filter fun item => decide (key item = k)) := by
  induction items using List.reverseRecOn generalizing sum with
  | nil => simp [tally] at h
  | append_singleton items item ih =>
      rw [tally_append_one] at h
      rw [List.filter_append, total_append]
      rcases mem_credit (nodup_keys_tally items) h with ⟨hne, hold⟩ | ⟨rfl, before, rfl, hbefore⟩
      · have hothers : ([item].filter fun item => decide (key item = k)) = [] := by
          simp [Ne.symm hne]
        rw [hothers, total_nil, add_zero]
        exact ih hold
      · have hown : ([item].filter fun other => decide (key other = key item)) = [item] := by
          simp
        rw [hown]
        congr 1
        · rcases hbefore with hold | ⟨hnew, rfl⟩
          · exact ih hold
          · -- the key has not occurred before
            have hnone : (items.filter fun other => decide (key other = key item)) = [] := by
              refine List.filter_eq_nil_iff.2 ?_
              intro other hother hEq
              exact hnew ((mem_keys_tally items _).2 ⟨other, hother, of_decide_eq_true hEq⟩)
            rw [hnone, total_nil]
        · simp [total]

theorem total_tally (items : List A) : total Prod.snd (tally key value items) = total value items := by
  induction items using List.reverseRecOn with
  | nil => rfl
  | append_singleton items item ih =>
      rw [tally_append_one, total_credit, ih, total_append]
      simp [total]

end Pass

end Foundations
end RosarioDairy
