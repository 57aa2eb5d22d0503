import Mathlib.Algebra.BigOperators.Group.List.Basic
import Mathlib.Algebra.Order.Group.Defs

/-!
# Apportion — splitting a rounded amount over parts

The running total of the parts is rounded after every part, and each part gets the difference of two
neighbouring roundings.  Nothing is lost: the shares add up to the rounding of the whole.
-/

namespace RosarioDairy
namespace Foundations

/-- Every part with its share, where `total` is what the earlier parts came to. -/
def apportion {α β : Type} [Add α] [Sub β] (round : α → β) : α → List α → List (α × β)
  | _, [] => []
  | total, part :: parts =>
      (part, round (total + part) - round total) :: apportion round (total + part) parts

section Parts

variable {α β : Type} [AddMonoid α] [AddCommGroup β] (round : α → β)

theorem map_fst_apportion (total : α) (parts : List α) :
    (apportion round total parts).map Prod.fst = parts := by
  induction parts generalizing total with
  | nil => rfl
  | cons part parts ih => rw [apportion, List.map_cons, ih]

/-- The shares telescope. -/
theorem sum_apportion (total : α) (parts : List α) :
    ((apportion round total parts).map Prod.snd).sum =
      round (total + parts.sum) - round total := by
  induction parts generalizing total with
  | nil => simp [apportion]
  | cons part parts ih =>
      calc ((apportion round total (part :: parts)).map Prod.snd).sum
          = (round (total + part) - round total) +
              ((apportion round (total + part) parts).map Prod.snd).sum := by
            rw [apportion, List.map_cons, List.sum_cons]
        _ = (round (total + part) - round total) +
              (round (total + part + parts.sum) - round (total + part)) := by rw [ih]
        _ = round (total + (part :: parts).sum) - round total := by
            rw [List.sum_cons, ← add_assoc, add_comm, sub_add_sub_cancel]

end Parts

section Order

variable {α β : Type} [AddCommGroup α] [PartialOrder α] [IsOrderedAddMonoid α] [AddCommGroup β]
  {round : α → β}

/-- A share is the difference of two roundings, of totals that are not negative. -/
theorem mem_apportion {parts : List α} (hparts : ∀ part ∈ parts, 0 ≤ part) {share : α × β} :
    ∀ {total : α}, 0 ≤ total → share ∈ apportion round total parts →
      0 ≤ share.1 ∧ ∃ before, 0 ≤ before ∧ share.2 = round (before + share.1) - round before := by
  induction parts with
  | nil =>
      intro total _ h
      cases h
  | cons part parts ih =>
      intro total htotal h
      have hpart : 0 ≤ part := hparts part List.mem_cons_self
      rcases List.mem_cons.1 h with rfl | hlater
      · exact ⟨hpart, total, htotal, rfl⟩
      · exact ih (fun p hp => hparts p (List.mem_cons_of_mem _ hp)) (add_nonneg htotal hpart) hlater

/-- Shares of parts that are not negative are not negative, if rounding is monotone. -/
theorem apportion_nonneg [PartialOrder β] [IsOrderedAddMonoid β]
    (hround : ∀ a b : α, 0 ≤ a → a ≤ b → round a ≤ round b) {parts : List α}
    (hparts : ∀ part ∈ parts, 0 ≤ part) {total : α} (htotal : 0 ≤ total) {share : α × β}
    (hshare : share ∈ apportion round total parts) : 0 ≤ share.2 := by
  rcases mem_apportion hparts htotal hshare with ⟨hpart, before, hbefore, hEq⟩
  rw [hEq, sub_nonneg]
  exact hround before (before + share.1) hbefore (le_add_of_nonneg_right hpart)

end Order

end Foundations
end RosarioDairy
