import RosarioDairy.Foundations.Buckets

/-!
# Repeats — the classes of rows that share a key

Rows are divided into classes by a key; a key is repeated when its class has more than one row.
-/

namespace RosarioDairy
namespace Foundations

variable {A K : Type} [DecidableEq K] (key : A → K)

/-- The rows with a key. -/
def classOf (rows : List A) (k : K) : List A := rows.filter fun row => decide (key row = k)

variable {key}

theorem mem_classOf {rows : List A} {k : K} {row : A} :
    row ∈ classOf key rows k ↔ row ∈ rows ∧ key row = k := by
  rw [classOf, List.mem_filter, decide_eq_true_iff]

/-- Rows of one class that differ in a value within every class. -/
theorem pairwise_of_classOf {B : Type} {value : A → B} {rows : List A}
    (h : ∀ k, ((classOf key rows k).map value).Nodup) :
    rows.Pairwise fun a b => key a = key b → value a ≠ value b := by
  induction rows with
  | nil => exact List.Pairwise.nil
  | cons a rows ih =>
      refine List.pairwise_cons.2 ⟨?_, ih fun k => ?_⟩
      · intro b hb hkey
        have hclass := h (key a)
        have hown : classOf key (a :: rows) (key a) = a :: classOf key rows (key a) := by
          simp [classOf]
        rw [hown, List.map_cons, List.nodup_cons] at hclass
        intro hvalue
        refine hclass.1 (hvalue ▸ List.mem_map_of_mem ?_)
        exact mem_classOf.2 ⟨hb, hkey.symm⟩
      · have hsub : (classOf key rows k).Sublist (classOf key (a :: rows) k) :=
          (List.sublist_cons_self a rows).filter _
        exact (hsub.map value).nodup (h k)

end Foundations
end RosarioDairy
