import Mathlib.Algebra.Order.Ring.Int
import Mathlib.Algebra.BigOperators.Group.List.Basic

/-!
# Journal — dated entries and what they add up to

A journal is a list of dated quantities.  `total` adds all of them, `within a b` those of the days
`a` to `b`, `after d` those of the days past `d`.  A balance that moves with its journal can be
taken back to an earlier day by undoing the entries after that day.
-/

namespace RosarioDairy
namespace Foundations

structure Entry where
  day : Int
  quantity : Int
  deriving DecidableEq, Repr

namespace Journal

/-- The sum of all entries. -/
def total (entries : List Entry) : Int := (entries.map Entry.quantity).sum

/-- The sum of the entries after day `d`. -/
def after (d : Int) (entries : List Entry) : Int :=
  total (entries.filter (fun entry => d < entry.day))

/-- The sum of the entries from day `a` to day `b`. -/
def within (a b : Int) (entries : List Entry) : Int :=
  total (entries.filter (fun entry => a ≤ entry.day ∧ entry.day ≤ b))

/-- Every entry is of a day from `a` to `b`. -/
def Between (a b : Int) (entries : List Entry) : Prop :=
  ∀ entry ∈ entries, a ≤ entry.day ∧ entry.day ≤ b

@[simp] theorem total_nil : total [] = 0 := rfl

@[simp] theorem total_cons (entry : Entry) (entries : List Entry) :
    total (entry :: entries) = entry.quantity + total entries := by
  simp [total]

@[simp] theorem total_append (l l' : List Entry) : total (l ++ l') = total l + total l' := by
  simp [total]

@[simp] theorem after_append (d : Int) (l l' : List Entry) :
    after d (l ++ l') = after d l + after d l' := by
  simp [after]

@[simp] theorem after_singleton (d : Int) (entry : Entry) :
    after d [entry] = if d < entry.day then entry.quantity else 0 := by
  by_cases h : d < entry.day
  · simp [after, h]
  · simp [after, h]

theorem between_nil (a b : Int) : Between a b [] := by
  simp [Between]

theorem between_concat {a b : Int} {l : List Entry} {entry : Entry} (h : Between a b l)
    (hentry : a ≤ entry.day ∧ entry.day ≤ b) : Between a b (l ++ [entry]) := by
  intro e he
  rcases List.mem_append.1 he with hold | hnew
  · exact h e hold
  · have hEq : e = entry := by simpa using hnew
    exact hEq ▸ hentry

theorem Between.mono {a b b' : Int} {l : List Entry} (h : Between a b l) (hb : b ≤ b') :
    Between a b' l := by
  intro entry hentry
  exact ⟨(h entry hentry).1, Int.le_trans (h entry hentry).2 hb⟩

/-- Nothing is after a day that all entries lie up to. -/
theorem after_eq_zero {a b d : Int} {l : List Entry} (h : Between a b l) (hd : b ≤ d) :
    after d l = 0 := by
  have hnone : l.filter (fun entry => d < entry.day) = [] := by
    refine List.filter_eq_nil_iff.2 ?_
    intro entry hentry
    have hle := (h entry hentry).2
    simpa using Int.le_trans hle hd
  simp [after, hnone]

/-- Everything is after a day that all entries lie past. -/
theorem after_eq_total {a b d : Int} {l : List Entry} (h : Between a b l) (hd : d < a) :
    after d l = total l := by
  have hall : l.filter (fun entry => d < entry.day) = l := by
    refine List.filter_eq_self.2 ?_
    intro entry hentry
    have hle := (h entry hentry).1
    simpa using Int.lt_of_lt_of_le hd hle
  simp [after, hall]

/-- Splitting the entries after `a - 1` at the end of day `b`. -/
theorem after_eq_within_add_after {a b : Int} (hab : a ≤ b + 1) :
    ∀ l : List Entry, after (a - 1) l = within a b l + after b l
  | [] => rfl
  | entry :: l => by
      have ih := after_eq_within_add_after hab l
      -- the entry is dated before the days, within them, or after them
      have hcases : entry.day < a ∨ (a ≤ entry.day ∧ entry.day ≤ b) ∨ b < entry.day := by omega
      unfold after within at ih ⊢
      rcases hcases with h | ⟨h, h'⟩ | h
      · have h₁ : ¬ a - 1 < entry.day := by omega
        have h₂ : ¬ (a ≤ entry.day ∧ entry.day ≤ b) := by omega
        have h₃ : ¬ b < entry.day := by omega
        simp only [List.filter_cons, h₁, h₂, h₃, decide_false, Bool.false_eq_true, if_false]
        exact ih
      · have h₁ : a - 1 < entry.day := by omega
        have h₃ : ¬ b < entry.day := by omega
        simp only [List.filter_cons, h₁, h, h', h₃, decide_true, decide_false, and_self, if_true,
          total_cons]
        simp only [Bool.false_eq_true, if_false]
        omega
      · have h₁ : a - 1 < entry.day := by omega
        have h₂ : ¬ (a ≤ entry.day ∧ entry.day ≤ b) := by omega
        simp only [List.filter_cons, h₁, h₂, h, decide_true, decide_false, if_true, total_cons]
        simp only [Bool.false_eq_true, if_false]
        omega

end Journal

end Foundations
end RosarioDairy
