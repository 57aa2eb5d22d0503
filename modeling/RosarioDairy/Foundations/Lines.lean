import Mathlib.Data.List.Basic

/-!
# Lines — texts that end with a terminator each

Lines are written one after the other, each followed by a character that no line has in it; what is
written can be cut back into the lines in one way only.  A text that is read with universal newlines
comes back as it was written when no carriage return is in it.
-/

namespace RosarioDairy
namespace Foundations

variable {α : Type}

/-- The lines, each with its terminator. -/
def terminated (stop : α) (lines : List (List α)) : List α :=
  lines.flatMap fun line => line ++ [stop]

theorem terminated_cons (stop : α) (line : List α) (lines : List (List α)) :
    terminated stop (line :: lines) = line ++ stop :: terminated stop lines := by
  simp [terminated]

/-- Up to the first terminator a text holds its first line. -/
theorem append_terminator_inj {stop : α} {line line' rest rest' : List α} (hline : stop ∉ line)
    (hline' : stop ∉ line') (h : line ++ stop :: rest = line' ++ stop :: rest') :
    line = line' ∧ rest = rest' := by
  rcases List.append_eq_append_iff.1 h with ⟨more, hEq, htail⟩ | ⟨more, hEq, htail⟩
  · -- the second line may be longer, but then it has the terminator in it
    cases more with
    | nil => exact ⟨by simpa using hEq.symm, by simpa using htail⟩
    | cons c more =>
        obtain ⟨rfl, -⟩ := List.cons.inj htail
        exact absurd (hEq ▸ List.mem_append_right line List.mem_cons_self) hline'
  · cases more with
    | nil => exact ⟨by simpa using hEq, by simpa using htail.symm⟩
    | cons c more =>
        obtain ⟨rfl, -⟩ := List.cons.inj htail
        exact absurd (hEq ▸ List.mem_append_right line' List.mem_cons_self) hline

/-- Different lines are written differently. -/
theorem terminated_inj {stop : α} {lines lines' : List (List α)}
    (hlines : ∀ line ∈ lines, stop ∉ line) (hlines' : ∀ line ∈ lines', stop ∉ line)
    (h : terminated stop lines = terminated stop lines') : lines = lines' := by
  induction lines generalizing lines' with
  | nil =>
      cases lines' with
      | nil => rfl
      | cons line' lines' =>
          rw [terminated_cons] at h
          simp [terminated] at h
  | cons line lines ih =>
      cases lines' with
      | nil =>
          rw [terminated_cons] at h
          simp [terminated] at h
      | cons line' lines' =>
          rw [terminated_cons, terminated_cons] at h
          obtain ⟨hline, hrest⟩ := append_terminator_inj (hlines line List.mem_cons_self)
            (hlines' line' List.mem_cons_self) h
          have hlater := ih (fun l hl => hlines l (List.mem_cons_of_mem _ hl))
            (fun l hl => hlines' l (List.mem_cons_of_mem _ hl)) hrest
          rw [hline, hlater]

/-! ## Universal newlines -/

/-- A carriage return, alone or with the line feed behind it, is read as a line feed. -/
def universalNewlines : List Char → List Char
  | [] => []
  | '\r' :: '\n' :: rest => '\n' :: universalNewlines rest
  | c :: rest => (if c = '\r' then '\n' else c) :: universalNewlines rest

theorem not_mem_universalNewlines (text : List Char) : '\r' ∉ universalNewlines text := by
  fun_induction universalNewlines text with
  | case1 => exact List.not_mem_nil
  | case2 rest ih => simp [ih]
  | case3 c rest _ ih =>
      rw [List.mem_cons, not_or]
      refine ⟨?_, ih⟩
      split
      · decide
      · rename_i hc
        exact Ne.symm hc

theorem universalNewlines_eq_self {text : List Char} (h : '\r' ∉ text) :
    universalNewlines text = text := by
  fun_induction universalNewlines text with
  | case1 => rfl
  | case2 rest ih => exact absurd List.mem_cons_self h
  | case3 c rest _ ih =>
      rw [List.mem_cons, not_or] at h
      rw [if_neg (Ne.symm h.1), ih h.2]

end Foundations
end RosarioDairy
