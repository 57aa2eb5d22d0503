import Mathlib.Data.Set.Basic

/-!
# Saturation — passes repeated until one adds nothing

A work-list is passed over again and again; every pass counts what it added, and the first pass that
added nothing is the last.  The passes come to an end when a finite amount remains to be added, and
what they leave is closed when a pass that adds nothing has looked at everything.
-/

namespace RosarioDairy
namespace Foundations

/-! ## Closed sets -/

/-- A set that a relation does not lead out of. -/
def ClosedUnder {X : Type} (next : X → X → Prop) (S : Set X) : Prop :=
  ∀ ⦃x⦄, x ∈ S → ∀ ⦃y⦄, next x y → y ∈ S

/-! ## Visits of a pass -/

section Visits

variable {S X : Type} {Extends : S → S → Prop} {visit : S → X → S}

theorem foldl_extends (hrefl : ∀ s, Extends s s)
    (htrans : ∀ {s s' s''}, Extends s s' → Extends s' s'' → Extends s s'')
    {xs : List X} (hvisit : ∀ s, ∀ x ∈ xs, Extends s (visit s x)) (s : S) :
    Extends s (xs.foldl visit s) := by
  induction xs generalizing s with
  | nil => exact hrefl s
  | cons x xs ih =>
      have hfirst : Extends s (visit s x) := hvisit s x List.mem_cons_self
      exact htrans hfirst (ih (fun s x hx => hvisit s x (List.mem_cons_of_mem _ hx)) (visit s x))

/-- Every element is visited, at a state that extends the first and is extended by the last. -/
theorem foldl_visits (hrefl : ∀ s, Extends s s)
    (htrans : ∀ {s s' s''}, Extends s s' → Extends s' s'' → Extends s s'')
    {xs : List X} (hvisit : ∀ s, ∀ x ∈ xs, Extends s (visit s x)) {x : X} (hx : x ∈ xs) (s : S) :
    ∃ before, Extends s before ∧ Extends (visit before x) (xs.foldl visit s) := by
  obtain ⟨earlier, later, rfl⟩ := List.append_of_mem hx
  refine ⟨earlier.foldl visit s, foldl_extends hrefl htrans ?_ s, ?_⟩
  · intro s x hx
    exact hvisit s x (List.mem_append_left _ hx)
  · rw [List.foldl_append, List.foldl_cons]
    refine foldl_extends hrefl htrans ?_ _
    intro s x hx
    exact hvisit s x (List.mem_append_right _ (List.mem_cons_of_mem _ hx))

end Visits

/-! ## Passes -/

section Passes

variable {S : Type}

/-- Repeat a pass until it adds nothing; nothing is returned when the passes run out before. -/
def saturate (pass : S → S × Nat) : Nat → S → Option S
  | 0, _ => none
  | passes + 1, s =>
      if (pass s).2 = 0 then some (pass s).1 else saturate pass passes (pass s).1

variable {pass : S → S × Nat}

/-- Each pass takes what it adds from what remains, so the passes end. -/
theorem saturate_terminates {remaining : S → Nat}
    (htakes : ∀ s, remaining (pass s).1 + (pass s).2 ≤ remaining s) {passes : Nat} {s : S}
    (henough : remaining s < passes) : ∃ result, saturate pass passes s = some result := by
  induction passes generalizing s with
  | zero => exact absurd henough (Nat.not_lt_zero _)
  | succ passes ih =>
      by_cases hidle : (pass s).2 = 0
      · exact ⟨(pass s).1, if_pos hidle⟩
      · have hless : remaining (pass s).1 < passes := by
          have hle := htakes s
          omega
        obtain ⟨result, hresult⟩ := ih hless
        exact ⟨result, (if_neg hidle).trans hresult⟩

/-- More passes than needed change nothing. -/
theorem saturate_mono {passes more : Nat} {s result : S} (h : saturate pass passes s = some result)
    (hle : passes ≤ more) : saturate pass more s = some result := by
  induction passes generalizing more s with
  | zero => cases h
  | succ passes ih =>
      obtain ⟨more, rfl⟩ : ∃ k, more = k + 1 := ⟨more - 1, by omega⟩
      rw [saturate] at h ⊢
      by_cases hidle : (pass s).2 = 0
      · rw [if_pos hidle] at h ⊢
        exact h
      · rw [if_neg hidle] at h ⊢
        exact ih h (Nat.le_of_succ_le_succ hle)

/-- What the passes leave: the state after a pass that added nothing, under every invariant. -/
theorem saturate_result {Inv : S → Prop} (hpass : ∀ s, Inv s → Inv (pass s).1) {passes : Nat}
    {s result : S} (hs : Inv s) (h : saturate pass passes s = some result) :
    ∃ last, Inv last ∧ (pass last).2 = 0 ∧ result = (pass last).1 := by
  induction passes generalizing s with
  | zero => cases h
  | succ passes ih =>
      rw [saturate] at h
      by_cases hidle : (pass s).2 = 0
      · rw [if_pos hidle] at h
        exact ⟨s, hs, hidle, (Option.some.inj h).symm⟩
      · rw [if_neg hidle] at h
        exact ih (hpass s hs) h

end Passes

end Foundations
end RosarioDairy
