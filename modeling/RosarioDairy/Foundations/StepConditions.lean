import RosarioDairy.Foundations.Checked

/-!
# StepConditions — runs whose steps meet a condition

A condition on the steps of a run looks at the state before the step.  An invariant that every step
keeps under the condition holds in every state of a run whose steps all meet it.
-/

namespace RosarioDairy
namespace Foundations

variable {σ ι : Type} {step : σ → ι → σ}

/-- Every step of the run meets the condition in the state it starts from. -/
def EachStep (step : σ → ι → σ) (P : σ → ι → Prop) : σ → List ι → Prop
  | _, [] => True
  | s, op :: ops => P s op ∧ EachStep step P (step s op) ops

theorem EachStep.append {P : σ → ι → Prop} {ops ops' : List ι} :
    ∀ {s : σ}, EachStep step P s (ops ++ ops') ↔
      EachStep step P s ops ∧ EachStep step P (runAll step s ops) ops' := by
  induction ops with
  | nil => exact ⟨fun h => ⟨trivial, h⟩, fun h => h.2⟩
  | cons op ops ih =>
      intro s
      constructor
      · rintro ⟨hop, hrest⟩
        obtain ⟨hops, hops'⟩ := ih.1 hrest
        exact ⟨⟨hop, hops⟩, hops'⟩
      · rintro ⟨⟨hop, hops⟩, hops'⟩
        exact ⟨hop, ih.2 ⟨hops, hops'⟩⟩

theorem EachStep.imp {P Q : σ → ι → Prop} (hPQ : ∀ s op, P s op → Q s op) {ops : List ι} :
    ∀ {s : σ}, EachStep step P s ops → EachStep step Q s ops := by
  induction ops with
  | nil => exact fun h => h
  | cons op ops ih => exact fun h => ⟨hPQ _ op h.1, ih h.2⟩

/-- An invariant that steps keep under the condition. -/
theorem EachStep.preserves {I : σ → Prop} {P : σ → ι → Prop}
    (hstep : ∀ s op, I s → P s op → I (step s op)) {ops : List ι} :
    ∀ {s : σ}, I s → EachStep step P s ops → I (runAll step s ops) := by
  induction ops with
  | nil => exact fun hs _ => hs
  | cons op ops ih => exact fun hs h => ih (hstep _ op hs h.1) h.2

/-- A condition on every step, step by step. -/
theorem EachStep.of_prefixes {P : σ → ι → Prop} {ops : List ι} :
    ∀ {s : σ}, (∀ pre op post, ops = pre ++ op :: post → P (runAll step s pre) op) →
      EachStep step P s ops := by
  induction ops with
  | nil => exact fun _ => trivial
  | cons op ops ih =>
      intro s h
      refine ⟨h [] op ops rfl, ih fun pre op' post hops => ?_⟩
      exact h (op :: pre) op' post (by rw [hops, List.cons_append])

end Foundations
end RosarioDairy
