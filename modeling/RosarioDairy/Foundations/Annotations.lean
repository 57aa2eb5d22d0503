import RosarioDairy.Foundations.Interleaving

/-!
# Annotations — what holds where a statement is next, and what it does

An annotation gives every place of a program an assertion and says what the statement there does.  An
outline says once what a process relies on; that the other processes keep an assertion of an
annotation is shown event by event, so a condition on the run can be used for it.
-/

namespace RosarioDairy
namespace Foundations

structure Annotation (K L σ : Type) where
  holds : K → L → σ → Prop
  does : L → σ → σ → Prop

namespace Annotation

variable {K L σ α β : Type} (N : Annotation K L σ)

/-- The assertion of the next statement holds now; from every state in which it holds, the statement
does what the annotation says and the rest is annotated. -/
def Annotates (k : K) (post : α → σ → Prop) : Program L σ α → σ → Prop
  | .returns answer, s => post answer s
  | .issues place f next, s => N.holds k place s ∧ ∀ t, N.holds k place t →
      N.does place t (f t).2 ∧ Annotates k post (next (f t).1) (f t).2

variable {N}

theorem Annotates.bind {k : K} {Q : α → σ → Prop} {R : β → σ → Prop} {p : Program L σ α}
    {next : α → Program L σ β} {s : σ} (h : N.Annotates k Q p s)
    (hnext : ∀ a t, Q a t → N.Annotates k R (next a) t) : N.Annotates k R (p >>= next) s := by
  induction p generalizing s with
  | returns answer => exact hnext answer s h
  | issues place f rest ih =>
      refine ⟨h.1, fun t ht => ?_⟩
      obtain ⟨hdoes, hrest⟩ := h.2 t ht
      exact ⟨hdoes, ih (f t).1 hrest⟩

/-- The rule for one statement. -/
theorem annotates_statement {k : K} {Q : α → σ → Prop} {place : L} {f : σ → α × σ} {s : σ}
    (hs : N.holds k place s)
    (h : ∀ t, N.holds k place t → N.does place t (f t).2 ∧ Q (f t).1 (f t).2) :
    N.Annotates k Q (.statement place f) s :=
  ⟨hs, h⟩

end Annotation

/-- Every process is annotated where it stands. -/
def System.Annotated {K L σ α : Type} (N : Annotation K L σ) (S : System K L σ α) : Prop :=
  ∀ k p, S.processes k = some p → N.Annotates k (fun _ _ => True) p S.shared

section Runs

variable {K Op Env L σ α : Type} {N : Annotation K L σ}

theorem annotated_start (s : σ) : (System.start s : System K L σ α).Annotated N := by
  intro k p hp
  cases hp

/-- A program stays annotated where its next assertion stays. -/
theorem Annotation.Annotates.moved {k : K} {p : Program L σ α} {s t : σ}
    (h : N.Annotates k (fun _ _ => True) p s)
    (hplace : ∀ l, p.place = some l → N.holds k l t) : N.Annotates k (fun _ _ => True) p t := by
  cases p with
  | returns answer => trivial
  | issues place f next => exact ⟨hplace place rfl, h.2⟩

variable [DecidableEq K] {M : Machine K Op Env L σ α} {S : System K L σ α}

/-- An event that keeps the assertions of the other processes. -/
theorem act_annotated (hprogram : ∀ k op s, N.Annotates k (fun _ _ => True) (M.program k op) s)
    (h : S.Annotated N) (e : Event K Op Env)
    (hkept : ∀ k l, S.At k l → e ≠ .steps k → N.holds k l (M.act S e).shared) :
    (M.act S e).Annotated N := by
  -- every process but the one that steps keeps its assertion by `hkept`
  have hothers : ∀ k p, S.processes k = some p → e ≠ .steps k →
      N.Annotates k (fun _ _ => True) p (M.act S e).shared := by
    intro k p hp he
    refine (h k p hp).moved fun l hl => hkept k l ?_ he
    simpa [System.At, hp] using hl
  intro j q hq
  cases e with
  | starts k op =>
      cases hk : S.processes k with
      | none =>
          -- `k` starts its operation, if it is not at work already
          simp only [Machine.act, hk] at hq hothers ⊢
          by_cases hjk : j = k
          · subst hjk
            simp only [Function.update_self, Option.some.injEq] at hq
            subst hq
            exact hprogram j op S.shared
          · rw [Function.update_of_ne hjk] at hq
            exact h j q hq
      | some p =>
          simp only [Machine.act, hk] at hq ⊢
          exact h j q hq
  | steps k =>
      cases hk : S.processes k with
      | none =>
          simp only [Machine.act, hk] at hq ⊢
          exact h j q hq
      | some p =>
          cases p with
          | returns answer =>
              simp only [Machine.act, hk] at hq ⊢
              exact h j q hq
          | issues place f next =>
              -- the process that steps moves to its next assertion
              by_cases hjk : j = k
              · subst hjk
                simp only [Machine.act, hk, Function.update_self, Option.some.injEq] at hq ⊢
                subst hq
                obtain ⟨hholds, hnext⟩ := h j _ hk
                exact (hnext S.shared hholds).2
              · refine hothers j q ?_ ?_
                · simpa [Machine.act, hk, Function.update_of_ne hjk] using hq
                · intro hEq
                  cases hEq
                  exact hjk rfl
  | crashes k =>
      -- a process that crashes has no assertion left
      by_cases hjk : j = k
      · subst hjk
        simp [Machine.act] at hq
      · refine hothers j q ?_ ?_
        · simpa [Machine.act, Function.update_of_ne hjk] using hq
        · intro hEq
          cases hEq
  | ambient e =>
      refine hothers j q hq ?_
      intro hEq
      cases hEq

/-- A step starts from its assertion and does what the annotation says. -/
theorem System.Annotated.steps (h : S.Annotated N) {k : K} {l : L} (hk : S.At k l) :
    N.holds k l S.shared ∧ N.does l S.shared (M.act S (.steps k)).shared := by
  cases hp : S.processes k with
  | none => simp [System.At, hp] at hk
  | some p =>
      cases p with
      | returns answer => simp [System.At, hp, Program.place] at hk
      | issues place f next =>
          have hplace : place = l := by simpa [System.At, hp, Program.place] using hk
          subst hplace
          obtain ⟨hholds, hnext⟩ := h k _ hp
          simp only [Machine.act, hp]
          exact ⟨hholds, (hnext S.shared hholds).1⟩

/-- An invariant that the events of a run keep, as long as each meets a condition. -/
theorem eachEvent_of_invariant {I : System K L σ α → Prop}
    {P Q : System K L σ α → Event K Op Env → Prop}
    (hstep : ∀ S e, I S → P S e → Q S e ∧ I (M.act S e)) (hI : I S)
    {events : List (Event K Op Env)} (h : M.EachEvent P S events) : M.EachEvent Q S events := by
  induction events generalizing S with
  | nil => trivial
  | cons e rest ih =>
      obtain ⟨hQ, hnext⟩ := hstep S e hI h.1
      exact ⟨hQ, ih hnext h.2⟩

theorem EachEvent.suffix {P : System K L σ α → Event K Op Env → Prop}
    {pre post : List (Event K Op Env)} (h : M.EachEvent P S (pre ++ post)) :
    M.EachEvent P (M.run S pre) post := by
  induction pre generalizing S with
  | nil => exact h
  | cons e pre ih => exact ih h.2

end Runs

end Foundations
end RosarioDairy
