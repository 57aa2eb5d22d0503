import RosarioDairy.Foundations.Interleaving

/-!
# Extensions — programs on a part of a larger state, and facts they do not touch

A program that was proved on one state also runs where there is a second part next to it, and keeps
what is said of that part.  What every single statement of a program preserves, the program preserves
beside whatever else is proved of it.
-/

namespace RosarioDairy
namespace Foundations

/-! ## Programs -/

namespace Program

variable {L M σ τ α β : Type}

/-- The program on the first part of a larger state, among programs that stand at other places too. -/
def onFirst : Program L σ α → Program (L ⊕ M) (σ × τ) α
  | .returns answer => .returns answer
  | .issues place f next =>
      .issues (.inl place) (fun s => ((f s.1).1, ((f s.1).2, s.2))) fun b => (next b).onFirst

/-- Every statement of the program preserves `R`, whatever was answered before. -/
def Preserves (R : σ → Prop) : Program L σ α → Prop
  | .returns _ => True
  | .issues _ f next => (∀ s, R s → R (f s).2) ∧ ∀ b, (next b).Preserves R

theorem preserves_returns {R : σ → Prop} (a : α) :
    (Program.returns a : Program L σ α).Preserves R := trivial

theorem preserves_statement {R : σ → Prop} {place : L} {f : σ → α × σ}
    (h : ∀ s, R s → R (f s).2) : (Program.statement place f).Preserves R :=
  ⟨h, fun _ => trivial⟩

theorem Preserves.bind {R : σ → Prop} {p : Program L σ α} {next : α → Program L σ β}
    (h : p.Preserves R) (hnext : ∀ a, (next a).Preserves R) : (p >>= next).Preserves R := by
  induction p with
  | returns answer => exact hnext answer
  | issues place f rest ih => exact ⟨h.1, fun b => ih b (h.2 b)⟩

end Program

/-! ## Outlines -/

namespace Outline

variable {K L M σ τ α : Type} {O : Outline K L σ}

theorem triple_exists {β : Type} {k : K} {P : β → σ → Prop} {Q : α → σ → Prop} {p : Program L σ α}
    (h : ∀ b, O.Triple k (P b) p Q) : O.Triple k (fun s => ∃ b, P b s) p Q := by
  rintro s hs ⟨b, hb⟩
  exact h b s hs hb

/-- What the precondition says of the program alone may be used about it. -/
theorem triple_fact {φ : Prop} {k : K} {P : σ → Prop} {Q : α → σ → Prop} {p : Program L σ α}
    (h : ∀ s, P s → φ) (htriple : φ → O.Triple k P p Q) : O.Triple k P p Q :=
  fun s hs hPs => htriple (h s hPs) s hs hPs

/-- The frame rule: what the statements preserve and the others do not destroy stays true. -/
theorem triple_frame {k : K} {P R : σ → Prop} {Q : α → σ → Prop} {p : Program L σ α}
    (hR : O.Stable k R) (hp : p.Preserves R) (h : O.Triple k P p Q) :
    O.Triple k (fun s => P s ∧ R s) p (fun a s => Q a s ∧ R s) := by
  rintro s hs ⟨hPs, hRs⟩
  have hsafe := h s hs hPs
  clear h hPs hs
  induction p generalizing s with
  | returns answer =>
      intro t hst ht
      exact ⟨hsafe t hst ht, hR s t hRs hst ht⟩
  | issues place f next ih =>
      intro t hst ht
      obtain ⟨hdoes, hinv, hothers, hnext⟩ := hsafe t hst ht
      exact ⟨hdoes, hinv, hothers,
        ih (f t).1 (hp.2 (f t).1) (f t).2 (hp.1 t (hR s t hRs hst ht)) hnext⟩

variable (O) in
/-- The outline of a state with a second part: `I` holds of it between two statements, and a process
relies on `H` for it. -/
def extended (M : Type) (I : τ → Prop) (H : K → τ → τ → Prop) : Outline K (L ⊕ M) (σ × τ) :=
  { inv := fun s => O.inv s.1 ∧ I s.2
    rely := fun k s t => O.rely k s.1 t.1 ∧ H k s.2 t.2
    does := fun k place s t => ∀ l, place = .inl l → O.does k l s.1 t.1 }

variable {I : τ → Prop} {H : K → τ → τ → Prop}

theorem extended_preorder (hO : O.Preorder) (hrefl : ∀ k s, H k s s)
    (htrans : ∀ k s t u, H k s t → H k t u → H k s u) : (O.extended M I H).Preorder :=
  { refl := fun k s => ⟨hO.refl k s.1, hrefl k s.2⟩
    trans := fun k s t u h h' =>
      ⟨hO.trans k s.1 t.1 u.1 h.1 h'.1, htrans k s.2 t.2 u.2 h.2 h'.2⟩ }

theorem stable_first {k : K} {P : σ → Prop} (h : O.Stable k P) :
    (O.extended M I H).Stable k (fun s => P s.1) :=
  fun s t hPs hst ht => h s.1 t.1 hPs hst.1 ht.1

theorem stable_second {k : K} {P : τ → Prop} (h : ∀ s t, P s → H k s t → P t) :
    (O.extended M I H).Stable k (fun s => P s.2) :=
  fun s t hPs hst _ => h s.2 t.2 hPs hst.2

/-- What is proved of a program holds on the larger state, whose second part it leaves alone. -/
theorem triple_onFirst (hrefl : ∀ k s, H k s s) {k : K} {P : σ → Prop} {R : τ → Prop}
    {Q : α → σ → Prop} {p : Program L σ α} (hR : ∀ s t, R s → H k s t → R t)
    (h : O.Triple k P p Q) :
    (O.extended M I H).Triple k (fun s => P s.1 ∧ R s.2) p.onFirst
      (fun a s => Q a s.1 ∧ R s.2) := by
  rintro s ⟨hs, -⟩ ⟨hPs, hRs⟩
  have hsafe := h s.1 hs hPs
  clear h hPs hs
  induction p generalizing s with
  | returns answer =>
      rintro t ⟨hst, hH⟩ ⟨ht, -⟩
      exact ⟨hsafe t.1 hst ht, hR s.2 t.2 hRs hH⟩
  | issues place f next ih =>
      rintro t ⟨hst, hH⟩ ⟨ht, hI⟩
      obtain ⟨hdoes, hinv, hothers, hnext⟩ := hsafe t.1 hst ht
      have hplace : ∀ l, (Sum.inl place : L ⊕ M) = .inl l → O.does k l t.1 (f t.1).2 := by
        rintro l ⟨rfl⟩
        exact hdoes
      exact ⟨hplace, ⟨hinv, hI⟩, fun j hj => ⟨hothers j hj, hrefl j t.2⟩,
        ih (f t.1).1 ((f t.1).2, t.2) (hR s.2 t.2 hRs hH) hnext⟩

/-- The rule for a statement on the second part, which may look at the first. -/
theorem triple_onSecond (hO : O.Preorder) {k : K} {A : σ → Prop} {P : τ → Prop} {Q : α → τ → Prop}
    {place : M} {f : σ × τ → α × τ} (hA : O.Stable k A) (hP : ∀ s t, P s → H k s t → P t)
    (hQ : ∀ a s t, Q a s → H k s t → Q a t)
    (h : ∀ s, O.inv s.1 → A s.1 → I s.2 → P s.2 →
      I (f s).2 ∧ (∀ j, j ≠ k → H j s.2 (f s).2) ∧ Q (f s).1 (f s).2) :
    (O.extended M I H).Triple k (fun s => A s.1 ∧ P s.2)
      (.statement (.inr place) fun s => ((f s).1, (s.1, (f s).2)))
      (fun a s => A s.1 ∧ Q a s.2) := by
  apply triple_statement (stable_and (stable_first hA) (stable_second hP))
  · exact fun a => stable_and (stable_first hA) (stable_second (hQ a))
  · rintro s ⟨hs, hI⟩ ⟨hAs, hPs⟩
    obtain ⟨hI', hothers, hpost⟩ := h s hs hAs hI hPs
    refine ⟨?_, ⟨hs, hI'⟩, fun j hj => ⟨hO.refl j s.1, hothers j hj⟩, hAs, hpost⟩
    intro l hl
    cases hl

end Outline

end Foundations
end RosarioDairy
