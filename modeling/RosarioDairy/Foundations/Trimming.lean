import Mathlib.Data.List.Chain
import Mathlib.Data.List.DropRight
import Mathlib.Data.List.Infix
import Mathlib.Data.List.TakeWhile

/-!
# Trimming — text without blanks at its ends, and with single blanks inside

Stripping the characters of a class from both ends, and replacing every run of blanks by one of them.
-/

namespace RosarioDairy
namespace Foundations

variable {α : Type} (p : α → Bool)

/-! ## Stripping -/

def trim (s : List α) : List α := (s.dropWhile p).rdropWhile p

theorem trim_sublist (s : List α) : (trim p s).Sublist s :=
  (List.rdropWhile_prefix p (s.dropWhile p)).sublist.trans (List.dropWhile_suffix p).sublist

/-- Stripping leaves exactly the texts alone that neither start nor end with the class. -/
theorem trim_eq_self_iff (s : List α) :
    trim p s = s ↔ (∀ c ∈ s.head?, p c = false) ∧ ∀ c ∈ s.getLast?, p c = false := by
  constructor
  · intro h
    -- both cuts keep a suffix or a prefix, so nothing was cut on either side
    have hdrop : s.dropWhile p = s := by
      apply (List.dropWhile_suffix p).sublist.eq_of_length_le
      calc s.length = (trim p s).length := by rw [h]
        _ ≤ (s.dropWhile p).length := (List.rdropWhile_prefix p _).length_le
    -- the same from the right
    have hright : s.rdropWhile p = s := by
      unfold trim at h
      rwa [hdrop] at h
    refine ⟨?_, ?_⟩
    · -- a first character that is trimmed would have been cut
      intro c hc
      cases s with
      | nil => cases hc
      | cons a as =>
          obtain rfl := Option.some.inj hc
          by_contra hp
          rw [Bool.not_eq_false] at hp
          rw [List.dropWhile_cons_of_pos hp] at hdrop
          have hle := (List.dropWhile_suffix (l := as) p).length_le
          rw [hdrop, List.length_cons] at hle
          omega
    · intro c hc
      obtain ⟨init, rfl⟩ := List.getLast?_eq_some_iff.1 hc
      by_contra hp
      rw [Bool.not_eq_false] at hp
      rw [List.rdropWhile_concat_pos p init c hp] at hright
      have hle := (List.rdropWhile_prefix p init).length_le
      rw [hright, List.length_append, List.length_singleton] at hle
      omega
  · -- where both ends stay, each of the cuts is the identity
    rintro ⟨hhead, hlast⟩
    have hdrop : s.dropWhile p = s := by
      cases s with
      | nil => rfl
      | cons a as =>
          rw [List.dropWhile_cons_of_neg]
          rw [hhead a rfl]
          exact Bool.false_ne_true
    rw [trim, hdrop]
    apply List.rdropWhile_eq_self_iff.2
    intro hs hp
    rw [hlast (s.getLast hs) (List.getLast?_eq_some_getLast hs)] at hp
    cases hp

theorem trim_trim (s : List α) : trim p (trim p s) = trim p s := by
  apply (trim_eq_self_iff p _).2
  refine ⟨?_, ?_⟩
  · intro c hc
    have hhead := List.head?_dropWhile_not p s
    obtain ⟨rest, hrest⟩ := List.head?_eq_some_iff.1 hc
    obtain ⟨removed, hremoved⟩ := List.rdropWhile_prefix p (s.dropWhile p)
    have hdrop : (s.dropWhile p).head? = some c := by
      rw [← hremoved]
      unfold trim at hrest
      rw [hrest]
      rfl
    rw [hdrop] at hhead
    simpa using hhead
  · intro c hc
    obtain ⟨init, hinit⟩ := List.getLast?_eq_some_iff.1 hc
    have hne : (s.dropWhile p).rdropWhile p ≠ [] := by
      unfold trim at hinit
      rw [hinit]
      simp
    have hnot := List.rdropWhile_last_not p (s.dropWhile p) hne
    have hlast := List.getLast?_eq_some_getLast hne
    unfold trim at hc
    rw [Option.mem_def, hlast] at hc
    rw [← Option.some.inj hc]
    simpa using hnot

/-! ## Single blanks -/

section Squeeze

variable (blank : α)

/-- Replace runs by one blank, after a blank or not. -/
def squeezeAfter : Bool → List α → List α
  | _, [] => []
  | afterBlank, c :: cs =>
      if p c then
        if afterBlank then squeezeAfter true cs else blank :: squeezeAfter true cs
      else c :: squeezeAfter false cs

/-- Replace every run of blanks by one blank. -/
def squeeze (s : List α) : List α := squeezeAfter p blank false s

/-- No blank but the one, and never two in a row. -/
def Squeezed (s : List α) : Prop :=
  (∀ c ∈ s, p c = true → c = blank) ∧ s.IsChain fun c d => ¬ (p c = true ∧ p d = true)

variable {p blank}

theorem Squeezed.of_isInfix {s t : List α} (h : Squeezed p blank s) (ht : t <:+: s) :
    Squeezed p blank t :=
  ⟨fun c hc => h.1 c (ht.subset hc), List.IsChain.infix h.2 ht⟩

theorem squeezeAfter_of_squeezed : ∀ {s : List α} {afterBlank : Bool}, Squeezed p blank s →
    (afterBlank = true → ∀ c ∈ s.head?, p c = false) → squeezeAfter p blank afterBlank s = s
  | [], _, _, _ => rfl
  | c :: cs, afterBlank, h, hafter => by
      have hrest : Squeezed p blank cs := h.of_isInfix (List.suffix_cons c cs).isInfix
      rw [squeezeAfter]
      by_cases hc : p c = true
      · have hfirst : afterBlank = false := by
          by_contra hblank
          rw [Bool.not_eq_false] at hblank
          rw [hafter hblank c rfl] at hc
          cases hc
        have hnext : ∀ d ∈ cs.head?, p d = false := by
          intro d hd
          by_contra hp
          rw [Bool.not_eq_false] at hp
          obtain ⟨ds, rfl⟩ := List.head?_eq_some_iff.1 hd
          exact (List.isChain_cons_cons.1 h.2).1 ⟨hc, hp⟩
        rw [if_pos hc, hfirst, if_neg Bool.false_ne_true,
          squeezeAfter_of_squeezed hrest fun _ => hnext, h.1 c List.mem_cons_self hc]
      · rw [if_neg hc, squeezeAfter_of_squeezed hrest fun hfalse => absurd hfalse Bool.false_ne_true]

theorem squeezed_squeezeAfter (hblank : p blank = true) : ∀ (s : List α) (afterBlank : Bool),
    Squeezed p blank (squeezeAfter p blank afterBlank s) ∧
      (afterBlank = true → ∀ c ∈ (squeezeAfter p blank afterBlank s).head?, p c = false)
  | [], _ => ⟨⟨fun _ hc => absurd hc List.not_mem_nil, List.IsChain.nil⟩, fun _ _ hc => nomatch hc⟩
  | c :: cs, afterBlank => by
      rw [squeezeAfter]
      by_cases hc : p c = true
      · -- a blank: written once after a character, dropped after a blank
        rw [if_pos hc]
        obtain ⟨hsqueezed, hnext⟩ := squeezed_squeezeAfter hblank cs true
        cases afterBlank with
        | true => exact ⟨hsqueezed, hnext⟩
        | false =>
            rw [if_neg Bool.false_ne_true]
            refine ⟨⟨?_, ?_⟩, fun hfalse => absurd hfalse Bool.false_ne_true⟩
            · intro d hd hp
              rcases List.mem_cons.1 hd with rfl | hd
              · rfl
              · exact hsqueezed.1 d hd hp
            · refine List.isChain_cons.2 ⟨?_, hsqueezed.2⟩
              rintro d hd ⟨_, hp⟩
              rw [hnext rfl d hd] at hp
              cases hp
      · -- any other character is written, and blanks may follow it
        rw [if_neg hc]
        obtain ⟨hsqueezed, _⟩ := squeezed_squeezeAfter hblank cs false
        refine ⟨⟨?_, ?_⟩, ?_⟩
        · intro d hd hp
          rcases List.mem_cons.1 hd with rfl | hd
          · exact absurd hp hc
          · exact hsqueezed.1 d hd hp
        · refine List.isChain_cons.2 ⟨?_, hsqueezed.2⟩
          rintro d hd ⟨hp, _⟩
          exact hc hp
        · rintro _ d hd
          obtain rfl := Option.some.inj hd
          exact eq_false_of_ne_true hc

theorem length_squeezeAfter_le : ∀ (s : List α) (afterBlank : Bool),
    (squeezeAfter p blank afterBlank s).length ≤ s.length
  | [], _ => le_rfl
  | c :: cs, afterBlank => by
      have htrue := length_squeezeAfter_le cs true
      have hfalse := length_squeezeAfter_le cs false
      rw [squeezeAfter]
      split
      · split
        · rw [List.length_cons]
          omega
        · rw [List.length_cons, List.length_cons]
          omega
      · rw [List.length_cons, List.length_cons]
        omega

variable (p blank)

/-- Single blanks inside, and none at the ends. -/
def collapse (s : List α) : List α := trim p (squeeze p blank s)

variable {p blank}

theorem squeezed_collapse (hblank : p blank = true) (s : List α) :
    Squeezed p blank (collapse p blank s) := by
  have hinfix : collapse p blank s <:+: squeeze p blank s :=
    (List.rdropWhile_prefix p _).isInfix.trans (List.dropWhile_suffix p).isInfix
  exact (squeezed_squeezeAfter hblank s false).1.of_isInfix hinfix

/-- Text with single blanks inside is only stripped. -/
theorem Squeezed.collapse_eq {s : List α} (h : Squeezed p blank s) : collapse p blank s = trim p s := by
  have hsame : squeeze p blank s = s :=
    squeezeAfter_of_squeezed h fun hfalse => absurd hfalse Bool.false_ne_true
  rw [collapse, hsame]

theorem length_collapse_le (s : List α) : (collapse p blank s).length ≤ s.length :=
  (trim_sublist p _).length_le.trans (length_squeezeAfter_le s false)

theorem collapse_collapse (hblank : p blank = true) (s : List α) :
    collapse p blank (collapse p blank s) = collapse p blank s := by
  rw [(squeezed_collapse hblank s).collapse_eq, collapse, trim_trim]

end Squeeze

end Foundations
end RosarioDairy
