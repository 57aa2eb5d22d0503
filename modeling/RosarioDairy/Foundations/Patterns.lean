import Mathlib.Data.List.Infix
import Mathlib.Data.List.Sublists

/-!
# Patterns — backtracking matching, and deleting what matches

A pattern lists what may remain of a text after it, in the order in which a backtracking matcher tries:
the first remainder is the match.  Deleting replaces every match by nothing, from left to right.
-/

namespace RosarioDairy
namespace Foundations

/-! ## Patterns -/

inductive Pattern
  /-- One character of a class. -/
  | char (accepts : Char → Bool)
  /-- Nothing, where the next character, if any, passes a test. -/
  | ahead (test : Option Char → Bool)
  | seq (p q : Pattern)
  /-- The first one if it leads to a match, else the second. -/
  | alt (p q : Pattern)
  /-- As often as possible. -/
  | many (p : Pattern)
  | nothing

namespace Pattern

/-- Greedy repetition, in at most so many rounds. -/
def repeats (step : List Char → List (List Char)) : Nat → List Char → List (List Char)
  | 0, s => [s]
  | rounds + 1, s =>
      ((step s).filter fun r => decide (r.length < s.length)).flatMap (repeats step rounds) ++ [s]

/-- What may remain after a match at the start of a text, the preferred match first. -/
def rests : Pattern → List Char → List (List Char)
  | char _, [] => []
  | char accepts, c :: cs => if accepts c then [cs] else []
  | ahead test, s => if test s.head? then [s] else []
  | seq p q, s => (rests p s).flatMap (rests q)
  | alt p q, s => rests p s ++ rests q s
  | many p, s => repeats (rests p) s.length s
  | nothing, s => [s]

/-- Greedy option. -/
def opt (p : Pattern) : Pattern := alt p nothing

/-- Once or more often. -/
def plus (p : Pattern) : Pattern := seq p (many p)

def all (ps : List Pattern) : Pattern := ps.foldr seq nothing

def any : List Pattern → Pattern
  | [] => char fun _ => false
  | [p] => p
  | p :: ps => alt p (any ps)

theorem suffix_of_mem_repeats {step : List Char → List (List Char)}
    (hstep : ∀ s, ∀ r ∈ step s, r <:+ s) :
    ∀ (rounds : Nat) (s : List Char), ∀ r ∈ repeats step rounds s, r <:+ s
  | 0, s, r, h => by
      rw [List.mem_singleton.1 h]
  | rounds + 1, s, r, h => by
      rcases List.mem_append.1 h with hmore | hstop
      · obtain ⟨t, ht, hr⟩ := List.mem_flatMap.1 hmore
        exact (suffix_of_mem_repeats hstep rounds t r hr).trans (hstep s t (List.mem_filter.1 ht).1)
      · rw [List.mem_singleton.1 hstop]

/-- What remains is the end of the text. -/
theorem suffix_of_mem_rests (p : Pattern) : ∀ s, ∀ r ∈ p.rests s, r <:+ s := by
  induction p with
  | char accepts =>
      intro s r h
      cases s with
      | nil => cases h
      | cons c cs =>
          rw [rests] at h
          split at h
          · rw [List.mem_singleton.1 h]
            exact List.suffix_cons c cs
          · cases h
  | ahead test =>
      intro s r h
      rw [rests] at h
      split at h
      · rw [List.mem_singleton.1 h]
      · cases h
  | seq p q hp hq =>
      -- the second part starts where the first one stopped
      intro s r h
      obtain ⟨t, ht, hr⟩ := List.mem_flatMap.1 h
      exact (hq t r hr).trans (hp s t ht)
  | alt p q hp hq =>
      intro s r h
      rcases List.mem_append.1 h with hr | hr
      · exact hp s r hr
      · exact hq s r hr
  | many p hp => exact fun s => suffix_of_mem_repeats hp s.length s
  | nothing =>
      intro s r h
      rw [List.mem_singleton.1 h]

/-! ## Whole texts -/

/-- The whole text matches. -/
def fullMatch (p : Pattern) (s : List Char) : Bool := (p.rests s).any List.isEmpty

/-- The part that the first of two patterns takes when together they match the whole text. -/
def group (p q : Pattern) (s : List Char) : Option (List Char) :=
  ((p.rests s).find? fun r => q.fullMatch r).map fun r => s.take (s.length - r.length)

/-- A part followed by something is shorter than the text. -/
theorem length_group_lt {p q : Pattern} (hq : q.fullMatch [] = false) {s part : List Char}
    (h : group p q s = some part) : part.length < s.length := by
  obtain ⟨r, hr, rfl⟩ := Option.map_eq_some_iff.1 h
  have hmatch := List.find?_some hr
  have hsuffix := suffix_of_mem_rests p s r (List.mem_of_find?_eq_some hr)
  have hpos : 0 < r.length := by
    cases r with
    | nil =>
        rw [hq] at hmatch
        cases hmatch
    | cons c cs => exact Nat.succ_pos _
  have hle := hsuffix.length_le
  rw [List.length_take]
  omega

theorem group_initial {p q : Pattern} {s part : List Char} (h : group p q s = some part) :
    part <+: s := by
  obtain ⟨r, _, rfl⟩ := Option.map_eq_some_iff.1 h
  exact List.take_prefix _ s

/-! ## Deletion -/

/-- The remainder of the preferred match at the start of a text, for a pattern that takes something. -/
def rest? (p : Pattern) (s : List Char) : Option (List Char) :=
  (p.rests s).find? fun r => decide (r.length < s.length)

/-- Deletion from left to right, in at most so many rounds. -/
def deleteWithin (p : Pattern) : Nat → List Char → List Char
  | 0, s => s
  | _ + 1, [] => []
  | rounds + 1, c :: cs =>
      match p.rest? (c :: cs) with
      | some r => deleteWithin p rounds r
      | none => c :: deleteWithin p rounds cs

/-- Replace every match by nothing. -/
def delete (p : Pattern) (s : List Char) : List Char := p.deleteWithin s.length s

/-- Something in the text matches. -/
def occursIn (p : Pattern) (s : List Char) : Bool := s.tails.any fun t => (p.rest? t).isSome

theorem rest?_eq_some {p : Pattern} {s r : List Char} (h : p.rest? s = some r) :
    r <:+ s ∧ r.length < s.length := by
  unfold rest? at h
  have hlt := List.find?_some h
  rw [decide_eq_true_eq] at hlt
  exact ⟨suffix_of_mem_rests p s r (List.mem_of_find?_eq_some h), hlt⟩

theorem deleteWithin_sublist (p : Pattern) :
    ∀ (rounds : Nat) (s : List Char), (p.deleteWithin rounds s).Sublist s
  | 0, s => List.Sublist.refl s
  | _ + 1, [] => List.Sublist.refl []
  | rounds + 1, c :: cs => by
      rw [deleteWithin]
      cases hrest : p.rest? (c :: cs) with
      | some r => exact (deleteWithin_sublist p rounds r).trans (rest?_eq_some hrest).1.sublist
      | none => exact (deleteWithin_sublist p rounds cs).cons_cons c

theorem delete_sublist (p : Pattern) (s : List Char) : (p.delete s).Sublist s :=
  deleteWithin_sublist p s.length s

theorem rest?_nil (p : Pattern) : p.rest? [] = none := by
  cases h : p.rest? [] with
  | none => rfl
  | some r => exact absurd (rest?_eq_some h).2 (Nat.not_lt_zero _)

theorem occursIn_cons (p : Pattern) (c : Char) (cs : List Char) :
    p.occursIn (c :: cs) = ((p.rest? (c :: cs)).isSome || p.occursIn cs) := rfl

theorem deleteWithin_eq_self_iff (p : Pattern) :
    ∀ (rounds : Nat) (s : List Char), s.length ≤ rounds →
      (p.deleteWithin rounds s = s ↔ p.occursIn s = false)
  | 0, s, h => by
      rw [List.length_eq_zero_iff.1 (Nat.le_zero.1 h)]
      simp [deleteWithin, occursIn, rest?_nil]
  | rounds + 1, [], _ => by simp [deleteWithin, occursIn, rest?_nil]
  | rounds + 1, c :: cs, h => by
      rw [deleteWithin, occursIn_cons]
      cases hrest : p.rest? (c :: cs) with
      | some r =>
          refine iff_of_false ?_ (by simp)
          intro hEq
          have hsame : p.deleteWithin rounds r = c :: cs := hEq
          have hle := (deleteWithin_sublist p rounds r).length_le
          have hlt := (rest?_eq_some hrest).2
          rw [hsame] at hle
          omega
      | none =>
          have ih := deleteWithin_eq_self_iff p rounds cs (Nat.succ_le_succ_iff.1 h)
          rw [List.cons_inj_right, ih]
          simp

/-- Deletion leaves exactly the texts alone in which nothing matches. -/
theorem delete_eq_self_iff (p : Pattern) (s : List Char) : p.delete s = s ↔ p.occursIn s = false :=
  deleteWithin_eq_self_iff p s.length s le_rfl

/-- A pattern that starts with a character the text lacks does not occur in it. -/
theorem occursIn_of_not_mem {accepts : Char → Bool} (q : Pattern) {s : List Char}
    (h : ∀ c ∈ s, accepts c = false) : (seq (char accepts) q).occursIn s = false := by
  induction s with
  | nil => simp [occursIn, rest?_nil]
  | cons c cs ih =>
      have hc := h c List.mem_cons_self
      rw [occursIn_cons, ih fun d hd => h d (List.mem_cons_of_mem c hd), rest?, rests, rests, hc]
      rfl

end Pattern

end Foundations
end RosarioDairy
