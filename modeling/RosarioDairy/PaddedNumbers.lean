import RosarioDairy.Text

/-!
# PaddedNumbers — numbers in texts

A number that is padded with zeros reads back as itself, whatever its width, and holds no separator,
so that a text of parts and separators has its parts to itself.
-/

namespace RosarioDairy

/-! ## Digits -/

theorem isDigit_of_mem_toString {n : Nat} {c : Char} (hc : c ∈ (toString n).toList) :
    c.isDigit = true := by
  rw [Nat.toString_eq_repr, Nat.toList_repr] at hc
  exact Nat.isDigit_of_mem_toDigits (by decide) (by decide) hc

theorem toList_zeroPad (width n : Nat) :
    (zeroPad width n).toList =
      List.replicate (width - (toString n).length) '0' ++ Nat.toDigits 10 n := by
  unfold zeroPad
  rw [String.toList_append, String.toList_ofList, Nat.toString_eq_repr, Nat.toList_repr]

theorem isDigit_of_mem_zeroPad {width n : Nat} {c : Char} (hc : c ∈ (zeroPad width n).toList) :
    c.isDigit = true := by
  rw [toList_zeroPad] at hc
  rcases List.mem_append.1 hc with hzero | hdigit
  · rw [List.eq_of_mem_replicate hzero]
    decide
  · exact Nat.isDigit_of_mem_toDigits (by decide) (by decide) hdigit

/-- The digits of a padded number read as the number. -/
theorem ofDigitChars_zeroPad (width n : Nat) :
    Nat.ofDigitChars 10 (zeroPad width n).toList 0 = n := by
  rw [toList_zeroPad, Nat.ofDigitChars_append, Nat.ofDigitChars_replicate_zero, Nat.mul_zero,
    Nat.ofDigitChars_ten_toDigits]

theorem zeroPad_inj {width n m : Nat} (h : zeroPad width n = zeroPad width m) : n = m :=
  calc
    n = Nat.ofDigitChars 10 (zeroPad width n).toList 0 := (ofDigitChars_zeroPad width n).symm
    _ = Nat.ofDigitChars 10 (zeroPad width m).toList 0 := by rw [h]
    _ = m := ofDigitChars_zeroPad width m

theorem length_zeroPad_two {n : Nat} (hn : n < 100) : (zeroPad 2 n).toList.length = 2 := by
  revert hn n
  decide

/-! ## Separators -/

/-- The last separator of a list divides it in one way. -/
theorem append_cons_inj_of_notMem {α : Type} {a : α} {xs ys xs' ys' : List α} (hys : a ∉ ys)
    (hys' : a ∉ ys') (h : xs ++ a :: ys = xs' ++ a :: ys') : xs = xs' ∧ ys = ys' := by
  -- a separator further on would be one of the rest
  have hlast : ∀ {rest zs zs' : List α}, a ∉ zs → a :: zs = rest ++ a :: zs' → rest = [] := by
    intro rest zs zs' hzs hEq
    cases rest with
    | nil => rfl
    | cons b rest =>
        have htail : zs = rest ++ a :: zs' := (List.cons.inj hEq).2
        exact absurd (htail ▸ List.mem_append_right rest List.mem_cons_self) hzs
  rcases List.append_eq_append_iff.1 h with ⟨rest, hxs, hrest⟩ | ⟨rest, hxs, hrest⟩
  · have hnil := hlast hys hrest
    subst hnil
    exact ⟨(hxs.trans (List.append_nil xs)).symm, (List.cons.inj hrest).2⟩
  · have hnil := hlast hys' hrest
    subst hnil
    exact ⟨hxs.trans (List.append_nil xs'), (List.cons.inj hrest).2.symm⟩

theorem notMem_zeroPad {width n : Nat} {c : Char} (hc : c.isDigit = false) :
    c ∉ (zeroPad width n).toList := by
  intro hmem
  rw [isDigit_of_mem_zeroPad hmem] at hc
  cases hc

end RosarioDairy
