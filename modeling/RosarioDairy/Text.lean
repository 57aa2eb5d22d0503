import Mathlib.Data.List.Basic

/-!
# Text — the string operations of the services

Zero padding, whitespace stripping and upper-casing.  The Unicode case table is not part of the
repository: a `CaseTable` is any upper-casing that leaves upper-case ASCII letters and digits alone.
-/

namespace RosarioDairy

/-- `f'{n:0<width>d}'`. -/
def zeroPad (width n : Nat) : String :=
  String.ofList (List.replicate (width - (toString n).length) '0') ++ toString n

/-- The characters `str.isspace` accepts. -/
def isSpace (c : Char) : Bool :=
  let n := c.toNat
  (9 ≤ n && n ≤ 13) || (28 ≤ n && n ≤ 32) || n == 133 || n == 160 || n == 5760 ||
    (8192 ≤ n && n ≤ 8202) || n == 8232 || n == 8233 || n == 8239 || n == 8287 || n == 12288

/-- `str.strip()`. -/
def strip (text : String) : String :=
  String.ofList (((text.toList.dropWhile isSpace).reverse.dropWhile isSpace).reverse)

/-- Upper-case ASCII letters and digits. -/
def isPlainCapital (c : Char) : Bool := c.isUpper || c.isDigit

structure CaseTable where
  upper : String → String
  upper_plain : ∀ text : String, text.toList.all isPlainCapital → upper text = text

example : strip "  SI0007 " = "SI0007" := by decide

theorem isPlainCapital_range {c : Char} (h : isPlainCapital c = true) :
    48 ≤ c.toNat ∧ c.toNat ≤ 90 := by
  have hranges : (decide (c.val ≥ 'A'.val ∧ c.val ≤ 'Z'.val) ||
      decide (c.val ≥ '0'.val) && decide (c.val ≤ '9'.val)) = true := h
  simp only [Bool.or_eq_true, decide_eq_true_eq, Bool.and_eq_true, ge_iff_le,
    UInt32.le_iff_toNat_le] at hranges
  rcases hranges with hletter | hdigit
  · exact ⟨Nat.le_trans (by decide) hletter.1, hletter.2⟩
  · exact ⟨hdigit.1, Nat.le_trans hdigit.2 (by decide)⟩

theorem toUpper_of_isPlainCapital {c : Char} (h : isPlainCapital c) : c.toUpper = c := by
  have hle : c.val.toNat ≤ 90 := (isPlainCapital_range h).2
  unfold Char.toUpper
  rw [dif_neg]
  rintro ⟨hlow, -⟩
  have : (97 : Nat) ≤ c.val.toNat := UInt32.le_iff_toNat_le.1 hlow
  omega

/-- The upper-casing of ASCII text. -/
def CaseTable.ascii : CaseTable :=
  { upper := fun text => String.ofList (text.toList.map Char.toUpper)
    upper_plain := by
      intro text h
      have hmap : text.toList.map Char.toUpper = text.toList.map id := by
        apply List.map_congr_left
        intro c hc
        exact toUpper_of_isPlainCapital (List.all_eq_true.1 h c hc)
      rw [hmap, List.map_id, String.ofList_toList] }

end RosarioDairy
