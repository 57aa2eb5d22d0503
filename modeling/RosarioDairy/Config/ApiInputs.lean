import Mathlib.Algebra.Order.Ring.Int
import RosarioDairy.Foundations.Checked

/-!
# ApiInputs — decimal input and the errors services raise

Stock quantities and money are decimals with two places, kept as an `Int` count of hundredths.
`parseDecimal` is the check every manual API value passes before it reaches a service.
-/

namespace RosarioDairy

open Foundations

namespace Amount

/-- The decimal text of an amount, always with two places. -/
def text (q : Int) : String :=
  let whole := toString (q.natAbs / 100)
  let cents := q.natAbs % 100
  (if q < 0 then "-" else "") ++ whole ++ "." ++ (if cents < 10 then "0" else "") ++ toString cents

example : text (-705) = "-7.05" := by decide

end Amount

/-- The errors the services raise, with the texts they carry. -/
inductive Error
  | valueError (message : String)
  | validationError (field message : String)
  | invoiceNumberConflict (message : String)
  | encodingConflict (message : String)
  | submissionConflict (message : String)
  | paymentLocked (message : String)
  | permissionDenied (message : String)
  | doesNotExist (model : String)
  | attributeError (message : String)
  | integrityError (constraint : String)
  | authenticationFailed (code message : String)
  | tokenError
  deriving DecidableEq, Repr

/-- A decimal as a caller hands it over: `coefficient / 10 ^ places`, or something that is not a
finite number. -/
inductive DecimalInput
  | malformed
  | decimal (coefficient : Int) (places : Nat)
  deriving DecidableEq, Repr

namespace DecimalInput

/-- The input that writes an amount with its two places. -/
def ofAmount (q : Int) : DecimalInput := .decimal q 2

/-- The value in hundredths of an input with at most two places. -/
def hundredths (coefficient : Int) (places : Nat) : Int :=
  coefficient * 10 ^ (2 - places)

end DecimalInput

/-- Validate finite, database-safe decimal input: at most two places, at most `maxDigits` digits,
at most `maxDigits - 2` of them before the point, and not below `minValue`. -/
def parseDecimal (value : DecimalInput) (fieldName : String) (minValue : Option Int)
    (maxDigits : Nat := 10) : Except Error Int :=
  let error := Error.valueError
    (fieldName ++ " must be a valid number with at most 2 decimal places.")
  match value with
  | .malformed => .error error
  | .decimal coefficient places =>
      let amount := DecimalInput.hundredths coefficient places
      if places ≤ 2 ∧ coefficient.natAbs < 10 ^ maxDigits ∧
          coefficient.natAbs < 10 ^ (maxDigits - 2 + places) ∧
          (∀ least ∈ minValue, least ≤ amount) then
        .ok amount
      else
        .error error

/-- An accepted decimal is not below the minimum asked for. -/
theorem parseDecimal_le {value : DecimalInput} {fieldName : String} {least amount : Int}
    {maxDigits : Nat}
    (h : parseDecimal value fieldName (some least) maxDigits = .ok amount) : least ≤ amount := by
  cases value with
  | malformed => simp [parseDecimal] at h
  | decimal coefficient places =>
      simp only [parseDecimal] at h
      split at h
      · rename_i hc
        have hEq : DecimalInput.hundredths coefficient places = amount := by simpa using h
        exact hEq ▸ hc.2.2.2 least rfl
      · simp at h

/-- An accepted decimal has at most the digits it is stored with. -/
theorem parseDecimal_lt {value : DecimalInput} {fieldName : String} {minValue : Option Int}
    {amount : Int} {maxDigits : Nat} (hdigits : 2 ≤ maxDigits)
    (h : parseDecimal value fieldName minValue maxDigits = .ok amount) :
    amount.natAbs < 10 ^ maxDigits := by
  cases value with
  | malformed => simp [parseDecimal] at h
  | decimal coefficient places =>
      simp only [parseDecimal] at h
      split at h
      · rename_i hc
        obtain ⟨hplaces, _, hlt, _⟩ := hc
        have hEq : DecimalInput.hundredths coefficient places = amount := by simpa using h
        have hpow : 10 ^ maxDigits = 10 ^ (maxDigits - 2 + places) * 10 ^ (2 - places) := by
          rw [← pow_add]
          congr 1
          omega
        have hpositive : 0 < 10 ^ (2 - places) := Nat.pow_pos (by decide)
        rw [← hEq, DecimalInput.hundredths, Int.natAbs_mul, Int.natAbs_pow, hpow]
        exact Nat.mul_lt_mul_of_pos_right hlt hpositive
      · simp at h

end RosarioDairy
