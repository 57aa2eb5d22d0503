import RosarioDairy.Calendar
import RosarioDairy.Sales.Importers.SourceTickets

/-!
# Cells — what the workbook parser reads of a cell

Numbers go through their text; dates may come as dates, with day and month swapped, or as text.
-/

namespace RosarioDairy
namespace Importers

open CustomerNames Forecasting Foundations

/-! ## Values -/

/-- A value of a worksheet with its `str`. -/
inductive Cell where
  | blank
  | text (value : List Char)
  | number (str : List Char)
  | dateTime (day : Int) (str : List Char)
  | date (day : Int) (str : List Char)
  | other (str : List Char) (truthy : Bool)
  deriving DecidableEq, Repr

/-! ## Decimals -/

def digitValue (c : Char) : Nat :=
  match decimalZeros.find? fun first => decide (first ≤ c.toNat) && decide (c.toNat < first + 10) with
  | some first => c.toNat - first
  | none => 0

/-- `int` of some decimal digits -/
def natOf (digits : List Char) : Nat := digits.foldl (fun n c => 10 * n + digitValue c) 0

/-- A sign, if there is one, and what follows it. -/
def signed : List Char → Bool × List Char
  | '-' :: s => (true, s)
  | '+' :: s => (false, s)
  | s => (false, s)

/-- The exponent at the end of a number. -/
def exponentOf : List Char → Option Int
  | [] => some 0
  | c :: s =>
      let (negative, digits) := signed s
      if (c == 'e' || c == 'E') && !digits.isEmpty && digits.all isDecimal then
        some (if negative then -(natOf digits : Int) else natOf digits)
      else none

/-- `Decimal(text)` when it is a finite number. -/
def decimalOf (text : List Char) : Option ℚ :=
  let (negative, s) := signed ((trim isSpace text).filter fun c => c != '_')
  let whole := s.takeWhile isDecimal
  let rest := s.dropWhile isDecimal
  let fraction := if rest.head? = some '.' then rest.tail.takeWhile isDecimal else []
  let rest := if rest.head? = some '.' then rest.tail.dropWhile isDecimal else rest
  if whole = [] ∧ fraction = [] then none
  else (exponentOf rest).map fun (exponent : Int) =>
    let value := (natOf (whole ++ fraction) : ℚ) * (10 : ℚ) ^ (exponent - fraction.length)
    if negative then -value else value

namespace Cell

def str : Cell → List Char
  | .blank => "None".toList
  | .text value => value
  | .number str => str
  | .dateTime _ str => str
  | .date _ str => str
  | .other str _ => str

/-- Zeros, the empty text and nothing are false. -/
def truthy : Cell → Bool
  | .blank => false
  | .text value => !value.isEmpty
  | .number str => decimalOf str != some 0 && str != "False".toList
  | .dateTime _ _ => true
  | .date _ _ => true
  | .other _ truthy => truthy

/-- `str(value or '')` -/
def strOrEmpty (cell : Cell) : List Char := if cell.truthy then cell.str else []

/-- `isinstance(value, (int, float, Decimal))` -/
def isNumber : Cell → Bool
  | .number _ => true
  | _ => false

/-- `clean_label` -/
def label (cell : Cell) : List Char := cleanLabel cell.strOrEmpty

/-- `money`; the rounding to cents may raise. -/
def money : Cell → Except String (Option Int)
  | .blank => .ok none
  | cell =>
      match decimalOf cell.str with
      | some value => do
          let cents ← quantizeCents roundHalfUp value
          pure (some cents)
      | none => .ok none

end Cell

/-! ## Dates -/

def daysInMonth (year month : Nat) : Nat :=
  Day.daysBeforeMonth (month + 1) - Day.daysBeforeMonth month +
    if month = 2 ∧ Day.isLeap year then 1 else 0

/-- `date(year, month, day)`, unless it raises. -/
def checkedDate (year month day : Nat) : Option Int :=
  if 1 ≤ year ∧ year ≤ 9999 ∧ 1 ≤ month ∧ month ≤ 12 ∧ 1 ≤ day ∧ day ≤ daysInMonth year month then
    some (Day.ofYmd { year := year
                      month := month
                      day := day })
  else none

/-- The groups of `DATE_TEXT`. -/
def dateText (value : List Char) : Option (Nat × Nat × Nat) :=
  match (trim isSpace (value.filter fun c => c != ' ')).splitOn '/' with
  | [month, day, year] =>
      if (month ++ day ++ year).all isDecimal ∧ 1 ≤ month.length ∧ month.length ≤ 2 ∧
          1 ≤ day.length ∧ day.length ≤ 2 ∧ 2 ≤ year.length ∧ year.length ≤ 4 then
        some (natOf month, natOf day, natOf year)
      else none
  | _ => none

/-- `source_date`: the date, and what is to be reported about it. -/
def sourceDate (value : Cell) (sheetMonth : Nat) : Option Int × Option String :=
  match value with
  | .blank => (none, none)
  | .dateTime day _ =>
      let parsed := Day.toYmd day
      if parsed.month ≠ sheetMonth ∧ parsed.day = sheetMonth then
        (some (Day.ofYmd { year := parsed.year
                           month := parsed.day
                           day := parsed.month }), some "swapped_excel_date")
      else (some day, if parsed.month ≠ sheetMonth then some "sheet_mismatch" else none)
  | .date day _ => (some day, if Day.month day ≠ sheetMonth then some "sheet_mismatch" else none)
  | .text value =>
      match dateText value with
      | some (month, day, year) =>
          let correctedYear := year == 223
          let year := if correctedYear then 2023 else if year < 100 then year + 2000 else year
          match checkedDate year month day with
          | none => (none, some "invalid_date")
          | some parsed =>
              (some parsed,
                if correctedYear then some "corrected_truncated_year"
                else if month ≠ sheetMonth then some "sheet_mismatch"
                else none)
      | none => (none, some "invalid_date")
  | _ => (none, some "invalid_date")

end Importers
end RosarioDairy
