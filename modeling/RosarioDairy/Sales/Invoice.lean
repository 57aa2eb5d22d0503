import Mathlib.Data.List.Sort
import RosarioDairy.Store
import RosarioDairy.Text

/-!
# Invoice — yearly invoice numbers

`assign_invoice` gives a sale its paper number or the next automatic number of its sales year.
It reads the numbers recorded for the year and advances the counter row of the year, which stays
locked until the sale commits or rolls back.
-/

namespace RosarioDairy

open Foundations

/-- The largest value of the counter column. -/
def maxCounter : Nat := 2 ^ 63 - 1

/-- `f'SI{n:04d}'`. -/
def siText (n : Nat) : String := "SI" ++ zeroPad 4 n

example : siText 608 = "SI0608" := by decide

/-- The value of the digits of a decimal number. -/
def digitsValue (digits : List Char) : Nat :=
  digits.foldl (fun value c => value * 10 + (c.toNat - 48)) 0

/-- `re.fullmatch(r'SI([0-9]+)', text, re.IGNORECASE)` with the value of its group.  Ignoring case
also matches the long s and both dotted and dotless i. -/
def matchSi (text : String) : Option Nat :=
  match text.toList with
  | s :: i :: digits =>
      if s ∈ ['S', 's', 'ſ'] ∧ i ∈ ['I', 'i', 'İ', 'ı'] ∧ digits ≠ [] ∧
          digits.all Char.isDigit then
        some (digitsValue digits)
      else
        none
  | _ => none

example : matchSi "si0480" = some 480 := by decide

/-- `Upper(Trim(...))`, and `strip().upper()` of a paper number. -/
def normalizedSi (table : CaseTable) (number : String) : String := table.upper (strip number)

/-- The year of the local date of an instant. -/
def Zone.yearOf (zone : Zone) (t : Int) : Nat := Day.year (zone.localDate t)

/-- `Transaction.objects.filter(created_at__year=year)`. -/
def recordedIn (zone : Zone) (year : Nat) (s : Store) : List Transaction :=
  s.transactions.rows.filter (fun txn => zone.yearOf txn.createdAt = year)

/-- `order_by('-created_at', '-pk')`. -/
def laterFirst (a b : Transaction) : Prop :=
  b.createdAt < a.createdAt ∨ (a.createdAt = b.createdAt ∧ b.pk ≤ a.pk)

instance : DecidableRel laterFirst := fun a b => by
  unfold laterFirst
  infer_instance

/-- `_initial_value`: continue the latest dated plain number of the year. -/
def initialValue (zone : Zone) (year : Nat) (s : Store) : Nat :=
  let numbers := ((recordedIn zone year s).insertionSort laterFirst).filterMap
    Transaction.sourceInvoiceNumber
  let plain (number : String) : Option Nat :=
    (matchSi (strip number)).filter (fun n => n < maxCounter)
  (numbers.findSome? plain).getD 0

/-- What `assign_invoice` decides: the counter row as the sale will save it, the number to record
and its provenance. -/
structure Allocation where
  sequence : InvoiceSequence
  number : String
  source : InvoiceNumberSource
  deriving DecidableEq, Repr

/-- The counter row of the year, created with its initial value when it does not exist yet. -/
def sequenceOf (zone : Zone) (year : Nat) (s : Store) : InvoiceSequence :=
  (s.invoiceSequences.find? (fun row => row.year = year)).getD
    { year := year, lastValue := initialValue zone year s }

/-- Some transaction of the list has this normalized number. -/
def hasNumber (table : CaseTable) (recorded : List Transaction) (number : String) : Bool :=
  recorded.any (fun txn => txn.sourceInvoiceNumber.any (fun n => normalizedSi table n = number))

/-- The search of `assign_invoice`: `fuel` is the distance of the counter to its limit. -/
def searchNumber (isRecorded : String → Bool) : (fuel last : Nat) → Option Nat
  | 0, _ => none
  | fuel + 1, last =>
      if isRecorded (siText (last + 1)) then searchNumber isRecorded fuel (last + 1)
      else some (last + 1)

/-- The truth value of `paper_number and paper_number.strip()`, with the number. -/
def paperReference (paperNumber : Option String) : Option String :=
  paperNumber.filter (fun number => strip number ≠ "")

/-- `assign_invoice`. -/
def assignInvoice (table : CaseTable) (zone : Zone) (year : Nat) (paperNumber : Option String)
    (s : Store) : Except Error Allocation :=
  let sequence := sequenceOf zone year s
  let recorded := recordedIn zone year s
  match paperReference paperNumber with
  | some number =>
      if hasNumber table (recorded.filter (fun txn => txn.invoiceNumberSource ≠ .automatic))
          (normalizedSi table number) then
        .error (.invoiceNumberConflict ("This paper SI number is already recorded for " ++
          toString year ++ ". Check Sales History before entering it again."))
      else
        .ok { sequence := sequence, number := number, source := .manual }
  | none =>
      match searchNumber (hasNumber table recorded) (maxCounter - sequence.lastValue)
          sequence.lastValue with
      | some n =>
          .ok { sequence := { sequence with lastValue := n }
                number := siText n
                source := .automatic }
      | none =>
          .error (.valueError ("The SI sequence for " ++ toString year ++ " is exhausted."))

/-- Save the counter row of its year. -/
def saveSequence (row : InvoiceSequence) (s : Store) : Store :=
  { s with invoiceSequences :=
      if s.invoiceSequences.any (fun r => r.year = row.year) then
        s.invoiceSequences.map (fun r => if r.year = row.year then row else r)
      else
        s.invoiceSequences ++ [row] }

end RosarioDairy
