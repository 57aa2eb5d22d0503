import Mathlib.Data.Nat.Log
import Mathlib.Data.Rat.Floor
import RosarioDairy.Calendar
import RosarioDairy.Text

/-!
# Forecasting data — snapshots of the recorded sales

What every forecast is computed from: the sales of the ledger before a cutoff date, with the dairy
revenue of each and the segment it counts for.  Money is counted in centavos, quantities in
hundredths; a revenue that has to be shared out is computed with 28 significant decimal digits.
-/

namespace RosarioDairy
namespace Forecasting

/-! ## Decimal arithmetic -/

/-- Round to an integer, ties to the even one. -/
def roundHalfEven (q : ℚ) : Int :=
  let below := ⌊q⌋
  if q - below < 1 / 2 then below
  else if 1 / 2 < q - below then below + 1
  else if below % 2 = 0 then below
  else below + 1

/-- Round to an integer, ties away from zero. -/
def roundHalfUp (q : ℚ) : Int :=
  if 0 ≤ q then ⌊q + 1 / 2⌋ else -⌊-q + 1 / 2⌋

/-- The exponent of the leading decimal digit. -/
def leadingExponent (q : ℚ) : Int :=
  let estimate : Int := Nat.log 10 q.num.natAbs - Nat.log 10 q.den
  if (10 : ℚ) ^ estimate ≤ |q| then estimate else estimate - 1

/-- A result of the default decimal context. -/
def decimalContext (q : ℚ) : ℚ :=
  if q = 0 then 0
  else
    let unit : ℚ := (10 : ℚ) ^ (leadingExponent q - 27)
    roundHalfEven (q / unit) * unit

/-! ## The ledger -/

inductive Segment
  | regular
  | feeding
  | unclassified
  deriving DecidableEq, Repr

/-- What the product policy decides about a product. -/
inductive Decision
  | dairy
  | nonDairy
  | review
  deriving DecidableEq, Repr

/-- A line of a sale, with the name its product has now. -/
structure LedgerLine where
  productNameSnapshot : Option String
  productName : String
  totalAmount : Option Int
  sourceLineTotal : Option Int
  quantity : Int
  unitPrice : Int
  deriving DecidableEq, Repr

/-- A transaction with the columns the snapshot reads; an empty segment is `none`. -/
structure LedgerSale where
  pk : Nat
  createdAt : Int
  isVoided : Bool
  customerId : Option Nat
  customerName : Option String
  sourceCustomerLabel : String
  sourceReference : Option String
  sourceSalesSegment : Option Segment
  totalAmount : Int
  lines : List LedgerLine
  deriving DecidableEq, Repr

structure RecordedSale where
  id : Nat
  day : Int
  customerKey : String
  customerName : String
  segment : Segment
  revenue : Int
  deriving DecidableEq, Repr

structure SalesSnapshot (D : Type) where
  asOf : Int
  revision : D
  sales : List RecordedSale
  excludedDemoCount : Nat
  excludedNonDairyCount : Nat
  deriving DecidableEq, Repr

/-- A time zone in which every date starts at midnight. -/
structure BusinessZone extends Zone where
  midnight : Int → Int
  lt_midnight : ∀ t d, t < midnight d ↔ localDate t < d

/-- Days that start at multiples of 86400. -/
def BusinessZone.fixed : BusinessZone :=
  { Zone.fixed with
    midnight := fun day => day * 86400
    lt_midnight := fun t day => by
      constructor
      · intro h
        exact Int.ediv_lt_of_lt_mul (by decide) h
      · intro h
        exact Int.lt_mul_of_ediv_lt (by decide) h }

/-- What a snapshot depends on besides the ledger: the time zone, Unicode case folding, the product
policy (by label) and the digest of the excluded ids and the recorded sales. -/
structure Source (D : Type) where
  zone : BusinessZone
  casefold : String → String
  decision : String → Decision
  revision : List Nat → List RecordedSale → D

/-! ## Snapshots -/

section Snapshots

variable {D : Type} (source : Source D)

/-- `DEMO_REFERENCE.fullmatch(row['source_reference'] or '')` -/
def isDemoReference (reference : Option String) : Bool :=
  match (reference.getD "").toList with
  | '2' :: '0' :: '2' :: '6' :: ':' :: digits => digits.length == 6 && digits.all Char.isDigit
  | _ => false

/-- Words separated by single blanks, as `' '.join(text.split())`. -/
def joinWords (text : String) : String :=
  " ".intercalate (((text.toList.splitBy fun a b => isSpace a == isSpace b).filter
    fun word => !word.any isSpace).map String.ofList)

/-- `'feedin' in text` -/
def mentionsFeeding (text : String) : Bool :=
  text.toList.tails.any fun rest => "feedin".toList.isPrefixOf rest

def customerName (row : LedgerSale) : String :=
  let label := strip row.sourceCustomerLabel
  let name := row.customerName.getD ""
  if label ≠ "" then label else if name ≠ "" then name else "Walk-in"

def customerKey (row : LedgerSale) : String :=
  let label := strip row.sourceCustomerLabel
  match row.customerId with
  | some customer => s!"customer:{customer}"
  | none => if label ≠ "" then "label:" ++ joinWords (source.casefold label) else "walk-in"

/-- The amount of a line in ten-thousandths. -/
def LedgerLine.amount (line : LedgerLine) : Int :=
  match line.totalAmount, line.sourceLineTotal with
  | some total, _ => total * 100
  | none, some total => total * 100
  | none, none => line.quantity * line.unitPrice

def LedgerLine.label (line : LedgerLine) : String :=
  let snapshot := line.productNameSnapshot.getD ""
  if snapshot ≠ "" then snapshot else line.productName

/-- Add up amounts in ten-thousandths, in the decimal context. -/
def addAmounts (amounts : List Int) : ℚ :=
  amounts.foldl (fun sum amount => decimalContext (sum + amount / 10000)) 0

/-- `(revenue * dairy / gross).quantize(Decimal('0.01'), rounding=ROUND_HALF_UP)` -/
def dairyShare (revenue : Int) (dairy gross : ℚ) : Int :=
  roundHalfUp (decimalContext (decimalContext (revenue / 100 * dairy) / gross) * 100)

/-- How a row of the ledger enters a snapshot. -/
inductive Recorded
  | demo
  | nonDairy
  | sale (entry : RecordedSale)
  deriving DecidableEq, Repr

def recordedAs (row : LedgerSale) (segment : Segment) (revenue : Int) : RecordedSale :=
  { id := row.pk
    day := source.zone.localDate row.createdAt
    customerKey := customerKey source row
    customerName := customerName row
    segment := segment
    revenue := revenue }

/-- The body of the loop over the rows. -/
def record (row : LedgerSale) : Recorded :=
  if isDemoReference row.sourceReference then
    .demo
  else
    match row.sourceSalesSegment with
    | some segment => .sale (recordedAs source row segment row.totalAmount)
    | none =>
        let decisions := row.lines.map fun line => source.decision line.label
        let gross := addAmounts (row.lines.map LedgerLine.amount)
        let dairy := addAmounts ((row.lines.filter fun line =>
          decide (source.decision line.label = .dairy)).map LedgerLine.amount)
        if row.lines ≠ [] ∧ decisions.all (fun decision => decide (decision = .nonDairy)) = true then
          .nonDairy
        else if row.lines = [] ∨ .review ∈ decisions ∨ gross ≤ 0 then
          .sale (recordedAs source row .unclassified row.totalAmount)
        else
          .sale (recordedAs source row
            (if mentionsFeeding (source.casefold (customerName row)) then .feeding else .regular)
            (dairyShare row.totalAmount dairy gross))

def Recorded.toSale : Recorded → Option RecordedSale
  | .sale entry => some entry
  | _ => none

/-- `_snapshot` -/
def snapshot (asOf : Int) (rows : List LedgerSale) : SalesSnapshot D :=
  let recorded := rows.map (record source)
  let excludedNonDairy := (rows.filter fun row => decide (record source row = .nonDairy)).map
    LedgerSale.pk
  let sales := recorded.filterMap Recorded.toSale
  { asOf := asOf
    revision := source.revision excludedNonDairy sales
    sales := sales
    excludedDemoCount := recorded.countP fun entry => decide (entry = .demo)
    excludedNonDairyCount := excludedNonDairy.length }

/-- The sales of the ledger before a date, which is exclusive. -/
def loadSnapshot (ledger : List LedgerSale) (asOf : Int) : SalesSnapshot D :=
  snapshot source asOf (ledger.filter fun row =>
    !row.isVoided && decide (row.createdAt < source.zone.midnight asOf))

theorem record_day {row : LedgerSale} {sale : RecordedSale}
    (h : (record source row).toSale = some sale) : sale.day = source.zone.localDate row.createdAt := by
  unfold record at h
  split at h
  · cases h
  · split at h
    · obtain rfl := Option.some.inj h
      rfl
    · dsimp only at h
      split at h
      · cases h
      · split at h
        · obtain rfl := Option.some.inj h
          rfl
        · obtain rfl := Option.some.inj h
          rfl

/-- A snapshot holds the sales of days before its cutoff. -/
theorem loadSnapshot_day {ledger : List LedgerSale} {asOf : Int} {sale : RecordedSale}
    (h : sale ∈ (loadSnapshot source ledger asOf).sales) :
    (∃ row ∈ ledger, sale.day = source.zone.localDate row.createdAt) ∧ sale.day < asOf := by
  obtain ⟨recorded, hrecorded, hsale⟩ := List.mem_filterMap.1 h
  obtain ⟨row, hrow, rfl⟩ := List.mem_map.1 hrecorded
  obtain ⟨hmem, hkept⟩ := List.mem_filter.1 hrow
  simp only [Bool.and_eq_true, decide_eq_true_eq] at hkept
  have hday := record_day source hsale
  refine ⟨⟨row, hmem, hday⟩, ?_⟩
  rw [hday]
  exact (source.zone.lt_midnight _ _).1 hkept.2

end Snapshots

end Forecasting
end RosarioDairy
