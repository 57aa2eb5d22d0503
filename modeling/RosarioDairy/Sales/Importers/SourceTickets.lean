import RosarioDairy.Forecasting.Data
import RosarioDairy.Sales.Importers.CustomerNames

/-!
# SourceTickets — invoices as the sales workbooks give them

Lines, adjustments and totals of the parsed invoices, in whole centavos, and the keys under which their
products are known.
-/

namespace RosarioDairy
namespace Importers

open CustomerNames Foundations

/-! ## Cents -/

/-- `value.quantize(CENT, …)`, in centavos; a result of more than 28 digits is an error. -/
def quantizeCents (round : ℚ → Int) (value : ℚ) : Except String Int :=
  let cents := round (value * 100)
  if |cents| < 10 ^ 28 then .ok cents else .error "decimal.InvalidOperation"

/-! ## Tickets -/

/-- `SourceLine`: the quantity in hundredths, the other amounts in centavos. -/
structure SourceLine where
  row : Nat
  product : List Char
  quantity : Int
  unitPrice : Option Int
  amount : Option Int
  deriving DecidableEq, Repr

structure SourceTicket where
  workbook : String
  sheet : String
  row : Nat
  saleDate : Option Int
  customerLabel : List Char
  invoiceNumber : List Char
  lines : List SourceLine
  notes : List (List Char)
  adjustments : List Int
  reportedTotal : Option Int
  duplicateOf : Option String
  qualityFlags : List String
  deriving DecidableEq, Repr

namespace SourceTicket

variable (ticket : SourceTicket)

/-- `f'{self.workbook}:{self.sheet}'` -/
def sourceSheet : String := ticket.workbook ++ ":" ++ ticket.sheet

def reference : String := ticket.sourceSheet ++ ":" ++ toString ticket.row

/-- `word in self.customer_label.casefold()` -/
def labelled (T : Unicode) (word : String) : Bool :=
  (T.casefold ticket.customerLabel).tails.any fun rest => word.toList.isPrefixOf rest

def cancelled (T : Unicode) : Bool := ticket.labelled T "cancelled"

/-- `sum(line.amount or Decimal('0.00'))` -/
def gross (lines : List SourceLine) : Int := (lines.map fun line => line.amount.getD 0).sum

/-- Sums of amounts are taken as exact, as they are in the decimal context up to 28 digits. -/
def amount : Int :=
  match ticket.reportedTotal with
  | some total =>
      if ticket.lines.any fun line => line.amount.isNone then total
      else gross ticket.lines + ticket.adjustments.sum
  | none => gross ticket.lines + ticket.adjustments.sum

end SourceTicket

structure MonthlyCheck where
  source : String
  reported : Int
  parsed : Int
  difference : Int
  deriving DecidableEq, Repr

/-- The parts of a `ParseResult` that a refresh is planned from. -/
structure ParseResult where
  tickets : List SourceTicket
  monthlyChecks : List MonthlyCheck
  deriving DecidableEq, Repr

/-! ## Products -/

/-- The case mappings with `str.upper`. -/
structure ProductCase extends Unicode where
  upper : List Char → List Char

def ProductCase.ascii : ProductCase :=
  { Unicode.ascii with
    upper := fun s => s.map Char.toUpper }

/-- `PRODUCT_ALIASES` -/
def productAliases : List (String × String) :=
  [("raw milk 1000ml", "Raw Milk 1L"),
   ("rawmilk 1000ml", "Raw Milk 1L"),
   ("raw milk l", "Raw Milk 1L"),
   ("raw milk 1l", "Raw Milk 1L"),
   ("raw milk", "Raw Milk 1L"),
   ("raw l", "Raw Milk 1L"),
   ("rawl", "Raw Milk 1L"),
   ("cara 1000ml", "Cara 1L"),
   ("cara l", "Cara 1L"),
   ("cara 300ml", "Cara 300ml"),
   ("cara 300", "Cara 300ml"),
   ("cara300", "Cara 300ml"),
   ("ice candy", "Ice Candy"),
   ("uns l", "Uns L"),
   ("unsl", "Uns L"),
   ("mozza", "Mozza"),
   ("mozarella", "Mozza"),
   ("chocoballs", "Choco Balls"),
   ("conebite", "Cone Bite"),
   ("pdx13", "PDLX13"),
   ("pdx16", "PDLX16"),
   ("pld chz", "PDL CHZ"),
   ("atssarang suka", "Atsarang Suka"),
   ("samaploc", "Sampaloc")]

/-- At most so many times, as often as possible. -/
def upTo (p : Pattern) : Nat → Pattern
  | 0 => .nothing
  | n + 1 => .opt (.seq p (upTo p n))

/-- `[a-z]{1,5}\d{2,4}` -/
def sizeCode : Pattern :=
  let small := Pattern.char fun c => decide ('a' ≤ c) && decide (c ≤ 'z')
  .all [small, upTo small 4, .char isDecimal, .char isDecimal, upTo (.char isDecimal) 2]

/-- `pd[lx ]+\d{2,3}` -/
def pdCode : Pattern :=
  .all [mark 'p', mark 'd', .plus (.char fun c => c == 'l' || c == 'x' || c == ' '),
    .char isDecimal, .char isDecimal, upTo (.char isDecimal) 1]

/-- `canonical_product` -/
def canonicalProduct (T : ProductCase) (raw : List Char) : List Char :=
  let label := cleanLabel raw
  let key := T.casefold label
  match (productAliases.map fun entry => (entry.1.toList, entry.2.toList)).lookup key with
  | some name => name
  | none => if sizeCode.fullMatch key || pdCode.fullMatch key then T.upper label else label

/-- `product_name_key` -/
def productNameKey (T : Unicode) (name : List Char) : List Char :=
  T.casefold (name.filter fun c => !(isSpace c || c == '(' || c == ')'))

/-- `product_key` -/
def productKey (T : ProductCase) (label : List Char) : List Char :=
  productNameKey T.toUnicode (canonicalProduct T label)

end Importers
end RosarioDairy
