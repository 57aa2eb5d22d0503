import Mathlib.Algebra.BigOperators.Group.List.Lemmas
import Mathlib.Data.List.Sort
import RosarioDairy.Forecasting.DecimalRounding
import RosarioDairy.Foundations.Checked
import RosarioDairy.Foundations.Tallies
import RosarioDairy.Sales.Importers.SourceTickets

/-!
# RefreshPlan — the dairy part of the imported history

`build_plan` rules on every line of the sold invoices, holds mixed invoices without line amounts, gives the
kept lines their share of the adjustments and accounts for the whole of each source sheet.
-/

namespace RosarioDairy
namespace Importers

open CustomerNames Forecasting Foundations

/-! ## The policy -/

structure Rule where
  decision : String
  reason : String
  deriving DecidableEq, Repr

structure Policy where
  products : List Char → Option Rule

def Policy.rule (T : ProductCase) (policy : Policy) (line : SourceLine) : Rule :=
  (policy.products (productKey T line.product)).getD
    { decision := "review"
      reason := "Unrecognised product: excluded pending review." }

/-! ## Audit rows -/

structure ExcludedLine where
  source : String
  row : Nat
  product : List Char
  quantity : Int
  amount : Option Int
  decision : String
  reason : String
  deriving DecidableEq, Repr

structure HeldLine where
  source : String
  row : Nat
  product : List Char
  quantity : Int
  reason : String
  deriving DecidableEq, Repr

inductive ReviewRow where
  | line (row : ExcludedLine)
  | invoiceHold (source reason : String) (amount : Int)
  deriving DecidableEq, Repr

/-- The totals of a source sheet. -/
@[ext] structure Revenue where
  source : Int
  dairy : Int
  excluded : Int
  unclassified : Int
  deriving DecidableEq, Repr

namespace Revenue

instance : Zero Revenue :=
  ⟨{ source := 0
     dairy := 0
     excluded := 0
     unclassified := 0 }⟩

instance : Add Revenue :=
  ⟨fun r r' =>
    { source := r.source + r'.source
      dairy := r.dairy + r'.dairy
      excluded := r.excluded + r'.excluded
      unclassified := r.unclassified + r'.unclassified }⟩

instance : AddCommMonoid Revenue where
  add_assoc r r' r'' := Revenue.ext (add_assoc _ _ _) (add_assoc _ _ _) (add_assoc _ _ _) (add_assoc _ _ _)
  zero_add r := Revenue.ext (zero_add _) (zero_add _) (zero_add _) (zero_add _)
  add_zero r := Revenue.ext (add_zero _) (add_zero _) (add_zero _) (add_zero _)
  add_comm r r' := Revenue.ext (add_comm _ _) (add_comm _ _) (add_comm _ _) (add_comm _ _)
  nsmul := nsmulRec

/-- A column adds up row by row. -/
def sourceColumn : Revenue →+ Int :=
  { toFun := Revenue.source
    map_zero' := rfl
    map_add' := fun _ _ => rfl }

def dairyColumn : Revenue →+ Int :=
  { toFun := Revenue.dairy
    map_zero' := rfl
    map_add' := fun _ _ => rfl }

def excludedColumn : Revenue →+ Int :=
  { toFun := Revenue.excluded
    map_zero' := rfl
    map_add' := fun _ _ => rfl }

end Revenue

/-! ## One invoice -/

section Invoice

variable (T : ProductCase) (policy : Policy) (ticket : SourceTicket)

/-- Neither cancelled nor a duplicate, and with lines. -/
def SourceTicket.sold : Bool :=
  !ticket.cancelled T.toUnicode && !(ticket.duplicateOf.any fun first => first != "") &&
    !ticket.lines.isEmpty

def isDairy (line : SourceLine) : Bool := (policy.rule T line).decision == "dairy"

def isExcluded (line : SourceLine) : Bool :=
  (policy.rule T line).decision == "non_dairy" || (policy.rule T line).decision == "review"

def excludedLine (line : SourceLine) : ExcludedLine :=
  { source := ticket.reference
    row := line.row
    product := line.product
    quantity := line.quantity
    amount := line.amount
    decision := (policy.rule T line).decision
    reason := (policy.rule T line).reason }

def heldLine (line : SourceLine) : HeldLine :=
  { source := ticket.reference
    row := line.row
    product := line.product
    quantity := line.quantity
    reason := "Mixed invoice has no individual line amounts." }

/-- Some line has no amount of its own. -/
def unresolved : Bool := ticket.lines.any fun line => line.amount.isNone

/-- An unresolved invoice with dairy products and others is held. -/
def onHold : Bool :=
  let keep := ticket.lines.filter (isDairy T policy)
  unresolved ticket && !keep.isEmpty && keep.length != ticket.lines.length

/-- `keep`, after the hold -/
def keptLines : List SourceLine :=
  if onHold T policy ticket then [] else ticket.lines.filter (isDairy T policy)

def heldLines : List SourceLine :=
  if onHold T policy ticket then ticket.lines.filter (isDairy T policy) else []

def reviewRows : List ReviewRow :=
  (((ticket.lines.filter (isExcluded T policy)).map (excludedLine T policy ticket)).filter fun row =>
    row.decision == "review").map ReviewRow.line ++
  if onHold T policy ticket then
    [.invoiceHold ticket.reference
      "Invoice-only total spans retained and excluded products; no defensible allocation."
      ticket.amount]
  else []

/-- The amount of the kept lines, with their share of the signed adjustments. -/
def keptAmount (keep : List SourceLine) : Except String Int :=
  let gross := SourceTicket.gross ticket.lines
  let keptGross := SourceTicket.gross keep
  let adjustment := ticket.adjustments.sum
  if keep ≠ [] ∧ keep.length = ticket.lines.length then .ok ticket.amount
  else if keep ≠ [] then do
    require (¬(gross ≤ 0 ∧ adjustment ≠ 0)) ("Cannot allocate adjustment: " ++ ticket.reference)
    let share := if gross ≠ 0 then roundHalfUp ((adjustment : ℚ) * keptGross / gross) else 0
    pure (keptGross + share)
  else .ok 0

def qualityFlags (keep : List SourceLine) : List String :=
  let flags := ticket.qualityFlags ++
    (if (customerKey T.toUnicode ticket.customerLabel).getD [] = [] then ["missing_customer"]
      else []) ++
    (if unresolved ticket then ["unallocated_invoice_total"] else []) ++
    (if keep.any fun line => line.unitPrice.isNone then ["missing_unit_price"] else [])
  flags.dedup.insertionSort (· ≤ ·)

def segmentOf (flags : List String) : String :=
  if flags ≠ [] then "unclassified"
  else if ticket.labelled T.toUnicode "feedin" then "feeding"
  else "regular"

/-- What the plan makes of one sold invoice. -/
structure Entry where
  ticket : SourceTicket
  keep : List SourceLine
  excluded : List ExcludedLine
  review : List ReviewRow
  held : List HeldLine
  amount : Int
  segment : String
  flags : List String
  deriving DecidableEq, Repr

def planTicket : Except String Entry := do
  require (ticket.saleDate ≠ none) ("Missing source date: " ++ ticket.reference)
  ticket.lines.forM fun line =>
    require (isDairy T policy line = true ∨ isExcluded T policy line = true)
      ("Invalid product policy: " ++ String.ofList line.product)
  let keep := keptLines T policy ticket
  let amount ← keptAmount ticket keep
  let flags := qualityFlags T ticket keep
  pure
    { ticket := ticket
      keep := keep
      excluded := (ticket.lines.filter (isExcluded T policy)).map (excludedLine T policy ticket)
      review := reviewRows T policy ticket
      held := (heldLines T policy ticket).map (heldLine ticket)
      amount := amount
      segment := segmentOf T ticket flags
      flags := flags }

/-- What an invoice adds to the totals of its sheet. -/
def Entry.revenue (entry : Entry) : Revenue :=
  { source := entry.ticket.amount
    dairy := entry.amount
    excluded := entry.ticket.amount - entry.amount
    unclassified := if entry.keep ≠ [] ∧ entry.segment = "unclassified" then entry.amount else 0 }

end Invoice

/-! ## The plan -/

structure RefreshedTicket where
  source : SourceTicket
  lines : List SourceLine
  amount : Int
  segment : String
  flags : List String
  deriving DecidableEq, Repr

/-- The counts, totals and rows of the audit. -/
structure Audit where
  transactions : Nat
  lineItems : Nat
  sourceRevenue : Int
  dairyRevenue : Int
  excludedRevenue : Int
  monthly : List (String × Revenue)
  excludedLines : List ExcludedLine
  review : List ReviewRow
  heldDairyLines : List HeldLine
  deriving DecidableEq, Repr

def retainedOf (entries : List Entry) : List RefreshedTicket :=
  (entries.filter fun entry => !entry.keep.isEmpty).map fun entry =>
    { source := entry.ticket
      lines := entry.keep
      amount := entry.amount
      segment := entry.segment
      flags := entry.flags }

def months (entries : List Entry) : List (String × Revenue) :=
  tally (fun entry => entry.ticket.sourceSheet) Entry.revenue entries

def auditOf (entries : List Entry) : Audit :=
  let retained := retainedOf entries
  { transactions := retained.length
    lineItems := (retained.map fun ticket => ticket.lines.length).sum
    sourceRevenue := ((months entries).map fun month => month.2.source).sum
    dairyRevenue := (retained.map RefreshedTicket.amount).sum
    excludedRevenue := ((months entries).map fun month => month.2.excluded).sum
    monthly := (months entries).insertionSort fun month month' => month.1 ≤ month'.1
    excludedLines := entries.flatMap Entry.excluded
    review := entries.flatMap Entry.review
    heldDairyLines := entries.flatMap Entry.held }

/-- `build_plan` -/
def buildPlan (T : ProductCase) (policy : Policy) (parsed : ParseResult) :
    Except String (List RefreshedTicket × Audit) := do
  require (parsed.monthlyChecks.length = 36 ∧ ∀ check ∈ parsed.monthlyChecks, ¬5 < |check.difference|)
    "All 36 source sheet totals must reconcile before filtering."
  let entries ← (parsed.tickets.filter (SourceTicket.sold T)).mapM (planTicket T policy)
  pure (retainedOf entries, auditOf entries)

end Importers
end RosarioDairy
