import RosarioDairy.Foundations.Checked
import RosarioDairy.Foundations.Tallies
import RosarioDairy.Sales.Importers.Cells

/-!
# Workbooks — the grouping of sheet rows into invoices

The rows of a monthly sheet, from the fourth on, are read in order: a row may close the month, change the
active date, open an invoice, and add a line or a discount to the current one.
-/

namespace RosarioDairy
namespace Importers

open CustomerNames Forecasting Foundations

/-! ## Rows -/

structure Sheet where
  workbook : String
  title : String
  month : Nat

/-- A row of values and the same row of formulas. -/
structure SheetRow where
  values : List Cell
  formulas : List Cell

/-- The first eight cells, and those from the eighth on. -/
structure Columns where
  date : Cell
  customer : Cell
  invoice : Cell
  product : Cell
  quantity : Cell
  price : Cell
  amount : Cell
  daily : Cell
  extras : List Cell

def SheetRow.columns (row : SheetRow) : Columns :=
  let padded := row.values ++ List.replicate (8 - row.values.length) Cell.blank
  { date := padded.getD 0 .blank
    customer := padded.getD 1 .blank
    invoice := padded.getD 2 .blank
    product := padded.getD 3 .blank
    quantity := padded.getD 4 .blank
    price := padded.getD 5 .blank
    amount := padded.getD 6 .blank
    daily := padded.getD 7 .blank
    extras := padded.drop 7 }

/-- The formula in the eighth column, when the formulas are read. -/
def SheetRow.formulaTotal (separate : Bool) (row : SheetRow) : List Char :=
  if separate then ((row.formulas ++ List.replicate 8 Cell.blank).getD 7 .blank).strOrEmpty else []

def isTotal (T : ProductCase) (date : Cell) : Bool :=
  match date with
  | .text value => T.upper (trim isSpace value) == "TOTAL".toList
  | _ => false

/-- `discoun\s*t` -/
def isDiscount (product : List Char) : Bool :=
  (Pattern.all [word "discoun", spaces, letter 't']).fullMatch product

/-- `=\$?G\$?{row_number}` -/
def ownTotal (rowNumber : Nat) : Pattern :=
  .all [mark '=', .opt (mark '$'), letter 'G', .opt (mark '$'), word (toString rowNumber)]

/-- `=SUM\(\$?G\$?{start}:\$?G\$?{row_number}\)` -/
def sumTotal (start rowNumber : Nat) : Pattern :=
  .all [word "=SUM(", .opt (mark '$'), letter 'G', .opt (mark '$'), word (toString start), mark ':',
    .opt (mark '$'), letter 'G', .opt (mark '$'), word (toString rowNumber), mark ')']

/-! ## The state of the loop -/

structure Issue where
  kind : String
  row : Nat
  detail : List Char
  deriving DecidableEq, Repr

structure LoopState where
  finished : List SourceTicket
  current : Option SourceTicket
  activeDate : Option Int
  activeDateFlags : List String
  closedInvoice : Bool
  monthlyReported : Option Int
  issues : List Issue
  deriving DecidableEq, Repr

def LoopState.initial : LoopState :=
  { finished := []
    current := none
    activeDate := none
    activeDateFlags := []
    closedInvoice := false
    monthlyReported := none
    issues := [] }

/-- `sheet_tickets` -/
def LoopState.tickets (s : LoopState) : List SourceTicket := s.finished ++ s.current.toList

/-! ## One row -/

section Row

variable (T : ProductCase) (sheet : Sheet) (separate : Bool) (rowNumber : Nat)

/-- The date of the row becomes the active one. -/
def noteDate (rawDate : Cell) (s : LoopState) : LoopState :=
  let (parsed, issue) := sourceDate rawDate sheet.month
  let plain := rawDate != .blank && T.upper (trim isSpace rawDate.str) != "TOTAL".toList
  { s with
    activeDate := parsed.or s.activeDate
    activeDateFlags :=
      if parsed.isNone then s.activeDateFlags
      else if issue = some "sheet_mismatch" then ["date_sheet_mismatch"]
      else []
    issues := s.issues ++ ((issue.filter fun _ => plain).toList.map fun kind =>
      { kind := kind
        row := rowNumber
        detail := rawDate.str }) }

/-- An unlabelled row with a total of its own after a closed invoice. -/
def independent (s : LoopState) (customer invoice product formulaTotal : List Char) : Bool :=
  s.closedInvoice && customer.isEmpty && invoice.isEmpty && !product.isEmpty &&
    (ownTotal rowNumber).fullMatch formulaTotal

/-- `new_ticket` when there is a current invoice. -/
def startsTicket (s : LoopState) (current : SourceTicket) (alone : Bool) (customer invoice : List Char)
    (parsedDate : Option Int) : Bool :=
  let repeatedInvoice := !invoice.isEmpty && invoice == current.invoiceNumber && customer.isEmpty &&
    s.activeDate == current.saleDate
  alone || (!invoice.isEmpty && !repeatedInvoice) || !customer.isEmpty ||
    (parsedDate.isSome && current.saleDate != parsedDate)

/-- A fresh invoice for the row. -/
def newTicket (s : LoopState) (alone : Bool) (customer invoice : List Char) : SourceTicket :=
  { workbook := sheet.workbook
    sheet := sheet.title
    row := rowNumber
    saleDate := s.activeDate
    customerLabel := customer
    invoiceNumber := invoice
    lines := []
    notes := []
    adjustments := []
    reportedTotal := none
    duplicateOf := none
    qualityFlags := s.activeDateFlags ++ if alone then ["unlabelled_separate_total"] else [] }

def newTicketIssues (s : LoopState) (alone : Bool) (customer invoice product : List Char) : List Issue :=
  let issue (kind : String) (detail : List Char) : Issue :=
    { kind := kind
      row := rowNumber
      detail := detail }
  (if alone then [issue "unlabelled_separate_total" product] else []) ++
    (if s.activeDate = none then [issue "missing_date" "No date context".toList] else []) ++
    (if invoice = [] then [issue "missing_invoice" (if customer = [] then product else customer)]
      else []) ++
    (if customer = [] then [issue "missing_customer" (if invoice = [] then product else invoice)]
      else [])

/-- The invoice that the row belongs to: the current one, or a fresh one after it. -/
def ticketFor (s : LoopState) (parsedDate : Option Int) (customer invoice product : List Char)
    (formulaTotal : List Char) : LoopState × SourceTicket :=
  let alone := independent rowNumber s customer invoice product formulaTotal
  let opened : LoopState × SourceTicket :=
    ({ s with
       finished := s.tickets
       closedInvoice := false
       issues := s.issues ++ newTicketIssues rowNumber s alone customer invoice product },
     newTicket sheet rowNumber s alone customer invoice)
  match s.current with
  | none => opened
  | some current =>
      if startsTicket s current alone customer invoice parsedDate then opened else (s, current)

def sizeCodes : List (String × String) :=
  [("FML", "FM"), ("CML", "CM"), ("SBL", "SB"), ("BBL", "BB"), ("ML", "M")]

/-- `size_codes[base]` for the last full-size product -/
def sizeCodeOf (lines : List SourceLine) : Option (List Char) :=
  lines.reverse.findSome? fun line =>
    (sizeCodes.map fun entry => (entry.1.toList, entry.2.toList)).lookup
      ((T.upper line.product).filter fun c => c != ' ')

/-- A bare size takes the code of the last full-size product before it. -/
def sizedProduct (lines : List SourceLine) (product : List Char) : List Char × List Issue :=
  if (product = "200".toList ∨ product = "300".toList) ∧ lines ≠ [] then
    match sizeCodeOf T lines with
    | some code => (code ++ product, [])
    | none => (product, [{ kind := "unresolved_size_label"
                           row := rowNumber
                           detail := product }])
  else (product, [])

/-- `current.reported_total`, when the daily total is a number. -/
def reportTotal (daily : Cell) (ticket : SourceTicket) : Except String SourceTicket :=
  if daily.isNumber then do
    let total ← daily.money
    pure { ticket with reportedTotal := total }
  else pure ticket

def addDiscount (amount : Cell) (product : List Char) (ticket : SourceTicket) :
    Except String (SourceTicket × List Issue) := do
  let adjustment ← amount.money
  match adjustment with
  | some adjustment => pure ({ ticket with adjustments := ticket.adjustments ++ [adjustment] }, [])
  | none => pure (ticket, [{ kind := "missing_discount_amount"
                             row := rowNumber
                             detail := product }])

/-- The amount of a line and what is to be reported about it. -/
def lineAmount (product : List Char) (ticket : SourceTicket) (quantity : Int)
    (unitPrice amount : Option Int) : Except String (Option Int × List Issue) := do
  let issue (kind : String) : Issue :=
    { kind := kind
      row := rowNumber
      detail := product }
  let (amount, calculated) ← match amount, unitPrice with
    | none, some unitPrice => do
        let value := decimalContext ((quantity : ℚ) / 100 * ((unitPrice : ℚ) / 100))
        let cents ← quantizeCents roundHalfUp value
        pure (some cents, [issue "calculated_line_amount"])
    | _, _ => pure (amount, [])
  let unpriced := unitPrice = none ∧ ticket.lines ≠ [] ∧ ∀ line ∈ ticket.lines, line.amount = none
  let amount := if unpriced then none else amount
  pure (amount, calculated ++ if amount = none then [issue "missing_line_amount"] else [])

def addLine (columns : Columns) (product : List Char) (ticket : SourceTicket) :
    Except String (SourceTicket × List Issue) := do
  let quantity ← columns.quantity.money
  let unitPrice ← columns.price.money
  let amount ← columns.amount.money
  match quantity with
  | none => pure (ticket, [{ kind := "invalid_quantity"
                             row := rowNumber
                             detail := product }])
  | some quantity =>
      if quantity ≤ 0 then
        pure (ticket, [{ kind := "invalid_quantity"
                         row := rowNumber
                         detail := product }])
      else do
        let (amount, issues) ← lineAmount rowNumber product ticket quantity unitPrice amount
        let line : SourceLine :=
          { row := rowNumber
            product := product
            quantity := quantity
            unitPrice := unitPrice
            amount := amount }
        pure ({ ticket with lines := ticket.lines ++ [line] }, issues)

/-- What every row that is no discount does to its invoice at the end. -/
def closeRow (columns : Columns) (formulaTotal : List Char) (s : LoopState) (ticket : SourceTicket) :
    Except String LoopState := do
  let ticket ← reportTotal columns.daily ticket
  let closed :=
    match ticket.lines with
    | first :: _ =>
        if separate then (sumTotal first.row rowNumber).fullMatch formulaTotal else s.closedInvoice
    | [] => s.closedInvoice
  let notes := columns.extras.filterMap fun extra =>
    match extra with
    | .text value => if trim isSpace value = [] then none else some (trim isSpace value)
    | _ => none
  pure
    { s with
      current := some { ticket with notes := ticket.notes ++ notes }
      closedInvoice := closed }

/-- The line or the discount of the row, and its end. -/
def enterRow (columns : Columns) (product formulaTotal : List Char) (s : LoopState)
    (ticket : SourceTicket) : Except String LoopState :=
  if product = [] then closeRow separate rowNumber columns formulaTotal s ticket
  else
    let sized := sizedProduct T rowNumber ticket.lines product
    let s := { s with issues := s.issues ++ sized.2 }
    if isDiscount sized.1 then do
      let (ticket, issues) ← addDiscount rowNumber columns.amount sized.1 ticket
      let ticket ← reportTotal columns.daily ticket
      pure
        { s with
          current := some ticket
          issues := s.issues ++ issues }
    else do
      let (ticket, issues) ← addLine rowNumber columns sized.1 ticket
      closeRow separate rowNumber columns formulaTotal { s with issues := s.issues ++ issues } ticket

/-- The body of the loop. -/
def groupRow (s : LoopState) (row : SheetRow) : Except String LoopState :=
  let columns := row.columns
  if isTotal T columns.date then do
    let reported ← columns.amount.money
    pure { s with monthlyReported := reported }
  else
    let parsedDate := (sourceDate columns.date sheet.month).1
    let s := noteDate T sheet rowNumber columns.date s
    let customer := columns.customer.label
    let invoice := columns.invoice.label
    let product := columns.product.label
    if customer = [] ∧ invoice = [] ∧ product = [] then pure s
    else
      let formulaTotal := row.formulaTotal separate
      let found := ticketFor sheet rowNumber s parsedDate customer invoice product formulaTotal
      enterRow T separate rowNumber columns product formulaTotal found.1 found.2

end Row

/-! ## One sheet -/

structure DailyCheck where
  source : String
  reported : Int
  parsed : Int
  difference : Int
  deriving DecidableEq, Repr

structure SheetResult where
  tickets : List SourceTicket
  issues : List Issue
  dailyChecks : List DailyCheck
  monthlyCheck : Option MonthlyCheck
  deriving DecidableEq, Repr

/-- `daily_sums`, exact like the amounts. -/
def dailySums (tickets : List SourceTicket) : List (Option Int × Int) :=
  tally SourceTicket.saleDate SourceTicket.amount
    (tickets.filter fun ticket => ticket.saleDate.isSome)

/-- The check of a reported total, unless it is that of the day. -/
def dailyCheck (sums : List (Option Int × Int)) (ticket : SourceTicket) : Option DailyCheck :=
  ticket.reportedTotal.bind fun reported =>
    let difference := ticket.amount - reported
    if difference ≠ 0 ∧ ticket.saleDate ≠ none ∧
        |(sums.lookup ticket.saleDate).getD 0 - reported| ≤ 1 then none
    else if difference ≠ 0 then
      some { source := ticket.reference
             reported := reported
             parsed := ticket.amount
             difference := difference }
    else none

/-- A sheet of `parse_workbooks`. -/
def parseSheet (T : ProductCase) (sheet : Sheet) (separate : Bool) (rows : List SheetRow) :
    Except String SheetResult := do
  let s ← (rows.zipIdx 4).foldlM (fun s row => groupRow T sheet separate row.2 s row.1) LoopState.initial
  let sums := dailySums s.tickets
  let parsed := (sums.map Prod.snd).sum
  pure
    { tickets := s.tickets
      issues := s.issues
      dailyChecks := s.tickets.filterMap (dailyCheck sums)
      monthlyCheck := s.monthlyReported.map fun reported =>
        { source := sheet.workbook ++ ":" ++ sheet.title
          reported := reported
          parsed := parsed
          difference := parsed - reported } }

end Importers
end RosarioDairy
