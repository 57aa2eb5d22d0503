import Mathlib.Tactic.Linarith
import RosarioDairy.Sales.Importers.Workbooks

/-!
# WorkbookRows — no row of a sheet is lost or taken twice

A row adds its line or its discount to the last invoice, or to a fresh one behind it; so the lines and the
discounts of the invoices, taken in order, are those of the rows.
-/

namespace RosarioDairy
namespace Importers

open CustomerNames Forecasting Foundations

/-! ## What a row is to add -/

/-- The quantity of a sale row, in hundredths. -/
def saleQuantity (T : ProductCase) (row : SheetRow) : Option Int :=
  let columns := row.columns
  if isTotal T columns.date = true ∨ columns.product.label = [] ∨
      isDiscount columns.product.label = true then none
  else
    match columns.quantity.money with
    | .ok (some quantity) => if 0 < quantity then some quantity else none
    | _ => none

/-- The amount of a discount row. -/
def discountAmount (T : ProductCase) (row : SheetRow) : Option Int :=
  let columns := row.columns
  if isTotal T columns.date = true ∨ isDiscount columns.product.label = false then none
  else
    match columns.amount.money with
    | .ok amount => amount
    | .error _ => none

/-- The row number and the quantity of a line. -/
def lineKey (line : SourceLine) : Nat × Int := (line.row, line.quantity)

/-- An invoice with some more lines and adjustments. -/
structure Extends (ticket ticket' : SourceTicket) (lines : List SourceLine) (adjustments : List Int) :
    Prop where
  row : ticket'.row = ticket.row
  lines : ticket'.lines = ticket.lines ++ lines
  adjustments : ticket'.adjustments = ticket.adjustments ++ adjustments

namespace Extends

theorem same {ticket ticket' : SourceTicket} (hrow : ticket'.row = ticket.row)
    (hlines : ticket'.lines = ticket.lines) (hadjustments : ticket'.adjustments = ticket.adjustments) :
    Extends ticket ticket' [] [] :=
  { row := hrow
    lines := by rw [hlines, List.append_nil]
    adjustments := by rw [hadjustments, List.append_nil] }

theorem then_same {ticket ticket' ticket'' : SourceTicket} {lines : List SourceLine}
    {adjustments : List Int} (h : Extends ticket ticket' lines adjustments)
    (h' : Extends ticket' ticket'' [] []) : Extends ticket ticket'' lines adjustments :=
  { row := h'.row.trans h.row
    lines := by rw [h'.lines, List.append_nil, h.lines]
    adjustments := by rw [h'.adjustments, List.append_nil, h.adjustments] }

end Extends

/-! ## The parts of a row -/

section Parts

variable {T : ProductCase} {rowNumber : Nat} {ticket ticket' : SourceTicket}

theorem isDiscount_nil : isDiscount [] = false := by decide

theorem sizeCodes_no_discount : ∀ entry ∈ sizeCodes,
    isDiscount (entry.2.toList ++ "200".toList) = false ∧
      isDiscount (entry.2.toList ++ "300".toList) = false := by
  decide +kernel

theorem sizeCodeOf_mem {lines : List SourceLine} {code : List Char}
    (h : sizeCodeOf T lines = some code) : ∃ entry ∈ sizeCodes, entry.2.toList = code := by
  obtain ⟨line, _, hlookup⟩ := List.exists_of_findSome?_eq_some h
  obtain ⟨before, after, htable, _⟩ := List.lookup_eq_some_iff.1 hlookup
  have hmem : (_, code) ∈ sizeCodes.map fun entry => (entry.1.toList, entry.2.toList) :=
    htable ▸ List.mem_append_right _ List.mem_cons_self
  obtain ⟨entry, hentry, hEq⟩ := List.mem_map.1 hmem
  exact ⟨entry, hentry, (Prod.mk.inj hEq).2⟩

/-- A size code makes no discount out of a size. -/
theorem isDiscount_sized (lines : List SourceLine) (product : List Char) :
    isDiscount (sizedProduct T rowNumber lines product).1 = isDiscount product := by
  unfold sizedProduct
  by_cases hsize : (product = "200".toList ∨ product = "300".toList) ∧ lines ≠ []
  · rw [if_pos hsize]
    cases hcode : sizeCodeOf T lines with
    | none => rfl
    | some code =>
        obtain ⟨entry, hentry, rfl⟩ := sizeCodeOf_mem hcode
        obtain ⟨htwo, hthree⟩ := sizeCodes_no_discount entry hentry
        rcases hsize.1 with rfl | rfl
        · exact htwo.trans (by decide +kernel)
        · exact hthree.trans (by decide +kernel)
  · rw [if_neg hsize]

theorem reportTotal_extends {daily : Cell} (h : reportTotal daily ticket = .ok ticket') :
    Extends ticket ticket' [] [] := by
  unfold reportTotal at h
  by_cases hnumber : daily.isNumber = true
  · rw [if_pos hnumber] at h
    obtain ⟨total, _, h⟩ := bind_eq_ok.1 h
    obtain rfl := pure_eq_ok.1 h
    exact Extends.same rfl rfl rfl
  · rw [if_neg hnumber] at h
    obtain rfl := pure_eq_ok.1 h
    exact Extends.same rfl rfl rfl

theorem addDiscount_extends {amount : Cell} {product : List Char} {issues : List Issue}
    (h : addDiscount rowNumber amount product ticket = .ok (ticket', issues)) :
    ∃ adjustment, amount.money = .ok adjustment ∧ Extends ticket ticket' [] adjustment.toList := by
  unfold addDiscount at h
  obtain ⟨adjustment, hmoney, h⟩ := bind_eq_ok.1 h
  refine ⟨adjustment, hmoney, ?_⟩
  cases adjustment with
  | none =>
      obtain ⟨rfl, _⟩ := pure_pair_eq_ok.1 h
      exact Extends.same rfl rfl rfl
  | some adjustment =>
      obtain ⟨rfl, _⟩ := pure_pair_eq_ok.1 h
      exact ⟨rfl, (List.append_nil _).symm, rfl⟩

/-- A line is added exactly for a positive quantity. -/
theorem addLine_extends {columns : Columns} {product : List Char} {issues : List Issue}
    (h : addLine rowNumber columns product ticket = .ok (ticket', issues)) :
    ∃ quantity lines, columns.quantity.money = .ok quantity ∧ Extends ticket ticket' lines [] ∧
      lines.map lineKey =
        ((quantity.filter fun quantity => decide (0 < quantity)).toList.map fun quantity =>
          (rowNumber, quantity)) := by
  unfold addLine at h
  obtain ⟨quantity, hmoney, h⟩ := bind_eq_ok.1 h
  obtain ⟨unitPrice, _, h⟩ := bind_eq_ok.1 h
  obtain ⟨amount, _, h⟩ := bind_eq_ok.1 h
  cases quantity with
  | none =>
      obtain ⟨rfl, _⟩ := pure_pair_eq_ok.1 h
      exact ⟨none, [], hmoney, Extends.same rfl rfl rfl, rfl⟩
  | some quantity =>
      by_cases hquantity : quantity ≤ 0
      · have h := (if_pos hquantity).symm.trans h
        obtain ⟨rfl, _⟩ := pure_pair_eq_ok.1 h
        refine ⟨some quantity, [], hmoney, Extends.same rfl rfl rfl, ?_⟩
        simp [Option.filter, hquantity]
      · have h := (if_neg hquantity).symm.trans h
        obtain ⟨_, _, h⟩ := bind_eq_ok.1 h
        obtain ⟨rfl, _⟩ := pure_pair_eq_ok.1 h
        refine ⟨some quantity, _, hmoney, ⟨rfl, rfl, (List.append_nil _).symm⟩, ?_⟩
        simp [Option.filter, lineKey, not_le.1 hquantity]

theorem closeRow_extends {separate : Bool} {columns : Columns} {formulaTotal : List Char}
    {s s' : LoopState} (h : closeRow separate rowNumber columns formulaTotal s ticket = .ok s') :
    s'.finished = s.finished ∧ ∃ ticket', s'.current = some ticket' ∧ Extends ticket ticket' [] [] := by
  unfold closeRow at h
  obtain ⟨reported, hreported, h⟩ := bind_eq_ok.1 h
  obtain rfl := pure_eq_ok.1 h
  exact ⟨rfl, _, rfl, (reportTotal_extends hreported).then_same (Extends.same rfl rfl rfl)⟩

end Parts

/-! ## One row -/

section Row

variable {T : ProductCase} {sheet : Sheet} {separate : Bool} {rowNumber : Nat} {row : SheetRow}
  {s s' : LoopState}

/-- A row without a product adds nothing. -/
theorem nothing_without_product (h : row.columns.product.label = []) :
    saleQuantity T row = none ∧ discountAmount T row = none := by
  constructor
  · exact if_pos (Or.inr (Or.inl h))
  · refine if_pos (Or.inr ?_)
    rw [h]
    exact isDiscount_nil

theorem nothing_of_total (h : isTotal T row.columns.date = true) :
    saleQuantity T row = none ∧ discountAmount T row = none :=
  ⟨if_pos (Or.inl h), if_pos (Or.inl h)⟩

theorem discount_row (htotal : isTotal T row.columns.date = false)
    (hdiscount : isDiscount row.columns.product.label = true) {amount : Option Int}
    (hmoney : row.columns.amount.money = .ok amount) :
    saleQuantity T row = none ∧ discountAmount T row = amount := by
  constructor
  · exact if_pos (Or.inr (Or.inr hdiscount))
  · unfold discountAmount
    simp [htotal, hdiscount, hmoney]

theorem sale_row (htotal : isTotal T row.columns.date = false)
    (hproduct : row.columns.product.label ≠ [])
    (hdiscount : isDiscount row.columns.product.label = false) {quantity : Option Int}
    (hmoney : row.columns.quantity.money = .ok quantity) :
    saleQuantity T row = (quantity.filter fun quantity => decide (0 < quantity)) ∧
      discountAmount T row = none := by
  constructor
  · unfold saleQuantity
    cases quantity with
    | none => simp [hmoney]
    | some quantity =>
        by_cases hpos : 0 < quantity
        · simp [htotal, hproduct, hdiscount, hmoney, hpos, Option.filter]
        · simp [hmoney, hpos, Option.filter]
  · exact if_pos (Or.inr hdiscount)

/-- What the rest of a row does to the invoice that the row belongs to. -/
theorem enterRow_extends {ticket : SourceTicket} {formulaTotal : List Char}
    (htotal : isTotal T row.columns.date = false)
    (h : enterRow T separate rowNumber row.columns row.columns.product.label formulaTotal s ticket =
      .ok s') :
    s'.finished = s.finished ∧ ∃ ticket' lines, s'.current = some ticket' ∧
      Extends ticket ticket' lines (discountAmount T row).toList ∧
      lines.map lineKey = (saleQuantity T row).toList.map fun quantity => (rowNumber, quantity) := by
  unfold enterRow at h
  by_cases hproduct : row.columns.product.label = []
  · -- without a product the row closes with nothing added
    rw [if_pos hproduct] at h
    obtain ⟨hsale, hdiscount⟩ := nothing_without_product (T := T) hproduct
    obtain ⟨hfinished, ticket', hcurrent, hextends⟩ := closeRow_extends h
    rw [hsale, hdiscount]
    exact ⟨hfinished, ticket', [], hcurrent, hextends, rfl⟩
  · have h := (if_neg hproduct).symm.trans h
    have hsized := @isDiscount_sized T rowNumber ticket.lines
      row.columns.product.label
    by_cases hlabel : isDiscount row.columns.product.label = true
    · -- a discount is added to the adjustments of the invoice
      have h := (if_pos (hsized.trans hlabel)).symm.trans h
      obtain ⟨⟨added, issues⟩, hadded, h⟩ := bind_eq_ok.1 h
      obtain ⟨reported, hreported, h⟩ := bind_eq_ok.1 h
      obtain rfl := pure_eq_ok.1 h
      obtain ⟨adjustment, hmoney, hextends⟩ := addDiscount_extends hadded
      obtain ⟨hsale, hdiscount⟩ := discount_row htotal hlabel hmoney
      rw [hsale, hdiscount]
      exact ⟨rfl, reported, [], rfl, hextends.then_same (reportTotal_extends hreported), rfl⟩
    · -- any other product is a line, with the row's number
      have hlabel := eq_false_of_ne_true hlabel
      have h := (if_neg (ne_true_of_eq_false (hsized.trans hlabel))).symm.trans h
      obtain ⟨⟨added, issues⟩, hadded, h⟩ := bind_eq_ok.1 h
      obtain ⟨quantity, lines, hmoney, hextends, hkeys⟩ := addLine_extends hadded
      obtain ⟨hfinished, ticket', hcurrent, hclosed⟩ := closeRow_extends h
      obtain ⟨hsale, hdiscount⟩ := sale_row htotal hproduct hlabel hmoney
      rw [hsale, hdiscount]
      exact ⟨hfinished, ticket', lines, hcurrent, hextends.then_same hclosed, hkeys⟩

/-- The invoice of a row is the current one, or a fresh one behind all the others. -/
theorem ticketFor_cases (s : LoopState) (parsedDate : Option Int)
    (customer invoice product formulaTotal : List Char) :
    let found := ticketFor sheet rowNumber s parsedDate customer invoice product formulaTotal
    (s.current = some found.2 ∧ found.1.finished = s.finished) ∨
      (found.1.finished = s.tickets ∧ found.2.row = rowNumber ∧ found.2.lines = [] ∧
        found.2.adjustments = []) := by
  unfold ticketFor
  cases hcurrent : s.current with
  | none => exact Or.inr ⟨rfl, rfl, rfl, rfl⟩
  | some current =>
      by_cases hstarts : startsTicket s current
          (independent rowNumber s customer invoice product formulaTotal) customer invoice
            parsedDate = true
      · refine Or.inr ?_
        simp [hstarts, newTicket]
      · refine Or.inl ?_
        simp [hstarts]

/-- After a row the invoices are as before, or the last one is extended, or there is one more. -/
theorem groupRow_cases (h : groupRow T sheet separate rowNumber s row = .ok s') :
    (s'.tickets = s.tickets ∧ saleQuantity T row = none ∧ discountAmount T row = none) ∨
      ∃ before ticket ticket' lines,
        s'.tickets = before ++ [ticket'] ∧
        Extends ticket ticket' lines (discountAmount T row).toList ∧
        lines.map lineKey = (saleQuantity T row).toList.map (fun quantity => (rowNumber, quantity)) ∧
        (s.tickets = before ++ [ticket] ∨
          (before = s.tickets ∧ ticket.row = rowNumber ∧ ticket.lines = [] ∧
            ticket.adjustments = [])) := by
  unfold groupRow at h
  by_cases htotal : isTotal T row.columns.date = true
  · -- a row of totals is only compared
    have h := (if_pos htotal).symm.trans h
    obtain ⟨reported, _, h⟩ := bind_eq_ok.1 h
    obtain rfl := pure_eq_ok.1 h
    exact Or.inl ⟨rfl, nothing_of_total htotal⟩
  · have h := (if_neg htotal).symm.trans h
    by_cases hblank : row.columns.customer.label = [] ∧ row.columns.invoice.label = [] ∧
        row.columns.product.label = []
    · -- a row without customer, invoice and product is skipped
      have h := (if_pos hblank).symm.trans h
      obtain rfl := pure_eq_ok.1 h
      exact Or.inl ⟨rfl, nothing_without_product hblank.2.2⟩
    · -- the row goes to the open invoice, or opens a new one
      have hcases := @ticketFor_cases sheet rowNumber
        (noteDate T sheet rowNumber row.columns.date s)
        (sourceDate row.columns.date sheet.month).1 row.columns.customer.label
        row.columns.invoice.label row.columns.product.label (row.formulaTotal separate)
      have h := (if_neg hblank).symm.trans h
      dsimp only at h hcases
      generalize ticketFor sheet rowNumber (noteDate T sheet rowNumber row.columns.date s)
        (sourceDate row.columns.date sheet.month).1 row.columns.customer.label
        row.columns.invoice.label row.columns.product.label (row.formulaTotal separate) = found
        at h hcases
      obtain ⟨hfinished, ticket', lines, hcurrent, hextends, hkeys⟩ :=
        enterRow_extends (eq_false_of_ne_true htotal) h
      refine Or.inr ⟨found.1.finished, found.2, ticket', lines, ?_, hextends, hkeys, ?_⟩
      · rw [LoopState.tickets, hfinished, hcurrent]
        rfl
      · -- the invoice was open before the row, or it was opened by it
        rcases hcases with ⟨hsame, hbefore⟩ | ⟨hbefore, hfresh⟩
        · have hcurrent : s.current = some found.2 := hsame
          refine Or.inl ?_
          rw [LoopState.tickets, hcurrent, hbefore]
          rfl
        · exact Or.inr ⟨hbefore, hfresh⟩

end Row

/-! ## A whole sheet -/

/-- The sale rows with their numbers and quantities. -/
def saleRows (T : ProductCase) (rows : List (SheetRow × Nat)) : List (Nat × Int) :=
  rows.filterMap fun row => (saleQuantity T row.1).map fun quantity => (row.2, quantity)

def discountRows (T : ProductCase) (rows : List (SheetRow × Nat)) : List Int :=
  rows.filterMap fun row => discountAmount T row.1

def lineKeys (tickets : List SourceTicket) : List (Nat × Int) :=
  (tickets.flatMap SourceTicket.lines).map lineKey

/-- The rows of the invoices and their lines, up to the row that comes next. -/
structure Ordered (tickets : List SourceTicket) (next : Nat) : Prop where
  rows : tickets.Pairwise fun ticket later =>
    ticket.row < later.row ∧ ∀ line ∈ ticket.lines, line.row < later.row
  below : ∀ ticket ∈ tickets, ticket.row < next
  lines : ∀ ticket ∈ tickets, ∀ line ∈ ticket.lines, ticket.row ≤ line.row ∧ line.row < next
  sorted : ∀ ticket ∈ tickets, ticket.lines.Pairwise fun line later => line.row < later.row

namespace Ordered

variable {before : List SourceTicket} {ticket ticket' : SourceTicket} {lines : List SourceLine}
  {adjustments : List Int} {n : Nat}

theorem nil (n : Nat) : Ordered [] n :=
  { rows := List.Pairwise.nil
    below := fun _ h => absurd h List.not_mem_nil
    lines := fun _ h => absurd h List.not_mem_nil
    sorted := fun _ h => absurd h List.not_mem_nil }

theorem next {tickets : List SourceTicket} (h : Ordered tickets n) : Ordered tickets (n + 1) :=
  { rows := h.rows
    below := fun ticket hticket => Nat.lt_succ_of_lt (h.below ticket hticket)
    lines := by
      intro ticket hticket line hline
      obtain ⟨hfrom, hto⟩ := h.lines ticket hticket line hline
      exact ⟨hfrom, Nat.lt_succ_of_lt hto⟩
    sorted := h.sorted }

/-- A fresh invoice behind the others. -/
theorem open_ticket {tickets : List SourceTicket} (h : Ordered tickets n) (hrow : ticket.row = n)
    (hlines : ticket.lines = []) : Ordered (tickets ++ [ticket]) (n + 1) := by
  have hnext := h.next
  refine ⟨?_, ?_, ?_, ?_⟩
  · refine List.pairwise_append.2 ⟨h.rows, List.pairwise_singleton _ _, ?_⟩
    intro earlier hearlier later hlater
    obtain rfl := List.mem_singleton.1 hlater
    rw [hrow]
    exact ⟨h.below earlier hearlier, fun line hline => (h.lines earlier hearlier line hline).2⟩
  · intro other hother
    rcases List.mem_append.1 hother with hold | hnew
    · exact hnext.below other hold
    · rw [List.mem_singleton.1 hnew, hrow]
      exact Nat.lt_succ_self n
  · intro other hother line hline
    rcases List.mem_append.1 hother with hold | hnew
    · exact hnext.lines other hold line hline
    · rw [List.mem_singleton.1 hnew, hlines] at hline
      exact absurd hline List.not_mem_nil
  · intro other hother
    rcases List.mem_append.1 hother with hold | hnew
    · exact h.sorted other hold
    · rw [List.mem_singleton.1 hnew, hlines]
      exact List.Pairwise.nil

/-- The last invoice takes one more line of row `n`, or none. -/
theorem extend (h : Ordered (before ++ [ticket]) (n + 1))
    (hold : ∀ line ∈ ticket.lines, line.row < n) (hextends : Extends ticket ticket' lines adjustments)
    (hrows : ∀ line ∈ lines, line.row = n) (hone : lines.length ≤ 1) :
    Ordered (before ++ [ticket']) (n + 1) := by
  -- only the last invoice changes, and it keeps its row
  obtain ⟨hbefore, _, hlast⟩ := List.pairwise_append.1 h.rows
  have hmem : ticket ∈ before ++ [ticket] := List.mem_append_right _ List.mem_cons_self
  refine ⟨?_, ?_, ?_, ?_⟩
  · refine List.pairwise_append.2 ⟨hbefore, List.pairwise_singleton _ _, ?_⟩
    intro earlier hearlier later hlater
    rw [List.mem_singleton.1 hlater, hextends.row]
    exact hlast earlier hearlier ticket List.mem_cons_self
  · intro other hother
    rcases List.mem_append.1 hother with hin | hnew
    · exact h.below other (List.mem_append_left _ hin)
    · rw [List.mem_singleton.1 hnew, hextends.row]
      exact h.below ticket hmem
  · intro other hother line hline
    rcases List.mem_append.1 hother with hin | hnew
    · exact h.lines other (List.mem_append_left _ hin) line hline
    · rw [List.mem_singleton.1 hnew, hextends.lines] at hline
      rw [List.mem_singleton.1 hnew, hextends.row]
      -- a line of the last invoice is an old one or comes from this row
      rcases List.mem_append.1 hline with hline | hline
      · exact h.lines ticket hmem line hline
      · rw [hrows line hline]
        exact ⟨Nat.lt_succ_iff.1 (h.below ticket hmem), Nat.lt_succ_self n⟩
  · intro other hother
    rcases List.mem_append.1 hother with hin | hnew
    · exact h.sorted other (List.mem_append_left _ hin)
    · rw [List.mem_singleton.1 hnew, hextends.lines]
      refine List.pairwise_append.2 ⟨h.sorted ticket hmem, ?_, ?_⟩
      · cases lines with
        | nil => exact List.Pairwise.nil
        | cons line rest =>
            have hrest : rest = [] :=
              List.length_eq_zero_iff.1 (Nat.le_zero.1 (Nat.le_of_succ_le_succ hone))
            rw [hrest]
            exact List.pairwise_singleton _ _
      · -- the old lines lie above this row
        intro line hline later hlater
        rw [hrows later hlater]
        exact hold line hline

end Ordered

section Run

variable {T : ProductCase} {sheet : Sheet} {separate : Bool}

/-- One row keeps the order and adds what it is to add. -/
theorem groupRow_accounts {n : Nat} {row : SheetRow} {s s' : LoopState}
    (h : groupRow T sheet separate n s row = .ok s') (hordered : Ordered s.tickets n) :
    Ordered s'.tickets (n + 1) ∧
      lineKeys s'.tickets = lineKeys s.tickets ++ saleRows T [(row, n)] ∧
      s'.tickets.flatMap SourceTicket.adjustments =
        s.tickets.flatMap SourceTicket.adjustments ++ discountRows T [(row, n)] := by
  -- one row gives at most one sale and at most one discount
  have hsale : saleRows T [(row, n)] =
      (saleQuantity T row).toList.map fun quantity => (n, quantity) := by
    unfold saleRows
    cases hquantity : saleQuantity T row with
    | none => simp [hquantity]
    | some quantity => simp [hquantity]
  have hdiscount : discountRows T [(row, n)] = (discountAmount T row).toList := by
    unfold discountRows
    cases hamount : discountAmount T row with
    | none => simp [hamount]
    | some amount => simp [hamount]
  rw [hsale, hdiscount]
  rcases groupRow_cases h with ⟨hsame, hnosale, hnodiscount⟩ |
      ⟨before, ticket, ticket', lines, hafter, hextends, hkeys, hfrom⟩
  · rw [hsame, hnosale, hnodiscount]
    exact ⟨hordered.next, (List.append_nil _).symm, (List.append_nil _).symm⟩
  · -- the invoice of the row as it was, or as it was opened, at the end of the list
    -- a line added by the row has the row's number
    have hrows : ∀ line ∈ lines, line.row = n := by
      intro line hline
      have hkey : lineKey line ∈ lines.map lineKey := List.mem_map_of_mem hline
      rw [hkeys] at hkey
      obtain ⟨quantity, _, hEq⟩ := List.mem_map.1 hkey
      exact (Prod.mk.inj hEq).1.symm
    have hone : lines.length ≤ 1 := by
      rw [← List.length_map (f := lineKey), hkeys, List.length_map]
      cases saleQuantity T row with
      | none => exact Nat.zero_le 1
      | some quantity => exact le_refl 1
    -- before the row is entered: the invoices as they were, or with an empty one opened
    have hstart : Ordered (before ++ [ticket]) (n + 1) ∧ (∀ line ∈ ticket.lines, line.row < n) ∧
        lineKeys (before ++ [ticket]) = lineKeys s.tickets ∧
        (before ++ [ticket]).flatMap SourceTicket.adjustments =
          s.tickets.flatMap SourceTicket.adjustments := by
      rcases hfrom with hcurrent | ⟨rfl, hrow, hnolines, hnoadjustments⟩
      · rw [← hcurrent]
        have hmem : ticket ∈ s.tickets := by
          rw [hcurrent]
          exact List.mem_append_right _ List.mem_cons_self
        exact ⟨hordered.next, fun line hline => (hordered.lines ticket hmem line hline).2, rfl, rfl⟩
      · refine ⟨hordered.open_ticket hrow hnolines, ?_, ?_, ?_⟩
        · rw [hnolines]
          exact fun _ hline => absurd hline List.not_mem_nil
        · simp [lineKeys, hnolines]
        · simp [hnoadjustments]
    obtain ⟨hbegun, hold, hlines, hadjustments⟩ := hstart
    rw [hafter]
    refine ⟨hbegun.extend hold hextends hrows hone, ?_, ?_⟩
    · rw [← hlines]
      simp [lineKeys, hextends.lines, hkeys]
    · rw [← hadjustments]
      simp [hextends.adjustments]

/-- The rows from the `n`-th on. -/
theorem rows_account : ∀ (rows : List SheetRow) {n : Nat} {s s' : LoopState},
    (rows.zipIdx n).foldlM (fun s row => groupRow T sheet separate row.2 s row.1) s = .ok s' →
      Ordered s.tickets n →
        Ordered s'.tickets (n + rows.length) ∧
          lineKeys s'.tickets = lineKeys s.tickets ++ saleRows T (rows.zipIdx n) ∧
          s'.tickets.flatMap SourceTicket.adjustments =
            s.tickets.flatMap SourceTicket.adjustments ++ discountRows T (rows.zipIdx n)
  | [], n, s, s', h, hordered => by
      obtain rfl := pure_eq_ok.1 h
      exact ⟨hordered, (List.append_nil _).symm, (List.append_nil _).symm⟩
  | row :: rows, n, s, s', h, hordered => by
      rw [List.zipIdx_cons, List.foldlM_cons] at h
      obtain ⟨s₁, hrow, hrest⟩ := bind_eq_ok.1 h
      obtain ⟨hordered₁, hlines₁, hadjustments₁⟩ := groupRow_accounts hrow hordered
      obtain ⟨hordered', hlines, hadjustments⟩ := rows_account rows hrest hordered₁
      have hsale : saleRows T ((row, n) :: rows.zipIdx (n + 1)) =
          saleRows T [(row, n)] ++ saleRows T (rows.zipIdx (n + 1)) :=
        List.filterMap_append (l := [(row, n)])
      have hdiscount : discountRows T ((row, n) :: rows.zipIdx (n + 1)) =
          discountRows T [(row, n)] ++ discountRows T (rows.zipIdx (n + 1)) :=
        List.filterMap_append (l := [(row, n)])
      rw [List.zipIdx_cons, hsale, hdiscount, ← List.append_assoc, ← List.append_assoc, ← hlines₁,
        ← hadjustments₁, List.length_cons, ← Nat.add_assoc, Nat.add_right_comm]
      exact ⟨hordered', hlines, hadjustments⟩

/-- The daily sums add up to the amounts of the dated invoices. -/
theorem sum_dailySums (tickets : List SourceTicket) : ((dailySums tickets).map Prod.snd).sum =
    ((tickets.filter fun ticket => ticket.saleDate.isSome).map SourceTicket.amount).sum :=
  total_tally _

end Run

/-- The lines of the invoices are the sale rows, in their order, and the adjustments are the discount rows;
the rows of the invoices increase, and each invoice's lines stand from its own row to before the next one's;
the month is parsed as the sum of the dated invoices. -/
theorem parse_sheet_accounts {T : ProductCase} {sheet : Sheet} {separate : Bool} {rows : List SheetRow}
    {result : SheetResult} (h : parseSheet T sheet separate rows = .ok result) :
    lineKeys result.tickets = saleRows T (rows.zipIdx 4) ∧
      result.tickets.flatMap SourceTicket.adjustments = discountRows T (rows.zipIdx 4) ∧
      (result.tickets.Pairwise fun ticket later =>
        ticket.row < later.row ∧ ∀ line ∈ ticket.lines, line.row < later.row) ∧
      (∀ ticket ∈ result.tickets, (∀ line ∈ ticket.lines, ticket.row ≤ line.row) ∧
        ticket.lines.Pairwise fun line later => line.row < later.row) ∧
      ∀ check ∈ result.monthlyCheck, check.parsed =
        ((result.tickets.filter fun ticket => ticket.saleDate.isSome).map SourceTicket.amount).sum := by
  unfold parseSheet at h
  obtain ⟨s, hrows, h⟩ := bind_eq_ok.1 h
  obtain rfl := pure_eq_ok.1 h
  obtain ⟨hordered, hlines, hadjustments⟩ := rows_account rows hrows (Ordered.nil 4)
  refine ⟨hlines, hadjustments, hordered.rows, ?_, ?_⟩
  · intro ticket hticket
    exact ⟨fun line hline => (hordered.lines ticket hticket line hline).1,
      hordered.sorted ticket hticket⟩
  · intro check hcheck
    obtain ⟨reported, _, rfl⟩ := Option.map_eq_some_iff.1 hcheck
    exact sum_dailySums s.tickets

/-! ## Small sheets -/

def january : Sheet :=
  { workbook := "2025"
    title := "JANUARY"
    month := 1 }

def saleRow (quantity : String) : SheetRow :=
  { values := [.text "1/26/25".toList, .text "PCC-UPLB".toList, .text "SI03744".toList, .text "FML".toList,
      .number quantity.toList, .number "100".toList, .number "200".toList]
    formulas := [] }

def discountRow : SheetRow :=
  { values := [.blank, .blank, .blank, .text "DISCOUN T".toList, .blank, .blank, .number "-15.5".toList]
    formulas := [] }

/-- The next sale, and a second line of it. -/
def tikmeRow : SheetRow :=
  { values := [.text "1/27/25".toList, .text "Tikme".toList, .text "SI03745".toList,
      .text "Kesong Puti".toList, .number "3".toList, .number "50".toList, .number "150".toList]
    formulas := [] }

def lineRow : SheetRow :=
  { values := [.blank, .blank, .blank, .text "FML".toList, .number "1".toList, .number "100".toList,
      .number "100".toList]
    formulas := [] }

def totalRow : SheetRow :=
  { values := [.text " total ".toList, .blank, .blank, .blank, .blank, .blank, .number "434.5".toList]
    formulas := [] }

def januaryRows : List SheetRow := [saleRow "2", discountRow, tikmeRow, lineRow, totalRow]

/-- The invoice of a sale row, with its lines and adjustments. -/
def uplbInvoice (lines : List SourceLine) (adjustments : List Int) : SourceTicket :=
  { workbook := "2025"
    sheet := "JANUARY"
    row := 4
    saleDate := some 739277
    customerLabel := "PCC-UPLB".toList
    invoiceNumber := "SI03744".toList
    lines := lines
    notes := []
    adjustments := adjustments
    reportedTotal := none
    duplicateOf := none
    qualityFlags := [] }

def tikmeInvoice : SourceTicket :=
  { workbook := "2025"
    sheet := "JANUARY"
    row := 6
    saleDate := some 739278
    customerLabel := "Tikme".toList
    invoiceNumber := "SI03745".toList
    lines :=
      [{ row := 6, product := "Kesong Puti".toList, quantity := 300, unitPrice := some 5000,
         amount := some 15000 },
       { row := 7, product := "FML".toList, quantity := 100, unitPrice := some 10000,
         amount := some 10000 }]
    notes := []
    adjustments := []
    reportedTotal := none
    duplicateOf := none
    qualityFlags := [] }

def uplbResult : SheetResult :=
  { tickets := [uplbInvoice
      [{ row := 4, product := "FML".toList, quantity := 200, unitPrice := some 10000,
         amount := some 20000 }]
      [-1550], tikmeInvoice]
    issues := []
    dailyChecks := []
    monthlyCheck := some
      { source := "2025:JANUARY"
        reported := 43450
        parsed := 43450
        difference := 0 } }

theorem uplb_parsed : parseSheet ProductCase.ascii january false januaryRows = .ok uplbResult := by
  decide +kernel

theorem parse_sheet_accounts_uplb :
    lineKeys uplbResult.tickets = saleRows ProductCase.ascii (januaryRows.zipIdx 4) ∧
      uplbResult.tickets.flatMap SourceTicket.adjustments =
        discountRows ProductCase.ascii (januaryRows.zipIdx 4) ∧
      ∀ check ∈ uplbResult.monthlyCheck, check.parsed =
        ((uplbResult.tickets.filter fun ticket => ticket.saleDate.isSome).map
          SourceTicket.amount).sum :=
  ⟨(parse_sheet_accounts uplb_parsed).1, (parse_sheet_accounts uplb_parsed).2.1,
    (parse_sheet_accounts uplb_parsed).2.2.2.2⟩

/-- A positive quantity below half a hundredth is rounded to nothing and makes no line; one of more than
28 digits ends the parse. -/
theorem quantity_lost : (∃ result : SheetResult,
    parseSheet ProductCase.ascii january false [saleRow "0.004"] = .ok result ∧
      isTotal ProductCase.ascii (saleRow "0.004").columns.date = false ∧
      (saleRow "0.004").columns.product.label ≠ [] ∧
      isDiscount (saleRow "0.004").columns.product.label = false ∧
      (∃ quantity, decimalOf (saleRow "0.004").columns.quantity.str = some quantity ∧ 0 < quantity) ∧
      result.tickets.flatMap SourceTicket.lines = []) ∧
    parseSheet ProductCase.ascii january false [saleRow "1e30"] =
      .error "decimal.InvalidOperation" :=
  ⟨⟨{ tickets := [uplbInvoice [] []]
      issues := [{ kind := "invalid_quantity"
                   row := 4
                   detail := "FML".toList }]
      dailyChecks := []
      monthlyCheck := none },
    by decide +kernel, by decide +kernel, by decide +kernel, by decide +kernel,
    ⟨1 / 250, by decide +kernel, by decide +kernel⟩, rfl⟩, by decide +kernel⟩

end Importers
end RosarioDairy
