import Mathlib.Data.List.Perm.Basic
import Mathlib.Tactic.FieldSimp
import Mathlib.Tactic.Linarith
import Mathlib.Tactic.Positivity
import RosarioDairy.Sales.Importers.RefreshPlan

/-!
# RefreshAccounts — a plan accounts for every line and every amount

A line is ruled dairy or excluded, and the dairy lines of an invoice are kept or held together; what an
invoice adds to its sheet splits into the kept amount and the rest.
-/

namespace RosarioDairy
namespace Importers

open Forecasting Foundations

/-! ## Amounts of lines -/

namespace SourceTicket

theorem gross_eq_total (lines : List SourceLine) :
    gross lines = total (fun line : SourceLine => line.amount.getD 0) lines := rfl

theorem gross_nonneg {lines : List SourceLine}
    (hlines : ∀ line ∈ lines, ∃ amount, line.amount = some amount ∧ 0 ≤ amount) : 0 ≤ gross lines := by
  apply List.sum_nonneg
  intro value hvalue
  obtain ⟨line, hline, rfl⟩ := List.mem_map.1 hvalue
  obtain ⟨amount, hamount, hpos⟩ := hlines line hline
  rw [hamount]
  exact hpos

/-- Some of the lines are worth no more than all of them. -/
theorem gross_filter_le {lines : List SourceLine} (p : SourceLine → Bool)
    (hlines : ∀ line ∈ lines, ∃ amount, line.amount = some amount ∧ 0 ≤ amount) :
    gross (lines.filter p) ≤ gross lines := by
  have hparts := total_filter_add (fun line : SourceLine => line.amount.getD 0) p lines
  have hrest : 0 ≤ gross (lines.filter fun line => !p line) :=
    gross_nonneg fun line hline => hlines line (List.mem_of_mem_filter hline)
  rw [gross_eq_total] at hrest
  rw [gross_eq_total, gross_eq_total]
  linarith

/-- The total of an invoice whose lines all have amounts. -/
theorem amount_of_priced {ticket : SourceTicket}
    (hlines : ∀ line ∈ ticket.lines, ∃ amount, line.amount = some amount ∧ 0 ≤ amount) :
    ticket.amount = gross ticket.lines + ticket.adjustments.sum := by
  have hpriced : (ticket.lines.any fun line => line.amount.isNone) = false := by
    rw [List.any_eq_false]
    intro line hline
    obtain ⟨amount, hamount, _⟩ := hlines line hline
    simp [hamount]
  unfold amount
  rw [hpriced]
  cases ticket.reportedTotal with
  | none => rfl
  | some reported => rfl

end SourceTicket

/-! ## The share of the adjustments -/

section Share

variable {gross kept adjustment : Int}

theorem neg_kept_le_share (hkept : 0 ≤ kept) (hgross : 0 < gross) (htotal : 0 ≤ gross + adjustment) :
    -kept ≤ roundHalfUp ((adjustment : ℚ) * kept / gross) := by
  have hk : (0 : ℚ) ≤ kept := by exact_mod_cast hkept
  have hg : (0 : ℚ) < gross := by exact_mod_cast hgross
  have ht : (0 : ℚ) ≤ gross + adjustment := by exact_mod_cast htotal
  apply le_roundHalfUp
  rw [le_div_iff₀ hg, Int.cast_neg]
  have hprod : 0 ≤ (kept : ℚ) * (gross + adjustment) := mul_nonneg hk ht
  linarith

theorem share_le (hle : kept ≤ gross) (hgross : 0 < gross) (htotal : 0 ≤ gross + adjustment) :
    roundHalfUp ((adjustment : ℚ) * kept / gross) ≤ gross + adjustment - kept := by
  have hrest : (0 : ℚ) ≤ gross - kept := by
    rw [sub_nonneg]
    exact_mod_cast hle
  have hg : (0 : ℚ) < gross := by exact_mod_cast hgross
  have ht : (0 : ℚ) ≤ gross + adjustment := by exact_mod_cast htotal
  apply roundHalfUp_le
  rw [div_le_iff₀ hg]
  push_cast
  -- the excluded lines bear the rest of the total
  have hprod : 0 ≤ ((gross : ℚ) - kept) * (gross + adjustment) := mul_nonneg hrest ht
  linarith

end Share

/-! ## One invoice -/

section Invoice

variable {T : ProductCase} {policy : Policy} {ticket : SourceTicket} {entry : Entry}

/-- What a planned invoice consists of. -/
theorem planTicket_eq_ok (h : planTicket T policy ticket = .ok entry) :
    (∀ line ∈ ticket.lines, isDairy T policy line = true ∨ isExcluded T policy line = true) ∧
      keptAmount ticket (keptLines T policy ticket) = .ok entry.amount ∧
      entry.ticket = ticket ∧ entry.keep = keptLines T policy ticket ∧
      entry.excluded =
        (ticket.lines.filter (isExcluded T policy)).map (excludedLine T policy ticket) ∧
      entry.held = (heldLines T policy ticket).map (heldLine ticket) := by
  unfold planTicket at h
  obtain ⟨_, h⟩ := require_bind_eq_ok.1 h
  obtain ⟨_, hrules, h⟩ := bind_eq_ok.1 h
  obtain ⟨amount, hamount, h⟩ := bind_eq_ok.1 h
  obtain rfl := pure_eq_ok.1 h
  refine ⟨?_, hamount, rfl, rfl, rfl, rfl⟩
  intro line hline
  exact require_eq_ok.1 (forM_eq_ok.1 hrules line hline)

/-- The two rulings exclude each other. -/
theorem isExcluded_of_isDairy {line : SourceLine} (h : isDairy T policy line = true) :
    isExcluded T policy line = false := by
  have hdecision : (policy.rule T line).decision = "dairy" := eq_of_beq h
  simp [isExcluded, hdecision]

theorem kept_append_held :
    keptLines T policy ticket ++ heldLines T policy ticket =
      ticket.lines.filter (isDairy T policy) := by
  unfold keptLines heldLines
  by_cases hhold : onHold T policy ticket = true
  · rw [if_pos hhold, if_pos hhold, List.nil_append]
  · rw [if_neg hhold, if_neg hhold, List.append_nil]

/-- Every line is kept, excluded or held, and only once. -/
theorem lines_divided
    (hrules : ∀ line ∈ ticket.lines, isDairy T policy line = true ∨ isExcluded T policy line = true) :
    (keptLines T policy ticket ++
      (ticket.lines.filter (isExcluded T policy) ++ heldLines T policy ticket)).Perm ticket.lines := by
  have hexcluded : ticket.lines.filter (isExcluded T policy) =
      ticket.lines.filter fun line => !isDairy T policy line := by
    refine List.filter_congr ?_
    intro line hline
    cases hdairy : isDairy T policy line with
    | true => exact isExcluded_of_isDairy hdairy
    | false =>
        rcases hrules line hline with h | h
        · rw [hdairy] at h
          cases h
        · exact h
  refine (List.Perm.append_left _ List.perm_append_comm).trans ?_
  rw [← List.append_assoc, kept_append_held, hexcluded]
  exact List.filter_append_perm _ _

/-- An invoice of which nothing is kept adds nothing. -/
theorem keptAmount_nil : keptAmount ticket [] = .ok 0 := rfl

theorem keptAmount_bounds {p : SourceLine → Bool} {amount : Int}
    (h : keptAmount ticket (ticket.lines.filter p) = .ok amount)
    (hlines : ∀ line ∈ ticket.lines, ∃ value, line.amount = some value ∧ 0 ≤ value)
    (htotal : 0 ≤ ticket.amount) : 0 ≤ amount ∧ amount ≤ ticket.amount := by
  have hsum := SourceTicket.amount_of_priced hlines
  -- the kept lines are worth something between nothing and the gross of all
  have hkept : 0 ≤ SourceTicket.gross (ticket.lines.filter p) :=
    SourceTicket.gross_nonneg fun line hline => hlines line (List.mem_of_mem_filter hline)
  have hle := SourceTicket.gross_filter_le p hlines
  unfold keptAmount at h
  by_cases hall : ticket.lines.filter p ≠ [] ∧
      (ticket.lines.filter p).length = ticket.lines.length
  · -- every line is kept: the amount of the ticket
    rw [if_pos hall] at h
    cases h
    exact ⟨htotal, le_refl _⟩
  · rw [if_neg hall] at h
    by_cases hsome : ticket.lines.filter p ≠ []
    · -- some lines are kept: their gross with a share of the adjustments
      rw [if_pos hsome] at h
      obtain ⟨hallocated, h⟩ := require_bind_eq_ok.1 h
      obtain rfl := pure_eq_ok.1 h
      rw [hsum] at htotal ⊢
      by_cases hgross : SourceTicket.gross ticket.lines = 0
      · -- only free lines, and then no adjustment either
        have hadjustment : ticket.adjustments.sum = 0 := by
          by_contra hne
          exact hallocated ⟨le_of_eq hgross, hne⟩
        rw [if_neg (not_not.2 hgross), hadjustment]
        constructor
        · linarith
        · linarith
      · have hpos : 0 < SourceTicket.gross ticket.lines :=
          lt_of_le_of_ne (le_trans hkept hle) (Ne.symm hgross)
        rw [if_pos hgross]
        constructor
        · have hshare := neg_kept_le_share hkept hpos htotal
          linarith
        · have hshare := share_le hle hpos htotal
          linarith
    · rw [if_neg hsome] at h
      cases h
      exact ⟨le_refl _, htotal⟩

theorem kept_amount_bounds {amount : Int}
    (h : keptAmount ticket (keptLines T policy ticket) = .ok amount)
    (hlines : ∀ line ∈ ticket.lines, ∃ value, line.amount = some value ∧ 0 ≤ value)
    (htotal : 0 ≤ ticket.amount) : 0 ≤ amount ∧ amount ≤ ticket.amount := by
  unfold keptLines at h
  by_cases hhold : onHold T policy ticket = true
  · rw [if_pos hhold, keptAmount_nil] at h
    cases h
    exact ⟨le_refl _, htotal⟩
  · rw [if_neg hhold] at h
    exact keptAmount_bounds h hlines htotal

end Invoice

/-! ## The whole plan -/

/-- The lines of an invoice, with the invoice. -/
def linesOf (ticket : SourceTicket) (lines : List SourceLine) : List (SourceTicket × SourceLine) :=
  lines.map fun line => (ticket, line)

def soldTickets (T : ProductCase) (parsed : ParseResult) : List SourceTicket :=
  parsed.tickets.filter (SourceTicket.sold T)

section Plan

variable {T : ProductCase} {policy : Policy} {parsed : ParseResult} {entries : List Entry}

/-- The planned invoices are the sold ones, in their order. -/
theorem map_ticket_of_mapM {tickets : List SourceTicket}
    (h : tickets.mapM (planTicket T policy) = .ok entries) : entries.map Entry.ticket = tickets := by
  have hall := mapM_eq_ok.1 h
  clear h
  induction hall with
  | nil => rfl
  | cons hentry _ ih =>
      rw [List.map_cons, ih, (planTicket_eq_ok hentry).2.2.1]

theorem entry_planned {tickets : List SourceTicket}
    (h : tickets.mapM (planTicket T policy) = .ok entries) {entry : Entry} (hentry : entry ∈ entries) :
    planTicket T policy entry.ticket = .ok entry := by
  obtain ⟨ticket, _, hticket⟩ := mapM_mem h hentry
  rw [(planTicket_eq_ok hticket).2.2.1]
  exact hticket

theorem retained_lines (entries : List Entry) :
    (retainedOf entries).flatMap (fun ticket => linesOf ticket.source ticket.lines) =
      entries.flatMap fun entry => linesOf entry.ticket entry.keep := by
  induction entries with
  | nil => rfl
  | cons entry entries ih =>
      unfold retainedOf at ih ⊢
      rw [List.flatMap_cons, ← ih, List.filter_cons]
      cases hkeep : entry.keep with
      | nil => simp [linesOf]
      | cons line rest => simp [hkeep]

theorem retained_amount (h : ∀ entry ∈ entries, entry.keep = [] → entry.amount = 0) :
    ((retainedOf entries).map RefreshedTicket.amount).sum = total Entry.amount entries := by
  induction entries with
  | nil => rfl
  | cons entry entries ih =>
      have ih := ih fun other hother => h other (List.mem_cons_of_mem _ hother)
      have hentry := h entry List.mem_cons_self
      unfold retainedOf at ih ⊢
      rw [total, List.map_cons, List.sum_cons, List.filter_cons]
      rw [total] at ih
      cases hkeep : entry.keep with
      | nil =>
          rw [hentry hkeep, ← ih]
          simp
      | cons line rest =>
          rw [← ih]
          simp

theorem mem_retainedOf {ticket : RefreshedTicket} (h : ticket ∈ retainedOf entries) :
    ∃ entry ∈ entries, entry.ticket = ticket.source ∧ entry.amount = ticket.amount ∧
      entry.keep = ticket.lines ∧ ticket.lines ≠ [] := by
  obtain ⟨entry, hmem, rfl⟩ := List.mem_map.1 h
  obtain ⟨hentry, hkeep⟩ := List.mem_filter.1 hmem
  refine ⟨entry, hentry, rfl, rfl, rfl, ?_⟩
  intro hnil
  have hempty : entry.keep = [] := hnil
  rw [hempty] at hkeep
  cases hkeep

/-- A column of the sheet totals, summed over the sheets. -/
theorem sum_months (column : Revenue →+ Int) (entries : List Entry) :
    ((months entries).map fun month => column month.2).sum =
      total (fun entry => column entry.revenue) entries := by
  have htally : total Prod.snd (months entries) = total Entry.revenue entries := total_tally entries
  have htotal := congrArg column htally
  rw [total, total, map_list_sum, map_list_sum, List.map_map, List.map_map] at htotal
  exact htotal

theorem mem_monthly {entries : List Entry} {month : String × Revenue} :
    month ∈ (auditOf entries).monthly ↔ month ∈ months entries :=
  List.mem_insertionSort _

/-- A sheet's column is that of its invoices. -/
theorem month_column (column : Revenue →+ Int) {month : String × Revenue}
    (h : month ∈ months entries) : column month.2 =
      total (fun entry => column entry.revenue)
        (entries.filter fun entry => decide (entry.ticket.sourceSheet = month.1)) := by
  have hsum : month.2 = total Entry.revenue
      (entries.filter fun entry => decide (entry.ticket.sourceSheet = month.1)) := mem_tally h
  rw [hsum, total, map_list_sum, List.map_map]
  rfl

/-- The amounts of a sheet are divided between dairy and the rest. -/
theorem month_balanced {month : String × Revenue} (h : month ∈ months entries) :
    month.2.source = month.2.dairy + month.2.excluded := by
  have hsource := month_column Revenue.sourceColumn h
  have hdairy := month_column Revenue.dairyColumn h
  have hexcluded := month_column Revenue.excludedColumn h
  refine hsource.trans ?_
  refine Eq.trans ?_ (congrArg₂ (· + ·) hdairy hexcluded).symm
  rw [← total_add]
  refine total_congr ?_
  intro entry _
  exact (add_sub_cancel entry.amount entry.ticket.amount).symm

theorem lines_accounted
    (hplanned : ∀ entry ∈ entries, planTicket T policy entry.ticket = .ok entry) :
    ((retainedOf entries).flatMap (fun ticket => linesOf ticket.source ticket.lines) ++
      (entries.flatMap (fun entry =>
          linesOf entry.ticket (entry.ticket.lines.filter (isExcluded T policy))) ++
        entries.flatMap fun entry => linesOf entry.ticket (heldLines T policy entry.ticket))).Perm
      (entries.flatMap fun entry => linesOf entry.ticket entry.ticket.lines) := by
  rw [retained_lines]
  refine (List.Perm.append_left _ (List.flatMap_append_perm _ _ _)).trans ?_
  refine (List.flatMap_append_perm _ _ _).trans ?_
  refine List.Perm.flatMap_left _ ?_
  intro entry hentry
  obtain ⟨hrules, _, _, hkeep, _, _⟩ := planTicket_eq_ok (hplanned entry hentry)
  rw [hkeep]
  unfold linesOf
  rw [← List.map_append, ← List.map_append]
  exact (lines_divided hrules).map _

end Plan

/-- Every line of the sold invoices is retained, excluded or held, exactly once, and no other line is;
each sheet's amounts are those of its sold invoices, divided between dairy and the rest; the dairy totals
agree; and a kept amount lies between nothing and the whole invoice. -/
theorem build_plan_accounts {T : ProductCase} {policy : Policy} {parsed : ParseResult}
    {retained : List RefreshedTicket} {audit : Audit}
    (h : buildPlan T policy parsed = .ok (retained, audit)) :
    (∃ excluded held : List (SourceTicket × SourceLine),
      (retained.flatMap (fun ticket => linesOf ticket.source ticket.lines) ++ (excluded ++ held)).Perm
        ((soldTickets T parsed).flatMap fun ticket => linesOf ticket ticket.lines) ∧
      audit.excludedLines = excluded.map (fun line => excludedLine T policy line.1 line.2) ∧
      audit.heldDairyLines = held.map fun line => heldLine line.1 line.2) ∧
    (audit.monthly.map Prod.fst).Nodup ∧
    (∀ ticket ∈ soldTickets T parsed, ticket.sourceSheet ∈ audit.monthly.map Prod.fst) ∧
    (∀ month ∈ audit.monthly, month.2.source = month.2.dairy + month.2.excluded ∧
      month.2.source = (((soldTickets T parsed).filter fun ticket =>
        decide (ticket.sourceSheet = month.1)).map SourceTicket.amount).sum) ∧
    (audit.monthly.map fun month => month.2.dairy).sum =
      (retained.map RefreshedTicket.amount).sum ∧
    audit.dairyRevenue = (retained.map RefreshedTicket.amount).sum ∧
    ∀ ticket ∈ retained,
      (∀ line ∈ ticket.source.lines, ∃ value, line.amount = some value ∧ 0 ≤ value) →
        0 ≤ ticket.source.amount → 0 ≤ ticket.amount ∧ ticket.amount ≤ ticket.source.amount := by
  unfold buildPlan at h
  obtain ⟨_, h⟩ := require_bind_eq_ok.1 h
  obtain ⟨entries, hentries, h⟩ := bind_eq_ok.1 h
  obtain ⟨rfl, rfl⟩ := pure_pair_eq_ok.1 h
  -- every entry of the plan is what `planTicket` made of its ticket
  have hplanned : ∀ entry ∈ entries, planTicket T policy entry.ticket = .ok entry :=
    fun entry hentry => entry_planned hentries hentry
  have hsold : soldTickets T parsed = entries.map Entry.ticket := (map_ticket_of_mapM hentries).symm
  -- the months are sorted after the tally, which keeps their rows
  have hsorted : (auditOf entries).monthly.Perm (months entries) := List.perm_insertionSort _ _
  rw [hsold]
  refine ⟨⟨entries.flatMap fun entry =>
        linesOf entry.ticket (entry.ticket.lines.filter (isExcluded T policy)),
      entries.flatMap fun entry => linesOf entry.ticket (heldLines T policy entry.ticket),
      ?_, ?_, ?_⟩, ?_, ?_, ?_, ?_, rfl, ?_⟩
  · -- line by line: kept, excluded or held
    rw [List.flatMap_map]
    exact lines_accounted hplanned
  · rw [List.map_flatMap]
    refine List.flatMap_congr ?_
    intro entry hentry
    obtain ⟨_, _, _, _, hexcluded, _⟩ := planTicket_eq_ok (hplanned entry hentry)
    rw [hexcluded, linesOf, List.map_map]
    rfl
  · rw [List.map_flatMap]
    refine List.flatMap_congr ?_
    intro entry hentry
    obtain ⟨_, _, _, _, _, hheld⟩ := planTicket_eq_ok (hplanned entry hentry)
    rw [hheld, linesOf, List.map_map]
    rfl
  · -- a month for each sheet, and one only
    exact (hsorted.map Prod.fst).nodup_iff.2 (nodup_keys_tally entries)
  · intro ticket hticket
    obtain ⟨entry, hentry, rfl⟩ := List.mem_map.1 hticket
    exact (hsorted.map Prod.fst).mem_iff.2 ((mem_keys_tally entries _).2 ⟨entry, hentry, rfl⟩)
  · intro month hmonth
    have hmonth := mem_monthly.1 hmonth
    refine ⟨month_balanced hmonth, ?_⟩
    refine (month_column Revenue.sourceColumn hmonth).trans ?_
    rw [List.filter_map, List.map_map]
    rfl
  · -- a ticket of which nothing is kept keeps no amount
    have hamounts : ∀ entry ∈ entries, entry.keep = [] → entry.amount = 0 := by
      intro entry hentry hkeep
      obtain ⟨_, hamount, _, hkept, _, _⟩ := planTicket_eq_ok (hplanned entry hentry)
      rw [← hkept, hkeep, keptAmount_nil] at hamount
      exact (Except.ok.inj hamount).symm
    calc ((auditOf entries).monthly.map fun month => month.2.dairy).sum
        = ((months entries).map fun month => Revenue.dairyColumn month.2).sum :=
          (hsorted.map _).sum_eq
      _ = total Entry.amount entries := sum_months Revenue.dairyColumn entries
      _ = ((retainedOf entries).map RefreshedTicket.amount).sum := (retained_amount hamounts).symm
  · -- the bounds of one ticket
    intro ticket hticket hlines htotal
    obtain ⟨entry, hentry, hsource, hamount, _, _⟩ := mem_retainedOf hticket
    rw [← hsource] at hlines htotal ⊢
    rw [← hamount]
    exact kept_amount_bounds (planTicket_eq_ok (hplanned entry hentry)).2.1 hlines htotal

/-! ## A mixed invoice -/

def samplePolicy : Policy :=
  { products := fun key =>
      if key = "rawmilk1l".toList then some { decision := "dairy", reason := "Milk." }
      else if key = "icecandy".toList then some { decision := "non_dairy", reason := "Ice." }
      else none }

/-- Raw milk and ice candy, with a discount of ten pesos. -/
def mixedInvoice : SourceTicket :=
  { workbook := "2023"
    sheet := "JAN"
    row := 4
    saleDate := some 738521
    customerLabel := "Outlet Sales".toList
    invoiceNumber := []
    lines :=
      [{ row := 4, product := "raw milk".toList, quantity := 100, unitPrice := some 10000,
         amount := some 10000 },
       { row := 5, product := "ICE CANDY".toList, quantity := 500, unitPrice := some 1000,
         amount := some 5000 }]
    notes := []
    adjustments := [-1000]
    reportedTotal := none
    duplicateOf := none
    qualityFlags := [] }

def sampleParse : ParseResult :=
  { tickets := [mixedInvoice]
    monthlyChecks := List.replicate 36
      { source := "2023:JAN", reported := 14000, parsed := 14000, difference := 0 } }

/-- The milk bears two thirds of the discount. -/
def mixedEntry : Entry :=
  { ticket := mixedInvoice
    keep := [{ row := 4, product := "raw milk".toList, quantity := 100, unitPrice := some 10000,
               amount := some 10000 }]
    excluded := [{ source := "2023:JAN:4", row := 5, product := "ICE CANDY".toList, quantity := 500,
                   amount := some 5000, decision := "non_dairy", reason := "Ice." }]
    review := []
    held := []
    amount := 9333
    segment := "regular"
    flags := [] }

theorem mixed_plan : buildPlan ProductCase.ascii samplePolicy sampleParse =
    .ok (retainedOf [mixedEntry], auditOf [mixedEntry]) := by
  decide +kernel

theorem build_plan_accounts_mixed :
    (∃ excluded held : List (SourceTicket × SourceLine),
      ((retainedOf [mixedEntry]).flatMap (fun ticket => linesOf ticket.source ticket.lines) ++
        (excluded ++ held)).Perm
          ((soldTickets ProductCase.ascii sampleParse).flatMap fun ticket =>
            linesOf ticket ticket.lines) ∧
      (auditOf [mixedEntry]).excludedLines =
        excluded.map (fun line => excludedLine ProductCase.ascii samplePolicy line.1 line.2) ∧
      (auditOf [mixedEntry]).heldDairyLines = held.map fun line => heldLine line.1 line.2) ∧
    (auditOf [mixedEntry]).dairyRevenue = 9333 := by
  have haccounts := build_plan_accounts mixed_plan
  exact ⟨haccounts.1, haccounts.2.2.2.2.2.1.trans (by decide)⟩

end Importers
end RosarioDairy
