import RosarioDairy.Sales.Importers.RefreshAccounts

/-!
# ImportedAmounts — the amounts of an invoice on import and on refresh

Both writers round the recorded price total to cents, the import half up and the refresh half even, and
take the greater of it and the invoice amount as the subtotal.
-/

namespace RosarioDairy
namespace Importers

open Forecasting Foundations

/-! ## The two writers -/

structure SaleAmounts where
  subtotal : Int
  discountType : String
  discountValue : ℚ
  discountAmount : ℚ
  totalAmount : Int
  deriving DecidableEq, Repr

/-- The price total of the lines with a price, in pesos. -/
def recordedPrices (lines : List SourceLine) : ℚ :=
  (lines.filterMap fun line =>
    line.unitPrice.map fun unitPrice =>
      decimalContext ((line.quantity : ℚ) / 100 * ((unitPrice : ℚ) / 100))).foldl
    (fun (sum : ℚ) (price : ℚ) => decimalContext (sum + price)) 0

/-- The subtotal is the greater of the price total and the invoice amount. -/
def saleAmounts (recorded amount : Int) : SaleAmounts :=
  let subtotal := max recorded amount
  let discount := decimalContext (((subtotal - amount : Int) : ℚ) / 100)
  { subtotal := subtotal
    discountType := if discount ≠ 0 then "fixed" else "none"
    discountValue := discount
    discountAmount := discount
    totalAmount := amount }

/-- The amounts in `load`. -/
def loadAmounts (ticket : SourceTicket) : Except String SaleAmounts := do
  let recorded ← quantizeCents roundHalfUp (recordedPrices ticket.lines)
  pure (saleAmounts recorded ticket.amount)

/-- The amounts in `apply_plan`, which leaves the rounding to the decimal context. -/
def applyAmounts (entry : RefreshedTicket) : Except String SaleAmounts := do
  let recorded ← quantizeCents roundHalfEven (recordedPrices entry.lines)
  pure (saleAmounts recorded entry.amount)

/-! ## When they agree -/

theorem saleAmounts_eq_iff {recorded recorded' amount : Int} :
    saleAmounts recorded amount = saleAmounts recorded' amount ↔
      max recorded amount = max recorded' amount := by
  constructor
  · intro h
    exact congrArg SaleAmounts.subtotal h
  · intro h
    unfold saleAmounts
    rw [h]

/-- A price total on which the writers round differently and to which the invoice amount does not rise. -/
def partsWays (centavos : ℚ) (amount : Int) : Prop :=
  evenTie centavos ∧ (amount : ℚ) ≤ centavos ∧ |centavos| < 10 ^ 28

theorem quantizeCents_ok {round : ℚ → Int} {value : ℚ} {n : Int} (h : round (value * 100) = n)
    (hlow : -(10 ^ 28) < n) (hhigh : n < 10 ^ 28) : quantizeCents round value = .ok n := by
  unfold quantizeCents
  rw [h]
  exact if_pos (abs_lt.2 ⟨hlow, hhigh⟩)

theorem quantizeCents_error {round : ℚ → Int} {value : ℚ} {n : Int} (h : round (value * 100) = n)
    (hwide : n ≤ -(10 ^ 28) ∨ 10 ^ 28 ≤ n) :
    quantizeCents round value = .error "decimal.InvalidOperation" := by
  unfold quantizeCents
  rw [h]
  refine if_neg ?_
  rw [abs_lt]
  omega

/-- The neighbours of a tie are in range exactly when the tie is. -/
theorem tie_range {value : ℚ} {n : Int} (h : value = n + 1 / 2) :
    |value| < 10 ^ 28 ↔ -(10 ^ 28) ≤ n ∧ n < 10 ^ 28 := by
  rw [h, abs_lt]
  constructor
  · rintro ⟨hlow, hhigh⟩
    have hlow' : (-(10 ^ 28) : ℚ) < n + 1 := by linarith
    have hhigh' : (n : ℚ) < 10 ^ 28 := by linarith
    exact ⟨Int.lt_add_one_iff.1 (by exact_mod_cast hlow'), by exact_mod_cast hhigh'⟩
  · rintro ⟨hlow, hhigh⟩
    have hlow' : (-(10 ^ 28) : ℚ) ≤ n := by exact_mod_cast hlow
    have hhigh' : (n : ℚ) + 1 ≤ 10 ^ 28 := by exact_mod_cast hhigh
    constructor
    · linarith
    · linarith

/-- At an even tie the modes give its two neighbours, or both of them an error. -/
theorem quantized_of_evenTie {value : ℚ} (h : evenTie (value * 100)) :
    (∃ n : Int, value * 100 = n + 1 / 2 ∧ |value * 100| < 10 ^ 28 ∧
      ((quantizeCents roundHalfUp value = .ok (n + 1) ∧ quantizeCents roundHalfEven value = .ok n) ∨
        (quantizeCents roundHalfUp value = .ok n ∧
          quantizeCents roundHalfEven value = .ok (n + 1)))) ∨
      (¬|value * 100| < 10 ^ 28 ∧
        quantizeCents roundHalfUp value = quantizeCents roundHalfEven value) := by
  obtain ⟨n, hvalue, hrounds⟩ := roundings_of_evenTie h
  have hrange := tie_range hvalue
  by_cases hsize : |value * 100| < 10 ^ 28
  · obtain ⟨hlow, hhigh⟩ := hrange.1 hsize
    refine Or.inl ⟨n, hvalue, hsize, ?_⟩
    -- the bound is even, so the odd neighbour does not reach it
    rcases hrounds with ⟨hup, heven, hpos, hparity⟩ | ⟨hup, heven, hneg, hparity⟩
    · exact Or.inl ⟨quantizeCents_ok hup (by omega) (by omega),
        quantizeCents_ok heven (by omega) (by omega)⟩
    · exact Or.inr ⟨quantizeCents_ok hup (by omega) (by omega),
        quantizeCents_ok heven (by omega) (by omega)⟩
  · have hwide : n < -(10 ^ 28) ∨ 10 ^ 28 ≤ n := by
      by_contra hin
      exact hsize (hrange.2 (by omega))
    refine Or.inr ⟨hsize, ?_⟩
    rcases hrounds with ⟨hup, heven, hpos, _⟩ | ⟨hup, heven, hneg, _⟩
    · rw [quantizeCents_error hup (by omega), quantizeCents_error heven (by omega)]
    · rw [quantizeCents_error hup (by omega), quantizeCents_error heven (by omega)]

/-- Two writers that round to different neighbours of a tie agree when the amount is above it. -/
theorem max_eq_of_tie {value : ℚ} {n amount : Int} (h : value = n + 1 / 2) :
    max (n + 1) amount = max n amount ↔ value < amount := by
  have habove : value < amount ↔ n + 1 ≤ amount := by
    rw [h]
    constructor
    · intro hlt
      have hlt' : (n : ℚ) < amount := by linarith
      have hint : n < amount := by exact_mod_cast hlt'
      exact hint
    · intro hle
      have hle' : (n : ℚ) + 1 ≤ amount := by exact_mod_cast hle
      linarith
  rw [habove]
  omega

theorem partsWays_iff {centavos : ℚ} {amount : Int} (htie : evenTie centavos)
    (hsize : |centavos| < 10 ^ 28) : ¬partsWays centavos amount ↔ centavos < amount := by
  unfold partsWays
  constructor
  · intro h
    refine not_le.1 ?_
    intro hle
    exact h ⟨htie, hle, hsize⟩
  · rintro h ⟨_, hle, _⟩
    exact absurd h (not_lt.2 hle)

/-- Import and refresh of an invoice that is kept whole. -/
theorem loadAmounts_eq_iff {ticket : SourceTicket} {entry : RefreshedTicket}
    (hlines : entry.lines = ticket.lines) (hamount : entry.amount = ticket.amount) :
    loadAmounts ticket = applyAmounts entry ↔
      ¬partsWays (recordedPrices ticket.lines * 100) ticket.amount := by
  unfold loadAmounts applyAmounts
  rw [hlines, hamount]
  generalize recordedPrices ticket.lines = value
  by_cases htie : evenTie (value * 100)
  · rcases quantized_of_evenTie htie with ⟨n, hvalue, hsize, hmodes⟩ | ⟨hsize, hmodes⟩
    · rw [partsWays_iff htie hsize, ← max_eq_of_tie hvalue, ← saleAmounts_eq_iff]
      rcases hmodes with ⟨hup, heven⟩ | ⟨hup, heven⟩
      · rw [hup, heven, ok_bind, ok_bind]
        exact pure_eq_ok
      · rw [hup, heven, ok_bind, ok_bind]
        exact pure_eq_ok.trans eq_comm
    · rw [hmodes]
      refine iff_of_true rfl ?_
      rintro ⟨_, _, hin⟩
      exact hsize hin
  · have hmodes : quantizeCents roundHalfUp value = quantizeCents roundHalfEven value := by
      unfold quantizeCents
      rw [roundings_agree htie]
    rw [hmodes]
    refine iff_of_true rfl ?_
    rintro ⟨hparts, _, _⟩
    exact htie hparts

/-- The amount of an invoice that is kept whole is its own. -/
theorem retained_whole {T : ProductCase} {policy : Policy} {parsed : ParseResult}
    {retained : List RefreshedTicket} {audit : Audit}
    (h : buildPlan T policy parsed = .ok (retained, audit)) {entry : RefreshedTicket}
    (hentry : entry ∈ retained) (hwhole : entry.lines = entry.source.lines) :
    entry.amount = entry.source.amount := by
  unfold buildPlan at h
  obtain ⟨_, h⟩ := require_bind_eq_ok.1 h
  obtain ⟨entries, hentries, h⟩ := bind_eq_ok.1 h
  obtain ⟨rfl, rfl⟩ := pure_pair_eq_ok.1 h
  obtain ⟨planned, hplanned, hsource, hamount, hkeep, hne⟩ := mem_retainedOf hentry
  obtain ⟨_, hkept, _, hlines, _, _⟩ := planTicket_eq_ok (entry_planned hentries hplanned)
  rw [← hlines, hkeep, hamount, hsource] at hkept
  unfold keptAmount at hkept
  rw [if_pos ⟨hne, congrArg List.length hwhole⟩] at hkept
  exact (Except.ok.inj hkept).symm

/-- A refresh computes the amounts of the import unless the price total lies on an even tie that the
invoice amount does not exceed. -/
theorem refresh_agrees_iff {T : ProductCase} {policy : Policy} {parsed : ParseResult}
    {retained : List RefreshedTicket} {audit : Audit}
    (h : buildPlan T policy parsed = .ok (retained, audit)) {entry : RefreshedTicket}
    (hentry : entry ∈ retained) (hwhole : entry.lines = entry.source.lines) :
    loadAmounts entry.source = applyAmounts entry ↔
      ¬partsWays (recordedPrices entry.source.lines * 100) entry.source.amount :=
  loadAmounts_eq_iff hwhole (retained_whole h hentry hwhole)

/-! ## Half a centavo -/

/-- Half a litre at 25 centavos, of which the invoice gives ten centavos. -/
def halfCentInvoice : SourceTicket :=
  { mixedInvoice with
    lines := [{ row := 4, product := "raw milk".toList, quantity := 50, unitPrice := some 25,
                amount := some 10 }]
    adjustments := [] }

def halfCentParse : ParseResult :=
  { sampleParse with tickets := [halfCentInvoice] }

def halfCentEntry : Entry :=
  { mixedEntry with
    ticket := halfCentInvoice
    keep := halfCentInvoice.lines
    excluded := []
    amount := 10 }

def halfCentRefreshed : RefreshedTicket :=
  { source := halfCentInvoice
    lines := halfCentInvoice.lines
    amount := 10
    segment := "regular"
    flags := [] }

theorem half_cent_plan : buildPlan ProductCase.ascii samplePolicy halfCentParse =
    .ok (retainedOf [halfCentEntry], auditOf [halfCentEntry]) := by
  decide +kernel

theorem refresh_agrees_iff_half_cent :
    loadAmounts halfCentInvoice = applyAmounts halfCentRefreshed ↔
      ¬partsWays (recordedPrices halfCentInvoice.lines * 100) halfCentInvoice.amount :=
  @refresh_agrees_iff _ _ _ _ _ half_cent_plan halfCentRefreshed (by decide) rfl

/-- The import has a subtotal of 13 centavos where the refresh has one of 12. -/
theorem refresh_half_cent :
    ∃ (retained : List RefreshedTicket) (audit : Audit) (entry : RefreshedTicket),
      buildPlan ProductCase.ascii samplePolicy halfCentParse = .ok (retained, audit) ∧
        entry ∈ retained ∧ entry.lines = entry.source.lines ∧
          (loadAmounts entry.source).map SaleAmounts.subtotal = .ok 13 ∧
          (applyAmounts entry).map SaleAmounts.subtotal = .ok 12 ∧
          loadAmounts entry.source ≠ applyAmounts entry :=
  ⟨_, _, halfCentRefreshed, half_cent_plan, by decide, rfl, by decide +kernel, by decide +kernel,
    by decide +kernel⟩

end Importers
end RosarioDairy
