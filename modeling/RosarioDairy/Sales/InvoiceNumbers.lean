import RosarioDairy.PaddedNumbers
import RosarioDairy.Sales.Checkout

/-!
# InvoiceNumbers — what an allocation guarantees

The facts `assign_invoice` establishes about a number, in terms of the counter row of its year and
of the numbers recorded for the year.  Nothing else in the store bears on them.
-/

namespace RosarioDairy

open Foundations

/-! ## Normalized numbers -/

theorem isPlainCapital_of_mem_siText {n : Nat} {c : Char} (hc : c ∈ (siText n).toList) :
    isPlainCapital c = true := by
  unfold siText zeroPad at hc
  rw [String.toList_append, String.toList_append] at hc
  rcases List.mem_append.1 hc with hletter | hc
  · have hletters : c = 'S' ∨ c = 'I' := by simpa using hletter
    rcases hletters with rfl | rfl
    · decide
    · decide
  · rcases List.mem_append.1 hc with hzero | hdigit
    · rw [String.toList_ofList] at hzero
      have hEq : c = '0' := List.eq_of_mem_replicate hzero
      subst hEq
      decide
    · simp [isPlainCapital, isDigit_of_mem_toString hdigit]

theorem isSpace_eq_false_of_isPlainCapital {c : Char} (h : isPlainCapital c = true) :
    isSpace c = false := by
  have hrange := isPlainCapital_range h
  simp [isSpace]
  omega

theorem dropWhile_eq_self {α : Type} {p : α → Bool} {xs : List α} (h : ∀ x ∈ xs, p x = false) :
    xs.dropWhile p = xs := by
  cases xs with
  | nil => rfl
  | cons x xs => simp [h x (by simp)]

/-- Text without white space is stripped to itself. -/
theorem strip_eq_self {text : String} (h : ∀ c ∈ text.toList, isSpace c = false) :
    strip text = text := by
  unfold strip
  rw [dropWhile_eq_self h, dropWhile_eq_self, List.reverse_reverse, String.ofList_toList]
  intro c hc
  exact h c (List.mem_reverse.1 hc)

/-- An automatic number is its own normal form. -/
@[simp] theorem normalizedSi_siText (table : CaseTable) (n : Nat) :
    normalizedSi table (siText n) = siText n := by
  unfold normalizedSi
  have hplain : ∀ c ∈ (siText n).toList, isPlainCapital c = true :=
    fun _ hc => isPlainCapital_of_mem_siText hc
  rw [strip_eq_self (fun c hc => isSpace_eq_false_of_isPlainCapital (hplain c hc))]
  exact table.upper_plain _ (List.all_eq_true.2 hplain)

/-! ## The numbers of a year -/

/-- A recorded number with its provenance. -/
structure InvoiceEntry where
  number : Option String
  source : InvoiceNumberSource
  deriving DecidableEq, Repr

def Transaction.invoice (txn : Transaction) : InvoiceEntry :=
  { number := txn.sourceInvoiceNumber
    source := txn.invoiceNumberSource }

/-- The entry carries this number, after trimming and upper-casing. -/
def InvoiceEntry.Carries (table : CaseTable) (entry : InvoiceEntry) (number : String) : Prop :=
  ∃ n, entry.number = some n ∧ normalizedSi table n = number

/-- The numbers recorded for a year, in the order they were recorded. -/
def Store.invoices (zone : Zone) (year : Nat) (s : Store) : List InvoiceEntry :=
  (recordedIn zone year s).map Transaction.invoice

/-- The counter row stored for a year. -/
def Store.counter (year : Nat) (s : Store) : Option InvoiceSequence :=
  s.invoiceSequences.find? (fun row => row.year = year)

theorem hasNumber_iff {table : CaseTable} {recorded : List Transaction} {number : String} :
    hasNumber table recorded number = true ↔
      ∃ entry ∈ recorded.map Transaction.invoice, entry.Carries table number := by
  simp [hasNumber, InvoiceEntry.Carries, Transaction.invoice, Option.any_eq_true]

theorem hasNumber_eq_false {table : CaseTable} {recorded : List Transaction} {number : String}
    (h : ¬ hasNumber table recorded number = true) :
    ∀ entry ∈ recorded.map Transaction.invoice, ¬ entry.Carries table number := by
  intro entry hentry hcarries
  exact h (hasNumber_iff.2 ⟨entry, hentry, hcarries⟩)

/-- The search stops above the counter, at a number that is not recorded, having skipped only
recorded ones. -/
theorem searchNumber_eq_some {isRecorded : String → Bool} :
    ∀ {fuel last n : Nat}, searchNumber isRecorded fuel last = some n →
      last < n ∧ n ≤ last + fuel ∧ isRecorded (siText n) = false ∧
        ∀ m, last < m → m < n → isRecorded (siText m) = true
  | 0, _, _, h => by cases h
  | fuel + 1, last, n, h => by
      unfold searchNumber at h
      split at h
      · rename_i hrecorded
        rcases searchNumber_eq_some h with ⟨hlt, hle, hfree, hskipped⟩
        refine ⟨by omega, by omega, hfree, ?_⟩
        intro m hm hmn
        by_cases hnext : m = last + 1
        · exact hnext ▸ hrecorded
        · exact hskipped m (by omega) hmn
      · rename_i hfree
        cases h
        exact ⟨by omega, by omega, by simpa using hfree, fun m _ _ => by omega⟩

/-! ## Allocations -/

/-- What an allocation for a year is worth against a counter row and the recorded numbers. -/
structure Allocates (table : CaseTable) (year : Nat) (counter : Option InvoiceSequence)
    (recorded : List InvoiceEntry) (a : Allocation) : Prop where
  year_eq : a.sequence.year = year
  advances : ∀ row, counter = some row → row.lastValue ≤ a.sequence.lastValue
  automatic : a.source = .automatic → a.number = siText a.sequence.lastValue ∧
    (∀ row, counter = some row → row.lastValue < a.sequence.lastValue) ∧
    ∀ entry ∈ recorded, ¬ entry.Carries table (normalizedSi table a.number)
  paper : a.source ≠ .automatic → a.source = .manual ∧
    ∀ entry ∈ recorded, entry.source ≠ .automatic →
      ¬ entry.Carries table (normalizedSi table a.number)

theorem sequenceOf_counter {zone : Zone} {year : Nat} {s : Store} {row : InvoiceSequence}
    (h : s.counter year = some row) : sequenceOf zone year s = row := by
  unfold Store.counter at h
  simp [sequenceOf, h]

theorem sequenceOf_year (zone : Zone) (year : Nat) (s : Store) :
    (sequenceOf zone year s).year = year := by
  unfold sequenceOf
  cases hfind : s.invoiceSequences.find? (fun row => row.year = year) with
  | none => rfl
  | some row => simpa using List.find?_some hfind

/-- What `assign_invoice` decides it decides from the counter and the numbers of its year. -/
theorem assignInvoice_allocates {table : CaseTable} {zone : Zone} {year : Nat}
    {paperNumber : Option String} {s : Store} {a : Allocation}
    (h : assignInvoice table zone year paperNumber s = .ok a) :
    Allocates table year (s.counter year) (s.invoices zone year) a := by
  unfold assignInvoice at h
  cases hpaper : paperReference paperNumber with
  | some number =>
      -- a number from paper must differ from the recorded ones that are not automatic
      simp only [hpaper] at h
      split at h
      · cases h
      · rename_i hfree
        cases h
        refine
          { year_eq := sequenceOf_year zone year s
            advances := fun row hrow => by rw [sequenceOf_counter hrow]
            automatic := fun hsource => by cases hsource
            paper := fun _ => ⟨rfl, ?_⟩ }
        intro entry hentry hsource
        rcases List.mem_map.1 hentry with ⟨txn, htxn, rfl⟩
        have hother : decide (txn.invoiceNumberSource ≠ .automatic) = true :=
          decide_eq_true hsource
        exact hasNumber_eq_false hfree _
          (List.mem_map.2 ⟨txn, List.mem_filter.2 ⟨htxn, hother⟩, rfl⟩)
  | none =>
      simp only [hpaper] at h
      split at h
      · rename_i n hsearch
        cases h
        -- the search ends at the first free number after the counter
        rcases searchNumber_eq_some hsearch with ⟨hlt, _, hfree, _⟩
        refine
          { year_eq := sequenceOf_year zone year s
            advances := fun row hrow => ?_
            automatic := fun _ => ⟨rfl, fun row hrow => ?_, ?_⟩
            paper := fun hsource => absurd rfl hsource }
        · rw [sequenceOf_counter hrow] at hlt
          exact Nat.le_of_lt hlt
        · rw [sequenceOf_counter hrow] at hlt
          exact hlt
        · intro entry hentry
          rw [normalizedSi_siText]
          exact hasNumber_eq_false (by simpa using hfree) entry hentry
      · cases h

/-- Nothing but the transactions and the counters bears on an allocation. -/
theorem assignInvoice_congr {s t : Store} (htransactions : t.transactions = s.transactions)
    (hsequences : t.invoiceSequences = s.invoiceSequences) (table : CaseTable) (zone : Zone)
    (year : Nat) (paperNumber : Option String) :
    assignInvoice table zone year paperNumber t = assignInvoice table zone year paperNumber s := by
  have hrecorded : recordedIn zone year t = recordedIn zone year s := by
    unfold recordedIn
    rw [htransactions]
  have hsequence : sequenceOf zone year t = sequenceOf zone year s := by
    unfold sequenceOf initialValue
    rw [hrecorded, hsequences]
  unfold assignInvoice
  rw [hrecorded, hsequence]

/-! ## Stores with the same numbers -/

/-- A transaction as far as its number goes: its sales date and the recorded entry. -/
def Transaction.numbering (txn : Transaction) : Int × InvoiceEntry := (txn.createdAt, txn.invoice)

/-- The two stores have the same counters and the same recorded numbers. -/
structure SameInvoices (s s' : Store) : Prop where
  sequences : s'.invoiceSequences = s.invoiceSequences
  entries : s'.transactions.rows.map Transaction.numbering =
    s.transactions.rows.map Transaction.numbering

namespace SameInvoices

theorem refl (s : Store) : SameInvoices s s :=
  { sequences := rfl
    entries := rfl }

theorem trans {s₁ s₂ s₃ : Store} (h : SameInvoices s₁ s₂) (h' : SameInvoices s₂ s₃) :
    SameInvoices s₁ s₃ :=
  { sequences := h'.sequences.trans h.sequences
    entries := h'.entries.trans h.entries }

theorem counter {s s' : Store} (h : SameInvoices s s') (year : Nat) :
    s'.counter year = s.counter year := by
  unfold Store.counter
  rw [h.sequences]

end SameInvoices

theorem invoices_eq (zone : Zone) (year : Nat) (s : Store) :
    s.invoices zone year = ((s.transactions.rows.map Transaction.numbering).filter
      (fun entry => zone.yearOf entry.1 = year)).map Prod.snd := by
  rw [List.filter_map, List.map_map]
  rfl

theorem SameInvoices.invoices {s s' : Store} (h : SameInvoices s s') (zone : Zone) (year : Nat) :
    s'.invoices zone year = s.invoices zone year := by
  rw [invoices_eq, invoices_eq, h.entries]

/-! ## Recording a number -/

theorem counter_saveSequence (row : InvoiceSequence) (year : Nat) (s : Store) :
    (saveSequence row s).counter year = if row.year = year then some row else s.counter year := by
  unfold saveSequence Store.counter
  cases hany : s.invoiceSequences.any (fun r => r.year = row.year) with
  | false =>
      have hnone : ∀ r ∈ s.invoiceSequences, ¬ r.year = row.year := by simpa using hany
      rw [if_neg (by simp), List.find?_append]
      by_cases hyear : row.year = year
      · have hfind : s.invoiceSequences.find? (fun r => r.year = year) = none := by
          refine List.find?_eq_none.2 ?_
          intro r hr
          simpa [← hyear] using hnone r hr
        rw [if_pos hyear, hfind]
        simp [hyear]
      · simp [hyear]
  | true =>
      -- the saved row takes the place of the rows of its year, so every row keeps its year
      have hkeeps : ∀ r : InvoiceSequence, (if r.year = row.year then row else r).year = r.year := by
        intro r
        split
        · rename_i h
          exact h.symm
        · rfl
      have hsame : (fun r : InvoiceSequence => decide (r.year = year)) ∘
          (fun r => if r.year = row.year then row else r) = fun r => decide (r.year = year) := by
        funext r
        simp only [Function.comp_apply, hkeeps r]
      rw [if_pos rfl, List.find?_map, hsame]
      cases hfind : s.invoiceSequences.find? (fun r => r.year = year) with
      | none =>
          rcases List.any_eq_true.1 hany with ⟨old, hold, hyear⟩
          have hne : ¬ row.year = year := by
            intro hEq
            have hof : old.year = row.year := by simpa using hyear
            exact List.find?_eq_none.1 hfind old hold (decide_eq_true (hof.trans hEq))
          simp [hne]
      | some r =>
          have hr : r.year = year := by simpa using List.find?_some hfind
          by_cases hyear : row.year = year
          · simp [hr, hyear]
          · have hne : ¬ year = row.year := fun hEq => hyear hEq.symm
            simp [hr, hyear, hne]

/-- The entry a priced sale records. -/
def Allocation.entry (a : Allocation) : InvoiceEntry :=
  { number := some a.number
    source := a.source }

/-- The local year of a sale is the year its number was allocated for. -/
theorem yearOf_effectiveAt (clock : Clock) (args : SaleArgs) :
    clock.zone.yearOf (effectiveAt clock args) = Day.year (businessDate clock args) := by
  unfold effectiveAt Zone.yearOf
  split
  · rename_i htoday
    rw [htoday]
    rfl
  · rw [Zone.localDate_noon]

section CloseSale

variable {table : CaseTable} {clock : Clock} {args : SaleArgs} {priced : PricedSale}
  {a : Allocation} {s s' : Store} {txn : Nat}

/-- A closed sale saves the counter row of its allocation. -/
theorem closeSale_counter (h : closeSale table clock args priced a s = .ok (s', txn))
    (year : Nat) :
    s'.counter year = if a.sequence.year = year then some a.sequence else s.counter year := by
  rcases closeSale_store h with ⟨batches, items, rfl⟩
  exact counter_saveSequence a.sequence year s

/-- A closed sale records its number in the year of its business date. -/
theorem closeSale_invoices (h : closeSale table clock args priced a s = .ok (s', txn))
    (year : Nat) :
    s'.invoices clock.zone year = s.invoices clock.zone year ++
      if Day.year (businessDate clock args) = year then [a.entry] else [] := by
  rcases closeSale_store h with ⟨batches, items, rfl⟩
  have hyear : clock.zone.yearOf
      (newTransaction clock args priced a s.transactions.next).createdAt =
        Day.year (businessDate clock args) := yearOf_effectiveAt clock args
  simp only [Store.invoices, recordedIn, Table.rows_create, List.filter_append, List.map_append]
  congr 1
  by_cases h : Day.year (businessDate clock args) = year
  · rw [if_pos h, List.filter_cons_of_pos (by simpa [hyear] using h)]
    rfl
  · rw [if_neg h, List.filter_cons_of_neg (by simpa [hyear] using h)]
    rfl

end CloseSale

end RosarioDairy
