import Mathlib.Data.List.Perm.Subperm
import Mathlib.Order.Bounds.Basic
import RosarioDairy.PaddedNumbers
import RosarioDairy.Sales.Invoice

/-!
# InvoiceSearch — the search for an automatic number

The loop of `assign_invoice` advances its copy of the counter until the number is not recorded, and
saves the copy only then.  Different values have different numbers, so no more values can be passed
over than numbers are recorded.
-/

namespace RosarioDairy

open Foundations

/-! ## The loop -/

/-- What the search returns or raises, and the counter that is stored afterwards. -/
structure SearchEnd where
  answer : Except Error (String × InvoiceNumberSource)
  stored : Nat

/-- A number was found, and the counter saved with it. -/
def SearchEnd.found (n : Nat) : SearchEnd :=
  { answer := .ok (siText n, .automatic)
    stored := n }

/-- The counter has come to its limit; nothing was saved. -/
def SearchEnd.exhausted (year stored : Nat) : SearchEnd :=
  { answer := .error (.valueError ("The SI sequence for " ++ toString year ++ " is exhausted."))
    stored := stored }

/-- The `while` loop of `assign_invoice` against the normalized numbers of the year, with the counter in
memory and the counter that is stored; no end is reached when the passes run out before. -/
def searchLoop (recorded : List String) (year : Nat) :
    (passes lastValue stored : Nat) → Option SearchEnd
  | 0, _, _ => none
  | passes + 1, lastValue, stored =>
      if lastValue < maxCounter then
        if siText (lastValue + 1) ∈ recorded then
          searchLoop recorded year passes (lastValue + 1) stored
        else some (SearchEnd.found (lastValue + 1))
      else some (SearchEnd.exhausted year stored)

example : searchLoop ["SI9999", "SI10000"] 2025 3 9998 9998 = some (SearchEnd.found 10001) := rfl

/-! ## Numbers as texts -/

theorem siText_injective : Function.Injective siText := by
  intro m n h
  have hlists := congrArg String.toList h
  unfold siText at hlists
  rw [String.toList_append, String.toList_append] at hlists
  exact zeroPad_inj (String.toList_inj.1 (List.append_cancel_left hlists))

/-- No more values in a row are recorded than there are recorded numbers. -/
theorem le_length_of_recorded {recorded : List String} {counter passed : Nat}
    (h : ∀ n, counter < n → n ≤ counter + passed → siText n ∈ recorded) :
    passed ≤ recorded.length := by
  have hnodup : ((List.range' (counter + 1) passed).map siText).Nodup :=
    List.Nodup.map siText_injective List.nodup_range'
  have hsubset : (List.range' (counter + 1) passed).map siText ⊆ recorded := by
    intro text htext
    obtain ⟨n, hn, rfl⟩ := List.mem_map.1 htext
    obtain ⟨hlow, hhigh⟩ := List.mem_range'_1.1 hn
    exact h n hlow (by omega)
  calc
    passed = ((List.range' (counter + 1) passed).map siText).length := by simp
    _ ≤ recorded.length := (List.subperm_of_subset hnodup hsubset).length_le

/-! ## What the loop does -/

section Loop

variable {recorded : List String} {year passes lastValue stored : Nat}

/-- Passes that run out have met recorded numbers only. -/
theorem recorded_of_searchLoop_eq_none
    (h : searchLoop recorded year passes lastValue stored = none) :
    ∀ n, lastValue < n → n ≤ lastValue + passes → siText n ∈ recorded := by
  induction passes generalizing lastValue with
  | zero =>
      intro n hlow hhigh
      exact absurd (Nat.lt_of_lt_of_le hlow hhigh) (Nat.lt_irrefl _)
  | succ passes ih =>
      intro n hlow hhigh
      rw [searchLoop] at h
      by_cases hlimit : lastValue < maxCounter
      · by_cases hnext : siText (lastValue + 1) ∈ recorded
        · rw [if_pos hlimit, if_pos hnext] at h
          rcases Nat.eq_or_lt_of_le hlow with hEq | hlater
          · exact hEq ▸ hnext
          · exact ih h n hlater (by omega)
        · rw [if_pos hlimit, if_neg hnext] at h
          cases h
      · rw [if_neg hlimit] at h
        cases h

/-- An end: at the first number that is not recorded, or with all of them recorded. -/
theorem searchLoop_eq_some {ending : SearchEnd}
    (h : searchLoop recorded year passes lastValue stored = some ending) :
    (∃ n, IsLeast {n | lastValue < n ∧ siText n ∉ recorded} n ∧ n ≤ maxCounter ∧
      ending = SearchEnd.found n) ∨
    ((∀ n, lastValue < n → n ≤ maxCounter → siText n ∈ recorded) ∧
      ending = SearchEnd.exhausted year stored) := by
  -- each pass tries the next number; the induction moves the last value tried
  induction passes generalizing lastValue with
  | zero => cases h
  | succ passes ih =>
      rw [searchLoop] at h
      by_cases hlimit : lastValue < maxCounter
      · -- a number already recorded: the search goes on behind it
        by_cases hnext : siText (lastValue + 1) ∈ recorded
        · rw [if_pos hlimit, if_pos hnext] at h
          rcases ih h with ⟨n, ⟨⟨hlow, hfree⟩, hleast⟩, hle, hending⟩ | ⟨hall, hending⟩
          · refine Or.inl ⟨n, ⟨⟨Nat.lt_of_succ_lt hlow, hfree⟩, ?_⟩, hle, hending⟩
            rintro m ⟨hm, hmfree⟩
            rcases Nat.eq_or_lt_of_le hm with hEq | hlater
            · exact absurd (hEq ▸ hnext) hmfree
            · exact hleast ⟨hlater, hmfree⟩
          · refine Or.inr ⟨?_, hending⟩
            intro m hm hmle
            rcases Nat.eq_or_lt_of_le hm with hEq | hlater
            · exact hEq ▸ hnext
            · exact hall m hlater hmle
        · -- the number is free, and nothing lies between
          rw [if_pos hlimit, if_neg hnext] at h
          refine Or.inl ⟨lastValue + 1, ⟨⟨Nat.lt_succ_self _, hnext⟩, ?_⟩, hlimit,
            (Option.some.inj h).symm⟩
          rintro m ⟨hm, _⟩
          exact hm
      · -- the last value is the limit, so no number is left
        rw [if_neg hlimit] at h
        refine Or.inr ⟨?_, (Option.some.inj h).symm⟩
        intro m hm hmle
        exact absurd (Nat.lt_of_lt_of_le hm hmle) hlimit

theorem searchLoop_mono {more : Nat} {ending : SearchEnd}
    (h : searchLoop recorded year passes lastValue stored = some ending) (hle : passes ≤ more) :
    searchLoop recorded year more lastValue stored = some ending := by
  induction passes generalizing lastValue more with
  | zero => cases h
  | succ passes ih =>
      obtain ⟨more, rfl⟩ : ∃ k, more = k + 1 := ⟨more - 1, by omega⟩
      rw [searchLoop] at h ⊢
      by_cases hlimit : lastValue < maxCounter
      · by_cases hnext : siText (lastValue + 1) ∈ recorded
        · rw [if_pos hlimit, if_pos hnext] at h ⊢
          exact ih h (Nat.le_of_succ_le_succ hle)
        · rw [if_pos hlimit, if_neg hnext] at h ⊢
          exact h
      · rw [if_neg hlimit] at h ⊢
        exact h

/-- One pass more than numbers are recorded is enough. -/
theorem searchLoop_terminates (recorded : List String) (year counter : Nat) :
    ∃ ending, searchLoop recorded year (recorded.length + 1) counter counter = some ending := by
  cases hloop : searchLoop recorded year (recorded.length + 1) counter counter with
  | some ending => exact ⟨ending, rfl⟩
  | none =>
      have hle := le_length_of_recorded (recorded_of_searchLoop_eq_none hloop)
      exact absurd hle (Nat.not_succ_le_self _)

end Loop

/-! ## The search of an allocation -/

section Allocations

variable {table : CaseTable} {zone : Zone} {year : Nat} {s : Store}

/-- The normalized numbers of the transactions of a year. -/
def normalizedIn (table : CaseTable) (zone : Zone) (year : Nat) (s : Store) : List String :=
  (recordedIn zone year s).filterMap fun txn => txn.sourceInvoiceNumber.map (normalizedSi table)

theorem mem_normalizedIn {number : String} :
    number ∈ normalizedIn table zone year s ↔
      hasNumber table (recordedIn zone year s) number = true := by
  simp [normalizedIn, hasNumber, Option.any_eq_true]

theorem searchLoop_eq_searchNumber {passes lastValue stored : Nat} {ending : SearchEnd}
    (h : searchLoop (normalizedIn table zone year s) year passes lastValue stored = some ending) :
    ending = match searchNumber (hasNumber table (recordedIn zone year s))
        (maxCounter - lastValue) lastValue with
      | some n => SearchEnd.found n
      | none => SearchEnd.exhausted year stored := by
  induction passes generalizing lastValue with
  | zero => cases h
  | succ passes ih =>
      rw [searchLoop] at h
      by_cases hlimit : lastValue < maxCounter
      · have hfuel : maxCounter - lastValue = (maxCounter - (lastValue + 1)) + 1 := by omega
        rw [if_pos hlimit] at h
        rw [hfuel, searchNumber]
        by_cases hnext : siText (lastValue + 1) ∈ normalizedIn table zone year s
        · rw [if_pos hnext] at h
          rw [if_pos (mem_normalizedIn.1 hnext)]
          exact ih h
        · rw [if_neg hnext] at h
          rw [if_neg fun hhas => hnext (mem_normalizedIn.2 hhas)]
          exact (Option.some.inj h).symm
      · rw [if_neg hlimit] at h
        rw [Nat.sub_eq_zero_of_le (Nat.le_of_not_lt hlimit), searchNumber]
        exact (Option.some.inj h).symm

/-- Without a paper number `assign_invoice` does what the loop does from the counter of the year. -/
theorem assignInvoice_eq_searchLoop {paperNumber : Option String}
    (hpaper : paperReference paperNumber = none) {passes : Nat} {ending : SearchEnd}
    (h : searchLoop (normalizedIn table zone year s) year passes
      (sequenceOf zone year s).lastValue (sequenceOf zone year s).lastValue = some ending) :
    assignInvoice table zone year paperNumber s = ending.answer.map fun answer =>
      { sequence := { sequenceOf zone year s with lastValue := ending.stored }
        number := answer.1
        source := answer.2 } := by
  rw [searchLoop_eq_searchNumber h]
  unfold assignInvoice
  simp only [hpaper]
  cases searchNumber (hasNumber table (recordedIn zone year s))
      (maxCounter - (sequenceOf zone year s).lastValue) (sequenceOf zone year s).lastValue with
  | some n => rfl
  | none => rfl

end Allocations

/-! ## The automatic number -/

/-- The loop ends after at most one pass more than numbers are recorded: with the least value above the
counter whose number is not recorded, which is then stored, or, just when every value up to the limit
is recorded, with the error and the counter as it was.  Different values have different numbers. -/
theorem automatic_search (recorded : List String) (year counter : Nat) :
    ∃ ending,
      (∀ passes, recorded.length < passes →
        searchLoop recorded year passes counter counter = some ending) ∧
      ((∃ n, IsLeast {n | counter < n ∧ siText n ∉ recorded} n ∧ n ≤ maxCounter ∧
          ending = SearchEnd.found n) ∨ ending = SearchEnd.exhausted year counter) ∧
      (ending = SearchEnd.exhausted year counter ↔
        ∀ n, counter < n → n ≤ maxCounter → siText n ∈ recorded) ∧
      ∀ m n, siText m = siText n → m = n := by
  obtain ⟨ending, hending⟩ := searchLoop_terminates recorded year counter
  refine ⟨ending, fun passes hpasses => searchLoop_mono hending hpasses, ?_, ?_,
    fun m n h => siText_injective h⟩
  · rcases searchLoop_eq_some hending with hfound | ⟨_, hexhausted⟩
    · exact Or.inl hfound
    · exact Or.inr hexhausted
  · rcases searchLoop_eq_some hending with ⟨n, hleast, hle, hfound⟩ | ⟨hall, hexhausted⟩
    · constructor
      · intro hexhausted
        have hanswer := congrArg SearchEnd.answer (hfound.symm.trans hexhausted)
        cases hanswer
      · intro hall
        exact absurd (hall n hleast.1.1 hle) hleast.1.2
    · exact ⟨fun _ => hall, fun _ => hexhausted⟩

end RosarioDairy
