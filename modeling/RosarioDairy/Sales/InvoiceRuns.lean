import Mathlib.Logic.Function.Basic
import RosarioDairy.Sales.SaleRoutes

/-!
# InvoiceRuns — invoice numbers over interleaved sales

A sale allocates its number, locks the counter row of its sales year until its transaction ends, and
commits or rolls back.  Sales of other years, cancellations and every call that does not sell run in
between; sales that do not overlap are the service calls (`Issuing.run_serial`).
-/

namespace RosarioDairy

open Foundations

/-! ## Sales in flight -/

/-- A sale between its allocation and the end of its transaction; `recorded` keeps, for the record
of the proof only, the numbers of its year at the allocation. -/
structure OpenSale where
  route : SaleRoute
  clock : Clock
  priced : PricedSale
  allocation : Allocation
  recorded : List InvoiceEntry

/-- A committed number, with the counter it left and what was recorded when it was allocated. -/
structure Issue where
  year : Nat
  number : String
  source : InvoiceNumberSource
  lastValue : Nat
  recorded : List InvoiceEntry

def Issue.entry (issue : Issue) : InvoiceEntry :=
  { number := some issue.number
    source := issue.source }

/-- The sales year of a route at a clock reading. -/
def SaleRoute.year (route : SaleRoute) (clock : Clock) : Nat :=
  Day.year (businessDate clock route.checkoutArgs)

def OpenSale.issue (sale : OpenSale) : Issue :=
  { year := sale.route.year sale.clock
    number := sale.allocation.number
    source := sale.allocation.source
    lastValue := sale.allocation.sequence.lastValue
    recorded := sale.recorded }

/-- The committed store, the open sale that holds the counter row of each year and, for the record
of the proof only, the numbers in commit order. -/
structure Issuing where
  store : Store
  holding : Nat → Option OpenSale
  log : List Issue

def Issuing.init (s : Store) : Issuing :=
  { store := s
    holding := fun _ => none
    log := [] }

/-- The prices and the number of a sale, computed at the beginning of its transaction. -/
def SaleRoute.allocate (table : CaseTable) (clock : Clock) (route : SaleRoute) (s : Store) :
    Except Error (PricedSale × Allocation) := do
  let priced ← priceSale route.checkoutArgs
  let allocation ← assignInvoice table clock.zone (route.year clock)
    route.checkoutArgs.invoiceNumber s
  return (priced, allocation)

/-- The rest of a sale, on the store it commits to. -/
def OpenSale.close (table : CaseTable) (sale : OpenSale) (s : Store) : Except Error Store :=
  sale.route.runWith
    (closeSale table sale.clock sale.route.checkoutArgs sale.priced sale.allocation)
    sale.clock s

/-- A sale begins, ends one way or the other, or a call that does not sell runs. -/
inductive IssueAction
  | start (route : SaleRoute) (now : Int)
  | commit (year : Nat)
  | rollback (year : Nat)
  | other (call : Call) (hop : call.op.sells = false)

/-- The action belongs to a sale. -/
def IssueAction.isSale : IssueAction → Bool
  | .other _ _ => false
  | _ => true

namespace Issuing

/-- A sale waits while the counter row of its year is held. -/
def start (env : Deployment) (S : Issuing) (route : SaleRoute) (clock : Clock) : Issuing :=
  match S.holding (route.year clock) with
  | some _ => S
  | none =>
      match route.allocate env.table clock S.store with
      | .error _ => S
      | .ok (priced, allocation) =>
          { S with
            holding := Function.update S.holding (route.year clock)
              (some { route := route
                      clock := clock
                      priced := priced
                      allocation := allocation
                      recorded := S.store.invoices env.zone (route.year clock) }) }

/-- The counter row is released and whatever the sale wrote is forgotten. -/
def rollback (S : Issuing) (year : Nat) : Issuing :=
  { S with holding := Function.update S.holding year none }

def commit (env : Deployment) (S : Issuing) (year : Nat) : Issuing :=
  match S.holding year with
  | none => S
  | some sale =>
      match sale.close env.table S.store with
      | .error _ => S.rollback year
      | .ok s' =>
          { S.rollback year with
            store := s'
            log := S.log ++ [sale.issue] }

def step (env : Deployment) (S : Issuing) : IssueAction → Issuing
  | .start route now => S.start env route { zone := env.zone, now := now }
  | .commit year => S.commit env year
  | .rollback year => S.rollback year
  | .other call _ => { S with store := RosarioDairy.step env S.store call }

def run (env : Deployment) (S : Issuing) (actions : List IssueAction) : Issuing :=
  runAll (step env) S actions

end Issuing

/-! ## The invariant -/

/-- The numbers of a list of issues that fall into a year. -/
def issuedIn (year : Nat) (log : List Issue) : List InvoiceEntry :=
  (log.filter (fun issue => issue.year = year)).map Issue.entry

/-- The counters the automatic issues of a year left behind. -/
def automaticIn (year : Nat) (log : List Issue) : List Nat :=
  (log.filter (fun issue => issue.year = year ∧ issue.source = .automatic)).map Issue.lastValue

/-- What an issue is worth, given the issues before it and the numbers the run started with. -/
structure IssuedAfter (env : Deployment) (s₀ : Store) (earlier : List Issue) (issue : Issue) :
    Prop where
  recorded : issue.recorded = s₀.invoices env.zone issue.year ++ issuedIn issue.year earlier
  automatic : issue.source = .automatic → issue.number = siText issue.lastValue ∧
    ∀ entry ∈ issue.recorded, ¬ entry.Carries env.table (normalizedSi env.table issue.number)
  paper : issue.source ≠ .automatic → issue.source = .manual ∧
    ∀ entry ∈ issue.recorded, entry.source ≠ .automatic →
      ¬ entry.Carries env.table (normalizedSi env.table issue.number)

/-- What holds of every state a run reaches from the store `s₀`. -/
structure Numbered (env : Deployment) (s₀ : Store) (S : Issuing) : Prop where
  /-- An open sale holds the row of its own year, and its number is as good as on the first day. -/
  held : ∀ year sale, S.holding year = some sale →
    sale.clock.zone = env.zone ∧ sale.route.year sale.clock = year ∧
      sale.recorded = S.store.invoices env.zone year ∧
      Allocates env.table year (S.store.counter year) (S.store.invoices env.zone year)
        sale.allocation
  /-- The numbers of a year are those the run started with and those it issued. -/
  recorded : ∀ year, S.store.invoices env.zone year =
    s₀.invoices env.zone year ++ issuedIn year S.log
  /-- The counter of a year is at its last issue or beyond. -/
  counted : ∀ issue ∈ S.log, ∃ row, S.store.counter issue.year = some row ∧
    issue.lastValue ≤ row.lastValue
  increasing : ∀ year, (automaticIn year S.log).Pairwise (· < ·)
  issued : ∀ earlier issue later, S.log = earlier ++ issue :: later →
    IssuedAfter env s₀ earlier issue

theorem Numbered.init (env : Deployment) (s₀ : Store) :
    Numbered env s₀ (Issuing.init s₀) :=
  { held := by simp [Issuing.init]
    recorded := by simp [Issuing.init, issuedIn]
    counted := by simp [Issuing.init]
    increasing := by simp [Issuing.init, automaticIn]
    issued := by simp [Issuing.init] }

section Steps

variable {env : Deployment} {s₀ : Store} {S : Issuing}

theorem Numbered.start (hS : Numbered env s₀ S) (route : SaleRoute) (clock : Clock)
    (hzone : clock.zone = env.zone) : Numbered env s₀ (S.start env route clock) := by
  unfold Issuing.start
  split
  · exact hS
  · split
    · exact hS
    · rename_i priced allocation hallocate
      refine { hS with held := ?_ }
      intro year sale hsale
      simp only [Function.update_apply] at hsale
      split at hsale
      · rename_i hyear
        cases hsale
        rcases bind_eq_ok.1 hallocate with ⟨_, _, hallocate⟩
        rcases bind_eq_ok.1 hallocate with ⟨_, hassign, hallocate⟩
        rcases pure_pair_eq_ok.1 hallocate with ⟨rfl, rfl⟩
        have hallocates := assignInvoice_allocates hassign
        rw [hzone] at hallocates
        subst hyear
        exact ⟨hzone, rfl, rfl, hallocates⟩
      · exact hS.held year sale hsale

theorem Numbered.rollback (hS : Numbered env s₀ S) (year : Nat) :
    Numbered env s₀ (S.rollback year) := by
  refine { hS with held := ?_ }
  intro year' sale hsale
  simp only [Issuing.rollback, Function.update_apply] at hsale
  split at hsale
  · cases hsale
  · exact hS.held year' sale hsale

/-- A store with the same numbers is as good. -/
theorem Numbered.sameInvoices (hS : Numbered env s₀ S) {s : Store}
    (hsame : SameInvoices S.store s) : Numbered env s₀ { S with store := s } :=
  { held := by
      intro year sale hsale
      rw [hsame.counter, hsame.invoices]
      exact hS.held year sale hsale
    recorded := by
      intro year
      rw [hsame.invoices]
      exact hS.recorded year
    counted := by
      intro issue hissue
      rw [hsame.counter]
      exact hS.counted issue hissue
    increasing := hS.increasing
    issued := hS.issued }

/-- The counters after a sale is closed. -/
theorem OpenSale.close_counter {sale : OpenSale} {s s' : Store}
    (h : sale.close env.table s = .ok s') (year : Nat) :
    s'.counter year = if sale.allocation.sequence.year = year then some sale.allocation.sequence
      else s.counter year := by
  rcases SaleRoute.runWith_sells h with ⟨s₁, s₂, txn, hclose, hbefore, hafter⟩
  rw [hafter.counter, closeSale_counter hclose, hbefore.counter]

/-- The numbers after a sale is closed. -/
theorem OpenSale.close_invoices {sale : OpenSale} {s s' : Store}
    (h : sale.close env.table s = .ok s') (hzone : sale.clock.zone = env.zone) (year : Nat) :
    s'.invoices env.zone year = s.invoices env.zone year ++
      if sale.route.year sale.clock = year then [sale.issue.entry] else [] := by
  rcases SaleRoute.runWith_sells h with ⟨s₁, s₂, txn, hclose, hbefore, hafter⟩
  rw [hafter.invoices, ← hbefore.invoices, ← hzone]
  exact closeSale_invoices hclose year

theorem issuedIn_concat (year : Nat) (log : List Issue) (issue : Issue) :
    issuedIn year (log ++ [issue]) =
      issuedIn year log ++ if issue.year = year then [issue.entry] else [] := by
  by_cases h : issue.year = year
  · simp [issuedIn, h]
  · simp [issuedIn, h]

theorem automaticIn_concat (year : Nat) (log : List Issue) (issue : Issue) :
    automaticIn year (log ++ [issue]) = automaticIn year log ++
      if issue.year = year ∧ issue.source = .automatic then [issue.lastValue] else [] := by
  by_cases h : issue.year = year ∧ issue.source = .automatic
  · simp [automaticIn, h]
  · simp [automaticIn, h]

/-- An element of a list with one more at its end is an old one, or the new one. -/
theorem concat_eq_append_cons {α : Type} {xs before after : List α} {x y : α}
    (h : xs ++ [x] = before ++ y :: after) :
    (before = xs ∧ y = x) ∨ ∃ rest, xs = before ++ y :: rest := by
  rcases List.eq_nil_or_concat after with rfl | ⟨rest, z, rfl⟩
  · have hEq := List.append_inj' h rfl
    exact .inl ⟨hEq.1.symm, (List.cons.inj hEq.2).1.symm⟩
  · have hassoc : xs ++ [x] = (before ++ y :: rest) ++ [z] := by simpa using h
    exact .inr ⟨rest, (List.append_inj' hassoc rfl).1⟩

/-- A commit closes the open sale of the year, or rolls it back when that fails. -/
theorem Issuing.commit_cases (env : Deployment) (S : Issuing) (year : Nat) :
    S.commit env year = S ∨ S.commit env year = S.rollback year ∨
      ∃ sale s', S.holding year = some sale ∧ sale.close env.table S.store = .ok s' ∧
        S.commit env year =
          { store := s'
            holding := Function.update S.holding year none
            log := S.log ++ [sale.issue] } := by
  unfold Issuing.commit
  split
  · exact .inl rfl
  · rename_i sale hholding
    split
    · exact .inr (.inl rfl)
    · rename_i s' hclose
      exact .inr (.inr ⟨sale, s', hholding, hclose, rfl⟩)

section Commit

variable {year : Nat} {sale : OpenSale}

/-- The issues of a year so far are below the number of its open sale. -/
theorem Numbered.issued_lt (hS : Numbered env s₀ S) (hholding : S.holding year = some sale)
    {issue : Issue} (hmem : issue ∈ S.log) (hyear : issue.year = year) :
    issue.lastValue ≤ sale.allocation.sequence.lastValue ∧
      (sale.allocation.source = .automatic →
        issue.lastValue < sale.allocation.sequence.lastValue) := by
  subst hyear
  rcases hS.held _ sale hholding with ⟨_, _, _, hallocates⟩
  rcases hS.counted issue hmem with ⟨row, hrow, hle⟩
  refine ⟨Nat.le_trans hle (hallocates.advances row hrow), ?_⟩
  intro hsource
  exact Nat.lt_of_le_of_lt hle ((hallocates.automatic hsource).2.1 row hrow)

/-- The number of the open sale continues the automatic numbers of its year. -/
theorem Numbered.increasing_concat (hS : Numbered env s₀ S)
    (hholding : S.holding year = some sale) (year' : Nat) :
    (automaticIn year' (S.log ++ [sale.issue])).Pairwise (· < ·) := by
  have hissue : sale.issue.year = year := (hS.held year sale hholding).2.1
  rw [automaticIn_concat]
  split
  · rename_i hnew
    refine List.pairwise_append.2 ⟨hS.increasing year', by simp, ?_⟩
    intro value hvalue next hnext
    rcases List.mem_map.1 hvalue with ⟨issue, hmem, rfl⟩
    rcases List.mem_filter.1 hmem with ⟨hlogged, hautomatic⟩
    have hsame : issue.year = year' ∧ issue.source = .automatic := by simpa using hautomatic
    have hEq : next = sale.issue.lastValue := by simpa using hnext
    rw [hEq]
    exact (hS.issued_lt hholding hlogged (hsame.1.trans (hnew.1.symm.trans hissue))).2 hnew.2
  · simpa using hS.increasing year'

/-- The open sale issues its number after all that is logged. -/
theorem Numbered.issued_next (hS : Numbered env s₀ S) (hholding : S.holding year = some sale) :
    IssuedAfter env s₀ S.log sale.issue := by
  rcases hS.held year sale hholding with ⟨_, hyear, hrecorded, hallocates⟩
  have hissue : sale.issue.year = year := hyear
  have hnow : sale.issue.recorded = S.store.invoices env.zone year := hrecorded
  refine
    { recorded := ?_
      automatic := ?_
      paper := ?_ }
  · rw [hissue, ← hS.recorded]
    exact hnow
  · intro hsource
    rcases hallocates.automatic hsource with ⟨hnumber, _, hfree⟩
    rw [hnow]
    exact ⟨hnumber, hfree⟩
  · intro hsource
    rw [hnow]
    exact hallocates.paper hsource

theorem Numbered.committed (hS : Numbered env s₀ S) (hholding : S.holding year = some sale)
    {s' : Store} (hclose : sale.close env.table S.store = .ok s') :
    Numbered env s₀
      { store := s'
        holding := Function.update S.holding year none
        log := S.log ++ [sale.issue] } := by
  -- the sale was allocated under the lock of its year
  rcases hS.held year sale hholding with ⟨hzone, hyear, _, hallocates⟩
  have hissue : sale.issue.year = year := hyear
  have hcounter := sale.close_counter hclose
  have hinvoices := sale.close_invoices hclose hzone
  rw [hallocates.year_eq] at hcounter
  rw [hyear] at hinvoices
  refine
    { held := ?_
      recorded := ?_
      counted := ?_
      increasing := hS.increasing_concat hholding
      issued := ?_ }
  · -- the locks of the other years still hold what they read
    intro year' sale' hsale'
    simp only [Function.update_apply] at hsale'
    split at hsale'
    · cases hsale'
    · rename_i hne
      have hne' : ¬ year = year' := fun h => hne h.symm
      rw [hcounter, hinvoices, if_neg hne', if_neg hne', List.append_nil]
      exact hS.held year' sale' hsale'
  · -- the invoices of each year are the imported ones and those of the log
    intro year'
    rw [hinvoices, hS.recorded, issuedIn_concat, hissue, List.append_assoc]
  · intro issue hmem
    rw [hcounter]
    -- an issued number stays below the counter of its year, which only grows
    rcases List.mem_append.1 hmem with hold | hnew
    · by_cases hsame : year = issue.year
      · exact ⟨_, if_pos hsame, (hS.issued_lt hholding hold hsame.symm).1⟩
      · rw [if_neg hsame]
        exact hS.counted issue hold
    · have hEq : issue = sale.issue := by simpa using hnew
      subst hEq
      exact ⟨_, if_pos hissue.symm, Nat.le_refl _⟩
  · intro earlier issue later hlog
    -- the last entry of the log, or one from before
    rcases concat_eq_append_cons hlog with ⟨rfl, rfl⟩ | ⟨rest, hrest⟩
    · exact hS.issued_next hholding
    · exact hS.issued earlier issue rest hrest

end Commit

theorem Numbered.commit (hS : Numbered env s₀ S) (year : Nat) :
    Numbered env s₀ (S.commit env year) := by
  rcases S.commit_cases env year with hEq | hEq | ⟨sale, s', hholding, hclose, hEq⟩
  · rw [hEq]
    exact hS
  · rw [hEq]
    exact hS.rollback year
  · rw [hEq]
    exact hS.committed hholding hclose

theorem Numbered.step (hS : Numbered env s₀ S) (action : IssueAction) :
    Numbered env s₀ (S.step env action) := by
  cases action with
  | start route now => exact hS.start route _ rfl
  | commit year => exact hS.commit year
  | rollback year => exact hS.rollback year
  | other call hop => exact hS.sameInvoices (sameInvoices_step env S.store call hop)

/-! ## Runs -/

/-- Every state a run reaches is numbered. -/
theorem run_numbered (env : Deployment) (s₀ : Store) (actions : List IssueAction) :
    Numbered env s₀ ((Issuing.init s₀).run env actions) :=
  runAll_preserves (fun _ action hS => hS.step action) actions (Numbered.init env s₀)

/-- A stored counter does not decrease. -/
def CounterLe (S S' : Issuing) : Prop :=
  ∀ year row, S.store.counter year = some row →
    ∃ row', S'.store.counter year = some row' ∧ row.lastValue ≤ row'.lastValue

theorem CounterLe.refl (S : Issuing) : CounterLe S S :=
  fun _ row hrow => ⟨row, hrow, Nat.le_refl _⟩

theorem CounterLe.trans {S₁ S₂ S₃ : Issuing} (h : CounterLe S₁ S₂) (h' : CounterLe S₂ S₃) :
    CounterLe S₁ S₃ := by
  intro year row hrow
  rcases h year row hrow with ⟨row₂, hrow₂, hle⟩
  rcases h' year row₂ hrow₂ with ⟨row₃, hrow₃, hle'⟩
  exact ⟨row₃, hrow₃, Nat.le_trans hle hle'⟩

theorem CounterLe.of_eq {S S' : Issuing} (h : ∀ year, S'.store.counter year = S.store.counter year) :
    CounterLe S S' := by
  intro year row hrow
  exact ⟨row, (h year).trans hrow, Nat.le_refl _⟩

theorem Issuing.start_store (S : Issuing) (route : SaleRoute) (clock : Clock) :
    (S.start env route clock).store = S.store ∧ (S.start env route clock).log = S.log := by
  unfold Issuing.start
  split
  · exact ⟨rfl, rfl⟩
  · split
    · exact ⟨rfl, rfl⟩
    · exact ⟨rfl, rfl⟩

theorem Numbered.counterLe_step (hS : Numbered env s₀ S) (action : IssueAction) :
    CounterLe S (S.step env action) := by
  cases action with
  | start route now =>
      refine .of_eq fun year => ?_
      simp only [Issuing.step, (S.start_store route _).1]
  | commit year =>
      rcases S.commit_cases env year with hEq | hEq | ⟨sale, s', hholding, hclose, hEq⟩
      · simp only [Issuing.step, hEq]
        exact .refl S
      · simp only [Issuing.step, hEq]
        exact .of_eq fun _ => rfl
      · simp only [Issuing.step, hEq]
        rcases hS.held year sale hholding with ⟨_, _, _, hallocates⟩
        have hcounter := sale.close_counter hclose
        rw [hallocates.year_eq] at hcounter
        intro year' row hrow
        by_cases hsame : year = year'
        · subst hsame
          exact ⟨_, (hcounter year).trans (if_pos rfl), hallocates.advances row hrow⟩
        · exact ⟨row, ((hcounter year').trans (if_neg hsame)).trans hrow, Nat.le_refl _⟩
  | rollback year => exact .of_eq fun _ => rfl
  | other call hop =>
      refine .of_eq fun year => ?_
      exact (sameInvoices_step env S.store call hop).counter year

theorem Numbered.counterLe_run :
    ∀ (actions : List IssueAction) {S : Issuing}, Numbered env s₀ S →
      CounterLe S (S.run env actions)
  | [], S, _ => .refl S
  | action :: actions, _, hS =>
      (hS.counterLe_step action).trans ((hS.step action).counterLe_run actions)

/-- A sale changes the store when it issues a number, and at no other time. -/
theorem Issuing.step_store (S : Issuing) {action : IssueAction} (hsale : action.isSale = true)
    (hlog : (S.step env action).log = S.log) : (S.step env action).store = S.store := by
  cases action with
  | start route now => exact (S.start_store route _).1
  | commit year =>
      rcases S.commit_cases env year with hEq | hEq | ⟨sale, s', hholding, hclose, hEq⟩
      · simp only [Issuing.step, hEq]
      · simp only [Issuing.step, hEq]
        rfl
      · simp only [Issuing.step, hEq] at hlog
        simp at hlog
  | rollback year => rfl
  | other call hop => cases hsale

/-- A checkout first allocates, and allocates alike in stores with the same transactions and
counters. -/
theorem SaleRoute.checkout_allocates {table : CaseTable} {clock : Clock} (route : SaleRoute)
    {s t : Store} (htransactions : t.transactions = s.transactions)
    (hsequences : t.invoiceSequences = s.invoiceSequences) :
    RosarioDairy.checkout table clock route.checkoutArgs t =
      route.allocate table clock s >>= fun opened =>
        closeSale table clock route.checkoutArgs opened.1 opened.2 t := by
  have hcheckout : RosarioDairy.checkout table clock route.checkoutArgs t = (do
      let priced ← priceSale route.checkoutArgs
      let allocation ← assignInvoice table clock.zone (route.year clock)
        route.checkoutArgs.invoiceNumber t
      closeSale table clock route.checkoutArgs priced allocation t) := rfl
  rw [hcheckout, assignInvoice_congr htransactions hsequences]
  unfold SaleRoute.allocate
  cases priceSale route.checkoutArgs with
  | error e => rfl
  | ok priced =>
      cases assignInvoice table clock.zone (route.year clock) route.checkoutArgs.invoiceNumber s with
      | error e => rfl
      | ok allocation => rfl

/-- A route continues with the allocation made on the store it runs on. -/
theorem SaleRoute.run_allocated {table : CaseTable} {clock : Clock} (route : SaleRoute)
    (s : Store) :
    route.run table clock s =
      route.runWith (fun t => route.allocate table clock s >>= fun opened =>
        closeSale table clock route.checkoutArgs opened.1 opened.2 t) clock s :=
  route.runWith_congr fun _ htransactions hsequences =>
    route.checkout_allocates htransactions hsequences

/-- A sale that begins while nobody holds its year and commits at once is the service function. -/
theorem Issuing.run_alone (S : Issuing) (route : SaleRoute) (now : Int)
    (hfree : S.holding (route.year { zone := env.zone, now := now }) = none) :
    (S.run env [.start route now, .commit (route.year { zone := env.zone, now := now })]).store =
      settle S.store (route.run env.table { zone := env.zone, now := now } S.store) := by
  rw [route.run_allocated]
  simp only [Issuing.run, runAll_cons, runAll_nil, Issuing.step, Issuing.start, hfree]
  cases hallocate : route.allocate env.table { zone := env.zone, now := now } S.store with
  | error e =>
      simp only [Issuing.commit, hfree]
      exact (route.settle_runWith_error e).symm
  | ok opened =>
      simp only [Issuing.commit, Function.update_self, OpenSale.close, ok_bind]
      cases route.runWith (closeSale env.table { zone := env.zone, now := now } route.checkoutArgs
          opened.1 opened.2) { zone := env.zone, now := now } S.store with
      | error e' => rfl
      | ok s' => rfl

variable (env) in
/-- A sale that runs alone holds no counter row in the end. -/
theorem Issuing.free_alone (S : Issuing) (route : SaleRoute) (now : Int)
    (hfree : ∀ year, S.holding year = none) (year : Nat) :
    (S.run env [.start route now,
      .commit (route.year { zone := env.zone, now := now })]).holding year = none := by
  -- a start writes the entry of its own year, and the commit empties it again
  have hstart : (S.start env route { zone := env.zone, now := now }).holding =
      Function.update S.holding (route.year { zone := env.zone, now := now })
        ((S.start env route { zone := env.zone, now := now }).holding
          (route.year { zone := env.zone, now := now })) := by
    unfold Issuing.start
    split
    · exact (Function.update_eq_self _ _).symm
    · split
      · exact (Function.update_eq_self _ _).symm
      · simp
  have hcommit (T : Issuing) (year : Nat) :
      (T.commit env year).holding = Function.update T.holding year none := by
    unfold Issuing.commit
    split
    · next hnone => exact (Function.update_eq_self_iff.2 hnone.symm).symm
    · split
      · rfl
      · rfl
  simp only [Issuing.run, runAll_cons, runAll_nil, Issuing.step]
  rw [hcommit, hstart, Function.update_idem]
  by_cases hyear : year = route.year { zone := env.zone, now := now }
  · rw [hyear, Function.update_self]
  · rw [Function.update_of_ne hyear]
    exact hfree year

/-- Sales that do not overlap are the service calls, one after the other. -/
theorem Issuing.run_serial : ∀ (sales : List (SaleRoute × Int)) (S : Issuing),
    (∀ year, S.holding year = none) →
      (S.run env (sales.flatMap fun sale => [.start sale.1 sale.2,
        .commit (sale.1.year { zone := env.zone, now := sale.2 })])).store =
        sales.foldl (fun s sale =>
          settle s (sale.1.run env.table { zone := env.zone, now := sale.2 } s)) S.store
  | [], _, _ => rfl
  | (route, now) :: sales, S, hfree => by
      -- the first sale leaves every year free, so the others run alone as well
      have hrest := Issuing.run_serial sales _ (S.free_alone env route now hfree)
      rw [S.run_alone route now (hfree _)] at hrest
      rw [List.flatMap_cons, Issuing.run, runAll_append]
      exact hrest

end Steps

/-- Invoice numbers over any run of sales, cancellations and other calls, from any history: in each
year the automatic numbers are strictly increasing in commit order; an automatic number differs from
every number recorded for its year when it was allocated, a paper number from every one that was not
automatic, and these are the numbers of the history and all that was issued before; counters never
decrease; a sale that issues no number changes nothing. -/
theorem invoice_numbers (env : Deployment) (s₀ : Store) (actions : List IssueAction) :
    (∀ year, (automaticIn year ((Issuing.init s₀).run env actions).log).Pairwise (· < ·)) ∧
    (∀ earlier issue later,
      ((Issuing.init s₀).run env actions).log = earlier ++ issue :: later →
        IssuedAfter env s₀ earlier issue) ∧
    (∀ year, ((Issuing.init s₀).run env actions).store.invoices env.zone year =
      s₀.invoices env.zone year ++ issuedIn year ((Issuing.init s₀).run env actions).log) ∧
    (∀ later year row, ((Issuing.init s₀).run env actions).store.counter year = some row →
      ∃ row', ((Issuing.init s₀).run env (actions ++ later)).store.counter year = some row' ∧
        row.lastValue ≤ row'.lastValue) ∧
    (∀ action, action.isSale = true →
      (((Issuing.init s₀).run env actions).step env action).log =
        ((Issuing.init s₀).run env actions).log →
      (((Issuing.init s₀).run env actions).step env action).store =
        ((Issuing.init s₀).run env actions).store) := by
  have hS := run_numbered env s₀ actions
  refine ⟨hS.increasing, hS.issued, hS.recorded, ?_, ?_⟩
  · intro later year row hrow
    unfold Issuing.run
    rw [runAll_append]
    exact hS.counterLe_run later year row hrow
  · intro action hsale hlog
    exact Issuing.step_store _ hsale hlog

end RosarioDairy
