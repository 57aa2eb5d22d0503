import Mathlib.Logic.Relation
import RosarioDairy.Foundations.Journal
import RosarioDairy.Inventory.Adjustment

/-!
# Account — the stock account of one batch

What the inventory is for, in its own terms: a batch is an account that is opened with its initial
quantity, is drawn on by sales, corrected by adjustments and credited by returns, and books every
movement with its day.  The steps below are everything that may happen to one account; the services
are shown to follow them.
-/

namespace RosarioDairy

open Foundations

/-- What a batch holds and the terms it is held under. -/
structure Holding where
  product : Nat
  initial : Int
  remaining : Int
  status : BatchStatus
  expirationDate : Int
  dateReceived : Int
  createdDay : Int
  historical : Bool
  deriving DecidableEq, Repr

namespace Holding

def drawn (h : Holding) (take : Int) : Holding :=
  { h with
    remaining := h.remaining - take
    status := if h.remaining - take = 0 then .depleted else h.status }

def adjusted (h : Holding) (kind : AdjustmentType) (quantity : Int) : Holding :=
  { h with
    remaining := if h.remaining - quantity ≤ 0 then 0 else h.remaining - quantity
    status := adjustedStatus kind (h.remaining - quantity) h.status }

def restored (h : Holding) (amount : Int) : Holding :=
  { h with
    remaining := h.remaining + amount
    status := if 0 < amount ∧ h.status = .depleted then .available else h.status }

/-- A sale may draw on the holding. -/
def Sellable (today : Int) (h : Holding) : Prop :=
  h.status = .available ∧ today ≤ h.expirationDate ∧ h.dateReceived ≤ today

/-- A return to the holding restores nothing. -/
def Lost (today : Int) (h : Holding) : Prop :=
  h.status = .expired ∨ h.status = .disposed ∨ h.expirationDate < today

end Holding

/-- The account of a batch: what it holds, if it was received, and its booked movements. -/
structure Account where
  holding : Option Holding
  sold : List Entry
  adjusted : List Entry
  returned : List Entry

/-- The account of a batch that was never received. -/
def Account.unopened : Account :=
  { holding := none
    sold := []
    adjusted := []
    returned := [] }

/-- One movement of an account on business day `today`; sales are booked on day `soldOn`. -/
inductive AccountStep (today soldOn : Int) : Account → Account → Prop
  -- a batch is received in full, and not with a date still to come
  | receive (a : Account) (h : Holding) (hnone : a.holding = none)
      (hpositive : 1 ≤ h.initial) (hfull : h.remaining = h.initial)
      (hstatus : h.status = .available) (hcreated : h.createdDay = today)
      (hreceived : h.dateReceived ≤ today) :
      AccountStep today soldOn a { a with holding := some h }
  | edit (a : Account) (h : Holding) (expirationDate dateReceived : Int)
      (hsome : a.holding = some h) (hreceived : dateReceived ≤ today) :
      AccountStep today soldOn a { a with
        holding := some { h with
          expirationDate := expirationDate
          dateReceived := dateReceived } }
  -- a sale takes what it asks for or the rest of the batch
  | sell (a : Account) (h : Holding) (take : Int) (hsome : a.holding = some h)
      (hsellable : h.Sellable today) (hle : take ≤ h.remaining)
      (htake : take = h.remaining ∨ 0 < take) :
      AccountStep today soldOn a { a with
        holding := some (h.drawn take)
        sold := a.sold ++ [{ day := soldOn, quantity := take }] }
  -- a correction may also give stock back, up to what was received
  | adjust (a : Account) (h : Holding) (kind : AdjustmentType) (quantity : Int)
      (hsome : a.holding = some h) (hkind : kind ≠ .correction → 0 < quantity)
      (hstatus : h.status ≠ .disposed) (hreceived : h.dateReceived ≤ today)
      (henough : 0 < quantity → quantity ≤ h.remaining)
      (hcap : h.remaining - quantity ≤ h.initial) :
      AccountStep today soldOn a { a with
        holding := some (h.adjusted kind quantity)
        adjusted := a.adjusted ++ [{ day := today, quantity := quantity }] }
  -- a void gives nothing back to a lost batch
  | restore (a : Account) (h : Holding) (amount : Int) (hsome : a.holding = some h)
      (hnonneg : 0 ≤ amount) (hcap : 0 < amount → h.remaining + amount ≤ h.initial)
      (hlost : h.Lost today → amount = 0) :
      AccountStep today soldOn a { a with
        holding := some (h.restored amount)
        returned := a.returned ++ [{ day := today, quantity := amount }] }

/-- The movements of one business day, one after the other. -/
abbrev AccountSteps (today soldOn : Int) : Account → Account → Prop :=
  Relation.ReflTransGen (AccountStep today soldOn)

/-- What every movement keeps, a series of movements keeps. -/
theorem AccountSteps.preserves {P : Account → Prop} {today soldOn : Int}
    (hstep : ∀ a a', P a → AccountStep today soldOn a a' → P a') {a a' : Account}
    (h : AccountSteps today soldOn a a') (ha : P a) : P a' := by
  induction h with
  | refl => exact ha
  | tail _ hlast ih => exact hstep _ _ ih hlast

/-! ## Conservation -/

/-- The balance of an account: nothing before it is opened, and afterwards what it holds lies
between zero and the initial quantity and is the initial quantity with the movements booked. -/
def Account.Balanced (a : Account) : Prop :=
  match a.holding with
  | none => a.sold = [] ∧ a.adjusted = [] ∧ a.returned = []
  | some h => 0 ≤ h.remaining ∧ h.remaining ≤ h.initial ∧
      h.remaining = h.initial - Journal.total a.sold - Journal.total a.adjusted +
        Journal.total a.returned

theorem Account.unopened_balanced : Account.unopened.Balanced := ⟨rfl, rfl, rfl⟩

/-- An adjustment of a nonnegative holding is never cut off at zero. -/
theorem Holding.adjusted_remaining {h : Holding} (kind : AdjustmentType) {quantity : Int}
    (hnonneg : 0 ≤ h.remaining) (henough : 0 < quantity → quantity ≤ h.remaining) :
    (h.adjusted kind quantity).remaining = h.remaining - quantity := by
  have hle : 0 ≤ h.remaining - quantity := by
    by_cases hq : 0 < quantity
    · have := henough hq
      omega
    · omega
  simp only [Holding.adjusted]
  split <;> omega

/-- Every movement keeps the balance. -/
theorem AccountStep.balanced {today soldOn : Int} {a a' : Account} (ha : a.Balanced)
    (hstep : AccountStep today soldOn a a') : a'.Balanced := by
  cases hstep with
  | receive h hnone hpositive hfull hstatus hcreated hreceived =>
      simp only [Account.Balanced, hnone] at ha
      rcases ha with ⟨hsold, hadjusted, hreturned⟩
      -- nothing was sold or adjusted before the batch, and it starts full
      refine ⟨by omega, by omega, ?_⟩
      simp [hsold, hadjusted, hreturned, hfull]
  | edit h expirationDate dateReceived hsome hreceived =>
      simp only [Account.Balanced, hsome] at ha
      exact ha
  | sell h take hsome hsellable hle htake =>
      simp only [Account.Balanced, hsome] at ha
      rcases ha with ⟨hnonneg, hcap, hbalance⟩
      simp only [Account.Balanced, Holding.drawn, Journal.total_append, Journal.total_cons,
        Journal.total_nil]
      omega
  | adjust h kind quantity hsome hkind hstatus hreceived henough hcap =>
      simp only [Account.Balanced, hsome] at ha
      rcases ha with ⟨hnonneg, _, hbalance⟩
      have hremaining := Holding.adjusted_remaining kind hnonneg henough
      have hinitial : (h.adjusted kind quantity).initial = h.initial := rfl
      -- a positive adjustment is covered by the stock, any other one only adds to it
      have hle : 0 ≤ h.remaining - quantity := by
        by_cases hq : 0 < quantity
        · have := henough hq
          omega
        · omega
      simp only [Account.Balanced, hremaining, hinitial, Journal.total_append, Journal.total_cons,
        Journal.total_nil]
      omega
  | restore h amount hsome hnonneg hcap hlost =>
      simp only [Account.Balanced, hsome] at ha
      rcases ha with ⟨hremaining, hle, hbalance⟩
      simp only [Account.Balanced, Holding.restored, Journal.total_append, Journal.total_cons,
        Journal.total_nil]
      by_cases hamount : 0 < amount
      · have := hcap hamount
        omega
      · omega

/-! ## Nonnegative stock -/

/-- The holding is not overdrawn and no sale took a negative quantity. -/
def Account.Nonneg (a : Account) : Prop :=
  (∀ h ∈ a.holding, 0 ≤ h.remaining) ∧ ∀ entry ∈ a.sold, 0 ≤ entry.quantity

theorem AccountStep.nonneg {today soldOn : Int} {a a' : Account} (ha : a.Nonneg)
    (hstep : AccountStep today soldOn a a') : a'.Nonneg := by
  rcases ha with ⟨hholding, hsold⟩
  cases hstep with
  | receive h hnone hpositive hfull hstatus hcreated hreceived =>
      refine ⟨?_, hsold⟩
      rintro _ ⟨rfl⟩
      omega
  | edit h expirationDate dateReceived hsome hreceived =>
      refine ⟨?_, hsold⟩
      rintro _ ⟨rfl⟩
      exact hholding h hsome
  | sell h take hsome hsellable hle htake =>
      have hnonneg := hholding h hsome
      refine ⟨?_, ?_⟩
      · rintro _ ⟨rfl⟩
        simp only [Holding.drawn]
        omega
      · intro entry hentry
        rcases List.mem_append.1 hentry with hold | hnew
        · exact hsold entry hold
        · have hEq : entry = { day := soldOn, quantity := take } := by simpa using hnew
          subst hEq
          -- all that is left, which is not negative, or a positive take
          rcases htake with htake | htake
          · simpa [htake] using hnonneg
          · exact Int.le_of_lt htake
  | adjust h kind quantity hsome hkind hstatus hreceived henough hcap =>
      refine ⟨?_, hsold⟩
      rintro _ ⟨rfl⟩
      simp only [Holding.adjusted]
      split <;> omega
  | restore h amount hsome hnonneg hcap hlost =>
      have hremaining := hholding h hsome
      refine ⟨?_, hsold⟩
      rintro _ ⟨rfl⟩
      simp only [Holding.restored]
      omega

/-! ## Status coherence -/

/-- Stock is left exactly while the status says so, and never a negative amount. -/
def Holding.Coherent (h : Holding) : Prop :=
  0 ≤ h.remaining ∧ (0 < h.remaining ↔ h.status = .available ∨ h.status = .expired)

def Account.Coherent (a : Account) : Prop := ∀ h ∈ a.holding, h.Coherent

/-- Every movement keeps the status coherent with the stock. -/
theorem AccountStep.coherent {today soldOn : Int} {a a' : Account} (ha : a.Coherent)
    (hstep : AccountStep today soldOn a a') : a'.Coherent := by
  cases hstep with
  | receive h hnone hpositive hfull hstatus hcreated hreceived =>
      rintro _ ⟨rfl⟩
      simp only [Holding.Coherent, hstatus, true_or, iff_true]
      omega
  | edit h expirationDate dateReceived hsome hreceived =>
      rintro _ ⟨rfl⟩
      exact ha h hsome
  | sell h take hsome hsellable hle htake =>
      rcases ha h hsome with ⟨hnonneg, hiff⟩
      rintro _ ⟨rfl⟩
      have havailable : h.status = .available := hsellable.1
      by_cases hempty : h.remaining - take = 0
      · simp [Holding.Coherent, Holding.drawn, hempty]
      · simp only [Holding.Coherent, Holding.drawn, hempty, if_false, havailable, true_or, iff_true]
        omega
  | adjust h kind quantity hsome hkind hstatus hreceived henough hcap =>
      rcases ha h hsome with ⟨hnonneg, hiff⟩
      have hremaining := Holding.adjusted_remaining kind hnonneg henough
      rintro _ ⟨rfl⟩
      by_cases hempty : h.remaining - quantity ≤ 0
      · have hzero : h.remaining - quantity = 0 := by
          have hle : 0 ≤ h.remaining - quantity := by
            by_cases hq : 0 < quantity
            · have := henough hq
              omega
            · omega
          omega
        have hgone : (h.adjusted kind quantity).status = .disposed ∨
            (h.adjusted kind quantity).status = .depleted := by
          simp only [Holding.adjusted, adjustedStatus, hempty, if_true]
          split
          · exact .inl rfl
          · exact .inr rfl
        rw [Holding.Coherent, hremaining, hzero]
        rcases hgone with hgone | hgone
        · simp [hgone]
        · simp [hgone]
      · have hkept : (h.adjusted kind quantity).status = .available ∨
            (h.adjusted kind quantity).status = .expired := by
          simp only [Holding.adjusted, adjustedStatus, hempty, if_false]
          split
          · exact .inl rfl
          · rename_i hnot
            -- a depleted holding holds nothing, so only a correction can fill it again
            cases hold : h.status with
            | available => exact .inl rfl
            | expired => exact .inr rfl
            | disposed => exact absurd hold hstatus
            | depleted =>
                have hzero : ¬ 0 < h.remaining := by
                  intro hpos
                  have := hiff.1 hpos
                  simp [hold] at this
                have hcorrection : kind ≠ .correction := fun hk => hnot ⟨hk, hold⟩
                have hpos := hkind hcorrection
                have := henough hpos
                omega
        rw [Holding.Coherent, hremaining]
        refine ⟨by omega, ?_⟩
        simp only [hkept, iff_true]
        omega
  | restore h amount hsome hnonneg hcap hlost =>
      rcases ha h hsome with ⟨hremaining, hiff⟩
      rintro _ ⟨rfl⟩
      by_cases hamount : 0 < amount
      · have hkeep : ¬ h.Lost today := fun h' => by
          have := hlost h'
          omega
        simp only [Holding.Lost, not_or] at hkeep
        have hstatus : (h.restored amount).status = .available := by
          cases hold : h.status with
          | available => simp [Holding.restored, hold]
          | depleted => simp [Holding.restored, hold, hamount]
          | expired => exact absurd hold hkeep.1
          | disposed => exact absurd hold hkeep.2.1
        have hrem : (h.restored amount).remaining = h.remaining + amount := rfl
        rw [Holding.Coherent, hstatus, hrem]
        simp only [true_or, iff_true]
        omega
      · have hzero : amount = 0 := by omega
        subst hzero
        simpa [Holding.Coherent, Holding.restored] using ⟨hremaining, hiff⟩

/-- Disposed stock is gone for good: the holding stays disposed and keeps its remaining stock. -/
theorem AccountStep.disposed {today soldOn : Int} {a a' : Account}
    (ha : ∃ h, a.holding = some h ∧ h.status = .disposed ∧ h.remaining = 0)
    (hstep : AccountStep today soldOn a a') :
    ∃ h, a'.holding = some h ∧ h.status = .disposed ∧ h.remaining = 0 := by
  rcases ha with ⟨h₀, hsome₀, hdisposed, hzero⟩
  cases hstep with
  | receive h hnone hpositive hfull hstatus hcreated hreceived =>
      simp [hnone] at hsome₀
  | edit h expirationDate dateReceived hsome hreceived =>
      have hEq : h = h₀ := Option.some.inj (hsome.symm.trans hsome₀)
      subst hEq
      exact ⟨_, rfl, hdisposed, hzero⟩
  | sell h take hsome hsellable hle htake =>
      have hEq : h = h₀ := Option.some.inj (hsome.symm.trans hsome₀)
      subst hEq
      have havailable : h.status = .available := hsellable.1
      simp [hdisposed] at havailable
  | adjust h kind quantity hsome hkind hstatus hreceived henough hcap =>
      have hEq : h = h₀ := Option.some.inj (hsome.symm.trans hsome₀)
      subst hEq
      exact absurd hdisposed hstatus
  | restore h amount hsome hnonneg hcap hlost =>
      have hEq : h = h₀ := Option.some.inj (hsome.symm.trans hsome₀)
      subst hEq
      have hnothing : amount = 0 := hlost (.inr (.inl hdisposed))
      subst hnothing
      exact ⟨_, rfl, by simp [Holding.restored, hdisposed], by simp [Holding.restored, hzero]⟩

/-! ## Balances of earlier days -/

/-- What the account holds now. -/
def Account.stock (a : Account) : Int :=
  match a.holding with
  | none => 0
  | some h => h.remaining

/-- What the account held at the close of day `d`, by undoing every movement after it. -/
def Account.heldAt (d : Int) (a : Account) : Int :=
  match a.holding with
  | none => 0
  | some h =>
      if h.createdDay ≤ d then
        h.remaining + Journal.after d a.sold + Journal.after d a.adjusted -
          Journal.after d a.returned
      else 0

/-- The account was opened by `today`, and its movements lie between that day and `today`. -/
def Account.Dated (today : Int) (a : Account) : Prop :=
  ∀ h ∈ a.holding, h.createdDay ≤ today ∧ h.dateReceived ≤ today ∧
    Journal.Between h.createdDay today a.sold ∧ Journal.Between h.createdDay today a.adjusted ∧
      Journal.Between h.createdDay today a.returned

theorem Account.Dated.mono {today today' : Int} {a : Account} (h : a.Dated today)
    (hle : today ≤ today') : a.Dated today' := by
  intro holding hholding
  rcases h holding hholding with ⟨hcreated, hreceived, hsold, hadjusted, hreturned⟩
  exact ⟨by omega, by omega, hsold.mono hle, hadjusted.mono hle, hreturned.mono hle⟩

/-- Every movement of the day is booked on the day. -/
theorem AccountStep.dated {today : Int} {a a' : Account} (hbalanced : a.Balanced)
    (ha : a.Dated today) (hstep : AccountStep today today a a') : a'.Dated today := by
  cases hstep with
  | receive h hnone hpositive hfull hstatus hcreated hreceived =>
      simp only [Account.Balanced, hnone] at hbalanced
      rcases hbalanced with ⟨hsold, hadjusted, hreturned⟩
      rintro _ ⟨rfl⟩
      simp only [hsold, hadjusted, hreturned]
      exact ⟨by omega, hreceived, Journal.between_nil _ _, Journal.between_nil _ _,
        Journal.between_nil _ _⟩
  | edit h expirationDate dateReceived hsome hreceived =>
      rcases ha h hsome with ⟨hcreated, _, hjournals⟩
      rintro _ ⟨rfl⟩
      exact ⟨hcreated, hreceived, hjournals⟩
  | sell h take hsome hsellable hle htake =>
      rcases ha h hsome with ⟨hcreated, hreceived, hsold, hadjusted, hreturned⟩
      rintro _ ⟨rfl⟩
      exact ⟨hcreated, hreceived, Journal.between_concat hsold ⟨hcreated, Int.le_refl _⟩,
        hadjusted, hreturned⟩
  | adjust h kind quantity hsome hkind hstatus hreceived henough hcap =>
      rcases ha h hsome with ⟨hcreated, hreceived, hsold, hadjusted, hreturned⟩
      rintro _ ⟨rfl⟩
      exact ⟨hcreated, hreceived, hsold,
        Journal.between_concat hadjusted ⟨hcreated, Int.le_refl _⟩, hreturned⟩
  | restore h amount hsome hnonneg hcap hlost =>
      rcases ha h hsome with ⟨hcreated, hreceived, hsold, hadjusted, hreturned⟩
      rintro _ ⟨rfl⟩
      exact ⟨hcreated, hreceived, hsold, hadjusted,
        Journal.between_concat hreturned ⟨hcreated, Int.le_refl _⟩⟩

/-- At the close of a day nothing after it is booked yet: the balance of the day is the stock. -/
theorem Account.heldAt_eq_stock {today d : Int} {a : Account} (h : a.Dated today)
    (hd : today ≤ d) : a.heldAt d = a.stock := by
  unfold Account.heldAt Account.stock
  cases hholding : a.holding with
  | none => rfl
  | some holding =>
      rcases h holding hholding with ⟨hcreated, _, hsold, hadjusted, hreturned⟩
      have hopen : holding.createdDay ≤ d := by omega
      simp only [hopen, if_true, Journal.after_eq_zero hsold hd,
        Journal.after_eq_zero hadjusted hd, Journal.after_eq_zero hreturned hd]
      omega

/-- No later movement changes what the account held at the close of an earlier day. -/
theorem AccountStep.heldAt {today d : Int} {a a' : Account} (hbalanced : a.Balanced)
    (hd : d < today) (hstep : AccountStep today today a a') : a'.heldAt d = a.heldAt d := by
  cases hstep with
  | receive h hnone hpositive hfull hstatus hcreated hreceived =>
      have hlate : ¬ h.createdDay ≤ d := by omega
      simp [Account.heldAt, hnone, hlate]
  | edit h expirationDate dateReceived hsome hreceived =>
      simp [Account.heldAt, hsome]
  | sell h take hsome hsellable hle htake =>
      simp only [Account.heldAt, hsome, Holding.drawn, Journal.after_append,
        Journal.after_singleton, hd, if_true]
      split <;> omega
  | adjust h kind quantity hsome hkind hstatus hreceived henough hcap =>
      simp only [Account.Balanced, hsome] at hbalanced
      have hremaining := Holding.adjusted_remaining kind hbalanced.1 henough
      have hcreated : (h.adjusted kind quantity).createdDay = h.createdDay := rfl
      simp only [Account.heldAt, hsome, hremaining, hcreated, Journal.after_append,
        Journal.after_singleton, hd, if_true]
      split <;> omega
  | restore h amount hsome hnonneg hcap hlost =>
      simp only [Account.heldAt, hsome, Holding.restored, Journal.after_append,
        Journal.after_singleton, hd, if_true]
      split <;> omega

/-- Between two days the balance moves by what was booked, counting the opening as a receipt of
the initial quantity. -/
theorem Account.heldAt_before {today a b : Int} {account : Account} {h : Holding}
    (hsome : account.holding = some h) (hbalanced : account.Balanced) (hdated : account.Dated today)
    (hab : a ≤ b + 1) (hopen : h.createdDay ≤ b) :
    account.heldAt (a - 1) = account.heldAt b + Journal.within a b account.sold +
      Journal.within a b account.adjusted - Journal.within a b account.returned -
        (if a ≤ h.createdDay then h.initial else 0) := by
  rcases hdated h hsome with ⟨_, _, hsold, hadjusted, hreturned⟩
  simp only [Account.Balanced, hsome] at hbalanced
  have hsplit := Journal.after_eq_within_add_after hab
  have hsold' := hsplit account.sold
  have hadjusted' := hsplit account.adjusted
  have hreturned' := hsplit account.returned
  simp only [Account.heldAt, hsome, hopen, if_true]
  by_cases hlate : a ≤ h.createdDay
  · have hclosed : ¬ h.createdDay ≤ a - 1 := by omega
    have hbefore : a - 1 < h.createdDay := by omega
    rw [Journal.after_eq_total hsold hbefore] at hsold'
    rw [Journal.after_eq_total hadjusted hbefore] at hadjusted'
    rw [Journal.after_eq_total hreturned hbefore] at hreturned'
    simp only [hlate, hclosed, if_true, if_false]
    omega
  · have hclosed : h.createdDay ≤ a - 1 := by omega
    simp only [hlate, hclosed, if_true, if_false]
    omega

/-! ## Balances of one product -/

/-- What the account held of a product at the close of day `d`; reference batches hold nothing. -/
def Account.heldFor (product : Nat) (d : Int) (a : Account) : Int :=
  match a.holding with
  | none => 0
  | some h => if h.product = product ∧ h.historical = false then a.heldAt d else 0

/-- What the account holds of a product now. -/
def Account.stockFor (product : Nat) (a : Account) : Int :=
  match a.holding with
  | none => 0
  | some h => if h.product = product ∧ h.historical = false then h.remaining else 0

theorem Account.heldFor_eq_stockFor {today d : Int} {a : Account} (product : Nat)
    (h : a.Dated today) (hd : today ≤ d) : a.heldFor product d = a.stockFor product := by
  have hstock := Account.heldAt_eq_stock h hd
  unfold Account.heldFor Account.stockFor
  unfold Account.stock at hstock
  cases hholding : a.holding with
  | none => rfl
  | some holding =>
      simp only [hholding] at hstock
      simp only [hstock]

/-- Every account is opened with stock. -/
theorem AccountStep.opened {today soldOn : Int} {a a' : Account}
    (ha : ∀ h ∈ a.holding, 1 ≤ h.initial) (hstep : AccountStep today soldOn a a') :
    ∀ h ∈ a'.holding, 1 ≤ h.initial := by
  cases hstep with
  | receive h hnone hpositive hfull hstatus hcreated hreceived =>
      rintro _ ⟨rfl⟩
      exact hpositive
  | edit h expirationDate dateReceived hsome hreceived =>
      rintro _ ⟨rfl⟩
      exact ha h hsome
  | sell h take hsome hsellable hle htake =>
      rintro _ ⟨rfl⟩
      exact ha h hsome
  | adjust h kind quantity hsome hkind hstatus hreceived henough hcap =>
      rintro _ ⟨rfl⟩
      exact ha h hsome
  | restore h amount hsome hnonneg hcap hlost =>
      rintro _ ⟨rfl⟩
      exact ha h hsome

/-- Movements leave the product of a holding and whether it is a reference. -/
theorem AccountStep.terms {today soldOn : Int} {a a' : Account} {h : Holding}
    (hsome : a.holding = some h) (hstep : AccountStep today soldOn a a') :
    ∃ h', a'.holding = some h' ∧ h'.product = h.product ∧ h'.historical = h.historical := by
  cases hstep with
  | receive h' hnone hpositive hfull hstatus hcreated hreceived =>
      simp [hnone] at hsome
  | edit h' expirationDate dateReceived hsome' hreceived =>
      have hEq : h' = h := Option.some.inj (hsome'.symm.trans hsome)
      subst hEq
      exact ⟨_, rfl, rfl, rfl⟩
  | sell h' take hsome' hsellable hle htake =>
      have hEq : h' = h := Option.some.inj (hsome'.symm.trans hsome)
      subst hEq
      exact ⟨_, rfl, rfl, rfl⟩
  | adjust h' kind quantity hsome' hkind hstatus hreceived henough hcap =>
      have hEq : h' = h := Option.some.inj (hsome'.symm.trans hsome)
      subst hEq
      exact ⟨_, rfl, rfl, rfl⟩
  | restore h' amount hsome' hnonneg hcap hlost =>
      have hEq : h' = h := Option.some.inj (hsome'.symm.trans hsome)
      subst hEq
      exact ⟨_, rfl, rfl, rfl⟩

/-- No later movement changes what the account held of a product at the close of an earlier day. -/
theorem AccountStep.heldFor {today d : Int} {a a' : Account} (product : Nat)
    (hbalanced : a.Balanced) (hd : d < today) (hstep : AccountStep today today a a') :
    a'.heldFor product d = a.heldFor product d := by
  have hheld := hstep.heldAt hbalanced hd
  cases hholding : a.holding with
  | none =>
      have hzero : a.heldAt d = 0 := by simp [Account.heldAt, hholding]
      simp only [Account.heldFor, hholding, hheld, hzero]
      cases a'.holding with
      | none => rfl
      | some h => simp
  | some h =>
      rcases hstep.terms hholding with ⟨h', hholding', hproduct, hhistorical⟩
      simp only [Account.heldFor, hholding, hholding', hproduct, hhistorical, hheld]

end RosarioDairy
