import RosarioDairy.Foundations.Grouping
import RosarioDairy.Inventory.Conservation

/-!
# History — what was held at the close of a day

A history with a monotone clock splits at the close of every day.  What a product held then is read
off the store the first part leads to, or off the accounts the whole history leads to, with the
later movements undone; the two agree.
-/

namespace RosarioDairy

open Foundations

/-- The business day of a call. -/
def Call.day (env : Deployment) (call : Call) : Int := env.zone.localDate call.now

/-- The calls up to the close of day `d`. -/
def callsUpTo (env : Deployment) (d : Int) (history : List Call) : List Call :=
  history.filter (fun call => call.day env ≤ d)

/-- The calls after day `d`. -/
def callsAfter (env : Deployment) (d : Int) (history : List Call) : List Call :=
  history.filter (fun call => d < call.day env)

/-- The clock never runs backwards over a history. -/
def MonotoneClock (history : List Call) : Prop :=
  history.Pairwise (fun call later => call.now ≤ later.now)

/-- A history with a monotone clock splits at the close of a day. -/
theorem callsUpTo_append_callsAfter (env : Deployment) (d : Int) :
    ∀ {history : List Call}, MonotoneClock history →
      callsUpTo env d history ++ callsAfter env d history = history
  | [], _ => rfl
  | call :: history, hclock => by
      rcases List.pairwise_cons.1 hclock with ⟨hlater, hclock'⟩
      have ih := callsUpTo_append_callsAfter env d hclock'
      by_cases hday : call.day env ≤ d
      · have hnot : ¬ d < call.day env := by omega
        simpa [callsUpTo, callsAfter, hday, hnot] using ih
      · have hafter : ∀ later ∈ call :: history, d < later.day env := by
          intro later hmem
          rcases List.mem_cons.1 hmem with rfl | hmem
          · omega
          · have := env.zone.mono (hlater later hmem)
            unfold Call.day at hday ⊢
            omega
        have hnone : callsUpTo env d (call :: history) = [] := by
          refine List.filter_eq_nil_iff.2 ?_
          intro later hmem
          have := hafter later hmem
          simpa using this
        have hall : callsAfter env d (call :: history) = call :: history := by
          refine List.filter_eq_self.2 ?_
          intro later hmem
          simpa using hafter later hmem
        rw [hnone, hall, List.nil_append]

section Accounts

variable {env : Deployment} {frame : Frame}

/-- References that fit the store a history leads to fit the store it starts from. -/
theorem replay_fits : ∀ (history : List Call) {s : Store},
    frame.Fits env.zone (replay env s history) → frame.Fits env.zone s
  | [], _, h => h
  | call :: history, s, h => by
      have hstep : frame.Fits env.zone (step env s call) := replay_fits history h
      unfold step at hstep
      cases hperform : perform env call.now call.op s with
      | error e => simpa [hperform] using hstep
      | ok s' =>
          rw [hperform] at hstep
          exact (perform_outcome hperform).fits_before hstep

/-- A call moves every account by steps of its own day. -/
theorem step_accounts {s : Store} {call : Call} (hphysical : call.op.isPhysical)
    (hframe : frame.Fits env.zone (step env s call)) (pk : Nat) :
    AccountSteps (call.day env) (call.day env) (s.account env.zone frame pk)
      ((step env s call).account env.zone frame pk) := by
  unfold step at hframe ⊢
  cases hperform : perform env call.now call.op s with
  | error e => exact Relation.ReflTransGen.refl
  | ok s' =>
      rw [hperform] at hframe
      rcases outcome_accounts (perform_outcome hperform) hframe with ⟨soldOn, hsoldOn, hsteps⟩
      have hday : soldOn = call.day env := hsoldOn hphysical
      subst hday
      exact hsteps pk

/-- The run lemma for one account: what the movements of each day keep, a history keeps. -/
theorem replay_account {P : Account → Prop} (pk : Nat) :
    ∀ (history : List Call) {s : Store},
      (∀ call ∈ history, ∀ a a', P a →
        AccountStep (call.day env) (call.day env) a a' → P a') →
      (∀ call ∈ history, call.op.isPhysical) →
      frame.Fits env.zone (replay env s history) →
      P (s.account env.zone frame pk) → P ((replay env s history).account env.zone frame pk)
  | [], _, _, _, _, hs => hs
  | call :: history, s, hstep, hphysical, hframe, hs => by
      have hnext : frame.Fits env.zone (step env s call) := replay_fits history hframe
      have hcall := step_accounts (hphysical call (by simp)) hnext pk
      have hs' := hcall.preserves (hstep call (by simp)) hs
      exact replay_account pk history (fun later hlater => hstep later (by simp [hlater]))
        (fun later hlater => hphysical later (by simp [hlater])) hframe hs'

theorem replay_account_balanced {s : Store} {history : List Call} {pk : Nat}
    (hphysical : ∀ call ∈ history, call.op.isPhysical)
    (hframe : frame.Fits env.zone (replay env s history))
    (hs : (s.account env.zone frame pk).Balanced) :
    ((replay env s history).account env.zone frame pk).Balanced :=
  replay_account pk history (fun _ _ _ _ ha hstep => hstep.balanced ha) hphysical hframe hs

/-- The calls after a day leave what was held at its close. -/
theorem replay_heldFor {s : Store} {history : List Call} {pk : Nat} (product : Nat) {d : Int}
    (hphysical : ∀ call ∈ history, call.op.isPhysical)
    (hafter : ∀ call ∈ history, d < call.day env)
    (hframe : frame.Fits env.zone (replay env s history))
    (hs : (s.account env.zone frame pk).Balanced) :
    ((replay env s history).account env.zone frame pk).heldFor product d =
      (s.account env.zone frame pk).heldFor product d := by
  have hrun := replay_account
    (P := fun a => a.Balanced ∧
      a.heldFor product d = (s.account env.zone frame pk).heldFor product d)
    pk history ?_ hphysical hframe ⟨hs, rfl⟩
  · exact hrun.2
  · rintro call hcall a a' ⟨hbalanced, hheld⟩ hstep
    exact ⟨hstep.balanced hbalanced,
      (hstep.heldFor product hbalanced (hafter call hcall)).trans hheld⟩

/-- An account dated by the first day of a history is dated by any day the history ends by. -/
theorem replay_dated {pk : Nat} {d : Int} :
    ∀ (history : List Call) {s : Store} {d₀ : Int}, MonotoneClock history →
      (∀ call ∈ history, call.op.isPhysical) →
      (∀ call ∈ history, d₀ ≤ call.day env ∧ call.day env ≤ d) → d₀ ≤ d →
      frame.Fits env.zone (replay env s history) →
      (s.account env.zone frame pk).Balanced → (s.account env.zone frame pk).Dated d₀ →
      ((replay env s history).account env.zone frame pk).Dated d
  | [], _, _, _, _, _, hle, _, _, hdated => hdated.mono hle
  | call :: history, s, d₀, hclock, hphysical, hdays, _, hframe, hbalanced, hdated => by
      rcases List.pairwise_cons.1 hclock with ⟨hlater, hclock'⟩
      rcases hdays call (by simp) with ⟨hfirst, hlast⟩
      have hnext : frame.Fits env.zone (step env s call) := replay_fits history hframe
      have hday := (step_accounts (hphysical call (by simp)) hnext pk).preserves
        (P := fun a => a.Balanced ∧ a.Dated (call.day env))
        (fun _ _ ha hstep => ⟨hstep.balanced ha.1, hstep.dated ha.1 ha.2⟩)
        ⟨hbalanced, hdated.mono hfirst⟩
      refine replay_dated history hclock' (fun later hmem => hphysical later (by simp [hmem])) ?_ hlast
        hframe hday.1 hday.2
      intro later hmem
      exact ⟨env.zone.mono (hlater later hmem), (hdays later (by simp [hmem])).2⟩

variable {categories : Table Category} {products : Table Product} {history : List Call}

/-- From the empty store every account is balanced and dated by any day the history ends by. -/
theorem replay_empty_account (pk : Nat) {d : Int} (hclock : MonotoneClock history)
    (hphysical : ∀ call ∈ history, call.op.isPhysical) (hdays : ∀ call ∈ history, call.day env ≤ d)
    (hframe : frame.Fits env.zone (replay env (Store.empty categories products) history)) :
    ((replay env (Store.empty categories products) history).account env.zone frame pk).Balanced ∧
      ((replay env (Store.empty categories products) history).account env.zone frame pk).Dated
        d := by
  have hempty := empty_account env.zone frame categories products pk
  have hbalanced : ((Store.empty categories products).account env.zone frame pk).Balanced := by
    rw [hempty]
    exact Account.unopened_balanced
  have hdated : ∀ d₀, ((Store.empty categories products).account env.zone frame pk).Dated d₀ := by
    intro d₀ h hholding
    rw [hempty] at hholding
    cases hholding
  refine ⟨replay_account_balanced hphysical hframe hbalanced, ?_⟩
  cases history with
  | nil => exact hdated d
  | cons call history =>
      refine replay_dated _ hclock hphysical ?_ (hdays call (by simp)) hframe hbalanced
        (hdated (call.day env))
      intro later hmem
      refine ⟨?_, hdays later hmem⟩
      rcases List.mem_cons.1 hmem with rfl | hmem
      · exact Int.le_refl _
      · exact env.zone.mono ((List.pairwise_cons.1 hclock).1 later hmem)

/-! ## The stock of a product -/

/-- The stock the non-historical batches of a product hold. -/
def Store.heldOf (product : Nat) (s : Store) : Int :=
  ((s.batches.rows.filter
    (fun batch => batch.product = product && !batch.isHistoricalReference)).map
      ProductBatch.remainingQuantity).sum

/-- The stock of a product is held by the accounts of its batches. -/
theorem heldOf_eq_sum (zone : Zone) (frame : Frame) (product : Nat) {s : Store} {N : Nat}
    (hN : s.batches.next ≤ N) :
    s.heldOf product =
      ∑ k ∈ Finset.range N, (s.account zone frame k).stockFor product := by
  unfold Store.heldOf
  rw [Table.sum_filter s.batches _ _ hN]
  refine Finset.sum_congr rfl ?_
  intro k _
  cases hfind : s.batches.find k with
  | none => simp [Account.stockFor, Store.account, hfind]
  | some batch => simp [Account.stockFor, Store.account, hfind, ProductBatch.holding]

/-- The stock an account holds at the close of a day is what it says of that day ever after. -/
theorem heldFor_callsUpTo (hclock : MonotoneClock history)
    (hphysical : ∀ call ∈ history, call.op.isPhysical) (product : Nat) (d : Int) (pk : Nat)
    (hframe : frame.Fits env.zone (replay env (Store.empty categories products) history)) :
    ((replay env (Store.empty categories products) (callsUpTo env d history)).account env.zone
        frame pk).Balanced ∧
      ((replay env (Store.empty categories products) history).account env.zone frame pk).heldFor
          product d =
        ((replay env (Store.empty categories products) (callsUpTo env d history)).account env.zone
          frame pk).stockFor product := by
  have hsplit : replay env (Store.empty categories products) history =
      replay env (replay env (Store.empty categories products) (callsUpTo env d history))
        (callsAfter env d history) := by
    conv_lhs => rw [← callsUpTo_append_callsAfter env d hclock]
    exact runAll_append _ _ _ _
  rw [hsplit] at hframe ⊢
  have hupTo : ∀ call ∈ callsUpTo env d history, call ∈ history ∧ call.day env ≤ d := by
    intro call hcall
    simpa [callsUpTo] using List.mem_filter.1 hcall
  have hafter : ∀ call ∈ callsAfter env d history, call ∈ history ∧ d < call.day env := by
    intro call hcall
    simpa [callsAfter] using List.mem_filter.1 hcall
  rcases replay_empty_account pk (List.Pairwise.filter _ hclock)
    (fun call hcall => hphysical call (hupTo call hcall).1)
    (fun call hcall => (hupTo call hcall).2) (replay_fits _ hframe) with ⟨hbalanced, hdated⟩
  refine ⟨hbalanced, ?_⟩
  rw [replay_heldFor product (fun call hcall => hphysical call (hafter call hcall).1)
    (fun call hcall => (hafter call hcall).2) hframe hbalanced]
  exact Account.heldFor_eq_stockFor product hdated (Int.le_refl _)

/-- What a product held at the close of a day, as the store the calls up to then lead to has it,
is what the accounts of the whole history say. -/
theorem heldOf_callsUpTo (hclock : MonotoneClock history)
    (hphysical : ∀ call ∈ history, call.op.isPhysical) (product : Nat) (d : Int) {N : Nat}
    (hN : (replay env (Store.empty categories products) (callsUpTo env d history)).batches.next ≤ N)
    (hframe : frame.Fits env.zone (replay env (Store.empty categories products) history)) :
    (replay env (Store.empty categories products) (callsUpTo env d history)).heldOf product =
      ∑ k ∈ Finset.range N, ((replay env (Store.empty categories products) history).account
        env.zone frame k).heldFor product d := by
  rw [heldOf_eq_sum env.zone frame product hN]
  refine Finset.sum_congr rfl ?_
  intro k _
  exact (heldFor_callsUpTo hclock hphysical product d k hframe).2.symm

/-- No account ever held less than nothing. -/
theorem heldFor_nonneg (hclock : MonotoneClock history)
    (hphysical : ∀ call ∈ history, call.op.isPhysical) (product : Nat) (d : Int) (pk : Nat)
    (hframe : frame.Fits env.zone (replay env (Store.empty categories products) history)) :
    0 ≤ ((replay env (Store.empty categories products) history).account env.zone frame pk).heldFor
      product d := by
  rcases heldFor_callsUpTo hclock hphysical product d pk hframe with ⟨hbalanced, hheld⟩
  rw [hheld]
  unfold Account.Balanced at hbalanced
  unfold Account.stockFor
  cases hholding : Account.holding _ with
  | none => exact Int.le_refl _
  | some h =>
      simp only [hholding] at hbalanced
      dsimp only
      split
      · exact hbalanced.1
      · exact Int.le_refl _

end Accounts

end RosarioDairy
