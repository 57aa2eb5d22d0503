import RosarioDairy.Inventory.Bookkeeping

/-!
# Coherence — batch status and the stock filters

The status of a batch says whether it has stock left, disposed stock never comes back, and on every
business date the sellable filter and the expired filter split the stock between them.
-/

namespace RosarioDairy

open Foundations

namespace ProductBatch

/-- Stock is left exactly while the status is available or expired. -/
def StatusCoherent (batch : ProductBatch) : Prop :=
  0 < batch.remainingQuantity ↔ batch.status = .available ∨ batch.status = .expired

instance (batch : ProductBatch) : Decidable batch.StatusCoherent :=
  inferInstanceAs (Decidable (_ ↔ _))

theorem holding_coherent {zone : Zone} {batch : ProductBatch} :
    (batch.holding zone).Coherent ↔ 0 ≤ batch.remainingQuantity ∧ batch.StatusCoherent := Iff.rfl

/-! ## The filters on a coherent batch -/

/-- Received stock is sellable or expired, and not both. -/
theorem sellable_xor_expired {batch : ProductBatch} {today : Int} (h : batch.StatusCoherent)
    (hreceived : batch.dateReceived ≤ today) (hstock : 0 < batch.remainingQuantity) :
    (batch.isSellable today = true ∧ batch.isExpiredStock today = false) ∨
      (batch.isSellable today = false ∧ batch.isExpiredStock today = true) := by
  rcases h.1 hstock with hstatus | hstatus
  · by_cases hdate : today ≤ batch.expirationDate
    · left
      have hfresh : ¬ batch.expirationDate < today := by omega
      simp [isSellable, isExpiredStock, hstatus, hdate, hreceived, hfresh]
    · right
      have hpast : batch.expirationDate < today := by omega
      simp [isSellable, isExpiredStock, hstatus, hdate, hreceived, hstock, hpast]
  · right
    simp [isSellable, isExpiredStock, hstatus, hreceived, hstock]

/-- A batch without stock passes neither filter. -/
theorem empty_filtered {batch : ProductBatch} {today : Int} (h : batch.StatusCoherent)
    (hempty : ¬ 0 < batch.remainingQuantity) :
    batch.isSellable today = false ∧ batch.isExpiredStock today = false := by
  have hstatus : ¬ batch.status = .available := fun hstatus => hempty (h.2 (.inl hstatus))
  simp [isSellable, isExpiredStock, hempty, hstatus]

end ProductBatch

/-! ## Histories -/

/-- Every batch of the store has a coherent status and no negative stock. -/
def Store.Coherent (s : Store) : Prop :=
  ∀ batch ∈ s.batches.rows, 0 ≤ batch.remainingQuantity ∧ batch.StatusCoherent

theorem Store.coherent_iff (zone : Zone) (frame : Frame) {s : Store} :
    s.Coherent ↔ ∀ pk, (s.account zone frame pk).Coherent := by
  constructor
  · intro h pk holding hholding
    rcases Option.map_eq_some_iff.1 hholding with ⟨batch, hfind, rfl⟩
    exact ProductBatch.holding_coherent.2 (h batch (Table.find_eq_some.1 hfind).1)
  · intro h batch hbatch
    have hfind : s.batches.find batch.pk = some batch := s.batches.find_of_mem hbatch
    refine ProductBatch.holding_coherent.1 (h batch.pk (batch.holding zone) ?_)
    simp [Store.account, hfind]

theorem Outcome.coherent {clock : Clock} {op : Operation} {s s' : Store} (hs : s.Coherent)
    (h : Outcome clock op s s') : s'.Coherent := by
  rcases outcome_accounts h (s'.frame_fits clock.zone) with ⟨soldOn, _, hsteps⟩
  refine (Store.coherent_iff clock.zone (s'.frame clock.zone)).2 ?_
  intro pk
  exact (hsteps pk).preserves (fun _ _ ha hstep => hstep.coherent ha)
    ((Store.coherent_iff clock.zone _).1 hs pk)

/-- The batch with key `pk` is disposed and has no stock. -/
def Store.DisposedAt (pk : Nat) (s : Store) : Prop :=
  ∃ batch, s.batches.find pk = some batch ∧ batch.status = .disposed ∧ batch.remainingQuantity = 0

theorem Store.disposedAt_iff (zone : Zone) (frame : Frame) {s : Store} {pk : Nat} :
    s.DisposedAt pk ↔ ∃ h, (s.account zone frame pk).holding = some h ∧ h.status = .disposed ∧
      h.remaining = 0 := by
  constructor
  · rintro ⟨batch, hfind, hstatus, hzero⟩
    exact ⟨batch.holding zone, by simp [Store.account, hfind], hstatus, hzero⟩
  · rintro ⟨h, hholding, hstatus, hzero⟩
    rcases Option.map_eq_some_iff.1 hholding with ⟨batch, hfind, rfl⟩
    exact ⟨batch, hfind, hstatus, hzero⟩

theorem Outcome.disposedAt {clock : Clock} {op : Operation} {s s' : Store} {pk : Nat}
    (hs : s.DisposedAt pk) (h : Outcome clock op s s') : s'.DisposedAt pk := by
  rcases outcome_accounts h (s'.frame_fits clock.zone) with ⟨soldOn, _, hsteps⟩
  refine (Store.disposedAt_iff clock.zone (s'.frame clock.zone)).2 ?_
  exact (hsteps pk).preserves (fun _ _ ha hstep => hstep.disposed ha)
    ((Store.disposedAt_iff clock.zone _).1 hs)

/-! ## Negative stock -/

/-- A sale of three units from a batch of ten that is overdrawn by five. -/
def overdrawnStore : Store := Store.oneSale (-500) .depleted none

/-- Voiding the sale revives the overdrawn batch while its stock is still negative: the status
equivalence alone is not preserved. -/
theorem overdrawn_void_incoherent :
    ¬ ∀ (env : Deployment) (s : Store) (history : List Call),
      (∀ batch ∈ s.batches.rows, batch.StatusCoherent) →
        ∀ batch ∈ (replay env s history).batches.rows, batch.StatusCoherent := by
  intro h
  have hvoid := h (Deployment.plain fun _ => "") overdrawnStore
    [{ now := 172800, op := .voidTransaction 1 none "" }] (by decide)
  revert hvoid
  decide

/-- Coherence and the partition of the stock: from a coherent store without negative stock every
history leads to a coherent store; disposed batches stay disposed and empty; on every business date
each received non-historical batch with stock passes exactly one of the two filters, and a batch
without stock passes neither. -/
theorem coherent_partition (env : Deployment) (s : Store) (history : List Call)
    (hs : ∀ batch ∈ s.batches.rows, 0 ≤ batch.remainingQuantity ∧ batch.StatusCoherent) :
    (∀ batch ∈ (replay env s history).batches.rows, batch.StatusCoherent) ∧
    (∀ batch ∈ (replay env s history).batches.rows, batch.status = .disposed → ∀ later,
      ∃ batch', (replay env (replay env s history) later).batches.find batch.pk = some batch' ∧
        batch'.status = .disposed ∧ batch'.remainingQuantity = 0) ∧
    (∀ today, ∀ batch ∈ (replay env s history).batches.rows,
      (batch.isHistoricalReference = false → batch.dateReceived ≤ today →
        0 < batch.remainingQuantity →
        (batch.isSellable today = true ∧ batch.isExpiredStock today = false) ∨
          (batch.isSellable today = false ∧ batch.isExpiredStock today = true)) ∧
      (¬ 0 < batch.remainingQuantity →
        batch.isSellable today = false ∧ batch.isExpiredStock today = false)) := by
  have hcoherent : (replay env s history).Coherent :=
    replay_outcome (P := Store.Coherent) (fun _ _ _ _ hs h => h.coherent hs) history hs
  refine ⟨fun batch hbatch => (hcoherent batch hbatch).2, ?_, ?_⟩
  · intro batch hbatch hdisposed later
    rcases hcoherent batch hbatch with ⟨hnonneg, hstatus⟩
    -- a disposed batch is empty, and an empty disposed batch stays so
    have hgone : ¬ 0 < batch.remainingQuantity := by
      intro hpositive
      have := hstatus.1 hpositive
      simp [hdisposed] at this
    have hnow : (replay env s history).DisposedAt batch.pk :=
      ⟨batch, Table.find_of_mem _ hbatch, hdisposed, by omega⟩
    exact replay_outcome (P := Store.DisposedAt batch.pk)
      (fun _ _ _ _ hs h => h.disposedAt hs) later hnow
  · -- with stock a batch is sellable or expired, without stock it is neither
    intro today batch hbatch
    have hstatus := (hcoherent batch hbatch).2
    exact ⟨fun _ hreceived hstock => ProductBatch.sellable_xor_expired hstatus hreceived hstock,
      fun hempty => ProductBatch.empty_filtered hstatus hempty⟩

/-- Spoiling what is left of a batch and voiding the sale from it afterwards. -/
def spoilThenVoid : List Call :=
  [{ now := 172800
     op := .createStockAdjustment "spoilage" 700 0 ⟨1, .admin⟩ none (some 1) },
   { now := 172900
     op := .voidTransaction 1 none "" }]

theorem coherent_partition_stocked :
    ∃ batch ∈ (replay (Deployment.plain fun _ => "") (Store.oneSale 700 .available none)
      spoilThenVoid).batches.rows, batch.pk = 1 ∧ batch.StatusCoherent := by
  have hrow : ∃ batch ∈ (replay (Deployment.plain fun _ => "")
      (Store.oneSale 700 .available none) spoilThenVoid).batches.rows, batch.pk = 1 := by decide
  rcases hrow with ⟨batch, hbatch, hpk⟩
  have hcoherent := (coherent_partition (Deployment.plain fun _ => "")
    (Store.oneSale 700 .available none) spoilThenVoid (by decide)).1
  exact ⟨batch, hbatch, hpk, hcoherent batch hbatch⟩

end RosarioDairy
