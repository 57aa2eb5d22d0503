import RosarioDairy.Foundations.KeyedRuns
import RosarioDairy.Inventory.AdjustmentSubmission
import RosarioDairy.Outcomes
import RosarioDairy.Sales.Submission

/-!
# KeyedSubmissions — exactly-once sales and adjustments

`submit_sale` and `submit_stock_adjustment` as one keyed service over the shared store.  Both take
the advisory lock of their kind, user and key before they look the key up, and hold it until their
transaction ends; every other service call may run in between.
-/

namespace RosarioDairy

open Foundations

/-! ## The service -/

inductive SubmissionKind
  | sale
  | adjustment
  deriving DecidableEq, Repr

/-- What the advisory lock and the unique constraints identify a request by. -/
structure SubmissionKey where
  kind : SubmissionKind
  user : Nat
  requestId : Nat
  deriving DecidableEq, Repr

/-- What a repeated request must agree on: the digest of its payload and, for sales, the route. -/
structure SubmissionPrint where
  fingerprint : String
  endpoint : Option Endpoint
  deriving DecidableEq, Repr

inductive SubmissionResult
  | sale (result : SaleResult)
  | adjustment (response : AdjustmentResponse)
  deriving DecidableEq, Repr

/-- A keyed adjustment request that names a batch; without one it fails before it opens its
transaction. -/
structure KeyedAdjustment where
  request : AdjustmentRequest
  batch : Nat
  named : request.productBatch = some batch

/-- A request with its key. -/
inductive Submission
  | sale (key : Nat) (request : SaleRequest)
  | adjustment (key : Nat) (keyed : KeyedAdjustment)

/-- The two digests the fingerprints are made with. -/
structure SubmissionDigests where
  sale : SalePayload → String
  adjustment : AdjustmentPayload → String

namespace Submission

def key : Submission → SubmissionKey
  | .sale key request =>
      { kind := .sale
        user := request.user.pk
        requestId := key }
  | .adjustment key keyed =>
      { kind := .adjustment
        user := keyed.request.adjustedBy.pk
        requestId := key }

def print (digests : SubmissionDigests) : Submission → SubmissionPrint
  | .sale _ request =>
      { fingerprint := digests.sale request.payload
        endpoint := some request.target.endpoint }
  | .adjustment _ keyed =>
      { fingerprint := digests.adjustment (keyed.request.payload keyed.batch)
        endpoint := none }

/-- The work of a fresh request, with its submission row. -/
def work (table : CaseTable) (digests : SubmissionDigests) (clock : Clock) (s : Store) :
    Submission → Except Error (Store × SubmissionResult)
  | .sale key request => do
      let (s, result) ← performSale table clock request key (digests.sale request.payload) s
      return (s, .sale result)
  | .adjustment key keyed => do
      let (s, response) ← performAdjustment clock keyed.request key
        (digests.adjustment (keyed.request.payload keyed.batch)) s
      return (s, .adjustment response)

/-- The commit of a fresh request: the one sale or the one adjustment of the result, and the row that
records it. -/
def Commits (digests : SubmissionDigests) (clock : Clock) (s s' : Store) :
    Submission → SubmissionResult → Prop
  | .sale key request, .sale result => ∃ s₁, SoldOnce clock request s s₁ result ∧
      s' = { s₁ with
        saleSubmissions := s.saleSubmissions.create
          (newSaleSubmission request key (digests.sale request.payload) result) }
  | .adjustment key keyed, .adjustment response => ∃ s₁, AdjustedOnce keyed.request s s₁ response ∧
      s' = { s₁ with
        adjustmentSubmissions := s.adjustmentSubmissions.create
          (newAdjustmentSubmission keyed.request key
            (digests.adjustment (keyed.request.payload keyed.batch)) response) }
  | _, _ => False

end Submission

/-- The sale or the adjustment that a result is about. -/
def SubmissionResult.row : SubmissionResult → SubmissionKind × Nat
  | .sale result => (.sale, result.transaction)
  | .adjustment response => (.adjustment, response.adjustment.pk)

/-- The sales and the adjustments of a store. -/
def Store.saleAndAdjustmentRows (s : Store) : List (SubmissionKind × Nat) :=
  s.transactions.rows.map (fun sale => (.sale, sale.pk)) ++
    s.adjustments.rows.map (fun adjustment => (.adjustment, adjustment.pk))

theorem Store.mem_sale_rows {s : Store} {pk : Nat} :
    (.sale, pk) ∈ s.saleAndAdjustmentRows ↔ ∃ sale ∈ s.transactions.rows, sale.pk = pk := by
  simp [Store.saleAndAdjustmentRows]

theorem Store.mem_adjustment_rows {s : Store} {pk : Nat} :
    (.adjustment, pk) ∈ s.saleAndAdjustmentRows ↔ ∃ a ∈ s.adjustments.rows, a.pk = pk := by
  simp [Store.saleAndAdjustmentRows]

/-- The submission recorded under a key. -/
def recordedSubmission (s : Store) (k : SubmissionKey) :
    Option (SubmissionPrint × SubmissionResult) :=
  match k.kind with
  | .sale => (previousSale k.user k.requestId s).map (fun row =>
      ({ fingerprint := row.fingerprint, endpoint := some row.endpoint },
        .sale { transaction := row.transaction, order := row.order }))
  | .adjustment => (previousAdjustment k.user k.requestId s).map (fun row =>
      ({ fingerprint := row.fingerprint, endpoint := none }, .adjustment row.responseData))

theorem recordedSubmission_congr {s s' : Store} (hsales : s'.saleSubmissions = s.saleSubmissions)
    (hadjustments : s'.adjustmentSubmissions = s.adjustmentSubmissions) (k : SubmissionKey) :
    recordedSubmission s' k = recordedSubmission s k := by
  simp [recordedSubmission, previousSale, previousAdjustment, hsales, hadjustments]

/-- Service calls without a key leave the submissions alone. -/
theorem Outcome.submissions {clock : Clock} {op : Operation} {s s' : Store}
    (h : Outcome clock op s s') : s'.saleSubmissions = s.saleSubmissions ∧
      s'.adjustmentSubmissions = s.adjustmentSubmissions := by
  cases h with
  | unchanged => exact ⟨rfl, rfl⟩
  | received => exact ⟨rfl, rfl⟩
  | edited => exact ⟨rfl, rfl⟩
  | sold s' sale heffect => exact ⟨heffect.saleSubmissions, heffect.adjustmentSubmissions⟩
  | adjusted => exact ⟨rfl, rfl⟩
  | voided sale s₁ skipped voidedBy reason hfind hlocal hlive hitems =>
      rcases voidItems_store hitems with ⟨batches, returns, rfl⟩
      exact ⟨rfl, rfl⟩
  | paid => exact ⟨rfl, rfl⟩

theorem recordedSubmission_step (env : Deployment) (s : Store) (call : Call) (k : SubmissionKey) :
    recordedSubmission (step env s call) k = recordedSubmission s k := by
  unfold step
  cases hperform : perform env call.now call.op s with
  | error e => rfl
  | ok s' =>
      rcases (perform_outcome hperform).submissions with ⟨hsales, hadjustments⟩
      exact recordedSubmission_congr hsales hadjustments k

/-- A search that found nothing finds the row added to the end. -/
theorem find?_concat_new {α : Type} {p : α → Bool} {rows : List α} {row : α}
    (hnone : rows.find? p = none) (hrow : p row = true) : (rows ++ [row]).find? p = some row := by
  rw [List.find?_append, hnone]
  simp [hrow]

theorem previousSale_new {s s' : Store} {user key : Nat} {row : SaleSubmission}
    (hnone : previousSale user key s = none)
    (hrows : s'.saleSubmissions.rows = s.saleSubmissions.rows ++ [row])
    (huser : row.user = user) (hkey : row.requestId = key) :
    previousSale user key s' = some row := by
  unfold previousSale
  rw [hrows]
  exact find?_concat_new hnone (by simp [huser, hkey])

theorem previousAdjustment_new {s s' : Store} {user key : Nat} {row : StockAdjustmentSubmission}
    (hnone : previousAdjustment user key s = none)
    (hrows : s'.adjustmentSubmissions.rows = s.adjustmentSubmissions.rows ++ [row])
    (huser : row.user = user) (hkey : row.requestId = key) :
    previousAdjustment user key s' = some row := by
  unfold previousAdjustment
  rw [hrows]
  exact find?_concat_new hnone (by simp [huser, hkey])

section Work

variable {table : CaseTable} {digests : SubmissionDigests} {clock : Clock} {s s' : Store}
  {submission : Submission} {result : SubmissionResult}

/-- Work that succeeds has found its key free and commits one sale or one adjustment. -/
theorem work_commits (h : submission.work table digests clock s = .ok (s', result)) :
    recordedSubmission s submission.key = none ∧ submission.Commits digests clock s s' result := by
  cases submission with
  | sale key request =>
      rcases bind_eq_ok.1 h with ⟨⟨s₁, sale⟩, hperform, h⟩
      rcases pure_pair_eq_ok.1 h with ⟨rfl, rfl⟩
      rcases performSale_ok hperform with ⟨s₂, hsold, hfresh, hs₁⟩
      have hnone : previousSale request.user.pk key s = none := by
        refine List.find?_eq_none.2 ?_
        intro row hrow
        simpa using hfresh row hrow
      exact ⟨by simp [recordedSubmission, Submission.key, hnone], s₂, hsold, hs₁⟩
  | adjustment key keyed =>
      rcases bind_eq_ok.1 h with ⟨⟨s₁, response⟩, hperform, h⟩
      rcases pure_pair_eq_ok.1 h with ⟨rfl, rfl⟩
      rcases performAdjustment_ok hperform with ⟨s₂, hadjusted, hfresh, hs₁⟩
      have hnone : previousAdjustment keyed.request.adjustedBy.pk key s = none := by
        refine List.find?_eq_none.2 ?_
        intro row hrow
        simpa using hfresh row hrow
      exact ⟨by simp [recordedSubmission, Submission.key, hnone], s₂, hadjusted, hs₁⟩

/-- Work records its request under its key and under no other. -/
theorem work_records (h : submission.work table digests clock s = .ok (s', result)) :
    recordedSubmission s' submission.key = some (submission.print digests, result) ∧
      ∀ k, k ≠ submission.key → recordedSubmission s' k = recordedSubmission s k := by
  -- the key was free, or the work would have failed
  rcases work_commits h with ⟨hnone, hcommits⟩
  cases submission with
  | sale key request =>
      cases result with
      | adjustment response => exact hcommits.elim
      | sale sale =>
          rcases hcommits with ⟨s₁, hsold, rfl⟩
          rcases hsold.sale with ⟨_, heffect, _⟩
          have hadjustments := heffect.adjustmentSubmissions
          -- the new row is the first one under its key
          have hprevious : previousSale request.user.pk key s = none := by
            simpa [recordedSubmission, Submission.key] using hnone
          refine ⟨?_, ?_⟩
          · have hnew : previousSale request.user.pk key { s₁ with
                saleSubmissions := s.saleSubmissions.create
                  (newSaleSubmission request key (digests.sale request.payload) sale) } = some _ :=
              previousSale_new hprevious rfl rfl rfl
            simp only [recordedSubmission, Submission.key, hnew]
            rfl
          · rintro ⟨kind, user, requestId⟩ hne
            cases kind with
            | sale =>
                -- another key keeps its row, and the other table is untouched
                have hother : ¬ (request.user.pk = user ∧ key = requestId) := by
                  rintro ⟨rfl, rfl⟩
                  exact hne rfl
                simp [recordedSubmission, previousSale, newSaleSubmission, List.find?_append,
                  hother]
            | adjustment => simp [recordedSubmission, previousAdjustment, hadjustments]
  | adjustment key keyed =>
      cases result with
      | sale sale => exact hcommits.elim
      | adjustment response =>
          rcases hcommits with ⟨s₁, hadjusted, rfl⟩
          -- an adjustment writes no sale submission
          have hsales : s₁.saleSubmissions = s.saleSubmissions := by
            rcases hadjusted.stock with ⟨batch, _, hs₁⟩
            rw [hs₁]
          have hprevious : previousAdjustment keyed.request.adjustedBy.pk key s = none := by
            simpa [recordedSubmission, Submission.key] using hnone
          refine ⟨?_, ?_⟩
          · have hnew : previousAdjustment keyed.request.adjustedBy.pk key { s₁ with
                adjustmentSubmissions := s.adjustmentSubmissions.create
                  (newAdjustmentSubmission keyed.request key
                    (digests.adjustment (keyed.request.payload keyed.batch)) response) } = some _ :=
              previousAdjustment_new hprevious rfl rfl rfl
            simp only [recordedSubmission, Submission.key, hnew]
            rfl
          · rintro ⟨kind, user, requestId⟩ hne
            cases kind with
            | sale => simp [recordedSubmission, previousSale, hsales]
            | adjustment =>
                have hother : ¬ (keyed.request.adjustedBy.pk = user ∧ key = requestId) := by
                  rintro ⟨rfl, rfl⟩
                  exact hne rfl
                simp [recordedSubmission, previousAdjustment, newAdjustmentSubmission,
                  List.find?_append, hother]

/-- The one row that a commit adds to the sales or the adjustments is that of its result. -/
theorem Submission.Commits.rows (h : submission.Commits digests clock s s' result) :
    result.row ∉ s.saleAndAdjustmentRows ∧ result.row ∈ s'.saleAndAdjustmentRows ∧
      s.saleAndAdjustmentRows ⊆ s'.saleAndAdjustmentRows := by
  cases submission with
  | sale key request =>
      cases result with
      | adjustment response => exact h.elim
      | sale result =>
          rcases h with ⟨s₁, hsold, rfl⟩
          rcases hsold.sale with ⟨sale, heffect, hpk, _⟩
          have hadjustments := heffect.adjustments
          have hsales := heffect.transactions
          refine ⟨?_, ?_, ?_⟩
          · -- the sale is numbered after every sale there is
            intro hmem
            rcases Store.mem_sale_rows.1 hmem with ⟨row, hrow, hrowpk⟩
            have hlt : row.pk < s.transactions.next := s.transactions.below row hrow
            have hnext := heffect.pk
            omega
          · simp [Store.saleAndAdjustmentRows, SubmissionResult.row, hsales, ← hpk]
          · simp [Store.saleAndAdjustmentRows, hsales, hadjustments]
  | adjustment key keyed =>
      cases result with
      | sale result => exact h.elim
      | adjustment response =>
          rcases h with ⟨s₁, hadjusted, rfl⟩
          have hadjustments := hadjusted.adjustments
          have hsales : s₁.transactions = s.transactions := by
            rcases hadjusted.stock with ⟨batch, _, hs₁⟩
            rw [hs₁]
          refine ⟨?_, ?_, ?_⟩
          · intro hmem
            rcases Store.mem_adjustment_rows.1 hmem with ⟨row, hrow, hrowpk⟩
            have hlt : row.pk < s.adjustments.next := s.adjustments.below row hrow
            have hnext := hadjusted.pk
            omega
          · simp [Store.saleAndAdjustmentRows, SubmissionResult.row, hadjustments]
          · simp [Store.saleAndAdjustmentRows, hsales, hadjustments]

end Work

/-- No service call takes a sale or an adjustment away. -/
theorem Outcome.rows_kept {clock : Clock} {op : Operation} {s s' : Store}
    (h : Outcome clock op s s') : s.saleAndAdjustmentRows ⊆ s'.saleAndAdjustmentRows := by
  -- a sale that is voided or paid is written again under its own number
  have hput : ∀ (saved : Transaction) {sale : Transaction} {s' : Store},
      s.transactions.find saved.pk = some sale → s'.adjustments = s.adjustments →
      s'.transactions = s.transactions.put saved →
      s.saleAndAdjustmentRows ⊆ s'.saleAndAdjustmentRows := by
    intro saved sale s' hfind hadjustments hsales
    have hpk : sale.pk = saved.pk := (Table.find_eq_some.1 hfind).2
    have hsame : (s.transactions.put saved).rows.map (fun sale => (SubmissionKind.sale, sale.pk)) =
        s.transactions.rows.map (fun sale => (SubmissionKind.sale, sale.pk)) :=
      s.transactions.map_rows_put saved hfind (by rw [hpk])
    simp [Store.saleAndAdjustmentRows, hadjustments, hsales, hsame]
  cases h with
  | unchanged => exact List.Subset.refl _
  | received => exact List.Subset.refl _
  | edited => exact List.Subset.refl _
  | sold s' sale heffect =>
      simp [Store.saleAndAdjustmentRows, heffect.transactions, heffect.adjustments]
  | adjusted => simp [Store.saleAndAdjustmentRows]
  | voided sale s₁ skipped voidedBy reason hfind hlocal hlive hitems =>
      rcases voidItems_store hitems with ⟨batches, returns, rfl⟩
      exact hput (voidedTransaction clock voidedBy reason sale) hfind rfl rfl
  | paid sale user method status tendered values hfind =>
      exact hput (paidTransaction clock user sale values) hfind rfl rfl

theorem rows_kept_step (env : Deployment) (s : Store) (call : Call) :
    s.saleAndAdjustmentRows ⊆ (step env s call).saleAndAdjustmentRows := by
  unfold step
  cases hperform : perform env call.now call.op s with
  | error e => exact List.Subset.refl _
  | ok s' => exact (perform_outcome hperform).rows_kept

/-- Keyed submissions as a keyed service; `lockHash` is the advisory lock a key is hashed to. -/
def submissions (env : Deployment) (digests : SubmissionDigests)
    (lockHash : SubmissionKey → Int) :
    KeyedService Store Submission SubmissionKey SubmissionPrint SubmissionResult Error Call Int :=
  { key := Submission.key
    print := Submission.print digests
    lockOf := lockHash
    recorded := recordedSubmission
    work := fun now submission s =>
      submission.work env.table digests { zone := env.zone, now := now } s
    background := fun call s => step env s call
    locking := true
    early := false
    retried := fun _ => false
    work_unrecorded := fun h => (work_commits h).1
    recorded_work := work_records
    recorded_background := fun call s k => recordedSubmission_step env s call k }

/-! ## One request at a time -/

namespace Submission

/-- The message a submission is rejected with when its key belongs to another. -/
def conflictText : Submission → String
  | .sale _ _ => "This request ID was already used for a different sale. Use a new request ID."
  | .adjustment _ _ => "This request ID was already used for a different stock adjustment."

/-- What the caller of a submission gets for a reply, and whether the result was created. -/
def respond (submission : Submission) (s : Store) :
    Reply SubmissionResult Error → Except Error (Store × SubmissionResult × Bool)
  | .created result => .ok (s, result, true)
  | .replayed result => .ok (s, result, false)
  | .conflict => .error (.submissionConflict submission.conflictText)
  | .raised e => .error e

/-- `submit_sale` or `submit_stock_adjustment` run without concurrent calls. -/
def submit (table : CaseTable) (digests : SubmissionDigests) (clock : Clock) (s : Store) :
    Submission → Except Error (Store × SubmissionResult × Bool)
  | .sale key request => do
      let (s, result, created) ← submitSale table digests.sale clock (some key) request s
      return (s, .sale result, created)
  | .adjustment key keyed => do
      let (s, response, created) ←
        submitStockAdjustment digests.adjustment clock (some key) keyed.request s
      return (s, .adjustment response, created)

end Submission

/-- A submission served alone is the service function run alone. -/
theorem serve_submit (env : Deployment) (digests : SubmissionDigests)
    (lockHash : SubmissionKey → Int) (now : Int) (s : Store) (submission : Submission) :
    submission.respond ((submissions env digests lockHash).serve now submission s).1
        ((submissions env digests lockHash).serve now submission s).2 =
      submission.submit env.table digests { zone := env.zone, now := now } s := by
  cases submission with
  | sale key request =>
      -- the key is free: both do the work and answer its result
      cases hprevious : previousSale request.user.pk key s with
      | none =>
          simp only [submissions, KeyedService.serve, recordedSubmission, Submission.key,
            Submission.submit, submitSale, Submission.work, hprevious, Option.map_none]
          cases performSale env.table { zone := env.zone, now := now } request key
              (digests.sale request.payload) s with
          | ok done => rfl
          | error e => rfl
      | some row =>
          simp only [submissions, KeyedService.serve, recordedSubmission, Submission.key,
            Submission.submit, submitSale, Submission.print, KeyedService.answer, replaySale,
            hprevious, Option.map_some]
          -- a row is there: both compare the fingerprint, a sale its endpoint as well
          by_cases hfingerprint : row.fingerprint = digests.sale request.payload
          · by_cases hendpoint : row.endpoint = request.target.endpoint
            · simp [hfingerprint, hendpoint, Submission.respond]
            · simp [hfingerprint, hendpoint, Submission.respond, Submission.conflictText]
          · simp [hfingerprint, Submission.respond, Submission.conflictText]
  | adjustment key keyed =>
      cases hprevious : previousAdjustment keyed.request.adjustedBy.pk key s with
      | none =>
          simp only [submissions, KeyedService.serve, recordedSubmission, Submission.key,
            Submission.submit, submitStockAdjustment, Submission.work, keyed.named,
            demand, ok_bind, hprevious, Option.map_none]
          cases performAdjustment { zone := env.zone, now := now } keyed.request key
              (digests.adjustment (keyed.request.payload keyed.batch)) s with
          | ok done => rfl
          | error e => rfl
      | some row =>
          simp only [submissions, KeyedService.serve, recordedSubmission, Submission.key,
            Submission.submit, submitStockAdjustment, Submission.print, KeyedService.answer,
            replayAdjustment, keyed.named, demand, ok_bind, hprevious, Option.map_some]
          by_cases hfingerprint :
              row.fingerprint = digests.adjustment (keyed.request.payload keyed.batch)
          · simp [hfingerprint, Submission.respond]
          · simp [hfingerprint, Submission.respond, Submission.conflictText]

/-! ## Runs -/

section Runs

variable (env : Deployment) (digests : SubmissionDigests) (lockHash : SubmissionKey → Int)

/-- An action of a call commits nothing, or it completes the call: the one sale or adjustment of its
result and the row that records it. -/
theorem step_commits {S : Serving Store Submission SubmissionResult Error Int}
    {a : CallAction Submission Error Call} {p : Nat} (ha : a.caller = some p) :
    (((submissions env digests lockHash).step S a).store = S.store ∧
        ((submissions env digests lockHash).step S a).log = S.log) ∨
      ∃ now r result, S.calls p = some (r, .fresh) ∧
        ((submissions env digests lockHash).step S a).calls p =
          some (r, .finished (.created result)) ∧
        ((submissions env digests lockHash).step S a).log =
          S.log ++ [{ caller := p, request := r, result := result }] ∧
        r.Commits digests { zone := env.zone, now := now } S.store
          ((submissions env digests lockHash).step S a).store result := by
  have hmove := KeyedService.step_move (K := submissions env digests lockHash) S ha
  rcases hmove.store_cases with ⟨hstore, hlog, _⟩ | ⟨now, r, result, hfresh, hwork, hdone, hlog⟩
  · exact .inl ⟨hstore, hlog⟩
  · exact .inr ⟨now, r, result, hfresh, hdone, hlog, (work_commits hwork).2⟩

/-- Every completed request has a sale or an adjustment of its own. -/
structure RowsApart (s₀ : Store) (S : Serving Store Submission SubmissionResult Error Int) :
    Prop where
  kept : s₀.saleAndAdjustmentRows ⊆ S.store.saleAndAdjustmentRows
  stored : ∀ c ∈ S.log, c.result.row ∉ s₀.saleAndAdjustmentRows ∧
    c.result.row ∈ S.store.saleAndAdjustmentRows
  distinct : (S.log.map (fun c => c.result.row)).Nodup

variable {env digests lockHash} in
theorem RowsApart.step {s₀ : Store} {S : Serving Store Submission SubmissionResult Error Int}
    (hS : RowsApart s₀ S) (a : CallAction Submission Error Call) :
    RowsApart s₀ ((submissions env digests lockHash).step S a) := by
  cases hcaller : a.caller with
  | none =>
      -- another writer makes no keyed row, and leaves those there are
      cases a with
      | other call =>
          have hkept := rows_kept_step env S.store call
          exact
            { kept := fun _ hrow => hkept (hS.kept hrow)
              stored := fun c hc => ⟨(hS.stored c hc).1, hkept (hS.stored c hc).2⟩
              distinct := hS.distinct }
      | _ => cases hcaller
  | some p =>
      rcases step_commits env digests lockHash hcaller (S := S) with
        ⟨hstore, hlog⟩ | ⟨now, r, result, _, _, hlog, hcommits⟩
      · refine
          { kept := ?_
            stored := ?_
            distinct := ?_ }
        · rw [hstore]
          exact hS.kept
        · rw [hstore, hlog]
          exact hS.stored
        · rw [hlog]
          exact hS.distinct
      · -- the new row is in the store only now, so it is none of the earlier ones
        rcases hcommits.rows with ⟨hnew, hmade, hkept⟩
        refine
          { kept := fun _ hrow => hkept (hS.kept hrow)
            stored := ?_
            distinct := ?_ }
        · rw [hlog]
          intro c hc
          rcases List.mem_append.1 hc with hold | hlast
          · exact ⟨(hS.stored c hold).1, hkept (hS.stored c hold).2⟩
          · rw [List.mem_singleton.1 hlast]
            exact ⟨fun hrow => hnew (hS.kept hrow), hmade⟩
        · rw [hlog, List.map_append, List.nodup_append]
          refine ⟨hS.distinct, by simp, ?_⟩
          intro row hrow row' hrow' hEq
          rcases List.mem_map.1 hrow with ⟨c, hc, rfl⟩
          have hresult : row' = result.row := by simpa using hrow'
          rw [← hEq] at hresult
          exact hnew (hresult ▸ (hS.stored c hc).2)

theorem run_rowsApart (s₀ : Store) (actions : List (CallAction Submission Error Call)) :
    RowsApart s₀ ((submissions env digests lockHash).run (Serving.init s₀) actions) :=
  runAll_preserves (fun _ a hS => hS.step a) actions
    { kept := List.Subset.refl _
      stored := by simp [Serving.init]
      distinct := by simp [Serving.init] }

/-- What a keyed submission can rely on in a state reached from the store `s₀`. -/
structure SubmittedOnce (s₀ : Store)
    (S : Serving Store Submission SubmissionResult Error Int) : Prop where
  /-- No key is completed by work more than once. -/
  once : (S.log.map (fun c => c.request.key)).Nodup
  /-- The completed keys are the newly recorded ones, each with its own result. -/
  logged : ∀ c ∈ S.log, recordedSubmission s₀ c.request.key = none ∧
    recordedSubmission S.store c.request.key = some (c.request.print digests, c.result)
  /-- A call returns a created result exactly when its own work is the one that committed. -/
  created : ∀ p r result, S.calls p = some (r, .finished (.created result)) ↔
    { caller := p, request := r, result := result } ∈ S.log
  /-- A call whose key is recorded does no work and changes nothing, and its look-up under the lock
  returns the recorded result or rejects it, by fingerprint and route. -/
  repeated : ∀ p r phase found, S.calls p = some (r, phase) →
    recordedSubmission S.store r.key = some found →
      phase ≠ .fresh ∧
      (∀ a, a.caller = some p →
        ((submissions env digests lockHash).step S a).store = S.store) ∧
      (phase = .entered → ((submissions env digests lockHash).step S (.look p)).calls p =
        some (r, .finished
          (if found.1 = r.print digests then .replayed found.2 else .conflict))) ∧
      (∀ reply, phase = .finished reply →
        (reply = .created found.2 ∧ found.1 = r.print digests) ∨
        reply = (if found.1 = r.print digests then .replayed found.2 else .conflict) ∨
        ∃ e, reply = .raised e)
  /-- The action that completes a call by work commits one sale or one adjustment, the one of its
  result, and every other action of a call leaves the store alone. -/
  committed : ∀ a p, a.caller = some p →
    ((submissions env digests lockHash).step S a).store = S.store ∨
    ∃ now r result, ((submissions env digests lockHash).step S a).calls p =
        some (r, .finished (.created result)) ∧
      r.Commits digests { zone := env.zone, now := now } S.store
        ((submissions env digests lockHash).step S a).store result
  /-- Every completed request has a sale or an adjustment of its own, made since the start. -/
  stored : ∀ c ∈ S.log, c.result.row ∉ s₀.saleAndAdjustmentRows ∧
    c.result.row ∈ S.store.saleAndAdjustmentRows
  distinct : (S.log.map (fun c => c.result.row)).Nodup
  /-- Only the action that completes a call by work changes the store. -/
  untouched : ∀ a p, a.caller = some p →
    (∀ r result, ((submissions env digests lockHash).step S a).calls p ≠
      some (r, .finished (.created result))) →
    ((submissions env digests lockHash).step S a).store = S.store
  /-- A finished call, failed or not, holds no lock. -/
  released : ∀ p r reply, S.calls p = some (r, .finished reply) → ∀ l, S.holder l ≠ some p
  /-- A new call whose lock is free returns, when it runs on alone, what the service function
  returns. -/
  usable : ∀ p r now, S.calls p = none → S.holder (lockHash r.key) = none →
    ∃ reply, ((submissions env digests lockHash).run S (KeyedService.alone p r now)).calls p =
        some (r, .finished reply) ∧
      r.respond ((submissions env digests lockHash).run S (KeyedService.alone p r now)).store reply =
        r.submit env.table digests { zone := env.zone, now := now } S.store

theorem submittedOnce {s₀ : Store} {S : Serving Store Submission SubmissionResult Error Int}
    (hS : (submissions env digests lockHash).Sound s₀ S) (hrows : RowsApart s₀ S) :
    SubmittedOnce env digests lockHash s₀ S := by
  refine
    { once := hS.records.once
      logged := hS.records.logged
      created := hS.replies.created
      repeated := ?_
      committed := ?_
      stored := hrows.stored
      distinct := hrows.distinct
      untouched := fun a p ha hnot => KeyedService.step_store ha hnot
      released := fun p r reply hcall l => hS.unlocked rfl hcall ⟨nofun, nofun⟩ l
      usable := ?_ }
  · intro p r phase found hcall hfound
    refine ⟨hS.not_fresh rfl hcall hfound, ?_, ?_, ?_⟩
    · intro a ha
      exact KeyedService.recorded_step_store hcall hfound ha
    · rintro rfl
      exact KeyedService.look_recorded hcall hfound
    · rintro reply rfl
      exact hS.reply_cases hcall hfound
  · intro a p ha
    rcases step_commits env digests lockHash ha (S := S) with
      ⟨hstore, _⟩ | ⟨now, r, result, _, hdone, _, hcommits⟩
    · exact .inl hstore
    · exact .inr ⟨now, r, result, hdone, hcommits⟩
  · intro p r now hnew hfree
    rcases KeyedService.run_alone (K := submissions env digests lockHash) now hnew hfree with
      ⟨hstore, hcall⟩
    refine ⟨_, hcall, ?_⟩
    rw [hstore]
    exact serve_submit env digests lockHash now S.store r

/-- Keyed submissions take effect at most once.  Whatever the phases of any number of calls and the
other writers do, in any order and with failures anywhere, every state reached is as
`SubmittedOnce` says, and a key once recorded keeps its fingerprint and its result for good. -/
theorem keyed_submission_once (s₀ : Store) (actions : List (CallAction Submission Error Call)) :
    SubmittedOnce env digests lockHash s₀
        ((submissions env digests lockHash).run (Serving.init s₀) actions) ∧
      ∀ key found,
        recordedSubmission
            ((submissions env digests lockHash).run (Serving.init s₀) actions).store key =
          some found →
        ∀ later, recordedSubmission
            ((submissions env digests lockHash).run (Serving.init s₀) (actions ++ later)).store
            key = some found := by
  refine ⟨submittedOnce env digests lockHash (KeyedService.run_sound s₀ actions)
    (run_rowsApart env digests lockHash s₀ actions), ?_⟩
  intro key found hfound later
  rw [KeyedService.run_append]
  exact KeyedService.run_recorded (K := submissions env digests lockHash) later hfound

end Runs

end RosarioDairy
