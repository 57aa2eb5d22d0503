import RosarioDairy.KeyedSubmissions

/-!
# KeyedEncodings — exactly-once encoded sales

`encode_transaction` as a keyed service.  The request id is one key for all users and is looked up
three times: before the transaction, under the advisory lock where the database has one, and after
an integrity error has rolled the transaction back.  It is written last, under its unique
constraint.
-/

namespace RosarioDairy

open Foundations

/-! ## Encoding columns -/

/-- The columns of a transaction a request id is answered from. -/
structure EncodingRow where
  requestId : Option Nat
  handledBy : Nat
  payloadHash : String
  transaction : Nat
  deriving DecidableEq, Repr

def Transaction.encoding (txn : Transaction) : EncodingRow :=
  { requestId := txn.encodingRequestId
    handledBy := txn.handledBy
    payloadHash := txn.encodingPayloadHash
    transaction := txn.pk }

def Store.encodings (s : Store) : List EncodingRow :=
  s.transactions.rows.map Transaction.encoding

/-- The user, the fingerprint and the transaction recorded under a request id. -/
def recordedEncoding (s : Store) (requestId : Nat) : Option ((Nat × String) × Nat) :=
  (findEncoded requestId s).map (fun txn => ((txn.handledBy, txn.encodingPayloadHash), txn.pk))

theorem recordedEncoding_eq (s : Store) (requestId : Nat) :
    recordedEncoding s requestId =
      (s.encodings.find? (fun row => row.requestId = some requestId)).map
        (fun row => ((row.handledBy, row.payloadHash), row.transaction)) := by
  unfold Store.encodings
  rw [List.find?_map, Option.map_map]
  rfl

/-- The request ids in use. -/
def Store.encodingIds (s : Store) : List Nat := s.encodings.filterMap EncodingRow.requestId

theorem recordedEncoding_eq_none {s : Store} {requestId : Nat} :
    recordedEncoding s requestId = none ↔ requestId ∉ s.encodingIds := by
  simp [recordedEncoding_eq, Store.encodingIds]

/-- Rows without a request id are added without consequence. -/
theorem recordedEncoding_append {s s' : Store} {new : List EncodingRow}
    (h : s'.encodings = s.encodings ++ new) (hnew : ∀ row ∈ new, row.requestId = none)
    (requestId : Nat) : recordedEncoding s' requestId = recordedEncoding s requestId := by
  have hnone : new.find? (fun row => row.requestId = some requestId) = none := by
    refine List.find?_eq_none.2 ?_
    intro row hrow
    simp [hnew row hrow]
  rw [recordedEncoding_eq, recordedEncoding_eq, h, List.find?_append, hnone, Option.or_none]

/-- A sale adds its own row. -/
theorem SaleEffect.encodings {clock : Clock} {s s' : Store} {sale : Transaction}
    (h : SaleEffect clock s s' sale) : s'.encodings = s.encodings ++ [sale.encoding] := by
  simp [Store.encodings, h.transactions]

/-- Service calls that do not encode add rows without a request id at most. -/
theorem Outcome.encodings {clock : Clock} {op : Operation} {s s' : Store}
    (hop : op.encodes = false) (h : Outcome clock op s s') :
    ∃ new, s'.encodings = s.encodings ++ new ∧ ∀ row ∈ new, row.requestId = none := by
  cases h with
  | unchanged => exact ⟨[], by simp, by simp⟩
  | received => exact ⟨[], by simp [Store.encodings], by simp⟩
  | edited => exact ⟨[], by simp [Store.encodings], by simp⟩
  | sold s' sale heffect hmovement hencoding =>
      refine ⟨[sale.encoding], heffect.encodings, ?_⟩
      simp [Transaction.encoding, hencoding hop]
  | adjusted => exact ⟨[], by simp [Store.encodings], by simp⟩
  | voided sale s₁ skipped voidedBy reason hfind =>
      refine ⟨[], ?_, by simp⟩
      rw [List.append_nil]
      exact s.transactions.map_rows_put
        (voidedTransaction clock voidedBy reason sale) hfind rfl
  | paid sale user method status tendered values hfind =>
      refine ⟨[], ?_, by simp⟩
      rw [List.append_nil]
      exact s.transactions.map_rows_put (paidTransaction clock user sale values) hfind rfl

/-! ## The service -/

/-- An encoding request that has passed the checks before its first look-up, with the fingerprint
they computed. -/
structure EncodeCall (digest : EncodingPayload → String) where
  args : EncodeArgs
  requestId : Nat
  fingerprint : String
  checked : ∃ clock, checkEncoding digest clock args = .ok (requestId, fingerprint)

/-- A writer that encodes nothing. -/
inductive OtherWriter
  | unkeyed (call : Call) (hop : call.op.encodes = false)
  | keyed (now : Int) (submission : Submission)

/-- What another writer makes of the store. -/
def OtherWriter.apply (env : Deployment) (digests : SubmissionDigests) (s : Store) :
    OtherWriter → Store
  | .unkeyed call _ => step env s call
  | .keyed now submission =>
      settle s ((submission.work env.table digests { zone := env.zone, now := now } s).map Prod.fst)

theorem work_encodings {table : CaseTable} {digests : SubmissionDigests} {clock : Clock}
    {s s' : Store} {submission : Submission} {result : SubmissionResult}
    (h : submission.work table digests clock s = .ok (s', result)) :
    ∃ new, s'.encodings = s.encodings ++ new ∧ ∀ row ∈ new, row.requestId = none := by
  cases submission with
  | sale key request =>
      rcases bind_eq_ok.1 h with ⟨⟨s₁, sale⟩, hperform, h⟩
      rcases pure_pair_eq_ok.1 h with ⟨rfl, _⟩
      rcases performSale_ok hperform with ⟨s₂, hsold, _, rfl⟩
      rcases hsold.sale with ⟨made, heffect, _, _, hencoding⟩
      exact ⟨[made.encoding], heffect.encodings, by simp [Transaction.encoding, hencoding]⟩
  | adjustment key keyed =>
      rcases bind_eq_ok.1 h with ⟨⟨s₁, response⟩, hperform, h⟩
      rcases pure_pair_eq_ok.1 h with ⟨rfl, _⟩
      rcases performAdjustment_ok hperform with ⟨s₂, hadjusted, _, rfl⟩
      rcases hadjusted.stock with ⟨_, _, hs₂⟩
      have hsales : s₂.transactions = s.transactions := by
        rw [hs₂]
      exact ⟨[], by simp [Store.encodings, hsales], by simp⟩

/-- Other writers add rows without a request id at most. -/
theorem OtherWriter.encodings (env : Deployment) (digests : SubmissionDigests) (s : Store)
    (writer : OtherWriter) : ∃ new, (writer.apply env digests s).encodings = s.encodings ++ new ∧
      ∀ row ∈ new, row.requestId = none := by
  cases writer with
  | unkeyed call hop =>
      simp only [OtherWriter.apply, step]
      cases hperform : perform env call.now call.op s with
      | error e => exact ⟨[], by simp, by simp⟩
      | ok s' => exact (perform_outcome hperform).encodings hop
  | keyed now submission =>
      simp only [OtherWriter.apply]
      cases hwork : submission.work env.table digests { zone := env.zone, now := now } s with
      | error e => exact ⟨[], by simp [Except.map], by simp⟩
      | ok done => exact work_encodings hwork

/-- Writing an encoded sale takes a fresh request id and records it. -/
theorem writeEncoded_encodings {table : CaseTable} {clock : Clock} {args : EncodeArgs}
    {requestId : Nat} {fingerprint : String} {s s' : Store} {txn : Nat}
    (h : writeEncoded table clock args requestId fingerprint s = .ok (s', txn)) :
    requestId ∉ s.encodingIds ∧
      s'.encodings = s.encodings ++ [{ requestId := some requestId
                                       handledBy := args.handledBy.pk
                                       payloadHash := fingerprint
                                       transaction := txn }] := by
  rcases writeEncoded_effect h with ⟨sale, rfl, hhandled, hfresh, heffect⟩
  refine ⟨?_, ?_⟩
  · simpa [Store.encodingIds, Store.encodings, Transaction.encoding] using hfresh
  · rw [heffect.encodings, ← hhandled]
    rfl

theorem writeEncoded_unrecorded {table : CaseTable} {clock : Clock} {args : EncodeArgs}
    {requestId : Nat} {fingerprint : String} {s s' : Store} {txn : Nat}
    (h : writeEncoded table clock args requestId fingerprint s = .ok (s', txn)) :
    recordedEncoding s requestId = none :=
  recordedEncoding_eq_none.2 (writeEncoded_encodings h).1

theorem writeEncoded_records {table : CaseTable} {clock : Clock} {args : EncodeArgs}
    {requestId : Nat} {fingerprint : String} {s s' : Store} {txn : Nat}
    (h : writeEncoded table clock args requestId fingerprint s = .ok (s', txn)) :
    recordedEncoding s' requestId = some ((args.handledBy.pk, fingerprint), txn) ∧
      ∀ k, k ≠ requestId → recordedEncoding s' k = recordedEncoding s k := by
  have hnone := writeEncoded_unrecorded h
  rcases writeEncoded_encodings h with ⟨_, hencodings⟩
  rw [recordedEncoding_eq, Option.map_eq_none_iff] at hnone
  refine ⟨?_, ?_⟩
  · rw [recordedEncoding_eq, hencodings, find?_concat_new hnone (by simp)]
    rfl
  · intro k hk
    have hother : ¬ requestId = k := fun hEq => hk hEq.symm
    simp [recordedEncoding_eq, hencodings, List.find?_append, hother]

/-- Errors `encode_transaction` catches. -/
def Error.isIntegrity : Error → Bool
  | .integrityError _ => true
  | _ => false

/-- Encoding requests as a keyed service; `locking` tells whether the database has advisory
locks. -/
def encodings (env : Deployment) (digests : SubmissionDigests) (locking : Bool)
    (lockHash : Nat → Int) :
    KeyedService Store (EncodeCall env.digest) Nat (Nat × String) Nat Error OtherWriter Int :=
  { key := EncodeCall.requestId
    print := fun call => (call.args.handledBy.pk, call.fingerprint)
    lockOf := lockHash
    recorded := recordedEncoding
    work := fun now call s =>
      writeEncoded env.table { zone := env.zone, now := now } call.args call.requestId
        call.fingerprint s
    background := fun writer s => writer.apply env digests s
    locking := locking
    early := true
    retried := Error.isIntegrity
    work_unrecorded := writeEncoded_unrecorded
    recorded_work := writeEncoded_records
    recorded_background := fun writer s k => by
      rcases writer.encodings env digests s with ⟨new, hencodings, hnew⟩
      exact recordedEncoding_append hencodings hnew k }

/-! ## One request at a time -/

section Requests

variable (env : Deployment) (digests : SubmissionDigests) (locking : Bool) (lockHash : Nat → Int)

end Requests

/-! ## Runs -/

section Runs

variable (env : Deployment) (digests : SubmissionDigests) (locking : Bool) (lockHash : Nat → Int)

end Runs

/-! ## A foreign integrity error -/

end RosarioDairy
