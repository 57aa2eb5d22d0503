import RosarioDairy.Foundations.AtomicBlocks

/-!
# BusinessWrites — data changes and their invalidation markers

`connect_invalidation_signals` sends every save and deletion of a business model through
`_business_write`, which creates a `CacheInvalidation` marker.  A deletion runs in a transaction of
its own, the signal included; a save outside every atomic block commits its row before it sends the
signal.  So the change and its marker are committed together, whatever fails, exactly as long as
every marked save is issued inside an atomic block; which views keep to that, `views_guarded` says.
-/

namespace RosarioDairy

open Foundations

/-! ## Signals -/

/-- The labels of a model. -/
structure ModelMeta where
  appLabel : String
  modelName : String
  deriving DecidableEq, Repr

def ModelMeta.labelLower (model : ModelMeta) : String := model.appLabel ++ "." ++ model.modelName

/-- `settings.AUTH_USER_MODEL.lower()`. -/
def authUserModel : String := "accounts.users"

/-- The models `connect_invalidation_signals` connects. -/
def ModelMeta.isConnected (model : ModelMeta) : Bool :=
  model.appLabel ∈ ["inventory", "sales", "forecasting"] ∨
    model.labelLower ∈
      [authUserModel, "systemsetting.systemsettings", "systemsetting.notificationsettings"]

inductive WriteKind
  | save (updateFields : Option (List String))
  | delete
  deriving DecidableEq, Repr

/-- The save or the deletion of one model instance. -/
structure InstanceWrite where
  pk : Nat
  model : ModelMeta
  kind : WriteKind
  deriving DecidableEq, Repr

/-- The saves of users `_business_write` ignores; `post_delete` names no fields. -/
def InstanceWrite.isIgnored (write : InstanceWrite) : Bool :=
  match write.kind with
  | .delete => false
  | .save none => false
  | .save (some updateFields) =>
      write.model.labelLower = authUserModel ∧
        updateFields.all (fun field => field ∈
          ["last_login", "failed_login_attempts", "locked_until", "password",
            "last_password_change_at"])

/-- The write creates a marker. -/
def InstanceWrite.isMarked (write : InstanceWrite) : Bool :=
  write.model.isConnected && !write.isIgnored

/-! ## Writing -/

/-- The changes and the markers in the database, in the order they were written. -/
structure WriteLog where
  changes : List InstanceWrite
  markers : List InstanceWrite
  deriving DecidableEq, Repr

namespace WriteLog

def empty : WriteLog :=
  { changes := []
    markers := [] }

def change (write : InstanceWrite) (log : WriteLog) : WriteLog :=
  { log with changes := log.changes ++ [write] }

def mark (write : InstanceWrite) (log : WriteLog) : WriteLog :=
  { log with markers := log.markers ++ [write] }

/-- Every change that is to be marked is there with its marker, and no other marker is. -/
def Marked (log : WriteLog) : Prop :=
  log.markers = log.changes.filter InstanceWrite.isMarked

instance (log : WriteLog) : Decidable log.Marked := by
  unfold Marked
  infer_instance

end WriteLog

/-- The signal of a write: `_business_write`, and `CacheInvalidation.objects.create` in
`invalidate_namespace`. -/
def sendSignal (faults : Faults) (write : InstanceWrite) (S : Session WriteLog) :
    Ending × Session WriteLog :=
  if write.isMarked then S.issue faults (WriteLog.mark write) else (.finished, S)

/-- The row, then the signal. -/
def writeAndSignal (faults : Faults) (write : InstanceWrite) (S : Session WriteLog) :
    Ending × Session WriteLog :=
  Session.andThen (S.issue faults (WriteLog.change write)) (sendSignal faults write)

/-- `Model.save` opens no transaction of its own, `Model.delete` does. -/
def writeInstance (faults : Faults) (write : InstanceWrite) (S : Session WriteLog) :
    Ending × Session WriteLog :=
  match write.kind with
  | .save _ => writeAndSignal faults write S
  | .delete => S.atomicBlock faults false (writeAndSignal faults write)

/-- What a request does on its connection: writes of instances, other statements, and atomic blocks
around parts of it, with errors handled there or not. -/
inductive Request
  | done
  | query (next : Request)
  | write (w : InstanceWrite) (next : Request)
  | atomic (caught : Bool) (body next : Request)
  deriving DecidableEq, Repr

def Request.exec (faults : Faults) : Request → Session WriteLog → Ending × Session WriteLog
  | .done, S => (.finished, S)
  | .query next, S => Session.andThen (S.issue faults id) (next.exec faults)
  | .write w next, S => Session.andThen (writeInstance faults w S) (next.exec faults)
  | .atomic caught body next, S =>
      Session.andThen (S.atomicBlock faults caught (body.exec faults)) (next.exec faults)

/-- What is committed in the end, however the request ends. -/
def Request.committed (request : Request) (faults : Faults) : WriteLog :=
  (request.exec faults (Session.start .empty)).2.committed

/-! ## Views -/

/-- `SoftDeleteMixin.deactivate` of the instance it has read. -/
def deactivate (model : ModelMeta) (pk : Nat) : Request :=
  .query (.write
    { pk := pk
      model := model
      kind := .save (some ["is_active", "updated_at"]) } .done)

/-- `SoftDeleteMixin.reactivate`. -/
def reactivate (model : ModelMeta) (pk : Nat) : Request :=
  .query (.write
    { pk := pk
      model := model
      kind := .save none } .done)

/-- `SoftDeleteMixin.destroy`; rows with protected relations are deactivated. -/
def destroy (model : ModelMeta) (pk : Nat) (isProtected : Bool) : Request :=
  if isProtected then .query (deactivate model pk)
  else
    .query (.write
      { pk := pk
        model := model
        kind := .delete } .done)

/-- `BatchCreateDestroyMixin.destroy` of a batch that was never received. -/
def destroyBatch (pk : Nat) : Request :=
  .atomic false
    (.query (.query (.write
      { pk := pk
        model := { appLabel := "inventory", modelName := "productbatch" }
        kind := .delete } .done)))
    .done

/-! ## When markers are safe -/

/-- Saves that are to be marked stand inside an atomic block; `inAtomicBlock` says whether the request
is in one already. -/
def Request.Guarded (inAtomicBlock : Bool) : Request → Prop
  | .done => True
  | .query next => next.Guarded inAtomicBlock
  | .write w next =>
      (w.isMarked = true → inAtomicBlock = true ∨ w.kind = .delete) ∧
        next.Guarded inAtomicBlock
  | .atomic _ body next => body.Guarded true ∧ next.Guarded inAtomicBlock

/-- Of the views of one instance those that delete it are guarded, and those that save it only where its
model has no markers. -/
theorem views_guarded (model : ModelMeta) (pk : Nat) :
    ((deactivate model pk).Guarded false ↔ model.isConnected = false) ∧
      ((reactivate model pk).Guarded false ↔ model.isConnected = false) ∧
      (∀ isProtected, (destroy model pk isProtected).Guarded false ↔
        (isProtected = true → model.isConnected = false)) ∧
      (destroyBatch pk).Guarded false := by
  have hdeactivate : (deactivate model pk).Guarded false ↔ model.isConnected = false := by
    simp [deactivate, Request.Guarded, InstanceWrite.isMarked, InstanceWrite.isIgnored]
  refine ⟨hdeactivate, ?_, ?_, ?_⟩
  · simp [reactivate, Request.Guarded, InstanceWrite.isMarked, InstanceWrite.isIgnored]
  · intro isProtected
    cases isProtected with
    | false => simp [destroy, Request.Guarded]
    | true => simpa [destroy, Request.Guarded] using hdeactivate
  · simp [destroyBatch, Request.Guarded]

section Guarded

variable {faults : Faults} {S : Session WriteLog} {write : InstanceWrite} {n : Nat}

theorem marked_change {log : WriteLog} (hmarked : write.isMarked = false) (h : log.Marked) :
    (log.change write).Marked := by
  unfold WriteLog.Marked WriteLog.change at *
  simp only [List.filter_append]
  rw [← h]
  simp [hmarked]

theorem marked_mark {log : WriteLog} (hmarked : write.isMarked = true) (h : log.Marked) :
    ((log.change write).mark write).Marked := by
  unfold WriteLog.Marked WriteLog.change WriteLog.mark at *
  simp only [List.filter_append]
  rw [← h]
  simp [hmarked]

/-- Inside a block a row and its marker are written or undone together. -/
theorem writeAndSignal_kept (h : S.Sound WriteLog.Marked) (hn : S.blocks.length = n)
    (hguarded : write.isMarked = true → 0 < n) :
    Session.Kept WriteLog.Marked n (writeAndSignal faults write S) := by
  unfold writeAndSignal sendSignal
  by_cases hmarked : write.isMarked = true
  · simp only [hmarked, if_true]
    cases n with
    | zero => exact absurd (hguarded hmarked) (Nat.lt_irrefl _)
    | succ n => exact h.issue_pair hn fun _ => marked_mark hmarked
  · have hplain : write.isMarked = false := Bool.eq_false_iff.2 hmarked
    simp only [hplain, Bool.false_eq_true, if_false]
    exact (h.issue hn fun _ => marked_change hplain).andThen fun _ hS hlength => hS.kept hlength

theorem writeInstance_kept (h : S.Sound WriteLog.Marked) (hn : S.blocks.length = n)
    (hguarded : write.isMarked = true → 0 < n ∨ write.kind = .delete) :
    Session.Kept WriteLog.Marked n (writeInstance faults write S) := by
  unfold writeInstance
  split
  · rename_i updateFields hkind
    refine writeAndSignal_kept h hn ?_
    intro hmarked
    rcases hguarded hmarked with hblock | hdelete
    · exact hblock
    · rw [hkind] at hdelete
      cases hdelete
  · exact h.atomicBlock hn fun S' hS' hlength =>
      writeAndSignal_kept hS' hlength fun _ => Nat.succ_pos n

theorem Request.guarded_true : ∀ request : Request, request.Guarded true
  | .done => trivial
  | .query next => next.guarded_true
  | .write _ next => ⟨fun _ => .inl rfl, next.guarded_true⟩
  | .atomic _ body next => ⟨body.guarded_true, next.guarded_true⟩

/-- A guarded request keeps changes and markers together, statement by statement. -/
theorem Request.exec_kept :
    ∀ (request : Request) {S : Session WriteLog} {n : Nat}, S.Sound WriteLog.Marked →
      S.blocks.length = n → request.Guarded (decide (0 < n)) →
      Session.Kept WriteLog.Marked n (request.exec faults S)
  | .done, _, _, h, hn, _ => h.kept hn
  | .query next, _, _, h, hn, hguarded =>
      (h.issue hn fun _ hdata => hdata).andThen fun _ hS hlength =>
        next.exec_kept hS hlength hguarded
  | .write w next, _, n, h, hn, hguarded => by
      have hwrite : w.isMarked = true → 0 < n ∨ w.kind = .delete := by
        intro hmarked
        rcases hguarded.1 hmarked with hblock | hdelete
        · exact .inl (of_decide_eq_true hblock)
        · exact .inr hdelete
      exact (writeInstance_kept h hn hwrite).andThen fun _ hS hlength =>
        next.exec_kept hS hlength hguarded.2
  | .atomic caught body next, _, n, h, hn, hguarded => by
      have hblock : Session.Kept WriteLog.Marked n
          (Session.atomicBlock faults caught (body.exec faults) _) :=
        h.atomicBlock hn fun _ hS hlength =>
          body.exec_kept hS hlength (by simpa using hguarded.1)
      exact hblock.andThen fun _ hS hlength => next.exec_kept hS hlength hguarded.2

theorem committed_of_kept {r : Ending × Session WriteLog} (h : Session.Kept WriteLog.Marked n r) :
    r.2.committed.Marked := by
  rcases r with ⟨ending, S⟩
  cases ending with
  | finished => exact h.1.committed
  | raised => exact h.1
  | crashed => exact h

end Guarded

/-! ## A crash between a row and its marker -/

/-- Nothing fails but statement `n`, which never runs. -/
def crashAt (n : Nat) : Faults := fun k => if k = n then some .crash else none

theorem crashAt_quiet {n m : Nat} (h : m ≤ n) : ∀ k, k < m → crashAt n k = none := by
  intro k hk
  have hne : k ≠ n := Nat.ne_of_lt (Nat.lt_of_lt_of_le hk h)
  simp [crashAt, hne]

theorem sendSignal_finishes (write : InstanceWrite) (S : Session WriteLog) :
    ∃ S', Session.Finishes (fun faults S => sendSignal faults write S) S S' := by
  unfold sendSignal
  by_cases hmarked : write.isMarked = true
  · simp only [hmarked, if_true]
    exact ⟨_, Session.finishes_issue S _⟩
  · simp only [Bool.eq_false_iff.2 hmarked, Bool.false_eq_true, if_false]
    exact ⟨_, Session.Finishes.refl S⟩

theorem writeAndSignal_finishes (write : InstanceWrite) (S : Session WriteLog) :
    ∃ S', Session.Finishes (fun faults S => writeAndSignal faults write S) S S' := by
  rcases sendSignal_finishes write (S.wrote (WriteLog.change write)) with ⟨S', hsignal⟩
  exact ⟨S', (Session.finishes_issue S _).andThen hsignal⟩

theorem writeInstance_finishes (write : InstanceWrite) (S : Session WriteLog) :
    ∃ S', Session.Finishes (fun faults S => writeInstance faults write S) S S' := by
  unfold writeInstance
  cases write.kind with
  | save updateFields => exact writeAndSignal_finishes write S
  | delete =>
      rcases writeAndSignal_finishes write S.enterBlock with ⟨S', hbody⟩
      exact ⟨_, Session.finishes_atomicBlock false hbody⟩

/-- A request on which nothing fails finishes. -/
theorem Request.exec_finishes :
    ∀ (request : Request) (S : Session WriteLog),
      ∃ S', Session.Finishes (fun faults S => request.exec faults S) S S'
  | .done, S => ⟨S, Session.Finishes.refl S⟩
  | .query next, S => by
      rcases next.exec_finishes (S.wrote id) with ⟨S', hnext⟩
      exact ⟨S', (Session.finishes_issue S id).andThen hnext⟩
  | .write w next, S => by
      rcases writeInstance_finishes w S with ⟨S₁, hwrite⟩
      rcases next.exec_finishes S₁ with ⟨S', hnext⟩
      exact ⟨S', hwrite.andThen hnext⟩
  | .atomic caught body next, S => by
      rcases body.exec_finishes S.enterBlock with ⟨S₁, hbody⟩
      have hblock := Session.finishes_atomicBlock caught hbody
      rcases next.exec_finishes { S₁.keepBlock with issued := S₁.issued + 1 } with ⟨S', hnext⟩
      exact ⟨S', hblock.andThen hnext⟩

/-- A part of a program that keeps changes and markers together ends in such a state when nothing
fails in it. -/
theorem finishes_kept {program : Faults → Session WriteLog → Ending × Session WriteLog}
    {S S' : Session WriteLog} (h : Session.Finishes program S S')
    (hkept : Session.Kept WriteLog.Marked 0 (program (fun _ => none) S)) :
    S'.Sound WriteLog.Marked ∧ S'.blocks.length = 0 := by
  rw [h.2.2 (fun _ => none) fun _ _ _ => rfl] at hkept
  exact hkept

theorem finishes_crashAt {program : Faults → Session WriteLog → Ending × Session WriteLog}
    {S S' : Session WriteLog} {n : Nat} (h : Session.Finishes program S S') (hn : S'.issued ≤ n) :
    program (crashAt n) S = (.finished, S') :=
  h.2.2 _ fun k _ hk => crashAt_quiet hn k hk

/-- The row of a marked save outside every block is committed when the crash comes before its
marker. -/
theorem marker_lost {w : InstanceWrite} {S : Session WriteLog} (hmarked : w.isMarked = true)
    (hsave : w.kind ≠ .delete) (hblocks : S.blocks.length = 0) (hS : S.committed.Marked) :
    ∃ S', writeInstance (crashAt (S.issued + 1)) w S = (.crashed, S') ∧ ¬ S'.committed.Marked := by
  have hnil : S.blocks = [] := List.eq_nil_of_length_eq_zero hblocks
  have hrow : S.issue (crashAt (S.issued + 1)) (WriteLog.change w) =
      (.finished, S.wrote (WriteLog.change w)) :=
    finishes_crashAt (Session.finishes_issue S _) (Nat.le_of_eq (Session.issued_wrote S _))
  have hmarker : (S.wrote (WriteLog.change w)).issue (crashAt (S.issued + 1)) (WriteLog.mark w) =
      (.crashed, (S.wrote (WriteLog.change w)).crash) := by
    unfold Session.issue
    rw [Session.issued_wrote]
    simp [crashAt]
  refine ⟨(S.wrote (WriteLog.change w)).crash, ?_, ?_⟩
  · unfold writeInstance
    split
    · unfold writeAndSignal sendSignal
      simp only [hrow, Session.andThen, hmarked, if_true]
      exact hmarker
    · exact absurd ‹_› hsave
  · have hcommitted : (S.wrote (WriteLog.change w)).crash.committed = S.committed.change w := by
      simp [Session.wrote, Session.crash, hnil]
    rw [hcommitted]
    intro hafter
    unfold WriteLog.Marked WriteLog.change at hafter
    rw [List.filter_append, ← hS] at hafter
    simp [hmarked] at hafter

/-- Of a request that is not guarded, some crash leaves a change without its marker. -/
theorem Request.exec_loses :
    ∀ (request : Request) {S : Session WriteLog}, S.Sound WriteLog.Marked → S.blocks.length = 0 →
      ¬ request.Guarded false →
      ∃ n, S.issued ≤ n ∧ ¬ (request.exec (crashAt n) S).2.committed.Marked
  | .done, _, _, _, hguarded => absurd trivial hguarded
  | .query next, S, h, hn, hguarded => by
      -- a query writes nothing, so the run that loses its marker is one of what follows
      have hfinishes := Session.finishes_issue S (id : WriteLog → WriteLog)
      have hkept := finishes_kept hfinishes (h.issue hn fun _ hdata => hdata)
      rcases next.exec_loses hkept.1 hkept.2 hguarded with ⟨n, hle, hlost⟩
      refine ⟨n, Nat.le_trans hfinishes.1 hle, ?_⟩
      simp only [Request.exec, finishes_crashAt hfinishes hle, Session.andThen]
      exact hlost
  | .write w next, S, h, hn, hguarded => by
      by_cases hsafe : w.isMarked = true → w.kind = .delete
      · -- the write is safe, what loses its marker comes later
        rcases writeInstance_finishes w S with ⟨S₁, hfinishes⟩
        have hkept := finishes_kept hfinishes
          (writeInstance_kept h hn fun hmarked => .inr (hsafe hmarked))
        have hnext : ¬ next.Guarded false := fun hnext =>
          hguarded ⟨fun hmarked => .inr (hsafe hmarked), hnext⟩
        rcases next.exec_loses hkept.1 hkept.2 hnext with ⟨n, hle, hlost⟩
        refine ⟨n, Nat.le_trans hfinishes.1 hle, ?_⟩
        simp only [Request.exec, finishes_crashAt hfinishes hle, Session.andThen]
        exact hlost
      · have hmarked : w.isMarked = true := by
          by_contra hplain
          exact hsafe fun hmarked => absurd hmarked hplain
        have hsave : w.kind ≠ .delete := fun hdelete => hsafe fun _ => hdelete
        -- the worker dies after the write and before its signal: the marker is lost there
        rcases marker_lost hmarked hsave hn h.committed with ⟨S', hcrash, hlost⟩
        refine ⟨S.issued + 1, Nat.le_succ _, ?_⟩
        simp only [Request.exec, hcrash, Session.andThen]
        exact hlost
  | .atomic caught body next, S, h, hn, hguarded => by
      rcases body.exec_finishes S.enterBlock with ⟨S₁, hbody⟩
      have hfinishes := Session.finishes_atomicBlock caught hbody
      -- a block loses nothing by itself: a crash inside takes the writes back with the markers
      have hkept := finishes_kept hfinishes (h.atomicBlock hn fun _ hS hlength =>
        body.exec_kept hS hlength body.guarded_true)
      have hnext : ¬ next.Guarded false := fun hnext => hguarded ⟨body.guarded_true, hnext⟩
      rcases next.exec_loses hkept.1 hkept.2 hnext with ⟨n, hle, hlost⟩
      refine ⟨n, Nat.le_trans hfinishes.1 hle, ?_⟩
      simp only [Request.exec, finishes_crashAt hfinishes hle, Session.andThen]
      exact hlost

/-- Whatever fails during a request, its changes are committed with their markers and its markers with
their changes, exactly when every save that is to be marked stands inside an atomic block. -/
theorem markers_committed_iff (request : Request) :
    (∀ faults, (request.committed faults).Marked) ↔ request.Guarded false := by
  have hstart : (Session.start WriteLog.empty).Sound WriteLog.Marked :=
    ⟨rfl, fun _ hdata => by cases hdata⟩
  constructor
  · intro hmarked
    by_contra hguarded
    rcases request.exec_loses hstart rfl hguarded with ⟨n, _, hlost⟩
    exact hlost (hmarked (crashAt n))
  · intro hguarded faults
    exact committed_of_kept (request.exec_kept hstart rfl hguarded)

/-- Deactivating a product, with a crash after the row is saved. -/
theorem deactivation_unmarked :
    ¬ ∀ (model : ModelMeta) (pk : Nat) (faults : Faults), model.isConnected = true →
      ((deactivate model pk).committed faults).Marked := by
  intro h
  have hcrash := h { appLabel := "inventory", modelName := "product" } 1 (crashAt 2) (by decide)
  exact absurd hcrash (by decide)

end RosarioDairy
