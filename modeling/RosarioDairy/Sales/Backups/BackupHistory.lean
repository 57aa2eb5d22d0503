import RosarioDairy.Foundations.Lines
import RosarioDairy.Sales.Backups.BackupRows
import RosarioDairy.Sales.Backups.RestoredRows

/-!
# Backup history — a backup that restores what it selected

A backup takes the fingerprints of the selected rows, writes them as a script, reads the script back,
restores it in an empty database of the same tables and compares the fingerprints there.  The script
restores the selected rows and no others, and the verification passes exactly when no selected text
has a carriage return, which is lost where the script is read back.
-/

namespace RosarioDairy
namespace Backups

open Foundations

variable {M : Type}

/-! ## Fingerprints -/

section Fingerprints

variable [DecidableEq M] (schema : Schema M) (rowToJson : List (String × Value) → List Char)
  (sha256 : List Char → String)

/-- The rows of a table under the selected keys, each as a line of JSON. -/
def jsonLines (keys : M → Finset Value) (rows : M → List Record) (m : M) : List (List Char) :=
  (orderedRows (schema.options m) (keys m) (rows m)).map fun row =>
    rowToJson ((schema.options m).columns.zip ((schema.options m).values row))

/-- What a fingerprint says of a table. -/
structure Fingerprint where
  table : String
  count : Nat
  sha256 : String
  deriving DecidableEq

def fingerprints (rows : M → List Record) (selected : Selection M) : List Fingerprint :=
  (sortedModels schema selected).map fun m =>
    let lines := jsonLines schema rowToJson selected.get rows m
    { table := schema.table m
      count := lines.length
      sha256 := sha256 (terminated '\n' lines) }

/-- Restore a script in a new database and compare what the connection sees there with the source. -/
def verifyRestore (transaction : M) (script : List Statement) (selected : Selection M)
    (before : List Fingerprint) : Except String (List Fingerprint) := do
  let server ← executeScript schema (Server.idle (fun _ => []) fun _ => 0) (readBack script)
  let after := fingerprints schema rowToJson sha256 server.working selected
  require (after = before) "Restored rows do not match the source snapshot."
  require ((server.working transaction).length = (selected.get transaction).card)
    "Unexpected extra receipts in restore."
  pure after

/-- What a backup records of itself. -/
structure Manifest where
  completed : Bool
  startYear : Int
  endYear : Int
  tables : List Fingerprint
  restoreVerification : List Fingerprint

/-- The script and the manifest of a backup, when so many passes are enough to select its rows. -/
def backupHistory (vendor : String) (currentYear : Int) (db : Database M) (models : SalesModels M)
    (yearStart : Int → Int) (startYear endYear : Int) (passes : Nat) :
    Except String (List Statement × Manifest) := do
  require (vendor = "postgresql") "This SQL backup requires PostgreSQL."
  require (2000 ≤ startYear ∧ startYear ≤ endYear ∧ endYear < currentYear)
    "Choose complete historical years, starting in 2000 or later."
  let selected ← demand (selectRows db models yearStart startYear endYear passes)
    "the rows are not selected yet"
  require (selected.get models.transaction ≠ ∅) "No historical receipts in the requested range."
  let tables := fingerprints schema rowToJson sha256 db.rows selected
  let script := writeSql schema db.rows selected
  let verification ←
    verifyRestore schema rowToJson sha256 models.transaction script selected tables
  pure (script,
    { completed := true
      startYear := startYear
      endYear := endYear
      tables := tables
      restoreVerification := verification })

end Fingerprints

/-! ## Running a script -/

section Scripts

variable [DecidableEq M] {schema : Schema M}

theorem runScript_append {server next : Server M} {script rest : List Statement}
    (h : script.foldlM (execute schema) server = .ok next) :
    runScript schema server (script ++ rest) = runScript schema next rest := by
  induction script generalizing server with
  | nil =>
      obtain rfl := pure_eq_ok.1 h
      rfl
  | cons statement script ih =>
      rw [List.foldlM_cons] at h
      obtain ⟨middle, hfirst, hrest⟩ := bind_eq_ok.1 h
      rw [List.cons_append, runScript, hfirst]
      exact ih hrest

/-- A script runs to its end exactly when each of its statements does. -/
theorem runScript_snd_eq_none {server : Server M} {script : List Statement} :
    (runScript schema server script).2 = none ↔
      ∃ next, script.foldlM (execute schema) server = .ok next := by
  induction script generalizing server with
  | nil => simp [runScript, pure, Except.pure]
  | cons statement script ih =>
      rw [List.foldlM_cons, runScript]
      cases hfirst : execute schema server statement with
      | ok next =>
          rw [ok_bind]
          exact ih
      | error message => simp [bind, Except.bind]

end Scripts

/-! ## The restored database -/

section Restored

variable {schema : Schema M} {rows : M → List Record}

theorem foreignKeysHold_iff : foreignKeysHold schema rows = true ↔
    ∀ m, ∀ row ∈ rows m, ∀ field ∈ (schema.options m).concreteFields, ∀ relation,
      field.relation = some relation → row field.attname ≠ .null →
        ∃ target ∈ rows relation.model, target relation.targetField = row field.attname := by
  unfold foreignKeysHold
  simp only [List.all_eq_true]
  constructor
  · intro h m row hrow field hfield relation hrelation hnull
    have hholds := h m (schema.mem_models m) row hrow field hfield
    rw [hrelation] at hholds
    dsimp only at hholds
    rw [Bool.or_eq_true, decide_eq_true_iff, List.any_eq_true] at hholds
    obtain ⟨target, htarget, hEq⟩ := hholds.resolve_left hnull
    exact ⟨target, htarget, of_decide_eq_true hEq⟩
  · intro h m _ row hrow field hfield
    cases hrelation : field.relation with
    | none => rfl
    | some relation =>
        dsimp only
        rw [Bool.or_eq_true, decide_eq_true_iff, List.any_eq_true]
        by_cases hnull : row field.attname = .null
        · exact Or.inl hnull
        · obtain ⟨target, htarget, hEq⟩ := h m row hrow field hfield relation hrelation hnull
          exact Or.inr ⟨target, htarget, decide_eq_true hEq⟩

/-- What is restored of a closed selection of an intact database has its foreign keys. -/
theorem foreignKeysHold_restoredRows {db : Database M} {keys : M → Finset Value}
    (hoptions : db.options = schema.options) (hintact : (db.restrict keys).Intact) :
    foreignKeysHold schema (restoredRows schema db.rows keys) = true := by
  rw [foreignKeysHold_iff]
  intro m row hrow field hfield relation hrelation hnull
  obtain ⟨source, hsource, hkey, rfl⟩ := mem_restoredRows.1 hrow
  have hattname : schema.restored m source field.attname = source field.attname :=
    if_pos (List.mem_map_of_mem hfield)
  rw [hattname] at hnull ⊢
  have hpk : ∀ m (row : Record), db.pk m row = row (schema.options m).pk := by
    intro m row
    unfold Database.pk
    rw [hoptions]
  have hmem : source ∈ (db.restrict keys).rows m :=
    List.mem_filter.2 ⟨hsource, decide_eq_true (by rw [hpk]; exact hkey)⟩
  have hfield' : field ∈ (db.options m).concreteFields := by rwa [hoptions]
  obtain ⟨target, htarget, hEq⟩ := hintact m source hmem field hfield' relation hrelation hnull
  obtain ⟨htarget, hkey'⟩ := List.mem_filter.1 htarget
  refine ⟨schema.restored relation.model target, mem_restoredRows.2 ⟨target, htarget, ?_, rfl⟩, ?_⟩
  · have hkey'' := of_decide_eq_true hkey'
    rwa [hpk] at hkey''
  · have hcolumn : schema.restored relation.model target relation.targetField =
        target relation.targetField := if_pos (schema.target_mem m field hfield relation hrelation)
    rw [hcolumn]
    exact hEq

/-- Rows that are in the order of their keys, and are all asked for, are found as they are. -/
theorem orderedRows_restoredRows (keys : M → Finset Value) (m : M) :
    orderedRows (schema.options m) (keys m) (restoredRows schema rows keys m) =
      restoredRows schema rows keys m := by
  unfold orderedRows
  have hall : ((restoredRows schema rows keys m).filter fun row =>
      decide (row (schema.options m).pk ∈ keys m)) = restoredRows schema rows keys m := by
    refine List.filter_eq_self.2 ?_
    intro row hrow
    obtain ⟨source, -, hkey, rfl⟩ := mem_restoredRows.1 hrow
    rw [restored_pk]
    exact decide_eq_true hkey
  rw [hall]
  refine List.mergeSort_of_pairwise ?_
  unfold restoredRows
  rw [List.pairwise_map]
  simp only [restored_pk]
  refine List.pairwise_mergeSort ?_ ?_ _
  · intro row row' row'' h h'
    exact Value.le_trans h h'
  · intro row row'
    exact Value.le_total _ _

variable [DecidableEq M] {selected : Selection M}

theorem fingerprints_restoredRows {rowToJson : List (String × Value) → List Char}
    {sha256 : List Char → String} :
    fingerprints schema rowToJson sha256 (restoredRows schema rows selected.get) selected =
      fingerprints schema rowToJson sha256 rows selected := by
  have hlines : ∀ m, jsonLines schema rowToJson selected.get
      (restoredRows schema rows selected.get) m =
        jsonLines schema rowToJson selected.get rows m := by
    intro m
    unfold jsonLines
    rw [orderedRows_restoredRows]
    unfold restoredRows
    rw [List.map_map]
    refine List.map_congr_left ?_
    intro row _
    simp
  unfold fingerprints
  simp only [hlines]

theorem nodup_sortedModels : (sortedModels schema selected).Nodup :=
  (List.mergeSort_perm _ _).nodup_iff.2 selected.models_nodup

theorem mem_sortedModels {m : M} :
    m ∈ sortedModels schema selected ↔ m ∈ selected.entries.map Prod.fst :=
  (List.mergeSort_perm _ _).mem_iff

/-- The statements of an export of a closed selection run on an empty server, and restore the
selection. -/
theorem foldlM_writeSql (hvalid : schema.Valid rows)
    (hnumbered : ∀ m ∈ selected.entries.map Prod.fst, schema.Numbered rows m)
    (hclosed : foreignKeysHold schema (restoredRows schema rows selected.get) = true) :
    (writeSql schema rows selected).foldlM (execute schema)
        (Server.idle (fun _ => []) fun _ => 0) =
      .ok (Server.idle (restoredRows schema rows selected.get)
        (restoredLast schema rows selected.get)) := by
  let started : Server M :=
    { committed := fun _ => []
      working := fun _ => []
      inBlock := true
      immediate := false
      lastValue := fun _ => 0 }
  have hstarted : Restoring schema rows selected.get [] started := by
    refine ⟨rfl, ?_, rfl, rfl, ?_⟩
    · funext m
      simp [started]
    · funext m
      simp [started]
  have hnodup : (sortedModels schema selected).Nodup := nodup_sortedModels
  obtain ⟨filled, hfill, h⟩ := restoring_tables hvalid
    (fun m hm => hnumbered m (mem_sortedModels.1 hm)) hnodup hstarted
  -- where nothing is selected there is nothing to restore
  have hnone : ∀ m, m ∉ sortedModels schema selected →
      restoredRows schema rows selected.get m = [] := by
    intro m hm
    refine restoredRows_eq_nil (Finset.eq_empty_of_forall_notMem ?_)
    intro key hkey
    obtain ⟨keys, hentry, -⟩ := Selection.exists_entry hkey
    exact hm (mem_sortedModels.2 (List.mem_map_of_mem (f := Prod.fst) hentry))
  have hworking : filled.working = restoredRows schema rows selected.get := by
    rw [h.working]
    funext m
    rw [List.nil_append]
    by_cases hm : m ∈ sortedModels schema selected
    · exact if_pos hm
    · exact (if_neg hm).trans (hnone m hm).symm
  have hlastValue : filled.lastValue = restoredLast schema rows selected.get := by
    rw [h.lastValue]
    funext m
    rw [List.nil_append]
    by_cases hm : m ∈ sortedModels schema selected
    · exact if_pos hm
    · refine (if_neg hm).trans ?_
      simp [restoredLast, hnone m hm, maxKey]
  have hbegin : [Statement.begin, .setTimeZone, .setConstraints false].foldlM (execute schema)
      (Server.idle (fun _ => []) fun _ => 0) = .ok started := rfl
  have hend : [Statement.setConstraints true, .commit].foldlM (execute schema) filled =
      .ok (Server.idle (restoredRows schema rows selected.get)
        (restoredLast schema rows selected.get)) := by
    simp [execute, require, hworking, hlastValue, hclosed, bind, Except.bind, pure, Except.pure]
  unfold writeSql
  rw [List.foldlM_append, List.foldlM_append, hbegin, ok_bind, hfill, ok_bind, hend]

/-- An export of a closed selection runs to its end on an empty server. -/
theorem runScript_writeSql (hvalid : schema.Valid rows)
    (hnumbered : ∀ m ∈ selected.entries.map Prod.fst, schema.Numbered rows m)
    (hclosed : foreignKeysHold schema (restoredRows schema rows selected.get) = true) :
    runScript schema (Server.idle (fun _ => []) fun _ => 0) (writeSql schema rows selected) =
      (Server.idle (restoredRows schema rows selected.get)
        (restoredLast schema rows selected.get), none) := by
  have hdone := @runScript_append M _ schema _ _ _ [] (foldlM_writeSql hvalid hnumbered hclosed)
  rw [List.append_nil] at hdone
  rw [hdone]
  simp [runScript, disconnect, Server.idle]

/-! ## Reading a script back -/

/-- No selected row has a text with a carriage return. -/
def PlainRows (schema : Schema M) (rows : M → List Record) (selected : Selection M) : Prop :=
  ∀ m, ∀ row ∈ rows m, row (schema.options m).pk ∈ selected.get m →
    ∀ value ∈ (schema.options m).values row, value.hasReturn = false

/-- Then the script is read back as it was written. -/
theorem readBack_writeSql (hplain : PlainRows schema rows selected) :
    readBack (writeSql schema rows selected) = writeSql schema rows selected := by
  unfold readBack
  refine (List.map_congr_left ?_).trans (List.map_id _)
  intro statement hstatement
  unfold writeSql at hstatement
  simp only [List.mem_append, List.mem_cons, List.not_mem_nil, or_false, List.mem_flatMap]
    at hstatement
  rcases hstatement with ((rfl | rfl | rfl) | ⟨m, -, hm⟩) | rfl | rfl
  · rfl
  · rfl
  · rfl
  · unfold writeTable at hm
    rcases List.mem_append.1 hm with hinsert | hsetval
    · obtain ⟨group, hgroup, rfl⟩ := List.mem_map.1 hinsert
      refine congrArg (Statement.insert _ _) ((List.map_congr_left ?_).trans (List.map_id _))
      intro values hvalues
      -- the values are those of a selected row
      have hrow := List.mem_flatten.2 ⟨group, hgroup, hvalues⟩
      rw [flatten_batches] at hrow
      obtain ⟨row, hordered, rfl⟩ := List.mem_map.1 hrow
      obtain ⟨hmem, hkey⟩ := mem_orderedRows.1 hordered
      refine (List.map_congr_left ?_).trans (List.map_id _)
      intro value hvalue
      exact Value.reread_eq_self (hplain m row hmem hkey value hvalue)
    · obtain rfl := List.mem_singleton.1 hsetval
      rfl
  · rfl
  · rfl

/-- A row without a carriage return in any column. -/
def IsPlain (row : Record) : Prop := ∀ column, (row column).hasReturn = false

theorem isPlain_recordOf (columns : List String) {values : List Value}
    (h : ∀ value ∈ values, value.hasReturn = false) : IsPlain (recordOf columns values) := by
  intro column
  unfold recordOf
  cases hfound : (columns.zip values).lookup column with
  | none => rfl
  | some value =>
      obtain ⟨before, after, hsplit, -⟩ := List.lookup_eq_some_iff.1 hfound
      have hmem : (column, value) ∈ columns.zip values := by
        rw [hsplit]
        exact List.mem_append_right before List.mem_cons_self
      exact h value (List.of_mem_zip hmem).2

/-- A script that has been read back stores no carriage return. -/
theorem isPlain_foldlM {server ended : Server M} {script : List Statement}
    (h : (readBack script).foldlM (execute schema) server = .ok ended)
    (hserver : ∀ m, ∀ row ∈ server.working m, IsPlain row) :
    ∀ m, ∀ row ∈ ended.working m, IsPlain row := by
  refine foldlM_preserves (P := fun server : Server M => ∀ m, ∀ row ∈ server.working m, IsPlain row)
    ?_ h hserver
  intro statement hstatement server next hrows hnext
  rcases execute_cases hnext with ⟨-, hEq, -⟩ | ⟨table, columns, new, m, rfl, -, stored, hstored, rfl⟩ |
    ⟨-, -, rfl⟩
  · rwa [hEq]
  · obtain ⟨written, hwritten, hreread⟩ := List.mem_map.1 hstatement
    intro m' row hrow
    by_cases hm : m' = m
    · subst hm
      dsimp only at hrow
      rw [Function.update_self, (foldlM_insertRow_eq_ok hstored).1] at hrow
      rcases List.mem_append.1 hrow with hold | hadded
      · exact hrows m' row hold
      · -- an added row is made of literals that were read back
        obtain ⟨values, hvalues, rfl⟩ := List.mem_map.1 hadded
        refine isPlain_recordOf columns ?_
        cases written with
        | insert table' columns' rows' =>
            cases hreread
            obtain ⟨values', -, rfl⟩ := List.mem_map.1 hvalues
            intro value hvalue
            obtain ⟨value', -, rfl⟩ := List.mem_map.1 hvalue
            exact Value.hasReturn_reread value'
        | _ => cases hreread
    · dsimp only at hrow
      rw [Function.update_of_ne hm] at hrow
      exact hrows m' row hrow
  · exact hrows

end Restored

/-! ## Backups of an intact database -/

section Backing

/-- The models whose rows a backup may hold: those it begins with, and those a foreign key leads to. -/
def Schema.Exported (schema : Schema M) (models : SalesModels M) (m : M) : Prop :=
  m ∈ [models.transaction, models.transactionItem, models.order, models.orderItem, models.product,
      models.category] ∨
    ∃ source, ∃ field ∈ (schema.options source).concreteFields, ∃ relation,
      field.relation = some relation ∧ relation.model = m

variable {schema : Schema M} {db : Database M} {models : SalesModels M}

theorem length_restoredRows {keys : M → Finset Value} {m : M} (hoptions : db.options = schema.options)
    (hthere : ∀ key ∈ keys m, ∃ row ∈ db.rows m, db.pk m row = key) :
    (restoredRows schema db.rows keys m).length = (keys m).card := by
  let found := (db.rows m).filter fun row => decide (row (schema.options m).pk ∈ keys m)
  have hlength : (restoredRows schema db.rows keys m).length = (found.map (db.pk m)).length := by
    unfold restoredRows orderedRows
    rw [List.length_map, List.length_map, List.length_mergeSort]
  have hnodup : (found.map (db.pk m)).Nodup :=
    (List.filter_sublist.map _).nodup (db.keys_nodup m)
  have hkeys : (found.map (db.pk m)).toFinset = keys m := by
    ext key
    rw [List.mem_toFinset, List.mem_map]
    constructor
    · rintro ⟨row, hrow, rfl⟩
      unfold Database.pk
      rw [hoptions]
      exact of_decide_eq_true (List.mem_filter.1 hrow).2
    · intro hkey
      obtain ⟨row, hrow, rfl⟩ := hthere key hkey
      refine ⟨row, List.mem_filter.2 ⟨hrow, decide_eq_true ?_⟩, rfl⟩
      unfold Database.pk at hkey
      rwa [hoptions] at hkey
  rw [hlength, ← hkeys, List.toFinset_card_of_nodup hnodup]

variable [DecidableEq M]

theorem exported_of_selected {start stop : Int} {selected : Selection M}
    (hoptions : db.options = schema.options)
    (hleast : IsLeast {S | firstRowSet db models start stop ⊆ S ∧ ClosedUnder db.Refers S}
      selected.selectedRows) :
    ∀ key ∈ selected.selectedRows, schema.Exported models key.1 := by
  have hwithin : selected.selectedRows ⊆ {key | schema.Exported models key.1} := by
    refine hleast.2 ⟨?_, ?_⟩
    · rintro ⟨m, key⟩ ⟨row, -, hkind⟩
      refine Or.inl ?_
      rcases hkind with ⟨rfl, -⟩ | ⟨rfl, -⟩ | ⟨rfl, -⟩ | ⟨rfl, -⟩ | ⟨rfl, -⟩ | ⟨rfl, -⟩
      all_goals simp
    · rintro source - target ⟨_, _, _, field, hfield, relation, hrelation, hmodel, -⟩
      rw [hoptions] at hfield
      exact Or.inr ⟨source.1, field, hfield, relation, hrelation, hmodel⟩
  exact fun key hkey => hwithin hkey

/-- The rows that are there are closed, so every selected key has its row. -/
theorem row_of_selected {start stop : Int} {selected : Selection M} (hintact : db.Intact)
    (hleast : IsLeast {S | firstRowSet db models start stop ⊆ S ∧ ClosedUnder db.Refers S}
      selected.selectedRows) :
    ∀ key ∈ selected.selectedRows, ∃ row ∈ db.rows key.1, db.pk key.1 row = key.2 := by
  refine hleast.2 ⟨fun key hkey => row_of_firstRowSet hkey, ?_⟩
  rintro source - ⟨m, key⟩ ⟨row, hrow, -, field, hfield, relation, hrelation, rfl, hnull, hmeets⟩
  unfold Database.Meets at hmeets
  by_cases hpk : relation.targetField = (db.options relation.model).pk
  · rw [if_pos hpk] at hmeets
    obtain ⟨target, htarget, hEq⟩ := hintact _ row hrow field hfield relation hrelation hnull
    rw [hpk] at hEq
    exact ⟨target, htarget, hEq.trans hmeets.symm⟩
  · rw [if_neg hpk] at hmeets
    obtain ⟨target, htarget, -, hkey⟩ := hmeets
    exact ⟨target, htarget, hkey⟩

/-- Once its rows are selected, a backup of complete years ends as its verification does. -/
theorem backupHistory_eq {rowToJson : List (String × Value) → List Char}
    {sha256 : List Char → String} {yearStart : Int → Int} {startYear endYear currentYear : Int}
    {passes : Nat} {selected : Selection M}
    (hyears : 2000 ≤ startYear ∧ startYear ≤ endYear ∧ endYear < currentYear)
    (hselects : selectRows db models yearStart startYear endYear passes = some selected)
    (hreceipts : selected.get models.transaction ≠ ∅) :
    backupHistory schema rowToJson sha256 "postgresql" currentYear db models yearStart startYear
        endYear passes =
      (verifyRestore schema rowToJson sha256 models.transaction (writeSql schema db.rows selected)
        selected (fingerprints schema rowToJson sha256 db.rows selected)).map fun after =>
          (writeSql schema db.rows selected,
            { completed := true
              startYear := startYear
              endYear := endYear
              tables := fingerprints schema rowToJson sha256 db.rows selected
              restoreVerification := after }) := by
  unfold backupHistory
  rw [hselects]
  simp only [require, demand, hyears, hreceipts, if_true, ok_bind, ne_eq, not_false_eq_true, and_self]
  cases verifyRestore schema rowToJson sha256 models.transaction (writeSql schema db.rows selected)
      selected (fingerprints schema rowToJson sha256 db.rows selected) with
  | ok after => rfl
  | error message => rfl

/-- The script of a closed selection without carriage returns passes its verification. -/
theorem verifyRestore_writeSql {rowToJson : List (String × Value) → List Char}
    {sha256 : List Char → String} {transaction : M} {selected : Selection M}
    (hoptions : db.options = schema.options) (hvalid : schema.Valid db.rows)
    (hnumbered : ∀ m ∈ selected.entries.map Prod.fst, schema.Numbered db.rows m)
    (hclosed : foreignKeysHold schema (restoredRows schema db.rows selected.get) = true)
    (hthere : ∀ key ∈ selected.get transaction,
      ∃ row ∈ db.rows transaction, db.pk transaction row = key)
    (hplain : PlainRows schema db.rows selected) :
    verifyRestore schema rowToJson sha256 transaction (writeSql schema db.rows selected) selected
        (fingerprints schema rowToJson sha256 db.rows selected) =
      .ok (fingerprints schema rowToJson sha256 db.rows selected) := by
  have hcount := @length_restoredRows M schema db selected.get transaction hoptions hthere
  unfold verifyRestore executeScript
  rw [readBack_writeSql hplain, foldlM_writeSql hvalid hnumbered hclosed]
  simp [Server.idle, fingerprints_restoredRows, hcount, hclosed, require, bind, Except.bind, pure,
    Except.pure]

/-- What a verification that passes has found: the script ran, and the lines it left are those of the
source, unless two texts have the same digest. -/
theorem verifyRestore_eq_ok {rowToJson : List (String × Value) → List Char}
    {sha256 : List Char → String} {transaction : M} {script : List Statement}
    {selected : Selection M} {rows : M → List Record} {after : List Fingerprint}
    (hlines : ∀ row, '\n' ∉ rowToJson row)
    (h : verifyRestore schema rowToJson sha256 transaction script selected
      (fingerprints schema rowToJson sha256 rows selected) = .ok after) :
    (∃ text text', text ≠ text' ∧ sha256 text = sha256 text') ∨
      ∃ server, executeScript schema (Server.idle (fun _ => []) fun _ => 0) (readBack script) =
          .ok server ∧
        (∀ m, jsonLines schema rowToJson selected.get server.working m =
          jsonLines schema rowToJson selected.get rows m) ∧
        (server.working transaction).length = (selected.get transaction).card := by
  by_cases hcollision : ∃ text text', text ≠ text' ∧ sha256 text = sha256 text'
  · exact Or.inl hcollision
  · refine Or.inr ?_
    unfold verifyRestore at h
    obtain ⟨server, hrun, h⟩ := bind_eq_ok.1 h
    obtain ⟨hfingerprints, h⟩ := require_bind_eq_ok.1 h
    obtain ⟨hcount, -⟩ := require_bind_eq_ok.1 h
    refine ⟨server, hrun, ?_, hcount⟩
    intro m
    by_cases hm : m ∈ sortedModels schema selected
    · -- equal digests are digests of the same text, and the text of the same lines
      have hEq := List.map_inj_left.1 hfingerprints m hm
      have hdigest := congrArg Fingerprint.sha256 hEq
      have htext := not_imp_comm.1 (fun hne => hcollision ⟨_, _, hne, hdigest⟩) id
      refine terminated_inj ?_ ?_ htext
      · intro line hline
        obtain ⟨row, -, rfl⟩ := List.mem_map.1 hline
        exact hlines _
      · intro line hline
        obtain ⟨row, -, rfl⟩ := List.mem_map.1 hline
        exact hlines _
    · have hkeys : selected.get m = ∅ := by
        refine Finset.eq_empty_of_forall_notMem ?_
        intro key hkey
        obtain ⟨keys, hentry, -⟩ := Selection.exists_entry hkey
        exact hm (mem_sortedModels.2 (List.mem_map_of_mem (f := Prod.fst) hentry))
      simp [jsonLines, orderedRows, hkeys]

theorem working_of_executeScript {server ended : Server M} {script : List Statement}
    (h : executeScript schema server script = .ok ended) :
    ∃ last, script.foldlM (execute schema) server = .ok last ∧ ended.working = last.working ∧
      (ended.inBlock = false → foreignKeysHold schema ended.working = true ∧
        ended.committed = ended.working) := by
  unfold executeScript at h
  obtain ⟨last, hlast, h⟩ := bind_eq_ok.1 h
  refine ⟨last, hlast, ?_⟩
  split at h
  · rename_i hblock
    obtain rfl := pure_eq_ok.1 h
    exact ⟨rfl, fun hends => absurd hblock (by rw [hends]; exact Bool.false_ne_true)⟩
  · obtain ⟨hholds, h⟩ := require_bind_eq_ok.1 h
    obtain rfl := pure_eq_ok.1 h
    exact ⟨rfl, fun _ => ⟨hholds, rfl⟩⟩

/-- The line of a row shows whether one of its texts has a carriage return. -/
def ShowsReturns (rowToJson : List (String × Value) → List Char) : Prop :=
  ∀ row row', rowToJson row = rowToJson row' →
    (row.any fun column => column.2.hasReturn) = row'.any fun column => column.2.hasReturn

/-- A script is verified for rows without carriage returns only. -/
theorem plainRows_of_verifyRestore {rowToJson : List (String × Value) → List Char}
    {sha256 : List Char → String} {transaction : M} {script : List Statement}
    {selected : Selection M} {rows : M → List Record} {after : List Fingerprint}
    (hlines : ∀ row, '\n' ∉ rowToJson row) (hshown : ShowsReturns rowToJson)
    (h : verifyRestore schema rowToJson sha256 transaction script selected
      (fingerprints schema rowToJson sha256 rows selected) = .ok after) :
    (∃ text text', text ≠ text' ∧ sha256 text = sha256 text') ∨ PlainRows schema rows selected := by
  refine (verifyRestore_eq_ok hlines h).imp_right ?_
  rintro ⟨server, hrun, hsame, -⟩ m row hrow hkey value hvalue
  obtain ⟨last, hlast, hworking, -⟩ := working_of_executeScript hrun
  have hplain := isPlain_foldlM hlast (by simp [Server.idle])
  -- the line of the row is that of a restored one
  have hline : rowToJson ((schema.options m).columns.zip ((schema.options m).values row)) ∈
      jsonLines schema rowToJson selected.get server.working m := by
    rw [hsame m]
    exact List.mem_map_of_mem (mem_orderedRows.2 ⟨hrow, hkey⟩)
  obtain ⟨stored, hstored, hEq⟩ := List.mem_map.1 hline
  have hshows := hshown _ _ hEq
  have hnone : (((schema.options m).columns.zip ((schema.options m).values stored)).any
      fun column => column.2.hasReturn) = false := by
    refine List.any_eq_false.2 ?_
    intro column hcolumn
    obtain ⟨name, -, hname⟩ := List.mem_map.1 (List.of_mem_zip hcolumn).2
    have hmem := (mem_orderedRows.1 hstored).1
    rw [hworking] at hmem
    rw [← hname, hplain m stored hmem name]
    exact Bool.false_ne_true
  rw [hnone] at hshows
  obtain ⟨column, hcolumn, rfl⟩ := List.mem_map.1 hvalue
  have hzip : (column, row column) ∈
      (schema.options m).columns.zip ((schema.options m).values row) := by
    have hpairs := @List.zip_map' String String Value id row (schema.options m).columns
    rw [List.map_id] at hpairs
    unfold Options.values
    rw [hpairs]
    exact List.mem_map.2 ⟨column, hcolumn, rfl⟩
  exact Bool.eq_false_iff.2 (List.any_eq_false.1 hshows.symm _ hzip)

/-- The script that a backup of an intact database writes restores, on an empty database of the same
tables, the selected rows and no others, in valid tables whose sequences go on behind them.  The backup
completes when no selected text has a carriage return, and otherwise ends with an error, unless two
texts have the same digest. -/
theorem backup_history_restores [Fintype M] (schema : Schema M)
    (rowToJson : List (String × Value) → List Char) (sha256 : List Char → String) (db : Database M)
    (models : SalesModels M) (yearStart : Int → Int) (startYear endYear currentYear : Int)
    (hoptions : db.options = schema.options) (hintact : db.Intact) (hvalid : schema.Valid db.rows)
    (hnumbered : ∀ m, schema.Exported models m → schema.Numbered db.rows m)
    (hyears : 2000 ≤ startYear ∧ startYear ≤ endYear ∧ endYear < currentYear)
    (hreceipt : ∃ row,
      IsReceipt db models (yearStart startYear) (yearStart (endYear + 1)) row) :
    ∃ (selected : Selection M) (server : Server M) (manifest : Manifest),
      IsLeast {S | firstRowSet db models (yearStart startYear) (yearStart (endYear + 1)) ⊆ S ∧
        ClosedUnder db.Refers S} selected.selectedRows ∧
      (∃ enough, ∀ passes, enough ≤ passes →
        (PlainRows schema db.rows selected →
          backupHistory schema rowToJson sha256 "postgresql" currentYear db models yearStart startYear
            endYear passes = .ok (writeSql schema db.rows selected, manifest)) ∧
        ((∀ row, '\n' ∉ rowToJson row) → ShowsReturns rowToJson →
          ¬ PlainRows schema db.rows selected →
            (∃ text text', text ≠ text' ∧ sha256 text = sha256 text') ∨
            ∃ message, backupHistory schema rowToJson sha256 "postgresql" currentYear db models
              yearStart startYear endYear passes = .error message)) ∧
      manifest.completed = true ∧ manifest.restoreVerification = manifest.tables ∧
      runScript schema (Server.idle (fun _ => []) fun _ => 0) (writeSql schema db.rows selected) =
        (server, none) ∧
      (∀ m row, row ∈ server.committed m ↔ ∃ source ∈ db.rows m,
        (m, db.pk m source) ∈ selected.selectedRows ∧ schema.restored m source = row) ∧
      schema.Valid server.committed ∧ foreignKeysHold schema server.committed = true ∧
      ∀ m, schema.serial m = true → ∀ row ∈ server.committed m,
        ∃ n, row (schema.options m).pk = .number n ∧ n < server.nextValue m := by
  obtain ⟨saturated, ⟨enough, hends⟩, hleast⟩ := @saturate_firstSelection M _ db models
    (yearStart startYear) (yearStart (endYear + 1)) _
  rw [← Selection.selectedRows_nonempty saturated] at hleast
  generalize hselected : saturated.nonempty = selected at hleast
  have hselects : ∀ passes, enough ≤ passes →
      selectRows db models yearStart startYear endYear passes = some selected := by
    intro passes hle
    unfold selectRows
    rw [hends passes hle, ← hselected]
    rfl
  have hthere := row_of_selected hintact hleast
  have hclosed : foreignKeysHold schema (restoredRows schema db.rows selected.get) = true :=
    foreignKeysHold_restoredRows hoptions (Database.intact_restrict hintact hleast.1.2)
  have hnumbered' : ∀ m ∈ selected.entries.map Prod.fst, schema.Numbered db.rows m := by
    intro m hm
    obtain ⟨⟨m, keys⟩, hentry, rfl⟩ := List.mem_map.1 hm
    rw [← hselected] at hentry
    have hne : keys ≠ ∅ := of_decide_eq_true (List.mem_filter.1 hentry).2
    obtain ⟨key, hkey⟩ := Finset.nonempty_iff_ne_empty.2 hne
    rw [hselected] at hentry
    have hin : (m, key) ∈ selected.selectedRows := by
      have hget : key ∈ selected.get m := by
        rw [Selection.get_of_mem hentry]
        exact hkey
      exact hget
    exact hnumbered m (exported_of_selected hoptions hleast (m, key) hin)
  have hverify := @verifyRestore_writeSql M schema db _ rowToJson sha256 models.transaction selected
    hoptions hvalid hnumbered' hclosed (fun key hkey => hthere (models.transaction, key) hkey)
  have hreceipts : selected.get models.transaction ≠ ∅ := by
    obtain ⟨row, hrow⟩ := hreceipt
    have hmem : (models.transaction, db.pk models.transaction row) ∈ selected.selectedRows :=
      hleast.1.1 ⟨row, rfl, Or.inl ⟨rfl, hrow⟩⟩
    exact Finset.ne_empty_of_mem hmem
  have hpk : ∀ m (row : Record), db.pk m row = row (schema.options m).pk := by
    intro m row
    unfold Database.pk
    rw [hoptions]
  let tables := fingerprints schema rowToJson sha256 db.rows selected
  refine ⟨selected, _, ⟨true, startYear, endYear, tables, tables⟩, hleast, ⟨enough, ?_⟩, rfl, rfl,
    runScript_writeSql hvalid hnumbered' hclosed, ?_, valid_restoredRows hvalid, hclosed, ?_⟩
  · intro passes hle
    -- the checks pass, so what is left of the backup is its verification
    rw [backupHistory_eq hyears (hselects passes hle) hreceipts]
    constructor
    · intro hplain
      rw [hverify hplain]
      rfl
    · intro hlines hshown hreturn
      cases hafter : verifyRestore schema rowToJson sha256 models.transaction
          (writeSql schema db.rows selected) selected tables with
      | error message => exact Or.inr ⟨message, rfl⟩
      | ok after =>
          exact Or.inl ((plainRows_of_verifyRestore hlines hshown hafter).resolve_right hreturn)
  · intro m row
    refine mem_restoredRows.trans ?_
    constructor
    · rintro ⟨source, hsource, hkey, hEq⟩
      exact ⟨source, hsource, by rw [hpk]; exact hkey, hEq⟩
    · rintro ⟨source, hsource, hkey, hEq⟩
      rw [hpk] at hkey
      exact ⟨source, hsource, hkey, hEq⟩
  · intro m hserial row hrow
    obtain ⟨source, hsource, hkey, rfl⟩ := mem_restoredRows.1 hrow
    have hexported : schema.Exported models m :=
      exported_of_selected hoptions hleast (m, source (schema.options m).pk) hkey
    obtain ⟨n, -, hn⟩ := (hnumbered m hexported).2 source hsource
    refine ⟨n, by rw [restored_pk]; exact hn, ?_⟩
    have hle := le_maxKey hrow (by rw [restored_pk]; exact hn)
    have hlast : (Server.idle (restoredRows schema db.rows selected.get)
        (restoredLast schema db.rows selected.get)).nextValue m =
          (maxKey (restoredRows schema db.rows selected.get m) (schema.options m).pk).getD 0 + 1 := by
      unfold Server.nextValue Server.idle restoredLast
      simp only [hserial, if_true]
    rw [hlast]
    exact Int.lt_add_one_of_le hle

end Backing

/-! ### One receipt -/

/-- The tables of a receipt and of what belongs to it. -/
inductive ReceiptModel
  | transaction
  | transactionItem
  | order
  | orderItem
  | product
  | category
  | customer
  deriving DecidableEq

namespace ReceiptModel

def options : ReceiptModel → Options ReceiptModel
  | .transaction =>
      { pk := "id"
        concreteFields :=
          [{ attname := "id", relation := none }, { attname := "created_at", relation := none },
            { attname := "customer_id", relation := some { model := .customer, targetField := "id" } },
            { attname := "void_reason", relation := none }] }
  | _ =>
      { pk := "id"
        concreteFields := [{ attname := "id", relation := none }] }

def table : ReceiptModel → String
  | .transaction => "sales_transaction"
  | .transactionItem => "sales_transactionitem"
  | .order => "sales_order"
  | .orderItem => "sales_orderitem"
  | .product => "inventory_product"
  | .category => "inventory_category"
  | .customer => "sales_customer"

def all : List ReceiptModel :=
  [.transaction, .transactionItem, .order, .orderItem, .product, .category, .customer]

instance : Fintype ReceiptModel :=
  { elems := all.toFinset
    complete := by
      intro m
      cases m
      all_goals decide }

def schema : Schema ReceiptModel :=
  { options := options
    models := all
    table := table
    modelOf := fun name => all.find? fun m => decide (table m = name)
    numericKey := fun _ => true
    serial := fun _ => true
    check := fun _ _ => true
    uniqueIndexes := fun _ => []
    mem_models := by decide
    modelOf_table := by decide
    pk_mem := by decide
    target_mem := by
      intro m field hfield relation hrelation
      cases m
      case transaction =>
          simp only [options, List.mem_cons, List.not_mem_nil, or_false] at hfield
          rcases hfield with rfl | rfl | rfl | rfl
          · cases hrelation
          · cases hrelation
          · obtain rfl := Option.some.inj hrelation
            decide
          · cases hrelation
      all_goals
        obtain rfl := List.mem_singleton.1 hfield
        cases hrelation }

/-- A receipt of the first year, for a customer, with the reason it was voided for. -/
def database (reason : String) : Database ReceiptModel :=
  { options := options
    rows := fun m => match m with
      | .transaction => [fun column => match column with
          | "id" => .number 7
          | "created_at" => .time 12
          | "customer_id" => .number 3
          | "void_reason" => .text reason
          | _ => .null]
      | .customer => [fun column => match column with
          | "id" => .number 3
          | _ => .null]
      | _ => []
    keys_nodup := by
      intro m
      cases m
      all_goals simp
    key_ne_null := by
      intro m row hrow
      cases m
      case transaction | customer =>
          obtain rfl := List.mem_singleton.1 hrow
          exact Value.noConfusion
      all_goals exact absurd hrow List.not_mem_nil }

def sales : SalesModels ReceiptModel :=
  { transaction := .transaction
    transactionItem := .transactionItem
    order := .order
    orderItem := .orderItem
    product := .product
    category := .category }

variable (reason : String)

theorem intact_database : (database reason).Intact := by
  intro m row hrow field hfield relation hrelation hnull
  cases m
  case transaction =>
      simp only [database, options, List.mem_cons, List.not_mem_nil, or_false] at hfield
      rcases hfield with rfl | rfl | rfl | rfl
      · cases hrelation
      · cases hrelation
      · obtain rfl := Option.some.inj hrelation
        obtain rfl := List.mem_singleton.1 hrow
        exact ⟨_, List.mem_singleton.2 rfl, rfl⟩
      · cases hrelation
  all_goals
    obtain rfl := List.mem_singleton.1 hfield
    cases hrelation

theorem valid_database : schema.Valid (database reason).rows := by
  refine { checked := ?_, unique := ?_ }
  · intro m row hrow
    exact ⟨(database reason).key_ne_null m row hrow, rfl⟩
  · intro m
    cases m
    case transaction | customer => exact List.pairwise_singleton _ _
    all_goals exact List.Pairwise.nil

/-- The receipt and its customer. -/
def selection : Selection ReceiptModel :=
  { entries := [(.transaction, {.number 7}), (.customer, {.number 3})]
    models_nodup := by decide }

/-- There is no other text in the database. -/
theorem plain_database (hreason : (Value.text reason).hasReturn = false)
    (selected : Selection ReceiptModel) : PlainRows schema (database reason).rows selected := by
  intro m row hrow _ value hvalue
  obtain ⟨column, hcolumn, rfl⟩ := List.mem_map.1 hvalue
  cases m
  case transaction =>
      obtain rfl := List.mem_singleton.1 hrow
      have hcolumns : column ∈ ["id", "created_at", "customer_id", "void_reason"] := hcolumn
      simp only [List.mem_cons, List.not_mem_nil, or_false] at hcolumns
      rcases hcolumns with rfl | rfl | rfl | rfl
      · rfl
      · rfl
      · rfl
      · exact hreason
  case customer =>
      obtain rfl := List.mem_singleton.1 hrow
      obtain rfl := List.mem_singleton.1 hcolumn
      rfl
  all_goals exact absurd hrow List.not_mem_nil

theorem numbered_database (m : ReceiptModel) : schema.Numbered (database reason).rows m := by
  refine ⟨rfl, ?_⟩
  intro row hrow
  cases m
  case transaction =>
      obtain rfl := List.mem_singleton.1 hrow
      exact ⟨7, by decide, rfl⟩
  case customer =>
      obtain rfl := List.mem_singleton.1 hrow
      exact ⟨3, by decide, rfl⟩
  all_goals exact absurd hrow List.not_mem_nil

end ReceiptModel

/-- A line that shows whether one of its texts has a carriage return, and nothing else. -/
def returnLine (row : List (String × Value)) : List Char :=
  if row.any fun column => column.2.hasReturn then ['r'] else ['p']

theorem showsReturns_returnLine : ShowsReturns returnLine := by
  intro row row' h
  unfold returnLine at h
  cases hrow : row.any fun column => column.2.hasReturn with
  | true =>
      cases hrow' : row'.any fun column => column.2.hasReturn with
      | true => rfl
      | false =>
          rw [hrow, hrow'] at h
          exact absurd h (by decide)
  | false =>
      cases hrow' : row'.any fun column => column.2.hasReturn with
      | true =>
          rw [hrow, hrow'] at h
          exact absurd h (by decide)
      | false => rfl

theorem backup_history_restores_receipt :
    (∃ (selected : Selection ReceiptModel) (server : Server ReceiptModel) (manifest : Manifest),
      (∃ enough, ∀ passes, enough ≤ passes →
        backupHistory ReceiptModel.schema returnLine String.ofList "postgresql" 2026
          (ReceiptModel.database "twice") ReceiptModel.sales (fun year => 365 * (year - 2023)) 2023 2025
          passes =
            .ok (writeSql ReceiptModel.schema (ReceiptModel.database "twice").rows selected,
              manifest)) ∧
      manifest.completed = true ∧
      runScript ReceiptModel.schema (Server.idle (fun _ => []) fun _ => 0)
        (writeSql ReceiptModel.schema (ReceiptModel.database "twice").rows selected) =
          (server, none)) ∧
    ∃ enough, ∀ passes, enough ≤ passes → ∃ message,
      backupHistory ReceiptModel.schema returnLine String.ofList "postgresql" 2026
        (ReceiptModel.database "twice\r\nby mistake") ReceiptModel.sales
        (fun year => 365 * (year - 2023)) 2023 2025 passes = .error message := by
  have hrestores (reason : String) :=
    backup_history_restores ReceiptModel.schema returnLine String.ofList (ReceiptModel.database reason)
      ReceiptModel.sales (fun year => 365 * (year - 2023)) 2023 2025 2026 rfl
      (ReceiptModel.intact_database reason) (ReceiptModel.valid_database reason)
      (fun m _ => ReceiptModel.numbered_database reason m) (by decide)
      ⟨_, List.mem_singleton.2 rfl, rfl, rfl⟩
  constructor
  · -- without a carriage return the backup completes
    obtain ⟨selected, server, manifest, -, ⟨enough, hbacks⟩, hcompleted, -, hruns, -⟩ :=
      hrestores "twice"
    have hplain := ReceiptModel.plain_database "twice" (by decide) selected
    exact ⟨selected, server, manifest, ⟨enough, fun passes hle => (hbacks passes hle).1 hplain⟩,
      hcompleted, hruns⟩
  · -- the receipt is selected with its reason, so its line is not the one that is restored
    obtain ⟨selected, _, _, hleast, ⟨enough, hbacks⟩, -⟩ := hrestores "twice\r\nby mistake"
    have hreceipt : (ReceiptModel.transaction, Value.number 7) ∈ selected.selectedRows :=
      hleast.1.1 ⟨_, rfl, Or.inl ⟨rfl, List.mem_singleton.2 rfl, rfl, rfl⟩⟩
    have hreturn : ¬ PlainRows ReceiptModel.schema
        (ReceiptModel.database "twice\r\nby mistake").rows selected := by
      intro hplain
      have hvalue := hplain .transaction _ (List.mem_singleton.2 rfl) hreceipt
        (.text "twice\r\nby mistake") (by decide)
      exact absurd hvalue (by decide)
    refine ⟨enough, fun passes hle => ?_⟩
    have hlines : ∀ row, '\n' ∉ returnLine row := by
      intro row
      unfold returnLine
      split
      · decide
      · decide
    obtain ⟨text, text', hne, hEq⟩ | hfails :=
      (hbacks passes hle).2 hlines showsReturns_returnLine hreturn
    · exact absurd (String.ofList_injective hEq) hne
    · exact hfails

end Backups
end RosarioDairy
