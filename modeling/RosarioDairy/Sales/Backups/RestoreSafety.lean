import RosarioDairy.Sales.Backups.BackupHistory

/-!
# Restore safety — restores that are cut short, repeated or verified

A restore changes the database as a whole or not at all: a script that is cut short, or that meets rows
it cannot be beside, leaves every table as it was.  And whatever script passes the verification of a
backup has stored the rows whose fingerprints were taken, in tables that are valid.
-/

namespace RosarioDairy
namespace Backups

open Foundations

variable {M : Type} {schema : Schema M}

theorem ne_commit_of_mem_writeTable {rows : M → List Record} {keys : M → Finset Value} {m : M}
    {statement : Statement} (h : statement ∈ writeTable schema rows keys m) : statement ≠ .commit := by
  unfold writeTable at h
  rcases List.mem_append.1 h with hinsert | hsetval
  · obtain ⟨group, -, rfl⟩ := List.mem_map.1 hinsert
    simp
  · obtain rfl := List.mem_singleton.1 hsetval
    simp

/-! ## What a statement keeps -/

variable [DecidableEq M]

/-- No statement takes a row from those the transaction sees. -/
theorem rows_execute {server next : Server M} {statement : Statement}
    (h : execute schema server statement = .ok next) {m : M} {row : Record}
    (hrow : row ∈ server.working m) : row ∈ next.working m := by
  rcases execute_cases h with ⟨-, hEq, -⟩ | ⟨_, _, _, m', -, -, stored, hstored, rfl⟩ | ⟨-, -, rfl⟩
  · rwa [hEq]
  · dsimp only
    by_cases hm : m = m'
    · subst hm
      rw [Function.update_self, (foldlM_insertRow_eq_ok hstored).1]
      exact List.mem_append_left _ hrow
    · rwa [Function.update_of_ne hm]
  · exact hrow

/-- Only a commit changes what is committed, and only there a block ends. -/
theorem committed_execute {server next : Server M} {statement : Statement}
    (h : execute schema server statement = .ok next) (hcommit : statement ≠ .commit) :
    next.committed = server.committed ∧ (server.inBlock = true → next.inBlock = true) := by
  rcases execute_cases h with ⟨-, -, hEq, hblock⟩ | ⟨_, _, _, m, -, -, stored, -, rfl⟩ | ⟨hEq, -⟩
  · exact ⟨hEq, hblock⟩
  · exact ⟨rfl, fun hblock => hblock⟩
  · exact absurd hEq hcommit

/-! ## Restores that are cut short or repeated -/

/-- In a block, statements without a commit leave what is committed, whether they fail or not. -/
theorem committed_runScript {server : Server M} {script : List Statement}
    (hblock : server.inBlock = true) (hcommit : ∀ statement ∈ script, statement ≠ .commit) :
    (runScript schema server script).1.committed = server.committed := by
  induction script generalizing server with
  | nil =>
      unfold runScript disconnect
      rw [if_neg (by simp [hblock])]
      rfl
  | cons statement script ih =>
      unfold runScript
      cases hfirst : execute schema server statement with
      | ok next =>
          obtain ⟨hEq, hopen⟩ := committed_execute hfirst (hcommit statement List.mem_cons_self)
          dsimp only
          rw [ih (hopen hblock) fun other hother => hcommit other (List.mem_cons_of_mem _ hother), hEq]
      | error message => rfl

/-- A script that stops with an error has not come past its commit, which is its last statement. -/
theorem committed_of_error {server : Server M} {init : List Statement}
    (hcommit : ∀ statement ∈ init, statement ≠ .commit)
    (herror : (runScript schema server (init ++ [.commit])).2 ≠ none) :
    (runScript schema server (init ++ [.commit])).1.committed = server.committed := by
  induction init generalizing server with
  | nil =>
      rw [List.nil_append] at herror ⊢
      unfold runScript at herror ⊢
      cases hlast : execute schema server .commit with
      | ok next =>
          rw [hlast] at herror
          exact absurd rfl herror
      | error message => rfl
  | cons statement init ih =>
      rw [List.cons_append] at herror ⊢
      unfold runScript at herror ⊢
      cases hfirst : execute schema server statement with
      | ok next =>
          rw [hfirst] at herror
          dsimp only at herror ⊢
          have hEq := (committed_execute hfirst (hcommit statement List.mem_cons_self)).1
          rw [ih (fun other hother => hcommit other (List.mem_cons_of_mem _ hother)) herror, hEq]
      | error message => rfl

/-- Statements that all succeed have inserted nothing that cannot stand beside what was there. -/
theorem conflicts_of_runs {server last : Server M} {script : List Statement}
    (h : script.foldlM (execute schema) server = .ok last) {m : M} {columns : List String}
    {rows : List (List Value)} (hmem : .insert (schema.table m) columns rows ∈ script) {row : Record}
    (hrow : row ∈ server.working m) {values : List Value} (hvalues : values ∈ rows) :
    conflicts schema m row (recordOf columns values) = false := by
  induction script generalizing server with
  | nil => exact absurd hmem List.not_mem_nil
  | cons statement script ih =>
      rw [List.foldlM_cons] at h
      obtain ⟨next, hfirst, hrest⟩ := bind_eq_ok.1 h
      rcases List.mem_cons.1 hmem with rfl | hlater
      · obtain ⟨m', hm', hnext⟩ := demand_bind_eq_ok.1 hfirst
        obtain rfl := Option.some.inj ((schema.modelOf_table m).symm.trans hm')
        obtain ⟨stored, hstored, -⟩ := bind_eq_ok.1 hnext
        exact (foldlM_insertRow_eq_ok hstored).2.2.2 row hrow _ (List.mem_map_of_mem hvalues)
      · exact ih hrest hlater (rows_execute hfirst hrow)

/-- A script without its last statement has no commit. -/
theorem ne_commit_of_mem_init {rows : M → List Record} {selected : Selection M} {statement : Statement}
    (h : statement ∈ (writeSql schema rows selected).dropLast) : statement ≠ .commit := by
  have hinit : (writeSql schema rows selected).dropLast =
      [.begin, .setTimeZone, .setConstraints false] ++
        (sortedModels schema selected).flatMap (writeTable schema rows selected.get) ++
          [.setConstraints true] := by
    unfold writeSql
    rw [List.dropLast_append_of_ne_nil (by simp)]
    rfl
  rw [hinit] at h
  simp only [List.mem_append, List.mem_cons, List.not_mem_nil, or_false, List.mem_flatMap] at h
  rcases h with ((rfl | rfl | rfl) | ⟨m, -, hm⟩) | rfl
  · simp
  · simp
  · simp
  · exact ne_commit_of_mem_writeTable hm
  · simp

theorem writeSql_eq_append {rows : M → List Record} {selected : Selection M} :
    writeSql schema rows selected = (writeSql schema rows selected).dropLast ++ [.commit] := by
  have hne : writeSql schema rows selected ≠ [] := by simp [writeSql]
  have hlast : (writeSql schema rows selected).getLast hne = .commit := by simp [writeSql]
  rw [← hlast, List.dropLast_append_getLast hne]

theorem committed_take_writeSql {rows stored : M → List Record} {selected : Selection M}
    {lastValue : M → Int} {kept : Nat} (hkept : kept < (writeSql schema rows selected).length) :
    (runScript schema (Server.idle stored lastValue)
      ((writeSql schema rows selected).take kept)).1.committed = stored := by
  cases kept with
  | zero => simp [runScript, disconnect, Server.idle]
  | succ kept =>
      have hinit : ∀ statement ∈ (writeSql schema rows selected).take (kept + 1),
          statement ≠ .commit := by
        intro statement hmem
        refine @ne_commit_of_mem_init M schema _ rows selected statement ?_
        rw [List.dropLast_eq_take]
        refine (List.take_sublist_take_left ?_).subset hmem
        exact Nat.le_sub_one_of_lt hkept
      have hbegin : (writeSql schema rows selected).take (kept + 1) =
          .begin :: ((writeSql schema rows selected).drop 1).take kept := by
        unfold writeSql
        simp
      rw [hbegin] at hinit ⊢
      -- the first statement opens the block that the rest is in
      have hstep : runScript schema (Server.idle stored lastValue)
          (.begin :: ((writeSql schema rows selected).drop 1).take kept) =
            runScript schema { Server.idle stored lastValue with inBlock := true }
              (((writeSql schema rows selected).drop 1).take kept) := rfl
      rw [hstep, committed_runScript rfl fun statement hmem =>
        hinit statement (List.mem_cons_of_mem _ hmem)]
      rfl

/-- A restore changes the tables as a whole or not at all.  A script that is cut short, and one that
stops with an error, leave every table as it was; and a script stops with an error wherever one of its
rows cannot stand beside a row that is there, as when it is restored a second time. -/
theorem restore_all_or_nothing (schema : Schema M) (rows stored : M → List Record)
    (selected : Selection M) (lastValue : M → Int) :
    (∀ kept < (writeSql schema rows selected).length,
      (runScript schema (Server.idle stored lastValue)
        ((writeSql schema rows selected).take kept)).1.committed = stored) ∧
    ((runScript schema (Server.idle stored lastValue) (writeSql schema rows selected)).2 ≠ none →
      (runScript schema (Server.idle stored lastValue) (writeSql schema rows selected)).1.committed =
        stored) ∧
    ∀ m, ∀ row ∈ stored m, ∀ source ∈ rows m, source (schema.options m).pk ∈ selected.get m →
      conflicts schema m row (schema.restored m source) = true →
        (runScript schema (Server.idle stored lastValue) (writeSql schema rows selected)).2 ≠ none := by
  refine ⟨fun kept hkept => committed_take_writeSql hkept, ?_, ?_⟩
  · intro herror
    rw [writeSql_eq_append] at herror ⊢
    exact committed_of_error (fun statement hmem => ne_commit_of_mem_init hmem) herror
  · intro m row hrow source hsource hkey hconflict hnone
    obtain ⟨last, hruns⟩ := runScript_snd_eq_none.1 hnone
    -- the row is in one of the batches of its table
    have hvalues : (schema.options m).values source ∈
        (batches 250 ((orderedRows (schema.options m) (selected.get m) (rows m)).map
          (schema.options m).values)).flatten := by
      rw [flatten_batches]
      exact List.mem_map_of_mem (mem_orderedRows.2 ⟨hsource, hkey⟩)
    obtain ⟨group, hgroup, hin⟩ := List.mem_flatten.1 hvalues
    have hmodel : m ∈ sortedModels schema selected := by
      obtain ⟨keys, hentry, -⟩ := Selection.exists_entry hkey
      exact mem_sortedModels.2 (List.mem_map_of_mem (f := Prod.fst) hentry)
    have hinsert : Statement.insert (schema.table m) (schema.options m).columns group ∈
        writeSql schema rows selected := by
      unfold writeSql
      refine List.mem_append_left _ (List.mem_append_right _ (List.mem_flatMap.2 ⟨m, hmodel, ?_⟩))
      exact List.mem_append_left _ (List.mem_map_of_mem hgroup)
    have hfree := conflicts_of_runs hruns hinsert hrow hin
    rw [recordOf_values, hconflict] at hfree
    exact Bool.noConfusion hfree

/-! ## Verified restores -/

theorem valid_insert {working : M → List Record} (hvalid : schema.Valid working) {m : M}
    {new stored : List Record} (h : new.foldlM (insertRow schema m) (working m) = .ok stored) :
    schema.Valid (Function.update working m stored) := by
  obtain ⟨hEq, hchecked, hpair, -⟩ := foldlM_insertRow_eq_ok h
  refine { checked := ?_, unique := ?_ }
  · intro m' row hrow
    by_cases hm : m' = m
    · subst hm
      rw [Function.update_self, hEq] at hrow
      rcases List.mem_append.1 hrow with hold | hnew
      · exact hvalid.checked m' row hold
      · exact hchecked row hnew
    · rw [Function.update_of_ne hm] at hrow
      exact hvalid.checked m' row hrow
  · intro m'
    by_cases hm : m' = m
    · subst hm
      rw [Function.update_self]
      exact hpair (hvalid.unique m')
    · rw [Function.update_of_ne hm]
      exact hvalid.unique m'

/-- The rows that a transaction sees stay valid. -/
theorem valid_execute {server next : Server M} {statement : Statement}
    (hvalid : schema.Valid server.working) (h : execute schema server statement = .ok next) :
    schema.Valid next.working := by
  rcases execute_cases h with ⟨-, hworking, -⟩ | ⟨_, _, _, m, -, -, stored, hstored, rfl⟩ | ⟨-, -, rfl⟩
  · rw [hworking]
    exact hvalid
  · exact valid_insert hvalid hstored
  · exact hvalid

/-- Whatever script passes the verification of a backup has stored, in valid tables, the very rows under
the selected keys whose fingerprints were taken, line by line, and no receipt beside the selected ones,
unless two different texts have the same digest.  If the script, as it was read, has ended outside every
block, these rows are committed and have all their foreign keys; in a block that is still open nothing
has checked either. -/
theorem verify_restore_sound (schema : Schema M) (rowToJson : List (String × Value) → List Char)
    (sha256 : List Char → String) (db : Database M) (transaction : M) (selected : Selection M)
    (script : List Statement) (after : List Fingerprint) (hoptions : db.options = schema.options)
    (hlines : ∀ row, '\n' ∉ rowToJson row)
    (hthere : ∀ key ∈ selected.selectedRows, ∃ row ∈ db.rows key.1, db.pk key.1 row = key.2)
    (h : verifyRestore schema rowToJson sha256 transaction script selected
      (fingerprints schema rowToJson sha256 db.rows selected) = .ok after) :
    (∃ text text', text ≠ text' ∧ sha256 text = sha256 text') ∨
      ∃ server, executeScript schema (Server.idle (fun _ => []) fun _ => 0) (readBack script) =
          .ok server ∧
        schema.Valid server.working ∧
        (∀ m, jsonLines schema rowToJson selected.get server.working m =
          jsonLines schema rowToJson selected.get db.rows m) ∧
        (∀ row ∈ server.working transaction,
          row (schema.options transaction).pk ∈ selected.get transaction) ∧
        (server.inBlock = false → server.committed = server.working ∧
          foreignKeysHold schema server.committed = true) := by
  refine (verifyRestore_eq_ok hlines h).imp_right ?_
  rintro ⟨server, hrun, hsame, hcount⟩
  obtain ⟨last, hlast, hworking, hends⟩ := working_of_executeScript hrun
  have hempty : schema.Valid (Server.idle (fun _ => []) fun _ => 0 : Server M).working :=
    { checked := by simp [Server.idle]
      unique := by simp [Server.idle] }
  refine ⟨server, hrun, ?_, hsame, ?_, ?_⟩
  · rw [hworking]
    exact foldlM_preserves (P := fun server : Server M => schema.Valid server.working)
      (fun _ _ _ _ hvalid hnext => valid_execute hvalid hnext) hlast hempty
  · -- as many receipts are there as were selected, and as many of them are selected ones
    have hselected : ((server.working transaction).filter fun row =>
        decide (row (schema.options transaction).pk ∈ selected.get transaction)).length =
          (selected.get transaction).card := by
      have hlength := congrArg List.length (hsame transaction)
      have hsource := @length_restoredRows M schema db selected.get transaction hoptions
        fun key hkey => hthere (transaction, key) hkey
      simp only [jsonLines, orderedRows, List.length_map, List.length_mergeSort] at hlength
      simp only [restoredRows, orderedRows, List.length_map, List.length_mergeSort] at hsource
      rw [hlength, hsource]
    rw [← hcount, List.length_filter_eq_length_iff] at hselected
    intro row hrow
    exact of_decide_eq_true (hselected row hrow)
  · intro hblock
    obtain ⟨hholds, hcommitted⟩ := hends hblock
    exact ⟨hcommitted, by rw [hcommitted]; exact hholds⟩

theorem closed_receipt :
    foreignKeysHold ReceiptModel.schema (restoredRows ReceiptModel.schema (ReceiptModel.database "twice").rows
      ReceiptModel.selection.get) = true := by
  refine foreignKeysHold_restoredRows rfl ?_
  intro m row hrow field hfield relation hrelation hnull
  cases m
  case transaction =>
      have hfields : field ∈ (ReceiptModel.options .transaction).concreteFields := hfield
      simp only [ReceiptModel.options, List.mem_cons, List.not_mem_nil, or_false] at hfields
      rcases hfields with rfl | rfl | rfl | rfl
      · cases hrelation
      · cases hrelation
      · obtain rfl := Option.some.inj hrelation
        obtain rfl := List.mem_singleton.1 (List.mem_filter.1 hrow).1
        exact ⟨_, List.mem_filter.2 ⟨List.mem_singleton.2 rfl, by decide⟩, rfl⟩
      · cases hrelation
  all_goals
    obtain rfl := List.mem_singleton.1 hfield
    cases hrelation

theorem verify_restore_sound_receipt :
    ∃ server, executeScript ReceiptModel.schema (Server.idle (fun _ => []) fun _ => 0)
        (readBack (writeSql ReceiptModel.schema (ReceiptModel.database "twice").rows ReceiptModel.selection)) =
          .ok server ∧
      ∀ row ∈ server.working .transaction,
        row (ReceiptModel.schema.options .transaction).pk ∈
          ReceiptModel.selection.get .transaction := by
  have hthere : ∀ key ∈ ReceiptModel.selection.selectedRows,
      ∃ row ∈ (ReceiptModel.database "twice").rows key.1, (ReceiptModel.database "twice").pk key.1 row = key.2 := by
    rintro ⟨m, key⟩ hkey
    cases m
    case transaction | customer =>
        obtain rfl := Finset.mem_singleton.1 hkey
        exact ⟨_, List.mem_singleton.2 rfl, rfl⟩
    all_goals exact absurd hkey (Finset.notMem_empty _)
  obtain ⟨text, text', hne, hEq⟩ | ⟨server, hrun, -, -, hreceipts, -⟩ :=
    verify_restore_sound ReceiptModel.schema (fun _ => ['r']) String.ofList (ReceiptModel.database "twice")
      .transaction ReceiptModel.selection _ _ rfl (fun _ => by decide) hthere
      (verifyRestore_writeSql rfl (ReceiptModel.valid_database "twice")
        (fun m _ => ReceiptModel.numbered_database "twice" m) closed_receipt
        (fun key hkey => hthere (.transaction, key) hkey) (ReceiptModel.plain_database "twice" (by decide) _))
  · exact absurd (String.ofList_injective hEq) hne
  · exact ⟨server, hrun, hreceipts⟩

end Backups
end RosarioDairy
