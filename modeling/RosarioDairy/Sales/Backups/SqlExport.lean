import Mathlib.Data.List.Sort
import RosarioDairy.Foundations.Batches
import RosarioDairy.Foundations.Checked
import RosarioDairy.Foundations.Lines
import RosarioDairy.Sales.Backups.ForeignKeyClosure

/-!
# SQL export — the script of a sales backup, and the server that runs it

A backup writes the selected rows as a script: for each table, in the order of the table names, inserts
of at most 250 rows in the order of the primary keys, and a statement that moves the table's sequence
behind them.  A server runs the script in one transaction whose foreign keys are checked at its end.
Carriage returns stand in the literals of a script as they are, and are lost when it is read as text.
-/

namespace RosarioDairy
namespace Backups

open Foundations

variable {M : Type}

/-! ## Rows in the order of their keys -/

namespace Value

def kind : Value → Nat
  | .null => 0
  | .number _ => 1
  | .text _ => 2
  | .time _ => 3

/-- The order of a column, whose values are of one kind. -/
def le : Value → Value → Bool
  | .number n, .number n' => decide (n ≤ n')
  | .text s, .text s' => decide (s ≤ s')
  | .time t, .time t' => decide (t ≤ t')
  | a, b => decide (a.kind ≤ b.kind)

theorem le_total (a b : Value) : (a.le b || b.le a) = true := by
  cases a <;> cases b <;> simp [le, kind, Int.le_total, String.le_total]

theorem le_trans {a b c : Value} (hab : a.le b = true) (hbc : b.le c = true) : a.le c = true := by
  cases a <;> cases b <;> cases c <;> simp_all [le, kind]
  · omega
  · exact String.le_trans hab hbc
  · omega

end Value

/-! ## Texts with carriage returns -/

namespace Value

def hasReturn : Value → Bool
  | .text s => decide ('\r' ∈ s.toList)
  | _ => false

/-- The value whose literal is left of it when the script is read with universal newlines. -/
def reread : Value → Value
  | .text s => .text (String.ofList (universalNewlines s.toList))
  | value => value

theorem hasReturn_reread (value : Value) : value.reread.hasReturn = false := by
  cases value with
  | text s => simp [reread, hasReturn, not_mem_universalNewlines]
  | _ => rfl

theorem reread_eq_self {value : Value} (h : value.hasReturn = false) : value.reread = value := by
  cases value with
  | text s =>
      have hplain : '\r' ∉ s.toList := of_decide_eq_false h
      simp [reread, universalNewlines_eq_self hplain]
  | _ => rfl

end Value

/-- `model._meta.concrete_fields`, by the names of their columns. -/
def Options.columns (options : Options M) : List String := options.concreteFields.map Field.attname

/-- What a row holds in its columns. -/
def Options.values (options : Options M) (row : Record) : List Value := options.columns.map row

/-- `.filter(pk__in=keys).order_by('pk')` -/
def orderedRows (options : Options M) (keys : Finset Value) (rows : List Record) : List Record :=
  (rows.filter fun row => decide (row options.pk ∈ keys)).mergeSort fun row row' =>
    (row options.pk).le (row' options.pk)

/-! ## Scripts -/

/-- A statement of an export. -/
inductive Statement
  | begin
  | setTimeZone
  | setConstraints (immediate : Bool)
  | insert (table : String) (columns : List String) (rows : List (List Value))
  | setval (table pk : String)
  | commit

/-- `path.read_text`; the names in a script are those of the tables, and have no line ends. -/
def Statement.reread : Statement → Statement
  | .insert table columns rows => .insert table columns (rows.map fun row => row.map Value.reread)
  | statement => statement

def readBack (script : List Statement) : List Statement := script.map Statement.reread

/-- The tables of the application: their names, whether the primary key is a number and whether it comes
from a sequence, what the values of a row have to meet, and the unique indexes, each as the entry
that it makes of the values of a row (none where a value is null or its condition is not met). -/
structure Schema (M : Type) where
  options : M → Options M
  models : List M
  table : M → String
  modelOf : String → Option M
  numericKey : M → Bool
  serial : M → Bool
  check : M → List Value → Bool
  uniqueIndexes : M → List (List Value → Option (List Value))
  mem_models : ∀ m, m ∈ models
  modelOf_table : ∀ m, modelOf (table m) = some m
  pk_mem : ∀ m, (options m).pk ∈ (options m).columns
  target_mem : ∀ m, ∀ field ∈ (options m).concreteFields, ∀ relation, field.relation = some relation →
    relation.targetField ∈ (options relation.model).columns

section Writing

variable (schema : Schema M)

/-- The part of a script for one table. -/
def writeTable (rows : M → List Record) (keys : M → Finset Value) (m : M) : List Statement :=
  let ordered := orderedRows (schema.options m) (keys m) (rows m)
  (batches 250 (ordered.map (schema.options m).values)).map
      (Statement.insert (schema.table m) (schema.options m).columns) ++
    [Statement.setval (schema.table m) (schema.options m).pk]

/-- `sorted(selected, key=lambda m: m._meta.db_table)` -/
def sortedModels [DecidableEq M] (selected : Selection M) : List M :=
  (selected.entries.map Prod.fst).mergeSort fun m m' => decide (schema.table m ≤ schema.table m')

def writeSql [DecidableEq M] (rows : M → List Record) (selected : Selection M) : List Statement :=
  [.begin, .setTimeZone, .setConstraints false] ++
    (sortedModels schema selected).flatMap (writeTable schema rows selected.get) ++
      [.setConstraints true, .commit]

end Writing

/-! ## Servers -/

/-- The rows that are committed and those the open transaction sees, whether it was begun by a
statement and checks its foreign keys at once, and the last value of the sequence of each table,
which no rollback takes back. -/
structure Server (M : Type) where
  committed : M → List Record
  working : M → List Record
  inBlock : Bool
  immediate : Bool
  lastValue : M → Int

/-- A server that holds some rows, between two transactions. -/
def Server.idle (rows : M → List Record) (lastValue : M → Int) : Server M :=
  { committed := rows
    working := rows
    inBlock := false
    immediate := false
    lastValue := lastValue }

/-- The value that the sequence of a table hands out next. -/
def Server.nextValue (server : Server M) (m : M) : Int := server.lastValue m + 1

section Running

variable (schema : Schema M)

/-- Every foreign key that is not null has its row. -/
def foreignKeysHold (rows : M → List Record) : Bool :=
  schema.models.all fun m => (rows m).all fun row => (schema.options m).concreteFields.all fun field =>
    match field.relation with
    | none => true
    | some relation =>
        decide (row field.attname = .null) ||
          (rows relation.model).any fun target =>
            decide (target relation.targetField = row field.attname)

/-- Two rows that cannot be in a table together. -/
def conflicts (m : M) (row row' : Record) : Bool :=
  decide (row (schema.options m).pk = row' (schema.options m).pk) ||
    (schema.uniqueIndexes m).any fun index =>
      (index ((schema.options m).values row)).isSome &&
        decide (index ((schema.options m).values row) = index ((schema.options m).values row'))

def insertRow (m : M) (rows : List Record) (row : Record) : Except String (List Record) := do
  require (row (schema.options m).pk ≠ .null ∧ schema.check m ((schema.options m).values row) = true)
    "new row violates a constraint of the table"
  require ((rows.any fun other => conflicts schema m other row) = false)
    "duplicate key value violates unique constraint"
  pure (rows ++ [row])

/-- The row that an insert makes of its values. -/
def recordOf (columns : List String) (values : List Value) : Record :=
  fun column => ((columns.zip values).lookup column).getD .null

/-- `SELECT MAX(pk)`; the maximum of no rows is null. -/
def maxKey (rows : List Record) (pk : String) : Option Int :=
  (rows.filterMap fun row => match row pk with | .number n => some n | _ => none).max?

/-- Move a sequence; a table without a sequence, and a maximum of null, leave everything as it is. -/
def setval (server : Server M) [DecidableEq M] (m : M) (pk : String) : Except String (Server M) := do
  require (schema.numericKey m = true) "function setval does not exist for this type"
  match maxKey (server.working m) pk with
  | none => pure server
  | some last =>
      if schema.serial m then do
        require (1 ≤ last) "setval: value is out of bounds for sequence"
        pure { server with lastValue := Function.update server.lastValue m last }
      else pure server

def execute [DecidableEq M] (server : Server M) : Statement → Except String (Server M)
  | .begin => pure { server with inBlock := true }
  | .setTimeZone => pure server
  | .setConstraints immediate => do
      require (immediate = false ∨ foreignKeysHold schema server.working = true)
        "insert or update violates foreign key constraint"
      pure { server with immediate := immediate }
  | .insert table columns rows => do
      let m ← demand (schema.modelOf table) "relation does not exist"
      let stored ← (rows.map (recordOf columns)).foldlM (insertRow schema m) (server.working m)
      let working := Function.update server.working m stored
      require (server.immediate = false ∨ foreignKeysHold schema working = true)
        "insert or update violates foreign key constraint"
      pure { server with working := working }
  | .setval table pk => do
      let m ← demand (schema.modelOf table) "relation does not exist"
      setval schema server m pk
  | .commit => do
      require (foreignKeysHold schema server.working = true)
        "insert or update violates foreign key constraint"
      pure (Server.idle server.working server.lastValue)

/-- What is left when the connection is closed: an open block is lost, and the statements outside every
block commit together when their foreign keys hold. -/
def disconnect (server : Server M) : Server M :=
  if server.inBlock = false ∧ foreignKeysHold schema server.working = true then
    Server.idle server.working server.lastValue
  else Server.idle server.committed server.lastValue

/-- Run a script up to its first error, which takes back what is not committed. -/
def runScript [DecidableEq M] (server : Server M) : List Statement → Server M × Option String
  | [] => (disconnect schema server, none)
  | statement :: script =>
      match execute schema server statement with
      | .ok next => runScript next script
      | .error message => (Server.idle server.committed server.lastValue, some message)

/-- `cursor.execute` of a whole script: what stands outside every block commits at its end, and a block
that is still open stays open. -/
def executeScript [DecidableEq M] (server : Server M) (script : List Statement) :
    Except String (Server M) := do
  let ended ← script.foldlM (execute schema) server
  if ended.inBlock then pure ended
  else do
    require (foreignKeysHold schema ended.working = true)
      "insert or update violates foreign key constraint"
    pure (Server.idle ended.working ended.lastValue)

end Running

/-! ## What a statement can do -/

section Executing

variable {schema : Schema M}

/-- Inserted rows stand behind those that are there, beside which they can be. -/
theorem foldlM_insertRow_eq_ok {m : M} {new stored stored' : List Record}
    (h : new.foldlM (insertRow schema m) stored = .ok stored') :
    stored' = stored ++ new ∧
      (∀ row ∈ new, row (schema.options m).pk ≠ .null ∧
        schema.check m ((schema.options m).values row) = true) ∧
      (stored.Pairwise (fun row row' => conflicts schema m row row' = false) →
        stored'.Pairwise fun row row' => conflicts schema m row row' = false) ∧
      ∀ row ∈ stored, ∀ row' ∈ new, conflicts schema m row row' = false := by
  induction new generalizing stored with
  | nil =>
      obtain rfl := pure_eq_ok.1 h
      exact ⟨(List.append_nil _).symm, by simp, fun hpair => hpair, by simp⟩
  | cons row new ih =>
      rw [List.foldlM_cons] at h
      obtain ⟨middle, hfirst, hrest⟩ := bind_eq_ok.1 h
      unfold insertRow at hfirst
      rw [require_bind_eq_ok, require_bind_eq_ok] at hfirst
      obtain ⟨hchecked, hfresh, hmiddle⟩ := hfirst
      obtain rfl := pure_eq_ok.1 hmiddle
      have hfresh' : ∀ other ∈ stored, conflicts schema m other row = false := by
        intro other hother
        have hno := List.any_eq_false.1 hfresh other hother
        simpa using hno
      obtain ⟨hEq, hothers, hpair, hbeside⟩ := ih hrest
      refine ⟨?_, ?_, ?_, ?_⟩
      · rw [hEq, List.append_assoc]
        rfl
      · intro other hother
        rcases List.mem_cons.1 hother with rfl | hother
        · exact hchecked
        · exact hothers other hother
      · intro hstored
        refine hpair (List.pairwise_append.2 ⟨hstored, List.pairwise_singleton _ _, ?_⟩)
        intro other hother row' hrow'
        obtain rfl := List.mem_singleton.1 hrow'
        exact hfresh' other hother
      · intro other hother row' hrow'
        rcases List.mem_cons.1 hrow' with rfl | hrow'
        · exact hfresh' other hother
        · exact hbeside other (List.mem_append_left _ hother) row' hrow'

variable [DecidableEq M]

/-- What a statement can do: leave the rows alone, store more of them, or commit. -/
theorem execute_cases {server next : Server M} {statement : Statement}
    (h : execute schema server statement = .ok next) :
    (statement ≠ .commit ∧ next.working = server.working ∧ next.committed = server.committed ∧
        (server.inBlock = true → next.inBlock = true)) ∨
      (∃ table columns rows m, statement = .insert table columns rows ∧
        schema.modelOf table = some m ∧ ∃ stored,
          (rows.map (recordOf columns)).foldlM (insertRow schema m) (server.working m) = .ok stored ∧
            next = { server with working := Function.update server.working m stored }) ∨
      (statement = .commit ∧ foreignKeysHold schema server.working = true ∧
        next = Server.idle server.working server.lastValue) := by
  cases statement with
  | begin =>
      obtain rfl := pure_eq_ok.1 h
      exact Or.inl ⟨by simp, rfl, rfl, fun _ => rfl⟩
  | setTimeZone =>
      obtain rfl := pure_eq_ok.1 h
      exact Or.inl ⟨by simp, rfl, rfl, fun hblock => hblock⟩
  | setConstraints immediate =>
      obtain ⟨-, hnext⟩ := require_bind_eq_ok.1 h
      obtain rfl := pure_eq_ok.1 hnext
      exact Or.inl ⟨by simp, rfl, rfl, fun hblock => hblock⟩
  | insert table columns rows =>
      obtain ⟨m, hm, hnext⟩ := demand_bind_eq_ok.1 h
      obtain ⟨stored, hstored, hnext⟩ := bind_eq_ok.1 hnext
      obtain ⟨-, hnext⟩ := require_bind_eq_ok.1 hnext
      obtain rfl := pure_eq_ok.1 hnext
      exact Or.inr (Or.inl ⟨table, columns, rows, m, rfl, hm, stored, hstored, rfl⟩)
  | setval table pk =>
      obtain ⟨m, -, hnext⟩ := demand_bind_eq_ok.1 h
      unfold setval at hnext
      obtain ⟨-, hnext⟩ := require_bind_eq_ok.1 hnext
      -- at most the sequence has moved
      split at hnext
      · obtain rfl := pure_eq_ok.1 hnext
        exact Or.inl ⟨by simp, rfl, rfl, fun hblock => hblock⟩
      · split at hnext
        · obtain ⟨-, hnext⟩ := require_bind_eq_ok.1 hnext
          obtain rfl := pure_eq_ok.1 hnext
          exact Or.inl ⟨by simp, rfl, rfl, fun hblock => hblock⟩
        · obtain rfl := pure_eq_ok.1 hnext
          exact Or.inl ⟨by simp, rfl, rfl, fun hblock => hblock⟩
  | commit =>
      obtain ⟨hholds, hnext⟩ := require_bind_eq_ok.1 h
      obtain rfl := pure_eq_ok.1 hnext
      exact Or.inr (Or.inr ⟨rfl, hholds, rfl⟩)

end Executing

end Backups
end RosarioDairy
