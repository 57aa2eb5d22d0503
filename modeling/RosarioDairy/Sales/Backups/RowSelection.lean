import Mathlib.Data.Finset.Card
import RosarioDairy.Foundations.Saturation

/-!
# Row selection — the rows of a sales backup

A backup holds the receipts of a range of years with their items, orders and catalogue rows, and every
row that these refer to.  The rows are collected as primary keys under their models: in each pass every
foreign key of every selected row is followed, until a pass adds nothing.
-/

namespace RosarioDairy
namespace Backups

open Foundations

/-! ## Databases -/

/-- What a column holds. -/
inductive Value
  | null
  | number (n : Int)
  | text (s : String)
  | time (microseconds : Int)
  deriving DecidableEq, Repr

/-- The values of a row, by attribute name. -/
abbrev Record := String → Value

/-- `field.remote_field.model` and the name of `field.target_field`. -/
structure Relation (M : Type) where
  model : M
  targetField : String

/-- A concrete field; `relation` is there when `is_relation` holds. -/
structure Field (M : Type) where
  attname : String
  relation : Option (Relation M)

/-- `model._meta` -/
structure Options (M : Type) where
  pk : String
  concreteFields : List (Field M)

/-- The rows of every model, under distinct primary keys none of which is null. -/
structure Database (M : Type) where
  options : M → Options M
  rows : M → List Record
  keys_nodup : ∀ m, ((rows m).map fun row => row (options m).pk).Nodup
  key_ne_null : ∀ m, ∀ row ∈ rows m, row (options m).pk ≠ .null

variable {M : Type}

namespace Database

/-- The primary key of a row. -/
def pk (db : Database M) (m : M) (row : Record) : Value := row (db.options m).pk

/-- The primary keys of the rows that pass a test. -/
def query (db : Database M) (m : M) (test : Record → Bool) : List Value :=
  ((db.rows m).filter test).map (db.pk m)

/-- The primary keys that a relation of the rows under some keys refers to. -/
def references (db : Database M) (m : M) (keys : Finset Value) (attname : String)
    (relation : Relation M) : Finset Value :=
  let references :=
    (((db.rows m).filter fun row => decide (db.pk m row ∈ keys ∧ row attname ≠ .null)).map
      fun row => row attname).toFinset
  if relation.targetField = (db.options relation.model).pk then references
  else (db.query relation.model fun row => decide (row relation.targetField ∈ references)).toFinset

end Database

/-! ## Selections -/

section Selections

variable [DecidableEq M]

/-- The `defaultdict(set)` of selected keys, its models in the order of their insertion. -/
structure Selection (M : Type) where
  entries : List (M × Finset Value)
  models_nodup : (entries.map Prod.fst).Nodup

namespace Selection

def empty : Selection M :=
  { entries := []
    models_nodup := List.nodup_nil }

/-- Extend the keys of a model, whose entry is made when it is missing. -/
def updateEntries (m : M) (keys : Finset Value) : List (M × Finset Value) → List (M × Finset Value)
  | [] => [(m, keys)]
  | (m', keys') :: entries =>
      if m' = m then (m', keys' ∪ keys) :: entries
      else (m', keys') :: updateEntries m keys entries

theorem mem_models_updateEntries {m m' : M} {keys : Finset Value} :
    ∀ {entries : List (M × Finset Value)},
      m' ∈ (updateEntries m keys entries).map Prod.fst ↔ m' ∈ entries.map Prod.fst ∨ m' = m
  | [] => by simp [updateEntries]
  | (model, keys') :: entries => by
      have ih := @mem_models_updateEntries m m' keys entries
      unfold updateEntries
      by_cases hmodel : model = m
      · rw [if_pos hmodel, List.map_cons, List.map_cons, List.mem_cons, hmodel]
        tauto
      · rw [if_neg hmodel, List.map_cons, List.map_cons, List.mem_cons, List.mem_cons, ih]
        tauto

theorem models_nodup_updateEntries {m : M} {keys : Finset Value} :
    ∀ {entries : List (M × Finset Value)}, (entries.map Prod.fst).Nodup →
      ((updateEntries m keys entries).map Prod.fst).Nodup
  | [], _ => List.nodup_singleton m
  | (model, keys') :: entries, h => by
      obtain ⟨hfresh, hnodup⟩ := List.nodup_cons.1 h
      unfold updateEntries
      by_cases hmodel : model = m
      · rw [if_pos hmodel]
        exact List.nodup_cons.2 ⟨hfresh, hnodup⟩
      · rw [if_neg hmodel]
        refine List.nodup_cons.2 ⟨?_, models_nodup_updateEntries hnodup⟩
        intro hmem
        rcases mem_models_updateEntries.1 hmem with hold | hEq
        · exact hfresh hold
        · exact hmodel hEq

/-- `selected[model].update(keys)` -/
def update (selected : Selection M) (m : M) (keys : Finset Value) : Selection M :=
  { entries := updateEntries m keys selected.entries
    models_nodup := models_nodup_updateEntries selected.models_nodup }

/-- `selected[model]` -/
def get (selected : Selection M) (m : M) : Finset Value :=
  ((selected.entries.find? fun entry => decide (entry.1 = m)).map Prod.snd).getD ∅

/-- `{m: keys for m, keys in selected.items() if keys}` -/
def nonempty (selected : Selection M) : Selection M :=
  { entries := selected.entries.filter fun entry => decide (entry.2 ≠ ∅)
    models_nodup := (List.filter_sublist.map Prod.fst).nodup selected.models_nodup }

/-- The selected rows, each under its model. -/
def selectedRows (selected : Selection M) : Set (M × Value) :=
  {row | row.2 ∈ selected.get row.1}

end Selection

end Selections

/-! ## Receipts and what belongs to them -/

/-- The models that the first rows are taken from. -/
structure SalesModels (M : Type) where
  transaction : M
  transactionItem : M
  order : M
  orderItem : M
  product : M
  category : M

/-- `created_at__gte=start, created_at__lt=end` -/
def createdWithin (start stop : Int) (row : Record) : Bool :=
  match row "created_at" with
  | .time t => decide (start ≤ t ∧ t < stop)
  | _ => false

/-- `source_reference__regex=r'^2026:[0-9]{6}$'`; a missing reference does not match. -/
def isDummySale (row : Record) : Bool :=
  match row "source_reference" with
  | .text reference =>
      decide (reference.toList.take 5 = ['2', '0', '2', '6', ':']) &&
        (reference.toList.drop 5).length == 6 && (reference.toList.drop 5).all Char.isDigit
  | _ => false

/-- The first rows of a backup, model by model. -/
def firstRows (db : Database M) (models : SalesModels M) (start stop : Int) :
    List (M × List Value) :=
  let ids := db.query models.transaction fun row => createdWithin start stop row && !isDummySale row
  let orderIds := db.query models.order fun row =>
    decide (row "transaction_id" ∈ ids) ||
      (decide (row "transaction_id" = .null) && createdWithin start stop row)
  let items := (db.rows models.transactionItem).filter fun row => decide (row "transaction_id" ∈ ids)
  [(models.transaction, ids),
    (models.transactionItem, items.map (db.pk models.transactionItem)),
    (models.order, orderIds),
    (models.orderItem, db.query models.orderItem fun row => decide (row "order_id" ∈ orderIds)),
    (models.product, db.query models.product fun row =>
      decide (db.pk models.product row ∈ items.map fun item => item "product_id_snapshot")),
    (models.category, db.query models.category fun row =>
      decide (db.pk models.category row ∈ items.map fun item => item "category_id_snapshot"))]

/-! ## Following the foreign keys -/

section Following

variable [DecidableEq M]

/-- Follow one field of the selected rows of a model: the selection, and how many keys were added. -/
def followField (db : Database M) (m : M) (work : Selection M × Nat) (field : Field M) :
    Selection M × Nat :=
  match field.relation with
  | none => work
  | some relation =>
      let references := db.references m (work.1.get m) field.attname relation
      let missing := references \ work.1.get relation.model
      (work.1.update relation.model missing, work.2 + missing.card)

/-- Follow the fields of one model; its keys are looked up again for each field, as the set may have
grown. -/
def followModel (db : Database M) (work : Selection M × Nat) (m : M) : Selection M × Nat :=
  if work.1.get m = ∅ then work
  else (db.options m).concreteFields.foldl (followField db m) work

/-- One pass over the models that are there when it starts. -/
def followAll (db : Database M) (selected : Selection M) : Selection M × Nat :=
  (selected.entries.map Prod.fst).foldl (followModel db) (selected, 0)

/-- The selection before the first pass. -/
def firstSelection (db : Database M) (models : SalesModels M) (start stop : Int) : Selection M :=
  (firstRows db models start stop).foldl
    (fun selected entry => selected.update entry.1 entry.2.toFinset) Selection.empty

/-- The rows to export, when so many passes are enough; `yearStart` is the instant at which a year
begins in Manila. -/
def selectRows (db : Database M) (models : SalesModels M) (yearStart : Int → Int)
    (startYear endYear : Int) (passes : Nat) : Option (Selection M) :=
  (saturate (followAll db) passes
    (firstSelection db models (yearStart startYear) (yearStart (endYear + 1)))).map
      Selection.nonempty

end Following

end Backups
end RosarioDairy
