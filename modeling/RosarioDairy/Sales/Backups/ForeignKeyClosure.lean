import Mathlib.Data.Fintype.Basic
import Mathlib.Data.Set.Finite.Lattice
import RosarioDairy.Sales.Backups.RowSelection

/-!
# Foreign-key closure — the selected rows are those that are referred to

The selection of a backup is the least set of rows that holds the first rows and that no foreign key
leads out of.  A pass that follows a field adds what the field refers to and nothing else, takes as
many keys from those that remain to be found as it counts, and leaves the selection alone when it counts
none.
-/

namespace RosarioDairy
namespace Backups

open Foundations

variable {M : Type}

/-! ## What a database refers to -/

namespace Database

/-- The key of a row whose target field holds the value of a foreign key. -/
def Meets (db : Database M) (relation : Relation M) (value key : Value) : Prop :=
  if relation.targetField = (db.options relation.model).pk then key = value
  else ∃ target ∈ db.rows relation.model,
    target relation.targetField = value ∧ db.pk relation.model target = key

/-- A row refers to another one through a foreign key that is not null. -/
def Refers (db : Database M) (source target : M × Value) : Prop :=
  ∃ row ∈ db.rows source.1, db.pk source.1 row = source.2 ∧
    ∃ field ∈ (db.options source.1).concreteFields, ∃ relation, field.relation = some relation ∧
      relation.model = target.1 ∧ row field.attname ≠ .null ∧
        db.Meets relation (row field.attname) target.2

/-- Every foreign key that is not null has a row whose target field it holds. -/
def Intact (db : Database M) : Prop :=
  ∀ m, ∀ row ∈ db.rows m, ∀ field ∈ (db.options m).concreteFields, ∀ relation,
    field.relation = some relation → row field.attname ≠ .null →
      ∃ target ∈ db.rows relation.model, target relation.targetField = row field.attname

/-- The database that holds the rows under some keys only. -/
def restrict (db : Database M) (keys : M → Finset Value) : Database M :=
  { options := db.options
    rows := fun m => (db.rows m).filter fun row => decide (db.pk m row ∈ keys m)
    keys_nodup := by
      intro m
      exact (List.filter_sublist.map _).nodup (db.keys_nodup m)
    key_ne_null := by
      intro m row hrow
      exact db.key_ne_null m row (List.mem_of_mem_filter hrow) }

theorem mem_query {db : Database M} {m : M} {test : Record → Bool} {key : Value} :
    key ∈ db.query m test ↔ ∃ row ∈ db.rows m, test row = true ∧ db.pk m row = key := by
  simp [query, and_assoc]

theorem mem_references {db : Database M} {m : M} {keys : Finset Value} {attname : String}
    {relation : Relation M} {key : Value} :
    key ∈ db.references m keys attname relation ↔
      ∃ row ∈ db.rows m, db.pk m row ∈ keys ∧ row attname ≠ .null ∧
        db.Meets relation (row attname) key := by
  unfold references Meets
  by_cases hpk : relation.targetField = (db.options relation.model).pk
  · simp only [if_pos hpk]
    rw [List.mem_toFinset, List.mem_map]
    constructor
    · rintro ⟨row, hrow, rfl⟩
      obtain ⟨hmem, hrow⟩ := List.mem_filter.1 hrow
      obtain ⟨hkey, hnull⟩ := of_decide_eq_true hrow
      exact ⟨row, hmem, hkey, hnull, rfl⟩
    · rintro ⟨row, hmem, hkey, hnull, hEq⟩
      exact ⟨row, List.mem_filter.2 ⟨hmem, decide_eq_true ⟨hkey, hnull⟩⟩, hEq.symm⟩
  · simp only [if_neg hpk]
    rw [List.mem_toFinset, mem_query]
    constructor
    · rintro ⟨target, htarget, htest, rfl⟩
      have hvalue := List.mem_toFinset.1 (of_decide_eq_true htest)
      obtain ⟨row, hrow, hEq⟩ := List.mem_map.1 hvalue
      obtain ⟨hmem, hrow⟩ := List.mem_filter.1 hrow
      obtain ⟨hkey, hnull⟩ := of_decide_eq_true hrow
      exact ⟨row, hmem, hkey, hnull, target, htarget, hEq.symm, rfl⟩
    · rintro ⟨row, hmem, hkey, hnull, target, htarget, hEq, rfl⟩
      refine ⟨target, htarget, decide_eq_true (List.mem_toFinset.2 (List.mem_map.2 ⟨row, ?_, hEq.symm⟩)),
        rfl⟩
      exact List.mem_filter.2 ⟨hmem, decide_eq_true ⟨hkey, hnull⟩⟩

/-- A finite database refers to finitely many rows. -/
theorem finite_referred [Finite M] (db : Database M) :
    {target | ∃ source, db.Refers source target}.Finite := by
  have hfield : ∀ m (field : Field M), {target : M × Value | ∃ row ∈ db.rows m,
      ∃ relation, field.relation = some relation ∧ relation.model = target.1 ∧
        row field.attname ≠ .null ∧ db.Meets relation (row field.attname) target.2}.Finite := by
    intro m field
    cases hrelation : field.relation with
    | none => simp
    | some relation =>
        let keys := ((db.rows m).map (db.pk m)).toFinset
        refine ((db.references m keys field.attname relation).finite_toSet.image
          (Prod.mk relation.model)).subset ?_
        rintro ⟨model, key⟩ ⟨row, hrow, _, hEq, rfl, hnull, hmeets⟩
        cases hEq
        refine ⟨key, mem_references.2 ⟨row, hrow, ?_, hnull, hmeets⟩, rfl⟩
        exact List.mem_toFinset.2 (List.mem_map_of_mem hrow)
  refine (Set.finite_iUnion fun m =>
    (List.finite_toSet (db.options m).concreteFields).biUnion fun field _ => hfield m field).subset ?_
  rintro target ⟨source, row, hrow, _, field, hmem, relation, hrelation, hmodel, hnull, hmeets⟩
  exact Set.mem_iUnion.2 ⟨source.1, Set.mem_iUnion₂.2
    ⟨field, hmem, row, hrow, relation, hrelation, hmodel, hnull, hmeets⟩⟩

/-- A closed set of rows of an intact database is intact on its own. -/
theorem intact_restrict {db : Database M} {keys : M → Finset Value} (hintact : db.Intact)
    (hclosed : ClosedUnder db.Refers {row | row.2 ∈ keys row.1}) : (db.restrict keys).Intact := by
  intro m row hrow field hfield relation hrelation hnull
  obtain ⟨hrow, hkey⟩ := List.mem_filter.1 hrow
  obtain ⟨target, htarget, hEq⟩ := hintact m row hrow field hfield relation hrelation hnull
  refine ⟨target, List.mem_filter.2 ⟨htarget, decide_eq_true ?_⟩, hEq⟩
  have hmeets : db.Meets relation (row field.attname) (db.pk relation.model target) := by
    unfold Meets
    by_cases hpk : relation.targetField = (db.options relation.model).pk
    · rw [if_pos hpk, ← hEq, hpk]
      rfl
    · rw [if_neg hpk]
      exact ⟨target, htarget, hEq, rfl⟩
  have hin : (m, db.pk m row) ∈ {row : M × Value | row.2 ∈ keys row.1} := of_decide_eq_true hkey
  exact @hclosed _ hin (relation.model, db.pk relation.model target)
    ⟨row, hrow, rfl, field, hfield, relation, hrelation, rfl, hnull, hmeets⟩

end Database

/-! ## Looking keys up -/

namespace Selection

variable [DecidableEq M]

theorem find_updateEntries {m m' : M} {keys : Finset Value} : ∀ entries : List (M × Finset Value),
    (((updateEntries m keys entries).find? fun entry => decide (entry.1 = m')).map Prod.snd).getD ∅ =
      if m' = m then
        ((entries.find? fun entry => decide (entry.1 = m')).map Prod.snd).getD ∅ ∪ keys
      else ((entries.find? fun entry => decide (entry.1 = m')).map Prod.snd).getD ∅
  | [] => by
      by_cases hm : m' = m
      · simp [updateEntries, hm]
      · simp [updateEntries, hm, Ne.symm hm]
  | (model, keys') :: entries => by
      have ih := @find_updateEntries m m' keys entries
      unfold updateEntries
      by_cases hmodel : model = m
      · rw [if_pos hmodel]
        by_cases hm : m' = m
        · simp [hm, hmodel]
        · simp [hm, hmodel, Ne.symm hm]
      · rw [if_neg hmodel]
        by_cases hown : model = m'
        · have hm : m' ≠ m := fun hEq => hmodel (hown.trans hEq)
          simp [hown, hm]
        · simpa [hown] using ih

theorem get_update (selected : Selection M) (m m' : M) (keys : Finset Value) :
    (selected.update m keys).get m' =
      if m' = m then selected.get m' ∪ keys else selected.get m' :=
  find_updateEntries selected.entries

theorem mem_update {selected : Selection M} {m : M} {keys : Finset Value} {row : M × Value} :
    row ∈ (selected.update m keys).selectedRows ↔
      row ∈ selected.selectedRows ∨ (row.1 = m ∧ row.2 ∈ keys) := by
  simp only [selectedRows, Set.mem_ofPred_eq, get_update]
  by_cases hm : row.1 = m
  · simp [hm]
  · simp [hm]

theorem get_of_mem {selected : Selection M} {m : M} {keys : Finset Value}
    (h : (m, keys) ∈ selected.entries) : selected.get m = keys := by
  obtain ⟨earlier, later, hsplit⟩ := List.append_of_mem h
  have hnodup := selected.models_nodup
  rw [hsplit, List.map_append, List.nodup_append] at hnodup
  have hearlier : earlier.find? (fun entry => decide (entry.1 = m)) = none := by
    refine List.find?_eq_none.2 ?_
    intro entry hentry hEq
    have hne := hnodup.2.2 entry.1 (List.mem_map_of_mem hentry) m (by simp)
    exact hne (of_decide_eq_true hEq)
  simp [get, hsplit, hearlier]

theorem exists_entry {selected : Selection M} {m : M} {key : Value} (h : key ∈ selected.get m) :
    ∃ keys, (m, keys) ∈ selected.entries ∧ selected.get m = keys := by
  unfold get at h
  cases hfind : selected.entries.find? fun entry => decide (entry.1 = m) with
  | none => simp [hfind] at h
  | some entry =>
      have hm : entry.1 = m := by simpa using List.find?_some hfind
      have hentry : (m, entry.2) ∈ selected.entries := by
        rw [← hm]
        exact List.mem_of_find?_eq_some hfind
      exact ⟨entry.2, hentry, get_of_mem hentry⟩

theorem selectedRows_nonempty (selected : Selection M) :
    selected.nonempty.selectedRows = selected.selectedRows := by
  ext ⟨m, key⟩
  constructor
  · intro h
    obtain ⟨keys, hentry, hget⟩ := exists_entry h
    have hold : selected.get m = keys := get_of_mem (List.mem_of_mem_filter hentry)
    simp only [selectedRows, Set.mem_ofPred_eq] at h ⊢
    rw [hold, ← hget]
    exact h
  · intro h
    obtain ⟨keys, hentry, hget⟩ := exists_entry h
    simp only [selectedRows, Set.mem_ofPred_eq] at h ⊢
    have hkept : (m, keys) ∈ selected.nonempty.entries := by
      refine List.mem_filter.2 ⟨hentry, decide_eq_true ?_⟩
      rw [← hget]
      exact Finset.ne_empty_of_mem h
    rw [get_of_mem hkept, ← hget]
    exact h

end Selection

end Backups
end RosarioDairy
