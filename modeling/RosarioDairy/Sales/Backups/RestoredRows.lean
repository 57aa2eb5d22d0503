import RosarioDairy.Sales.Backups.SqlExport

/-!
# Restored rows — running an export on an empty database

What each statement of an export does to a server that is empty but for the tables already restored,
and from it what the whole script leaves: the selected rows, under their own keys, with a sequence
that goes on behind them.
-/

namespace RosarioDairy
namespace Backups

open Foundations

variable {M : Type}

/-! ## Rows -/

section Rows

variable (schema : Schema M)

/-- What is left of a row in a table: its columns. -/
def Schema.restored (m : M) (row : Record) : Record :=
  fun column => if column ∈ (schema.options m).columns then row column else .null

/-- The rows that a restore puts in a table. -/
def restoredRows (rows : M → List Record) (keys : M → Finset Value) (m : M) : List Record :=
  (orderedRows (schema.options m) (keys m) (rows m)).map (schema.restored m)

/-- Rows that meet what the tables ask of them, other than the foreign keys. -/
structure Schema.Valid (rows : M → List Record) : Prop where
  checked : ∀ m, ∀ row ∈ rows m,
    row (schema.options m).pk ≠ .null ∧ schema.check m ((schema.options m).values row) = true
  unique : ∀ m, (rows m).Pairwise fun row row' => conflicts schema m row row' = false

variable {schema} {m : M} {rows : M → List Record} {keys : M → Finset Value}

theorem recordOf_values (row : Record) :
    recordOf (schema.options m).columns ((schema.options m).values row) = schema.restored m row := by
  funext column
  unfold recordOf Schema.restored Options.values
  induction (schema.options m).columns with
  | nil => rfl
  | cons c columns ih =>
      by_cases hc : column = c
      · simp [hc]
      · simpa [List.lookup_cons, hc, beq_eq_false_iff_ne.2 hc] using ih

theorem restored_pk (row : Record) :
    schema.restored m row (schema.options m).pk = row (schema.options m).pk :=
  if_pos (schema.pk_mem m)

@[simp]
theorem values_restored (row : Record) :
    (schema.options m).values (schema.restored m row) = (schema.options m).values row := by
  unfold Options.values
  refine List.map_congr_left ?_
  intro column hcolumn
  exact if_pos hcolumn

theorem conflicts_restored (row row' : Record) :
    conflicts schema m (schema.restored m row) (schema.restored m row') =
      conflicts schema m row row' := by
  unfold conflicts
  rw [restored_pk, restored_pk, values_restored, values_restored]

theorem conflicts_comm (row row' : Record) :
    conflicts schema m row row' = conflicts schema m row' row := by
  unfold conflicts
  congr 1
  · exact decide_eq_decide.2 eq_comm
  · congr 1
    funext index
    by_cases hEq : index ((schema.options m).values row) = index ((schema.options m).values row')
    · simp [hEq]
    · simp [hEq, Ne.symm hEq]

theorem mem_orderedRows {options : Options M} {keys : Finset Value} {rows : List Record}
    {row : Record} : row ∈ orderedRows options keys rows ↔ row ∈ rows ∧ row options.pk ∈ keys := by
  unfold orderedRows
  rw [(List.mergeSort_perm _ _).mem_iff, List.mem_filter, decide_eq_true_iff]

theorem mem_restoredRows {row : Record} :
    row ∈ restoredRows schema rows keys m ↔
      ∃ source ∈ rows m, source (schema.options m).pk ∈ keys m ∧ schema.restored m source = row := by
  unfold restoredRows
  rw [List.mem_map]
  constructor
  · rintro ⟨source, hsource, hEq⟩
    obtain ⟨hmem, hkey⟩ := mem_orderedRows.1 hsource
    exact ⟨source, hmem, hkey, hEq⟩
  · rintro ⟨source, hmem, hkey, hEq⟩
    exact ⟨source, mem_orderedRows.2 ⟨hmem, hkey⟩, hEq⟩

/-- What is restored of valid rows is valid. -/
theorem valid_restoredRows (hvalid : schema.Valid rows) :
    schema.Valid (restoredRows schema rows keys) := by
  refine { checked := ?_, unique := ?_ }
  · intro m row hrow
    obtain ⟨source, hsource, -, rfl⟩ := mem_restoredRows.1 hrow
    rw [restored_pk, values_restored]
    exact hvalid.checked m source hsource
  · intro m
    unfold restoredRows orderedRows
    rw [List.pairwise_map]
    simp only [conflicts_restored]
    have hcomm : ∀ {row row' : Record}, conflicts schema m row row' = false →
        conflicts schema m row' row = false := fun h => (conflicts_comm _ _).trans h
    rw [(List.mergeSort_perm _ _).pairwise_iff hcomm]
    exact (hvalid.unique m).sublist List.filter_sublist

/-- Where no model has keys, nothing is restored. -/
theorem restoredRows_eq_nil (hkeys : keys m = ∅) : restoredRows schema rows keys m = [] := by
  refine List.eq_nil_iff_forall_not_mem.2 ?_
  intro row hrow
  obtain ⟨source, -, hkey, -⟩ := mem_restoredRows.1 hrow
  rw [hkeys] at hkey
  exact Finset.notMem_empty _ hkey

end Rows

/-! ## Inserts -/

section Inserting

variable {schema : Schema M}

theorem foldlM_insertRow {m : M} {stored new : List Record}
    (hchecked : ∀ row ∈ new,
      row (schema.options m).pk ≠ .null ∧ schema.check m ((schema.options m).values row) = true)
    (hunique : (stored ++ new).Pairwise fun row row' => conflicts schema m row row' = false) :
    new.foldlM (insertRow schema m) stored = .ok (stored ++ new) := by
  induction new generalizing stored with
  | nil => simp [pure, Except.pure]
  | cons row new ih =>
      have hfresh : (stored.any fun other => conflicts schema m other row) = false := by
        refine List.any_eq_false.2 ?_
        intro other hother
        have hpair := (List.pairwise_append.1 hunique).2.2 other hother row List.mem_cons_self
        simp [hpair]
      have hinsert : insertRow schema m stored row = .ok (stored ++ [row]) := by
        unfold insertRow
        rw [require_bind_eq_ok, require_bind_eq_ok]
        exact ⟨hchecked row List.mem_cons_self, hfresh, rfl⟩
      have hrest : ((stored ++ [row]) ++ new).Pairwise
          fun row row' => conflicts schema m row row' = false := by
        rw [List.append_assoc]
        exact hunique
      rw [List.foldlM_cons, hinsert, ok_bind,
        ih (fun other hother => hchecked other (List.mem_cons_of_mem _ hother)) hrest,
        List.append_assoc]
      rfl

variable [DecidableEq M]

/-- The inserts of one table, one batch after the other. -/
theorem foldlM_inserts {m : M} {groups : List (List (List Value))} {server : Server M}
    (himmediate : server.immediate = false)
    (hchecked : ∀ row ∈ groups.flatten.map (recordOf (schema.options m).columns),
      row (schema.options m).pk ≠ .null ∧ schema.check m ((schema.options m).values row) = true)
    (hunique : (server.working m ++ groups.flatten.map (recordOf (schema.options m).columns)).Pairwise
      fun row row' => conflicts schema m row row' = false) :
    (groups.map (Statement.insert (schema.table m) (schema.options m).columns)).foldlM
        (execute schema) server =
      .ok { server with
        working := Function.update server.working m
          (server.working m ++ groups.flatten.map (recordOf (schema.options m).columns)) } := by
  induction groups generalizing server with
  | nil => simp [pure, Except.pure]
  | cons group groups ih =>
      rw [List.flatten_cons, List.map_append] at hchecked hunique
      rw [← List.append_assoc] at hunique
      -- the first batch can be stored beside what is there
      have hstored : (group.map (recordOf (schema.options m).columns)).foldlM (insertRow schema m)
          (server.working m) =
            .ok (server.working m ++ group.map (recordOf (schema.options m).columns)) := by
        refine foldlM_insertRow ?_ (List.pairwise_append.1 hunique).1
        intro row hrow
        exact hchecked row (List.mem_append_left _ hrow)
      have hfirst : execute schema server
          (.insert (schema.table m) (schema.options m).columns group) =
            .ok { server with
              working := Function.update server.working m
                (server.working m ++ group.map (recordOf (schema.options m).columns)) } := by
        simp only [execute, demand, schema.modelOf_table m, ok_bind, hstored]
        rw [require_bind_eq_ok]
        exact ⟨Or.inl himmediate, rfl⟩
      have hlater := @ih { server with
          working := Function.update server.working m
            (server.working m ++ group.map (recordOf (schema.options m).columns)) } himmediate
        (fun row hrow => hchecked row (List.mem_append_right _ hrow)) (by simpa using hunique)
      rw [List.map_cons, List.foldlM_cons, hfirst, ok_bind, hlater]
      simp [List.append_assoc]

end Inserting

/-! ## Tables -/

section Tables

variable (schema : Schema M) [DecidableEq M]

/-- The last value of a table's sequence after a restore. -/
def restoredLast (rows : M → List Record) (keys : M → Finset Value) (m : M) : Int :=
  if schema.serial m then
    (maxKey (restoredRows schema rows keys m) (schema.options m).pk).getD 0
  else 0

/-- The keys of the rows are those that a sequence of numbers hands out. -/
def Schema.Numbered (rows : M → List Record) (m : M) : Prop :=
  schema.numericKey m = true ∧
    ∀ row ∈ rows m, ∃ n, 1 ≤ n ∧ row (schema.options m).pk = .number n

/-- A restore that has come through some of the tables. -/
structure Restoring (rows : M → List Record) (keys : M → Finset Value) (done : List M)
    (server : Server M) : Prop where
  committed : server.committed = fun _ => []
  working : server.working = fun m => if m ∈ done then restoredRows schema rows keys m else []
  inBlock : server.inBlock = true
  immediate : server.immediate = false
  lastValue : server.lastValue = fun m => if m ∈ done then restoredLast schema rows keys m else 0

variable {schema} {rows : M → List Record} {keys : M → Finset Value}

theorem maxKey_pos {stored : List Record} {pk : String} {last : Int}
    (hkeys : ∀ row ∈ stored, ∃ n, 1 ≤ n ∧ row pk = .number n) (hlast : maxKey stored pk = some last) :
    1 ≤ last := by
  unfold maxKey at hlast
  obtain ⟨row, hrow, hEq⟩ := List.mem_filterMap.1 (List.max?_mem hlast)
  obtain ⟨n, hpos, hpk⟩ := hkeys row hrow
  rw [hpk] at hEq
  obtain rfl := Option.some.inj hEq
  exact hpos

/-- The maximum of the keys is above every one of them. -/
theorem le_maxKey {stored : List Record} {pk : String} {row : Record} {n : Int}
    (hrow : row ∈ stored) (hpk : row pk = .number n) : n ≤ (maxKey stored pk).getD 0 := by
  unfold maxKey
  generalize hnumbers : stored.filterMap _ = numbers
  have hmem : n ∈ numbers := by
    rw [← hnumbers]
    exact List.mem_filterMap.2 ⟨row, hrow, by rw [hpk]⟩
  cases hlast : numbers.max? with
  | none =>
      rw [List.max?_eq_none_iff] at hlast
      rw [hlast] at hmem
      exact absurd hmem List.not_mem_nil
  | some last => exact (List.max?_le_iff hlast).1 (Int.le_refl last) n hmem

/-- A sequence moves to the maximum of the keys, if there is one of both. -/
theorem execute_setval {server : Server M} {m : M} (hnumeric : schema.numericKey m = true)
    (hkeys : ∀ row ∈ server.working m, ∃ n, 1 ≤ n ∧ row (schema.options m).pk = .number n) :
    execute schema server (.setval (schema.table m) (schema.options m).pk) =
      .ok { server with
        lastValue := Function.update server.lastValue m
          (if schema.serial m = true then
            (maxKey (server.working m) (schema.options m).pk).getD (server.lastValue m)
          else server.lastValue m) } := by
  simp only [execute, demand, schema.modelOf_table m, ok_bind, setval]
  rw [require_bind_eq_ok]
  refine ⟨hnumeric, ?_⟩
  cases hlast : maxKey (server.working m) (schema.options m).pk with
  | none => simp [pure, Except.pure]
  | some last =>
      by_cases hserial : schema.serial m = true
      · simp [hserial, require, maxKey_pos hkeys hlast, bind, Except.bind, pure, Except.pure]
      · simp [hserial, pure, Except.pure]

/-- The statements of one more table. -/
theorem restoring_writeTable {done : List M} {server : Server M} {m : M}
    (hvalid : schema.Valid rows) (hnumbered : schema.Numbered rows m) (hm : m ∉ done)
    (h : Restoring schema rows keys done server) :
    ∃ next, (writeTable schema rows keys m).foldlM (execute schema) server = .ok next ∧
      Restoring schema rows keys (done ++ [m]) next := by
  have hrows : ((batches 250 ((orderedRows (schema.options m) (keys m) (rows m)).map
      (schema.options m).values)).flatten).map (recordOf (schema.options m).columns) =
        restoredRows schema rows keys m := by
    rw [flatten_batches, List.map_map]
    unfold restoredRows
    refine List.map_congr_left ?_
    intro row _
    exact recordOf_values row
  have hempty : server.working m = [] := by
    rw [h.working]
    exact if_neg hm
  have hvalid' : schema.Valid (restoredRows schema rows keys) := valid_restoredRows hvalid
  -- the inserts fill the table
  have hinserts := @foldlM_inserts M schema _ m _ server h.immediate
    (by rw [hrows]; exact hvalid'.checked m) (by rw [hrows, hempty]; exact hvalid'.unique m)
  rw [hrows, hempty, List.nil_append] at hinserts
  -- the sequence moves behind its rows
  have hkeys : ∀ row ∈ restoredRows schema rows keys m,
      ∃ n, 1 ≤ n ∧ row (schema.options m).pk = .number n := by
    intro row hrow
    obtain ⟨source, hsource, -, rfl⟩ := mem_restoredRows.1 hrow
    rw [restored_pk]
    exact hnumbered.2 source hsource
  have hsetval := @execute_setval M schema _ { server with
    working := Function.update server.working m (restoredRows schema rows keys m) } m hnumbered.1
    (by simpa using hkeys)
  dsimp only at hsetval
  rw [Function.update_self] at hsetval
  have hall : (writeTable schema rows keys m).foldlM (execute schema) server = .ok { server with
      working := Function.update server.working m (restoredRows schema rows keys m)
      lastValue := Function.update server.lastValue m
        (if schema.serial m = true then
          (maxKey (restoredRows schema rows keys m) (schema.options m).pk).getD (server.lastValue m)
        else server.lastValue m) } := by
    unfold writeTable
    rw [List.foldlM_append, hinserts, ok_bind, List.foldlM_cons, hsetval]
    rfl
  have hbefore : server.lastValue m = 0 := by
    rw [h.lastValue]
    exact if_neg hm
  refine ⟨_, hall, ⟨h.committed, ?_, h.inBlock, h.immediate, ?_⟩⟩
  · funext m'
    dsimp only
    by_cases hEq : m' = m
    · simp [hEq]
    · rw [Function.update_of_ne hEq, h.working]
      simp [hEq]
  · funext m'
    dsimp only
    by_cases hEq : m' = m
    · rw [hEq, Function.update_self, hbefore]
      simp [restoredLast]
    · rw [Function.update_of_ne hEq, h.lastValue]
      simp [hEq]

theorem restoring_tables (hvalid : schema.Valid rows) {ms : List M}
    (hnumbered : ∀ m ∈ ms, schema.Numbered rows m) {done : List M} {server : Server M}
    (hnodup : (done ++ ms).Nodup) (h : Restoring schema rows keys done server) :
    ∃ next, (ms.flatMap (writeTable schema rows keys)).foldlM (execute schema) server = .ok next ∧
      Restoring schema rows keys (done ++ ms) next := by
  induction ms generalizing done server with
  | nil => exact ⟨server, rfl, by rwa [List.append_nil]⟩
  | cons m ms ih =>
      have hm : m ∉ done := by
        intro hmem
        exact (List.nodup_append.1 hnodup).2.2 m hmem m List.mem_cons_self rfl
      obtain ⟨next, hfirst, hnext⟩ := restoring_writeTable hvalid (hnumbered m List.mem_cons_self) hm h
      have hrest : ((done ++ [m]) ++ ms).Nodup := by
        rw [List.append_assoc]
        exact hnodup
      obtain ⟨last, hlater, hlast⟩ := ih
        (fun m' hm' => hnumbered m' (List.mem_cons_of_mem _ hm')) hrest hnext
      refine ⟨last, ?_, ?_⟩
      · rw [List.flatMap_cons, List.foldlM_append, hfirst, ok_bind]
        exact hlater
      · rw [List.append_assoc] at hlast
        exact hlast

end Tables

end Backups
end RosarioDairy
