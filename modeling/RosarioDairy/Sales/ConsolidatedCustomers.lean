import RosarioDairy.Sales.MergedCustomers

/-!
# ConsolidatedCustomers — the plan of a consolidation, and the accounts after it

The groups of a plan have their own customers, whose contact details agree, so merging them loses no
detail and never meets a customer twice.  The command finds what it checks, and when the canonical names
keep the keys of the names they replace, it finds no duplicate left.
-/

namespace RosarioDairy
namespace CustomerConsolidation

open Foundations CustomerNames

variable {T : Unicode} {saleCount : Nat → Nat} {members : List CustomerRecord}

/-! ## Plans -/

theorem foldl_earlier_mem (canonical : List Char) (best : CustomerRecord) (others : List CustomerRecord) :
    others.foldl (earlier canonical) best ∈ best :: others := by
  induction others generalizing best with
  | nil => exact List.mem_cons_self
  | cons c others ih =>
      rw [List.foldl_cons]
      have hbest : earlier canonical best c = c ∨ earlier canonical best c = best := by
        unfold earlier
        split
        · exact Or.inl rfl
        · exact Or.inr rfl
      rcases List.mem_cons.1 (ih (earlier canonical best c)) with hEq | hlater
      · rcases hbest with hc | hbest
        · rw [hEq, hc]
          exact List.mem_cons_of_mem _ List.mem_cons_self
        · rw [hEq, hbest]
          exact List.mem_cons_self
      · exact List.mem_cons_of_mem _ (List.mem_cons_of_mem _ hlater)

/-- A group that is to be merged, of some customers. -/
structure Planned (T : Unicode) (members : List CustomerRecord) (g : MergeGroup) : Prop where
  several : 1 < members.length
  ids : g.ids = members.map CustomerRecord.pk
  name : ∃ first ∈ members, g.name = (canonicalCustomer T first.name).getD []
  keep : ∃ keeper ∈ members, keeper.pk = g.keepId ∧ ∀ field,
    g.contacts field = (keeper.given field).or (members.findSome? fun c => c.given field)
  agree : conflictingFields T members = []

theorem planOf_eq_inl {g : MergeGroup} (h : planOf T saleCount members = some (.inl g)) :
    Planned T members g := by
  unfold planOf at h
  split at h
  · rename_i first second others
    dsimp only at h
    split at h
    · cases h
    · rename_i hreview
      obtain rfl := Sum.inl.inj (Option.some.inj h)
      rw [not_or, not_not] at hreview
      refine
        { several := by simp
          ids := by simp [MergeGroup.ids]
          name := ⟨first, List.mem_cons_self, rfl⟩
          keep := ⟨_, foldl_earlier_mem _ first (second :: others), rfl, fun _ => rfl⟩
          agree := hreview.1 }
  · cases h

/-- Where nothing conflicts, the values given for a field are the same up to their formatting. -/
theorem contacts_agree (h : conflictingFields T members = []) {c c' : CustomerRecord}
    (hc : c ∈ members) (hc' : c' ∈ members) {field : ContactField} {value value' : List Char}
    (hvalue : c.given field = some value) (hvalue' : c'.given field = some value') :
    normalizedContact T value = normalizedContact T value' := by
  have hfield : ¬1 < (contactValues T members field).length := by
    have hall := List.filter_eq_nil_iff.1 h field (by cases field <;> simp [ContactField.all])
    simpa using hall
  have hmem : ∀ c ∈ members, ∀ value, c.given field = some value →
      normalizedContact T value ∈ contactValues T members field := by
    intro c hc value hvalue
    unfold contactValues
    rw [List.mem_eraseDups]
    exact List.mem_map_of_mem (List.mem_filterMap.2 ⟨c, hc, hvalue⟩)
  have hfirst := hmem c hc value hvalue
  have hsecond := hmem c' hc' value' hvalue'
  -- a list of at most one value
  generalize contactValues T members field = values at hfield hfirst hsecond
  match values with
  | [] => exact absurd hfirst List.not_mem_nil
  | [only] => rw [List.mem_singleton.1 hfirst, List.mem_singleton.1 hsecond]
  | _ :: _ :: _ => exact absurd (by simp) hfield

/-- No contact detail of a member is lost. -/
theorem Planned.contacts_kept {g : MergeGroup} (h : Planned T members g) {c : CustomerRecord}
    (hc : c ∈ members) {field : ContactField} {value : List Char} (hvalue : c.given field = some value) :
    ∃ value', g.contacts field = some value' ∧
      normalizedContact T value' = normalizedContact T value := by
  obtain ⟨keeper, hkeeper, -, hcontacts⟩ := h.keep
  rw [hcontacts field]
  cases hown : keeper.given field with
  | some value' => exact ⟨value', rfl, contacts_agree h.agree hkeeper hc hown hvalue⟩
  | none =>
      rw [Option.none_or]
      cases hfound : members.findSome? fun c => c.given field with
      | some value' =>
          obtain ⟨other, hother, hEq⟩ := List.exists_of_findSome?_eq_some hfound
          exact ⟨value', rfl, contacts_agree h.agree hother hc hEq hvalue⟩
      | none =>
          have hnone := List.findSome?_eq_none_iff.1 hfound c hc
          rw [hvalue] at hnone
          cases hnone

section Plans

variable {a : Accounts}

/-- The customers with a key, by primary key. -/
def keyed (T : Unicode) (a : Accounts) (key : List Char) : List CustomerRecord :=
  classOf (fun c => customerKey T c.name) (a.customers.scan fun _ => true) (some key)

/-- The keys of the customers, in their order. -/
def keysOf (T : Unicode) (a : Accounts) : List (List Char) :=
  sortedKeys T (a.customers.scan fun _ => true)

/-- `sale_count` -/
def saleCountOf (a : Accounts) (pk : Nat) : Nat :=
  (a.transactions.rows.filter fun txn => txn.customer = some pk).length

theorem mem_keyed {key : List Char} {c : CustomerRecord} :
    c ∈ keyed T a key ↔ c ∈ a.customers.rows ∧ customerKey T c.name = some key := by
  unfold keyed
  rw [mem_classOf, Table.mem_scan]
  simp

theorem nodup_keysOf : (keysOf T a).Nodup :=
  (List.mergeSort_perm _ _).nodup_iff.2 (nodup_eraseDups _)

theorem mem_keysOf {key : List Char} :
    key ∈ keysOf T a ↔ key ≠ [] ∧ ∃ c ∈ a.customers.rows, customerKey T c.name = some key := by
  unfold keysOf sortedKeys
  rw [(List.mergeSort_perm _ _).mem_iff, List.mem_eraseDups, List.mem_filterMap]
  constructor
  · rintro ⟨c, hc, hkey⟩
    obtain ⟨hEq, hne⟩ := Option.filter_eq_some_iff.1 hkey
    refine ⟨by simpa using hne, c, (Table.mem_scan.1 hc).1, hEq⟩
  · rintro ⟨hne, c, hc, hkey⟩
    refine ⟨c, Table.mem_scan.2 ⟨hc, rfl⟩, Option.filter_eq_some_iff.2 ⟨hkey, ?_⟩⟩
    simpa using hne

theorem mergeGroups_eq : (consolidationPlan T a).mergeGroups =
    (keysOf T a).filterMap fun key => (planOf T (saleCountOf a) (keyed T a key)).bind Sum.getLeft? := by
  unfold consolidationPlan
  dsimp only
  rw [List.filterMap_filterMap]
  rfl

theorem needsReview_eq : (consolidationPlan T a).needsReview =
    (keysOf T a).filterMap fun key => (planOf T (saleCountOf a) (keyed T a key)).bind Sum.getRight? := by
  unfold consolidationPlan
  dsimp only
  rw [List.filterMap_filterMap]
  rfl

theorem planned_of_bind {g : MergeGroup} {key : List Char}
    (h : (planOf T (saleCountOf a) (keyed T a key)).bind Sum.getLeft? = some g) :
    Planned T (keyed T a key) g := by
  obtain ⟨result, hresult, hleft⟩ := Option.bind_eq_some_iff.1 h
  refine planOf_eq_inl (hresult.trans ?_)
  rw [Sum.getLeft?_eq_some_iff.1 hleft]

/-- A group of the plan is made of the customers with a key. -/
theorem exists_key {g : MergeGroup} (hg : g ∈ (consolidationPlan T a).mergeGroups) :
    ∃ key ∈ keysOf T a, Planned T (keyed T a key) g := by
  rw [mergeGroups_eq] at hg
  obtain ⟨key, hkey, hresult⟩ := List.mem_filterMap.1 hg
  exact ⟨key, hkey, planned_of_bind hresult⟩

theorem Planned.mem_cluster {g : MergeGroup} {key : List Char} (h : Planned T (keyed T a key) g)
    {pk : Nat} : pk ∈ g.cluster.ids ↔ ∃ c ∈ keyed T a key, c.pk = pk := by
  have hids : pk ∈ g.ids ↔ ∃ c ∈ keyed T a key, c.pk = pk := by
    rw [h.ids, List.mem_map]
  have hkeep : g.keepId ∈ g.ids := by
    obtain ⟨keeper, hkeeper, hpk, -⟩ := h.keep
    rw [h.ids, ← hpk]
    exact List.mem_map_of_mem hkeeper
  rw [← hids]
  unfold MergeGroup.cluster
  dsimp only
  rw [List.mem_cons]
  constructor
  · rintro (rfl | hmem)
    · exact hkeep
    · exact hmem
  · exact Or.inr

/-- The groups of a plan can be merged. -/
theorem ready_plan : Ready a.customers.rows (consolidationPlan T a).mergeGroups := by
  refine { keeps := ?_, nodup := ?_, there := ?_, disjoint := ?_ }
  · intro g hg
    obtain ⟨key, -, h⟩ := exists_key hg
    obtain ⟨keeper, hkeeper, hpk, -⟩ := h.keep
    rw [h.ids, ← hpk]
    exact List.mem_map_of_mem hkeeper
  · intro g hg
    obtain ⟨key, -, h⟩ := exists_key hg
    rw [h.ids]
    exact (List.filter_sublist.map _).nodup (a.customers.nodup_scan _)
  · intro g hg pk hpk
    obtain ⟨key, -, h⟩ := exists_key hg
    rw [h.ids, List.mem_map] at hpk
    obtain ⟨c, hc, rfl⟩ := hpk
    exact ⟨c, (mem_keyed.1 hc).1, rfl⟩
  · unfold DisjointClusters clusters
    rw [List.pairwise_map, mergeGroups_eq, List.pairwise_filterMap]
    refine nodup_keysOf.imp ?_
    intro key key' hne g hg g' hg' pk hpk hpk'
    obtain ⟨c, hc, rfl⟩ := (planned_of_bind hg).mem_cluster.1 hpk
    obtain ⟨c', hc', hEq⟩ := (planned_of_bind hg').mem_cluster.1 hpk'
    -- one customer has one key
    obtain ⟨hmem, hkey⟩ := mem_keyed.1 hc
    obtain ⟨hmem', hkey'⟩ := mem_keyed.1 hc'
    rw [a.customers.eq_of_pk_eq hmem' hmem hEq, hkey] at hkey'
    exact hne (Option.some.inj hkey')

end Plans

/-! ## The accounts after a consolidation -/

section Consolidated

variable {customers : List CustomerRecord} {groups : List MergeGroup} {c : CustomerRecord}

theorem foldl_renamed_of_not_kept (h : ∀ g ∈ groups, c.pk ≠ g.keepId) :
    groups.foldl (fun c g => renamed customers g c) c = c := by
  induction groups with
  | nil => rfl
  | cons g groups ih =>
      have hfirst : renamed customers g c = c := if_neg (h g List.mem_cons_self)
      rw [List.foldl_cons, hfirst]
      exact ih fun g' hg' => h g' (List.mem_cons_of_mem _ hg')

/-- The keeper of a group is renamed by its own group only. -/
theorem foldl_renamed_of_kept (hdisjoint : DisjointClusters (clusters groups)) {g : MergeGroup}
    (hg : g ∈ groups) (hpk : c.pk = g.keepId) :
    groups.foldl (fun c g => renamed customers g c) c = renamed customers g c := by
  induction groups with
  | nil => exact absurd hg List.not_mem_nil
  | cons first groups ih =>
      obtain ⟨hfirst, hrest⟩ := List.pairwise_cons.1 hdisjoint
      have hother : ∀ g' ∈ groups, first.keepId ≠ g'.keepId := by
        intro g' hg' hEq
        refine hfirst g'.cluster (List.mem_map_of_mem hg') first.keepId List.mem_cons_self ?_
        rw [hEq]
        exact List.mem_cons_self
      rw [List.foldl_cons]
      rcases List.mem_cons.1 hg with rfl | hlater
      · refine foldl_renamed_of_not_kept ?_
        intro g' hg' hEq
        rw [pk_renamed, hpk] at hEq
        exact hother g' hg' hEq
      · have hskip : renamed customers first c = c := by
          refine if_neg ?_
          rw [hpk]
          exact (hother g hlater).symm
        rw [hskip]
        exact ih hrest hlater

variable {a a' : Accounts} {moved : List Moved}

/-- The customers outside all groups are those they were. -/
theorem AllMoved.others (h : AllMoved groups a a' moved) (hready : Ready a.customers.rows groups)
    (hout : ∀ g ∈ groups, c.pk ∉ g.ids) : c ∈ a'.customers.rows ↔ c ∈ a.customers.rows := by
  have hkept : ∀ g ∈ groups, c.pk ≠ g.keepId := by
    intro g hg hEq
    exact hout g hg (hEq ▸ hready.keeps g hg)
  rw [h.customers, List.mem_map]
  constructor
  · rintro ⟨old, hold, hEq⟩
    have hpk : old.pk = c.pk := by rw [← hEq, foldl_renamed_pk]
    rw [foldl_renamed_of_not_kept fun g hg => hpk ▸ hkept g hg] at hEq
    rw [← hEq]
    exact List.mem_of_mem_filter hold
  · intro hmem
    refine ⟨c, List.mem_filter.2 ⟨hmem, List.all_eq_true.2 ?_⟩, foldl_renamed_of_not_kept hkept⟩
    intro g hg
    have hno : g.cluster.gives c.pk = false := by
      by_contra hyes
      rw [Bool.not_eq_false, ← mem_removed (hready.keeps g hg)] at hyes
      exact hout g hg (List.mem_of_mem_filter hyes)
    rw [hno]
    rfl

/-- Of a group only its keeper is left, renamed. -/
theorem AllMoved.kept (h : AllMoved groups a a' moved) (hready : Ready a.customers.rows groups)
    {g : MergeGroup} (hg : g ∈ groups) {keeper : CustomerRecord} (hkeeper : keeper ∈ a.customers.rows)
    (hpk : keeper.pk = g.keepId) :
    (a'.customers.rows.filter fun c => decide (c.pk ∈ g.ids)) = [renamed a.customers.rows g keeper] := by
  have hnodup : (a'.customers.rows.filter fun c => decide (c.pk ∈ g.ids)).Nodup :=
    (List.Nodup.of_map _ a'.customers.nodup).filter _
  refine List.perm_singleton.1 ((List.perm_ext_iff_of_nodup hnodup (List.nodup_singleton _)).2 ?_)
  intro c
  rw [List.mem_filter, decide_eq_true_iff, List.mem_singleton, h.customers, List.mem_map]
  constructor
  · rintro ⟨⟨old, hold, rfl⟩, hin⟩
    obtain ⟨hmem, hstays⟩ := List.mem_filter.1 hold
    rw [foldl_renamed_pk] at hin
    -- a member that stays is the keeper
    have hold' : old = keeper := by
      refine a.customers.eq_of_pk_eq hmem hkeeper ?_
      show old.pk = keeper.pk
      rw [hpk]
      by_contra hne
      have hgives := List.all_eq_true.1 hstays g hg
      have hyes : g.cluster.gives old.pk = true :=
        decide_eq_true ⟨List.mem_cons_of_mem _ hin, hne⟩
      rw [hyes] at hgives
      exact Bool.noConfusion hgives
    rw [hold', foldl_renamed_of_kept hready.disjoint hg hpk]
  · rintro rfl
    refine ⟨⟨keeper, List.mem_filter.2 ⟨hkeeper, List.all_eq_true.2 ?_⟩,
      foldl_renamed_of_kept hready.disjoint hg hpk⟩, ?_⟩
    · intro g' hg'
      have hnever := gives_redirectAll hready.disjoint (List.mem_map_of_mem hg') keeper.pk
      have hself : redirectAll (clusters groups) keeper.pk = keeper.pk := by
        rw [hpk]
        exact redirectAll_mem hready.disjoint (List.mem_map_of_mem hg) g.cluster.keep_mem
      rw [hself] at hnever
      rw [hnever]
      rfl
    · rw [pk_renamed, hpk]
      exact hready.keeps g hg

end Consolidated

/-- Consolidating customers never fails, and changes nothing about a sale or an order but its customer,
who becomes the account kept for the group it was in; the old customers of the moved rows are recorded.
Of every group one account is left, under the canonical name, active if one of the group was, and with
every contact detail of the group up to formatting; all other customers stay as they are. -/
theorem consolidate_customers_merges (T : Unicode) (a : Accounts) :
    ∃ a' moved, consolidateCustomers a (consolidationPlan T a) = .ok (a', moved) ∧
      AllMoved (consolidationPlan T a).mergeGroups a a' moved ∧
      (∀ pk, (∀ g ∈ (consolidationPlan T a).mergeGroups, pk ∉ g.ids) →
        redirectAll (clusters (consolidationPlan T a).mergeGroups) pk = pk) ∧
      (∀ c, (∀ g ∈ (consolidationPlan T a).mergeGroups, c.pk ∉ g.ids) →
        (c ∈ a'.customers.rows ↔ c ∈ a.customers.rows)) ∧
      (∀ g ∈ (consolidationPlan T a).mergeGroups, ∃ keeper ∈ a.customers.rows,
        keeper.pk = g.keepId ∧
        (∀ pk ∈ g.ids, redirectAll (clusters (consolidationPlan T a).mergeGroups) pk = g.keepId) ∧
        (a'.customers.rows.filter fun c => decide (c.pk ∈ g.ids)) =
          [{ keeper with
             name := g.name
             contact := g.contacts
             isActive := anyActive a.customers.rows g }] ∧
        ∀ c ∈ a.customers.rows, c.pk ∈ g.ids → ∀ field value, c.given field = some value →
          ∃ value', g.contacts field = some value' ∧
            normalizedContact T value' = normalizedContact T value) ∧
      a'.customers.rows.length +
        ((consolidationPlan T a).mergeGroups.map fun g => g.members.length - 1).sum =
          a.customers.rows.length := by
  have hready := @ready_plan T a
  obtain ⟨a', moved, hok, h⟩ := mergeGroups_moves hready
  have hids : ∀ g ∈ (consolidationPlan T a).mergeGroups, ∀ pk, pk ∈ g.cluster.ids ↔ pk ∈ g.ids := by
    intro g hg pk
    unfold MergeGroup.cluster
    dsimp only
    rw [List.mem_cons]
    constructor
    · rintro (rfl | hmem)
      · exact hready.keeps g hg
      · exact hmem
    · exact Or.inr
  refine ⟨a', moved, hok, h, ?_, fun c hout => h.others hready hout, ?_, ?_⟩
  · intro pk hout
    refine redirectAll_not_mem ?_
    intro cluster hcluster
    obtain ⟨g, hg, rfl⟩ := List.mem_map.1 hcluster
    rw [hids g hg]
    exact hout g hg
  · intro g hg
    obtain ⟨key, -, hplanned⟩ := exists_key hg
    obtain ⟨keeper, hkeeper, hpk, -⟩ := hplanned.keep
    have hmem := (mem_keyed.1 hkeeper).1
    refine ⟨keeper, hmem, hpk, ?_, ?_, ?_⟩
    · intro pk hin
      exact redirectAll_mem hready.disjoint (List.mem_map_of_mem hg) ((hids g hg pk).2 hin)
    · rw [h.kept hready hg hmem hpk]
      unfold renamed
      rw [if_pos hpk]
    · intro c hc hin field value hvalue
      obtain ⟨other, hother, hEq⟩ := hplanned.mem_cluster.1 ((hids g hg c.pk).2 hin)
      rw [a.customers.eq_of_pk_eq (mem_keyed.1 hother).1 hc hEq] at hother
      exact hplanned.contacts_kept hother hvalue
  · have hlength := length_kept a.customers.nodup hready
    rw [h.customers, List.length_map]
    exact hlength

/-! ## Planning again -/

section Again

variable {a a' : Accounts} {moved : List Moved}

/-- The keys of groups with a canonical name that has the key of the names it replaces. -/
def Stable (T : Unicode) (a : Accounts) : Prop :=
  ∀ g ∈ (consolidationPlan T a).mergeGroups, ∀ c ∈ a.customers.rows, c.pk ∈ g.ids →
    customerKey T g.name = customerKey T c.name

theorem mem_ids_iff {g : MergeGroup} {key : List Char} (h : Planned T (keyed T a key) g)
    {c : CustomerRecord} (hc : c ∈ a.customers.rows) :
    c.pk ∈ g.ids ↔ customerKey T c.name = some key := by
  rw [h.ids, List.mem_map]
  constructor
  · rintro ⟨other, hother, hEq⟩
    obtain ⟨hmem, hkey⟩ := mem_keyed.1 hother
    rw [← a.customers.eq_of_pk_eq hmem hc hEq]
    exact hkey
  · intro hkey
    exact ⟨c, mem_keyed.2 ⟨hc, hkey⟩, rfl⟩

/-- The group of a key, if its customers are to be merged. -/
def groupOf? (T : Unicode) (a : Accounts) (key : List Char) : Option MergeGroup :=
  (planOf T (saleCountOf a) (keyed T a key)).bind Sum.getLeft?

theorem mem_mergeGroups {g : MergeGroup} : g ∈ (consolidationPlan T a).mergeGroups ↔
    ∃ key ∈ keysOf T a, groupOf? T a key = some g := by
  rw [mergeGroups_eq, List.mem_filterMap]
  rfl

/-- What a customer has after the consolidation: its own row, or that of a group it is kept for. -/
theorem mem_consolidated (h : AllMoved (consolidationPlan T a).mergeGroups a a' moved)
    {c : CustomerRecord} : c ∈ a'.customers.rows ↔
      (c ∈ a.customers.rows ∧ ∀ g ∈ (consolidationPlan T a).mergeGroups, c.pk ∉ g.ids) ∨
        ∃ g ∈ (consolidationPlan T a).mergeGroups, ∃ keeper ∈ a.customers.rows,
          keeper.pk = g.keepId ∧ renamed a.customers.rows g keeper = c := by
  have hready := @ready_plan T a
  by_cases hout : ∀ g ∈ (consolidationPlan T a).mergeGroups, c.pk ∉ g.ids
  · rw [h.others hready hout]
    constructor
    · exact fun hmem => Or.inl ⟨hmem, hout⟩
    · rintro (⟨hmem, -⟩ | ⟨g, hg, keeper, -, hpk, rfl⟩)
      · exact hmem
      · refine absurd (hready.keeps g hg) ?_
        rw [← hpk, ← @pk_renamed a.customers.rows g keeper]
        exact hout g hg
  · have hin : ∃ g ∈ (consolidationPlan T a).mergeGroups, c.pk ∈ g.ids := by
      by_contra hno
      exact hout fun g hg hmem => hno ⟨g, hg, hmem⟩
    obtain ⟨g, hg, hmem⟩ := hin
    obtain ⟨keeper, hkeeper, hpk⟩ := hready.there g hg g.keepId (hready.keeps g hg)
    have honly := h.kept hready hg hkeeper hpk
    constructor
    · intro hc
      have hc' : c ∈ a'.customers.rows.filter fun c => decide (c.pk ∈ g.ids) :=
        List.mem_filter.2 ⟨hc, decide_eq_true hmem⟩
      rw [honly] at hc'
      exact Or.inr ⟨g, hg, keeper, hkeeper, hpk, (List.mem_singleton.1 hc').symm⟩
    · rintro (⟨-, hno⟩ | ⟨g', hg', keeper', hkeeper', hpk', rfl⟩)
      · exact absurd hmem (hno g hg)
      · have hkept : renamed a.customers.rows g' keeper' ∈
            a'.customers.rows.filter fun c => decide (c.pk ∈ g'.ids) := by
          rw [h.kept hready hg' hkeeper' hpk']
          exact List.mem_singleton.2 rfl
        exact List.mem_of_mem_filter hkept

/-- The key of an account that was kept is the key of its group. -/
theorem key_renamed (hstable : Stable T a) {g : MergeGroup} {key : List Char}
    (hg : g ∈ (consolidationPlan T a).mergeGroups) (hplanned : Planned T (keyed T a key) g)
    {keeper : CustomerRecord} (hpk : keeper.pk = g.keepId) :
    customerKey T (renamed a.customers.rows g keeper).name = some key := by
  have hname : (renamed a.customers.rows g keeper).name = g.name := by
    unfold renamed
    rw [if_pos hpk]
  obtain ⟨member, hmember, hEq, -⟩ := hplanned.keep
  obtain ⟨hmem, hkey⟩ := mem_keyed.1 hmember
  rw [hname, hstable g hg member hmem ((mem_ids_iff hplanned hmem).2 hkey)]
  exact hkey

/-- A key whose customers were merged has one customer. -/
theorem keyed_merged (h : AllMoved (consolidationPlan T a).mergeGroups a a' moved)
    (hstable : Stable T a) {key : List Char} (hkey : key ∈ keysOf T a) {g : MergeGroup}
    (hgroup : groupOf? T a key = some g) : ∃ kept, keyed T a' key = [kept] := by
  have hg : g ∈ (consolidationPlan T a).mergeGroups := mem_mergeGroups.2 ⟨key, hkey, hgroup⟩
  have hplanned : Planned T (keyed T a key) g := planned_of_bind hgroup
  obtain ⟨keeper, hkeeper, hpk, -⟩ := hplanned.keep
  have hmem := (mem_keyed.1 hkeeper).1
  have hnodup : (keyed T a' key).Nodup :=
    (List.Nodup.of_map _ (a'.customers.nodup_scan _)).filter _
  refine ⟨renamed a.customers.rows g keeper, List.perm_singleton.1
    ((List.perm_ext_iff_of_nodup hnodup (List.nodup_singleton _)).2 ?_)⟩
  intro c
  rw [mem_keyed, mem_consolidated h, List.mem_singleton]
  constructor
  · rintro ⟨⟨hc, hout⟩ | ⟨g', hg', keeper', hkeeper', hpk', rfl⟩, hckey⟩
    · exact absurd ((mem_ids_iff hplanned hc).2 hckey) (hout g hg)
    · -- a group with the same key is the same group
      obtain ⟨key', hkey', hgroup'⟩ := mem_mergeGroups.1 hg'
      have hsame := key_renamed hstable hg' (planned_of_bind hgroup') hpk'
      rw [hsame] at hckey
      obtain rfl := Option.some.inj hckey
      obtain rfl := Option.some.inj (hgroup'.symm.trans hgroup)
      rw [a.customers.eq_of_pk_eq hkeeper' hmem (hpk'.trans hpk.symm)]
  · rintro rfl
    exact ⟨Or.inr ⟨g, hg, keeper, hmem, hpk, rfl⟩, key_renamed hstable hg hplanned hpk⟩

/-- The customers with a key are the same if they are not merged. -/
theorem keyed_unmerged (h : AllMoved (consolidationPlan T a).mergeGroups a a' moved)
    (hstable : Stable T a) {key : List Char} (hnone : groupOf? T a key = none) :
    keyed T a' key = keyed T a key := by
  have hout : ∀ c ∈ a.customers.rows, customerKey T c.name = some key →
      ∀ g ∈ (consolidationPlan T a).mergeGroups, c.pk ∉ g.ids := by
    intro c hc hckey g hg hmem
    obtain ⟨key', -, hgroup⟩ := mem_mergeGroups.1 hg
    have hckey' := (mem_ids_iff (planned_of_bind hgroup) hc).1 hmem
    obtain rfl := Option.some.inj (hckey.symm.trans hckey')
    rw [hnone] at hgroup
    cases hgroup
  unfold keyed classOf
  rw [Table.filter_scan, Table.filter_scan]
  refine Table.scan_eq_of_mem_iff ?_
  intro c
  simp only [Bool.true_and, decide_eq_true_iff]
  rw [mem_consolidated h]
  constructor
  · rintro ⟨⟨hc, -⟩ | ⟨g, hg, keeper, hkeeper, hpk, rfl⟩, hckey⟩
    · exact ⟨hc, hckey⟩
    · obtain ⟨key', -, hgroup⟩ := mem_mergeGroups.1 hg
      rw [key_renamed hstable hg (planned_of_bind hgroup) hpk] at hckey
      obtain rfl := Option.some.inj hckey
      rw [hnone] at hgroup
      cases hgroup
  · rintro ⟨hc, hckey⟩
    exact ⟨Or.inl ⟨hc, hout c hc hckey⟩, hckey⟩

/-- A plan asks for the sales of the members only. -/
theorem planOf_congr {saleCount saleCount' : Nat → Nat} {members : List CustomerRecord}
    (h : ∀ c ∈ members, saleCount c.pk = saleCount' c.pk) :
    planOf T saleCount members = planOf T saleCount' members := by
  match members with
  | [] => rfl
  | [_] => rfl
  | first :: second :: others =>
      have hdetails : ((first :: second :: others).map fun c =>
          { id := c.pk, name := c.name, transactions := saleCount c.pk : Detail }) =
            (first :: second :: others).map fun c =>
              { id := c.pk, name := c.name, transactions := saleCount' c.pk : Detail } := by
        refine List.map_congr_left ?_
        intro c hc
        rw [h c hc]
      unfold planOf
      dsimp only
      rw [hdetails]

/-- A customer outside all groups has the sales it had. -/
theorem saleCount_consolidated (h : AllMoved (consolidationPlan T a).mergeGroups a a' moved) {pk : Nat}
    (hout : ∀ g ∈ (consolidationPlan T a).mergeGroups, pk ∉ g.ids) :
    saleCountOf a' pk = saleCountOf a pk := by
  have hready := @ready_plan T a
  have hredirect : ∀ k, redirectAll (clusters (consolidationPlan T a).mergeGroups) k = pk ↔ k = pk := by
    intro k
    by_cases hk : ∃ cluster ∈ clusters (consolidationPlan T a).mergeGroups, k ∈ cluster.ids
    · obtain ⟨cluster, hcluster, hmem⟩ := hk
      rw [redirectAll_mem hready.disjoint hcluster hmem]
      obtain ⟨g, hg, rfl⟩ := List.mem_map.1 hcluster
      have hkeep := hready.keeps g hg
      have hnot : ∀ k' ∈ g.cluster.ids, k' ≠ pk := by
        rintro k' hk' rfl
        rcases List.mem_cons.1 hk' with rfl | hk'
        · exact hout g hg hkeep
        · exact hout g hg hk'
      exact iff_of_false (hnot _ g.cluster.keep_mem) (hnot k hmem)
    · rw [redirectAll_not_mem fun cluster hcluster hmem => hk ⟨cluster, hcluster, hmem⟩]
  unfold saleCountOf
  rw [h.transactions, List.filter_map, List.length_map]
  congr 1
  refine List.filter_congr ?_
  intro txn _
  refine decide_eq_decide.2 ?_
  show txn.customer.map _ = some pk ↔ txn.customer = some pk
  rw [Option.map_eq_some_iff]
  constructor
  · rintro ⟨k, hk, hEq⟩
    rw [hk, (hredirect k).1 hEq]
  · intro hk
    exact ⟨pk, hk, (hredirect pk).2 rfl⟩

theorem planOf_consolidated (h : AllMoved (consolidationPlan T a).mergeGroups a a' moved)
    (hstable : Stable T a) {key : List Char} (hnone : groupOf? T a key = none) :
    planOf T (saleCountOf a') (keyed T a' key) = planOf T (saleCountOf a) (keyed T a key) := by
  rw [keyed_unmerged h hstable hnone]
  refine planOf_congr ?_
  intro c hc
  refine saleCount_consolidated h ?_
  intro g hg hmem
  obtain ⟨key', -, hgroup⟩ := mem_mergeGroups.1 hg
  obtain ⟨hmem', hckey⟩ := mem_keyed.1 hc
  have hckey' := (mem_ids_iff (planned_of_bind hgroup) hmem').1 hmem
  obtain rfl := Option.some.inj (hckey.symm.trans hckey')
  rw [hnone] at hgroup
  cases hgroup

/-- The keys are those that were there. -/
theorem keysOf_consolidated (h : AllMoved (consolidationPlan T a).mergeGroups a a' moved)
    (hstable : Stable T a) : keysOf T a' = keysOf T a := by
  have hnonempty : ∀ {a : Accounts} {key : List Char},
      (∃ c ∈ a.customers.rows, customerKey T c.name = some key) ↔ keyed T a key ≠ [] := by
    intro a key
    constructor
    · rintro ⟨c, hc⟩
      exact List.ne_nil_of_mem (mem_keyed.2 hc)
    · intro hne
      obtain ⟨c, hc⟩ := List.exists_mem_of_ne_nil _ hne
      exact ⟨c, mem_keyed.1 hc⟩
  have hmem : ∀ key, key ∈ keysOf T a' ↔ key ∈ keysOf T a := by
    intro key
    rw [mem_keysOf, mem_keysOf, hnonempty, hnonempty]
    refine and_congr_right fun hne => ?_
    cases hgroup : groupOf? T a key with
    | none => rw [keyed_unmerged h hstable hgroup]
    | some g =>
        have hseveral := (planned_of_bind hgroup).several
        have hbefore : keyed T a key ≠ [] := by
          intro hnil
          rw [hnil] at hseveral
          exact absurd hseveral (by decide)
        have hkey : key ∈ keysOf T a := mem_keysOf.2 ⟨hne, hnonempty.2 hbefore⟩
        obtain ⟨kept, hkept⟩ := keyed_merged h hstable hkey hgroup
        rw [hkept]
        exact iff_of_true (List.cons_ne_nil _ _) hbefore
  have hsorted : ∀ a : Accounts, (keysOf T a).Pairwise fun k k' => decide (k ≤ k') = true := by
    intro a
    refine List.pairwise_mergeSort ?_ ?_ _
    · intro k k' k'' hle hle'
      exact decide_eq_true (le_trans (of_decide_eq_true hle) (of_decide_eq_true hle'))
    · intro k k'
      rw [Bool.or_eq_true, decide_eq_true_iff, decide_eq_true_iff]
      exact le_total k k'
  refine List.Perm.eq_of_pairwise ?_ (hsorted a') (hsorted a)
    ((List.perm_ext_iff_of_nodup nodup_keysOf nodup_keysOf).2 hmem)
  intro k k' _ _ hle hge
  exact le_antisymm (of_decide_eq_true hle) (of_decide_eq_true hge)

theorem plan_consolidated (h : AllMoved (consolidationPlan T a).mergeGroups a a' moved)
    (hstable : Stable T a) : (consolidationPlan T a').mergeGroups = [] ∧
      (consolidationPlan T a').needsReview = (consolidationPlan T a).needsReview := by
  have hafter : ∀ key ∈ keysOf T a, ∀ g, groupOf? T a key = some g →
      planOf T (saleCountOf a') (keyed T a' key) = none := by
    intro key hkey g hgroup
    obtain ⟨kept, hkept⟩ := keyed_merged h hstable hkey hgroup
    rw [hkept]
    rfl
  constructor
  · rw [mergeGroups_eq, keysOf_consolidated h hstable, List.filterMap_eq_nil_iff]
    intro key hkey
    cases hgroup : groupOf? T a key with
    | none => rwa [planOf_consolidated h hstable hgroup]
    | some g => rw [hafter key hkey g hgroup, Option.bind_none]
  · rw [needsReview_eq, needsReview_eq, keysOf_consolidated h hstable]
    refine List.filterMap_congr ?_
    intro key hkey
    cases hgroup : groupOf? T a key with
    | none => rw [planOf_consolidated h hstable hgroup]
    | some g =>
        rw [hafter key hkey g hgroup, Option.bind_none]
        -- what was merged was not up for review
        obtain ⟨result, hresult, hleft⟩ := Option.bind_eq_some_iff.1 hgroup
        rw [hresult, Sum.getLeft?_eq_some_iff.1 hleft]
        rfl

theorem fingerprints_moved {saleDigest : List Transaction → String}
    {orderDigest : List Order → String} {groups : List MergeGroup} (h : AllMoved groups a a' moved) :
    fingerprints saleDigest orderDigest a' = fingerprints saleDigest orderDigest a := by
  have hsales := @Table.scan_of_rows_map Transaction _ a.transactions a'.transactions
    (moveSale (redirectAll (clusters groups))) (fun _ => rfl) h.transactions
  have horders := @Table.scan_of_rows_map Order _ a.orders a'.orders
    (moveOrder (redirectAll (clusters groups))) (fun _ => rfl) h.orders
  unfold fingerprints
  rw [hsales, horders, List.map_map, List.map_map]
  rfl

/-- The sale of a customer is booked for a customer with the same key as before. -/
theorem key_consolidated (h : AllMoved (consolidationPlan T a).mergeGroups a a' moved)
    (hstable : Stable T a) {c : CustomerRecord} (hc : c ∈ a.customers.rows) :
    ∃ c' ∈ a'.customers.rows,
      c'.pk = redirectAll (clusters (consolidationPlan T a).mergeGroups) c.pk ∧
        customerKey T c'.name = customerKey T c.name := by
  have hready := @ready_plan T a
  by_cases hin : ∃ g ∈ (consolidationPlan T a).mergeGroups, c.pk ∈ g.ids
  · obtain ⟨g, hg, hmem⟩ := hin
    obtain ⟨key, -, hgroup⟩ := mem_mergeGroups.1 hg
    have hplanned := planned_of_bind hgroup
    obtain ⟨keeper, hkeeper, hpk, -⟩ := hplanned.keep
    refine ⟨renamed a.customers.rows g keeper, (mem_consolidated h).2
      (Or.inr ⟨g, hg, keeper, (mem_keyed.1 hkeeper).1, hpk, rfl⟩), ?_, ?_⟩
    · rw [pk_renamed, hpk, redirectAll_mem hready.disjoint (List.mem_map_of_mem hg)
        (List.mem_cons_of_mem _ hmem)]
      rfl
    · rw [key_renamed hstable hg hplanned hpk, (mem_ids_iff hplanned hc).1 hmem]
  · have hout : ∀ g ∈ (consolidationPlan T a).mergeGroups, c.pk ∉ g.ids :=
      fun g hg hmem => hin ⟨g, hg, hmem⟩
    refine ⟨c, (mem_consolidated h).2 (Or.inl ⟨hc, hout⟩), (redirectAll_not_mem ?_).symm, rfl⟩
    intro cluster hcluster hmem
    obtain ⟨g, hg, rfl⟩ := List.mem_map.1 hcluster
    rcases List.mem_cons.1 hmem with hEq | hmem
    · exact hout g hg (hEq ▸ hready.keeps g hg)
    · exact hout g hg hmem

end Again

/-- When the canonical names keep the keys of the names they replace, the command passes all its checks:
it leaves no duplicate to merge, the same customers for review, and every customer of a sale under the
key it had. -/
theorem apply_consolidation_completes (T : Unicode) (saleDigest : List Transaction → String)
    (orderDigest : List Order → String) (a : Accounts) (hstable : Stable T a) :
    ∃ a' moved, applyConsolidation T saleDigest orderDigest a = .ok (a', moved) ∧
      (consolidationPlan T a').mergeGroups = [] ∧
      (consolidationPlan T a').needsReview = (consolidationPlan T a).needsReview ∧
      fingerprints saleDigest orderDigest a' = fingerprints saleDigest orderDigest a ∧
      a'.transactions.rows = a.transactions.rows.map
        (moveSale (redirectAll (clusters (consolidationPlan T a).mergeGroups))) ∧
      ∀ c ∈ a.customers.rows, ∃ c' ∈ a'.customers.rows,
        c'.pk = redirectAll (clusters (consolidationPlan T a).mergeGroups) c.pk ∧
          customerKey T c'.name = customerKey T c.name := by
  obtain ⟨a', moved, hok, h⟩ := mergeGroups_moves (@ready_plan T a)
  obtain ⟨hnone, hreview⟩ := plan_consolidated h hstable
  refine ⟨a', moved, ?_, hnone, hreview, fingerprints_moved h, h.transactions,
    fun c hc => key_consolidated h hstable hc⟩
  unfold applyConsolidation
  dsimp only
  by_cases hempty : (consolidationPlan T a).mergeGroups = []
  · -- without groups the merge does nothing
    rw [hempty] at hok
    obtain ⟨rfl, rfl⟩ := Prod.mk.inj (Except.ok.inj hok)
    rw [hempty]
    rfl
  · have hsome : (consolidationPlan T a).mergeGroups.isEmpty = false := by
      rwa [List.isEmpty_eq_false_iff]
    have hlength := length_kept a.customers.nodup (@ready_plan T a)
    have hcount : a'.customers.rows.length = a.customers.rows.length -
        ((consolidationPlan T a).mergeGroups.map fun g => g.members.length - 1).sum := by
      rw [h.customers, List.length_map]
      exact Nat.eq_sub_of_add_eq hlength
    rw [hsome, if_neg Bool.false_ne_true]
    unfold consolidateCustomers
    rw [hok, ok_bind]
    dsimp only
    rw [require_bind_eq_ok, require_bind_eq_ok, hnone]
    exact ⟨⟨(fingerprints_moved h).symm, hcount⟩, rfl, rfl⟩

/-- Two people of one name, and an event and a day of it, which have one name as well; a sale and its
order are booked on the day. -/
def tikmeAccounts : Accounts :=
  { customers :=
      { rows := [("Ana Cruz", 1), ("Ana Cruz", 2), ("Tikme", 3), ("Tikme-Day 2", 4)].map fun entry =>
          { pk := entry.2
            name := entry.1.toList
            contact := fun _ => none
            isActive := true
            createdBy := 1
            createdAt := 0
            updatedAt := 0 }
        next := 5
        nodup := by decide
        below := by decide }
    transactions := Table.empty.create fun pk =>
      { pk := pk
        handledBy := 1
        customer := some 4
        subtotal := 300
        totalAmount := 300
        amountTendered := some 300
        changeDue := some 0
        paymentMethod := .cash
        paymentStatus := .paid
        paymentUpdatedAt := some 86400
        paymentUpdatedBy := some 1
        isVoided := false
        voidedAt := none
        voidedBy := none
        voidReason := ""
        sourceReference := none
        sourceInvoiceNumber := some "SI0001"
        invoiceYear := some 1
        invoiceNumberSource := .legacy
        sourceCustomerLabel := ""
        sourceNote := ""
        createdAt := 86400
        encodedAt := none
        encodingRequestId := none
        encodingPayloadHash := "" }
    orders := Table.empty.create fun pk =>
      { pk := pk
        customer := 4
        handledBy := 1
        status := .fulfilled
        warning := ""
        transaction := some 1
        createdAt := 86400 } }

theorem sortedKeys_tikme :
    sortedKeys Unicode.ascii (tikmeAccounts.customers.scan fun _ => true) =
      ["ana cruz".toList, "tikme".toList] := by
  unfold sortedKeys
  rw [List.mergeSort_of_pairwise (by decide +kernel)]
  decide +kernel

theorem apply_consolidation_completes_tikme :
    ∃ a' moved, applyConsolidation Unicode.ascii (fun _ => "") (fun _ => "") tikmeAccounts =
        .ok (a', moved) ∧
      (consolidationPlan Unicode.ascii a').mergeGroups = [] ∧
      (consolidationPlan Unicode.ascii a').needsReview.length = 1 ∧
      a'.transactions.rows.map Transaction.customer = [some 3] := by
  have hstable : Stable Unicode.ascii tikmeAccounts := by
    unfold Stable consolidationPlan
    dsimp only
    rw [sortedKeys_tikme]
    decide +kernel
  obtain ⟨a', moved, hok, hnone, hreview, -, hsales, -⟩ :=
    apply_consolidation_completes Unicode.ascii (fun _ => "") (fun _ => "") tikmeAccounts hstable
  refine ⟨a', moved, hok, hnone, ?_, ?_⟩
  · rw [hreview]
    unfold consolidationPlan
    dsimp only
    rw [sortedKeys_tikme]
    decide +kernel
  · rw [hsales]
    unfold consolidationPlan
    dsimp only
    rw [sortedKeys_tikme]
    decide +kernel

end CustomerConsolidation
end RosarioDairy
