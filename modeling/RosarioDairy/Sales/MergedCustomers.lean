import RosarioDairy.Sales.CustomerConsolidation

/-!
# MergedCustomers — what the consolidation of customers leaves behind

Every sale and every order keeps all but its customer, and that is the kept account of the group the
customer was in; the other customers stay as they are.
-/

namespace RosarioDairy
namespace CustomerConsolidation

open Foundations CustomerNames

/-! ## One group -/

/-- The accounts of a group, with the one that is kept. -/
def MergeGroup.cluster (g : MergeGroup) : Cluster Nat :=
  { keep := g.keepId
    ids := g.keepId :: g.ids
    keep_mem := List.mem_cons_self }

def moveSale (redirect : Nat → Nat) (txn : Transaction) : Transaction :=
  { txn with customer := txn.customer.map redirect }

def moveOrder (redirect : Nat → Nat) (order : Order) : Order :=
  { order with customer := redirect order.customer }

/-- Some customer of a group is active. -/
def anyActive (customers : List CustomerRecord) (g : MergeGroup) : Bool :=
  customers.any fun c => decide (c.pk ∈ g.ids) && c.isActive

/-- The account a group keeps takes its name, its contact details and its activity. -/
def renamed (customers : List CustomerRecord) (g : MergeGroup) (c : CustomerRecord) :
    CustomerRecord :=
  if c.pk = g.keepId then
    { c with
      name := g.name
      contact := g.contacts
      isActive := anyActive customers g }
  else c

@[simp]
theorem pk_renamed {customers : List CustomerRecord} {g : MergeGroup} {c : CustomerRecord} :
    (renamed customers g c).pk = c.pk := by
  unfold renamed
  by_cases hkeep : c.pk = g.keepId
  · rw [if_pos hkeep]
  · rw [if_neg hkeep]

section OneGroup

variable {a : Accounts} {g : MergeGroup}

theorem mem_removed {pk : Nat} (hkeep : g.keepId ∈ g.ids) :
    pk ∈ (g.ids.filter fun pk => pk != g.keepId) ↔ g.cluster.gives pk = true := by
  simp only [Cluster.gives, MergeGroup.cluster, List.mem_filter, bne_iff_ne, decide_eq_true_iff,
    List.mem_cons]
  constructor
  · rintro ⟨hmem, hne⟩
    exact ⟨Or.inr hmem, hne⟩
  · rintro ⟨rfl | hmem, hne⟩
    · exact ⟨hkeep, hne⟩
    · exact ⟨hmem, hne⟩

/-- Moving the rows of the removed customers redirects every row. -/
theorem redirect_eq (hkeep : g.keepId ∈ g.ids) (pk : Nat) :
    (if pk ∈ (g.ids.filter fun pk => pk != g.keepId) then g.keepId else pk) =
      g.cluster.redirect pk := by
  by_cases hgives : g.cluster.gives pk = true
  · have hmem := of_decide_eq_true hgives
    rw [if_pos ((mem_removed hkeep).2 hgives), redirect_mem hmem.1]
    rfl
  · rw [if_neg fun h => hgives ((mem_removed hkeep).1 h)]
    by_cases hmem : pk ∈ g.cluster.ids
    · have hEq : pk = g.cluster.keep := by
        by_contra hne
        exact hgives (decide_eq_true ⟨hmem, hne⟩)
      rw [redirect_mem hmem, ← hEq]
    · rw [redirect_not_mem hmem]

/-- No redirected key is removed. -/
theorem redirect_not_removed (hkeep : g.keepId ∈ g.ids) (pk : Nat) :
    g.cluster.redirect pk ∉ g.ids.filter fun pk => pk != g.keepId := by
  intro hmem
  have hgives := (mem_removed hkeep).1 hmem
  have hnever := @gives_redirectAll Nat _ [g.cluster] (List.pairwise_singleton _ _) g.cluster
    (List.mem_singleton.2 rfl) pk
  rw [redirectAll_cons, redirectAll_nil, hgives] at hnever
  exact Bool.noConfusion hnever

theorem moveSale_eq (hkeep : g.keepId ∈ g.ids) (txn : Transaction) :
    (if txn.customer.any fun pk => decide (pk ∈ g.ids.filter fun pk => pk != g.keepId) then
      { txn with customer := some g.keepId } else txn) = moveSale g.cluster.redirect txn := by
  unfold moveSale
  cases hcustomer : txn.customer with
  | none =>
      rw [if_neg (by simp), Option.map_none, ← hcustomer]
  | some pk =>
      rw [Option.map_some, ← redirect_eq hkeep, Option.any_some]
      by_cases hmem : pk ∈ g.ids.filter fun pk => pk != g.keepId
      · rw [if_pos hmem, if_pos (decide_eq_true hmem)]
      · rw [if_neg hmem, if_neg fun h => hmem (of_decide_eq_true h), ← hcustomer]

theorem moveOrder_eq (hkeep : g.keepId ∈ g.ids) (order : Order) :
    (if decide (order.customer ∈ g.ids.filter fun pk => pk != g.keepId) then
      { order with customer := g.keepId } else order) = moveOrder g.cluster.redirect order := by
  unfold moveOrder
  rw [← redirect_eq hkeep]
  by_cases hmem : order.customer ∈ g.ids.filter fun pk => pk != g.keepId
  · rw [if_pos hmem, if_pos (decide_eq_true hmem)]
  · rw [if_neg hmem, if_neg fun h => hmem (of_decide_eq_true h)]

/-- What merging one group does to the accounts. -/
structure GroupMoved (g : MergeGroup) (a a' : Accounts) (moved : Moved) : Prop where
  transactions : a'.transactions.rows = a.transactions.rows.map (moveSale g.cluster.redirect)
  orders : a'.orders.rows = a.orders.rows.map (moveOrder g.cluster.redirect)
  customers : a'.customers.rows =
    (a.customers.rows.filter fun c => !g.cluster.gives c.pk).map (renamed a.customers.rows g)
  saleLinks : ∀ link, link ∈ moved.oldTransactionLinks ↔
    ∃ row ∈ a.transactions.rows, row.pk = link.1 ∧ row.customer = some link.2 ∧
      g.cluster.gives link.2 = true
  orderLinks : ∀ link, link ∈ moved.oldOrderLinks ↔
    ∃ row ∈ a.orders.rows, row.pk = link.1 ∧ row.customer = link.2 ∧ g.cluster.gives link.2 = true

/-- Merging a group whose keeper is there never fails. -/
theorem mergeGroup_moves (hkeep : g.keepId ∈ g.ids) {keeper : CustomerRecord}
    (hkeeper : keeper ∈ a.customers.rows) (hpk : keeper.pk = g.keepId) :
    ∃ a' moved, mergeGroup a g = .ok (a', moved) ∧ GroupMoved g a a' moved := by
  have hfind : a.customers.find g.keepId = some keeper := Table.find_eq_some.2 ⟨hkeeper, hpk⟩
  have hremoved : (fun pk => pk != keeper.pk) = fun pk => pk != g.keepId := by rw [hpk]
  unfold mergeGroup
  rw [hfind]
  dsimp only [demand]
  rw [ok_bind]
  simp only [hpk]
  refine ⟨_, _, require_bind_eq_ok.2 ⟨⟨?_, ?_⟩, rfl⟩, ?_⟩
  · -- nothing refers to a removed customer any more, so the deletion is not refused
    intro txn htxn
    rw [Table.rows_updateWhere] at htxn
    obtain ⟨old, -, rfl⟩ := List.mem_map.1 htxn
    rw [moveSale_eq hkeep]
    unfold moveSale
    cases old.customer with
    | none => rfl
    | some pk => exact decide_eq_false (redirect_not_removed hkeep pk)
  · intro order horder
    rw [Table.rows_updateWhere] at horder
    obtain ⟨old, -, rfl⟩ := List.mem_map.1 horder
    rw [moveOrder_eq hkeep]
    exact decide_eq_false (redirect_not_removed hkeep old.customer)
  · refine { transactions := ?_, orders := ?_, customers := ?_, saleLinks := ?_, orderLinks := ?_ }
    · exact List.map_congr_left fun txn _ => moveSale_eq hkeep txn
    · exact List.map_congr_left fun order _ => moveOrder_eq hkeep order
    · show List.filter _ (List.map _ _) = _
      rw [List.filter_map]
      have hrename : ∀ c : CustomerRecord, (if decide (c.pk = g.keepId) then
          { c with
            name := g.name
            contact := g.contacts
            isActive := a.customers.rows.any fun c => decide (c.pk ∈ g.ids) && c.isActive }
          else c) = renamed a.customers.rows g c := by
        intro c
        unfold renamed anyActive
        by_cases hc : c.pk = g.keepId
        · rw [if_pos hc, if_pos (decide_eq_true hc)]
        · rw [if_neg hc, if_neg fun h => hc (of_decide_eq_true h)]
      simp only [hrename]
      congr 1
      refine List.filter_congr ?_
      intro c _
      dsimp only [Function.comp]
      rw [pk_renamed, Bool.not_inj_iff, Bool.eq_iff_iff, decide_eq_true_iff]
      exact mem_removed hkeep
    · intro link
      rw [List.mem_filterMap]
      constructor
      · rintro ⟨row, hrow, hlink⟩
        obtain ⟨hmem, hmoves⟩ := List.mem_filter.1 hrow
        obtain ⟨pk, hcustomer, rfl⟩ := Option.map_eq_some_iff.1 hlink
        rw [hcustomer, Option.any_some, decide_eq_true_iff, mem_removed hkeep] at hmoves
        exact ⟨row, hmem, rfl, hcustomer, hmoves⟩
      · rintro ⟨row, hmem, hpk', hcustomer, hgives⟩
        refine ⟨row, List.mem_filter.2 ⟨hmem, ?_⟩, ?_⟩
        · rw [hcustomer, Option.any_some, decide_eq_true_iff, mem_removed hkeep]
          exact hgives
        · rw [hcustomer, hpk']
          rfl
    · intro link
      rw [List.mem_map]
      constructor
      · rintro ⟨row, hrow, rfl⟩
        obtain ⟨hmem, hmoves⟩ := List.mem_filter.1 hrow
        exact ⟨row, hmem, rfl, rfl, (mem_removed hkeep).1 (of_decide_eq_true hmoves)⟩
      · rintro ⟨row, hmem, hpk', hcustomer, hgives⟩
        refine ⟨row, List.mem_filter.2 ⟨hmem, decide_eq_true ?_⟩, Prod.ext hpk' hcustomer⟩
        rw [hcustomer]
        exact (mem_removed hkeep).2 hgives

end OneGroup

/-! ## The groups one after the other -/

/-- The clusters of some groups. -/
def clusters (groups : List MergeGroup) : List (Cluster Nat) := groups.map MergeGroup.cluster

/-- Groups that can be merged: their customers are there, one of their own is kept, and no customer is
in two of them. -/
structure Ready (customers : List CustomerRecord) (groups : List MergeGroup) : Prop where
  keeps : ∀ g ∈ groups, g.keepId ∈ g.ids
  nodup : ∀ g ∈ groups, g.ids.Nodup
  there : ∀ g ∈ groups, ∀ pk ∈ g.ids, ∃ c ∈ customers, c.pk = pk
  disjoint : DisjointClusters (clusters groups)

/-- What merging all groups does to the accounts. -/
structure AllMoved (groups : List MergeGroup) (a a' : Accounts) (moved : List Moved) : Prop where
  transactions : a'.transactions.rows =
    a.transactions.rows.map (moveSale (redirectAll (clusters groups)))
  orders : a'.orders.rows = a.orders.rows.map (moveOrder (redirectAll (clusters groups)))
  customers : a'.customers.rows =
    (a.customers.rows.filter fun c => groups.all fun g => !g.cluster.gives c.pk).map fun c =>
      groups.foldl (fun c g => renamed a.customers.rows g c) c
  saleLinks : ∀ link, link ∈ moved.flatMap Moved.oldTransactionLinks ↔
    ∃ row ∈ a.transactions.rows, row.pk = link.1 ∧ row.customer = some link.2 ∧
      ∃ g ∈ groups, g.cluster.gives link.2 = true
  orderLinks : ∀ link, link ∈ moved.flatMap Moved.oldOrderLinks ↔
    ∃ row ∈ a.orders.rows, row.pk = link.1 ∧ row.customer = link.2 ∧
      ∃ g ∈ groups, g.cluster.gives link.2 = true

theorem foldl_renamed_pk {customers : List CustomerRecord} {groups : List MergeGroup}
    {c : CustomerRecord} : (groups.foldl (fun c g => renamed customers g c) c).pk = c.pk := by
  induction groups generalizing c with
  | nil => rfl
  | cons g groups ih => rw [List.foldl_cons, ih, pk_renamed]

section Groups

variable {a a' : Accounts} {g g' : MergeGroup} {moved : Moved}

/-- A customer outside a group is not touched by its merge. -/
theorem GroupMoved.mem_customers (h : GroupMoved g a a' moved) {c : CustomerRecord}
    (hout : c.pk ∉ g.cluster.ids) : c ∈ a'.customers.rows ↔ c ∈ a.customers.rows := by
  have hsame : ∀ c : CustomerRecord, c.pk ∉ g.cluster.ids → renamed a.customers.rows g c = c := by
    intro c hout
    refine if_neg fun hEq => hout ?_
    rw [hEq]
    exact g.cluster.keep_mem
  rw [h.customers, List.mem_map]
  constructor
  · rintro ⟨old, hold, rfl⟩
    rw [pk_renamed] at hout
    rw [hsame old hout]
    exact List.mem_of_mem_filter hold
  · intro hmem
    refine ⟨c, List.mem_filter.2 ⟨hmem, ?_⟩, hsame c hout⟩
    have hno : g.cluster.gives c.pk = false := decide_eq_false fun h => hout h.1
    rw [hno]
    rfl

/-- Whether a later group has an active customer does not depend on the merge before. -/
theorem GroupMoved.anyActive (h : GroupMoved g a a' moved)
    (hdisjoint : ∀ k ∈ g.cluster.ids, k ∉ g'.cluster.ids) :
    anyActive a'.customers.rows g' = anyActive a.customers.rows g' := by
  have hout : ∀ c : CustomerRecord, c.pk ∈ g'.ids → c.pk ∉ g.cluster.ids := by
    intro c hin hmem
    exact hdisjoint c.pk hmem (List.mem_cons_of_mem _ hin)
  unfold CustomerConsolidation.anyActive
  rw [Bool.eq_iff_iff, List.any_eq_true, List.any_eq_true]
  constructor
  · rintro ⟨c, hmem, hc⟩
    have hin := of_decide_eq_true (Bool.and_eq_true _ _ ▸ hc).1
    exact ⟨c, (h.mem_customers (hout c hin)).1 hmem, hc⟩
  · rintro ⟨c, hmem, hc⟩
    have hin := of_decide_eq_true (Bool.and_eq_true _ _ ▸ hc).1
    exact ⟨c, (h.mem_customers (hout c hin)).2 hmem, hc⟩

theorem renamed_congr {customers customers' : List CustomerRecord}
    (hactive : anyActive customers' g = anyActive customers g) :
    renamed customers' g = renamed customers g := by
  funext c
  unfold renamed
  rw [hactive]

theorem GroupMoved.ready (h : GroupMoved g a a' moved) {groups : List MergeGroup}
    (hready : Ready a.customers.rows (g :: groups)) : Ready a'.customers.rows groups := by
  obtain ⟨hfirst, hrest⟩ := List.pairwise_cons.1 hready.disjoint
  refine
    { keeps := fun g' hg' => hready.keeps g' (List.mem_cons_of_mem _ hg')
      nodup := fun g' hg' => hready.nodup g' (List.mem_cons_of_mem _ hg')
      there := ?_
      disjoint := hrest }
  intro g' hg' pk hpk
  obtain ⟨c, hc, rfl⟩ := hready.there g' (List.mem_cons_of_mem _ hg') pk hpk
  refine ⟨c, (h.mem_customers ?_).2 hc, rfl⟩
  intro hmem
  exact hfirst g'.cluster (List.mem_map_of_mem hg') c.pk hmem (List.mem_cons_of_mem _ hpk)

/-- A redirected key that a later group gives up was not redirected. -/
theorem redirect_gives {k : Nat} (hdisjoint : ∀ k ∈ g.cluster.ids, k ∉ g'.cluster.ids)
    (hgives : g'.cluster.gives (g.cluster.redirect k) = true) : g.cluster.redirect k = k := by
  by_cases hmem : k ∈ g.cluster.ids
  · rw [redirect_mem hmem] at hgives
    exact absurd (of_decide_eq_true hgives).1 (hdisjoint _ g.cluster.keep_mem)
  · exact redirect_not_mem hmem

end Groups

/-- Groups that can be merged are merged. -/
theorem mergeGroups_moves {a : Accounts} {groups : List MergeGroup}
    (hready : Ready a.customers.rows groups) :
    ∃ a' moved, mergeGroups a groups = .ok (a', moved) ∧ AllMoved groups a a' moved := by
  induction groups generalizing a with
  | nil =>
      refine ⟨a, [], rfl, { transactions := ?_, orders := ?_, customers := ?_, saleLinks := ?_,
                            orderLinks := ?_ }⟩
      · refine (List.map_id'' ?_ _).symm
        intro txn
        have hsame : redirectAll ([] : List (Cluster Nat)) = id := rfl
        simp [moveSale, clusters, hsame]
      · exact (List.map_id'' (fun order => rfl) _).symm
      · simp
      · simp
      · simp
  | cons g groups ih =>
      have hkeep := hready.keeps g List.mem_cons_self
      obtain ⟨keeper, hkeeper, hpk⟩ := hready.there g List.mem_cons_self g.keepId hkeep
      obtain ⟨a₁, moved, hfirst, h⟩ := mergeGroup_moves hkeep hkeeper hpk
      obtain ⟨a₂, rest, hlater, h'⟩ := ih (h.ready hready)
      have hdisjoint : ∀ g' ∈ groups, ∀ k ∈ g.cluster.ids, k ∉ g'.cluster.ids := by
        intro g' hg'
        exact (List.pairwise_cons.1 hready.disjoint).1 g'.cluster (List.mem_map_of_mem hg')
      refine ⟨a₂, moved :: rest, ?_, ?_⟩
      · unfold mergeGroups
        rw [hfirst, ok_bind]
        dsimp only
        rw [hlater]
        rfl
      · refine { transactions := ?_, orders := ?_, customers := ?_, saleLinks := ?_, orderLinks := ?_ }
        · rw [h'.transactions, h.transactions, List.map_map]
          refine List.map_congr_left ?_
          intro txn _
          simp only [Function.comp_def, moveSale, Option.map_map]
          rfl
        · rw [h'.orders, h.orders, List.map_map]
          rfl
        · -- what a group makes of its keeper does not depend on the groups before
          have hrenamed : ∀ c, groups.foldl (fun c g' => renamed a₁.customers.rows g' c) c =
              groups.foldl (fun c g' => renamed a.customers.rows g' c) c := by
            intro c
            refine List.foldl_ext _ _ _ ?_
            intro c g' hg'
            rw [renamed_congr (h.anyActive (hdisjoint g' hg'))]
          rw [h'.customers, h.customers, List.filter_map, List.filter_filter, List.map_map]
          simp only [Function.comp_def, pk_renamed, List.all_cons, List.foldl_cons] at hrenamed ⊢
          rw [h.customers] at hrenamed
          simp only [hrenamed]
          congr 1
          refine List.filter_congr ?_
          intro c _
          exact Bool.and_comm _ _
        · intro link
          rw [List.flatMap_cons, List.mem_append, h.saleLinks, h'.saleLinks, h.transactions]
          constructor
          · rintro (⟨row, hrow, hEq, hcustomer, hgives⟩ | ⟨row, hrow, hEq, hcustomer, g', hg', hgives⟩)
            · exact ⟨row, hrow, hEq, hcustomer, g, List.mem_cons_self, hgives⟩
            · obtain ⟨old, hold, rfl⟩ := List.mem_map.1 hrow
              obtain ⟨k, hk, hredirect⟩ := Option.map_eq_some_iff.1 hcustomer
              rw [← hredirect] at hgives
              rw [redirect_gives (hdisjoint g' hg') hgives] at hredirect hgives
              exact ⟨old, hold, hEq, hk.trans (congrArg some hredirect), g',
                List.mem_cons_of_mem _ hg', hredirect ▸ hgives⟩
          · rintro ⟨row, hrow, hEq, hcustomer, g', hg', hgives⟩
            rcases List.mem_cons.1 hg' with rfl | hg'
            · exact Or.inl ⟨row, hrow, hEq, hcustomer, hgives⟩
            · refine Or.inr ⟨_, List.mem_map_of_mem hrow, hEq, ?_, g', hg', hgives⟩
              have hout : link.2 ∉ g.cluster.ids :=
                fun hmem => hdisjoint g' hg' _ hmem (of_decide_eq_true hgives).1
              simp [moveSale, hcustomer, redirect_not_mem hout]
        · intro link
          rw [List.flatMap_cons, List.mem_append, h.orderLinks, h'.orderLinks, h.orders]
          constructor
          · rintro (⟨row, hrow, hEq, hcustomer, hgives⟩ | ⟨row, hrow, hEq, hcustomer, g', hg', hgives⟩)
            · exact ⟨row, hrow, hEq, hcustomer, g, List.mem_cons_self, hgives⟩
            · obtain ⟨old, hold, rfl⟩ := List.mem_map.1 hrow
              have hredirect : g.cluster.redirect old.customer = link.2 := hcustomer
              rw [← hredirect] at hgives
              rw [redirect_gives (hdisjoint g' hg') hgives] at hredirect hgives
              exact ⟨old, hold, hEq, hredirect, g', List.mem_cons_of_mem _ hg', hredirect ▸ hgives⟩
          · rintro ⟨row, hrow, hEq, hcustomer, g', hg', hgives⟩
            rcases List.mem_cons.1 hg' with rfl | hg'
            · exact Or.inl ⟨row, hrow, hEq, hcustomer, hgives⟩
            · refine Or.inr ⟨_, List.mem_map_of_mem hrow, hEq, ?_, g', hg', hgives⟩
              have hout : row.customer ∉ g.cluster.ids := by
                rw [hcustomer]
                exact fun hmem => hdisjoint g' hg' _ hmem (of_decide_eq_true hgives).1
              exact (redirect_not_mem hout).trans hcustomer

/-! ## How many customers are left -/

/-- A group gives up all of its customers but one. -/
theorem length_gives {customers : List CustomerRecord} (hkeys : (customers.map fun c => c.pk).Nodup)
    {g : MergeGroup} (hkeep : g.keepId ∈ g.ids) (hnodup : g.ids.Nodup)
    (hthere : ∀ pk ∈ g.ids, ∃ c ∈ customers, c.pk = pk) :
    (customers.filter fun c => g.cluster.gives c.pk).length = g.members.length - 1 := by
  have hperm : ((customers.filter fun c => g.cluster.gives c.pk).map fun c => c.pk).Perm
      (g.ids.filter fun pk => pk != g.keepId) := by
    refine (List.perm_ext_iff_of_nodup ((List.filter_sublist.map _).nodup hkeys)
      (hnodup.filter _)).2 ?_
    intro pk
    rw [mem_removed hkeep, List.mem_map]
    constructor
    · rintro ⟨c, hc, rfl⟩
      exact (List.mem_filter.1 hc).2
    · intro hgives
      have hmem : pk ∈ g.ids := List.mem_of_mem_filter ((mem_removed hkeep).2 hgives)
      obtain ⟨c, hc, rfl⟩ := hthere pk hmem
      exact ⟨c, List.mem_filter.2 ⟨hc, hgives⟩, rfl⟩
  calc (customers.filter fun c => g.cluster.gives c.pk).length
      = ((customers.filter fun c => g.cluster.gives c.pk).map fun c => c.pk).length := by
        rw [List.length_map]
    _ = (g.ids.erase g.keepId).length := by
        rw [hperm.length_eq, hnodup.erase_eq_filter]
    _ = g.members.length - 1 := by
        rw [List.length_erase_of_mem hkeep, MergeGroup.ids, List.length_map]

theorem length_kept {customers : List CustomerRecord} (hkeys : (customers.map fun c => c.pk).Nodup)
    {groups : List MergeGroup} (hready : Ready customers groups) :
    (customers.filter fun c => groups.all fun g => !g.cluster.gives c.pk).length +
      (groups.map fun g => g.members.length - 1).sum = customers.length := by
  induction groups generalizing customers with
  | nil => simp
  | cons g groups ih =>
      obtain ⟨hfirst, hrest⟩ := List.pairwise_cons.1 hready.disjoint
      have hsplit := List.length_eq_length_filter_add (l := customers) fun c => g.cluster.gives c.pk
      rw [length_gives hkeys (hready.keeps g List.mem_cons_self) (hready.nodup g List.mem_cons_self)
        (hready.there g List.mem_cons_self)] at hsplit
      -- the other groups find their customers among those the first one leaves
      have hleft : Ready (customers.filter fun c => !g.cluster.gives c.pk) groups := by
        refine
          { keeps := fun g' hg' => hready.keeps g' (List.mem_cons_of_mem _ hg')
            nodup := fun g' hg' => hready.nodup g' (List.mem_cons_of_mem _ hg')
            there := ?_
            disjoint := hrest }
        intro g' hg' pk hpk
        obtain ⟨c, hc, rfl⟩ := hready.there g' (List.mem_cons_of_mem _ hg') pk hpk
        refine ⟨c, List.mem_filter.2 ⟨hc, ?_⟩, rfl⟩
        rw [Bool.not_eq_true']
        refine decide_eq_false ?_
        rintro ⟨hmem, -⟩
        exact hfirst g'.cluster (List.mem_map_of_mem hg') c.pk hmem (List.mem_cons_of_mem _ hpk)
      have hlater := ih ((List.filter_sublist.map _).nodup hkeys) hleft
      rw [List.filter_filter] at hlater
      rw [List.map_cons, List.sum_cons]
      have hsame : (customers.filter fun c => (g :: groups).all fun g => !g.cluster.gives c.pk) =
          customers.filter fun c => (groups.all fun g => !g.cluster.gives c.pk) &&
            !g.cluster.gives c.pk := by
        refine List.filter_congr ?_
        intro c _
        rw [List.all_cons, Bool.and_comm]
      rw [hsame]
      omega

end CustomerConsolidation
end RosarioDairy
