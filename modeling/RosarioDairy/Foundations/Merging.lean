import Mathlib.Data.List.Pairwise

/-!
# Merging — disjoint clusters of keys, each merged into one of its own

Every cluster of keys has a keeper; merging sends each key of the cluster to the keeper and leaves the
other keys alone.  Disjoint clusters can be merged one after the other without meeting each other's
keys.
-/

namespace RosarioDairy
namespace Foundations

variable {K : Type} [DecidableEq K]

/-- Keys that are merged, and the one of them that is kept. -/
structure Cluster (K : Type) where
  keep : K
  ids : List K
  keep_mem : keep ∈ ids

/-- Clusters of which no two share a key. -/
def DisjointClusters (clusters : List (Cluster K)) : Prop :=
  clusters.Pairwise fun cluster cluster' => ∀ k ∈ cluster.ids, k ∉ cluster'.ids

/-- Where the merge of one cluster sends a key. -/
def Cluster.redirect (cluster : Cluster K) (k : K) : K := if k ∈ cluster.ids then cluster.keep else k

/-- Where the merges of some clusters send a key, one after the other. -/
def redirectAll (clusters : List (Cluster K)) (k : K) : K :=
  clusters.foldl (fun k cluster => cluster.redirect k) k

/-- A key that a cluster gives up for its keeper. -/
def Cluster.gives (cluster : Cluster K) (k : K) : Bool :=
  decide (k ∈ cluster.ids ∧ k ≠ cluster.keep)

@[simp]
theorem redirectAll_nil (k : K) : redirectAll [] k = k := rfl

@[simp]
theorem redirectAll_cons (cluster : Cluster K) (clusters : List (Cluster K)) (k : K) :
    redirectAll (cluster :: clusters) k = redirectAll clusters (cluster.redirect k) := rfl

theorem redirect_mem {cluster : Cluster K} {k : K} (h : k ∈ cluster.ids) :
    cluster.redirect k = cluster.keep :=
  if_pos h

theorem redirect_not_mem {cluster : Cluster K} {k : K} (h : k ∉ cluster.ids) :
    cluster.redirect k = k :=
  if_neg h

/-- A key in no cluster stays. -/
theorem redirectAll_not_mem {clusters : List (Cluster K)} {k : K}
    (h : ∀ cluster ∈ clusters, k ∉ cluster.ids) : redirectAll clusters k = k := by
  induction clusters with
  | nil => rfl
  | cons cluster clusters ih =>
      rw [redirectAll_cons, redirect_not_mem (h cluster List.mem_cons_self)]
      exact ih fun other hother => h other (List.mem_cons_of_mem _ hother)

/-- A key of a cluster goes to the keeper of the cluster. -/
theorem redirectAll_mem {clusters : List (Cluster K)} (hdisjoint : DisjointClusters clusters)
    {cluster : Cluster K} (hcluster : cluster ∈ clusters) {k : K} (hk : k ∈ cluster.ids) :
    redirectAll clusters k = cluster.keep := by
  induction clusters with
  | nil => exact absurd hcluster List.not_mem_nil
  | cons first clusters ih =>
      obtain ⟨hfirst, hrest⟩ := List.pairwise_cons.1 hdisjoint
      rw [redirectAll_cons]
      rcases List.mem_cons.1 hcluster with rfl | hlater
      · -- no later cluster has the keeper
        rw [redirect_mem hk]
        exact redirectAll_not_mem fun other hother => hfirst other hother _ cluster.keep_mem
      · have hout : k ∉ first.ids := fun hin => hfirst cluster hlater k hin hk
        rw [redirect_not_mem hout]
        exact ih hrest hlater

/-- Redirected keys are given up by no cluster. -/
theorem gives_redirectAll {clusters : List (Cluster K)} (hdisjoint : DisjointClusters clusters)
    {cluster : Cluster K} (hcluster : cluster ∈ clusters) (k : K) :
    cluster.gives (redirectAll clusters k) = false := by
  refine decide_eq_false ?_
  rintro ⟨hmem, hne⟩
  by_cases hk : ∃ other ∈ clusters, k ∈ other.ids
  · obtain ⟨other, hother, hin⟩ := hk
    rw [redirectAll_mem hdisjoint hother hin] at hmem hne
    -- the keeper is in one cluster only, its own
    have hsame := redirectAll_mem hdisjoint hcluster hmem
    rw [redirectAll_mem hdisjoint hother other.keep_mem] at hsame
    exact hne hsame
  · rw [redirectAll_not_mem fun other hother hin => hk ⟨other, hother, hin⟩] at hmem
    exact hk ⟨cluster, hcluster, hmem⟩

end Foundations
end RosarioDairy
