import Mathlib.Order.Bounds.Defs
import RosarioDairy.Sales.Backups.ForeignKeyClosure

/-!
# Closed selection — the passes end at the foreign-key closure

What a field, a model and a pass may do to the work is said once, as `Extends`; the passes then end
because every key they count is taken from the finitely many that are referred to, and the last pass,
which counts none, has looked at every foreign key of the selection it returns.
-/

namespace RosarioDairy
namespace Backups

open Foundations

variable {M : Type} [DecidableEq M]

/-! ## What following a field does -/

/-- How many of some rows are not selected yet. -/
def remaining (rows : Finset (M × Value)) (selected : Selection M) : Nat :=
  (rows.filter fun row => row.2 ∉ selected.get row.1).card

theorem remaining_update {rows : Finset (M × Value)} {selected : Selection M} {m : M}
    {keys : Finset Value} (hrows : ∀ key ∈ keys, (m, key) ∈ rows)
    (hnew : ∀ key ∈ keys, key ∉ selected.get m) :
    remaining rows (selected.update m keys) + keys.card = remaining rows selected := by
  -- the keys that are taken, and those that stay
  have htaken : (rows.filter fun row => row.2 ∉ selected.get row.1).filter
      (fun row => row.1 = m ∧ row.2 ∈ keys) = keys.map ⟨Prod.mk m, Prod.mk_right_injective m⟩ := by
    ext ⟨model, key⟩
    simp only [Finset.mem_filter, Finset.mem_map, Function.Embedding.coeFn_mk]
    constructor
    · rintro ⟨_, rfl, hkey⟩
      exact ⟨key, hkey, rfl⟩
    · rintro ⟨key, hkey, hEq⟩
      cases hEq
      exact ⟨⟨hrows key hkey, hnew key hkey⟩, rfl, hkey⟩
  have hstay : (rows.filter fun row => row.2 ∉ selected.get row.1).filter
      (fun row => ¬(row.1 = m ∧ row.2 ∈ keys)) =
        rows.filter fun row => row.2 ∉ (selected.update m keys).get row.1 := by
    ext row
    have hmem := @Selection.mem_update M _ selected m keys row
    simp only [Selection.selectedRows, Set.mem_ofPred_eq] at hmem
    simp only [Finset.mem_filter, hmem]
    tauto
  have hsplit := Finset.card_filter_add_card_filter_not
    (s := rows.filter fun row => row.2 ∉ selected.get row.1) fun row => row.1 = m ∧ row.2 ∈ keys
  rw [htaken, hstay, Finset.card_map] at hsplit
  exact (Nat.add_comm _ _).trans hsplit

/-- What a part of a pass may do: it adds rows that are referred to, as many as it counts. -/
structure Extends (db : Database M) (referred : Finset (M × Value))
    (work work' : Selection M × Nat) : Prop where
  keeps : work.1.selectedRows ⊆ work'.1.selectedRows
  within : ∀ S, ClosedUnder db.Refers S → work.1.selectedRows ⊆ S → work'.1.selectedRows ⊆ S
  counts : remaining referred work'.1 + work'.2 = remaining referred work.1 + work.2
  grows : work.2 ≤ work'.2
  idle : work'.2 = work.2 → work'.1.selectedRows = work.1.selectedRows

namespace Extends

variable {db : Database M} {referred : Finset (M × Value)} {work work' work'' : Selection M × Nat}

theorem refl : Extends db referred work work :=
  { keeps := fun _ h => h
    within := fun _ _ h => h
    counts := rfl
    grows := Nat.le_refl _
    idle := fun _ => rfl }

theorem trans (h : Extends db referred work work') (h' : Extends db referred work' work'') :
    Extends db referred work work'' :=
  { keeps := fun _ hrow => h'.keeps (h.keeps hrow)
    within := fun S hclosed hrows => h'.within S hclosed (h.within S hclosed hrows)
    counts := h'.counts.trans h.counts
    grows := Nat.le_trans h.grows h'.grows
    idle := by
      intro hEq
      have hmid : work'.2 = work.2 := Nat.le_antisymm (hEq ▸ h'.grows) h.grows
      exact (h'.idle (hEq.trans hmid.symm)).trans (h.idle hmid) }

end Extends

section Following

variable {db : Database M} {referred : Finset (M × Value)}
  (hreferred : ∀ source target, db.Refers source target → target ∈ referred)

include hreferred

theorem extends_followField {m : M} {field : Field M}
    (hfield : field ∈ (db.options m).concreteFields) (work : Selection M × Nat) :
    Extends db referred work (followField db m work field) := by
  unfold followField
  cases hrelation : field.relation with
  | none => exact Extends.refl
  | some relation =>
      dsimp only
      have hrefers : ∀ key ∈ db.references m (work.1.get m) field.attname relation,
          ∃ key', key' ∈ work.1.get m ∧ db.Refers (m, key') (relation.model, key) := by
        intro key hkey
        obtain ⟨row, hrow, hkey', hnull, hmeets⟩ := Database.mem_references.1 hkey
        exact ⟨db.pk m row, hkey', row, hrow, rfl, field, hfield, relation, hrelation, rfl, hnull,
          hmeets⟩
      generalize hmissing : db.references m (work.1.get m) field.attname relation \
        work.1.get relation.model = missing
      have hmem : ∀ key ∈ missing,
          key ∈ db.references m (work.1.get m) field.attname relation ∧
            key ∉ work.1.get relation.model := by
        intro key hkey
        rw [← hmissing] at hkey
        exact Finset.mem_sdiff.1 hkey
      refine { keeps := ?_, within := ?_, counts := ?_, grows := Nat.le_add_right _ _, idle := ?_ }
      · intro row hrow
        exact Selection.mem_update.2 (Or.inl hrow)
      · intro S hclosed hrows row hrow
        rcases Selection.mem_update.1 hrow with hold | ⟨hmodel, hkey⟩
        · exact hrows hold
        · obtain ⟨key', hkey', hto⟩ := hrefers row.2 (hmem row.2 hkey).1
          have hrow' : row = (relation.model, row.2) := Prod.ext hmodel rfl
          rw [hrow']
          exact hclosed (hrows (show (m, key') ∈ work.1.selectedRows from hkey')) hto
      · have htake := @remaining_update M _ referred work.1 relation.model missing (by
          intro key hkey
          obtain ⟨key', _, hto⟩ := hrefers key (hmem key hkey).1
          exact hreferred _ _ hto) fun key hkey => (hmem key hkey).2
        dsimp only
        omega
      · intro hEq
        -- nothing is counted, so nothing is missing
        have hnone : missing = ∅ := Finset.card_eq_zero.1 (Nat.add_eq_left.1 hEq)
        ext row
        rw [Selection.mem_update, hnone]
        simp

theorem extends_followModel (m : M) (work : Selection M × Nat) :
    Extends db referred work (followModel db work m) := by
  unfold followModel
  by_cases hempty : work.1.get m = ∅
  · rw [if_pos hempty]
    exact Extends.refl
  · rw [if_neg hempty]
    exact foldl_extends (fun _ => Extends.refl) Extends.trans
      (fun work field hfield => extends_followField hreferred hfield work) work

theorem extends_followAll (selected : Selection M) :
    Extends db referred (selected, 0) (followAll db selected) :=
  foldl_extends (fun _ => Extends.refl) Extends.trans
    (fun work m _ => extends_followModel hreferred m work) (selected, 0)

/-! ## The last pass -/

/-- A pass that counts nothing has found every foreign key to lead to a selected row. -/
theorem closed_of_idle {selected : Selection M} (hidle : (followAll db selected).2 = 0) :
    ClosedUnder db.Refers selected.selectedRows := by
  rintro ⟨m, key⟩ hkey ⟨target, key'⟩ ⟨row, hrow, hpk, field, hfield, relation, hrelation, hmodel,
    hnull, hmeets⟩
  obtain ⟨keys, hentry, _⟩ := Selection.exists_entry hkey
  -- the pass visits the model of the row, and there the field
  have hm : m ∈ selected.entries.map Prod.fst := List.mem_map_of_mem (f := Prod.fst) hentry
  obtain ⟨before, hbefore, hafter⟩ := foldl_visits (fun _ => Extends.refl) Extends.trans
    (fun work m _ => extends_followModel hreferred m work) hm (selected, 0)
  have hcount : (followModel db before m).2 = 0 := Nat.eq_zero_of_le_zero (hidle ▸ hafter.grows)
  have hsame : before.1.selectedRows = selected.selectedRows := by
    refine hbefore.idle ?_
    exact Nat.eq_zero_of_le_zero (hcount ▸ (extends_followModel hreferred m before).grows)
  have hkeyBefore : key ∈ before.1.get m := by
    have hin : (m, key) ∈ before.1.selectedRows := hsame ▸ hkey
    exact hin
  have hfollow : followModel db before m =
      (db.options m).concreteFields.foldl (followField db m) before :=
    if_neg (Finset.ne_empty_of_mem hkeyBefore)
  rw [hfollow] at hcount
  obtain ⟨inner, hinner, hrest⟩ := foldl_visits (fun _ => Extends.refl) Extends.trans
    (fun work field hfield => extends_followField hreferred hfield work) hfield before
  have hcountField : (followField db m inner field).2 = 0 :=
    Nat.eq_zero_of_le_zero (hcount ▸ hrest.grows)
  have hinnerCount : inner.2 = 0 :=
    Nat.eq_zero_of_le_zero (hcountField ▸ (extends_followField hreferred hfield inner).grows)
  have hbeforeCount : before.2 = 0 := Nat.eq_zero_of_le_zero (hinnerCount ▸ hinner.grows)
  have hsameInner : inner.1.selectedRows = before.1.selectedRows :=
    hinner.idle (hinnerCount.trans hbeforeCount.symm)
  have hkeyInner : key ∈ inner.1.get m := by
    have hin : (m, key) ∈ inner.1.selectedRows := hsameInner ▸ hkeyBefore
    exact hin
  -- there the key it refers to is not missing
  have hmissing : db.references m (inner.1.get m) field.attname relation \
      inner.1.get relation.model = ∅ := by
    simp only [followField, hrelation] at hcountField
    exact Finset.card_eq_zero.1 (Nat.eq_zero_of_add_eq_zero_left hcountField)
  have hreference : key' ∈ db.references m (inner.1.get m) field.attname relation := by
    have hmeets' : db.Meets relation (row field.attname) key' := hmeets
    exact Database.mem_references.2 ⟨row, hrow, hpk ▸ hkeyInner, hnull, hmeets'⟩
  have htarget : key' ∈ inner.1.get relation.model :=
    Finset.sdiff_eq_empty_iff_subset.1 hmissing hreference
  have hin : (target, key') ∈ inner.1.selectedRows := by
    have hEq : relation.model = target := hmodel
    exact hEq ▸ htarget
  exact hsame ▸ hsameInner ▸ hin

end Following

end Backups
end RosarioDairy
