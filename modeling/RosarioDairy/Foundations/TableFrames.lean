import RosarioDairy.Foundations.Scan

/-!
# TableFrames — what a change of a table leaves alone

Two tables agree outside a condition when they hold the same rows among those that do not satisfy it.
An insertion, an update or a deletion of rows that satisfy the condition keeps this frame, and a scan that
stays clear of the condition does not see the change.
-/

namespace RosarioDairy
namespace Foundations

open Row

namespace Table

variable {R α : Type} [Row R] {p : R → Bool} {q q' : R → Prop} {t t' t'' : Table R}

/-! ## Frames -/

/-- The rows that do not satisfy `q` are the same, and no key is handed out again. -/
structure AgreeOutside (q : R → Prop) (t t' : Table R) : Prop where
  same : ∀ row, ¬q row → (row ∈ t'.rows ↔ row ∈ t.rows)
  next : t.next ≤ t'.next

namespace AgreeOutside

theorem refl (q : R → Prop) (t : Table R) : AgreeOutside q t t :=
  ⟨fun _ _ => Iff.rfl, le_rfl⟩

theorem trans (h : AgreeOutside q t t') (h' : AgreeOutside q t' t'') : AgreeOutside q t t'' :=
  ⟨fun row hrow => (h'.same row hrow).trans (h.same row hrow), h.next.trans h'.next⟩

theorem mono (h : AgreeOutside q t t') (hold : ∀ row ∈ t.rows, q row → q' row)
    (hnew : ∀ row ∈ t'.rows, q row → q' row) : AgreeOutside q' t t' := by
  refine ⟨?_, h.next⟩
  intro row hrow
  constructor
  · intro hmem
    exact (h.same row fun hq => hrow (hnew row hmem hq)).1 hmem
  · intro hmem
    exact (h.same row fun hq => hrow (hold row hmem hq)).2 hmem

theorem mem (h : AgreeOutside q t t') {row : R} (hrow : row ∈ t.rows) (hq : ¬q row) : row ∈ t'.rows :=
  (h.same row hq).2 hrow

theorem scan (h : AgreeOutside q t t') (hp : ∀ row, p row = true → ¬q row) : t'.scan p = t.scan p := by
  refine scan_eq_of_mem_iff ?_
  intro row
  constructor
  · rintro ⟨hrow, hsat⟩
    exact ⟨(h.same row (hp row hsat)).1 hrow, hsat⟩
  · rintro ⟨hrow, hsat⟩
    exact ⟨h.mem hrow (hp row hsat), hsat⟩

/-- The keys of rows outside the condition still lead to these rows. -/
theorem scan_keys (h : AgreeOutside q t t') (hp : ∀ row ∈ t.rows, p row = true → ¬q row) :
    (t'.scan fun row => decide (pk row ∈ (t.scan p).map pk)) = t.scan p := by
  have hkept : ∀ row ∈ t.scan p, row ∈ t'.rows := by
    intro row hrow
    obtain ⟨hold, hsat⟩ := mem_scan.1 hrow
    exact h.mem hold (hp row hold hsat)
  refine (eq_scan (List.Nodup.of_map pk (t.nodup_scan p)) (t.sorted_scan p) ?_).symm
  intro row
  constructor
  · intro hrow
    exact ⟨hkept row hrow, decide_eq_true (List.mem_map_of_mem hrow)⟩
  · rintro ⟨hrow, hkey⟩
    obtain ⟨old, hold, hpk⟩ := List.mem_map.1 (of_decide_eq_true hkey)
    rw [← t'.eq_of_pk_eq (hkept old hold) hrow hpk]
    exact hold

end AgreeOutside

theorem agreeOutside_create {mk : Nat → R} {hpk : ∀ n, pk (mk n) = n} (hnew : q (mk t.next)) :
    AgreeOutside q t (t.create mk hpk) := by
  refine ⟨?_, Nat.le_succ _⟩
  intro row hrow
  rw [rows_create, List.mem_append, List.mem_singleton]
  constructor
  · rintro (hold | rfl)
    · exact hold
    · exact absurd hnew hrow
  · exact Or.inl

theorem agreeOutside_updateWhere {f : R → R} {hpk : ∀ r, pk (f r) = pk r}
    (hold : ∀ row ∈ t.rows, p row = true → q row) (hnew : ∀ row ∈ t.rows, p row = true → q (f row)) :
    AgreeOutside q t (t.updateWhere p f hpk) := by
  refine ⟨?_, le_rfl⟩
  intro row hrow
  rw [rows_updateWhere, List.mem_map]
  constructor
  · rintro ⟨old, hmem, hrow'⟩
    by_cases hp : p old = true
    · rw [if_pos hp] at hrow'
      exact absurd (hrow' ▸ hnew old hmem hp) hrow
    · rw [if_neg hp] at hrow'
      exact hrow' ▸ hmem
  · intro hmem
    exact ⟨row, hmem, if_neg fun hp => hrow (hold row hmem hp)⟩

theorem agreeOutside_deleteWhere (h : ∀ row ∈ t.rows, p row = true → q row) :
    AgreeOutside q t (t.deleteWhere p) := by
  refine ⟨?_, le_rfl⟩
  intro row hrow
  have hrows : (t.deleteWhere p).rows = t.rows.filter fun r => !p r := rfl
  rw [hrows, List.mem_filter]
  constructor
  · exact And.left
  · intro hmem
    cases hp : p row with
    | true => exact absurd (h row hmem hp) hrow
    | false => exact ⟨hmem, rfl⟩

theorem mem_deleteWhere {row : R} : row ∈ (t.deleteWhere p).rows ↔ row ∈ t.rows ∧ p row = false := by
  have hrows : (t.deleteWhere p).rows = t.rows.filter fun r => !p r := rfl
  rw [hrows, List.mem_filter, Bool.not_eq_true']

theorem ext_rows {t t' : Table R} (hrows : t.rows = t'.rows) (hnext : t.next = t'.next) : t = t' := by
  obtain ⟨rows, next, _, _⟩ := t
  obtain ⟨rows', next', _, _⟩ := t'
  obtain rfl : rows = rows' := hrows
  obtain rfl : next = next' := hnext
  rfl

/-- A deletion that meets no row changes nothing. -/
theorem deleteWhere_eq_self (h : ∀ row ∈ t.rows, p row = false) : t.deleteWhere p = t := by
  refine ext_rows ?_ rfl
  refine List.filter_eq_self.2 ?_
  intro row hrow
  rw [h row hrow]
  rfl

/-- Nor does such an update. -/
theorem updateWhere_eq_self {f : R → R} {hpk : ∀ r, pk (f r) = pk r} (h : ∀ row ∈ t.rows, p row = false) :
    t.updateWhere p f hpk = t := by
  refine ext_rows ?_ rfl
  rw [rows_updateWhere]
  refine (List.map_congr_left ?_).trans (List.map_id _)
  intro row hrow
  rw [h row hrow]
  rfl

/-- Rows at most join the table, under new keys. -/
def Appended (t t' : Table R) : Prop := AgreeOutside (fun row => t.next ≤ pk row) t t'

namespace Appended

theorem refl (t : Table R) : Appended t t := AgreeOutside.refl _ t

theorem trans (h : Appended t t') (h' : Appended t' t'') : Appended t t'' :=
  AgreeOutside.trans h (AgreeOutside.mono h' (fun _ _ hrow => (AgreeOutside.next h).trans hrow)
    fun _ _ hrow => (AgreeOutside.next h).trans hrow)

theorem create {mk : Nat → R} {hpk : ∀ n, pk (mk n) = n} : Appended t (t.create mk hpk) :=
  agreeOutside_create (hpk t.next).ge

theorem mem (h : Appended t t') {row : R} (hrow : row ∈ t.rows) : row ∈ t'.rows :=
  AgreeOutside.mem h hrow (t.below row hrow).not_ge

theorem find (h : Appended t t') {row : R} (hrow : row ∈ t.rows) : t'.find (pk row) = some row :=
  t'.find_of_mem (h.mem hrow)

end Appended

/-! ## Rows inserted together -/

theorem scan_create {mk : Nat → R} {hpk : ∀ n, pk (mk n) = n} :
    (t.create mk hpk).scan p = t.scan p ++ [mk t.next].filter p := by
  have hbelow : ∀ row ∈ t.scan p, ∀ new ∈ [mk t.next].filter p, pk row < pk new := by
    intro row hrow new hnew
    rw [List.mem_singleton.1 (List.mem_of_mem_filter hnew), hpk]
    exact t.below row (mem_scan.1 hrow).1
  have hsingle : ([mk t.next].filter p).Sublist [mk t.next] := List.filter_sublist
  refine (eq_scan ?_ ?_ ?_).symm
  · refine List.nodup_append.2 ⟨List.Nodup.of_map pk (t.nodup_scan p),
      (List.nodup_singleton _).sublist hsingle, ?_⟩
    intro row hrow new hnew hsame
    exact absurd (congrArg pk hsame) (hbelow row hrow new hnew).ne
  · refine List.pairwise_append.2 ⟨t.sorted_scan p, (List.pairwise_singleton _ _).sublist hsingle, ?_⟩
    intro row hrow new hnew
    exact (hbelow row hrow new hnew).le
  · intro row
    rw [List.mem_append, mem_scan, List.mem_filter, rows_create, List.mem_append, or_and_right]

/-- `bulk_create`: the rows are inserted one after the other. -/
def createAll (t : Table R) (withPk : R → Nat → R) (hpk : ∀ row n, pk (withPk row n) = n)
    (rows : List R) : Table R :=
  rows.foldl (fun t row => t.create (withPk row) (hpk row)) t

section CreateAll

variable {withPk : R → Nat → R} {hpk : ∀ row n, pk (withPk row n) = n} {rows : List R}

@[simp] theorem createAll_nil : t.createAll withPk hpk [] = t := rfl

theorem createAll_cons {row : R} : t.createAll withPk hpk (row :: rows) =
    (t.create (withPk row) (hpk row)).createAll withPk hpk rows := rfl

theorem mem_createAll : ∀ {rows : List R} {t : Table R} {row : R},
    row ∈ (t.createAll withPk hpk rows).rows →
      row ∈ t.rows ∨ ∃ new ∈ rows, ∃ n, t.next ≤ n ∧ row = withPk new n
  | [], _, _, h => Or.inl h
  | first :: rows, t, row, h => by
      rw [createAll_cons] at h
      rcases mem_createAll h with hmem | ⟨new, hnew, n, hn, hrow⟩
      · rcases List.mem_append.1 hmem with hold | hfirst
        · exact Or.inl hold
        · exact Or.inr ⟨first, List.mem_cons_self, t.next, le_rfl, List.mem_singleton.1 hfirst⟩
      · exact Or.inr ⟨new, List.mem_cons_of_mem _ hnew, n, (Nat.le_succ _).trans hn, hrow⟩

theorem agreeOutside_createAll : ∀ {rows : List R} {t : Table R},
    (∀ new ∈ rows, ∀ n, t.next ≤ n → q (withPk new n)) →
      AgreeOutside q t (t.createAll withPk hpk rows)
  | [], t, _ => AgreeOutside.refl q t
  | first :: rows, t, h => by
      rw [createAll_cons]
      refine (agreeOutside_create (h first List.mem_cons_self t.next le_rfl)).trans
        (agreeOutside_createAll ?_)
      intro new hnew n hn
      exact h new (List.mem_cons_of_mem _ hnew) n ((Nat.le_succ _).trans hn)

theorem appended_createAll : t.Appended (t.createAll withPk hpk rows) :=
  agreeOutside_createAll fun new _ n hn => (hpk new n).symm ▸ hn

/-- The inserted rows follow the others, in their order, for readers that do not look at the keys. -/
theorem scan_createAll {f : R → α} (hp : ∀ row n, p (withPk row n) = p row)
    (hf : ∀ row n, f (withPk row n) = f row) : ∀ {rows : List R} {t : Table R},
    ((t.createAll withPk hpk rows).scan p).map f = (t.scan p).map f ++ (rows.filter p).map f
  | [], t => by simp
  | first :: rows, t => by
      rw [createAll_cons, scan_createAll hp hf, scan_create, List.map_append, List.append_assoc]
      congr 1
      by_cases hfirst : p first = true
      · simp [hp, hf, hfirst]
      · simp [hp, hfirst]

end CreateAll

end Table

end Foundations
end RosarioDairy
